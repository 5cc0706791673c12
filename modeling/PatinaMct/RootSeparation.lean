import PatinaMct.Delegation
import PatinaMct.Keyring
/-!
# RootSeparation — root credentials and day credentials on a strict ledger

On a ledger that was born with a strict genesis the credentials form a `Keyring`: the genesis root and the recovered
ones are its roots, the day grants its subordinates, and the replacement key of a pending recovery waits.  The three
checks that keep the ring separated stand in three places: an issuance compares its recipient with the present and the
retired roots, an initiation compares its replacement with every grant and every retired root, and the maintenance lock
keeps issuances out between the two ends of a recovery.  `RingRefines` ties the ring to the replay.
-/
namespace Mct

open Checked
open Recovery (TextSet GuardianRecoveryCommandV1 GuardianRecoveryStateV1 RecoveryClockV1 RecoveryPublicKeyV1)

/-! ## Halves -/

/-- **No half in common.** -/
def ApartHalves (a b : AdminKeyGrantV1) : Prop :=
  a.publicHalf ≠ b.publicHalf ∧ ∀ key, a.mlDsa65PublicKey = some key → b.mlDsa65PublicKey ≠ some key

instance : Std.Symm ApartHalves := ⟨fun _ _ h => ⟨h.1.symm, fun key hb ha => h.2 key ha hb⟩⟩

def SameHalves (a b : AdminKeyGrantV1) : Prop :=
  a.publicHalf = b.publicHalf ∧ a.mlDsa65PublicKey = b.mlDsa65PublicKey

theorem ApartHalves.of_same {a b c : AdminKeyGrantV1} (h : ApartHalves a b) (hsame : SameHalves c b) :
    ApartHalves a c := by
  unfold ApartHalves at h ⊢
  rw [hsame.1, hsame.2]
  exact h

def Carries (grant : AdminKeyGrantV1) (key : RecoveryPublicKeyV1) : Prop :=
  grant.publicHalf = key.ed25519 ∧ grant.mlDsa65PublicKey = some key.mlDsa65

theorem apartHalves_carries {a b : AdminKeyGrantV1} {key : RecoveryPublicKeyV1} (hb : Carries b key) :
    ApartHalves a b ↔ a.publicHalf ≠ key.ed25519 ∧ a.mlDsa65PublicKey ≠ some key.mlDsa65 := by
  unfold ApartHalves
  rw [hb.1, hb.2]
  refine and_congr_right fun _ => ⟨fun h ha => h key.mlDsa65 ha rfl, ?_⟩
  rintro h other ha ⟨⟩
  exact h ha

theorem recoveredRoot_carries (bd : Recovery.OwnerBindingV1) : Carries (recoveredRoot bd) bd.rootKey :=
  ⟨rfl, rfl⟩

/-! ## The recovery state -/

section Recovery

variable [KernelHost] {cur next : GuardianRecoveryStateV1}

/-- What an accepted action does to the root, the retired roots and the pending request. -/
inductive RootEffect (current next : GuardianRecoveryStateV1) : Recovery.GuardianRecoveryActionV1 → Prop
  | initiate (request : Recovery.RecoveryRequestV1) (approvals : List Recovery.GuardianRecoveryApprovalV1) :
      current.pending = none → Recovery.replacementReused current request.intent.replacementKey = false →
      next.binding = current.binding → next.retiredRootKeys = current.retiredRootKeys →
      next.pending.map (·.request) = some request → RootEffect current next (.initiate request approvals)
  | complete (approvals : List Recovery.GuardianRecoveryApprovalV1) (pending : Recovery.PendingGuardianRecoveryV1) :
      current.pending = some pending →
      next.binding = current.binding.withRoot (current.binding.rootGeneration + 1)
        pending.request.intent.replacementKey →
      next.retiredRootKeys = current.retiredRootKeys ++ [current.binding.rootKey] → next.pending = none →
      RootEffect current next (.complete approvals)
  | keep {action : Recovery.GuardianRecoveryActionV1} : completesRecovery action = false →
      next.binding = current.binding → next.retiredRootKeys = current.retiredRootKeys →
      (next.pending = none ∨ next.pending.map (·.request) = current.pending.map (·.request)) →
      RootEffect current next action

theorem RootEffect.of_evaluate {cmd : GuardianRecoveryCommandV1} {clock : RecoveryClockV1} {snap : String}
    (h : Recovery.evaluateGuardianRecovery (some cur) cmd clock snap = .ok next) :
    RootEffect cur next cmd.action := by
  obtain ⟨-, -, -, -, s, happly, rfl⟩ := Recovery.evaluate_some_ok h
  generalize cmd.action = act at happly ⊢
  cases act with
  | proposePolicy proposal =>
    obtain ⟨-, -, -, -, rfl⟩ := Recovery.propose_ok happly
    exact .keep rfl rfl rfl (.inr rfl)
  | cancelPolicy ownerSignature aps =>
    obtain ⟨-, edits, -, rfl⟩ := Recovery.cancelPolicy_ok happly
    exact .keep rfl rfl rfl (.inr rfl)
  | activatePolicy =>
    obtain ⟨pending, edits, -, -, -, rfl⟩ := Recovery.activate_ok happly
    exact .keep rfl rfl rfl (.inr rfl)
  | enroll enrollment => cases happly
  | initiate req aps =>
    obtain ⟨-, -, hnone, hfresh, -, deadline, rfl⟩ := Recovery.initiate_ok happly
    exact .initiate req aps hnone hfresh rfl rfl rfl
  | rebaseWait =>
    obtain ⟨-, rfl⟩ := Recovery.rebaseWait_ok happly
    refine .keep rfl rfl rfl (.inr ?_)
    show (cur.pending.map _).map _ = _
    rw [Option.map_map]
    rfl
  | issueChallenge ch =>
    obtain ⟨pending, exp, hpend, -, -, -, rfl⟩ := Recovery.issueChallenge_ok happly
    refine .keep rfl rfl rfl (.inr ?_)
    have hpend : cur.pending = some pending := hpend
    rw [hpend]
    rfl
  | cancel aps =>
    obtain ⟨-, rfl⟩ := Recovery.cancel_ok happly
    exact .keep rfl rfl rfl (.inl rfl)
  | expire =>
    obtain ⟨pending, -, -, rfl⟩ := Recovery.expire_ok happly
    exact .keep rfl rfl rfl (.inl rfl)
  | complete aps =>
    obtain ⟨pending, ch, hpend, -, -, -, -, -, rfl⟩ := Recovery.complete_ok happly
    exact .complete aps pending hpend rfl rfl rfl
  | resume expected sig =>
    obtain ⟨-, -, -, rfl⟩ := Recovery.resume_ok happly
    exact .keep rfl rfl rfl (.inr rfl)

end Recovery

/-! ## The ring of a ledger -/

variable [LedgerHost]

/-- **The grant was in force after some prefix of the ledger.** -/
def EverGranted (entries : List MctObservationLedgerEntry) (grant : AdminKeyGrantV1) : Prop :=
  ∃ (p : List MctObservationLedgerEntry) (r : AuthorityReplayV1) (id : String), p <+: entries ∧
    replayAuthorityEntries p = .ok r ∧ r.state.adminKeyGrants[id]? = some grant

variable {entries l : List MctObservationLedgerEntry} {entry : MctObservationLedgerEntry}
  {replay r r' : AuthorityReplayV1} {usedEpochs u u' : TextSet} {grant : AdminKeyGrantV1} {s : AuthorityStateV1}
  {ring : Keyring AdminKeyGrantV1}

theorem everGranted_snoc (h : Replayed (l ++ [entry]) r' u') (hgrant : EverGranted (l ++ [entry]) grant) :
    EverGranted l grant ∨ ∃ id : String, r'.state.adminKeyGrants[id]? = some grant := by
  obtain ⟨p, q, id, hp, hq, hget⟩ := hgrant
  rcases List.prefix_concat_iff.mp hp with rfl | hp
  · obtain ⟨v, hq⟩ := replayAuthorityEntries_ok.mp hq
    obtain ⟨rfl, -⟩ := h.unique hq
    exact .inr ⟨id, hget⟩
  · exact .inl ⟨p, q, id, hp, hq, hget⟩

theorem everGranted_now {id : String} (h : Replayed l r u) (hget : r.state.adminKeyGrants[id]? = some grant) :
    EverGranted l grant :=
  ⟨l, r, id, List.prefix_refl l, replayAuthorityEntries_ok.mpr ⟨u, h⟩, hget⟩

def waitingRoot (recovery : GuardianRecoveryStateV1) : Option AdminKeyGrantV1 :=
  recovery.pending.map fun pending => recoveredRoot (recovery.binding.withRoot (recovery.binding.rootGeneration + 1)
    pending.request.intent.replacementKey)

structure RecoveryRefines (recovery : GuardianRecoveryStateV1) (ring : Keyring AdminKeyGrantV1) : Prop where
  root : Carries ring.root recovery.binding.rootKey
  retired : ∀ g ∈ ring.retired, ∃ key ∈ recovery.retiredRootKeys, Carries g key
  waiting : ring.waiting = waitingRoot recovery

structure RingRefines (l : List MctObservationLedgerEntry) (r : AuthorityReplayV1) (ring : Keyring AdminKeyGrantV1) :
    Prop where
  strict : r.state.adminGenesis.isSome = true
  rootClass : ring.root.class_ = .recovery
  rootOnly : ∀ (id : String) (g : AdminKeyGrantV1), r.state.adminKeyGrants[id]? = some g → g.class_ = .recovery →
    g = ring.root
  rootHeld : ∃ id : String, r.state.adminKeyGrants[id]? = some ring.root
  daysHeld : ∀ d ∈ ring.subordinates, ∃ (id : String) (g : AdminKeyGrantV1),
    r.state.adminKeyGrants[id]? = some g ∧ SameHalves g d ∧ g.class_ = .dayToDay
  roots : ∀ g, EverGranted l g → g.class_ = .recovery → g ∈ ring.roots
  days : ∀ g, EverGranted l g → g.class_ = .dayToDay → ∃ d ∈ ring.subordinates, SameHalves g d
  recovery : ∀ recovery, r.state.guardianRecovery = some recovery → RecoveryRefines recovery ring
  unenrolled : r.state.guardianRecovery = none → ring.retired = [] ∧ ring.waiting = none

theorem RingRefines.stay (h : RingRefines l r ring) (hr : Replayed l r u) (hr' : Replayed (l ++ [entry]) r' u')
    (hgrants : r'.state.adminKeyGrants = r.state.adminKeyGrants)
    (hrecovery : r'.state.guardianRecovery = r.state.guardianRecovery)
    (hgen : r'.state.adminGenesis = r.state.adminGenesis) : RingRefines (l ++ [entry]) r' ring := by
  have hever : ∀ g, EverGranted (l ++ [entry]) g → EverGranted l g := by
    intro g hg
    rcases everGranted_snoc hr' hg with hg | ⟨id, hget⟩
    · exact hg
    · exact everGranted_now hr (hgrants ▸ hget)
  exact ⟨hgen ▸ h.strict, h.rootClass, hgrants ▸ h.rootOnly, hgrants ▸ h.rootHeld, hgrants ▸ h.daysHeld,
    fun g hg => h.roots g (hever g hg), fun g hg => h.days g (hever g hg), hrecovery ▸ h.recovery,
    hrecovery ▸ h.unenrolled⟩

theorem RingRefines.apart_recipient (h : RingRefines l r ring) {recipient : AdminKeyGrantV1}
    (hdistinct : reusesRootCredential r.state recipient = false) : ∀ root ∈ ring.roots, ApartHalves root recipient := by
  unfold reusesRootCredential at hdistinct
  rw [Bool.or_eq_false_iff] at hdistinct
  obtain ⟨hpres, hretired⟩ := hdistinct
  unfold Keyring.roots
  rw [List.forall_mem_cons]
  constructor
  · obtain ⟨id, hget⟩ := h.rootHeld
    have hroot := List.any_eq_false.mp hpres _ (Maps.mem_values.mpr ⟨id, hget⟩)
    simp only [h.rootClass, beq_self_eq_true, Bool.true_and, Bool.or_eq_true, beq_iff_eq, not_or] at hroot
    refine ⟨hroot.1, fun key hkey heq => hroot.2 ?_⟩
    rw [hkey, heq]
    simp
  · intro g hg
    cases hrecovery : r.state.guardianRecovery with
    | none =>
      rw [(h.unenrolled hrecovery).1] at hg
      cases hg
    | some recovery =>
      obtain ⟨key, hkey, hcarries⟩ := (h.recovery recovery hrecovery).retired g hg
      rw [hrecovery, Option.any_some] at hretired
      have hnot := List.any_eq_false.mp hretired key hkey
      simp only [AdminKeyGrantV1.sharesRootKey, Bool.or_eq_true, beq_iff_eq, not_or] at hnot
      have hback := (apartHalves_carries (a := recipient) hcarries).mpr ⟨fun heq => hnot.1 heq.symm,
        fun heq => hnot.2 heq.symm⟩
      exact Std.Symm.symm _ _ hback

theorem RingRefines.issue {req : AdminKeyIssueRequestV1} {t : Timestamp} {issuer : AdminKeyGrantV1}
    (h : RingRefines l r ring) (hr : Replayed l r u) (hr' : Replayed (l ++ [entry]) r' u')
    (hchk : IssueChecked r.state req t issuer) (hpend : ring.waiting = none)
    (hgrants : r'.state.adminKeyGrants = r.state.adminKeyGrants.insert req.intent.grant.grantId req.intent.grant)
    (hrecovery : r'.state.guardianRecovery = r.state.guardianRecovery)
    (hgen : r'.state.adminGenesis = r.state.adminGenesis) :
    ∃ ring', Keyring.Step ApartHalves ring ring' ∧ RingRefines (l ++ [entry]) r' ring' := by
  have hday := (evaluateAdminKeyIssuance_ok hchk.evaluated).dayToDay
  -- the grants after the issuance are the grants before it and the new one
  have hget : ∀ (id : String) (g : AdminKeyGrantV1), r'.state.adminKeyGrants[id]? = some g →
      g = req.intent.grant ∨ r.state.adminKeyGrants[id]? = some g := by
    intro id g hg
    rw [hgrants, Std.ExtTreeMap.getElem?_insert] at hg
    split at hg
    · cases hg
      exact .inl rfl
    · exact .inr hg
  have hkeep : ∀ (id : String) (g : AdminKeyGrantV1), r.state.adminKeyGrants[id]? = some g →
      r'.state.adminKeyGrants[id]? = some g := by
    rw [hgrants]
    exact Maps.lifecycle_kept.insert_new hchk.newGrant
  have hever : ∀ g, EverGranted (l ++ [entry]) g → g = req.intent.grant ∨ EverGranted l g := by
    intro g hg
    rcases everGranted_snoc hr' hg with hg | ⟨id, hg⟩
    · exact .inr hg
    · exact (hget id g hg).imp_right (everGranted_now hr)
  refine ⟨_, .add req.intent.grant hpend (h.apart_recipient hchk.distinct), ?_⟩
  refine ⟨hgen ▸ h.strict, h.rootClass, ?_, ?_, ?_, ?_, ?_, ?_, ?_⟩
  · intro id g hg hclass
    rcases hget id g hg with rfl | hg
    · rw [hday] at hclass
      cases hclass
    · exact h.rootOnly id g hg hclass
  · obtain ⟨id, hg⟩ := h.rootHeld
    exact ⟨id, hkeep id _ hg⟩
  · rw [List.forall_mem_cons]
    constructor
    · refine ⟨req.intent.grant.grantId, req.intent.grant, ?_, ⟨rfl, rfl⟩, hday⟩
      rw [hgrants]
      exact Std.ExtTreeMap.getElem?_insert_self
    · intro d hd
      obtain ⟨id, g, hg, hsame, hclass⟩ := h.daysHeld d hd
      exact ⟨id, g, hkeep id g hg, hsame, hclass⟩
  · intro g hg hclass
    rcases hever g hg with rfl | hg
    · rw [hday] at hclass
      cases hclass
    · exact h.roots g hg hclass
  · intro g hg hclass
    rcases hever g hg with rfl | hg
    · exact ⟨_, List.mem_cons_self, rfl, rfl⟩
    · obtain ⟨d, hd, hsame⟩ := h.days g hg hclass
      exact ⟨d, List.mem_cons_of_mem _ hd, hsame⟩
  · intro recovery hsome
    obtain ⟨hroot, hretired, hwait⟩ := h.recovery recovery (hrecovery ▸ hsome)
    exact ⟨hroot, hretired, hwait⟩
  · intro hnone
    exact h.unenrolled (hrecovery ▸ hnone)

section RecoverySteps

variable {cmd : GuardianRecoveryCommandV1} {clock : RecoveryClockV1} {root : AdminKeyGrantV1}
  {cur next : GuardianRecoveryStateV1}

theorem RingRefines.found (h : RingRefines l r ring) (hchk : RecoveryChecked r.state cmd clock root next) :
    root = ring.root := by
  obtain ⟨hget, hclass⟩ := hchk.stored
  exact h.rootOnly _ _ hget hclass

/-- A recovery that moves no grant moves the ring by what it does to the waiting credential. -/
theorem RingRefines.recoveryStep {ring' : Keyring AdminKeyGrantV1} (h : RingRefines l r ring) (hr : Replayed l r u)
    (hr' : Replayed (l ++ [entry]) r' u') (hstate : r'.state = { r.state with guardianRecovery := some next })
    (hroot : ring'.root = ring.root) (hretired : ring'.retired = ring.retired)
    (hsub : ring'.subordinates = ring.subordinates) (hnext : RecoveryRefines next ring') :
    RingRefines (l ++ [entry]) r' ring' := by
  have hroots : ring'.roots = ring.roots := by
    unfold Keyring.roots
    rw [hroot, hretired]
  have hever : ∀ g, EverGranted (l ++ [entry]) g → EverGranted l g := by
    intro g hg
    rcases everGranted_snoc hr' hg with hg | ⟨id, hget⟩
    · exact hg
    · rw [hstate] at hget
      exact everGranted_now hr hget
  constructor
  · rw [hstate]
    exact h.strict
  · rw [hroot]
    exact h.rootClass
  · rw [hroot, hstate]
    exact h.rootOnly
  · rw [hroot, hstate]
    exact h.rootHeld
  · rw [hsub, hstate]
    exact h.daysHeld
  · rw [hroots]
    exact fun g hg => h.roots g (hever g hg)
  · rw [hsub]
    exact fun g hg => h.days g (hever g hg)
  · intro recovery hsome
    rw [hstate] at hsome
    cases hsome
    exact hnext
  · intro hnone
    rw [hstate] at hnone
    cases hnone

theorem RingRefines.enroll {enrollment : Recovery.GuardianEnrollmentV1} (h : RingRefines l r ring)
    (hr : Replayed l r u) (hr' : Replayed (l ++ [entry]) r' u') (hact : cmd.action = .enroll enrollment)
    (hnone : r.state.guardianRecovery = none) (hchk : RecoveryChecked r.state cmd clock root next)
    (hnext : next = Recovery.enrolledState enrollment clock)
    (hstate : r'.state = { r.state with guardianRecovery := some next }) : RingRefines (l ++ [entry]) r' ring := by
  obtain ⟨hretired, hwait⟩ := h.unenrolled hnone
  refine h.recoveryStep hr hr' hstate rfl rfl rfl ⟨?_, ?_, ?_⟩
  · have hcredential := hchk.credentials
    rw [hact] at hcredential
    simp only [checkRecoveryCredentials, deny_ok, Bool.or_eq_false_iff, decide_eq_false_iff_not, not_not] at hcredential
    rw [← h.found hchk, hnext]
    exact hcredential
  · rw [hretired]
    simp
  · rw [hwait, hnext]
    rfl

theorem RingRefines.apart_replacement {req : Recovery.RecoveryRequestV1}
    {aps : List Recovery.GuardianRecoveryApprovalV1} (h : RingRefines l r ring)
    (bd : Recovery.OwnerBindingV1) (hcur : r.state.guardianRecovery = some cur)
    (hcredential : checkRecoveryCredentials r.state root (.initiate req aps) = .ok ())
    (hfresh : Recovery.replacementReused cur req.intent.replacementKey = false)
    (hkey : bd.rootKey = req.intent.replacementKey) :
    (∀ g ∈ ring.roots, ApartHalves g (recoveredRoot bd)) ∧
      ∀ d ∈ ring.subordinates, ApartHalves (recoveredRoot bd) d := by
  have hcarries : Carries (recoveredRoot bd) req.intent.replacementKey := hkey ▸ recoveredRoot_carries bd
  simp only [checkRecoveryCredentials, deny_ok, List.any_eq_false, Bool.or_eq_true, beq_iff_eq, not_or] at hcredential
  have hpres : ∀ (id : String) (g : AdminKeyGrantV1), r.state.adminKeyGrants[id]? = some g →
      ApartHalves g (recoveredRoot bd) := by
    intro id g hget
    exact (apartHalves_carries hcarries).mpr (hcredential g (Maps.mem_values.mpr ⟨id, hget⟩))
  constructor
  · unfold Keyring.roots
    rw [List.forall_mem_cons]
    constructor
    · obtain ⟨id, hget⟩ := h.rootHeld
      exact hpres id _ hget
    · intro g hg
      obtain ⟨key, hkey, hg⟩ := (h.recovery cur hcur).retired g hg
      simp only [Recovery.replacementReused, Bool.or_eq_false_iff, List.any_eq_false] at hfresh
      have hnot := hfresh.1.1.1 key hkey
      simp only [Recovery.sharesKeyHalf, Bool.or_eq_true, decide_eq_true_eq, not_or] at hnot
      refine (apartHalves_carries hcarries).mpr ⟨?_, ?_⟩
      · rw [hg.1]
        exact hnot.1
      · rw [hg.2]
        exact fun heq => hnot.2 (Option.some.inj heq)
  · intro d hd
    obtain ⟨id, g, hget, hsame, -⟩ := h.daysHeld d hd
    have hd := Std.Symm.symm _ _ (hpres id g hget)
    exact hd.of_same ⟨hsame.1.symm, hsame.2.symm⟩

theorem RingRefines.complete (h : RingRefines l r ring) (hr : Replayed l r u) (hr' : Replayed (l ++ [entry]) r' u')
    (hchk : RecoveryChecked r.state cmd clock root next) (hcur : r.state.guardianRecovery = some cur)
    (hnew : r.state.adminKeyGrants[recoveredRootId next.binding]? = none)
    (hretired : next.retiredRootKeys = cur.retiredRootKeys ++ [cur.binding.rootKey])
    (hpend : next.pending = none)
    (hstate : r'.state = { r.state.withRecoveredRoot root next.binding with guardianRecovery := some next }) :
    RingRefines (l ++ [entry]) r'
      { ring with root := recoveredRoot next.binding, retired := ring.root :: ring.retired, waiting := none } := by
  have hout := withRecoveredRoot_outlives hchk.stored.1 hchk.stored.2 hnew
  have hnewR : ∃ id : String, r'.state.adminKeyGrants[id]? = some (recoveredRoot next.binding) := by
    refine ⟨recoveredRootId next.binding, ?_⟩
    rw [hstate]
    exact Std.ExtTreeMap.getElem?_insert_self
  -- the root was stored under its own id only
  have hnotR : ∀ (id : String) (old : AdminKeyGrantV1), r.state.adminKeyGrants[id]? = some old →
      id ≠ root.grantId → old.class_ ≠ .recovery := by
    intro id old hold hne hclass
    obtain ⟨hash, hhash, -⟩ := hchk.evaluated
    obtain ⟨hstat, -⟩ := authorityStateHash_ok.mp hhash
    have hid := hstat.adminKeys (id, old) (Std.ExtTreeMap.mem_toList_iff_getElem?_eq_some.mpr hold)
    rw [h.rootOnly id old hold hclass, ← h.found hchk] at hid
    exact hne hid
  constructor
  · rw [hstate]
    exact h.strict
  · rfl
  · -- a grant after the rotation is the new root, or a revoked grant from before it that was not the root
    intro id g hg hclass
    rw [hstate] at hg
    rcases withRecoveredRoot_cases hg with ⟨-, rfl⟩ | ⟨old, hold, hne, -, rfl⟩
    · rfl
    · exact absurd hclass (hnotR id old hold hne)
  · exact hnewR
  · intro d hd
    obtain ⟨id, g, hg, hsame, hclass⟩ := h.daysHeld d hd
    rw [hstate]
    rcases hout.grants id g hg with hroot | heq | heq
    · exact absurd (hroot.symm.trans hclass) (by decide)
    · exact ⟨id, _, heq, hsame, hclass⟩
    · exact ⟨id, _, heq, hsame, hclass⟩
  · intro g hg hclass
    rcases everGranted_snoc hr' hg with hg | ⟨id, hg⟩
    · exact List.mem_cons_of_mem _ (h.roots g hg hclass)
    · rw [hstate] at hg
      rcases withRecoveredRoot_cases hg with ⟨-, rfl⟩ | ⟨old, hold, hne, -, rfl⟩
      · exact List.mem_cons_self
      · exact absurd hclass (hnotR id old hold hne)
  · intro g hg hclass
    rcases everGranted_snoc hr' hg with hg | ⟨id, hg⟩
    · exact h.days g hg hclass
    · rw [hstate] at hg
      rcases withRecoveredRoot_cases hg with ⟨-, rfl⟩ | ⟨old, hold, -, -, rfl⟩
      · cases hclass
      · exact h.days old (everGranted_now hr hold) hclass
  · intro recovery hsome
    rw [hstate] at hsome
    cases hsome
    obtain ⟨hroot, hold, -⟩ := h.recovery cur hcur
    refine ⟨recoveredRoot_carries next.binding, ?_, ?_⟩
    · rw [hretired, List.forall_mem_cons]
      refine ⟨⟨cur.binding.rootKey, by simp, hroot⟩, ?_⟩
      intro g hg
      obtain ⟨key, hkey, hcarries⟩ := hold g hg
      exact ⟨key, List.mem_append_left _ hkey, hcarries⟩
    · unfold waitingRoot
      rw [hpend]
      rfl
  · intro hnone
    rw [hstate] at hnone
    cases hnone

theorem RingRefines.recover (h : RingRefines l r ring) (hr : Replayed l r u) (hr' : Replayed (l ++ [entry]) r' u')
    (happ : applyGuardianRecovery r.state cmd clock = .ok r'.state) :
    ∃ ring', Keyring.Step ApartHalves ring ring' ∧ RingRefines (l ++ [entry]) r' ring' := by
  obtain ⟨root, next, _, hchk, hnew, -, hstate⟩ := applyGuardianRecovery_ok.mp happ
  obtain ⟨hash, -, heval⟩ := hchk.evaluated
  unfold AuthorityStateV1.recovered at hstate
  cases hcur : r.state.guardianRecovery with
  | none =>
    rw [hcur] at heval
    obtain ⟨enrollment, hact, -, hnext⟩ := Recovery.evaluate_none_ok heval
    have hkeep : completesRecovery cmd.action = false := by rw [hact]; rfl
    rw [hkeep] at hstate
    exact ⟨ring, .stay, h.enroll hr hr' hact hcur hchk hnext hstate⟩
  | some cur =>
    rw [hcur] at heval
    have heff := RootEffect.of_evaluate heval
    obtain ⟨hroot, hretired, hwait⟩ := h.recovery cur hcur
    generalize hact : cmd.action = act at heff
    cases heff with
    | initiate req aps hnone hfresh hbin hkeys hreq =>
      rw [hact] at hstate
      have hcredential := hchk.credentials
      rw [hact] at hcredential
      obtain ⟨hroots, hsub⟩ := h.apart_replacement (cur.binding.withRoot
        (cur.binding.rootGeneration + 1) req.intent.replacementKey) hcur hcredential hfresh rfl
      refine ⟨_, .wait _ ?_ hroots hsub, h.recoveryStep hr hr' hstate rfl rfl rfl ⟨?_, ?_, ?_⟩⟩
      · rw [hwait]
        unfold waitingRoot
        rw [hnone]
        rfl
      · rw [hbin]
        exact hroot
      · rw [hkeys]
        exact hretired
      · obtain ⟨pending, hpend, rfl⟩ := Option.map_eq_some_iff.mp hreq
        unfold waitingRoot
        rw [hbin, hpend]
        rfl
    | complete aps pending hpend hbin hkeys hdone =>
      rw [hact] at hstate hnew
      refine ⟨_, .rotate (recoveredRoot next.binding) ?_, h.complete hr hr' hchk hcur (hnew rfl) hkeys hdone hstate⟩
      rw [hwait]
      unfold waitingRoot
      rw [hpend, hbin]
      rfl
    | keep hinc hbin hkeys hpend =>
      rw [hact, hinc] at hstate
      rcases hpend with hnone | hsame
      · refine ⟨_, .drop, h.recoveryStep hr hr' hstate rfl rfl rfl ⟨hbin ▸ hroot, hkeys ▸ hretired, ?_⟩⟩
        unfold waitingRoot
        rw [hnone]
        rfl
      · refine ⟨ring, .stay, h.recoveryStep hr hr' hstate rfl rfl rfl ⟨hbin ▸ hroot, hkeys ▸ hretired, ?_⟩⟩
        have hmap : ∀ recovery : GuardianRecoveryStateV1, waitingRoot recovery =
            (recovery.pending.map (·.request)).map fun req => recoveredRoot (recovery.binding.withRoot
              (recovery.binding.rootGeneration + 1) req.intent.replacementKey) := by
          intro recovery
          rw [Option.map_map]
          rfl
        rw [hwait, hmap, hmap, hsame, hbin]

end RecoverySteps

theorem StateChecked.maintenance {recovery : GuardianRecoveryStateV1} (h : StateChecked s)
    (hrecovery : s.guardianRecovery = some recovery) (hloc : recovery.maintenance = false) :
    recovery.pending = none := by
  have hguardian := h.guardian
  simp only [validateGuardianState, hrecovery, bind_ok, exists_unit, deny_ok, Bool.or_eq_false_iff,
    Bool.and_eq_false_iff, Bool.not_eq_eq_eq_not, Bool.not_false, Option.isSome_eq_false_iff,
    Option.isNone_iff_eq_none, hloc] at hguardian
  tauto

/-- **Every accepted entry after the birth is a step of the ring.** -/
theorem RingRefines.step (h : RingRefines l r ring) (hr : Replayed l r u) (hr' : Replayed (l ++ [entry]) r' u')
    (hstep : AuthorityStep r entry r'.state (factOf entry)) :
    ∃ ring', Keyring.Step ApartHalves ring ring' ∧ RingRefines (l ++ [entry]) r' ring' := by
  have hgen : r.state.adminGenesis ≠ none := by
    intro hnone
    have := h.strict
    rw [hnone] at this
    cases this
  generalize factOf entry = fact at hstep
  cases hstep with
  | plain hstate => exact ⟨ring, .stay, h.stay hr hr' (by rw [hstate]) (by rw [hstate]) (by rw [hstate])⟩
  | passkey fact next _ hstate =>
    exact ⟨ring, .stay, h.stay hr hr' (by rw [hstate]) (by rw [hstate]) (by rw [hstate])⟩
  | genesis fact _ hempty _ _ =>
    rw [hempty] at hgen
    exact absurd rfl hgen
  | epoch fact _ _ hstate => exact ⟨ring, .stay, h.stay hr hr' (by rw [hstate]) (by rw [hstate]) (by rw [hstate])⟩
  | mutation fact hvalid =>
    obtain ⟨_, _, _, _, -, -, hhash, -, -, -, happ, -⟩ := validateAuthorityMutationFact_ok.mp hvalid
    obtain ⟨-, ⟨req, t, -, hissue⟩ | ⟨cmd, clock, -, hrecovery⟩ | ⟨-, -, -, hnone, -⟩⟩ :=
      applyAuthorityChanges_ok happ
    · obtain ⟨issuer, hchk, hstate⟩ := applyAdminKeyIssue_ok hissue
      have hpend : ring.waiting = none := by
        cases hrecovery : r.state.guardianRecovery with
        | none => exact (h.unenrolled hrecovery).2
        | some recovery =>
          obtain ⟨hstat, -⟩ := authorityStateHash_ok.mp hhash
          have hloc := hchk.unlocked recovery hrecovery
          rw [(h.recovery recovery hrecovery).waiting]
          unfold waitingRoot
          rw [hstat.maintenance hrecovery hloc]
          rfl
      exact h.issue hr hr' hchk hpend (by rw [hstate]) (by rw [hstate]) (by rw [hstate])
    · exact h.recover hr hr' hrecovery
    · exact absurd hnone hgen
  | «import» fact hvalid _ _ _ =>
    obtain ⟨_, _, _, huntyped, -⟩ := validateLegacyImportFact_ok.mp hvalid
    simp only [AuthorityStateV1.typedAuthority, h.strict, Bool.or_true, Bool.true_or, Bool.true_eq_false] at huntyped

/-! ## Birth -/

theorem Replayed.empty_of_no_fact (h : Replayed l r u) (hnone : ∀ entry ∈ l, factOf entry = none) :
    r.state = .empty := by
  refine h.induction (fun l r _ => (∀ entry ∈ l, factOf entry = none) → r.state = .empty) (fun _ => rfl) ?_ hnone
  intro l entry r u r' u' _ ih hfold hnone
  have hstep := (foldAuthorityEntry_step hfold).1
  rw [hnone entry (by simp)] at hstep
  obtain ⟨hstate⟩ := hstep
  rw [hstate]
  exact ih fun e he => hnone e (List.mem_append_left _ he)

theorem RingRefines.birth {fact : AdminGenesisFactV1} (hr' : Replayed (l ++ [entry]) r' u')
    (hnone : ∀ entry ∈ l, factOf entry = none) (hfact : factOf entry = some (.adminGenesis fact)) :
    RingRefines (l ++ [entry]) r' ⟨fact.request.intent.root, [], [], none⟩ := by
  obtain ⟨r, u, hr, hfold⟩ := replayed_snoc hr'
  have hstep := (foldAuthorityEntry_step hfold).1
  rw [hfact] at hstep
  obtain ⟨⟩ | ⟨⟩ | ⟨_, hvalid, hempty, -, hstate⟩ := hstep
  have hclass := (AdminGenesisRequestV1.validate_root hvalid).2.1
  have hgrants : ∀ (id : String) (g : AdminKeyGrantV1), r'.state.adminKeyGrants[id]? = some g →
      g = fact.request.intent.root := by
    intro id g hg
    rw [hstate] at hg
    unfold AuthorityReplayV1.afterGenesis at hg
    simp only [hempty, Std.ExtTreeMap.getElem?_insert] at hg
    split at hg
    · cases hg
      rfl
    · cases hg
  -- nothing was granted before the birth
  have hnever : ∀ g, ¬ EverGranted l g := by
    rintro g ⟨p, q, id, hp, hq, hget⟩
    obtain ⟨v, hq⟩ := replayAuthorityEntries_ok.mp hq
    rw [hq.empty_of_no_fact fun e he => hnone e (hp.subset he)] at hget
    cases hget
  have hever : ∀ g, EverGranted (l ++ [entry]) g → g = fact.request.intent.root := by
    intro g hg
    rcases everGranted_snoc hr' hg with hg | ⟨id, hg⟩
    · exact absurd hg (hnever g)
    · exact hgrants id g hg
  refine ⟨by rw [hstate]; rfl, hclass, fun id g hg _ => hgrants id g hg, ?_, by simp, ?_, ?_, ?_, fun _ => ⟨rfl, rfl⟩⟩
  · refine ⟨fact.request.intent.root.grantId, ?_⟩
    rw [hstate]
    exact Std.ExtTreeMap.getElem?_insert_self
  · intro g hg _
    rw [hever g hg]
    exact List.mem_cons_self
  · intro g hg hday
    rw [hever g hg, hclass] at hday
    cases hday
  · intro recovery hsome
    rw [hstate] at hsome
    unfold AuthorityReplayV1.afterGenesis at hsome
    simp only [hempty] at hsome
    cases hsome

/-- **The credentials of a strict ledger form a separated ring.** -/
theorem Replayed.separatedRing {fact : AdminGenesisFactV1} (h : Replayed entries replay usedEpochs)
    (hborn : entries.findSome? factOf = some (.adminGenesis fact)) :
    ∃ ring, Keyring.Separated ApartHalves ring ∧ RingRefines entries replay ring := by
  refine h.induction (fun l r _ => l.findSome? factOf = some (.adminGenesis fact) →
    ∃ ring, Keyring.Separated ApartHalves ring ∧ RingRefines l r ring) ?_ ?_ hborn
  · intro hnil
    cases hnil
  · intro l entry r u r' u' hr ih hfold hborn
    have hr' := hr.snoc hfold
    rw [List.findSome?_append] at hborn
    cases hfirst : l.findSome? factOf with
    | some first =>
      rw [hfirst] at hborn
      obtain ⟨ring, hsep, href⟩ := ih (hfirst.trans hborn)
      obtain ⟨ring', hstep, href'⟩ := href.step hr hr' (foldAuthorityEntry_step hfold).1
      exact ⟨ring', hsep.step hstep, href'⟩
    | none =>
      rw [hfirst, Option.none_or, List.findSome?_singleton] at hborn
      exact ⟨_, Keyring.separated_root _, RingRefines.birth hr' (List.findSome?_eq_none_iff.mp hfirst) hborn⟩

/-- **Root credentials and day credentials never mix**, in the ledger `entries`. -/
structure CredentialsSeparate (entries : List MctObservationLedgerEntry) : Prop where
  /-- No half of a root is ever a half of a day grant. -/
  rootsAndDays : ∀ root day, EverGranted entries root → EverGranted entries day → root.class_ = .recovery →
    day.class_ = .dayToDay → ApartHalves root day
  /-- Two roots differ in both halves. -/
  roots : ∀ root root', EverGranted entries root → EverGranted entries root' → root.class_ = .recovery →
    root'.class_ = .recovery → root ≠ root' → ApartHalves root root'

/-- **On a ledger whose first fact is a strict genesis, root and day credentials never mix and no root comes back.** -/
theorem strict_credentials_separate {fact : AdminGenesisFactV1} (h : replayAuthorityEntries entries = .ok replay)
    (hborn : entries.findSome? factOf = some (.adminGenesis fact)) : CredentialsSeparate entries := by
  obtain ⟨u, h⟩ := replayAuthorityEntries_ok.mp h
  obtain ⟨ring, hsep, href⟩ := h.separatedRing hborn
  constructor
  · intro root day hroot hday hrootC hdayC
    obtain ⟨d, hd, hsame⟩ := href.days day hday hdayC
    exact (hsep.subordinates root (href.roots root hroot hrootC) d hd).of_same hsame
  · intro root root' hroot hroot' hclass hclass' hne
    exact hsep.roots_apart (href.roots root hroot hclass) (href.roots root' hroot' hclass') hne

end Mct

namespace Mct.AdminSample

theorem workedLedger_born : workedLedger.findSome? factOf = some (.adminGenesis birth) := by
  have hbirth : factOf (Sample.nextEntry [] birth.observation (Recovery.Sample.second 0)) = some (.adminGenesis birth) :=
    (factOf_encoded strictHost_serde rfl).trans (ofBody_genesis strictHost_serde birth)
  show (_ :: _ : List MctObservationLedgerEntry).findSome? factOf = _
  rw [List.findSome?_cons, hbirth]

/-- **The root and the day keys of the strict ledger are apart.** -/
theorem strict_credentials_separate_worked : ∃ replay, replayAuthorityEntries workedLedger = .ok replay ∧
    workedLedger.findSome? factOf = some (.adminGenesis birth) ∧ EverGranted workedLedger strictRoot ∧
    EverGranted workedLedger worker ∧ CredentialsSeparate workedLedger := by
  obtain ⟨replay, h⟩ := workedLedger_replays
  refine ⟨replay, h.accepted, workedLedger_born, ?_, ?_, strict_credentials_separate h.accepted workedLedger_born⟩
  · refine ⟨workedLedger, replay, "root", List.prefix_rfl, h.accepted, ?_⟩
    rw [h.state]
    rfl
  · refine ⟨workedLedger, replay, "worker", List.prefix_rfl, h.accepted, ?_⟩
    rw [h.state]
    rfl

end Mct.AdminSample
