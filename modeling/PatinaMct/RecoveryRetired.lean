import PatinaMct.RecoveryPolicyChange
/-!
# RecoveryRetired — which keys can come back

A root that a `complete` replaced is retired, and so are the keys of a roster that an `activatePolicy` replaced.  A new
root is checked against both lists, and `KeysKept` carries that check from the `initiate` to the `complete`.  A roster
edit is checked against the genesis key and the current root only: a retired root can come back as the key of a guardian
or of its owner.  The retired roots stay out of every key in force exactly in the runs that activate no such edit.
-/
namespace Mct
namespace Recovery

section

variable [KernelHost]

/-! ## Keys of a state -/

def ApartFrom (key : RecoveryPublicKeyV1) (keys : List RecoveryPublicKeyV1) : Prop :=
  ∀ other ∈ keys, sharesKeyHalf other key = false

/-- The guardian keys a state knows: those in force and those of earlier rosters. -/
def GuardianRecoveryStateV1.knownGuardianKeys (state : GuardianRecoveryStateV1) : List RecoveryPublicKeyV1 :=
  rosterKeys state.appointments ++ state.retiredGuardianKeys

variable {key : RecoveryPublicKeyV1} {keys : List RecoveryPublicKeyV1}

omit [KernelHost] in
theorem ApartFrom.append {keys' : List RecoveryPublicKeyV1} (h : ApartFrom key keys)
    (h' : ApartFrom key keys') : ApartFrom key (keys ++ keys') :=
  List.forall_mem_append.2 ⟨h, h'⟩

omit [KernelHost] in
theorem mem_retireKeys {retired : List RecoveryPublicKeyV1} :
    key ∈ retireKeys retired keys ↔ key ∈ retired ∨ key ∈ keys := by
  unfold retireKeys
  induction keys generalizing retired with
  | nil => simp
  | cons first rest ih =>
    rw [List.foldl_cons, ih]
    split
    · rename_i hseen
      have hseen : first ∈ retired := by simpa using hseen
      grind
    · grind

variable {s s' : GuardianRecoveryStateV1}

omit [KernelHost] in
theorem SameRoster.appointments (h : SameRoster s s') :
    s'.appointments = s.appointments := by
  rw [GuardianRecoveryStateV1.appointments, h.guardians, h.bindings]
  rfl

omit [KernelHost] in
theorem mem_rosterKeys_split (h : key ∈ rosterKeys s.appointments) :
    key ∈ s.policy.guardians.toList.map (·.signingKey) ++ s.guardianBindings.toList.map (·.rootKey) := by
  obtain ⟨item, hitem, rfl | rfl⟩ := mem_rosterKeys h
  · exact List.mem_append_left _ (List.mem_map_of_mem (List.of_mem_zip hitem).1)
  · exact List.mem_append_right _ (List.mem_map_of_mem (List.of_mem_zip hitem).2)

variable {next : GuardianRecoveryStateV1} {revision : Nat} {now : RecoveryClockV1} {snap : String}
  {newTenure : Bool} {act : GuardianRecoveryActionV1}

theorem knownGuardianKeys_of_applyAction
    (h : applyAction s { s with revision } now snap newTenure act = .ok next) :
    s.knownGuardianKeys ⊆ next.knownGuardianKeys := by
  rcases roster_of_applyAction h with rfl | ⟨hsame, hretired⟩
  · obtain ⟨pending, edits, _, _, hedits, rfl⟩ := activate_ok h
    have hedits : s.policyEdits = some edits := hedits
    refine fun key hkey => List.mem_append_right _ (mem_retireKeys.2 ?_)
    rcases List.mem_append.1 hkey with hroster | hretired
    · exact .inr (mem_rosterKeys_split hroster)
    · rw [GuardianRecoveryStateV1.retiredGuardianKeys, hedits] at hretired
      exact .inl hretired
  · rw [GuardianRecoveryStateV1.knownGuardianKeys, GuardianRecoveryStateV1.knownGuardianKeys, hsame.appointments, hretired]
    exact fun _ => id

/-! ## A pending replacement -/

/-- **The key a pending recovery would install is still unused.** -/
def ReplacementUnused (s : GuardianRecoveryStateV1) : Prop :=
  ∀ p, s.pending = some p → replacementReused s p.request.intent.replacementKey = false

omit [KernelHost] in
theorem replacementReused_rebased {clock : RecoveryClockV1} :
    replacementReused (rebased s clock) key = replacementReused s key := by
  simp only [replacementReused, rebased_guardianBindings]
  simp only [rebased]
  cases s.policyEdits <;> rfl

/-- While a recovery is pending no roster edit can be, so nothing the check looks at changes. -/
theorem ReplacementUnused.of_applyAction (c : Consistent s) (f : ReplacementUnused s)
    (h : applyAction s { s with revision } now snap newTenure act = .ok next) : ReplacementUnused next := by
  intro p hp
  cases act with
  | proposePolicy proposal =>
    obtain ⟨_, hnone, _, _, rfl⟩ := propose_ok h
    cases hnone.symm.trans hp
  | cancelPolicy ownerSignature aps =>
    obtain ⟨hedit, _, _, rfl⟩ := cancelPolicy_ok h
    obtain ⟨edit, hedit⟩ := Option.isSome_iff_exists.1 hedit
    cases (c.edit edit hedit).2.1.symm.trans hp
  | activatePolicy =>
    obtain ⟨edit, _, hedit, _, _, rfl⟩ := activate_ok h
    cases (c.edit edit hedit).2.1.symm.trans hp
  | enroll enrollment => cases h
  | initiate req aps =>
    obtain ⟨_, _, _, hunused, _, _, rfl⟩ := initiate_ok h
    cases hp
    exact hunused
  | rebaseWait =>
    obtain ⟨_, rfl⟩ := rebaseWait_ok h
    obtain ⟨old, hold, rfl⟩ := Option.map_eq_some_iff.1 hp
    rw [replacementReused_rebased]
    exact f old hold
  | issueChallenge ch =>
    obtain ⟨old, _, hold, _, _, _, rfl⟩ := issueChallenge_ok h
    cases hp
    exact f old hold
  | cancel aps => obtain ⟨_, rfl⟩ := cancel_ok h; cases hp
  | expire => obtain ⟨_, _, _, rfl⟩ := expire_ok h; cases hp
  | complete aps => obtain ⟨_, _, _, _, _, _, _, _, rfl⟩ := complete_ok h; cases hp
  | resume expected sig =>
    obtain ⟨hnone, _, _, rfl⟩ := resume_ok h
    cases hnone.symm.trans hp

variable {approvals : List GuardianRecoveryApprovalV1}

/-- **The root a `complete` installs** is apart from the genesis key, from every guardian key the state knows and from
every root before it. -/
theorem complete_installs (c : Consistent s) (f : ReplacementUnused s)
    (h : complete { s with revision } approvals now = .ok next) :
    sharesKeyHalf next.enrollment.genesis.publicKey next.binding.rootKey = false ∧
      ApartFrom next.binding.rootKey s.knownGuardianKeys ∧
      next.retiredRootKeys = s.retiredRootKeys ++ [s.binding.rootKey] ∧
      ApartFrom next.binding.rootKey next.retiredRootKeys := by
  obtain ⟨pending, ch, hp, _, _, _, _, ⟨_, hquorum⟩, rfl⟩ := complete_ok h
  obtain ⟨_, hintent, _⟩ := verifyRecoveryQuorum_ok hquorum
  obtain ⟨_, _, hroot, hguardians⟩ := validateIntentPolicy_ok hintent
  have hunused := f pending hp
  simp only [replacementReused, Bool.or_eq_false_iff, List.any_eq_false, Bool.not_eq_true] at hunused
  obtain ⟨⟨⟨hroots, hgen⟩, hown⟩, hretired⟩ := hunused
  have htarget : s.policy.target = s.binding := c.target.symm
  refine ⟨hgen, ?_, rfl, ?_⟩
  · refine ApartFrom.append (fun key hkey => ?_) ?_
    · obtain ⟨item, hitem, rfl | rfl⟩ := mem_rosterKeys hkey
      · rw [sharesKeyHalf_comm]
        exact hguardians _ (List.of_mem_zip hitem).1
      · exact hown _ (List.of_mem_zip hitem).2
    · unfold GuardianRecoveryStateV1.retiredGuardianKeys
      cases hedits : s.policyEdits with
      | none => exact fun key hkey => absurd hkey (by simp)
      | some edits =>
        simp only [hedits, Option.any_some, List.any_eq_false, Bool.not_eq_true] at hretired
        exact hretired
  · refine ApartFrom.append hroots (List.forall_mem_singleton.2 ?_)
    rw [sharesKeyHalf_comm, ← htarget]
    exact hroot

/-! ## Whole runs -/

/-- **What a run keeps of its keys**: a pending replacement is unused, the root is apart from the roots before it, and
every guardian key that was ever in force is still known. -/
structure KeysKept (h : List Step) (s : GuardianRecoveryStateV1) : Prop where
  unused : ReplacementUnused s
  root : ApartFrom s.binding.rootKey s.retiredRootKeys
  known : ∀ x ∈ h, ∀ q, x.post = some q → rosterKeys q.appointments ⊆ s.knownGuardianKeys

variable {h : List Step} {o : Option GuardianRecoveryStateV1}

theorem keysKept_of_run (run : RecoveryRun h o) :
    (o = none → h = []) ∧ ∀ s, o = some s → KeysKept h s := by
  refine run.history (fun h o => (o = none → h = []) ∧ ∀ s, o = some s → KeysKept h s) (by simp) ?_
  intro h o attempt o' before ih hstep
  obtain ⟨s', rfl, heval⟩ := recoveryStep_ok hstep
  refine ⟨by simp, ?_⟩
  rintro _ ⟨⟩
  cases o with
  | none =>
    obtain ⟨enrollment, _, _, rfl⟩ := evaluate_none_ok heval
    rw [ih.1 rfl]
    refine ⟨?_, fun key hkey => absurd hkey (List.not_mem_nil), List.forall_mem_singleton.2 ?_⟩
    · rintro p ⟨⟩
    · rintro q ⟨⟩
      exact List.subset_append_left _ _
  | some s =>
    obtain ⟨_, _, _, _, next, hnext, rfl⟩ := evaluate_some_ok heval
    have c : Consistent s := consistent_of_run before s rfl
    obtain ⟨hunused, hroot, hknown⟩ := ih.2 s rfl
    have hunused' : ReplacementUnused next := hunused.of_applyAction c hnext
    have hkeys : s.knownGuardianKeys ⊆ next.knownGuardianKeys := knownGuardianKeys_of_applyAction hnext
    refine ⟨hunused', ?_, List.forall_mem_append.2 ⟨fun x hx q hq => ?_,
      List.forall_mem_singleton.2 ?_⟩⟩
    · rcases root_of_applyAction hnext with ⟨approvals, hact⟩ | hkept
      · rw [hact] at hnext
        exact (complete_installs c hunused hnext).2.2.2
      · show ApartFrom next.binding.rootKey next.retiredRootKeys
        rw [hkept.binding, hkept.retired]
        exact hroot
    · exact List.Subset.trans (hknown x hx q hq) hkeys
    · rintro q ⟨⟩
      exact List.subset_append_left _ _

/-- **The keys of a state are apart from its retired roots**: the root in force and every key of the roster. -/
structure RetiredApart (s : GuardianRecoveryStateV1) : Prop where
  root : ApartFrom s.binding.rootKey s.retiredRootKeys
  roster : ∀ key ∈ rosterKeys s.appointments, ApartFrom key s.retiredRootKeys

/-- **Retired credentials stay retired** in a history: every state keeps its retired roots out of the keys in force, and
a root that a `complete` installs is apart from the genesis key and from the keys of every roster before it. -/
structure RetiredStayRetired (h : List Step) : Prop where
  states : ∀ x ∈ h, ∀ s, x.post = some s → RetiredApart s
  installed : ∀ l x r approvals s, h = l ++ x :: r → action x = .complete approvals → x.post = some s →
    sharesKeyHalf s.enrollment.genesis.publicKey s.binding.rootKey = false ∧
      ∀ y ∈ l, ∀ q, y.post = some q → ApartFrom s.binding.rootKey (rosterKeys q.appointments)

/-- **The edit that the step activates appoints no key of a retired root.**  `validate_bindings` does not look at them. -/
def AppointsUnretired (x : Step) : Prop :=
  action x = .activatePolicy → ∀ s p, x.pre = some s → s.pendingPolicyEdit = some p →
    ∀ key ∈ rosterKeys p.edit.appointments, ApartFrom key s.retiredRootKeys

theorem installed_of_run {l r : List Step} {x : Step} (run : RecoveryRun h o)
    (hx : h = l ++ x :: r) (hact : action x = .complete approvals) (hpost : x.post = some s') :
    sharesKeyHalf s'.enrollment.genesis.publicKey s'.binding.rootKey = false ∧
      ∀ y ∈ l, ∀ q, y.post = some q → ApartFrom s'.binding.rootKey (rosterKeys q.appointments) := by
  obtain ⟨before, hstep⟩ := run.split hx
  obtain ⟨_, hs', heval⟩ := recoveryStep_ok hstep
  cases hpost.symm.trans hs'
  cases hpre : x.pre with
  | none =>
    rw [hpre] at heval
    obtain ⟨_, henrolled, _⟩ := evaluate_none_ok heval
    cases henrolled.symm.trans hact
  | some s =>
    rw [hpre] at heval before
    obtain ⟨_, _, _, _, next, hnext, rfl⟩ := evaluate_some_ok heval
    rw [show x.input.command.action = .complete approvals from hact] at hnext
    have c : Consistent s := consistent_of_run before s rfl
    have kept := (keysKept_of_run before).2 s rfl
    obtain ⟨hgen, hknown, -⟩ := complete_installs c kept.unused hnext
    exact ⟨hgen, fun y hy q hq key hkey => hknown key (kept.known y hy q hq hkey)⟩

theorem Consistent.roster_apart (c : Consistent s) :
    ∀ key ∈ rosterKeys s.appointments, sharesKeyHalf s.binding.rootKey key = false := by
  obtain ⟨_, _, hclash⟩ := validateBindings_ok.1 c.bindings
  rw [List.pairwise_cons, List.pairwise_cons] at hclash
  exact hclash.2.1

/-- **One step**: the roster stays apart from the retired roots unless the step appoints one of them. -/
theorem roster_apart_of_step {x : Step} (c : Consistent s) (hpre : x.pre = some s)
    (hpost : x.post = some s') (hstep : recoveryStep x.pre x.input = .ok x.post) (hx : AppointsUnretired x)
    (h : ∀ key ∈ rosterKeys s.appointments, ApartFrom key s.retiredRootKeys) :
    ∀ key ∈ rosterKeys s'.appointments, ApartFrom key s'.retiredRootKeys := by
  rw [hpre, hpost] at hstep
  obtain ⟨_, hs', heval⟩ := recoveryStep_ok hstep
  cases hs'
  obtain ⟨_, _, _, _, next, hnext, rfl⟩ := evaluate_some_ok heval
  rcases roster_of_applyAction hnext with hact | ⟨hsame, _⟩
  · rw [hact] at hnext
    obtain ⟨pending, _, hp, _, _, rfl⟩ := activate_ok hnext
    exact hx hact s pending hpre hp
  · show ∀ key ∈ rosterKeys next.appointments, ApartFrom key next.retiredRootKeys
    rw [hsame.appointments]
    intro key hkey
    rcases root_of_applyAction hnext with ⟨approvals, hact⟩ | hkept
    · -- the root that retires was apart from the roster while it was in force
      rw [hact] at hnext
      obtain ⟨_, _, _, _, _, _, _, _, rfl⟩ := complete_ok hnext
      exact (h key hkey).append (List.forall_mem_singleton.2 (c.roster_apart key hkey))
    · rw [hkept.retired]
      exact h key hkey

/-- **A run that appoints no retired root keeps the rosters apart from them.** -/
theorem roster_apart_of_run (run : RecoveryRun h o) :
    (∀ x ∈ h, AppointsUnretired x) → ∀ s, o = some s →
      ∀ key ∈ rosterKeys s.appointments, ApartFrom key s.retiredRootKeys := by
  refine run.history (fun h o => (∀ x ∈ h, AppointsUnretired x) → ∀ s, o = some s →
    ∀ key ∈ rosterKeys s.appointments, ApartFrom key s.retiredRootKeys) (by simp) ?_
  intro h o att o' before ih hstep happoints s' hs'
  obtain ⟨hbefore, hlast⟩ := List.forall_mem_append.1 happoints
  cases o with
  | none =>
    obtain ⟨_, rfl, heval⟩ := recoveryStep_ok hstep
    cases hs'
    obtain ⟨enrollment, _, _, rfl⟩ := evaluate_none_ok heval
    exact fun key _ other hother => absurd hother List.not_mem_nil
  | some s =>
    exact roster_apart_of_step (x := ⟨some s, att, o'⟩) (consistent_of_run before s rfl) rfl hs' hstep
      (hlast _ List.mem_cons_self) (ih hbefore s rfl)

/-- **When retired credentials stay retired.**  In every run they do exactly if no step activates an edit with a key that
shares a half with a retired root.  The root in force and the roots a `complete` installs need no condition. -/
theorem retired_stay_retired_iff {h : List Step} {o : Option GuardianRecoveryStateV1} (run : RecoveryRun h o) :
    RetiredStayRetired h ↔ ∀ x ∈ h, AppointsUnretired x := by
  constructor
  · intro hretired x hx hact s p hpre hp
    obtain ⟨l, r, hsplit⟩ := List.append_of_mem hx
    obtain ⟨_, hstep⟩ := run.split hsplit
    rw [hpre] at hstep
    obtain ⟨s', hs', heval⟩ := recoveryStep_ok hstep
    have hroster := (hretired.states x hx s' hs').roster
    obtain ⟨_, _, _, _, next, hnext, rfl⟩ := evaluate_some_ok heval
    rw [show x.input.command.action = .activatePolicy from hact] at hnext
    obtain ⟨pending, _, hpend, _, _, rfl⟩ := activate_ok hnext
    cases hpend.symm.trans hp
    exact hroster
  · intro happoints
    refine ⟨fun x hx s hs => ?_, fun l x r approvals s hsplit hact hs => installed_of_run run hsplit hact hs⟩
    obtain ⟨l, r, rfl⟩ := List.append_of_mem hx
    obtain ⟨before, hstep⟩ := run.split rfl
    have upto : RecoveryRun (l ++ [x]) x.post := Trace.extend before hstep
    refine ⟨((keysKept_of_run upto).2 s hs).root, roster_apart_of_run upto (fun y hy => happoints y ?_) s hs⟩
    rw [List.append_cons]
    exact List.mem_append_left _ hy

end

/-! ## A retired root that comes back -/

namespace Sample

def snapshot : String := String.ofList (List.replicate 64 '0')

def resumed : Step :=
  ran completed.post ⟨⟨completed.post.map (@GuardianRecoveryStateV1.digest host), .resume snapshot signature⟩,
    ⟨"t", second 86520, 86520000⟩, snapshot⟩

def offered (signingKey : RecoveryPublicKeyV1) : Step :=
  taken resumed.post 86530 (.proposePolicy (proposal (stateAfter resumed) 86530 signingKey))

def appointed (signingKey : RecoveryPublicKeyV1) : Step := taken (offered signingKey).post 173000 .activatePolicy

def appointment (signingKey : RecoveryPublicKeyV1) : List Step :=
  [enrolled, initiated, challenged, completed, resumed, offered signingKey] ++ [appointed signingKey]

theorem ran_pre (s : Option GuardianRecoveryStateV1) (att : Attempt) : (ran s att).pre = s := rfl

theorem resumed_run : @RecoveryRun host ([enrolled, initiated, challenged, completed] ++ [resumed]) resumed.post := by
  refine Trace.extend ?_ (ran_accepted (by decide +kernel))
  rw [resumed, ran_pre]
  show @RecoveryRun host ([enrolled, initiated, challenged] ++ [completed]) completed.post
  exact completed_run

theorem appointment_run {signingKey : RecoveryPublicKeyV1}
    (hoff : (@recoveryStep host resumed.post (offered signingKey).input).isOk = true)
    (happ : (@recoveryStep host (offered signingKey).post (appointed signingKey).input).isOk = true) :
    @RecoveryRun host (appointment signingKey) (appointed signingKey).post := by
  refine Trace.extend ?_ (taken_accepted happ)
  rw [appointed, taken_pre]
  show @RecoveryRun host ([enrolled, initiated, challenged, completed, resumed] ++ [offered signingKey])
    (offered signingKey).post
  refine Trace.extend ?_ (taken_accepted hoff)
  rw [offered, taken_pre]
  show @RecoveryRun host ([enrolled, initiated, challenged, completed] ++ [resumed]) resumed.post
  exact resumed_run

theorem fresh_key_stays_apart :
    (stateAfter (appointed (key 33))).retiredRootKeys = [key 1] ∧ RetiredStayRetired (appointment (key 33)) := by
  -- one evaluation of the run
  obtain ⟨hoff, happ, hretired, hpre, hedit⟩ :
      (@recoveryStep host resumed.post (offered (key 33)).input).isOk = true ∧
      (@recoveryStep host (offered (key 33)).post (appointed (key 33)).input).isOk = true ∧
      (stateAfter (appointed (key 33))).retiredRootKeys = [key 1] ∧
      (appointed (key 33)).pre = some (stateAfter (offered (key 33))) ∧
      ∀ p ∈ (stateAfter (offered (key 33))).pendingPolicyEdit, ∀ k ∈ rosterKeys p.edit.appointments,
        ∀ other ∈ (stateAfter (offered (key 33))).retiredRootKeys, sharesKeyHalf other k = false := by decide +kernel
  refine ⟨hretired, (@retired_stay_retired_iff host _ _ (appointment_run hoff happ)).2 ?_⟩
  refine List.forall_mem_append.2 ⟨?_, List.forall_mem_singleton.2 fun _ s p hs hp => ?_⟩
  · simp only [List.forall_mem_cons, List.not_mem_nil, false_implies, implies_true, and_true]
    exact ⟨nofun, nofun, nofun, nofun, nofun, nofun⟩
  · obtain rfl := Option.some.inj (hpre.symm.trans hs)
    exact hedit p hp

/-- **The retired root comes back as a guardian's key.**  After a completed recovery the owner and two guardians can
appoint the old root key. -/
theorem retired_root_appointed :
    @RecoveryRun host (appointment (key 1)) (appointed (key 1)).post ∧
      key 1 ∈ (stateAfter (appointed (key 1))).retiredRootKeys ∧
      (∃ g ∈ (stateAfter (appointed (key 1))).policy.guardians.toList, g.signingKey = key 1) ∧
      ¬ RetiredStayRetired (appointment (key 1)) := by
  obtain ⟨hoff, happ, hpost, hretired, hguard, hroster⟩ :
      (@recoveryStep host resumed.post (offered (key 1)).input).isOk = true ∧
      (@recoveryStep host (offered (key 1)).post (appointed (key 1)).input).isOk = true ∧
      (appointed (key 1)).post = some (stateAfter (appointed (key 1))) ∧
      key 1 ∈ (stateAfter (appointed (key 1))).retiredRootKeys ∧
      (∃ g ∈ (stateAfter (appointed (key 1))).policy.guardians.toList, g.signingKey = key 1) ∧
      key 1 ∈ rosterKeys (stateAfter (appointed (key 1))).appointments := by decide +kernel
  refine ⟨appointment_run hoff happ, hretired, hguard, fun hstay => ?_⟩
  have hlast : appointed (key 1) ∈ appointment (key 1) := List.mem_append_right _ List.mem_cons_self
  have hapart := (hstay.states _ hlast _ hpost).roster (key 1) hroster (key 1) hretired
  exact absurd hapart (by decide)

end Sample

end Recovery
end Mct
