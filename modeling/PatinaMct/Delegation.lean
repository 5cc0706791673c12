import PatinaMct.Lifecycles
/-!
# Delegation — what the chain of issued grants hands on

A grant is checked against its issuer once, when it is issued.  What carries the check through the history is that no id
is used twice and that nothing but the state of an issued grant changes (`Outlives`): the issuer of an issuance is, word
for word, the grant that an earlier entry issued (`DelegationInv.linked`).
-/
namespace Mct

open Checked
open Recovery (TextSet)

/-! ## One issuance -/

section Issuance

variable {issuer recipient : AdminKeyGrantV1} {now : Timestamp}

structure WithinCeiling (recipient : AdminKeyGrantV1) (ceiling : AdminIssuanceCeilingV1) : Prop where
  scopes : ∀ scope ∈ recipient.scopes, scope ∈ ceiling.scopes
  delegated : ∀ own, recipient.issuanceCeiling = some own → ∀ scope ∈ own.scopes, scope ∈ ceiling.scopes

def ExpiresWithin (a b : AdminKeyGrantV1) : Prop :=
  ∃ expires, a.expiresAt = some expires ∧ ∀ limit, b.expiresAt = some limit → expires ≤ limit

structure IssuanceEvaluated (issuer recipient : AdminKeyGrantV1) (now : Timestamp) : Prop where
  issuerActive : issuer.grantState = .active
  issuerUnexpired : ∀ expires, issuer.expiresAt = some expires → now < expires
  recipientActive : recipient.grantState = .active
  dayToDay : recipient.class_ = .dayToDay
  noStartupGate : .startupGate ∉ recipient.scopes
  expiry : ExpiresWithin recipient issuer
  ceiling : issuer.class_ ≠ .recovery → ∃ ceiling, issuer.issuanceCeiling = some ceiling ∧ WithinCeiling recipient ceiling

theorem dayToDay_noStartupGate {g : AdminKeyGrantV1} (hclass : g.class_ = .dayToDay)
    (hshape : adminKeyGrantShapeError g = none) : .startupGate ∉ g.scopes := by
  unfold adminKeyGrantShapeError at hshape
  split_ifs at hshape
  unfold adminKeyClassShapeError at hshape
  rw [hclass] at hshape
  simp only at hshape
  split_ifs at hshape with _ hgate
  simpa using hgate

theorem issuanceWithinAuthority_day (hclass : issuer.class_ ≠ .recovery)
    (h : issuanceWithinAuthority issuer recipient = .ok ()) :
    ∃ ceiling, issuer.issuanceCeiling = some ceiling ∧ WithinCeiling recipient ceiling := by
  unfold issuanceWithinAuthority at h
  rw [if_neg hclass] at h
  simp only [bind_ok, okOr_ok, deny_ok, Bool.or_eq_false_iff, List.any_eq_false, Bool.not_eq_eq_eq_not, Bool.not_true,
    Bool.not_eq_false, List.contains_iff_mem] at h
  obtain ⟨ceiling, hceiling, hscopes, hdel⟩ := h
  refine ⟨ceiling, hceiling, hscopes, ?_⟩
  intro own hown scope hscope
  rw [hown] at hdel
  by_contra hmissing
  have hany : (own.scopes.any fun scope => !ceiling.scopes.contains scope) = true :=
    List.any_eq_true.mpr ⟨scope, hscope, by simpa using hmissing⟩
  rw [Option.any_some, hany] at hdel
  cases hdel

theorem evaluateAdminKeyIssuance_ok [KernelHost] (h : evaluateAdminKeyIssuance issuer recipient now = .ok ()) :
    IssuanceEvaluated issuer recipient now := by
  simp only [evaluateAdminKeyIssuance, bind_ok, exists_unit, okOr_ok, deny_ok, Bool.or_eq_false_iff,
    decide_eq_false_iff_not, not_not, Option.isSome_eq_false_iff, Option.isNone_iff_eq_none, Timestamp.not_le,
    and_assoc] at h
  obtain ⟨-, hshape, -, hrecipient, hact, hexpired, -, hclass, expires, hexpires, -, hlimit, -, hwit⟩ := h
  refine ⟨hact, ?_, hrecipient, hclass, dayToDay_noStartupGate hclass hshape, ⟨expires, hexpires, ?_⟩, ?_⟩
  · intro limit hsome
    rw [hsome] at hexpired
    simpa [Timestamp.not_le] using hexpired
  · intro limit hsome
    rw [hsome] at hlimit
    simpa [Timestamp.not_lt] using hlimit
  · intro hday
    exact issuanceWithinAuthority_day hday hwit

end Issuance

/-! ## The issuances of a ledger -/

variable [LedgerHost]

def issuanceOf (entry : MctObservationLedgerEntry) : Option (AdminKeyIssueRequestV1 × Timestamp) :=
  match factOf entry with
  | some (.authorityMutation fact) =>
    match fact.changes with
    | [.adminKeyIssue request decidedAt] => some (request, decidedAt)
    | _ => none
  | _ => none

structure Issuance where
  request : AdminKeyIssueRequestV1
  decidedAt : Timestamp
  issuer : AdminKeyGrantV1

def Issuance.grant (issuance : Issuance) : AdminKeyGrantV1 := issuance.request.intent.grant

/-- The entry after the prefix `l` carries the issuance, and `r` is the replay before it. -/
structure IssuedAt (entries l : List MctObservationLedgerEntry) (r : AuthorityReplayV1) (issuance : Issuance) : Prop where
  replays : replayAuthorityEntries l = .ok r
  carried : ∃ entry rest, entries = l ++ entry :: rest ∧
    issuanceOf entry = some (issuance.request, issuance.decidedAt)
  issued : r.state.adminKeyGrants[issuance.request.intent.issuerGrantId]? = some issuance.issuer

def Issued (entries : List MctObservationLedgerEntry) (issuance : Issuance) : Prop :=
  ∃ l r, IssuedAt entries l r issuance

variable {entries l : List MctObservationLedgerEntry} {entry : MctObservationLedgerEntry}
  {replay r r' : AuthorityReplayV1} {usedEpochs u : TextSet} {issuance : Issuance} {state : AuthorityStateV1}

theorem issued_snoc (hl : Replayed l r u) : Issued (l ++ [entry]) issuance ↔
    Issued l issuance ∨ (issuanceOf entry = some (issuance.request, issuance.decidedAt) ∧
      r.state.adminKeyGrants[issuance.request.intent.issuerGrantId]? = some issuance.issuer) := by
  constructor
  · rintro ⟨p, q, hq, ⟨e, rest, heq, hcarries⟩, hissued⟩
    rcases List.eq_nil_or_concat rest with rfl | ⟨middle, last, rfl⟩
    · obtain ⟨rfl, hone⟩ := List.append_inj' heq rfl
      obtain ⟨rfl, -⟩ := List.cons.inj hone
      obtain ⟨v, hq⟩ := replayAuthorityEntries_ok.mp hq
      obtain ⟨rfl, -⟩ := hl.unique hq
      exact .inr ⟨hcarries, hissued⟩
    · rw [List.concat_eq_append, ← List.cons_append, ← List.append_assoc] at heq
      obtain ⟨rfl, -⟩ := List.append_inj' heq rfl
      exact .inl ⟨p, q, hq, ⟨e, middle, rfl, hcarries⟩, hissued⟩
  · rintro (⟨p, q, hq, ⟨e, rest, rfl, hcarries⟩, hissued⟩ | ⟨hcarries, hissued⟩)
    · exact ⟨p, q, hq, ⟨e, rest ++ [entry], by simp, hcarries⟩, hissued⟩
    · exact ⟨l, r, replayAuthorityEntries_ok.mpr ⟨u, hl⟩, ⟨entry, [], rfl, hcarries⟩, hissued⟩

def Holds (state : AuthorityStateV1) (grant : AdminKeyGrantV1) : Prop :=
  ∃ current, state.adminKeyGrants[grant.grantId]? = some current ∧ { current with grantState := .active } = grant

structure DelegationInv (entries : List MctObservationLedgerEntry) (replay : AuthorityReplayV1) : Prop where
  recorded : ∀ i, Issued entries i → ∃ record, replay.state.adminIssuance[i.grant.grantId]? = some record ∧
    record.decidedAt = i.decidedAt
  held : ∀ i, Issued entries i → Holds replay.state i.grant
  known : ∀ i, Issued entries i → i.request.intent.issuerGrantId ∈ replay.adminGrantIds
  evaluated : ∀ i, Issued entries i → IssuanceEvaluated i.issuer i.grant i.decidedAt
  linked : ∀ i j, Issued entries i → Issued entries j → j.request.intent.issuerGrantId = i.grant.grantId →
    j.issuer = i.grant

omit [LedgerHost] in
theorem Holds.outlives {grant : AdminKeyGrantV1} {state' : AuthorityStateV1} (h : Holds state grant)
    (hday : grant.class_ = .dayToDay) (hout : Outlives state state') : Holds state' grant := by
  obtain ⟨current, hcur, rfl⟩ := h
  rcases hout.grants _ current hcur with hroot | heq | heq
  · exact absurd (hroot.symm.trans hday) (by decide)
  · exact ⟨_, heq, rfl⟩
  · exact ⟨_, heq, rfl⟩

variable {request : AdminKeyIssueRequestV1} {decidedAt : Timestamp}

theorem AuthorityStep.issues
    (h : AuthorityStep replay entry state (factOf entry)) (hissuance : issuanceOf entry = some (request, decidedAt)) :
    ∃ issuer, IssueChecked replay.state request decidedAt issuer ∧
      request.intent.grant.grantId ∉ replay.adminGrantIds ∧
      state = { replay.state with
        adminKeyGrants := replay.state.adminKeyGrants.insert request.intent.grant.grantId request.intent.grant
        adminIssuance := replay.state.adminIssuance.insert request.intent.grant.grantId
          ⟨request.intent, issuer, decidedAt⟩ } := by
  unfold issuanceOf at hissuance
  split at hissuance
  · rename_i fact hfact
    split at hissuance
    · rename_i hchanges
      cases hissuance
      rw [hfact] at h
      cases h with
      | mutation _ hvalid =>
        obtain ⟨_, _, _, _, -, -, -, -, hcon, -, happ, -⟩ := validateAuthorityMutationFact_ok.mp hvalid
        rw [hchanges] at hcon happ
        have happ : applyAdminKeyIssue replay.state request decidedAt = .ok state := by
          obtain ⟨-, ⟨_, _, heq, hissue⟩ | ⟨_, _, heq, -⟩ | ⟨hord, -⟩⟩ := applyAuthorityChanges_ok happ
          · cases heq
            exact hissue
          · cases heq
          · cases (hord _ List.mem_cons_self).1
        have hunused := forM_ok.mp hcon _ List.mem_cons_self
        simp only [deny_ok, Bool.or_eq_false_iff] at hunused
        obtain ⟨issuer, hchk, hstate⟩ := applyAdminKeyIssue_ok happ
        refine ⟨issuer, hchk, ?_, hstate⟩
        intro hmem
        have hcont := Std.ExtTreeSet.contains_iff_mem.mpr hmem
        rw [hunused.1.1.1.1] at hcont
        cases hcont
    · cases hissuance
  · cases hissuance

omit [LedgerHost] in
theorem Holds.active {grant current : AdminKeyGrantV1} (h : Holds state grant)
    (hcur : state.adminKeyGrants[grant.grantId]? = some current) (hact : current.grantState = .active) :
    current = grant := by
  obtain ⟨stored, hstored, heq⟩ := h
  rw [hcur] at hstored
  cases hstored
  rw [← heq, ← hact]

theorem DelegationInv.step (inv : DelegationInv l r) (hl : Replayed l r u)
    (hstep : AuthorityStep r entry r'.state (factOf entry))
    (hids : ∀ id, id ∈ r'.adminGrantIds ↔ id ∈ r.adminGrantIds ∨ id ∈ r'.state.adminKeyGrants) :
    DelegationInv (l ++ [entry]) r' := by
  have hout := (hstep.outlives hl).1
  have hday : ∀ i, Issued l i → i.grant.class_ = .dayToDay := fun i hi => (inv.evaluated i hi).dayToDay
  -- the issuance of the new entry, if it has one
  have hnew : ∀ i : Issuance, issuanceOf entry = some (i.request, i.decidedAt) →
      r.state.adminKeyGrants[i.request.intent.issuerGrantId]? = some i.issuer →
      IssueChecked r.state i.request i.decidedAt i.issuer ∧ i.grant.grantId ∉ r.adminGrantIds ∧
        r'.state.adminKeyGrants = r.state.adminKeyGrants.insert i.grant.grantId i.grant ∧
        r'.state.adminIssuance[i.grant.grantId]? = some ⟨i.request.intent, i.issuer, i.decidedAt⟩ := by
    intro i hcarries hissued
    obtain ⟨issuer, hchk, hunused, hstate⟩ := hstep.issues hcarries
    have heq : issuer = i.issuer := by
      have := hchk.issued.symm.trans hissued
      exact Option.some.inj this
    subst heq
    refine ⟨hchk, hunused, by rw [hstate]; rfl, ?_⟩
    rw [hstate]
    exact Std.ExtTreeMap.getElem?_insert_self
  constructor
  · intro i hi
    rcases (issued_snoc hl).mp hi with hi | ⟨hcarries, hissued⟩
    · obtain ⟨record, hrec, htime⟩ := inv.recorded i hi
      exact ⟨record, hout.records _ _ hrec, htime⟩
    · obtain ⟨-, -, -, hrec⟩ := hnew i hcarries hissued
      exact ⟨_, hrec, rfl⟩
  · intro i hi
    rcases (issued_snoc hl).mp hi with hi | ⟨hcarries, hissued⟩
    · exact (inv.held i hi).outlives (hday i hi) hout
    · obtain ⟨hchk, -, hgrants, -⟩ := hnew i hcarries hissued
      refine ⟨i.grant, ?_, ?_⟩
      · rw [hgrants]
        exact Std.ExtTreeMap.getElem?_insert_self
      · rw [← show i.grant.grantState = .active from hchk.active]
  · intro i hi
    rw [hids]
    rcases (issued_snoc hl).mp hi with hi | ⟨hcarries, hissued⟩
    · exact .inl (inv.known i hi)
    · obtain ⟨-, -, hgrants, -⟩ := hnew i hcarries hissued
      right
      rw [hgrants, Std.ExtTreeMap.mem_insert]
      right
      rw [Std.ExtTreeMap.mem_iff_isSome_getElem?, hissued]
      rfl
  · intro i hi
    rcases (issued_snoc hl).mp hi with hi | ⟨hcarries, hissued⟩
    · exact inv.evaluated i hi
    · exact evaluateAdminKeyIssuance_ok (hnew i hcarries hissued).1.evaluated
  · intro i j hi hj hlink
    rcases (issued_snoc hl).mp hj with hj | ⟨hcarries, hissued⟩
    · rcases (issued_snoc hl).mp hi with hi | ⟨hcarries, hissued⟩
      · exact inv.linked i j hi hj hlink
      · -- an id that has issued before is not issued again
        obtain ⟨-, hunused, -⟩ := hnew i hcarries hissued
        exact absurd (hlink ▸ inv.known j hj) hunused
    · obtain ⟨hchk, -⟩ := hnew j hcarries hissued
      rcases (issued_snoc hl).mp hi with hi | ⟨hcarries', hissued'⟩
      · refine (inv.held i hi).active ?_ (evaluateAdminKeyIssuance_ok hchk.evaluated).issuerActive
        rw [← hlink]
        exact hissued
      · obtain ⟨hchk', -⟩ := hnew i hcarries' hissued'
        have hnone : r.state.adminKeyGrants[i.grant.grantId]? = none := hchk'.newGrant
        rw [← hlink, hissued] at hnone
        cases hnone

theorem Replayed.delegationInv (h : Replayed entries replay usedEpochs) : DelegationInv entries replay := by
  refine h.induction (fun l r _ => DelegationInv l r) ?_ ?_
  · have hnone : ∀ i, ¬ Issued [] i := by
      rintro i ⟨l, r, -, ⟨e, rest, heq, -⟩, -⟩
      simp at heq
    exact ⟨fun i hi => (hnone i hi).elim, fun i hi => (hnone i hi).elim, fun i hi => (hnone i hi).elim,
      fun i hi => (hnone i hi).elim, fun i _ hi => (hnone i hi).elim⟩
  · intro l entry r u r' u' hl inv hfold
    obtain ⟨hstep, hids⟩ := foldAuthorityEntry_step hfold
    exact inv.step hl hstep hids

/-! ## Chains -/

def IssuedBy (entries : List MctObservationLedgerEntry) (a b : AdminKeyGrantV1) : Prop :=
  ∃ i, Issued entries i ∧ i.request.intent.issuerGrantId = a.grantId ∧ i.grant = b

def IssuedByRecoveryRoot (entries : List MctObservationLedgerEntry) (grant : AdminKeyGrantV1) : Prop :=
  ∃ i, Issued entries i ∧ i.issuer.class_ = .recovery ∧ i.grant = grant

/-- The issuance is signed by a grant of the state before it that is active and not expired. -/
structure SignedInState (state : AuthorityStateV1) (i : Issuance) : Prop where
  signer : state.adminKeyGrants[i.request.signature.signerGrantId]? = some i.issuer
  active : i.issuer.grantState = .active
  unexpired : ∀ expires, i.issuer.expiresAt = some expires → i.decidedAt < expires
  verified : ∃ pq, i.issuer.mlDsa65PublicKey = some pq ∧
    KernelHost.verifyAdminHybridSignature i.issuer.publicHalf pq
      (adminSignedMessage
        { scheme := i.request.signature.scheme
          motherNodeId := i.request.intent.expectedAuthority.grantsAuthority.motherNodeId
          ledgerId := i.request.intent.ledgerId
          nonce := i.request.signature.nonce
          signerGrantCanonical := LedgerHost.canonicalJson (.grant i.issuer)
          commandCanonical := LedgerHost.canonicalJson (.adminKeyIssue i.request.intent) })
      i.request.signature.signature = .ok ()

/-- **Delegation only attenuates**, in the ledger `entries`. -/
structure Attenuates (entries : List MctObservationLedgerEntry) : Prop where
  /-- Every issuance of the ledger is one of those below. -/
  complete : ∀ l entry rest fact request decidedAt, entries = l ++ entry :: rest →
    factOf entry = some (.authorityMutation fact) → .adminKeyIssue request decidedAt ∈ fact.changes →
    ∃ r issuer, IssuedAt entries l r ⟨request, decidedAt, issuer⟩
  /-- What a chain hands on stays within the ceiling of its first grant, and within every earlier expiry. -/
  chain : ∀ g₀ gs, IssuedByRecoveryRoot entries g₀ → (g₀ :: gs).IsChain (IssuedBy entries) →
    (∀ g ∈ gs, g.class_ = .dayToDay ∧ .startupGate ∉ g.scopes ∧
      ∃ ceiling, g₀.issuanceCeiling = some ceiling ∧ WithinCeiling g ceiling) ∧
    (g₀ :: gs).Pairwise fun earlier later => ExpiresWithin later earlier
  signed : ∀ l r i, IssuedAt entries l r i → SignedInState r.state i
  ordered : ∀ l r i l' r' j, IssuedAt entries l r i → IssuedAt entries l' r' j → l.length < l'.length →
    i.decidedAt ≤ j.decidedAt

variable {a b : AdminKeyGrantV1}

omit [LedgerHost] in
theorem ExpiresWithin.trans {c : AdminKeyGrantV1} (hab : ExpiresWithin a b) (hbc : ExpiresWithin b c) :
    ExpiresWithin a c := by
  obtain ⟨ea, ha, hab⟩ := hab
  obtain ⟨eb, hb, hbc⟩ := hbc
  refine ⟨ea, ha, fun limit hlimit => ?_⟩
  have h₁ := hab eb hb
  have h₂ := hbc limit hlimit
  rw [Timestamp.le_def] at h₁ h₂ ⊢
  omega

theorem DelegationInv.link (inv : DelegationInv entries replay)
    (ha : ∃ i, Issued entries i ∧ i.grant = a) (hb : IssuedBy entries a b) :
    b.class_ = .dayToDay ∧ .startupGate ∉ b.scopes ∧ ExpiresWithin b a ∧
      ∃ ceiling, a.issuanceCeiling = some ceiling ∧ WithinCeiling b ceiling := by
  obtain ⟨i, hi, rfl⟩ := ha
  obtain ⟨j, hj, hlink, rfl⟩ := hb
  have hissued := inv.linked i j hi hj hlink
  have heval := inv.evaluated j hj
  rw [hissued] at heval
  refine ⟨heval.dayToDay, heval.noStartupGate, heval.expiry, heval.ceiling ?_⟩
  rw [(inv.evaluated i hi).dayToDay]
  decide

theorem DelegationInv.chain {gs : List AdminKeyGrantV1} (inv : DelegationInv entries replay)
    (ha : ∃ i, Issued entries i ∧ i.grant = a) (hchain : (a :: gs).IsChain (IssuedBy entries)) :
    (∀ g ∈ gs, g.class_ = .dayToDay ∧ .startupGate ∉ g.scopes ∧
      ∃ ceiling, a.issuanceCeiling = some ceiling ∧ WithinCeiling g ceiling) ∧
    (a :: gs).Pairwise fun earlier later => ExpiresWithin later earlier := by
  induction gs generalizing a with
  | nil => exact ⟨by simp, List.pairwise_singleton _ _⟩
  | cons b gs ih =>
    rw [List.isChain_cons_cons] at hchain
    obtain ⟨hlink, hrest⟩ := hchain
    have hb : ∃ i, Issued entries i ∧ i.grant = b := by
      obtain ⟨j, hj, -, hgrant⟩ := hlink
      exact ⟨j, hj, hgrant⟩
    obtain ⟨hclass, hgate, hexpires, ceiling, hceiling, hwit⟩ := inv.link ha hlink
    obtain ⟨hlater, hpairs⟩ := ih hb hrest
    constructor
    · rw [List.forall_mem_cons]
      refine ⟨⟨hclass, hgate, ceiling, hceiling, hwit⟩, fun g hg => ?_⟩
      -- the ceiling of the next grant lies within this one
      obtain ⟨hclass', hgate', next, hnext, hwit'⟩ := hlater g hg
      have hsub := hwit.delegated next hnext
      exact ⟨hclass', hgate', ceiling, hceiling, fun scope hs => hsub _ (hwit'.scopes scope hs),
        fun own hown scope hs => hsub _ (hwit'.delegated own hown scope hs)⟩
    · rw [List.pairwise_cons] at hpairs ⊢
      refine ⟨?_, List.pairwise_cons.mpr hpairs⟩
      rw [List.forall_mem_cons]
      exact ⟨hexpires, fun g hg => (hpairs.1 g hg).trans hexpires⟩

theorem Replayed.stepAt {rest : List MctObservationLedgerEntry} (h : Replayed (l ++ entry :: rest) replay usedEpochs) :
    ∃ (r r' : AuthorityReplayV1) (u : TextSet), Replayed l r u ∧ AuthorityStep r entry r'.state (factOf entry) := by
  have h : Replayed ((l ++ [entry]) ++ rest) replay usedEpochs := by
    rw [List.append_assoc, List.singleton_append]
    exact h
  obtain ⟨r', _, hr', -⟩ := replayed_append h
  obtain ⟨r, u, hr, hfold⟩ := replayed_snoc hr'
  exact ⟨r, r', u, hr, (foldAuthorityEntry_step hfold).1⟩

theorem IssuedAt.checked {i : Issuance} (h : Replayed entries replay usedEpochs) (hi : IssuedAt entries l r i) :
    IssueChecked r.state i.request i.decidedAt i.issuer := by
  obtain ⟨entry, rest, rfl, hcarries⟩ := hi.carried
  obtain ⟨r₀, r', u₀, hr₀, hstep⟩ := h.stepAt
  obtain ⟨u, hr⟩ := replayAuthorityEntries_ok.mp hi.replays
  obtain ⟨rfl, -⟩ := hr.unique hr₀
  obtain ⟨issuer, hchk, -, -⟩ := hstep.issues hcarries
  have heq := Option.some.inj (hchk.issued.symm.trans hi.issued)
  exact heq ▸ hchk

theorem IssueChecked.signedInState {i : Issuance} (h : IssueChecked state i.request i.decidedAt i.issuer) :
    SignedInState state i := by
  have heval := evaluateAdminKeyIssuance_ok h.evaluated
  have hsig : state.adminKeyGrants[i.request.signature.signerGrantId]? = some i.issuer := by
    rw [h.signer]
    exact h.issued
  refine ⟨hsig, heval.issuerActive, heval.issuerUnexpired, ?_⟩
  have hsigned := h.signed
  simp only [verifyAdminChangeSignatures, verifyAdminChangeSignaturesFrom, changeSignature, bind_ok, exists_unit,
    verifyAdminChangeSignature, signerGrant, ownGrant, hsig, heval.issuerActive, if_true, okOr_ok, mapErr_ok,
    Except.ok.injEq] at hsigned
  obtain ⟨⟨-, -, -, _, rfl, pq, hpq, hver⟩, -⟩ := hsigned
  exact ⟨pq, hpq, hver⟩

/-- **Delegated administration only attenuates, in every accepted ledger.** -/
theorem delegation_attenuates (h : replayAuthorityEntries entries = .ok replay) : Attenuates entries := by
  obtain ⟨u, h⟩ := replayAuthorityEntries_ok.mp h
  have inv := h.delegationInv
  refine ⟨?_, ?_, fun l r i hi => (hi.checked h).signedInState, ?_⟩
  · rintro l entry rest fact request decidedAt rfl hfact hmem
    obtain ⟨r, r', v, hr, hstep⟩ := h.stepAt
    have hcarries : issuanceOf entry = some (request, decidedAt) := by
      rw [hfact] at hstep
      cases hstep with
      | mutation _ hvalid =>
        obtain ⟨_, _, _, _, -, -, -, -, -, -, happ, -⟩ := validateAuthorityMutationFact_ok.mp hvalid
        unfold issuanceOf
        rw [hfact]
        obtain ⟨-, ⟨request', decidedAt', heq, -⟩ | ⟨command, clock, heq, -⟩ | ⟨hord, -⟩⟩ :=
          applyAuthorityChanges_ok happ
        · rw [heq, List.mem_singleton] at hmem
          cases hmem
          simp only [heq]
        · rw [heq, List.mem_singleton] at hmem
          cases hmem
        · cases (hord _ hmem).1
    obtain ⟨issuer, hchk, -, -⟩ := hstep.issues hcarries
    exact ⟨r, issuer, replayAuthorityEntries_ok.mpr ⟨v, hr⟩, ⟨entry, rest, rfl, hcarries⟩, hchk.issued⟩
  · rintro g₀ gs ⟨i, hi, -, hgrant⟩ hchain
    exact inv.chain ⟨i, hi, hgrant⟩ hchain
  · intro l r i l' r' j hi hj hlt
    obtain ⟨u', hr'⟩ := replayAuthorityEntries_ok.mp hj.replays
    -- the earlier issuance is one of the prefix before the later one
    have hear : Issued l' i := by
      obtain ⟨e, rest, heq, hcarries⟩ := hi.carried
      obtain ⟨e', rest', heq', -⟩ := hj.carried
      have hpref : l ++ [e] <+: l' := by
        have hp : l ++ [e] <+: entries := ⟨rest, by rw [heq]; simp⟩
        have hp' : l' <+: entries := ⟨e' :: rest', heq'.symm⟩
        exact List.prefix_of_prefix_length_le hp hp' (by simpa using hlt)
      obtain ⟨t, rfl⟩ := hpref
      exact ⟨l, r, hi.replays, ⟨e, t, by simp, hcarries⟩, hi.issued⟩
    obtain ⟨record, hrec, htime⟩ := hr'.delegationInv.recorded i hear
    rw [← htime]
    exact (hj.checked h).notBefore record (Maps.mem_values.mpr ⟨_, hrec⟩)

end Mct

namespace Mct.AdminSample

open Checked
open Recovery (TextSet)
open Recovery.Sample (second key)
open Sample (Ledger nextEntry hostOf hostOf_serde stateHash stateHash_of_checked writtenFact genesis_ledger mutation_ledger)

/-! ## A strict ledger with a chain of issuances -/

def hybridSignature : String := String.ofList (List.replicate (adminHybridSignatureLen * 2) '0')

theorem hybridSignature_size : hybridSignature.utf8ByteSize = adminHybridSignatureLen * 2 := by
  have hlen : ∀ n, String.utf8Len (List.replicate n '0') = n := by
    intro n
    induction n with
    | zero => rfl
    | succ n ih =>
      rw [List.replicate_succ, String.utf8Len_cons, ih]
      rfl
  unfold hybridSignature
  rw [String.utf8ByteSize_ofList, hlen]

def strictRoot : AdminKeyGrantV1 :=
  ⟨"root", (key 1).ed25519, some (key 1).mlDsa65, .recovery, recoveryGrantScopes, none, .active, none⟩

/-- A day key that may hand on the `blob` scope. -/
def manager : AdminKeyGrantV1 :=
  ⟨"manager", (key 2).ed25519, some (key 2).mlDsa65, .dayToDay, [.keyManage], some (second 9), .active, some ⟨[.blob]⟩⟩

def worker : AdminKeyGrantV1 :=
  ⟨"worker", (key 3).ed25519, some (key 3).mlDsa65, .dayToDay, [.blob], some (second 8), .active, none⟩

def birth : AdminGenesisFactV1 where
  request :=
    { intent := ⟨"birth", "m", "l", Sample.epoch, String.ofList (List.replicate 64 '0'), strictRoot⟩
      signature := ⟨.ed25519MlDsa65V1, "root", 0, hybridSignature⟩ }
  decidedAt := second 0

def issueRequest (head : GrantsAuthorityIdentityV1) (state : AuthorityStateV1) (id issuer : String)
    (grant : AdminKeyGrantV1) : AdminKeyIssueRequestV1 where
  intent := ⟨id, "l", ⟨head, stateHash state⟩, issuer, grant⟩
  signature := ⟨.ed25519MlDsa65V1, issuer, 1, hybridSignature⟩

def issueMutation (request : AdminKeyIssueRequestV1) (at_ : Timestamp) : AuthorityMutationRequestV1 where
  mutationId := request.intent.issuanceId
  changes := [.adminKeyIssue request at_]
  grantShapingSources := [.operatorDecision "d" "p" .grantChange]
  decidedAt := at_.value

def bornState : AuthorityStateV1 := (emptyAuthorityReplay.afterGenesis birth).state

def managerRequest : AdminKeyIssueRequestV1 := issueRequest birth.identity bornState "issue-manager" "root" manager

def managedState : AuthorityStateV1 :=
  { bornState with
    adminKeyGrants := bornState.adminKeyGrants.insert "manager" manager
    adminIssuance := bornState.adminIssuance.insert "manager" ⟨managerRequest.intent, strictRoot, second 1⟩ }

def managerFact : AuthorityMutationFactV1 :=
  writtenFact birth.identity (issueMutation managerRequest (second 1)) bornState managedState

def workerRequest : AdminKeyIssueRequestV1 :=
  issueRequest managerFact.resultingState.grantsAuthority managedState "issue-worker" "manager" worker

def workedState : AuthorityStateV1 :=
  { managedState with
    adminKeyGrants := managedState.adminKeyGrants.insert "worker" worker
    adminIssuance := managedState.adminIssuance.insert "worker" ⟨workerRequest.intent, manager, second 2⟩ }

def workerFact : AuthorityMutationFactV1 :=
  writtenFact managerFact.resultingState.grantsAuthority (issueMutation workerRequest (second 2)) managedState workedState

@[reducible] noncomputable def strictHost : LedgerHost :=
  hostOf { births := [birth], mutations := [managerFact, workerFact] }

theorem strictHost_serde : @SerdeRoundTrip strictHost := hostOf_serde (by decide +kernel)

theorem birth_valid : @AdminGenesisRequestV1.validate strictHost birth.request = .ok () := by
  have hmal : @AdminGenesisRequestV1.malformed strictHost birth.request = false := by
    have hsize : birth.request.signature.signature.utf8ByteSize = adminHybridSignatureLen * 2 := hybridSignature_size
    unfold AdminGenesisRequestV1.malformed
    simp only [Bool.or_eq_false_iff, decide_eq_false_iff_not, not_not]
    refine ⟨⟨⟨⟨⟨⟨⟨⟨⟨⟨⟨⟨⟨⟨?_, ?_⟩, ?_⟩, ?_⟩, ?_⟩, ?_⟩, ?_⟩, ?_⟩, ?_⟩, ?_⟩, ?_⟩, ?_⟩, ?_⟩, ?_⟩, hsize⟩ <;> decide +kernel
  unfold AdminGenesisRequestV1.validate
  rw [hmal]
  rfl

theorem bornState_checked : @StateChecked strictHost bornState := @genesis_checked strictHost birth _ rfl birth_valid

theorem managedState_checked : @StateChecked strictHost managedState := by
  let _ := strictHost
  have hgen : validateGenesisState managedState = .ok () := by
    show birth.request.validate >>= _ = _
    rw [birth_valid]
    rfl
  exact ⟨rfl, rfl, rfl, rfl, hgen, nofun⟩

theorem issue_applies [LedgerHost] {s : AuthorityStateV1} {req : AdminKeyIssueRequestV1} {at_ : Timestamp}
    {issuer : AdminKeyGrantV1} {rh : String} (hstr : s.passkeyAdmin = none)
    (hclock : ((latest (s.adminIssuance.values.map (·.decidedAt) ++ (s.adminGenesis.map (·.decidedAt)).toList ++
      (s.guardianRecovery.map (·.clock.wallTime)).toList)).any fun floor => decide (at_ < floor)) = false)
    (hidentity : (!validId req.intent.issuanceId || !validId req.intent.grant.grantId ||
      startsWith req.intent.grant.grantId recoveredRootGrantStart ||
      req.signature.signerGrantId ≠ req.intent.issuerGrantId ||
      s.adminKeyGrants.contains req.intent.grant.grantId ||
      s.adminIssuance.contains req.intent.grant.grantId ||
      s.guardianRecovery.any fun recovery => recovery.maintenance) = false)
    (hprior : authorityStateHash s = .ok req.intent.expectedAuthority.authorityStateHash)
    (hissued : s.adminKeyGrants[req.intent.issuerGrantId]? = some issuer)
    (hevaluates : evaluateAdminKeyIssuance issuer req.intent.grant at_ = .ok ())
    (hhybrid : (issuer.mlDsa65PublicKey.isNone || req.intent.grant.mlDsa65PublicKey.isNone) = false)
    (hsize : req.signature.signature.utf8ByteSize = adminHybridSignatureLen * 2)
    (hreuse : reusesRootCredential s req.intent.grant = false)
    (hsigned : verifyAdminChangeSignatures s ∅ req.intent.expectedAuthority.grantsAuthority.motherNodeId
      req.intent.ledgerId [.adminKeyIssue req at_] = .ok ())
    (hput : applyAdminKeyGrantPut s req.intent.grant = .ok { s with
      adminKeyGrants := s.adminKeyGrants.insert req.intent.grant.grantId req.intent.grant })
    (hres : authorityStateHash { s with
        adminKeyGrants := s.adminKeyGrants.insert req.intent.grant.grantId req.intent.grant
        adminIssuance := s.adminIssuance.insert req.intent.grant.grantId ⟨req.intent, issuer, at_⟩ } =
      .ok rh) :
    applyAuthorityChanges s [.adminKeyIssue req at_] = .ok { s with
      adminKeyGrants := s.adminKeyGrants.insert req.intent.grant.grantId req.intent.grant
      adminIssuance := s.adminIssuance.insert req.intent.grant.grantId ⟨req.intent, issuer, at_⟩ } := by
  have hissue : applyAdminKeyIssue s req at_ = .ok { s with
      adminKeyGrants := s.adminKeyGrants.insert req.intent.grant.grantId req.intent.grant
      adminIssuance := s.adminIssuance.insert req.intent.grant.grantId ⟨req.intent, issuer, at_⟩ } := by
    simp only [applyAdminKeyIssue, bind_ok, exists_unit, deny_ok, mapErr_ok, okOr_ok, pure_ok]
    refine ⟨hclock, hidentity, _, hprior, by simp, issuer, hissued, hevaluates, ?_, hreuse, hsigned, _, hput, _, hres,
      rfl⟩
    rw [hhybrid, hsize]
    simp
  have hlegacy : s.passkeyAdmin.isSome = false := by rw [hstr]; rfl
  unfold applyAuthorityChanges
  rw [hlegacy]
  exact hissue

theorem issue_signed [LedgerHost] {s : AuthorityStateV1} {req : AdminKeyIssueRequestV1} {at_ : Timestamp}
    {issuer : AdminKeyGrantV1} {pq : MlDsa65PublicKey} {used : Finset (String × Nat)} {motherNodeId ledgerId : String}
    (hscheme : req.signature.scheme = .ed25519MlDsa65V1)
    (hsize : req.signature.signature.utf8ByteSize = adminHybridSignatureLen * 2)
    (hfresh : (req.signature.signerGrantId, req.signature.nonce) ∉ used)
    (hsig : s.adminKeyGrants[req.signature.signerGrantId]? = some issuer)
    (hact : issuer.grantState = .active) (hpq : issuer.mlDsa65PublicKey = some pq)
    (hver : ∀ message, KernelHost.verifyAdminHybridSignature issuer.publicHalf pq message
      req.signature.signature = .ok ()) :
    verifyAdminChangeSignatures s used motherNodeId ledgerId [.adminKeyIssue req at_] = .ok () := by
  simp only [verifyAdminChangeSignatures, verifyAdminChangeSignaturesFrom, changeSignature, bind_ok, exists_unit,
    verifyAdminChangeSignature, signerGrant, ownGrant, hsig, hact, if_true, okOr_ok, mapErr_ok, Except.ok.injEq,
    deny_ok]
  refine ⟨⟨?_, ?_, ?_, issuer, rfl, pq, hpq, hver _⟩, trivial⟩
  · rw [hscheme]
    decide
  · rw [hsize]
    simp
  · simp [hfresh]

theorem manager_signed {used : Finset (String × Nat)} (h : ("root", 1) ∉ used) :
    @verifyAdminChangeSignatures strictHost bornState used "m" "l" [.adminKeyIssue managerRequest (second 1)] = .ok () :=
  @issue_signed strictHost _ _ _ strictRoot _ _ _ _ rfl hybridSignature_size h rfl rfl rfl fun _ => rfl

theorem manager_issued : @applyAuthorityChanges strictHost bornState (issueMutation managerRequest (second 1)).changes =
    .ok managedState :=
  @issue_applies strictHost bornState managerRequest (second 1) strictRoot _ rfl (by decide) (by decide +kernel)
    (stateHash_of_checked bornState_checked) rfl rfl rfl hybridSignature_size rfl (manager_signed (by simp)) rfl
    (stateHash_of_checked managedState_checked)

theorem workedState_checked : @StateChecked strictHost workedState := by
  let _ := strictHost
  have hgen : validateGenesisState workedState = .ok () := by
    show birth.request.validate >>= _ = _
    rw [birth_valid]
    rfl
  exact ⟨rfl, rfl, rfl, rfl, hgen, nofun⟩

theorem worker_signed {used : Finset (String × Nat)} (h : ("manager", 1) ∉ used) :
    @verifyAdminChangeSignatures strictHost managedState used "m" "l" [.adminKeyIssue workerRequest (second 2)] =
      .ok () :=
  @issue_signed strictHost _ _ _ manager _ _ _ _ rfl hybridSignature_size h rfl rfl rfl fun _ => rfl

theorem worker_issued : @applyAuthorityChanges strictHost managedState (issueMutation workerRequest (second 2)).changes =
    .ok workedState :=
  @issue_applies strictHost managedState workerRequest (second 2) manager _ rfl (by decide) (by decide +kernel)
    (stateHash_of_checked managedState_checked) rfl rfl rfl hybridSignature_size rfl (worker_signed (by simp)) rfl
    (stateHash_of_checked workedState_checked)

/-! ### The ledgers -/

noncomputable scoped instance : LedgerHost := strictHost

noncomputable def bornLedger : List MctObservationLedgerEntry := [nextEntry [] birth.observation (second 0)]

noncomputable def managedLedger : List MctObservationLedgerEntry :=
  bornLedger ++ [nextEntry bornLedger (managerFact.observation (second 1)) (second 1)]

noncomputable def workedLedger : List MctObservationLedgerEntry :=
  managedLedger ++ [nextEntry managedLedger (workerFact.observation (second 2)) (second 2)]

theorem bornLedger_replays : ∃ r, Ledger bornLedger r birth.identity bornState [] [("root", 0)] ["root"] :=
  genesis_ledger strictHost_serde ⟨birth_valid, rfl, rfl⟩ bornState_checked

theorem issuanceContext_of {req : AdminKeyIssueRequestV1} {at_ : Timestamp} {head : GrantsAuthorityIdentityV1}
    {used : TextSet} {grants : List String} (hused : ∀ id ∈ used, id ∈ grants)
    (hnew : req.intent.grant.grantId ∉ grants) (hhead : req.intent.expectedAuthority.grantsAuthority = head)
    (hledger : req.intent.ledgerId = "l") :
    validateIssuanceContext used [.adminKeyIssue req at_] head "l" req.intent.issuanceId at_.value = .ok () := by
  refine forM_ok.mpr ?_
  intro ch hchange
  rw [List.mem_singleton] at hchange
  subst hchange
  have hunused : used.contains req.intent.grant.grantId = false := by
    by_contra hc
    rw [Bool.not_eq_false, Std.ExtTreeSet.contains_iff_mem] at hc
    exact hnew (hused _ hc)
  refine deny_ok.mpr ?_
  rw [hunused, hhead, hledger]
  simp

theorem managedLedger_replays : ∃ r, Ledger managedLedger r managerFact.resultingState.grantsAuthority
    managedState ["issue-manager"] [("root", 0), ("root", 1)] ["root", "manager", "root"] := by
  obtain ⟨r, h⟩ := bornLedger_replays
  refine mutation_ledger strictHost_serde (issueMutation managerRequest (second 1)) (second 1) h rfl ?_ rfl ?_ manager_issued
    managedState_checked (by simp) (by decide)
  · intro used hused
    exact issuanceContext_of hused (by decide) rfl rfl
  · intro used hused
    refine manager_signed fun hmem => ?_
    simpa using hused _ hmem

theorem workedLedger_replays : ∃ r, Ledger workedLedger r workerFact.resultingState.grantsAuthority
    workedState ["issue-worker", "issue-manager"] [("root", 0), ("root", 1), ("manager", 1)]
    ["root", "manager", "root", "manager", "root", "worker"] := by
  obtain ⟨r, h⟩ := managedLedger_replays
  refine mutation_ledger strictHost_serde (issueMutation workerRequest (second 2)) (second 2) h rfl ?_ rfl ?_ worker_issued
    workedState_checked (by decide) (by decide)
  · intro used hused
    exact issuanceContext_of hused (by decide) rfl rfl
  · intro used hused
    refine worker_signed fun hmem => ?_
    simpa using hused _ hmem

theorem issuanceOf_written {l : List MctObservationLedgerEntry} {fact : AuthorityMutationFactV1} {at_ : Timestamp}
    {req : AdminKeyIssueRequestV1} {t : Timestamp} (h : fact.changes = [.adminKeyIssue req t]) :
    issuanceOf (nextEntry l (fact.observation at_) at_) = some (req, t) := by
  unfold issuanceOf
  rw [(factOf_encoded strictHost_serde rfl).trans (ofBody_mutation strictHost_serde fact)]
  simp only [h]

theorem manager_issuance : Issued workedLedger ⟨managerRequest, second 1, strictRoot⟩ := by
  obtain ⟨r, h⟩ := bornLedger_replays
  refine ⟨bornLedger, r, h.accepted, ⟨_, _, List.append_assoc _ _ _, issuanceOf_written rfl⟩, ?_⟩
  rw [h.state]
  rfl

theorem worker_issuance : Issued workedLedger ⟨workerRequest, second 2, manager⟩ := by
  obtain ⟨r, h⟩ := managedLedger_replays
  refine ⟨managedLedger, r, h.accepted, ⟨_, [], rfl, issuanceOf_written rfl⟩, ?_⟩
  rw [h.state]
  rfl

/-- **The root issues the manager, the manager issues the worker, and the chain attenuates.** -/
theorem delegation_attenuates_worked : ∃ replay, replayAuthorityEntries workedLedger = .ok replay ∧
    IssuedByRecoveryRoot workedLedger manager ∧ [manager, worker].IsChain (IssuedBy workedLedger) ∧
      Attenuates workedLedger := by
  obtain ⟨replay, h⟩ := workedLedger_replays
  refine ⟨replay, h.accepted, ⟨_, manager_issuance, rfl, rfl⟩, ?_, delegation_attenuates h.accepted⟩
  exact List.isChain_pair.mpr ⟨_, worker_issuance, rfl, rfl⟩

/-- **The grants and issuances of a strict ledger live on, and a revoked key, a consumed ticket and a closed scope stay
so.** -/
theorem worked_and_closed_move_on :
    (∃ earlier replay, replayAuthorityEntries managedLedger = .ok earlier ∧
      replayAuthorityEntries workedLedger = .ok replay ∧ earlier.state.adminKeyGrants["manager"]? = some manager ∧
      earlier.state.adminIssuance.contains "manager" = true ∧ Outlives earlier.state replay.state) ∧
    ∃ earlier replay, @replayAuthorityEntries LifecycleSample.host LifecycleSample.openedLedger = .ok earlier ∧
      @replayAuthorityEntries LifecycleSample.host LifecycleSample.closedLedger = .ok replay ∧
      earlier.state = LifecycleSample.opened ∧ replay.state = LifecycleSample.closed ∧
      Outlives earlier.state replay.state := by
  constructor
  · obtain ⟨replay, h⟩ := workedLedger_replays
    obtain ⟨managed, hmanaged⟩ := managedLedger_replays
    obtain ⟨earlier, hearlier, hout⟩ := authority_moves_on (l := managedLedger) h.accepted
    cases hmanaged.accepted.symm.trans hearlier
    refine ⟨managed, replay, hmanaged.accepted, h.accepted, ?_, ?_, hout⟩
    · rw [hmanaged.state]
      rfl
    · rw [hmanaged.state]
      rfl
  · let _ := LifecycleSample.host
    obtain ⟨replay, _, _, h⟩ := LifecycleSample.closedLedger_replays
    obtain ⟨opened, _, _, hopened⟩ := LifecycleSample.openedLedger_replays
    obtain ⟨earlier, hearlier, hout⟩ := authority_moves_on (l := LifecycleSample.openedLedger) h.accepted
    cases hopened.accepted.symm.trans hearlier
    exact ⟨opened, replay, hopened.accepted, h.accepted, hopened.state, h.state, hout⟩

/-- **The worked state has a genesis, a chain of issuances and grants, and it hashes.** -/
theorem worked_state_hashes : ∃ replay, replayAuthorityEntries workedLedger = .ok replay ∧
    replay.state.adminGenesis = some birth ∧ replay.state.adminIssuance.size = 2 ∧ replay.state.adminKeyGrants.size = 3 ∧
    StateChecked replay.state ∧
    authorityStateHash replay.state = .ok (canonicalHash replay.state.canonicalRecord) := by
  obtain ⟨replay, h⟩ := workedLedger_replays
  refine ⟨replay, h.accepted, ?_, ?_, ?_, accepted_state_hashes h.accepted⟩
  · rw [h.state]
    rfl
  · rw [h.state]
    decide +kernel
  · rw [h.state]
    decide +kernel

end Mct.AdminSample
