import PatinaMct.StateHash
/-!
# Lifecycles — what becomes of a grant, a ticket and a watch scope along a ledger

`Outlives` compares the authority state of an earlier prefix with a later one.  Every accepted entry keeps it
(`AuthorityStep.outlives`), and with it every ledger; that a pairing ticket is consumed at most once is a count along
the same steps.
-/
namespace Mct

open Checked Maps
open Recovery (GuardianRecoveryCommandV1 RecoveryClockV1 TextSet)

/-- A day grant keeps its terms and is revoked for good; only the root may be gone. -/
def AdminKeyGrantV1.Later (grant : AdminKeyGrantV1) (later : Option AdminKeyGrantV1) : Prop :=
  grant.class_ = .recovery ∨ later = some grant ∨ later = some { grant with grantState := .revoked }

/-- A ticket keeps its terms and is consumed for good. -/
def PairingTicketV1.Later (ticket : PairingTicketV1) (later : Option PairingTicketV1) : Prop :=
  later = some ticket ∨ later = some { ticket with state := .consumed }

/-- Only an active scope is revised, to a higher revision. -/
def WatchObservationScope.Later (scope : WatchObservationScope) (later : Option WatchObservationScope) : Prop :=
  later = some scope ∨
    (scope.authorityState = .active ∧ ∃ next, later = some next ∧ (scope.scopeRevision : Nat) < next.scopeRevision)

theorem grantCycle : Lifecycle AdminKeyGrantV1.Later where
  refl := fun _ => .inr (.inl rfl)
  trans := by
    rintro grant _ o' (hroot | rfl | rfl) h
    · exact .inl hroot
    · exact h _ rfl
    · rcases h _ rfl with hroot | heq | heq
      · exact .inl hroot
      · exact .inr (.inr heq)
      · exact .inr (.inr heq)

theorem ticketCycle : Lifecycle PairingTicketV1.Later where
  refl := fun _ => .inl rfl
  trans := by
    rintro ticket _ o' (rfl | rfl) h
    · exact h _ rfl
    · rcases h _ rfl with heq | heq
      · exact .inr heq
      · exact .inr heq

theorem scopeCycle : Lifecycle WatchObservationScope.Later where
  refl := fun _ => .inl rfl
  trans := by
    rintro scope _ o' (rfl | ⟨hact, next, rfl, hlt⟩) h
    · exact h _ rfl
    · refine .inr ⟨hact, ?_⟩
      rcases h _ rfl with heq | ⟨-, last, heq, hlt'⟩
      · exact ⟨next, heq, hlt⟩
      · exact ⟨last, heq, hlt.trans hlt'⟩

/-- **What becomes of an authority state**, table by table; a table that is not named stays as it is. -/
structure Outlives (s s' : AuthorityStateV1) : Prop where
  grants : Evolves AdminKeyGrantV1.Later s.adminKeyGrants s'.adminKeyGrants := by exact grantCycle.same rfl
  records : Evolves (fun v o => o = some v) s.adminIssuance s'.adminIssuance := by exact lifecycle_kept.same rfl
  tickets : Evolves PairingTicketV1.Later s.pairingTickets s'.pairingTickets := by exact ticketCycle.same rfl
  scopes : Evolves WatchObservationScope.Later s.watchScopes s'.watchScopes := by exact scopeCycle.same rfl

variable {s s' s'' : AuthorityStateV1} {change : AuthorityChangeV1} {changes : List AuthorityChangeV1}

theorem Outlives.trans (h : Outlives s s') (h' : Outlives s' s'') : Outlives s s'' :=
  ⟨h.grants.trans grantCycle h'.grants, h.records.trans lifecycle_kept h'.records,
    h.tickets.trans ticketCycle h'.tickets, h.scopes.trans scopeCycle h'.scopes⟩

theorem Outlives.of_empty (h : s = .empty) : Outlives s s' := by
  subst h
  constructor <;> intro key v hget <;> simp [AuthorityStateV1.empty] at hget

variable [LedgerHost]

/-! ## Changes -/

theorem applyOrdinaryChange_outlives (h : applyOrdinaryChange s change = .ok s') : Outlives s s' := by
  cases change with
  | watchScopePut scope =>
    simp only [applyOrdinaryChange, applyWatchScopePut, bind_ok, exists_unit, pure_ok] at h
    obtain ⟨-, hrev, rfl⟩ := h
    refine { scopes := scopeCycle.insert fun current hcur => ?_ }
    simp only [hcur, checkWatchRevision, bind_ok, exists_unit, deny_ok, decide_eq_false_iff_not, not_not,
      checkedAdd_some] at hrev
    exact .inr ⟨hrev.1, scope, rfl, by omega⟩
  | adminKeyGrantPut =>
    simp only [applyOrdinaryChange, bind_ok, exists_unit] at h
    obtain ⟨-, -, h⟩ := h
    obtain ⟨-, -, ⟨hnew, -⟩, rfl⟩ := applyAdminKeyGrantPut_ok.mp h
    exact { grants := grantCycle.insert_new hnew }
  | adminKeyGrantRevoke =>
    simp only [applyOrdinaryChange, applyAdminKeyGrantRevoke, bind_ok, exists_unit, pure_ok, okOr_ok] at h
    obtain ⟨-, existing, hget, -, -, rfl⟩ := h
    refine { grants := grantCycle.insert fun v hv => ?_ }
    rw [hget] at hv
    cases hv
    exact .inr (.inr rfl)
  | pairingTicketIssued =>
    simp only [applyOrdinaryChange, applyPairingTicketIssued, bind_ok, exists_unit, pure_ok, deny_ok,
      Std.ExtTreeMap.contains_eq_isSome_getElem?, Option.isSome_eq_false_iff, Option.isNone_iff_eq_none] at h
    obtain ⟨-, -, hnew, rfl⟩ := h
    exact { tickets := ticketCycle.insert_new hnew }
  | pairingTicketConsumed =>
    simp only [applyOrdinaryChange, applyPairingTicketConsumed, bind_ok, exists_unit, pure_ok, okOr_ok] at h
    obtain ⟨-, -, ticket, hget, -, rfl⟩ := h
    refine { tickets := ticketCycle.insert fun v hv => ?_ }
    rw [hget] at hv
    cases hv
    exact .inr rfl
  | _ =>
    -- toys, and the exclusive transitions that never come here
    simp only [applyOrdinaryChange, applyToyCatalogPut, applyToyGrantPut, bind_ok, exists_unit, pure_ok] at h
    refine ⟨grantCycle.same ?_, lifecycle_kept.same ?_, ticketCycle.same ?_, scopeCycle.same ?_⟩ <;> grind

/-- How often a change consumes a ticket, and how often it was consumed in a state. -/
def AuthorityChangeV1.consumes (hash : String) : AuthorityChangeV1 → Nat
  | .pairingTicketConsumed ticketHash _ _ => if ticketHash = hash then 1 else 0
  | _ => 0

def AuthorityStateV1.consumed (state : AuthorityStateV1) (hash : String) : Nat :=
  if state.pairingTickets[hash]?.any (·.state == .consumed) then 1 else 0

omit [LedgerHost] in
theorem Outlives.consumed (h : Outlives s s') (hash : String) : s.consumed hash ≤ s'.consumed hash := by
  unfold AuthorityStateV1.consumed
  cases hget : s.pairingTickets[hash]? with
  | none => simp
  | some ticket =>
    rcases h.tickets hash ticket hget with heq | heq
    · rw [heq]
    · rw [heq]
      split <;> simp

theorem applyOrdinaryChange_consumes (h : applyOrdinaryChange s change = .ok s') (hash : String) :
    s.consumed hash + change.consumes hash ≤ s'.consumed hash := by
  have hout := (applyOrdinaryChange_outlives h).consumed hash
  cases change with
  | pairingTicketConsumed =>
    simp only [AuthorityChangeV1.consumes]
    split
    · rename_i hhash
      simp only [applyOrdinaryChange, applyPairingTicketConsumed, bind_ok, exists_unit, pure_ok, okOr_ok, deny_ok] at h
      obtain ⟨-, -, ticket, hget, hfresh, rfl⟩ := h
      simp [AuthorityStateV1.consumed, ← hhash, hget, hfresh]
    · exact hout
  | _ => exact hout

theorem foldChanges_outlives (h : changes.foldlM applyOrdinaryChange s = .ok s') :
    Outlives s s' ∧ ∀ hash, s.consumed hash + (changes.map (·.consumes hash)).sum ≤ s'.consumed hash := by
  induction changes generalizing s with
  | nil =>
    cases h
    exact ⟨{}, fun hash => le_rfl⟩
  | cons change changes ih =>
    rw [List.foldlM_cons, bind_ok] at h
    obtain ⟨middle, hstep, hrest⟩ := h
    obtain ⟨hout, hcount⟩ := ih hrest
    refine ⟨(applyOrdinaryChange_outlives hstep).trans hout, fun hash => ?_⟩
    have := applyOrdinaryChange_consumes hstep hash
    have := hcount hash
    rw [List.map_cons, List.sum_cons]
    omega

/-! ## Entries -/

theorem RecoveryChecked.stored {command : GuardianRecoveryCommandV1} {clock : RecoveryClockV1} {root : AdminKeyGrantV1}
    {next : Recovery.GuardianRecoveryStateV1} (h : RecoveryChecked s command clock root next) :
    s.adminKeyGrants[root.grantId]? = some root ∧ root.class_ = .recovery := by
  obtain ⟨hash, hhash, -⟩ := h.evaluated
  obtain ⟨hchk, -⟩ := authorityStateHash_ok.mp hhash
  have hclass := List.find?_some h.rooted
  obtain ⟨key, hkey⟩ := mem_values.mp (List.mem_of_find?_eq_some h.rooted)
  have hid := hchk.adminKeys (key, root) (Std.ExtTreeMap.mem_toList_iff_getElem?_eq_some.mpr hkey)
  refine ⟨?_, by simpa using hclass⟩
  rw [← show key = root.grantId from hid]
  exact hkey

omit [LedgerHost] in
theorem withRecoveredRoot_outlives {root : AdminKeyGrantV1} {binding : Recovery.OwnerBindingV1}
    (hroot : s.adminKeyGrants[root.grantId]? = some root) (hclass : root.class_ = .recovery)
    (hnew : s.adminKeyGrants[recoveredRootId binding]? = none) : Outlives s (s.withRecoveredRoot root binding) := by
  refine { grants := fun id grant hget => ?_, tickets := fun hash ticket hget => .inr ?_ }
  · by_cases hid : root.grantId = id
    · subst hid
      rw [hroot] at hget
      cases hget
      exact .inl hclass
    · have hne : recoveredRootId binding ≠ id := by
        rintro rfl
        rw [hnew] at hget
        cases hget
      rw [withRecoveredRoot_get, if_neg hne, if_neg hid, hget]
      exact .inr (.inr rfl)
  · simp [AuthorityStateV1.withRecoveredRoot, hget]

theorem applyAuthorityChanges_outlives (h : applyAuthorityChanges s changes = .ok s') :
    Outlives s s' ∧ ∀ hash, s.consumed hash + (changes.map (·.consumes hash)).sum ≤ s'.consumed hash := by
  obtain ⟨-, ⟨request, decidedAt, rfl, hissue⟩ | ⟨command, clock, rfl, hrecovery⟩ | ⟨-, -, -, -, hfold⟩⟩ :=
    applyAuthorityChanges_ok h
  · obtain ⟨issuer, hchk, rfl⟩ := applyAdminKeyIssue_ok hissue
    have hrec := hchk.newRecord
    rw [Std.ExtTreeMap.contains_eq_isSome_getElem?, Option.isSome_eq_false_iff, Option.isNone_iff_eq_none] at hrec
    exact ⟨{ grants := grantCycle.insert_new hchk.newGrant, records := lifecycle_kept.insert_new hrec }, fun _ => le_rfl⟩
  · obtain ⟨root, next, _, hchk, hnew, -, rfl⟩ := applyGuardianRecovery_ok.mp hrecovery
    have hout : Outlives s (s.recovered command root next) := by
      unfold AuthorityStateV1.recovered
      split
      · rename_i hcomp
        exact (withRecoveredRoot_outlives hchk.stored.1 hchk.stored.2 (hnew hcomp)).trans {}
      · exact {}
    exact ⟨hout, hout.consumed⟩
  · exact foldChanges_outlives hfold

variable {entry : MctObservationLedgerEntry} {l rest entries : List MctObservationLedgerEntry}
  {r r' replay : AuthorityReplayV1} {u u' : TextSet}

/-- A replay that could still take a legacy import has no authority yet. -/
theorem Replayed.importable (h : Replayed l r u) :
    r.imported = false → r.mutations.isEmpty = true → r.state.typedAuthority = false → r.state = .empty := by
  refine h.induction (fun _ r _ => r.imported = false → r.mutations.isEmpty = true →
    r.state.typedAuthority = false → r.state = .empty) (fun _ _ _ => rfl) ?_
  intro l entry r u r' u' _ ih hf himp hmutation htyped
  obtain ⟨-, rfl⟩ | ⟨fact, middle, env, pl, -, step, rfl⟩ := foldAuthorityEntry_replay hf
  · exact ih himp hmutation htyped
  cases step with
  | passkey _ _ _ _ hrep | genesis _ _ _ _ hrep =>
    subst hrep
    simp [AuthorityReplayV1.note, AuthorityReplayV1.record, AuthorityReplayV1.afterPasskey,
      AuthorityReplayV1.afterGenesis, AuthorityStateV1.typedAuthority] at htyped
  | epoch fact hash _ hrep =>
    subst hrep
    exact ih himp hmutation htyped
  | mutation fact resulting _ hrep =>
    subst hrep
    simp [AuthorityReplayV1.note, AuthorityReplayV1.record, AuthorityReplayV1.afterMutation] at hmutation
  | «import» fact _ _ _ hrep =>
    subst hrep
    cases himp

def ticketConsumptions (hash : String) (entry : MctObservationLedgerEntry) : Nat :=
  match factOf entry with
  | some (.authorityMutation fact) => (fact.changes.map (·.consumes hash)).sum
  | _ => 0

theorem AuthorityStep.outlives (h : AuthorityStep r entry s (factOf entry)) (hr : Replayed l r u) :
    Outlives r.state s ∧ ∀ hash, r.state.consumed hash + ticketConsumptions hash entry ≤ s.consumed hash := by
  unfold ticketConsumptions
  generalize factOf entry = fact at h
  cases h with
  | plain hstate | passkey _ _ _ hstate | epoch _ _ _ hstate =>
    subst hstate
    exact ⟨{}, fun _ => le_rfl⟩
  | genesis fact _ hempty =>
    have hout := @Outlives.of_empty _ s hempty
    exact ⟨hout, hout.consumed⟩
  | mutation fact hvalid =>
    obtain ⟨_, _, _, _, -, -, -, -, -, -, happ, -⟩ := validateAuthorityMutationFact_ok.mp hvalid
    exact applyAuthorityChanges_outlives happ
  | «import» fact hvalid himp hmutation hstate =>
    obtain ⟨_, _, _, htyped, -⟩ := validateLegacyImportFact_ok.mp hvalid
    have hout := @Outlives.of_empty _ s (hr.importable himp hmutation htyped)
    exact ⟨hout, hout.consumed⟩

theorem Replayed.outlives (hl : Replayed l r u) (h : Replayed (l ++ rest) r' u') : Outlives r.state r'.state := by
  induction rest using List.reverseRecOn generalizing r' u' with
  | nil =>
    rw [List.append_nil] at h
    obtain ⟨rfl, -⟩ := hl.unique h
    exact {}
  | append_singleton rest entry ih =>
    rw [← List.append_assoc] at h
    obtain ⟨middle, v, hm, hf⟩ := replayed_snoc h
    exact (ih hm).trans ((foldAuthorityEntry_step hf).1.outlives hm).1

/-- **Revoked grants, consumed tickets and closed scopes stay so**: every prefix of an accepted ledger is accepted, and
its state only moves on to the ledger's. -/
theorem authority_moves_on (h : replayAuthorityEntries (l ++ rest) = .ok replay) :
    ∃ earlier, replayAuthorityEntries l = .ok earlier ∧ Outlives earlier.state replay.state := by
  obtain ⟨u, h⟩ := replayAuthorityEntries_ok.mp h
  obtain ⟨r, v, hr, -⟩ := replayed_append h
  exact ⟨r, replayAuthorityEntries_ok.mpr ⟨v, hr⟩, hr.outlives h⟩

/-- **No pairing ticket is consumed twice** in an accepted ledger, and one that was consumed is recorded so. -/
theorem ticket_consumed_once (h : replayAuthorityEntries entries = .ok replay) (hash : String) :
    (entries.map (ticketConsumptions hash)).sum ≤ replay.state.consumed hash ∧ replay.state.consumed hash ≤ 1 := by
  obtain ⟨u, h⟩ := replayAuthorityEntries_ok.mp h
  constructor
  · refine h.induction (fun l r _ => (l.map (ticketConsumptions hash)).sum ≤ r.state.consumed hash) (Nat.zero_le _) ?_
    intro l entry r u r' u' hl ih hf
    have := ((foldAuthorityEntry_step hf).1.outlives hl).2 hash
    rw [List.map_append, List.sum_append, List.map_singleton, List.sum_singleton]
    omega
  · unfold AuthorityStateV1.consumed
    split <;> decide

end Mct

namespace Mct.LifecycleSample

open Checked
open Recovery.Sample (second key)
open Sample (Ledger nextEntry hostOf hostOf_serde writtenFact epochFact epochIdentity epoch_ledger epoch_admitted
  mutation_ledger bytes jsonObject watchScopeMembers)

/-! A day key, a ticket and a watch scope are opened by one mutation and closed by the next. -/

def unsealedScope (revision : ℕ+) (state : WatchObservationScopeState) : WatchObservationScope where
  watchScopeId := ⟨"watch", by decide⟩
  observerShape := .childToy
  observerRef := ⟨"watcher", ⟨"watch-artifact", by decide⟩, "1", ⟨"watch-assignment", by decide⟩⟩
  scopeMode := .constrained
  canonicalRootRef := ⟨"file:///tmp/source", by decide⟩
  traversalScope := .recursive
  eventClasses := ⟨[.created, .modified], by decide, by decide⟩
  maxEventsPerBatch := 16
  coalescingPolicy := .lastPerPath
  startsAt := second 0
  expiresAt := second 9
  scopeRevision := revision
  policyRevision := 1
  authorityState := state
  authorityObservationId := ⟨"watch-granted", by decide⟩
  canonicalRecordDigest := ""

def scopeAt (revision : ℕ+) (state : WatchObservationScopeState) : WatchObservationScope :=
  { unsealedScope revision state with
    canonicalRecordDigest :=
      "blake3:" ++ Blake3.hash (bytes (jsonObject (watchScopeMembers jsonObject (unsealedScope revision state)))) }

def dayKey : AdminKeyGrantV1 :=
  ⟨"day", (key 2).ed25519, none, .dayToDay, [.status], some (second 9), .active, none⟩

def stateOf (dayKey : AdminKeyGrantV1) (ticket : PairingTicketStateV1) (scope : WatchObservationScope) :
    AuthorityStateV1 :=
  { AuthorityStateV1.empty with
    adminKeyGrants := (∅ : TextMap AdminKeyGrantV1).insert "day" dayKey
    pairingTickets := (∅ : TextMap PairingTicketV1).insert "ab" ⟨"ab", ticket, none, none, none⟩
    watchScopes := (∅ : TextMap WatchObservationScope).insert "watch" scope }

def opened : AuthorityStateV1 := stateOf dayKey .issued (scopeAt 1 .active)

def closed : AuthorityStateV1 := stateOf { dayKey with grantState := .revoked } .consumed (scopeAt 2 .revoked)

def requestOf (mutationId : String) (changes : List AuthorityChangeV1) (n : Nat) : AuthorityMutationRequestV1 :=
  ⟨mutationId, changes, [.operatorDecision "d" "p" .grantChange], (second n).value⟩

def openRequest : AuthorityMutationRequestV1 :=
  requestOf "open" [.adminKeyGrantPut dayKey none, .pairingTicketIssued "ab" none none none none,
    .watchScopePut (scopeAt 1 .active)] 1

def closeRequest : AuthorityMutationRequestV1 :=
  requestOf "close" [.adminKeyGrantRevoke "day" none, .pairingTicketConsumed "ab" none none,
    .watchScopePut (scopeAt 2 .revoked)] 2

def openFact : AuthorityMutationFactV1 := writtenFact epochIdentity openRequest .empty opened

def closeFact : AuthorityMutationFactV1 :=
  writtenFact openFact.resultingState.grantsAuthority closeRequest opened closed

noncomputable scoped instance host : LedgerHost := hostOf { epochs := [epochFact], mutations := [openFact, closeFact] }

theorem serde : SerdeRoundTrip := hostOf_serde (by decide +kernel)

theorem scopeAt_valid (revision : ℕ+) (state : WatchObservationScopeState) : (scopeAt revision state).validate = .ok () := by
  have hdigest : (scopeAt revision state).canonicalRecordDigest = (scopeAt revision state).expectedRecordDigest := rfl
  simp only [WatchObservationScope.validate, bind_ok, exists_unit, deny_ok, decide_eq_false_iff_not, not_not]
  have hname : ensureNonBlank "WatchObserverRef" "child_name" "watcher" = .ok () := rfl
  have hversion : ensureNonBlank "WatchObserverRef" "artifact_version" "1" = .ok () := rfl
  have hlater : ¬ second 9 ≤ second 0 := by decide
  exact ⟨hname, hversion, (scopeAt revision state).canonicalRootRef.canonical, rfl, rfl, rfl, hlater, rfl, hdigest⟩

theorem scopes_checked {s : AuthorityStateV1} {revision : ℕ+} {state : WatchObservationScopeState}
    (h : s.watchScopes.toList = [("watch", scopeAt revision state)]) : validateWatchScopeState s = .ok () := by
  simp only [validateWatchScopeState, h, forM_ok, List.forall_mem_singleton, bind_ok, exists_unit, deny_ok, mapErr_ok]
  exact ⟨rfl, scopeAt_valid revision state⟩

theorem opened_checked : StateChecked opened := ⟨scopes_checked rfl, rfl, rfl, rfl, rfl, nofun⟩

theorem closed_checked : StateChecked closed := ⟨scopes_checked rfl, rfl, rfl, rfl, rfl, nofun⟩

theorem scope_put {s : AuthorityStateV1} {revision : ℕ+} {state : WatchObservationScopeState}
    (h : checkWatchRevision s.watchScopes["watch"]? (scopeAt revision state) = .ok ()) :
    applyWatchScopePut s (scopeAt revision state) =
      .ok { s with watchScopes := s.watchScopes.insert "watch" (scopeAt revision state) } := by
  simp only [applyWatchScopePut, bind_ok, exists_unit, mapErr_ok, pure_ok]
  exact ⟨scopeAt_valid revision state, h, rfl⟩

theorem three_apply {s s₁ s₂ s₃ : AuthorityStateV1} {c₁ c₂ c₃ : AuthorityChangeV1} (hpasskey : s.passkeyAdmin.isSome = false)
    (hissue : [c₁, c₂, c₃].any AuthorityChangeV1.isAdminKeyIssue = false)
    (hrecovery : [c₁, c₂, c₃].any AuthorityChangeV1.isGuardianRecovery = false)
    (hruntime : (s.guardianRecovery.isSome || !s.adminIssuance.isEmpty || s.adminGenesis.isSome) = false)
    (h₁ : applyOrdinaryChange s c₁ = .ok s₁) (h₂ : applyOrdinaryChange s₁ c₂ = .ok s₂)
    (h₃ : applyOrdinaryChange s₂ c₃ = .ok s₃) : applyAuthorityChanges s [c₁, c₂, c₃] = .ok s₃ := by
  unfold applyAuthorityChanges
  rw [hpasskey, hissue, hrecovery, hruntime]
  show [c₁, c₂, c₃].foldlM applyOrdinaryChange s = .ok s₃
  simp only [List.foldlM_cons, List.foldlM_nil, h₁, h₂, h₃, ok_bind]
  rfl

theorem open_applies : applyAuthorityChanges .empty openRequest.changes = .ok opened := by
  have hgrant : applyOrdinaryChange .empty (.adminKeyGrantPut dayKey none) =
      .ok { opened with pairingTickets := ∅, watchScopes := ∅ } := rfl
  have hticket : applyOrdinaryChange { opened with pairingTickets := ∅, watchScopes := ∅ }
      (.pairingTicketIssued "ab" none none none none) = .ok { opened with watchScopes := ∅ } := rfl
  have hscope : applyOrdinaryChange { opened with watchScopes := ∅ } (.watchScopePut (scopeAt 1 .active)) = .ok opened :=
    scope_put rfl
  exact three_apply rfl rfl rfl rfl hgrant hticket hscope

theorem close_applies : applyAuthorityChanges opened closeRequest.changes = .ok closed := by
  have hgrant : applyOrdinaryChange opened (.adminKeyGrantRevoke "day" none) =
      .ok { opened with adminKeyGrants := closed.adminKeyGrants } := rfl
  have hticket : applyOrdinaryChange { opened with adminKeyGrants := closed.adminKeyGrants }
      (.pairingTicketConsumed "ab" none none) = .ok { closed with watchScopes := opened.watchScopes } := rfl
  have hscope : applyOrdinaryChange { closed with watchScopes := opened.watchScopes }
      (.watchScopePut (scopeAt 2 .revoked)) = .ok closed := scope_put rfl
  exact three_apply rfl rfl rfl rfl hgrant hticket hscope

noncomputable def epochStart : MctObservationLedgerEntry := nextEntry [] (epochFact.observation (second 0)) (second 0)

noncomputable def openedLedger : List MctObservationLedgerEntry :=
  [epochStart, nextEntry [epochStart] (openFact.observation (second 1)) (second 1)]

noncomputable def closedLedger : List MctObservationLedgerEntry :=
  openedLedger ++ [nextEntry openedLedger (closeFact.observation (second 2)) (second 2)]

theorem openedLedger_replays : ∃ replay nonces grants, Ledger openedLedger replay openFact.resultingState.grantsAuthority
    opened ["open"] nonces grants := by
  obtain ⟨replay, h, -⟩ := epoch_ledger serde (second 0) epoch_admitted
  obtain ⟨replay', h'⟩ := mutation_ledger serde openRequest (second 1) h rfl (fun _ _ => rfl) rfl (fun _ _ => rfl)
    open_applies opened_checked (by decide) (by decide)
  exact ⟨replay', _, _, h'⟩

theorem closedLedger_replays : ∃ replay nonces grants, Ledger closedLedger replay closeFact.resultingState.grantsAuthority
    closed ["close", "open"] nonces grants := by
  obtain ⟨replay, _, _, h⟩ := openedLedger_replays
  obtain ⟨replay', h'⟩ := mutation_ledger serde closeRequest (second 2) h rfl (fun _ _ => rfl) rfl (fun _ _ => rfl)
    close_applies closed_checked (by decide) (by decide)
  exact ⟨replay', _, _, h'⟩

theorem written_consumptions {l : List MctObservationLedgerEntry} {fact : AuthorityMutationFactV1} {at_ : Timestamp}
    {hash : String} : ticketConsumptions hash (nextEntry l (fact.observation at_) at_) =
      (fact.changes.map (·.consumes hash)).sum := by
  unfold ticketConsumptions
  rw [(factOf_encoded serde rfl).trans (ofBody_mutation serde fact)]

/-- **The ticket of the ledger is consumed once, and that is recorded.** -/
theorem closed_ticket_consumed : ∃ replay, replayAuthorityEntries closedLedger = .ok replay ∧
    1 ≤ (closedLedger.map (ticketConsumptions "ab")).sum ∧
    (closedLedger.map (ticketConsumptions "ab")).sum ≤ replay.state.consumed "ab" ∧ replay.state.consumed "ab" ≤ 1 := by
  obtain ⟨replay, _, _, h⟩ := closedLedger_replays
  refine ⟨replay, h.accepted, ?_, ticket_consumed_once h.accepted "ab"⟩
  have hlast : ticketConsumptions "ab" (nextEntry openedLedger (closeFact.observation (second 2)) (second 2)) = 1 := by
    rw [written_consumptions]
    rfl
  rw [closedLedger, List.map_append, List.sum_append, List.map_singleton, List.sum_singleton, hlast]
  omega

end Mct.LifecycleSample
