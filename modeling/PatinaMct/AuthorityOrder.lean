import PatinaMct.AuthorityStamp
import PatinaMct.Projection
/-!
# AuthorityOrder — the order of authority mutations and effect starts

One mutex per Mother orders the commits of authority mutations, the starts of effects and the recovery from a lost
acknowledgement.  A commit whose outcome is not a clean commit or a clean rejection fences the order: no commit and no
effect until an exclusive rescan of the ledger under a fresh tenure clears it.  `authority_effects_ordered` says for every
sequence of calls what a start, a commit and a clear need, in the terms of the events before them.
-/
namespace Mct

open Checked

/-! ## Records -/

inductive MotherAuthorityFenceReasonV1
  | commitUnknown | writerPoisoned | projectionLag | rescanUnresolved
  deriving DecidableEq, Repr

inductive MotherAuthorityCommitOutcomeV1
  | committed (mutationId : String) (currentExpectation : AuthorityProjectionExpectationV1)
  | committedProjectionPending (mutationId : String)
  | commitUnknown (mutationId : String)
  | writerPoisoned (mutationId : String)
  | rejectedBeforeCommit (mutationId : String)
  deriving DecidableEq, Repr

def MotherAuthorityCommitOutcomeV1.mutationId : MotherAuthorityCommitOutcomeV1 → String
  | .committed id _ | .committedProjectionPending id | .commitUnknown id | .writerPoisoned id
  | .rejectedBeforeCommit id => id

inductive MotherAuthorityAdmissionDenyV1
  | fenced (reason : MotherAuthorityFenceReasonV1)
  | exactAuthorityStateMismatch
  | authorityStateUnavailable
  | projection (reason : AuthorityProjectionDenyReasonV1)
  | projectionExpectationMismatch
  deriving DecidableEq, Repr

inductive MotherAuthorityRecoveryDenyV1
  | notFenced | exclusiveWriterUnavailable | freshWriterTenureRequired | ledgerReplayBlocked
  | mutationResolutionUnproven
  | projection (reason : AuthorityProjectionDenyReasonV1)
  | projectionExpectationMismatch
  deriving DecidableEq, Repr

inductive MutationResolutionRequirementV1
  | mustBeCommitted | presentOrAbsentAfterFullRescan
  deriving DecidableEq, Repr

/-- **The state behind the mutex.** -/
structure MotherAuthorityOrderV1 where
  currentExpectation : Option AuthorityProjectionExpectationV1
  fenced : Option MotherAuthorityFenceReasonV1
  pendingMutationResolutions : TextMap MutationResolutionRequirementV1

/-- Whether two expectations name the same authority identity and state, whatever head each was taken at. -/
def sameAuthorityState (left right : AuthorityProjectionExpectationV1) : Bool :=
  left.sourceMotherNodeId == right.sourceMotherNodeId && left.sourceLedgerId == right.sourceLedgerId &&
    left.grantsAuthority == right.grantsAuthority && left.authorityStateHash == right.authorityStateHash

def cursorMatchesExpectation (cursor : AuthorityProjectionCursorV1) (expectation : AuthorityProjectionExpectationV1) :
    Bool :=
  cursor.sourceMotherNodeId == expectation.sourceMotherNodeId && cursor.sourceLedgerId == expectation.sourceLedgerId &&
    cursor.throughSequence == expectation.throughSequence && cursor.throughEntryHash == expectation.throughEntryHash &&
    cursor.grantsAuthority == expectation.grantsAuthority &&
    cursor.authorityStateHash == expectation.authorityStateHash && cursor.projectionStatus == .current

namespace MotherAuthorityOrderV1

def new (initialExpectation : AuthorityProjectionExpectationV1) : MotherAuthorityOrderV1 :=
  ⟨some initialExpectation, none, ∅⟩

def unavailable : MotherAuthorityOrderV1 := ⟨none, some .rescanUnresolved, ∅⟩

/-! ## Commits -/

variable (order : MotherAuthorityOrderV1)

def fence (reason : MotherAuthorityFenceReasonV1) (mutationId : String) (requirement : MutationResolutionRequirementV1) :
    MotherAuthorityOrderV1 :=
  { order with
    fenced := some reason
    pendingMutationResolutions := order.pendingMutationResolutions.insert mutationId requirement }

/-- What the outcome of the commit closure does to the order.  A closure that reports another mutation says nothing about
the offered one. -/
def settle (mutationId : String) (outcome : MotherAuthorityCommitOutcomeV1) :
    MotherAuthorityOrderV1 :=
  if outcome.mutationId = mutationId then
    match outcome with
    | .committed _ currentExpectation => { order with currentExpectation := some currentExpectation }
    | .committedProjectionPending _ => order.fence .projectionLag mutationId .mustBeCommitted
    | .commitUnknown _ => order.fence .commitUnknown mutationId .presentOrAbsentAfterFullRescan
    | .writerPoisoned _ => order.fence .writerPoisoned mutationId .presentOrAbsentAfterFullRescan
    | .rejectedBeforeCommit _ => order
  else order.fence .commitUnknown mutationId .presentOrAbsentAfterFullRescan

def runsCommit (mutationId : String) : Bool :=
  !(order.fenced.isSome || trimmedEmpty mutationId)

def commitMutation {I : Type} (order : MotherAuthorityOrderV1) (mutationId : String) (intent : I)
    (commitFn : I → MotherAuthorityCommitOutcomeV1) : MotherAuthorityCommitOutcomeV1 × MotherAuthorityOrderV1 :=
  if order.runsCommit mutationId then (commitFn intent, order.settle mutationId (commitFn intent))
  else (.rejectedBeforeCommit mutationId, order)

/-! ## Effects -/

/-- **`admit_effect`**: the start closure runs exactly when the answer is not an error. -/
def admitEffect {R : Type} (order : MotherAuthorityOrderV1) (expectation : AuthorityProjectionExpectationV1)
    (proofFn : Unit → UsableAuthorityProjectionProofV1) (startFn : AuthorityProjectionExpectationV1 → R) :
    Except MotherAuthorityAdmissionDenyV1 R :=
  match order.fenced with
  | some reason => .error (.fenced reason)
  | none => do
    let current ← okOr order.currentExpectation .authorityStateUnavailable
    deny (!sameAuthorityState current expectation) .exactAuthorityStateMismatch
    match proofFn () with
    | .denied reason => .error (.projection reason)
    | .usable cursor =>
      deny (!cursorMatchesExpectation cursor expectation) .projectionExpectationMismatch
      return startFn expectation

end MotherAuthorityOrderV1

variable [ProjectionHost]

/-- The writer's verified head and replay, with the projection published and proven for that head. -/
structure ResidentProjectedAuthority where
  head : LedgerVerifiedHead
  replay : AuthorityReplayV1
  proven : Except LocalExecutionAuthoritySnapshotDenyV1 ProvenAuthorityProjectionV1

namespace MotherAuthorityOrderV1

/-- **`admit_effect_start`**: an effect that was authorised under the snapshot with expectation `snapshot`.  `projected`
is what the resident writer answers when it is asked for a fresh proof. -/
def admitEffectStart {R : Type} (order : MotherAuthorityOrderV1) (snapshot : AuthorityProjectionExpectationV1)
    (projected : Except String ResidentProjectedAuthority) (start : Unit → R) :
    Except MotherAuthorityAdmissionDenyV1 R := do
  let projected ← mapErr (fun _ => .authorityStateUnavailable) projected
  match projected.proven with
  | .error (.authorityProjection reason) => .error (.projection reason)
  | .error _ => .error .authorityStateUnavailable
  | .ok proven =>
    let current ← mapErr (fun _ => .authorityStateUnavailable)
      (authorityProjectionExpectationFromVerified projected.head projected.replay)
    deny (!sameAuthorityState snapshot current) .exactAuthorityStateMismatch
    order.admitEffect current (fun _ => .usable proven.cursor) (fun _ => start ())

/-! ## Recovery -/

variable (order : MotherAuthorityOrderV1) (ledger : JsonlObservationLedger) (stateStore : AuthorityProjectionTables)

def unproven (replay : AuthorityReplayV1) : Bool :=
  order.pendingMutationResolutions.toList.any fun (mutationId, requirement) =>
    requirement == .mustBeCommitted && !replay.mutations.contains mutationId

/-- The checks of the rescan: the tenure and the replay it found, and the expectation they establish. -/
def rescan :
    Except MotherAuthorityRecoveryDenyV1 (EpochEstablishedFactV1 × AuthorityReplayV1 × AuthorityProjectionExpectationV1) := do
  deny order.fenced.isNone .notFenced
  let tenure ← okOr (ledger.authorityTenure.filter fun _ => !ledger.isPoisoned) .exclusiveWriterUnavailable
  deny (order.currentExpectation.any fun previous =>
    previous.grantsAuthority.authorityEpoch == tenure.fact.authorityEpoch) .freshWriterTenureRequired
  let entries ← mapErr (fun _ => .ledgerReplayBlocked) ledger.entries
  let replay ← mapErr (fun _ => .ledgerReplayBlocked) (replayAuthorityEntries entries)
  deny (order.unproven replay) .mutationResolutionUnproven
  let head ← okOr entries.getLast? .ledgerReplayBlocked
  let authority ← okOr replay.currentAuthority .ledgerReplayBlocked
  deny (authority ≠ tenure.fact.resultingAuthority) .ledgerReplayBlocked
  let stateHash ← mapErr (fun _ => .ledgerReplayBlocked) (authorityStateHash replay.state)
  let expectation : AuthorityProjectionExpectationV1 :=
    ⟨head.motherNodeId, head.ledgerId, head.localSequence, head.entryHash, authority, stateHash⟩
  let proof ← mapErr (fun _ => .projection .projectionNotCurrent)
    (usableAuthorityProjectionProof stateStore (.validated expectation))
  match proof with
  | .denied reason => .error (.projection reason)
  | .usable cursor =>
    deny (!cursorMatchesExpectation cursor expectation) .projectionExpectationMismatch
    return (tenure.fact, replay, expectation)

def clearFenceAfterExclusiveRescan :
    Except MotherAuthorityRecoveryDenyV1 AuthorityProjectionExpectationV1 × MotherAuthorityOrderV1 :=
  match order.rescan ledger stateStore with
  | .error e => (.error e, order)
  | .ok (_, _, expectation) => (.ok expectation, ⟨some expectation, none, ∅⟩)

def authorityExpectationFromLedger (ledger : JsonlObservationLedger) :
    Except MotherAuthorityRecoveryDenyV1 AuthorityProjectionExpectationV1 := do
  let entries ← mapErr (fun _ => .ledgerReplayBlocked) ledger.entries
  let head ← okOr entries.getLast? .ledgerReplayBlocked
  let replay ← mapErr (fun _ => .ledgerReplayBlocked) (replayAuthorityEntries entries)
  let authority ← okOr replay.currentAuthority .ledgerReplayBlocked
  let stateHash ← mapErr (fun _ => .ledgerReplayBlocked) (authorityStateHash replay.state)
  return ⟨head.motherNodeId, head.ledgerId, head.localSequence, head.entryHash, authority, stateHash⟩

def fromLedger (ledger : JsonlObservationLedger) : MotherAuthorityOrderV1 :=
  match authorityExpectationFromLedger ledger with
  | .ok expectation => new expectation
  | .error _ => unavailable

/-- What the resident writer tells the order about the result of a mutation. -/
def orderOutcomeForResult (ledger : JsonlObservationLedger) : AuthorityMutationResultV1 → MotherAuthorityCommitOutcomeV1
  | .committed mutationId .. =>
    match authorityExpectationFromLedger ledger with
    | .ok currentExpectation => .committed mutationId currentExpectation
    | .error _ => .committedProjectionPending mutationId
  | .committedProjectionPending mutationId .. => .committedProjectionPending mutationId
  | .commitUnknown mutationId .. => .commitUnknown mutationId
  | .rejectedBeforeCommit mutationId .writerPoisoned => .writerPoisoned mutationId
  | .rejectedBeforeCommit mutationId _ => .rejectedBeforeCommit mutationId

end MotherAuthorityOrderV1

/-! ## Runs -/

/-- A call of the order.  A commit carries what its closure returns if it runs, an effect the fresh proof it gets. -/
inductive OrderCall
  | commit (mutationId : String) (outcome : MotherAuthorityCommitOutcomeV1)
  | admission (expectation : AuthorityProjectionExpectationV1) (proof : UsableAuthorityProjectionProofV1)
  | effect (snapshot : AuthorityProjectionExpectationV1) (projected : Except String ResidentProjectedAuthority)
  | clear (ledger : JsonlObservationLedger) (stateStore : AuthorityProjectionTables)

inductive OrderEvent
  /-- The commit closure ran for the offered mutation and reported `outcome`. -/
  | ran (mutationId : String) (outcome : MotherAuthorityCommitOutcomeV1)
  | refused (mutationId : String)
  /-- The start closure ran, for an effect authorised under `snapshot`. -/
  | started (snapshot : AuthorityProjectionExpectationV1)
  | denied (reason : MotherAuthorityAdmissionDenyV1)
  /-- The fence was cleared under this tenure, with this replay. -/
  | cleared (tenure : EpochEstablishedFactV1) (replay : AuthorityReplayV1) (expectation : AuthorityProjectionExpectationV1)
  | blocked (reason : MotherAuthorityRecoveryDenyV1)

namespace OrderCall

def startEvent {R : Type} (snapshot : AuthorityProjectionExpectationV1) : Except MotherAuthorityAdmissionDenyV1 R → OrderEvent
  | .ok _ => .started snapshot
  | .error reason => .denied reason

def clearEvent :
    Except MotherAuthorityRecoveryDenyV1 (EpochEstablishedFactV1 × AuthorityReplayV1 × AuthorityProjectionExpectationV1) →
      OrderEvent
  | .ok (tenure, replay, expectation) => .cleared tenure replay expectation
  | .error reason => .blocked reason

def event (order : MotherAuthorityOrderV1) : OrderCall → OrderEvent
  | .commit mutationId outcome => if order.runsCommit mutationId then .ran mutationId outcome else .refused mutationId
  | .admission expectation proof => startEvent expectation (order.admitEffect expectation (fun _ => proof) id)
  | .effect snapshot projected => startEvent snapshot (order.admitEffectStart snapshot projected id)
  | .clear ledger stateStore => clearEvent (order.rescan ledger stateStore)

def after (order : MotherAuthorityOrderV1) : OrderCall → MotherAuthorityOrderV1
  | .commit mutationId outcome => (order.commitMutation mutationId () fun _ => outcome).2
  | .admission _ _ => order
  | .effect _ _ => order
  | .clear ledger stateStore => (order.clearFenceAfterExclusiveRescan ledger stateStore).2

def presents : OrderCall → AuthorityProjectionExpectationV1 → AuthorityProjectionCursorV1 → Prop
  | .admission expectation proof, presented, cursor => presented = expectation ∧ proof = .usable cursor
  | .effect _ projected, presented, cursor => ∃ authority proven, projected = .ok authority ∧
      authority.proven = .ok proven ∧ cursor = proven.cursor ∧
      authorityProjectionExpectationFromVerified authority.head authority.replay = .ok presented
  | _, _, _ => False

end OrderCall

def MotherAuthorityOrderV1.run (order : MotherAuthorityOrderV1) (calls : List OrderCall) : MotherAuthorityOrderV1 :=
  calls.foldl OrderCall.after order

def MotherAuthorityOrderV1.history (order : MotherAuthorityOrderV1) : List OrderCall → List OrderEvent
  | [] => []
  | call :: calls => call.event order :: (call.after order).history calls

/-! ## What a history says -/

namespace OrderEvent

/-- The expectation that an event leaves: a clean commit's, or a clear's. -/
def leaves : OrderEvent → Option AuthorityProjectionExpectationV1
  | .ran mutationId (.committed reported expectation) => if reported = mutationId then some expectation else none
  | .cleared _ _ expectation => some expectation
  | _ => none

def fences : OrderEvent → Bool
  | .ran mutationId outcome =>
    outcome.mutationId ≠ mutationId ||
      match outcome with
      | .committed _ _ | .rejectedBeforeCommit _ => false
      | .committedProjectionPending _ | .commitUnknown _ | .writerPoisoned _ => true
  | _ => false

def clears : OrderEvent → Bool
  | .cleared _ _ _ => true
  | _ => false

end OrderEvent

variable {mutationId : String} {expectation started : AuthorityProjectionExpectationV1}
  {outcome : MotherAuthorityCommitOutcomeV1} {replay : AuthorityReplayV1} {tenure : EpochEstablishedFactV1}
  {next call : OrderCall} {calls : List OrderCall} {entries : List MctObservationLedgerEntry}
  {ledger : JsonlObservationLedger} {stateStore : AuthorityProjectionTables}

namespace OrderCall

omit [ProjectionHost]

variable {R : Type} {snapshot : AuthorityProjectionExpectationV1} {answer : Except MotherAuthorityAdmissionDenyV1 R}
  {found : Except MotherAuthorityRecoveryDenyV1 (EpochEstablishedFactV1 × AuthorityReplayV1 × AuthorityProjectionExpectationV1)}

@[simp] theorem startEvent_leaves : (startEvent snapshot answer).leaves = none := by
  cases answer <;> rfl

theorem startEvent_fences : (startEvent snapshot answer).fences = false := by
  cases answer <;> rfl

theorem startEvent_eq_started :
    startEvent snapshot answer = .started started ↔ snapshot = started ∧ ∃ result, answer = .ok result := by
  cases answer <;> simp [startEvent]

theorem startEvent_ne_cleared : startEvent snapshot answer ≠ .cleared tenure replay expectation := by
  cases answer <;> simp [startEvent]

theorem startEvent_ne_ran :
    startEvent snapshot answer ≠ .ran mutationId outcome := by
  cases answer <;> simp [startEvent]

theorem clearEvent_ne_ran :
    clearEvent found ≠ .ran mutationId outcome := by
  cases found <;> simp [clearEvent]

theorem clearEvent_ne_started : clearEvent found ≠ .started started := by
  cases found <;> simp [clearEvent]

theorem clearEvent_eq_cleared :
    clearEvent found = .cleared tenure replay expectation ↔ found = .ok (tenure, replay, expectation) := by
  rcases found with reason | ⟨tenure, replay, expectation⟩ <;> simp [clearEvent]

theorem clearEvent_leaves (h : (clearEvent found).leaves = some expectation) :
    ∃ tenure replay, found = .ok (tenure, replay, expectation) := by
  rcases found with reason | ⟨tenure, replay, left⟩ <;> cases h
  exact ⟨tenure, replay, rfl⟩

end OrderCall

def MotherAuthorityOrderV1.created : Option AuthorityProjectionExpectationV1 → MotherAuthorityOrderV1
  | some expectation => new expectation
  | none => unavailable

/-- The expectation left by the latest clean commit, clear or creation. -/
def latestExpectation (created : Option AuthorityProjectionExpectationV1) (events : List OrderEvent) :
    Option AuthorityProjectionExpectationV1 :=
  (events.filterMap OrderEvent.leaves).getLast?.or created

/-- **Nothing is uncertain**: every fencing commit has been followed by a clear, and so has a creation without an
expectation. -/
structure Unfenced (created : Option AuthorityProjectionExpectationV1) (events : List OrderEvent) : Prop where
  commits : ∀ before event after, events = before ++ event :: after → event.fences = true →
    ∃ later ∈ after, later.clears = true
  creation : created = none → ∃ event ∈ events, event.clears = true

/-- The mutation was left with its projection pending, and no clear has followed. -/
def LeftPending (events : List OrderEvent) (mutationId : String) : Prop :=
  ∃ before after, events = before ++ .ran mutationId (.committedProjectionPending mutationId) :: after ∧
    ∀ later ∈ after, later.clears = false

section History

omit [ProjectionHost]

variable {created : Option AuthorityProjectionExpectationV1} {events : List OrderEvent} {event : OrderEvent}
  {mutationId : String}

theorem latestExpectation_snoc :
    latestExpectation created (events ++ [event]) = event.leaves.or (latestExpectation created events) := by
  unfold latestExpectation
  cases hleaves : event.leaves with
  | none => simp [List.filterMap_append, hleaves]
  | some expectation => simp [List.filterMap_append, hleaves]

theorem eq_or_of_snoc {before after : List OrderEvent} {found : OrderEvent}
    (h : events ++ [event] = before ++ found :: after) :
    (after = [] ∧ found = event) ∨ ∃ front, after = front ++ [event] ∧ events = before ++ found :: front := by
  rcases List.eq_nil_or_concat after with rfl | ⟨front, last, rfl⟩
  · obtain ⟨-, hlast⟩ := List.append_inj' h rfl
    exact .inl ⟨rfl, (List.cons.inj hlast).1.symm⟩
  · rw [List.concat_eq_append, ← List.cons_append, ← List.append_assoc] at h
    obtain ⟨hfront, hlast⟩ := List.append_inj' h rfl
    exact .inr ⟨front, by rw [List.concat_eq_append, hlast], hfront⟩

theorem OrderEvent.fences_of_clears (h : event.clears = true) : event.fences = false := by
  cases event with
  | cleared tenure replay expectation => rfl
  | _ => cases h

theorem Unfenced.clear (h : event.clears = true) : Unfenced created (events ++ [event]) := by
  refine ⟨fun before fencing after heq hfences => ?_, fun _ => ⟨event, by simp, h⟩⟩
  obtain ⟨-, rfl⟩ | ⟨front, rfl, -⟩ := eq_or_of_snoc heq
  · rw [OrderEvent.fences_of_clears h] at hfences
    cases hfences
  · exact ⟨event, by simp, h⟩

theorem Unfenced.snoc (h : Unfenced created events) (hevent : event.fences = false) :
    Unfenced created (events ++ [event]) := by
  refine ⟨fun before fencing after heq hfences => ?_, fun hnone => ?_⟩
  · obtain ⟨-, rfl⟩ | ⟨front, rfl, hfront⟩ := eq_or_of_snoc heq
    · rw [hevent] at hfences
      cases hfences
    · obtain ⟨later, hlater, hclears⟩ := h.commits before fencing front hfront hfences
      exact ⟨later, by simp [hlater], hclears⟩
  · obtain ⟨clear, hclear, hclears⟩ := h.creation hnone
    exact ⟨clear, List.mem_append_left _ hclear, hclears⟩

theorem LeftPending.of_snoc (h : LeftPending (events ++ [event]) mutationId) :
    event = .ran mutationId (.committedProjectionPending mutationId) ∨
      LeftPending events mutationId ∧ event.clears = false := by
  obtain ⟨before, after, heq, hafter⟩ := h
  obtain ⟨-, hlast⟩ | ⟨front, rfl, hfront⟩ := eq_or_of_snoc heq
  · exact .inl hlast.symm
  · exact .inr ⟨⟨before, front, hfront, fun later hlater => hafter later (by simp [hlater])⟩, hafter event (by simp)⟩

theorem Unfenced.not_pending (h : Unfenced created events) : ¬ LeftPending events mutationId := by
  rintro ⟨before, after, heq, hafter⟩
  have hfences : OrderEvent.fences (.ran mutationId (.committedProjectionPending mutationId)) = true := by
    simp [OrderEvent.fences]
  obtain ⟨later, hlater, hclears⟩ := h.commits before _ after heq hfences
  rw [hafter later hlater] at hclears
  cases hclears

theorem latestExpectation_append {recent : List OrderEvent} (h : ∃ left ∈ recent, left.leaves.isSome) :
    ∃ left ∈ recent, ∃ expectation, left.leaves = some expectation ∧
      latestExpectation created (events ++ recent) = some expectation := by
  obtain ⟨left, hleft, hsome⟩ := h
  obtain ⟨expectation, hexpectation⟩ := Option.isSome_iff_exists.1 hsome
  have hne : recent.filterMap OrderEvent.leaves ≠ [] :=
    List.ne_nil_of_mem (List.mem_filterMap.2 ⟨left, hleft, hexpectation⟩)
  obtain ⟨last, hlast, hleaves⟩ := List.mem_filterMap.1 (List.getLast_mem hne)
  refine ⟨last, hlast, _, hleaves, ?_⟩
  rw [latestExpectation, List.filterMap_append, List.getLast?_append, List.getLast?_eq_some_getLast hne]
  rfl

end History

/-! ## What each call needs and leaves -/

namespace MotherAuthorityOrderV1

variable {order : MotherAuthorityOrderV1}

omit [ProjectionHost] in
theorem runsCommit_true (h : order.runsCommit mutationId = true) : order.fenced = none := by
  simp only [runsCommit, Bool.not_eq_true', Bool.or_eq_false_iff, Option.isSome_eq_false_iff, Option.isNone_iff_eq_none] at h
  exact h.1

omit [ProjectionHost] in
/-- **An admitted effect**: the order is not fenced, and the expectation is the order's and has a current proof. -/
theorem admitEffect_ok {R : Type}
    {proofFn : Unit → UsableAuthorityProjectionProofV1} {startFn : AuthorityProjectionExpectationV1 → R} {result : R}
    (h : order.admitEffect expectation proofFn startFn = .ok result) :
    order.fenced = none ∧ ∃ current cursor, order.currentExpectation = some current ∧
      sameAuthorityState current expectation = true ∧ proofFn () = .usable cursor ∧
      cursorMatchesExpectation cursor expectation = true := by
  unfold admitEffect at h
  split at h
  · cases h
  rename_i hfenced
  simp only [bind_ok, exists_unit, okOr_ok, deny_ok, Bool.not_eq_false'] at h
  obtain ⟨current, hcur, hsame, h⟩ := h
  split at h
  · cases h
  rename_i cursor hproof
  simp only [bind_ok, exists_unit, deny_ok, Bool.not_eq_false'] at h
  exact ⟨hfenced, current, cursor, hcur, hsame, hproof, h.1⟩

/-- **An effect start**: the fresh expectation names the snapshot's state, and the order admits it. -/
theorem admitEffectStart_ok {R : Type} {snapshot : AuthorityProjectionExpectationV1}
    {projected : Except String ResidentProjectedAuthority} {start : Unit → R} {result : R}
    (h : order.admitEffectStart snapshot projected start = .ok result) :
    ∃ authority proven current, projected = .ok authority ∧ authority.proven = .ok proven ∧
      authorityProjectionExpectationFromVerified authority.head authority.replay = .ok current ∧
      sameAuthorityState snapshot current = true ∧
      order.admitEffect current (fun _ => .usable proven.cursor) (fun _ => start ()) = .ok result := by
  simp only [admitEffectStart, bind_ok, mapErr_ok] at h
  obtain ⟨authority, hproj, h⟩ := h
  split at h
  · cases h
  · cases h
  rename_i proven hproven
  simp only [bind_ok, exists_unit, mapErr_ok, deny_ok, Bool.not_eq_false'] at h
  obtain ⟨current, hcur, hsame, h⟩ := h
  exact ⟨authority, proven, current, hproj, hproven, hcur, hsame, h⟩

/-- **A cleared fence**: a fresh tenure, and a replay of the whole ledger with every mutation that had to be in it. -/
theorem rescan_ok (h : order.rescan ledger stateStore = .ok (tenure, replay, expectation)) :
    (∀ previous, order.currentExpectation = some previous →
      previous.grantsAuthority.authorityEpoch ≠ tenure.authorityEpoch) ∧
    order.unproven replay = false ∧
    ∃ entries, ledger.entries = .ok entries ∧ replayAuthorityEntries entries = .ok replay ∧
      replay.currentAuthority = some expectation.grantsAuthority := by
  simp only [rescan, bind_ok, exists_unit, okOr_ok, mapErr_ok, deny_ok, decide_eq_false_iff_not, not_not] at h
  obtain ⟨-, found, -, hepoch, entries, hents, found', hrep, hunproven, head, -, authority, hauth, -, stateHash,
    -, proof, -, h⟩ := h
  split at h
  · cases h
  simp only [bind_ok, exists_unit, deny_ok, pure_ok, Prod.mk.injEq] at h
  obtain ⟨-, rfl, rfl, rfl⟩ := h
  refine ⟨fun previous hprev heq => ?_, hunproven, entries, hents, hrep, hauth⟩
  simp [hprev, heq] at hepoch

omit [ProjectionHost] in
theorem mem_mutations_of_unproven
    (h : order.unproven replay = false) (hpend : order.pendingMutationResolutions[mutationId]? = some .mustBeCommitted) :
    replay.mutations.contains mutationId = true := by
  simp only [unproven, List.any_eq_false, Prod.forall] at h
  have hmem := Std.ExtTreeMap.mem_toList_iff_getElem?_eq_some.2 hpend
  simpa using h mutationId .mustBeCommitted hmem

omit [ProjectionHost] in
theorem settle_clean (h : (OrderEvent.ran mutationId outcome).fences = false) :
    order.settle mutationId outcome =
      { order with currentExpectation := (OrderEvent.ran mutationId outcome).leaves.or order.currentExpectation } := by
  simp only [OrderEvent.fences, Bool.or_eq_false_iff, decide_eq_false_iff_not, ne_eq, not_not] at h
  obtain ⟨rfl, h⟩ := h
  cases outcome <;> simp_all [settle, OrderEvent.leaves, MotherAuthorityCommitOutcomeV1.mutationId]

omit [ProjectionHost] in
theorem settle_fences (order : MotherAuthorityOrderV1)
    (h : (OrderEvent.ran mutationId outcome).fences = true) :
    ∃ reason requirement, order.settle mutationId outcome = order.fence reason mutationId requirement ∧
      (OrderEvent.ran mutationId outcome).leaves = none ∧
      (outcome = .committedProjectionPending mutationId → requirement = .mustBeCommitted) := by
  by_cases hid : outcome.mutationId = mutationId
  · subst hid
    cases outcome with
    | committed reported expectation => simp [OrderEvent.fences] at h
    | committedProjectionPending reported => exact ⟨.projectionLag, .mustBeCommitted, if_pos rfl, rfl, fun _ => rfl⟩
    | commitUnknown reported =>
      exact ⟨.commitUnknown, .presentOrAbsentAfterFullRescan, if_pos rfl, rfl, fun hpend => by cases hpend⟩
    | writerPoisoned reported =>
      exact ⟨.writerPoisoned, .presentOrAbsentAfterFullRescan, if_pos rfl, rfl, fun hpend => by cases hpend⟩
    | rejectedBeforeCommit reported => simp [OrderEvent.fences] at h
  · refine ⟨.commitUnknown, .presentOrAbsentAfterFullRescan, if_neg hid, ?_, ?_⟩
    · cases outcome with
      | committed reported expectation => exact if_neg hid
      | _ => rfl
    · rintro rfl
      exact absurd rfl hid

end MotherAuthorityOrderV1

open MotherAuthorityOrderV1

/-! ## Every run -/

/-- **The order agrees with its history.** -/
structure OrderInv (created : Option AuthorityProjectionExpectationV1) (events : List OrderEvent)
    (order : MotherAuthorityOrderV1) : Prop where
  expectation : order.currentExpectation = latestExpectation created events
  unfenced : order.fenced = none → Unfenced created events
  pending : ∀ mutationId, LeftPending events mutationId →
    order.pendingMutationResolutions[mutationId]? = some .mustBeCommitted

section Runs

variable {created : Option AuthorityProjectionExpectationV1} {events : List OrderEvent} {order : MotherAuthorityOrderV1}

omit [ProjectionHost] in
theorem OrderInv.init : OrderInv created [] (.created created) := by
  refine ⟨?_, fun hfenced => ⟨fun before event after heq => ?_, fun hnone => ?_⟩, ?_⟩
  · cases created <;> rfl
  · cases before <;> cases heq
  · subst hnone
    cases hfenced
  · rintro mutationId ⟨before, after, heq, -⟩
    cases before <;> cases heq

omit [ProjectionHost] in
theorem OrderInv.same {event : OrderEvent} (h : OrderInv created events order) (hleaves : event.leaves = none)
    (hfences : event.fences = false) : OrderInv created (events ++ [event]) order := by
  refine ⟨?_, fun hfenced => (h.unfenced hfenced).snoc hfences, fun mutationId hpend => ?_⟩
  · rw [latestExpectation_snoc, hleaves]
    exact h.expectation
  · rcases hpend.of_snoc with rfl | ⟨hpend, -⟩
    · simp [OrderEvent.fences] at hfences
    · exact h.pending mutationId hpend

omit [ProjectionHost] in
/-- A commit that ran.  It ran because nothing was uncertain, so no earlier mutation waits for its resolution. -/
theorem OrderInv.ran (h : OrderInv created events order)
    (hruns : order.fenced = none) :
    OrderInv created (events ++ [.ran mutationId outcome]) (order.settle mutationId outcome) := by
  have hunfenced := h.unfenced hruns
  cases hfences : (OrderEvent.ran mutationId outcome).fences with
  | false =>
    rw [settle_clean hfences]
    refine ⟨?_, fun _ => hunfenced.snoc hfences, fun waiting hpend => ?_⟩
    · rw [latestExpectation_snoc, h.expectation]
    · rcases hpend.of_snoc with heq | ⟨hpend, -⟩
      · rw [heq] at hfences
        simp [OrderEvent.fences] at hfences
      · exact absurd hpend hunfenced.not_pending
  | true =>
    obtain ⟨reason, requirement, hset, hleaves, hreq⟩ :=
      order.settle_fences hfences
    rw [hset]
    refine ⟨?_, fun hnone => (by cases hnone), fun waiting hpend => ?_⟩
    · rw [latestExpectation_snoc, hleaves]
      exact h.expectation
    · rcases hpend.of_snoc with heq | ⟨hpend, -⟩
      · obtain ⟨rfl, houtcome⟩ := OrderEvent.ran.inj heq
        rw [hreq houtcome]
        exact Std.ExtTreeMap.getElem?_insert_self
      · exact absurd hpend hunfenced.not_pending

theorem OrderInv.step (h : OrderInv created events order) (call : OrderCall) :
    OrderInv created (events ++ [call.event order]) (call.after order) := by
  cases call with
  | commit mutationId outcome =>
    simp only [OrderCall.event, OrderCall.after, commitMutation]
    split
    · rename_i hruns
      exact h.ran (runsCommit_true hruns)
    · exact h.same rfl rfl
  | admission expectation proof =>
    exact h.same OrderCall.startEvent_leaves OrderCall.startEvent_fences
  | effect snapshot projected =>
    exact h.same OrderCall.startEvent_leaves OrderCall.startEvent_fences
  | clear ledger stateStore =>
    simp only [OrderCall.event, OrderCall.after, clearFenceAfterExclusiveRescan]
    cases order.rescan ledger stateStore with
    | error reason => exact h.same rfl rfl
    | ok found =>
      obtain ⟨tenure, replay, expectation⟩ := found
      refine ⟨?_, fun _ => .clear rfl, fun mutationId hpend => ?_⟩
      · rw [latestExpectation_snoc]
        rfl
      · rcases hpend.of_snoc with heq | ⟨-, hclears⟩
        · cases heq
        · cases hclears

theorem MotherAuthorityOrderV1.history_append (calls later : List OrderCall) :
    order.history (calls ++ later) = order.history calls ++ (order.run calls).history later := by
  induction calls generalizing order with
  | nil => rfl
  | cons call calls ih =>
    rw [List.cons_append, history, history, ih]
    rfl

theorem MotherAuthorityOrderV1.run_append (calls later : List OrderCall) :
    order.run (calls ++ later) = (order.run calls).run later :=
  List.foldl_append

/-- **The order agrees with its history after every run.** -/
theorem OrderInv.run (calls : List OrderCall) :
    OrderInv created ((MotherAuthorityOrderV1.created created).history calls)
      ((MotherAuthorityOrderV1.created created).run calls) := by
  induction calls using List.reverseRecOn with
  | nil => exact .init
  | append_singleton calls call ih =>
    rw [history_append, run_append]
    exact ih.step call

end Runs

/-! ## The order of effects -/

/-- The call takes what it tells the order from a ledger that begins with `q`. -/
def OrderCall.ReadsFrom (q : List MctObservationLedgerEntry) : OrderCall → Prop
  | .commit _ (.committed _ expectation) => ∃ ledger entries, ledger.entries = .ok entries ∧ q <+: entries ∧
      MotherAuthorityOrderV1.authorityExpectationFromLedger ledger = .ok expectation
  | .clear ledger _ => ∀ entries, ledger.entries = .ok entries → q <+: entries
  | _ => True

/-- **Effects in authority order**: what the call `next` needs after `calls`. -/
structure EffectsOrdered (created : Option AuthorityProjectionExpectationV1) (calls : List OrderCall) (next : OrderCall) :
    Prop where
  /-- A start needs that nothing is uncertain, and an expectation with a current proof that names the snapshot's state and
  the state the order was left with. -/
  starts : ∀ snapshot, next.event ((MotherAuthorityOrderV1.created created).run calls) = .started snapshot →
    Unfenced created ((MotherAuthorityOrderV1.created created).history calls) ∧
    ∃ latest presented cursor,
      latestExpectation created ((MotherAuthorityOrderV1.created created).history calls) = some latest ∧
      next.presents presented cursor ∧ sameAuthorityState snapshot presented = true ∧
      sameAuthorityState latest presented = true ∧ cursorMatchesExpectation cursor presented = true
  /-- No commit closure runs while anything is uncertain. -/
  commits : ∀ mutationId outcome,
    next.event ((MotherAuthorityOrderV1.created created).run calls) = .ran mutationId outcome →
    Unfenced created ((MotherAuthorityOrderV1.created created).history calls)
  /-- A clear needs a fresh tenure and every mutation left with its projection pending. -/
  clears : ∀ tenure replay expectation,
    next.event ((MotherAuthorityOrderV1.created created).run calls) = .cleared tenure replay expectation →
    (∀ previous, latestExpectation created ((MotherAuthorityOrderV1.created created).history calls) = some previous →
      previous.grantsAuthority.authorityEpoch ≠ tenure.authorityEpoch) ∧
    ∀ mutationId, LeftPending ((MotherAuthorityOrderV1.created created).history calls) mutationId →
      replay.mutations.contains mutationId = true
  /-- Under a snapshot taken at the ledger `p`, nothing starts after a mutation has committed a later fact of the ledger
  `q`, whatever its acknowledgement was. -/
  superseded : ∀ earlier later mutationId outcome p q replay snapshot,
    calls = earlier ++ .commit mutationId outcome :: later →
    ((MotherAuthorityOrderV1.created created).run earlier).runsCommit mutationId = true →
    outcome ≠ .rejectedBeforeCommit mutationId →
    (∀ call ∈ .commit mutationId outcome :: later, call.ReadsFrom q) →
    replayAuthorityEntries p = .ok replay → replay.currentAuthority = some snapshot.grantsAuthority →
    p <+: q → (∃ entry ∈ q.drop p.length, authorityPayload entry ≠ none) →
    next.event ((MotherAuthorityOrderV1.created created).run calls) ≠ .started snapshot

section Ordered

variable {order : MotherAuthorityOrderV1} {q : List MctObservationLedgerEntry}

omit [ProjectionHost] in
theorem sameAuthorityState_grants {left right : AuthorityProjectionExpectationV1} (h : sameAuthorityState left right = true) :
    left.grantsAuthority = right.grantsAuthority := by
  simp only [sameAuthorityState, Bool.and_eq_true, beq_iff_eq] at h
  exact h.1.2

theorem authorityExpectationFromLedger_ok (hents : ledger.entries = .ok entries)
    (h : authorityExpectationFromLedger ledger = .ok expectation) :
    ∃ replay, replayAuthorityEntries entries = .ok replay ∧ replay.currentAuthority = some expectation.grantsAuthority := by
  simp only [authorityExpectationFromLedger, hents, mapErr_ok, bind_ok, okOr_ok, pure_ok] at h
  obtain ⟨found, hfound, head, -, replay, hrep, authority, hauth, stateHash, -, rfl⟩ := h
  cases hfound
  exact ⟨replay, hrep, hauth⟩

/-- What a call that reads from `q` leaves is the identity of a ledger that begins with `q`. -/
theorem OrderCall.ReadsFrom.leaves (h : call.ReadsFrom q) (hleaves : (call.event order).leaves = some expectation) :
    ∃ entries replay, q <+: entries ∧ replayAuthorityEntries entries = .ok replay ∧
      replay.currentAuthority = some expectation.grantsAuthority := by
  cases call with
  | commit mutationId outcome =>
    simp only [event] at hleaves
    split at hleaves
    · cases outcome with
      | committed reported left =>
        simp only [OrderEvent.leaves, Option.ite_none_right_eq_some, Option.some.injEq] at hleaves
        obtain ⟨-, rfl⟩ := hleaves
        obtain ⟨ledger, entries, hents, hq, hexpectation⟩ := h
        obtain ⟨replay, hrep, hauth⟩ := authorityExpectationFromLedger_ok hents hexpectation
        exact ⟨entries, replay, hq, hrep, hauth⟩
      | _ => cases hleaves
    · cases hleaves
  | admission presented proof =>
    simp [event] at hleaves
  | effect snapshot projected =>
    simp [event] at hleaves
  | clear ledger stateStore =>
    obtain ⟨tenure, replay, hres⟩ := clearEvent_leaves hleaves
    obtain ⟨-, -, entries, hents, hrep, hauth⟩ := rescan_ok hres
    exact ⟨entries, replay, h entries hents, hrep, hauth⟩

theorem OrderCall.ReadsFrom.history (h : ∀ call ∈ calls, call.ReadsFrom q) {event : OrderEvent}
    (hevent : event ∈ order.history calls)
    (hleaves : event.leaves = some expectation) :
    ∃ entries replay, q <+: entries ∧ replayAuthorityEntries entries = .ok replay ∧
      replay.currentAuthority = some expectation.grantsAuthority := by
  induction calls generalizing order with
  | nil => cases hevent
  | cons call calls ih =>
    rcases List.mem_cons.1 hevent with rfl | hevent
    · exact (h call List.mem_cons_self).leaves hleaves
    · exact ih (fun other hother => h other (List.mem_cons_of_mem call hother)) hevent

omit [ProjectionHost] in
theorem OrderEvent.leaves_or_fences (h : outcome ≠ .rejectedBeforeCommit mutationId) :
    (OrderEvent.ran mutationId outcome).leaves.isSome = true ∨ (OrderEvent.ran mutationId outcome).fences = true := by
  by_cases hid : outcome.mutationId = mutationId
  · subst hid
    cases outcome with
    | committed reported expectation => exact .inl (by simp [leaves, MotherAuthorityCommitOutcomeV1.mutationId])
    | rejectedBeforeCommit reported => exact absurd rfl h
    | _ => exact .inr (by simp [fences])
  · exact .inr (by simp [fences, hid])

theorem OrderCall.of_started {snapshot : AuthorityProjectionExpectationV1}
    (h : next.event order = .started snapshot) :
    order.fenced = none ∧ ∃ current presented cursor, order.currentExpectation = some current ∧
      next.presents presented cursor ∧ sameAuthorityState snapshot presented = true ∧
      sameAuthorityState current presented = true ∧ cursorMatchesExpectation cursor presented = true := by
  cases next with
  | commit mutationId outcome =>
    simp only [event] at h
    split at h <;> cases h
  | admission expectation proof =>
    obtain ⟨rfl, result, hadm⟩ := startEvent_eq_started.1 h
    obtain ⟨hfenced, current, cursor, hcur, hsame, hproof, hmatch⟩ := admitEffect_ok hadm
    exact ⟨hfenced, current, expectation, cursor, hcur, ⟨rfl, hproof⟩, by simp [sameAuthorityState], hsame, hmatch⟩
  | effect taken projected =>
    obtain ⟨rfl, result, hstart⟩ := startEvent_eq_started.1 h
    obtain ⟨authority, proven, presented, hproj, hproven, hpres, hsnapshot, hadm⟩ :=
      admitEffectStart_ok hstart
    obtain ⟨hfenced, current, cursor, hcur, hsame, hproof, hmatch⟩ := admitEffect_ok hadm
    cases hproof
    exact ⟨hfenced, current, presented, proven.cursor, hcur, ⟨authority, proven, hproj, hproven, rfl, hpres⟩,
      hsnapshot, hsame, hmatch⟩
  | clear ledger stateStore => exact absurd h clearEvent_ne_started

theorem OrderCall.ran (h : next.event order = .ran mutationId outcome) : order.fenced = none := by
  cases next with
  | commit offered reported =>
    simp only [event] at h
    split at h
    · rename_i hruns
      exact runsCommit_true hruns
    · cases h
  | admission expectation proof => exact absurd h startEvent_ne_ran
  | effect taken projected => exact absurd h startEvent_ne_ran
  | clear ledger stateStore => exact absurd h clearEvent_ne_ran

theorem OrderCall.cleared (h : next.event order = .cleared tenure replay expectation) :
    (∀ previous, order.currentExpectation = some previous →
      previous.grantsAuthority.authorityEpoch ≠ tenure.authorityEpoch) ∧ order.unproven replay = false := by
  cases next with
  | commit offered reported =>
    simp only [event] at h
    split at h <;> cases h
  | admission expectation proof => exact absurd h startEvent_ne_cleared
  | effect taken projected => exact absurd h startEvent_ne_cleared
  | clear ledger stateStore =>
    obtain ⟨hepoch, hunproven, -⟩ := rescan_ok (clearEvent_eq_cleared.1 h)
    exact ⟨hepoch, hunproven⟩

/-- Where nothing is uncertain after a commit that was not rejected, an expectation has been left from the commit on. -/
theorem left_since_commit {created : Option AuthorityProjectionExpectationV1} {before : List OrderEvent}
    {later : List OrderCall}
    (h : Unfenced created (before ++ order.history (.commit mutationId outcome :: later)))
    (hruns : order.runsCommit mutationId = true) (hreported : outcome ≠ .rejectedBeforeCommit mutationId) :
    ∃ left ∈ order.history (.commit mutationId outcome :: later), left.leaves.isSome = true := by
  have hran : OrderCall.event order (.commit mutationId outcome) = .ran mutationId outcome := if_pos hruns
  rw [MotherAuthorityOrderV1.history, hran] at h ⊢
  rcases OrderEvent.leaves_or_fences hreported with hleaves | hfences
  · exact ⟨_, List.mem_cons_self, hleaves⟩
  · obtain ⟨clear, hclear, hclears⟩ := h.commits before _ _ rfl hfences
    refine ⟨clear, List.mem_cons_of_mem _ hclear, ?_⟩
    cases clear with
    | cleared tenure replay expectation => rfl
    | _ => cases hclears

theorem unmarked_between {p : List MctObservationLedgerEntry} {later : AuthorityReplayV1}
    (hp : replayAuthorityEntries p = .ok replay) (hents : replayAuthorityEntries entries = .ok later)
    (heq : replay.currentAuthority = later.currentAuthority) (hq : q <+: entries) (hpq : p <+: q) :
    ∀ entry ∈ q.drop p.length, authorityPayload entry = none := by
  obtain ⟨between, rfl⟩ := hpq
  obtain ⟨rest, rfl⟩ := hq
  obtain ⟨usedEpochs, hp⟩ := replayAuthorityEntries_ok.1 hp
  obtain ⟨usedEpochs', hents⟩ := replayAuthorityEntries_ok.1 hents
  rw [List.append_assoc] at hents
  intro entry hentry
  rw [List.drop_left] at hentry
  exact unmarked_of_stamp_eq hents hp heq entry (List.mem_append_left rest hentry)

end Ordered

/-- **Effects start in authority order**, after every sequence of calls. -/
theorem authority_effects_ordered (created : Option AuthorityProjectionExpectationV1) (calls : List OrderCall)
    (next : OrderCall) : EffectsOrdered created calls next := by
  have inv : OrderInv created _ _ := .run calls
  refine ⟨fun snapshot h => ?_, fun mutationId outcome h => inv.unfenced (OrderCall.ran h),
    fun tenure replay expectation h => ?_, fun earlier later mutationId outcome p q replay snapshot hcalls hruns hreported hreads hrep hsnapshot hpq
      hfact h => ?_⟩
  · obtain ⟨hfenced, current, presented, cursor, hcur, hpresents, hsnapshot, hsame, hmatch⟩ := OrderCall.of_started h
    exact ⟨inv.unfenced hfenced, current, presented, cursor, inv.expectation ▸ hcur, hpresents, hsnapshot, hsame, hmatch⟩
  · obtain ⟨hepoch, hunproven⟩ := OrderCall.cleared h
    refine ⟨fun previous hprev => hepoch previous (inv.expectation ▸ hprev), fun mutationId hpend => ?_⟩
    exact mem_mutations_of_unproven hunproven (inv.pending mutationId hpend)
  · obtain ⟨hfenced, current, presented, cursor, hcur, -, hpres, hsame, -⟩ := OrderCall.of_started h
    have hgrants : current.grantsAuthority = snapshot.grantsAuthority :=
      (sameAuthorityState_grants hsame).trans (sameAuthorityState_grants hpres).symm
    -- the order's expectation was left by an event from the commit on, so it comes from a ledger that begins with `q`
    rw [hcalls, history_append] at inv
    obtain ⟨left, hleft, expectation, hleaves, hlatest⟩ :=
      latestExpectation_append (left_since_commit (inv.unfenced (hcalls ▸ hfenced)) hruns hreported)
    obtain ⟨entries, later, hq, hents, hauth⟩ := OrderCall.ReadsFrom.history hreads hleft hleaves
    have hcur' : expectation = current :=
      Option.some.inj ((hlatest.symm.trans inv.expectation.symm).trans (hcalls ▸ hcur))
    have hidentity : replay.currentAuthority = later.currentAuthority := by
      rw [hsnapshot, hauth, hcur', hgrants]
    obtain ⟨entry, hentry, hmarked⟩ := hfact
    exact hmarked (unmarked_between hrep hents hidentity hq hpq entry hentry)

/-- An effect starts under the state of the last clean commit; none does after a commit whose outcome is unknown. -/
example (created committed : AuthorityProjectionExpectationV1) (cursor : AuthorityProjectionCursorV1)
    (h : cursorMatchesExpectation cursor committed = true) :
    (MotherAuthorityOrderV1.new created).history
        [.commit "m1" (.committed "m1" committed), .admission committed (.usable cursor),
          .commit "m2" (.commitUnknown "m2"), .admission committed (.usable cursor)] =
      [.ran "m1" (.committed "m1" committed), .started committed, .ran "m2" (.commitUnknown "m2"),
        .denied (.fenced .commitUnknown)] := by
  let order : MotherAuthorityOrderV1 := ⟨some committed, none, ∅⟩
  have hstart : OrderCall.event order (.admission committed (.usable cursor)) = .started committed := by
    simp [order, OrderCall.event, MotherAuthorityOrderV1.admitEffect, sameAuthorityState, okOr, deny, ok_bind, h,
      OrderCall.startEvent]
  show [_, OrderCall.event order (.admission committed (.usable cursor)), _, _] = _
  rw [hstart]
  rfl

end Mct
