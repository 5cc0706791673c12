import PatinaMct.Iter
import PatinaMct.Writer
/-!
# AuthorityWriter — tenures, mutations and the legacy import of an open ledger

The untyped authority operations of `JsonlObservationLedger`.  Each checks its request against the cached replay and
only then appends one canonical fact; the checks are a function of the handle (`admitTenure`, `admitMutation`,
`admitImport`) that either refuses or returns the fact to append.
-/
namespace Mct

open Checked

variable [LedgerHost]

/-! ## The handle -/

structure AuthorityWriterTenureV1 where
  fact : EpochEstablishedFactV1
  entry : MctObservationLedgerEntry

/-- The record of a tail recovery, as it is kept in the forensic directory. -/
structure LedgerRecoveryStatus where
  ledgerPath : String
  sourceLedgerId : String
  sourceMotherNodeId : String
  residueOffset : Nat
  residueLength : Nat
  residueDigest : String
  lastCommittedSequence : Option Nat
  lastCommittedHash : Option String
  failureClass : String
  recoveryDecisionId : String
  recoveryTime : String
  preservedBytesPath : String
  diagnosticRecordPath : String
  recoveryComplete : Bool
  deriving DecidableEq, Repr

/-- **An open ledger.**  The origin of the monotonic clock is not kept: its readings are arguments. -/
structure JsonlObservationLedger extends LedgerLog where
  createdNew : Bool
  recoveryStatus : Option LedgerRecoveryStatus
  authorityTenure : Option AuthorityWriterTenureV1
  recoveryWaitOffsetMs : Nat

/-- A reading of the system clock: its text parses as itself. -/
def SystemTime : Type := { time : Timestamp // Timestamp.new time.value = .ok time }

/-- `entries`: the items of the iterator, up to its first error. -/
def JsonlObservationLedger.entries (ledger : JsonlObservationLedger) :
    Except ObservationLedgerError (List MctObservationLedgerEntry) :=
  (iterItems ledger.path ledger.identity ledger.file).mapM id

def AuthorityReplayFailure.toLedgerError (e : AuthorityReplayFailure) : ObservationLedgerError := .authorityReplay e.detail

def JsonlObservationLedger.commitFact (ledger : JsonlObservationLedger) (observation : MctObservation) (at_ : String)
    (io : Io) : Except ObservationLedgerError MctObservationLedgerEntry × JsonlObservationLedger :=
  let (result, log) := ledger.toLedgerLog.appendCanonicalBeforeEffect observation at_ io
  (result, { ledger with toLedgerLog := log })

/-! ## Tenures -/

namespace JsonlObservationLedger

variable (ledger : JsonlObservationLedger)

def actualPredecessor : Except ObservationLedgerError AuthorityEpochPredecessorV1 :=
  if ledger.nextSequence = 0 then .ok .noneForVirgin else ledger.headPredecessor

def startupRelationValid (replay : AuthorityReplayV1) (actualPredecessor : AuthorityEpochPredecessorV1)
    (startup : AuthorityTenureStartupEvidenceV1) : Bool :=
  let empty : Bool := ledger.nextSequence == 0
  let ungated := noOperatorEvidence startup.operatorGateDecisionId startup.authenticatedPrincipalRef
  let complete := completeOperatorEvidence startup.operatorGateDecisionId startup.authenticatedPrincipalRef
  match startup.startupClass with
  | .virgin =>
    empty && replay.currentAuthority.isNone && startup.expectedPredecessor == .noneForVirgin && ungated
  | .operatorGatedNonvirgin =>
    -- a crash on the very first write leaves only recovery evidence, which is no prior history
    (empty || replay.tailRecoveryOnly) && replay.currentAuthority.isNone &&
      startup.expectedPredecessor == .noneAfterOperatorReinitialization && complete
  | .legacyLedgerUpgrade =>
    !empty && replay.currentAuthority.isNone && startup.expectedPredecessor == actualPredecessor && ungated
  | .ordinaryReopen =>
    !empty && replay.currentAuthority.isSome && startup.expectedPredecessor == actualPredecessor && ungated

def admitTenure (startup : AuthorityTenureStartupEvidenceV1) (startedAt : SystemTime)
    (entropy : Except String (Vector UInt8 32)) : Except ObservationLedgerError EpochEstablishedFactV1 := do
  let replay ← ledger.cachedReplay
  let predecessor ← ledger.actualPredecessor
  let stateHash ← mapErr (·.toLedgerError) (authorityStateHash replay.state)
  deny (trimmedEmpty startup.inventoryHash || !ledger.startupRelationValid replay predecessor startup ||
      startup.expectedPriorAuthority ≠ replay.currentAuthority || startup.expectedAuthorityStateHash ≠ stateHash)
    (.authorityReplay "explicit startup evidence does not match exclusive ledger rescan")
  let entropy ← mapErr (.io "<authority-epoch-entropy>") entropy
  return epochFactOf ledger.identity replay startup (freshAuthorityEpoch entropy) startedAt.1.value stateHash

def beginAuthorityTenureWithStartup (startup : AuthorityTenureStartupEvidenceV1) (startedAt : SystemTime)
    (entropy : Except String (Vector UInt8 32)) (io : Io) :
    Except ObservationLedgerError Unit × JsonlObservationLedger :=
  if ledger.authorityTenure.isSome then (.ok (), ledger)
  else
    match ledger.admitTenure startup startedAt entropy with
    | .error error => (.error error, ledger)
    | .ok fact =>
      match ledger.commitFact (fact.observation startedAt.1) startedAt.1.value io with
      | (.error error, ledger) => (.error error, ledger)
      | (.ok entry, ledger) => (.ok (), { ledger with authorityTenure := some ⟨fact, entry⟩ })

/-- The evidence that `begin_authority_tenure` infers from the ledger itself. -/
def inferredStartup :
    Except ObservationLedgerError AuthorityTenureStartupEvidenceV1 := do
  let replay ← ledger.cachedReplay
  let predecessor ← ledger.actualPredecessor
  let stateHash ← mapErr (·.toLedgerError) (authorityStateHash replay.state)
  return {
    startupClass :=
      if ledger.nextSequence = 0 then .virgin
      else if replay.currentAuthority.isSome then .ordinaryReopen
      else .legacyLedgerUpgrade
    expectedPredecessor := predecessor
    expectedPriorAuthority := replay.currentAuthority
    expectedAuthorityStateHash := stateHash
    inventoryHash := "legacy-inferred-startup-evidence"
    operatorGateDecisionId := none
    authenticatedPrincipalRef := none }

def beginAuthorityTenure (startedAt : SystemTime) (entropy : Except String (Vector UInt8 32)) (io : Io) :
    Except ObservationLedgerError Unit × JsonlObservationLedger :=
  if ledger.authorityTenure.isSome then (.ok (), ledger)
  else
    match ledger.inferredStartup with
    | .error error => (.error error, ledger)
    | .ok startup => ledger.beginAuthorityTenureWithStartup startup startedAt entropy io

end JsonlObservationLedger

/-! ## Mutations -/

inductive AuthorityMutationResolutionV1
  | newlyCommitted | resolvedExistingFact
  deriving DecidableEq, Repr

inductive AuthorityProjectionPendingReasonV1
  | projectionNotAttempted | projectionFailed | projectionStale
  deriving DecidableEq, Repr

inductive AuthorityMutationRejectionReasonV1
  | invalidRequest | importRequired | authorityEpochUnavailable | priorStateMismatch | mutationIdConflict
  | writerContended | writerPoisoned | legacySnapshotChanged | alreadyImported
  deriving DecidableEq, Repr

inductive AuthorityMutationResultV1
  | committed (mutationId : String) (resolution : AuthorityMutationResolutionV1) (factSequence : Nat)
      (factEntryHash : String) (grantsAuthority : GrantsAuthorityIdentityV1) (projectionHash : String)
  | committedProjectionPending (mutationId : String) (resolution : AuthorityMutationResolutionV1) (factSequence : Nat)
      (factEntryHash : String) (grantsAuthority : GrantsAuthorityIdentityV1)
      (pendingReason : AuthorityProjectionPendingReasonV1)
  | commitUnknown (mutationId attemptedIntentHash : String) (failureStage : AppendFailureStage)
  | rejectedBeforeCommit (mutationId : String) (reason : AuthorityMutationRejectionReasonV1)
  deriving DecidableEq, Repr

/-- The projection of a state into the caller's store: the hash of what it wrote, if it wrote. -/
abbrev Projection : Type := AuthorityStateV1 → Except String (Option String)

def finishProjectedMutation (fact : AuthorityMutationFactV1) (factSequence : Nat) (factEntryHash : String)
    (resolution : AuthorityMutationResolutionV1) : Except String (Option String) → AuthorityMutationResultV1
  | .ok (some projectionHash) =>
    .committed fact.mutationId resolution factSequence factEntryHash fact.resultingState.grantsAuthority projectionHash
  | .ok none =>
    .committedProjectionPending fact.mutationId resolution factSequence factEntryHash
      fact.resultingState.grantsAuthority .projectionNotAttempted
  | .error _ =>
    .committedProjectionPending fact.mutationId resolution factSequence factEntryHash
      fact.resultingState.grantsAuthority .projectionFailed

def failedAppend (mutationId attemptedIntentHash : String) : ObservationLedgerError → AuthorityMutationResultV1
  | .appendCommitUnknown _ stage _ => .commitUnknown mutationId attemptedIntentHash stage
  | .writerPoisoned _ => .rejectedBeforeCommit mutationId .writerPoisoned
  | _ => .rejectedBeforeCommit mutationId .invalidRequest

/-- What the checks of a mutation end in: the fact that is already there, or the one to append. -/
inductive MutationAdmission
  | existing (committed : CommittedAuthorityMutationV1) (state : AuthorityStateV1)
  | new (fact : AuthorityMutationFactV1) (resulting : AuthorityStateV1) (observedAt : Timestamp)

namespace JsonlObservationLedger

/-- A typed authority is there that the untyped path may not touch, or a passkey authority. -/
def closedTo (state : AuthorityStateV1) (typedPath : Bool) : Bool :=
  state.passkeyAdmin.isSome || (!typedPath &&
    (state.guardianRecovery.isSome || !state.adminIssuance.isEmpty || state.adminGenesis.isSome))

variable (ledger : JsonlObservationLedger)

def admitNewMutation (replay : AuthorityReplayV1) (intentHash : String) (request : AuthorityMutationRequestV1) :
    Except AuthorityMutationRejectionReasonV1 MutationAdmission := do
  let prior ← okOr replay.currentAuthority .authorityEpochUnavailable
  mapErr (fun _ => .invalidRequest) (validateIssuanceContext replay.adminGrantIds request.changes prior ledger.ledgerId
    request.mutationId request.decidedAt)
  mapErr (fun _ => .invalidRequest) (validateGuardianContext replay.state request.changes prior ledger.ledgerId
    request.decidedAt)
  mapErr (fun _ => .invalidRequest) (verifyAdminChangeSignatures replay.state replay.adminSignatureNonces
    ledger.motherNodeId ledger.ledgerId request.changes)
  let resulting ← mapErr (fun _ => .invalidRequest) (applyAuthorityChanges replay.state request.changes)
  let priorHash ← mapErr (fun _ => .priorStateMismatch) (authorityStateHash replay.state)
  let resultingHash ← mapErr (fun _ => .invalidRequest) (authorityStateHash resulting)
  let _ ← okOr (checkedAdd prior.generation 1) .invalidRequest
  -- the intent hash has parsed this time already
  let observedAt ← mapErr (fun _ => .invalidRequest) (Timestamp.new request.decidedAt)
  return .new (mutationFactOf ledger.identity prior request intentHash priorHash resultingHash) resulting observedAt

variable (request : AuthorityMutationRequestV1)

def admitMutation (typedPath : Bool) :
    Except AuthorityMutationRejectionReasonV1 MutationAdmission := do
  deny (!typedPath && request.changes.any fun change => change.isGuardianRecovery || change.isAdminKeyIssue)
    .invalidRequest
  deny ledger.authorityTenure.isNone .authorityEpochUnavailable
  deny ledger.isPoisoned .writerPoisoned
  let intentHash ← mapErr (fun _ => .invalidRequest) (authorityMutationIntentHash request)
  let replay ← mapErr (fun _ => .priorStateMismatch) ledger.cachedReplay
  deny (closedTo replay.state typedPath) .invalidRequest
  match replay.mutations[request.mutationId]? with
  | some existing => do
    deny (existing.fact.mutationIntentHash ≠ intentHash) .mutationIdConflict
    return .existing existing replay.state
  | none => ledger.admitNewMutation replay intentHash request

def executeAuthorityMutationValidated (projection : Projection) (typedPath : Bool) (io : Io) :
    AuthorityMutationResultV1 × JsonlObservationLedger :=
  match ledger.admitMutation request typedPath with
  | .error reason => (.rejectedBeforeCommit request.mutationId reason, ledger)
  | .ok (.existing existing state) =>
    (finishProjectedMutation existing.fact existing.entrySequence existing.entryHash .resolvedExistingFact
      (projection state), ledger)
  | .ok (.new fact resulting observedAt) =>
    match ledger.commitFact (fact.observation observedAt) fact.decidedAt io with
    | (.error error, ledger) => (failedAppend request.mutationId fact.mutationIntentHash error, ledger)
    | (.ok entry, ledger) =>
      (finishProjectedMutation fact entry.localSequence entry.entryHash .newlyCommitted (projection resulting), ledger)

def executeAuthorityMutationInner (projection : Projection) (typedPath : Bool) (io : Io) :
    AuthorityMutationResultV1 × JsonlObservationLedger :=
  if request.changes.any AuthorityChangeV1.isPairingTicketConsumed then
    (.rejectedBeforeCommit request.mutationId .invalidRequest, ledger)
  else ledger.executeAuthorityMutationValidated request projection typedPath io

def executeAuthorityMutation (projection : Projection) (io : Io) : AuthorityMutationResultV1 × JsonlObservationLedger :=
  ledger.executeAuthorityMutationInner request projection false io

/-- The one change of a pairing admission is the one that this peer may make at this time. -/
def admitsPairing (authenticatedPeer : EndpointIdText) (motherNow : Timestamp) : Bool :=
  match request.changes with
  | [.pairingTicketConsumed ticketHash (some admission) _] =>
    admission.authenticatedPeerEndpointId == authenticatedPeer.value && admission.admittedAt == motherNow &&
      request.decidedAt == motherNow.value &&
      match ledger.cachedReplay with
      | .ok replay => (validatePairingAdmission replay.state ticketHash admission).isOk
      | .error _ => false
  | _ => false

def executePairingTicketAdmission (authenticatedPeer : EndpointIdText) (motherNow : Timestamp) (projection : Projection)
    (io : Io) :
    AuthorityMutationResultV1 × JsonlObservationLedger :=
  if ledger.admitsPairing request authenticatedPeer motherNow then
    ledger.executeAuthorityMutationValidated request projection true io
  else (.rejectedBeforeCommit request.mutationId .invalidRequest, ledger)

/-! ## The legacy import -/

def admitImport (request : LegacyAuthorityImportRequestV1) (authenticatedPrincipalRef : String)
    (importedState : AuthorityStateV1) (decidedAt : String) :
    Except AuthorityMutationRejectionReasonV1 (LegacyAuthorityImportFactV1 × Timestamp) := do
  deny ledger.authorityTenure.isNone .authorityEpochUnavailable
  deny (request.schema ≠ "mct-legacy-authority-import-request/v1" || trimmedEmpty request.importId ||
      request.expectedMotherNodeId ≠ ledger.motherNodeId || request.expectedLedgerId ≠ ledger.ledgerId ||
      request.confirmation ≠ legacyAuthorityImportConfirmation)
    .invalidRequest
  let observedAt ← mapErr (fun _ => .invalidRequest) (Timestamp.new decidedAt)
  let replay ← mapErr (fun _ => .priorStateMismatch) ledger.cachedReplay
  deny replay.imported .alreadyImported
  deny (!replay.mutations.isEmpty) .priorStateMismatch
  let prior ← okOr replay.currentAuthority .authorityEpochUnavailable
  deny (importedState.typedAuthority || replay.state.typedAuthority) .invalidRequest
  let importedHash ← mapErr (fun _ => .invalidRequest) (authorityStateHash importedState)
  deny (importedHash ≠ request.expectedSqliteAuthorityHash) .legacySnapshotChanged
  let priorHash ← mapErr (fun _ => .priorStateMismatch) (authorityStateHash replay.state)
  let _ ← okOr (checkedAdd prior.generation 1) .invalidRequest
  return (importFactOf ledger.identity prior request authenticatedPrincipalRef importedState decidedAt priorHash
    importedHash, observedAt)

def executeLegacyAuthorityImport (request : LegacyAuthorityImportRequestV1) (authenticatedPrincipalRef : String)
    (importedState : AuthorityStateV1) (decidedAt : String) (io : Io) :
    AuthorityMutationResultV1 × JsonlObservationLedger :=
  match ledger.admitImport request authenticatedPrincipalRef importedState decidedAt with
  | .error reason => (.rejectedBeforeCommit request.importId reason, ledger)
  | .ok (fact, observedAt) =>
    match ledger.commitFact (fact.observation observedAt) decidedAt io with
    | (.error error, ledger) =>
      (failedAppend request.importId fact.resultingState.authorityStateHash error, ledger)
    | (.ok entry, ledger) =>
      (.committedProjectionPending request.importId .newlyCommitted entry.localSequence entry.entryHash
        fact.resultingState.grantsAuthority .projectionNotAttempted, ledger)

end JsonlObservationLedger

end Mct
