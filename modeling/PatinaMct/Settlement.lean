import PatinaMct.CallTables
/-!
# Settlement — what a restart does with calls that the prior tenure left unfinished

The start of a tenure reads the reservations in flight and the unfinished runs, decides from the runs and the ledger what
became of each (`settlements`), appends one fact per decision and then changes the rows, one settlement after the other.
Runs and facts are found by call id.  An attempt can stop after any part of its facts or rows; the next one starts over
from what is there.
-/
namespace Mct

open Recovery (utf8)

/-! ## Evidence -/

def interruptedCallMessage : String := "call interrupted by Mother restart; outcome unknown"
def resultRecoveredMessage : String := "call result recovered after Mother restart"
def resultBytesLostMessage : String :=
  "call completed before Mother restart, but its result bytes were not retained; outcome unknown"
def releasedMessage : String := "idempotency reservation released after Mother restart; no effect had begun"
def deniedMessage : String := "call closed as denied after Mother restart; the ledger already recorded its denial"
def dispositionDetailStart : String := "mct-call-restart-disposition-v1:"
def transientReleaseDetail : String := "idempotency_reason:released_retry_later"
def interruptedObservationStart : String := "obs:call-restart-interrupted:"
def legacyReservationStart : String := "legacy-peer-reservation:"

inductive Disposition
  | interrupted | denied | released | resultRecovered
  deriving DecidableEq, Repr

def Disposition.code : Disposition → String
  | .interrupted => "interrupted"
  | .denied => "denied"
  | .released => "released"
  | .resultRecovered => "result_recovered"

def isEffectStart : ObservationKind → Bool
  | .runtimeExecutionStarted | .childInvoked | .peerCallSent | .adapterEffectStarted | .toyCallStarted => true
  | _ => false

def MctObservation.isDisposition (observation : MctObservation) : Bool :=
  observation.detailRef.any fun detail => startsWith detail dispositionDetailStart

/-- The replies of the transport, which correlate to wire ids. -/
def MctObservation.isPeerResult (observation : MctObservation) : Bool :=
  observation.sourcePlane == .peer && observation.kind == .resultRecorded

/-- **What the ledger says about one call id**: `ledger_evidence`, row by row of its maps. -/
structure CallTrail where
  effectStarted : Bool
  interrupted : Bool
  transientlyReleased : Bool
  latestResult : Option (Nat × Option (Option DecisionId))
  latestProgress : Option Nat
  deriving DecidableEq, Repr

namespace CallTrail

def empty : CallTrail := ⟨false, false, false, none, none⟩

def note (callId : String) (trail : CallTrail) (item : MctObservation × Nat) : CallTrail :=
  let (observation, position) := item
  if observation.isPeerResult || !(observation.callId.any fun id => id.value == callId) then trail
  else
    { effectStarted := trail.effectStarted || isEffectStart observation.kind
      interrupted := trail.interrupted || startsWith observation.observationId.value interruptedObservationStart
      transientlyReleased := trail.transientlyReleased || observation.detailRef == some transientReleaseDetail
      latestResult :=
        if observation.kind == .resultRecorded && !observation.isDisposition then
          some (position, if observation.outcome = .denied then some observation.decisionId else none)
        else trail.latestResult
      latestProgress :=
        if isEffectStart observation.kind || observation.kind == .routeSelected then some position
        else trail.latestProgress }

def denial (trail : CallTrail) : Option (Option DecisionId) :=
  match trail.latestResult with
  | some (position, some decision) =>
    if trail.latestProgress.any fun progress => decide (position < progress) then none else some decision
  | _ => none

def denialForRun (trail : CallTrail) : Option (Option DecisionId) :=
  if trail.interrupted then none else trail.denial

def denialForReservation (trail : CallTrail) : Option (Option DecisionId) :=
  if trail.transientlyReleased then none else trail.denialForRun

end CallTrail

def callTrail (ledger : List MctObservation) (callId : String) : CallTrail :=
  ledger.zipIdx.foldl (CallTrail.note callId) .empty

/-- The ids that are in the ledger already; those of the skipped replies are not collected. -/
def recordedIds (ledger : List MctObservation) : List String :=
  (ledger.filter fun observation => !observation.isPeerResult).map fun observation => observation.observationId.value

/-! ## Left-overs -/

structure DispositionDetail where
  disposition : String
  callId : String
  runId : Option String
  runStateBefore : Option String
  idempotencyScope : Option String
  idempotencyFingerprint : Option String
  deriving DecidableEq, Repr

class SettlementHost extends KernelHost where
  legacyReservationJson : String → String → String → String → List UInt8
  dispositionJson : DispositionDetail → String

variable [SettlementHost]

structure MctInFlightCallIdempotencyEntry where
  recoveryCallId : CallId
  callerScope : String
  idempotencyKey : String
  fingerprint : MctIdempotencyFingerprint
  createdAt : String
  deriving DecidableEq, Repr

/-- The id under which runs and facts of a reservation are looked for: the execution's own id, for an old peer an id
    that names nothing, and else the id that the caller chose. -/
def CallIdempotencyEntry.recoveryCallId (entry : CallIdempotencyEntry) : CallId :=
  match entry.executionCallId with
  | some id => id
  | none =>
    if startsWith entry.callerScope "peer-binding:" then
      .tagged _ legacyReservationStart
        (KernelHost.blake3 (SettlementHost.legacyReservationJson entry.callerScope entry.idempotencyKey
          entry.fingerprint.callId.value entry.createdAt)) (by decide)
    else entry.fingerprint.callId

def CallIdempotencyEntry.leftOver (entry : CallIdempotencyEntry) : MctInFlightCallIdempotencyEntry :=
  ⟨entry.recoveryCallId, entry.callerScope, entry.idempotencyKey, entry.fingerprint, entry.createdAt⟩

/-- `ORDER BY created_at, caller_scope, idempotency_key`. -/
def entryOrder (a b : CallIdempotencyEntry) : Prop :=
  toLex (a.createdAt, toLex (a.callerScope, a.idempotencyKey)) ≤
    toLex (b.createdAt, toLex (b.callerScope, b.idempotencyKey))

instance : DecidableRel entryOrder := fun _ _ => inferInstanceAs (Decidable (_ ≤ _))
instance : Std.Total entryOrder := ⟨fun _ _ => le_total _ _⟩
instance : IsTrans _ entryOrder := ⟨fun _ _ _ => le_trans⟩

def inFlightCallIdempotencyEntries (entries : List CallIdempotencyEntry) : List MctInFlightCallIdempotencyEntry :=
  ((entries.filter CallIdempotencyEntry.isInFlight).insertionSort entryOrder).map CallIdempotencyEntry.leftOver

def CallId.isLegacy (callId : CallId) : Bool := startsWith callId.value legacyReservationStart

inductive Settlement
  | reservation (entry : MctInFlightCallIdempotencyEntry) (run : Option MctRuntimeRunRecord) (disposition : Disposition)
  | runOnly (run : MctRuntimeRunRecord) (disposition : Disposition)
  deriving DecidableEq, Repr

namespace Settlement

def disposition : Settlement → Disposition
  | reservation _ _ disposition => disposition
  | runOnly _ disposition => disposition

def callId : Settlement → CallId
  | reservation entry _ _ => entry.recoveryCallId
  | runOnly run _ => run.callId

def run : Settlement → Option MctRuntimeRunRecord
  | reservation _ run _ => run
  | runOnly run _ => some run

def isReservation : Settlement → Bool
  | reservation .. => true
  | runOnly .. => false

end Settlement

def leftOverRun (runs : List MctRuntimeRunRecord) (callId : CallId) : Option MctRuntimeRunRecord :=
  if callId.isLegacy then none else getRunByCallId callId runs

def reservationDisposition (trail : CallTrail) (callId : CallId) (run : Option MctRuntimeRunRecord) : Disposition :=
  match run with
  | none =>
    if callId.isLegacy then .interrupted
    else if trail.denialForReservation.isSome then .denied
    else if trail.effectStarted then .interrupted
    else .released
  | some run =>
    if run.result.isSome then .resultRecovered
    else if trail.denialForRun.isSome then .denied
    else .interrupted

def runDisposition (trail : CallTrail) : Disposition :=
  if trail.denialForRun.isSome then .denied else .interrupted

def settleReservation (runs : List MctRuntimeRunRecord) (ledger : List MctObservation)
    (entry : MctInFlightCallIdempotencyEntry) : Settlement :=
  let run := leftOverRun runs entry.recoveryCallId
  .reservation entry run (reservationDisposition (callTrail ledger entry.recoveryCallId.value) entry.recoveryCallId run)

def settleRun (ledger : List MctObservation) (run : MctRuntimeRunRecord) : Settlement :=
  .runOnly run (runDisposition (callTrail ledger run.callId.value))

/-! ## Facts -/

def Settlement.identity : Settlement → String
  | .reservation entry _ _ =>
    "reservation\n" ++ entry.callerScope ++ "\n" ++ entry.idempotencyKey ++ "\n" ++ entry.fingerprint.target ++ "\n" ++
      entry.recoveryCallId.value ++ "\n" ++ entry.fingerprint.payloadDigest ++ "\n" ++ entry.createdAt
  | .runOnly run _ => "run\n" ++ run.runId

def Settlement.digest (settlement : Settlement) : String := KernelHost.blake3 (utf8 settlement.identity)

def Settlement.scopeText : Settlement → Option String
  | .reservation entry _ _ => some ("scope-blake3:" ++ KernelHost.blake3 (utf8 entry.callerScope))
  | .runOnly _ _ => none

def Settlement.fingerprintText : Settlement → Option String
  | .reservation entry _ _ =>
    some ("fingerprint-blake3:" ++ KernelHost.blake3 (utf8 (entry.fingerprint.target ++ ":" ++
      entry.recoveryCallId.value ++ ":" ++ entry.fingerprint.payloadDigest)))
  | .runOnly _ _ => none

def Disposition.observed : Disposition → ObservationKind × ObservationOutcome × String
  | .interrupted => (.resultRecorded, .failed, interruptedCallMessage)
  | .denied => (.lifecycleTransitionRecorded, .denied, deniedMessage)
  | .resultRecovered => (.resultRecorded, .informational, resultRecoveredMessage)
  | .released => (.callDenied, .informational, releasedMessage)

def dispositionId (disposition : Disposition) (digest : String) : ObservationId :=
  .tagged _ "obs:call-restart-" (disposition.code ++ ":" ++ digest) (by decide)

def settlementObservation (observedAt : Timestamp) (settlement : Settlement) : MctObservation :=
  let (kind, outcome, safeMessage) := settlement.disposition.observed
  { observationId := dispositionId settlement.disposition settlement.digest
    observedAt := observedAt
    kind := kind
    sourcePlane := .kernel
    trace :=
      ⟨(settlement.run.map fun run => run.traceId).getD
        (.tagged _ "trace-restart-disposition:" settlement.digest (by decide)), none, none, none⟩
    callId := if settlement.callId.isLegacy then none else some settlement.callId
    decisionId := settlement.run.bind fun run => run.authorityDecisionId
    subjectId := settlement.scopeText
    resourceId := settlement.fingerprintText <|> settlement.run.map fun run => "run:" ++ run.runId
    policyRevision := settlement.run.map fun run => run.call.authorityContext.policyRevision
    grantsRevision := settlement.run.map fun run => run.call.authorityContext.expectedReceiverGrantsAuthority.generation
    outcome := outcome
    visibility := .nodeOperator
    safeMessage := safeMessage
    detailRef := some (dispositionDetailStart ++ SettlementHost.dispositionJson
      ⟨settlement.disposition.code, settlement.callId.value, settlement.run.map fun run => run.runId,
        settlement.run.map fun run => run.state.debug, settlement.scopeText, settlement.fingerprintText⟩) }

/-! ## Results and replies -/

def emptySummary (inputSizeBytes : Nat) : ExecutionSummary := ⟨0, none, none, inputSizeBytes, none⟩

def interruptedResult (run : MctRuntimeRunRecord) : MctResult where
  callId := run.callId
  outcome := .failed
  routeTaken := none
  authorityDecisionRef :=
    run.authorityDecisionId.getD (.tagged _ "decision-restart-interrupted:" run.callId.value (by decide))
  executionSummary := emptySummary run.call.payloadMetadata.sizeBytes
  resultPayload := .empty
  requesterMessage := interruptedCallMessage
  auditRef := .tagged _ "audit-restart-interrupted:" run.runId (by decide)

def deniedResultForCall (callId : CallId) (decision : Option DecisionId) (auditSubject : String)
    (inputSizeBytes : Nat) : MctResult where
  callId := callId
  outcome := .denied
  routeTaken := none
  authorityDecisionRef := decision.getD (.tagged _ "decision-restart-denied:" callId.value (by decide))
  executionSummary := emptySummary inputSizeBytes
  resultPayload := .empty
  requesterMessage := "not authorized"
  auditRef := .tagged _ "audit-restart-denied:" (auditSubject ++ ":" ++ callId.value) (by decide)

def deniedResult (run : MctRuntimeRunRecord) (decision : Option DecisionId) : MctResult :=
  deniedResultForCall run.callId (decision <|> run.authorityDecisionId) run.runId run.call.payloadMetadata.sizeBytes

def interruptedReply (run : Option MctRuntimeRunRecord) : MctRecordedCallReply where
  resultRef := run.map fun run => residentResultRef run.callId
  resultPayload := .empty
  inlineResultPayload := none
  routeDecisionId := run.bind fun run => run.authorityDecisionId
  routeTaken := none
  outcome := .failed
  protocolReason := some .executionInterrupted
  safeMessage := interruptedCallMessage

def describePayloadHandle : MctCallPayloadHandle → String
  | .inlinePayload inlinePayloadRef _ sizeBytes blake3DigestHex =>
    "inline:" ++ inlinePayloadRef ++ " (" ++ toString sizeBytes ++ " bytes, blake3 " ++ blake3DigestHex ++ ")"
  | .contentAddressedBlob digest blobRef _ sizeBytes =>
    "blob:" ++ blobRef ++ " (" ++ toString sizeBytes ++ " bytes, " ++ digest ++ ")"
  | .externalReference externalRef _ approximateSizeBytes =>
    "external:" ++ externalRef ++ " (~" ++ toString approximateSizeBytes ++ " bytes)"
  | .empty => "empty"

def recoveredReply (result : MctResult) : MctRecordedCallReply :=
  let handler := resultToCallHandlerResult result none
  if result.outcome = .success ∧ result.resultPayload ≠ .empty then
    { resultRef := handler.resultRef
      resultPayload := .empty
      inlineResultPayload := none
      routeDecisionId := handler.routeDecisionId
      routeTaken := handler.routeTaken
      outcome := .failed
      protocolReason := some .executionInterrupted
      safeMessage := resultBytesLostMessage ++ "; missing result payload " ++ describePayloadHandle result.resultPayload }
  else { handlerResultToRecordedReply handler with inlineResultPayload := none }

/-! ## Rows -/

structure PriorTenure where
  tables : CallTables
  ledger : List MctObservation

def unsettledRuns (tables : CallTables) (settled : List Settlement) : List MctRuntimeRunRecord :=
  (unfinishedRuns tables.runs).filter fun run =>
    !settled.any fun settlement => (settlement.run.map fun run => run.runId) == some run.runId

/-- **The dispositions**, reservations first. -/
def PriorTenure.settlements (prior : PriorTenure) : List Settlement :=
  let reservations := (inFlightCallIdempotencyEntries prior.tables.entries).map
    (settleReservation prior.tables.runs prior.ledger)
  reservations ++ (unsettledRuns prior.tables reservations).map (settleRun prior.ledger)

def PriorTenure.facts (prior : PriorTenure) (observedAt : Timestamp) : List MctObservation :=
  (prior.settlements.map (settlementObservation observedAt)).filter fun observation =>
    !(recordedIds prior.ledger).contains observation.observationId.value

def Settlement.closes (denial : CallId → Option DecisionId) : Settlement → Option (String × MctResult)
  | .reservation entry (some run) .denied => some (run.runId, deniedResult run (denial entry.recoveryCallId))
  | .reservation _ (some run) .interrupted => some (run.runId, interruptedResult run)
  | .reservation .. => none
  | .runOnly run .denied => some (run.runId, deniedResult run (denial run.callId))
  | .runOnly run _ => some (run.runId, interruptedResult run)

def replyFor (denial : CallId → Option DecisionId) (entry : MctInFlightCallIdempotencyEntry)
    (run : Option MctRuntimeRunRecord) : Disposition → Option MctRecordedCallReply
  | .released => none
  | .denied =>
    some (recoveredReply (match run with
      | some run => deniedResult run (denial entry.recoveryCallId)
      | none => deniedResultForCall entry.recoveryCallId (denial entry.recoveryCallId) "reservation" 0))
  | .interrupted => some (interruptedReply run)
  | .resultRecovered => (run.bind fun run => run.result).map recoveredReply

def PriorTenure.denial (prior : PriorTenure) (callId : CallId) : Option DecisionId :=
  ((callTrail prior.ledger callId.value).denial).join

namespace Settlement

variable (denial : CallId → Option DecisionId) (tables : CallTables)

def closeRun (settlement : Settlement) : CallTables :=
  match settlement.closes denial with
  | some (runId, result) => tables.closeRun runId result
  | none => tables

def finish : Settlement → Except String CallTables
  | runOnly _ _ => .ok tables
  | reservation entry _ .released =>
    .ok (tables.release entry.callerScope entry.idempotencyKey entry.fingerprint)
  | reservation entry run disposition => do
    let reply ← Checked.okOr (replyFor denial entry run disposition) "recovered call result disappeared"
    tables.complete entry.callerScope entry.idempotencyKey entry.fingerprint reply

def apply (settlement : Settlement) : Except String CallTables := settlement.finish denial (settlement.closeRun denial tables)

end Settlement

def applySettlements (denial : CallId → Option DecisionId) (settlements : List Settlement) (tables : CallTables) :
    Except String CallTables :=
  settlements.foldlM (Settlement.apply denial) tables

/-! ## Attempts -/

/-- **`settle_prior_tenure_reservations_and_runs`.** -/
def PriorTenure.settle (prior : PriorTenure) (observedAt : Timestamp) : Except String PriorTenure := do
  let tables ← applySettlements prior.denial prior.settlements prior.tables
  return ⟨tables, prior.ledger ++ prior.facts observedAt⟩

/-- Where an attempt stops: after some of its facts, or after some of its settlements and perhaps the run of the next
    reservation. -/
inductive SettlementAbort
  | appending (facts : Nat)
  | writing (settled : Nat) (runClosed : Bool)
  deriving DecidableEq, Repr

def closeNextRun (denial : CallId → Option DecisionId) (tables : CallTables) : List Settlement → CallTables
  | .reservation entry run disposition :: _ => (Settlement.reservation entry run disposition).closeRun denial tables
  | _ => tables

def PriorTenure.abort (prior : PriorTenure) (observedAt : Timestamp) : SettlementAbort → Except String PriorTenure
  | .appending facts => .ok ⟨prior.tables, prior.ledger ++ (prior.facts observedAt).take facts⟩
  | .writing settled runClosed => do
    let tables ← applySettlements prior.denial (prior.settlements.take settled) prior.tables
    let tables := if runClosed then closeNextRun prior.denial tables (prior.settlements.drop settled) else tables
    return ⟨tables, prior.ledger ++ prior.facts observedAt⟩

def PriorTenure.abortAll (prior : PriorTenure) (attempts : List (Timestamp × SettlementAbort)) :
    Except String PriorTenure :=
  attempts.foldlM (fun prior attempt => prior.abort attempt.1 attempt.2) prior

end Mct
