import PatinaMct.Ingress
/-!
# CallRecords — results, replies and the rows of the call tables

A child's result becomes the handler's result, which is recorded as the reply of a keyed call.  Two SQLite tables keep a
call: `call_idempotency_entries`, by caller scope and key, and `runtime_runs`, by run id.  Their statements are functions
on the lists of rows; completion times, which nothing reads back, are left out.
-/
namespace Mct

abbrev ResultRef := StringId "ResultRef"
abbrev AuditRef := StringId "AuditRef"

/-! ## Results -/

inductive RuntimeKind
  | process | jvmChild | wasmComponent | remotePeer | internal
  deriving DecidableEq, Repr

structure RouteTaken where
  nodeId : MctNodeId
  childId : Option ChildId
  runtimeKind : RuntimeKind
  deriving DecidableEq, Repr

structure ExecutionSummary where
  wallTimeMs : Nat
  executionTimeMs : Option Nat
  queueWaitMs : Option Nat
  inputSizeBytes : Nat
  outputSizeBytes : Option Nat
  deriving DecidableEq, Repr

inductive ResultOutcome
  | success | denied | failed | timedOut | cancelled
  deriving DecidableEq, Repr

structure MctResult where
  callId : CallId
  outcome : ResultOutcome
  routeTaken : Option RouteTaken
  authorityDecisionRef : DecisionId
  executionSummary : ExecutionSummary
  resultPayload : MctCallPayloadHandle
  requesterMessage : String
  auditRef : AuditRef
  deriving DecidableEq, Repr

inductive CallProtocolOutcome
  | acceptedForRouting | malformed | denied | failed | timedOut | cancelled | completed
  deriving DecidableEq, Repr

inductive CallProtocolReason
  | helloNotAdmitted | alpnNotAdmitted | endpointMismatch | bindingMismatch | callerMismatch | originMismatch
  | visionMismatch | bindingRevoked | bindingExpired | policyRevisionStale | expectedReceiverAuthorityStale
  | receiverAuthorityUnavailable | callDeadlineExpired | malformedCall | payloadMetadataMismatch
  | payloadDeclaredTooLarge | payloadActualTooLarge | payloadSizeMismatch | payloadDigestMismatch
  | payloadMissingInlineBytes | payloadUnexpectedInlineBytes | payloadBlobUnavailable | invalidPayloadDigest
  | childPayloadContentTypeUnsupported | resultPayloadTooLarge | resultPayloadIntegrityMismatch
  | idempotencyKeyReuseMismatch | idempotencyBudgetFull | idempotencyInProgress | idempotencyReplayCompleted
  | authorityDenied | noRoute | executionFailed | executionTimedOut | executionInterrupted | acceptedForRouting
  | resultRecorded
  deriving DecidableEq, Repr

inductive CallProtocolRetryDirective
  | none | refreshHello | retryLater
  deriving DecidableEq, Repr

structure MctIrohCallHandlerResult where
  resultRef : Option ResultRef
  resultPayload : MctCallPayloadHandle
  inlineResultPayload : Option (List UInt8)
  routeDecisionId : Option DecisionId
  routeTaken : Option RouteTaken
  outcome : CallProtocolOutcome
  protocolReason : Option CallProtocolReason
  retryDirective : CallProtocolRetryDirective
  safeMessage : String
  deriving DecidableEq, Repr

namespace MctIrohCallHandlerResult

def bare (outcome : CallProtocolOutcome) (protocolReason : Option CallProtocolReason) (safeMessage : String) :
    MctIrohCallHandlerResult :=
  ⟨none, .empty, none, none, none, outcome, protocolReason, .none, safeMessage⟩

def completed (resultRef : ResultRef) : MctIrohCallHandlerResult :=
  { bare .completed none "call completed" with resultRef := some resultRef }

def completedWithInlinePayload (resultRef : ResultRef) (resultPayload : MctCallPayloadHandle)
    (inlineResultPayload : List UInt8) : MctIrohCallHandlerResult :=
  { bare .completed none "call completed" with
    resultRef := some resultRef, resultPayload := resultPayload, inlineResultPayload := some inlineResultPayload }

def failed (safeMessage : String) : MctIrohCallHandlerResult := bare .failed none safeMessage
def denied : MctIrohCallHandlerResult := bare .denied none "not authorized"
def malformed : MctIrohCallHandlerResult := bare .malformed (some .malformedCall) "malformed call"
def timedOut : MctIrohCallHandlerResult := bare .timedOut none "call timed out"
def cancelled (safeMessage : String) : MctIrohCallHandlerResult := bare .cancelled none safeMessage

def withProtocolReason (result : MctIrohCallHandlerResult) (reason : CallProtocolReason) : MctIrohCallHandlerResult :=
  { result with
    protocolReason := some reason
    retryDirective :=
      match reason with
      | .expectedReceiverAuthorityStale => .refreshHello
      | .receiverAuthorityUnavailable => .retryLater
      | _ => .none }

def withSafeMessage (result : MctIrohCallHandlerResult) (safeMessage : String) : MctIrohCallHandlerResult :=
  { result with safeMessage := safeMessage }

def withRoute (result : MctIrohCallHandlerResult) (routeDecisionId : Option DecisionId)
    (routeTaken : Option RouteTaken) : MctIrohCallHandlerResult :=
  { result with routeDecisionId := routeDecisionId, routeTaken := routeTaken }

end MctIrohCallHandlerResult

def residentResultRef (callId : CallId) : ResultRef := .prefixed "result-resident:" (by decide) callId

def resultToCallHandlerResult (result : MctResult) (inlineResultPayload : Option (List UInt8)) :
    MctIrohCallHandlerResult :=
  let routeDecisionId := some result.authorityDecisionRef
  match result.outcome with
  | .success =>
    let resultRef := residentResultRef result.callId
    (match inlineResultPayload with
      | some bytes => .completedWithInlinePayload resultRef result.resultPayload bytes
      | none => .completed resultRef : MctIrohCallHandlerResult).withRoute routeDecisionId result.routeTaken
  | .timedOut => MctIrohCallHandlerResult.timedOut.withRoute routeDecisionId result.routeTaken
  | .denied => MctIrohCallHandlerResult.denied.withRoute routeDecisionId none
  | .failed => (MctIrohCallHandlerResult.failed result.requesterMessage).withRoute routeDecisionId result.routeTaken
  | .cancelled => (MctIrohCallHandlerResult.cancelled result.requesterMessage).withRoute routeDecisionId none

structure MctRecordedCallReply where
  resultRef : Option ResultRef
  resultPayload : MctCallPayloadHandle
  inlineResultPayload : Option (List UInt8)
  routeDecisionId : Option DecisionId
  routeTaken : Option RouteTaken
  outcome : CallProtocolOutcome
  protocolReason : Option CallProtocolReason
  safeMessage : String
  deriving DecidableEq, Repr

def handlerResultToRecordedReply (result : MctIrohCallHandlerResult) : MctRecordedCallReply :=
  ⟨result.resultRef, result.resultPayload, result.inlineResultPayload, result.routeDecisionId, result.routeTaken,
    result.outcome, result.protocolReason, result.safeMessage⟩

def recordedReplyToHandlerResult (reply : MctRecordedCallReply) : MctIrohCallHandlerResult :=
  ⟨reply.resultRef, reply.resultPayload, reply.inlineResultPayload, reply.routeDecisionId, reply.routeTaken,
    reply.outcome, reply.protocolReason, .none, reply.safeMessage⟩

def MctObservation.timed (time : Timestamp) (observation : MctObservation) : MctObservation :=
  { observation with observedAt := time }

/-! ## The idempotency table -/

inductive MctIdempotencyEntryState
  | inFlight | completed (reply : MctRecordedCallReply)
  deriving DecidableEq, Repr

/-- A row of `call_idempotency_entries`; the times are stored texts. -/
structure CallIdempotencyEntry where
  callerScope : String
  idempotencyKey : String
  fingerprint : MctIdempotencyFingerprint
  state : MctIdempotencyEntryState
  createdAt : String
  expiresAt : Timestamp
  executionCallId : Option CallId
  deriving DecidableEq, Repr

namespace CallIdempotencyEntry

def primaryKey (entry : CallIdempotencyEntry) : String × String := (entry.callerScope, entry.idempotencyKey)

def isInFlight (entry : CallIdempotencyEntry) : Bool := entry.state == .inFlight

def isReservation (scope key : String) (fingerprint : MctIdempotencyFingerprint) (entry : CallIdempotencyEntry) : Bool :=
  entry.primaryKey == (scope, key) && entry.fingerprint == fingerprint && entry.isInFlight

end CallIdempotencyEntry

/-- `complete_call_idempotency`: the statement; that it changed one row is checked by the caller. -/
def completeCallIdempotency (scope key : String) (fingerprint : MctIdempotencyFingerprint)
    (reply : MctRecordedCallReply) (entries : List CallIdempotencyEntry) : List CallIdempotencyEntry :=
  entries.map fun entry => if entry.isReservation scope key fingerprint then { entry with state := .completed reply } else entry

theorem completeCallIdempotency_keys (scope key : String) (fp : MctIdempotencyFingerprint)
    (reply : MctRecordedCallReply) (es : List CallIdempotencyEntry) :
    (completeCallIdempotency scope key fp reply es).map CallIdempotencyEntry.primaryKey =
      es.map CallIdempotencyEntry.primaryKey := by
  unfold completeCallIdempotency
  rw [List.map_map]
  refine List.map_congr_left fun e _ => ?_
  simp only [Function.comp_apply]
  split <;> rfl

def releaseCallIdempotency (scope key : String) (fingerprint : MctIdempotencyFingerprint)
    (entries : List CallIdempotencyEntry) : List CallIdempotencyEntry :=
  entries.filter fun entry => !entry.isReservation scope key fingerprint

/-! ## The run table -/

inductive MctRuntimeRunState
  | queued | running | completed | failed | timedOut | cancelled | denied
  deriving DecidableEq, Repr

def MctRuntimeRunState.terminalForResult (result : MctResult) : MctRuntimeRunState :=
  match result.outcome with
  | .success => .completed
  | .denied => .denied
  | .failed => .failed
  | .timedOut => .timedOut
  | .cancelled => .cancelled

/-- The `{:?}` text of a state. -/
def MctRuntimeRunState.debug : MctRuntimeRunState → String
  | .queued => "Queued"
  | .running => "Running"
  | .completed => "Completed"
  | .failed => "Failed"
  | .timedOut => "TimedOut"
  | .cancelled => "Cancelled"
  | .denied => "Denied"

/-- A row of `runtime_runs`.  The result and the completion time are written together. -/
structure MctRuntimeRunRecord where
  runId : String
  callId : CallId
  authorityDecisionId : Option DecisionId
  traceId : TraceId
  state : MctRuntimeRunState
  startedAt : String
  call : MctCall
  result : Option MctResult
  deriving DecidableEq, Repr

def completeRun (runId : String) (result : MctResult) (runs : List MctRuntimeRunRecord) : List MctRuntimeRunRecord :=
  runs.map fun run =>
    if run.runId = runId then { run with state := .terminalForResult result, result := some result } else run

theorem completeRun_keys (runId : String) (res : MctResult) (runs : List MctRuntimeRunRecord) :
    (completeRun runId res runs).map MctRuntimeRunRecord.runId = runs.map MctRuntimeRunRecord.runId := by
  unfold completeRun
  rw [List.map_map]
  refine List.map_congr_left fun run _ => ?_
  simp only [Function.comp_apply]
  split <;> rfl

/-- The later start, the row that was there first among equal ones. -/
def laterRun (best : Option MctRuntimeRunRecord) (run : MctRuntimeRunRecord) : Option MctRuntimeRunRecord :=
  match best with
  | none => some run
  | some other => if other.startedAt < run.startedAt then some run else some other

def getRunByCallId (callId : CallId) (runs : List MctRuntimeRunRecord) : Option MctRuntimeRunRecord :=
  (runs.filter fun run => run.callId == callId).foldl laterRun none

/-- `ORDER BY started_at, run_id`. -/
def runOrder (a b : MctRuntimeRunRecord) : Prop :=
  toLex (a.startedAt, a.runId) ≤ toLex (b.startedAt, b.runId)

instance : DecidableRel runOrder := fun _ _ => inferInstanceAs (Decidable (_ ≤ _))
instance : Std.Total runOrder := ⟨fun _ _ => le_total _ _⟩
instance : IsTrans _ runOrder := ⟨fun _ _ _ => le_trans⟩

def unfinishedRuns (runs : List MctRuntimeRunRecord) : List MctRuntimeRunRecord :=
  (runs.filter fun run => run.result.isNone).insertionSort runOrder

end Mct
