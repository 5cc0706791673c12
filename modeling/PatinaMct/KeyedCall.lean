import PatinaMct.Resident
/-!
# KeyedCall — the handling of a call that may carry an idempotency key

`execute_idempotent_call_with_execution` reserves the key in the tables, then in the ledger, and only then starts the
execution.  The handler is a program of `CallOp`s around the execution, which is a program of `RunOp`s; what it answers,
and what it leaves when it stops between two operations, is read off its paths.
-/
namespace Mct

open Checked
open Recovery (utf8)
open Resumption

abbrev RunProg (α : Type) := Prog RunOp RunOp.Reply α
abbrev CallProg := Prog CallOp CallOp.Reply MctIrohCallHandlerResult

def RunProg.lift {α : Type} (program : RunProg α) : Prog CallOp CallOp.Reply α := program.embed .run fun _ reply => reply

namespace MctIrohCallHandlerResult

def ledgerUnavailable : MctIrohCallHandlerResult := failed "observation ledger unavailable"
def runtimeUnavailable : MctIrohCallHandlerResult := failed "runtime unavailable"

def receiverAuthorityUnavailableBeforeEffect : MctIrohCallHandlerResult :=
  (denied.withProtocolReason .receiverAuthorityUnavailable).withSafeMessage
    "receiver authority unavailable; retry later"

end MctIrohCallHandlerResult

/-! ## Replies -/

/-- No route was taken and no result exists, and the caller may retry later. -/
def isTransientRefusalBeforeEffect (result : MctIrohCallHandlerResult) : Bool :=
  result.retryDirective == .retryLater && result.routeTaken.isNone && result.resultRef.isNone

def replayedReplyToHandlerResult (reply : MctRecordedCallReply) : MctIrohCallHandlerResult :=
  (recordedReplyToHandlerResult reply).withProtocolReason
    (if reply.protocolReason = some .executionInterrupted then .executionInterrupted else .idempotencyReplayCompleted)

def idempotencyRefusalResult : MctIdempotencyReason → MctIrohCallHandlerResult
  | .idempotencyKeyReuseMismatch =>
    .bare .malformed (some .idempotencyKeyReuseMismatch) "idempotency key does not match request"
  | .idempotencyBudgetFull =>
    .bare .failed (some .idempotencyBudgetFull) "idempotency capacity unavailable; retry later"
  | .idempotencyInProgress => .bare .failed (some .idempotencyInProgress) "request already in progress; retry later"
  | .executeFresh | .replayCompleted => .bare .failed (some .executionFailed) "runtime unavailable"

/-! ## Observations -/

def idempotencyReasonCode : MctIdempotencyReason → String
  | .executeFresh => "idempotency_execute_fresh"
  | .replayCompleted => "idempotency_replay_completed"
  | .idempotencyKeyReuseMismatch => "idempotency_key_reuse_mismatch"
  | .idempotencyBudgetFull => "idempotency_budget_full"
  | .idempotencyInProgress => "idempotency_in_progress"

def idempotencyReasonMessage : MctIdempotencyReason → String
  | .executeFresh => "idempotency key reserved"
  | .replayCompleted => "recorded result replayed"
  | .idempotencyKeyReuseMismatch => "idempotency key does not match request"
  | .idempotencyBudgetFull => "idempotency capacity unavailable; retry later"
  | .idempotencyInProgress => "request already in progress; retry later"

def idempotencyReplayObservationOutcome : CallProtocolOutcome → ObservationOutcome
  | .acceptedForRouting | .completed => .completed
  | .malformed | .denied => .denied
  | .failed => .failed
  | .timedOut => .timedOut
  | .cancelled => .cancelled

def MctCall.traceRef (call : MctCall) : ObservationTraceRef :=
  ⟨call.traceContext.traceId, some call.traceContext.spanId, none, none⟩

/-- **A keyed request at its reservation**: the request has the id of its execution, the fingerprint the caller's. -/
structure KeyedCall where
  request : MctCallProtocolRequest
  callerScope : String
  key : String
  fingerprint : MctIdempotencyFingerprint
  now : Timestamp
  expiresAt : Timestamp
  executionCallId : Option CallId

section Keyed

variable [ResidentHost]

namespace KeyedCall

variable (keyed : KeyedCall)

/-- What the observations about a key share.  Their time is the writer's. -/
def observation (observationId : ObservationId) (kind : ObservationKind) (outcome : ObservationOutcome)
    (safeMessage detail : String) : MctObservation where
  observationId := observationId
  observedAt := keyed.now
  kind := kind
  sourcePlane := .kernel
  trace := keyed.request.call.traceRef
  callId := some keyed.request.call.callId
  decisionId := none
  subjectId := some ("scope-blake3:" ++ KernelHost.blake3 (utf8 keyed.callerScope))
  resourceId := some ("fingerprint-blake3:" ++ KernelHost.blake3 (utf8 (keyed.fingerprint.target ++ ":" ++
    keyed.fingerprint.callId.value ++ ":" ++ keyed.fingerprint.payloadDigest)))
  policyRevision := some keyed.request.call.authorityContext.policyRevision
  grantsRevision := some keyed.request.call.authorityContext.expectedReceiverGrantsAuthority.generation
  outcome := outcome
  visibility := .internalOnly
  safeMessage := safeMessage
  detailRef := some detail

def transientReleaseObservation : MctObservation :=
  keyed.observation (.tagged _ "obs:idempotency_released_retry_later:" (keyed.request.protocolRequestId.value ++ ":" ++
      KernelHost.blake3 (utf8 (keyed.callerScope ++ "\n" ++ keyed.request.call.callId.value ++ "\n" ++ keyed.now.value)))
      (by decide))
    .callDenied .denied "receiver authority unavailable; idempotency key released for retry" transientReleaseDetail

def residentIdempotencyObservation (reason : MctIdempotencyReason) (outcome : ObservationOutcome) : MctObservation :=
  keyed.observation
    (.tagged _ "obs:" (idempotencyReasonCode reason ++ ":" ++ keyed.request.protocolRequestId.value) (by decide))
    (if reason = .replayCompleted then .resultRecorded else .callDenied) outcome (idempotencyReasonMessage reason)
    ("idempotency_reason:" ++ idempotencyReasonCode reason)

def interruptedDispatchObservation : MctObservation :=
  { keyed.residentIdempotencyObservation .executeFresh .failed with
    safeMessage := "keyed dispatch outcome unavailable; execution not retried"
    detailRef := some "idempotency_reason:dispatch_interrupted" }

/-! ## Claims -/

def claim : CallDispatchClaimV1 where
  keyDigest := KernelHost.blake3 (ResidentHost.digestJson ["mct-dispatch-key/v1", keyed.callerScope, keyed.key])
  fingerprintDigest := KernelHost.blake3 (ResidentHost.digestJson ["mct-dispatch-fingerprint/v1",
    keyed.fingerprint.target, keyed.fingerprint.callId.value, keyed.fingerprint.payloadDigest])
  acceptedAt := keyed.now
  expiresAt := keyed.expiresAt

/-! ## The handler -/

/-- `append`, and the answer when the ledger does not take it. -/
def record (observation : MctObservation) (next : CallProg) : CallProg :=
  .act (.run (.append [observation])) fun
    | .error _ => .done .ledgerUnavailable
    | .ok () => next

/-- The end of a transient refusal: the key is free again. -/
def releaseKey (reservation : Option CallDispatchReservationV1) (result : MctIrohCallHandlerResult) : CallProg :=
  let forget : CallProg :=
    .act (.release keyed.callerScope keyed.key keyed.fingerprint) fun
      | .error _ => .done .runtimeUnavailable
      | .ok () => .done result
  record keyed.transientReleaseObservation <|
    match reservation with
    | none => forget
    | some reservation =>
      .act (.dispatch (.release reservation keyed.transientReleaseObservation)) fun
        | .error _ => .done .ledgerUnavailable
        | .ok _ => forget

def finish (reservation : Option CallDispatchReservationV1) (result : MctIrohCallHandlerResult) : CallProg :=
  .act .isFenced fun fenced =>
    if fenced then .done .ledgerUnavailable
    else if isTransientRefusalBeforeEffect result then keyed.releaseKey reservation result
    else
      .act (.complete keyed.callerScope keyed.key keyed.fingerprint (handlerResultToRecordedReply result)) fun
        | .error _ => .done .runtimeUnavailable
        | .ok () => .done result

/-- The wrong fingerprint must not stay in a restored database. -/
def refuseMismatch : CallProg :=
  record (keyed.residentIdempotencyObservation .idempotencyKeyReuseMismatch .denied) <|
    .act (.release keyed.callerScope keyed.key keyed.fingerprint) fun
      | .error _ => .done .runtimeUnavailable
      | .ok () => .done (idempotencyRefusalResult .idempotencyKeyReuseMismatch)

def notRetried : MctIrohCallHandlerResult :=
  (MctIrohCallHandlerResult.failed "execution outcome unavailable; not retried").withProtocolReason .executionInterrupted

variable (execute : RunProg MctIrohCallHandlerResult)

/-- The answer of the ledger's fence, and the execution if it lets it through. -/
def dispatched : Except String DispatchResponse → CallProg
  | .ok (.reserved reservation) => .act .start fun () => execute.lift.bind (keyed.finish (some reservation))
  | .ok .existing => record keyed.interruptedDispatchObservation (keyed.finish none notRetried)
  | .ok .fingerprintMismatch => keyed.refuseMismatch
  | .ok .released | .error _ => .done .ledgerUnavailable

def claimed : CallProg :=
  match keyed.claim.validate with
  | .error _ => .done .runtimeUnavailable
  | .ok () =>
    .act (.dispatch (.reserve keyed.claim (keyed.residentIdempotencyObservation .executeFresh .started)))
      (keyed.dispatched execute)

/-- The row takes the id of the execution, where the Mother minted one. -/
def bound : CallProg :=
  match keyed.executionCallId with
  | none => keyed.claimed execute
  | some id =>
    .act (.bindExecution keyed.callerScope keyed.key keyed.fingerprint id) fun
      | .error _ => .done (.failed "execution identity unavailable")
      | .ok () => keyed.claimed execute

def reserved : Except String MctIdempotencyReservation → CallProg
  | .error _ => .done .runtimeUnavailable
  | .ok (.replay reply) =>
    record (keyed.residentIdempotencyObservation .replayCompleted (idempotencyReplayObservationOutcome reply.outcome))
      (.done (replayedReplyToHandlerResult reply))
  | .ok (.refused reason) =>
    record (keyed.residentIdempotencyObservation reason .denied) (.done (idempotencyRefusalResult reason))
  | .ok .executeFresh => keyed.bound execute

end KeyedCall

def idempotencyExpiry (now : Timestamp) : Except String Timestamp := do
  let instant ← KernelHost.parseTimestamp now.value
  let expires := instant + mctIdempotencyTtlSeconds * 1000000000
  deny (decide (maxTimestamp < expires)) "timestamp overflow"
  mapErr MctKernelError.text (Timestamp.new (KernelHost.displayTimestamp expires))

/-- The keyed request of a call; later observations use the identity of the execution. -/
def keyedCall (request : MctCallProtocolRequest) (now expiresAt : Timestamp) (context : ResidentCallIngressContext)
    (executionCallId : Option CallId) (key : String) : KeyedCall where
  request := { request with call := { request.call with callId := executionCallId.getD request.call.callId } }
  callerScope := residentIdempotencyCallerScope request context
  key := key
  fingerprint := residentIdempotencyFingerprint request
  now := now
  expiresAt := expiresAt
  executionCallId := executionCallId

def executeIdempotentCallWithExecution (request : MctCallProtocolRequest) (now : Timestamp)
    (context : ResidentCallIngressContext) (executionCallId : Option CallId)
    (execute : RunProg MctIrohCallHandlerResult) : CallProg :=
  if !context.matchesRequest request then .done .denied
  else
    match request.idempotencyKey with
    | none => .act .start fun () => execute.lift
    | some key =>
      match idempotencyExpiry now with
      | .error _ => .done .runtimeUnavailable
      | .ok expiresAt =>
        let keyed := keyedCall request now expiresAt context executionCallId key
        .act (.reserve keyed.callerScope keyed.key keyed.fingerprint keyed.now keyed.expiresAt) (keyed.reserved execute)

end Keyed

end Mct
