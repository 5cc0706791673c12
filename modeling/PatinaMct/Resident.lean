import PatinaMct.Dispatch
import PatinaMct.RequestPayload
import PatinaMct.Resumption
import PatinaMct.Settlement
/-!
# Resident — what the handlers of calls work on

A running Mother keeps the two call tables and one ledger writer.  A handler is a program (`Resumption.Prog`) whose
operations are the statements on the tables, the commands to the writer, and questions that are answered outside of this
model: the clock, the authority of a route, the child.  A crash loses the handlers and the writer's memory; a reopened
ledger has what was acknowledged and perhaps the first entries of a batch that failed.
-/
namespace Mct

class ResidentHost extends DispatchHost, SettlementHost where
  digestJson : List String → List UInt8
  peerCorrelationJson : CallId → PeerBindingId → MctNodeId → VisionId → String
  callerCorrelationJson : CallId → String
  receiverEchoJson : GrantsAuthorityIdentity → GrantsAuthorityIdentity → Option GrantsAuthorityIdentity →
    CallProtocolRetryDirective → String

/-! ## Questions -/

structure MctWitProducedMessage where
  targetOperation : String
  topic : String
  contentType : Option String
  data : List UInt8
  metadata : List (String × String)
  deriving DecidableEq, Repr

structure LocalExecutionReport where
  result : MctResult
  observations : List MctObservation
  inlineResultPayload : Option (List UInt8)
  producedMessages : List MctWitProducedMessage
  deriving DecidableEq, Repr

structure LocalExecutionPlan where
  routeTaken : RouteTaken
  candidateId : String
  routeDecisionId : DecisionId
  authorityDecisionId : DecisionId
  deriving DecidableEq, Repr

inductive RouteDisposition
  | denied (decisionId : DecisionId) (safeMessage : String) (observations : List MctObservation)
  | «local» (plan : LocalExecutionPlan) (observations : List MctObservation)
  | remote (observations : List MctObservation)
  deriving DecidableEq, Repr

inductive EffectSnapshot
  | unavailable | taskFailed | ready
  deriving DecidableEq, Repr

/-- Why the authority of a child is not what it was when its token was minted. -/
structure EffectDenial where
  policyRevision : Nat
  grantsRevision : Nat
  detail : String
  deriving DecidableEq, Repr

/-- A child before its export is called: the adapters it imports are built, or its authority is refused. -/
inductive ChildPreparation
  | failed (error : String)
  | refused (safeMessage : String) (observations : List MctObservation)
  | ready (observations : List MctObservation)
  deriving DecidableEq, Repr

structure ChildInvocation where
  result : MctResult
  observations : List MctObservation
  output : List UInt8
  producedMessages : List MctWitProducedMessage
  deriving DecidableEq, Repr

/-- What the nested calls of the produced messages appended, and how they ended. -/
structure CallOutDelivery where
  batches : List (List MctObservation)
  outcome : Except String Unit

inductive RemoteRevalidation
  | unavailable
  | failed
  | denied (decisionId : DecisionId) (observation : MctObservation)
  | authorized (observation : MctObservation) (refusal : Option MctIrohCallHandlerResult) (sent : MctObservation)
  deriving DecidableEq, Repr

structure ForwardedReply where
  observations : List MctObservation
  result : MctIrohCallHandlerResult
  deriving DecidableEq, Repr

inductive Question
  | nonce
  | receiverIdentity
  | maxCallHorizonSeconds
  | blobs
  | authorize (call : MctCall)
  | effectSnapshot (call : MctCall)
  | childDenial (call : MctCall)
  | effectDenial (call : MctCall)
  | prepareChild (call : MctCall) (inlinePayload : Option (List UInt8))
  | invokeChild (call : MctCall) (inlinePayload : Option (List UInt8))
  | watchScopes
  | deliverCallOuts (call : MctCall) (scope : WatchObservationScope) (messages : List MctWitProducedMessage)
  | revalidate (call : MctCall)
  | forward (call : MctCall) (inlinePayload : Option (List UInt8))

@[reducible] def Question.Reply : Question → Type
  | .nonce => Except String String
  | .receiverIdentity => Except String GrantsAuthorityIdentity
  | .maxCallHorizonSeconds => Except String Nat
  | .blobs => String → BlobFile
  | .authorize _ => Except String RouteDisposition
  | .effectSnapshot _ => EffectSnapshot
  | .childDenial _ => Option EffectDenial
  | .effectDenial _ => Option EffectDenial
  | .prepareChild _ _ => ChildPreparation
  | .invokeChild _ _ => Except String ChildInvocation
  | .watchScopes => Except String (List WatchObservationScope)
  | .deliverCallOuts _ _ _ => CallOutDelivery
  | .revalidate _ => RemoteRevalidation
  | .forward _ _ => ForwardedReply

/-! ## Operations -/

inductive RunOp
  | readClock
  | append (observations : List MctObservation)
  | getRun (runId : String)
  | insertRun (run : MctRuntimeRunRecord)
  | completeRun (runId : String) (result : MctResult)
  | ask (question : Question)

@[reducible] def RunOp.Reply : RunOp → Type
  | .readClock => Timestamp
  | .append _ => Except String Unit
  | .getRun _ => Except String (Option MctRuntimeRunRecord)
  | .insertRun _ => Except String Unit
  | .completeRun _ _ => Except String Unit
  | .ask question => question.Reply

/-- What the handling of a call may do; `start` is the start of its execution. -/
inductive CallOp
  | reserve (scope key : String) (fingerprint : MctIdempotencyFingerprint) (now expiresAt : Timestamp)
  | bindExecution (scope key : String) (fingerprint : MctIdempotencyFingerprint) (execution : CallId)
  | dispatch (operation : DispatchOperation)
  | isFenced
  | start
  | release (scope key : String) (fingerprint : MctIdempotencyFingerprint)
  | complete (scope key : String) (fingerprint : MctIdempotencyFingerprint) (reply : MctRecordedCallReply)
  | run (op : RunOp)

@[reducible] def CallOp.Reply : CallOp → Type
  | .reserve .. => Except String MctIdempotencyReservation
  | .bindExecution .. => Except String Unit
  | .dispatch _ => Except String DispatchResponse
  | .isFenced => Bool
  | .start => Unit
  | .release .. => Except String Unit
  | .complete .. => Except String Unit
  | .run op => op.Reply

/-! ## The store -/

/-- **A running Mother**, as far as calls go. -/
structure Resident where
  tables : CallTables
  writer : DispatchWriter
  fenced : Bool
  attempted : List MctObservationLedgerEntry

structure World where
  clock : Timestamp
  io : Io
  sqliteError : Option String
  answer : (question : Question) → question.Reply

variable [ResidentHost]

namespace Resident

variable (resident : Resident) (world : World)

/-- The entries of a batch, whether they reach the file or not. -/
def sealed (observations : List MctObservation) : List MctObservationLedgerEntry :=
  let log := resident.writer.log
  match prepareBatch log.identity world.clock.value .beforeEffect .notRequired log.nextSequence log.previousHash
      observations with
  | .ok prepared => prepared.map Prod.fst
  | .error _ => []

/-- `append`: an error fences the writer. -/
def append (observations : List MctObservation) : Resident × Except String Unit :=
  if observations.isEmpty then (resident, .ok ())
  else if resident.fenced then (resident, .error "resident observation writer is fenced")
  else
    let observations := observations.map (MctObservation.timed world.clock)
    match resident.writer.log.appendDurableBatch observations world.clock.value .beforeEffect .notRequired world.io with
    | (.ok appended, log) =>
      ({ resident with writer := ⟨log, resident.writer.index, resident.writer.entries ++ appended⟩ }, .ok ())
    | (.error error, log) =>
      ({ resident with
          writer := { resident.writer with log := log }
          fenced := true
          attempted := resident.sealed world observations }, .error (appendErrorText error))

/-- The template of an operation has the time at which it is sent. -/
def timedDispatch (time : Timestamp) : DispatchOperation → DispatchOperation
  | .reserve claim template => .reserve claim (template.timed time)
  | .release reservation template => .release reservation (template.timed time)

def plannedObservations (operation : DispatchOperation) : List MctObservation :=
  match resident.writer.nextSequence with
  | .error _ => []
  | .ok sequence =>
    match (planDispatch resident.writer.index sequence operation).1 with
    | .ok (.append observation _) => [observation]
    | _ => []

/-- The resident after an answer of its writer: an error fences it. -/
def answeredBy (operation : DispatchOperation) :
    Except String DispatchResponse × DispatchWriter → Resident × Except String DispatchResponse
  | (.ok response, writer) => ({ resident with writer := writer }, .ok response)
  | (.error error, writer) =>
    ({ resident with
        writer := writer
        fenced := true
        attempted := if writer.entries = resident.writer.entries
          then resident.sealed world (resident.plannedObservations operation) else [] }, .error error)

/-- `dispatch`: the writer's task refuses when it is fenced or poisoned. -/
def dispatch (operation : DispatchOperation) : Resident × Except String DispatchResponse :=
  if resident.fenced then (resident, .error "resident observation writer is fenced")
  else if resident.writer.log.isPoisoned then
    ({ resident with fenced := true }, .error "resident observation writer is fenced")
  else
    let operation := timedDispatch world.clock operation
    resident.answeredBy world operation (resident.writer.process operation world.clock.value world.io)

def statement {α : Type} (result : Except String (α × CallTables)) : Resident × Except String α :=
  match world.sqliteError, result with
  | some error, _ => (resident, .error error)
  | none, .error error => (resident, .error error)
  | none, .ok (value, tables) => ({ resident with tables := tables }, .ok value)

end Resident

def RunOp.perform (op : RunOp) (world : World) (resident : Resident) : Resident × op.Reply :=
  match op with
  | .readClock => (resident, world.clock)
  | .append observations => resident.append world observations
  | .getRun runId =>
    resident.statement world (.ok (resident.tables.runs.find? fun run => run.runId == runId, resident.tables))
  | .insertRun run =>
    resident.statement world
      ((resident.tables.insertRun { run with startedAt := world.clock.value }).map fun tables => ((), tables))
  | .completeRun runId result =>
    resident.statement world
      (if runId ∈ resident.tables.runs.map MctRuntimeRunRecord.runId then .ok ((), resident.tables.closeRun runId result)
        else .error ("unknown runtime run '" ++ runId ++ "'"))
  | .ask question => (resident, world.answer question)

/-- **What a handler's operation does.** -/
def CallOp.perform (op : CallOp) (world : World) (resident : Resident) : Resident × op.Reply :=
  match op with
  | .reserve scope key fingerprint now expiresAt =>
    resident.statement world (resident.tables.reserve scope key fingerprint now expiresAt)
  | .bindExecution scope key fingerprint execution =>
    resident.statement world ((resident.tables.bindExecution scope key fingerprint execution).map fun tables => ((), tables))
  | .dispatch operation => resident.dispatch world operation
  | .isFenced => (resident, resident.fenced)
  | .start => (resident, ())
  | .release scope key fingerprint =>
    resident.statement world (.ok ((), resident.tables.release scope key fingerprint))
  | .complete scope key fingerprint reply =>
    resident.statement world ((resident.tables.complete scope key fingerprint reply).map fun tables => ((), tables))
  | .run op => op.perform world resident

/-! ## Upsets -/

/-- An entry of another writer of the ledger: it names no call and is no dispatch fact. -/
def isForeignEntry (entry : MctObservationLedgerEntry) : Bool :=
  entry.observation.callId.isNone &&
    !(entry.observation.detailRef.any fun detail => startsWith detail "mct-call-dispatch-")

/-- What happens to the tables besides the handlers: a copy is restored, or left-overs are settled. -/
inductive Upset
  | restore (tables : CallTables)
  | settle (world : World)

/-- A crash: of a batch that failed, the next start finds the first entries; others may write to the ledger first. -/
structure Crash where
  kept : Nat
  others : List MctObservationLedgerEntry
  log : LedgerLog

namespace Resident

variable (resident : Resident)

def found (crash : Crash) : List MctObservationLedgerEntry :=
  resident.writer.entries ++ resident.attempted.take crash.kept ++ crash.others.filter isForeignEntry

def reopen (crash : Crash) : Resident :=
  let entries := resident.found crash
  match rebuildIndex entries with
  | .ok index => { resident with writer := ⟨crash.log, index, entries⟩, fenced := false, attempted := [] }
  | .error _ => { resident with writer := { resident.writer with entries := entries }, fenced := true, attempted := [] }

def prior : PriorTenure := ⟨resident.tables, resident.writer.entries.map fun entry => entry.observation⟩

def settle (world : World) : Resident :=
  match resident.append world (resident.prior.facts world.clock) with
  | (resident', .error _) => resident'
  | (resident', .ok ()) =>
    match applySettlements resident.prior.denial resident.prior.settlements resident.tables with
    | .ok tables => { resident' with tables := tables }
    | .error _ => resident'

def upset : Upset → Resident → Resident
  | .restore tables, resident => { resident with tables := tables }
  | .settle world, resident => resident.settle world

end Resident

end Mct
