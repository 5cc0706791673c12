import PatinaMct.AdminKey
/-!
# Observation — the durable facts and the ledger entries that carry them

`MctObservation` is the typed fact, `MctObservationLedgerEntry` the hash-chained line of the ledger file.  The rest
says which entries are tail-recovery facts: the observation that the residue path appends after it has preserved an
unterminated final frame, with every carrier field as that path writes it.
-/
namespace Mct

structure ObservationTraceRef where
  traceId : TraceId
  spanId : Option SpanId
  parentSpanId : Option SpanId
  externalTraceId : Option String
  deriving DecidableEq, Repr

inductive ObservationKind
  | callReceived | callRejected | callConstructed | callAuthorized | callDenied | candidateConsidered
  | candidateEliminated | routeSelected | noRouteRecorded | routeRevalidated | resultRecorded
  | artifactVerified | artifactRejected | childApproved | childRevoked | childAssigned | childAssignmentRevoked
  | childInstanceLoading | childInstanceReady | childInstanceDegraded | childInstanceDraining
  | childInstanceStopped | childInstanceFailed | childInvoked | toyGrantAllowed | toyGrantDenied
  | toyGrantExpired | toyGrantRevoked | toyCallStarted | toyCallCompleted | toyCallFailed | dataMovementAllowed
  | dataMovementDenied | secretAccessAllowed | secretAccessDenied | peerConnected | peerHelloReceived
  | peerProtocolNegotiated | peerHelloResponded | peerBindingRecorded | peerBindingRevoked | peerBindingExpired
  | peerAdmitted | peerRejected | peerCallSent | peerCallReceived | peerCallMalformed | peerCallReplied
  | peerStreamOpened | peerStreamReset | irohPathObserved | runtimeExecutionStarted | runtimeExecutionCompleted
  | runtimeExecutionFailed | runtimeExecutionTrapped | runtimeExecutionTimedOut | adapterEffectStarted
  | adapterEffectCompleted | adapterEffectFailed | storageAppendSucceeded | storageAppendFailed
  | observationBackpressureApplied | lifecycleTransitionRecorded | nodeHealthReported | operatorActionRecorded
  | telemetryExported
  deriving DecidableEq, Repr

inductive SourcePlane
  | kernel | adapter | peer | child | toy | storage | operator
  deriving DecidableEq, Repr

inductive ObservationOutcome
  | allowed | denied | started | completed | failed | timedOut | cancelled | informational
  deriving DecidableEq, Repr

inductive ObservationVisibility
  | callerSafe | visionOperator | nodeOperator | systemOperator | internalOnly
  deriving DecidableEq, Repr

/-- **A durable typed fact.**  `detailRef` carries the canonical authority payloads and the recovery marks. -/
structure MctObservation where
  observationId : ObservationId
  observedAt : Timestamp
  kind : ObservationKind
  sourcePlane : SourcePlane
  trace : ObservationTraceRef
  callId : Option CallId
  decisionId : Option DecisionId
  subjectId : Option String
  resourceId : Option String
  policyRevision : Option Nat
  grantsRevision : Option Nat
  outcome : ObservationOutcome
  visibility : ObservationVisibility
  safeMessage : String
  detailRef : Option String
  deriving DecidableEq, BEq, ReflBEq, Repr

inductive DurabilityClass
  | beforeEffect | buffered | projectionOnly
  deriving DecidableEq, Repr

inductive ExportStatus
  | notRequired | pending | exported | failed
  deriving DecidableEq, Repr

/-- **One line of the ledger.** -/
structure MctObservationLedgerEntry where
  ledgerId : String
  motherNodeId : String
  localSequence : Nat
  observation : MctObservation
  previousEntryHash : Option String
  entryHash : String
  appendedAt : String
  durabilityClass : DurabilityClass
  exportStatus : ExportStatus
  deriving DecidableEq, BEq, ReflBEq, Repr

/-! ## Identifiers with a fixed start -/

/-- An identifier whose text starts with a visible character; the writers build all their identifiers so. -/
def StringId.tagged (record : String) (tag rest : String) (visible : trimmedEmpty tag = false) : StringId record :=
  ⟨tag ++ rest, by rw [trimmedEmpty_append, visible, Bool.false_and]⟩

@[simp] theorem StringId.tagged_value {record tag rest : String} (visible : trimmedEmpty tag = false) :
    (StringId.tagged record tag rest visible).value = tag ++ rest := rfl

def ObservationTraceRef.root (traceId : TraceId) : ObservationTraceRef := ⟨traceId, none, none, none⟩

/-! ## Tail-recovery facts -/

def isTailRecoveryEntry (entry : MctObservationLedgerEntry) : Bool :=
  startsWith entry.observation.observationId.value "ledger-tail-recovery-" &&
    entry.observation.kind == .storageAppendSucceeded && entry.observation.sourcePlane == .storage &&
    entry.observation.detailRef.any fun detail => startsWith detail "ledger-tail-recovery-v1:"

def tailRecoverySafeMessage : String := "observation ledger tail recovered"

def splitOnceDash (text : String) : Option (String × String) :=
  let head := text.toList.takeWhile (· ≠ '-')
  match text.toList.drop head.length with
  | [] => none
  | _ :: rest => some (String.ofList head, String.ofList rest)

/-- `text.parse::<u64>()`: an optional plus sign, then decimal digits, within range. -/
def parseU64 (text : String) : Option Nat :=
  let digits := match text.toList with
    | '+' :: rest => rest
    | cs => cs
  if digits.isEmpty || !digits.all Char.isDigit then none
  else
    let n := digits.foldl (fun n c => 10 * n + (c.toNat - '0'.toNat)) 0
    if n < 2 ^ 64 then some n else none

/-- The residue offset and digest that an id `ledger-tail-recovery-OFFSET-DIGEST` names, in canonical form only. -/
def tailRecoveryIdentity (entry : MctObservationLedgerEntry) : Option (Nat × String) := do
  let rest ← stripStart entry.observation.observationId.value "ledger-tail-recovery-"
  let (offsetText, digest) ← splitOnceDash rest
  let offset ← parseU64 offsetText
  if toString offset = offsetText ∧ isDigestText digest = true then some (offset, digest) else none

/-- **Exactly the observation that the residue path appends**, field by field. -/
def isValidTailRecoveryEntry (entry : MctObservationLedgerEntry) : Bool :=
  match tailRecoveryIdentity entry with
  | none => false
  | some (_, digest) =>
    let observation := entry.observation
    isTailRecoveryEntry entry && observation.detailRef == some ("ledger-tail-recovery-v1:" ++ digest) &&
      observation.trace.traceId.value == "trace-" ++ observation.observationId.value &&
      observation.trace.spanId.isNone && observation.trace.parentSpanId.isNone &&
      observation.trace.externalTraceId.isNone && observation.callId.isNone && observation.decisionId.isNone &&
      observation.subjectId == some entry.motherNodeId && observation.resourceId == some entry.ledgerId &&
      observation.policyRevision.isNone && observation.grantsRevision.isNone &&
      observation.outcome == .completed && observation.visibility == .nodeOperator &&
      observation.safeMessage == tailRecoverySafeMessage && observation.observedAt.value == entry.appendedAt &&
      entry.durabilityClass == .beforeEffect && entry.exportStatus == .notRequired

end Mct
