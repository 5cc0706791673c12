import PatinaMct.ToyWatch
/-!
# Call — calls and the data they carry

The call record of `call/mod.rs`, the facts a Mother has about a call's data (`invocation_data.rs`), and the part of a
call that a token is bound to (`InvocationCallBinding`): its caller, its payload metadata and its origin.
-/
namespace Mct

structure CallerIdentity where
  nodeId : MctNodeId
  userId : Option UserId
  visionId : VisionId
  projectId : Option ProjectId
  deriving DecidableEq, Repr

structure OperationTarget where
  «namespace» : String
  interfaceName : String
  functionName : String
  deriving DecidableEq, Repr

structure PayloadMetadata where
  dataClassification : String
  sizeBytes : Nat
  containsSecretScopedMaterial : Bool
  deriving DecidableEq, Repr

structure GrantsAuthorityIdentity where
  motherNodeId : String
  authorityEpoch : String
  generation : Nat
  sourceAuthorityObservationId : String
  deriving DecidableEq, Repr

structure AuthorityContextSnapshot where
  policyRevision : Nat
  expectedReceiverGrantsAuthority : GrantsAuthorityIdentity
  visionPolicyRevision : Nat
  deriving DecidableEq, Repr

structure TraceContext where
  traceId : TraceId
  spanId : SpanId
  deriving DecidableEq, Repr

inductive CallOrigin
  | iroh | jvmAdapter | wasmHost | processHarness | cli | triggerFiring
  deriving DecidableEq, Repr

structure MctCall where
  callId : CallId
  caller : CallerIdentity
  target : OperationTarget
  payloadMetadata : PayloadMetadata
  authorityContext : AuthorityContextSnapshot
  deadline : Timestamp
  traceContext : TraceContext
  origin : CallOrigin
  deriving DecidableEq, Repr

/-- An absent value asks for nothing, a present one for itself. -/
def optionMatches {α : Type} [DecidableEq α] (authority request : Option α) : Bool :=
  authority.all fun value => request == some value

theorem optionMatches_iff {α : Type} [DecidableEq α] {authority request : Option α} :
    optionMatches authority request = true ↔ ∀ value, authority = some value → request = some value := by
  cases authority with
  | none => simp [optionMatches]
  | some value => simp [optionMatches]

/-! ## Data -/

/-- What the Mother knows about the data of one invocation, independently of the caller. -/
structure LocalInvocationData where
  callId : CallId
  projectId : Option ProjectId
  dataClassification : String
  containsSecretScopedMaterial : Bool
  sourceObservationId : ObservationId
  deriving DecidableEq, Repr

def LocalInvocationData.matchesCall (data : LocalInvocationData) (call : MctCall) : Bool :=
  data.callId == call.callId && data.projectId == call.caller.projectId && !trimmedEmpty data.dataClassification &&
    data.dataClassification == call.payloadMetadata.dataClassification &&
    data.containsSecretScopedMaterial == call.payloadMetadata.containsSecretScopedMaterial

def LocalInvocationData.matchesScope (data : LocalInvocationData) (project : Option ProjectId)
    (classification : Option String) : Bool :=
  (project.all fun p => some p == data.projectId) && classification.all fun c => c == data.dataClassification

def dataScopeMatches (call : MctCall) (data : Option LocalInvocationData) (project : Option ProjectId)
    (classification : Option String) : Bool :=
  match data with
  | some data => data.matchesCall call && data.matchesScope project classification
  | none => project.isNone && classification.isNone

structure InvocationCallBinding where
  caller : CallerIdentity
  payload : PayloadMetadata
  origin : CallOrigin
  deriving DecidableEq, Repr

def InvocationCallBinding.capture (call : MctCall) : InvocationCallBinding :=
  ⟨call.caller, call.payloadMetadata, call.origin⟩

def InvocationCallBinding.matchesCall (binding : InvocationCallBinding) (call : MctCall) : Bool :=
  binding == capture call

theorem InvocationCallBinding.matchesCall_capture {call call' : MctCall} :
    (capture call).matchesCall call' = true ↔
      call'.caller = call.caller ∧ call'.payloadMetadata = call.payloadMetadata ∧ call'.origin = call.origin := by
  simp only [matchesCall, capture, beq_iff_eq, InvocationCallBinding.mk.injEq]
  constructor
  · rintro ⟨h₁, h₂, h₃⟩
    exact ⟨h₁.symm, h₂.symm, h₃.symm⟩
  · rintro ⟨h₁, h₂, h₃⟩
    exact ⟨h₁.symm, h₂.symm, h₃.symm⟩

end Mct
