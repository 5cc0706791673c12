import PatinaMct.Call
/-!
# ExecutionAuthority — the executing Mother's snapshot

What `authority.rs` assembles after the daemon has proved its projection: the canonical grants with their identity, the
child policy, the two policy revisions and the Mother's clock; and the token that binds an evaluation to one snapshot.
-/
namespace Mct

structure ComponentWitExport where
  «namespace» : String
  interfaceName : String
  version : String
  functionNames : List String
  deriving DecidableEq, Repr

inductive ComponentRuntimeShape
  | wasmComponent | jvmChild | processChild | remoteChild
  deriving DecidableEq, Repr

/-- `LocalChildRuntime::try_from(shape).is_ok()`: only a WASM component runs locally. -/
def ComponentRuntimeShape.isLocal : ComponentRuntimeShape → Bool
  | .wasmComponent => true
  | .jvmChild | .processChild | .remoteChild => false

inductive ChildIngressMode
  | witOnly | hybrid | handle
  deriving DecidableEq, Repr

inductive LifecycleExports
  | required | optional | absentAllowed
  deriving DecidableEq, Repr

inductive VerificationStatus
  | verified | rejected
  deriving DecidableEq, Repr

inductive ArtifactProvenanceStatus
  | acquisitionBacked | historicalUnknown
  deriving DecidableEq, Repr

structure ComponentArtifact where
  artifactId : ComponentArtifactId
  childName : String
  artifactVersion : String
  contentHash : String
  manifestHash : String
  primaryExport : ComponentWitExport
  additionalExports : List ComponentWitExport
  runtimeShape : ComponentRuntimeShape
  ingressMode : ChildIngressMode
  lifecycleExports : LifecycleExports
  verificationStatus : VerificationStatus
  provenanceStatus : ArtifactProvenanceStatus
  acquisitionIds : List String
  createdByObservationId : ObservationId
  deriving DecidableEq, Repr

def witExportMatches (wit : ComponentWitExport) (target : OperationTarget) : Bool :=
  wit.namespace == target.namespace &&
    (wit.interfaceName == target.interfaceName ||
      wit.interfaceName ++ "@" ++ wit.version == target.interfaceName) &&
    wit.functionNames.any fun functionName => functionName == target.functionName

def ComponentArtifact.exportsOperation (artifact : ComponentArtifact) (target : OperationTarget) : Bool :=
  (artifact.primaryExport :: artifact.additionalExports).any fun wit => witExportMatches wit target

inductive ChildApprovalState
  | candidate | approved | blocked | revoked | deprecated
  deriving DecidableEq, Repr

structure ChildApproval where
  approvalId : ChildApprovalId
  artifactId : ComponentArtifactId
  childName : String
  artifactVersion : String
  scopeVisionId : Option VisionId
  scopeNodeId : Option MctNodeId
  scopeProjectId : Option ProjectId
  approvalState : ChildApprovalState
  policyRevision : Nat
  authorityObservationId : ObservationId
  deriving DecidableEq, Repr

inductive ChildAssignmentState
  | active | revoked
  deriving DecidableEq, Repr

structure ChildAssignment where
  assignmentId : ChildAssignmentId
  approvalId : ChildApprovalId
  artifactId : ComponentArtifactId
  childName : String
  visionId : VisionId
  nodeId : Option MctNodeId
  projectId : Option ProjectId
  assignmentState : ChildAssignmentState
  pinnedArtifactVersion : String
  assignmentObservationId : ObservationId
  deriving DecidableEq, Repr

inductive ChildInstanceState
  | loading | ready | degraded | draining | stopped | failed
  deriving DecidableEq, Repr

abbrev ChildInstanceId := StringId "ChildInstanceId"

structure ChildInstance where
  instanceId : ChildInstanceId
  assignmentId : ChildAssignmentId
  artifactId : ComponentArtifactId
  childName : String
  generation : Nat
  nodeId : MctNodeId
  instanceState : ChildInstanceState
  readinessObservationId : Option ObservationId
  lastLifecycleObservationId : ObservationId
  deriving DecidableEq, Repr

/-! ## The snapshot -/

structure LocalGrantsAuthorityIdentityV1 where
  motherNodeId : String
  authorityEpoch : String
  generation : Nat
  sourceAuthorityObservationId : String
  deriving DecidableEq, Repr

structure LocalExecutionAuthorityTokenV1 where
  grantsAuthority : LocalGrantsAuthorityIdentityV1
  policyRevision : Nat
  visionPolicyRevision : Nat
  effectiveDeadline : Timestamp
  deriving DecidableEq, Repr

structure LocalCanonicalGrantsSnapshotV1 where
  grantsAuthority : LocalGrantsAuthorityIdentityV1
  toyCatalog : List CanonicalToyContract
  toyGrants : List ToyGrant
  deriving DecidableEq, Repr

structure LocalChildPolicySnapshotV1 where
  artifacts : List ComponentArtifact
  approvals : List ChildApproval
  assignments : List ChildAssignment
  instances : List ChildInstance
  deriving DecidableEq, Repr

structure LocalExecutionAuthoritySnapshot where
  executingMotherNodeId : String
  canonicalGrants : LocalCanonicalGrantsSnapshotV1
  policyRevision : Nat
  visionPolicyRevision : Nat
  childPolicy : LocalChildPolicySnapshotV1
  evaluatedAt : Timestamp
  deriving DecidableEq, Repr

def LocalExecutionAuthoritySnapshot.executionAuthority (snapshot : LocalExecutionAuthoritySnapshot)
    (effectiveDeadline : Timestamp) : LocalExecutionAuthorityTokenV1 :=
  ⟨snapshot.canonicalGrants.grantsAuthority, snapshot.policyRevision, snapshot.visionPolicyRevision, effectiveDeadline⟩

end Mct
