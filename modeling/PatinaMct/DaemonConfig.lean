import PatinaMct.AuthorityRecords
import PatinaMct.CallRecords
import PatinaMct.ExecutionAuthority
/-!
# DaemonConfig — the config of a Mother and the children she has loaded

The parts of `config.json` that say which child may run where, the record of a loaded child package, and the operation
ids that the two share.
-/
namespace Mct

/-! ## Loaded children -/

inductive MctChildIngressMode
  | hybrid | witOnly
  deriving DecidableEq, Repr

inductive MctChildInstanceState
  | loading | ready | degraded | failed
  deriving DecidableEq, Repr

structure MctChildFileDigest where
  sha256 : String
  sidecarPresent : Bool
  verified : Bool
  deriving DecidableEq, Repr

structure MctLoadedChild where
  childId : ChildId
  version : String
  wasmPath : String
  manifestPath : String
  wasmDigest : MctChildFileDigest
  manifestDigest : MctChildFileDigest
  artifactId : ComponentArtifactId
  ingressMode : MctChildIngressMode
  allowedOperations : List String
  requestedToys : List String
  instanceState : MctChildInstanceState
  deriving DecidableEq, Repr

/-- The name of the manifest, from which the child's id is made. -/
def MctLoadedChild.name (child : MctLoadedChild) : String := child.childId.value

def MctLoadedChild.integrityVerified (child : MctLoadedChild) : Bool :=
  child.wasmDigest.verified && child.manifestDigest.verified

/-! ## The config -/

structure MctConfiguredIdentity extends MctLocalNodeIdentity where
  policyRevision : Nat
  deriving DecidableEq, Repr

structure MctStoredChildApproval where
  manifestHash : Option String
  childName : String
  artifactId : ComponentArtifactId
  artifactVersion : String
  approvalState : ChildApprovalState
  visionId : VisionId
  nodeId : MctNodeId
  projectId : Option ProjectId
  policyRevision : Nat
  deriving DecidableEq, Repr

structure MctStoredChildAssignment where
  childName : String
  artifactId : ComponentArtifactId
  artifactVersion : String
  assignmentState : ChildAssignmentState
  visionId : VisionId
  nodeId : MctNodeId
  projectId : Option ProjectId
  policyRevision : Nat
  deriving DecidableEq, Repr

structure MctDaemonConfig where
  localIdentity : Option MctConfiguredIdentity
  childApprovals : TextMap MctStoredChildApproval
  childAssignments : TextMap MctStoredChildAssignment

/-! ## Operation ids -/

def rsplitOnce (c : Char) (text : String) : Option (String × String) :=
  let tail := text.toList.reverse.takeWhile (· ≠ c)
  match text.toList.reverse.drop tail.length with
  | [] => none
  | _ :: rest => some (String.ofList rest.reverse, String.ofList tail.reverse)

end Mct
