import PatinaMct.Observation
/-!
# ToyWatch — toy catalog, toy grants and watch scopes

The records of `toy.rs` and `watch.rs` that the authority state stores.  A canonical file root and a set of event
classes carry the proof of their own form, as their constructors check it; the scope's other conditions are checked by
`WatchObservationScope.validate`, which the authority state runs again on every value it keeps.
-/
namespace Mct

open Checked

/-! ## Toys -/

structure ToyContractIdentity where
  «namespace» : String
  interfaceName : String
  version : String
  functionName : Option String
  resourceName : Option String
  deriving DecidableEq, Repr

structure CanonicalToyContract where
  toyId : ToyId
  contract : ToyContractIdentity
  authorityBearing : Bool
  catalogRevision : Nat
  admittedByObservationId : ObservationId
  deriving DecidableEq, Repr

structure ToyGrantSubject where
  childName : String
  artifactId : String
  artifactVersion : String
  assignmentId : Option ChildAssignmentId
  callerNodeId : Option MctNodeId
  deriving DecidableEq, Repr

structure ToyGrantScope where
  visionId : VisionId
  nodeId : Option MctNodeId
  projectId : Option ProjectId
  dataClassification : Option String
  resourceId : Option String
  allowedActions : List String
  deriving DecidableEq, Repr

structure ToyGrantConstraints where
  startsAt : Option Timestamp
  expiresAt : Option Timestamp
  maxUses : Option Nat
  maxDurationMs : Option Nat
  localityRequired : Bool
  deriving DecidableEq, BEq, ReflBEq, Repr

inductive ToyGrantState
  | requested | active | expired | revoked | superseded | denied
  deriving DecidableEq, Repr

structure ToyGrant where
  grantId : ToyGrantId
  toyId : ToyId
  subject : ToyGrantSubject
  scope : ToyGrantScope
  constraints : ToyGrantConstraints
  grantState : ToyGrantState
  issuerId : String
  policyRevision : Nat
  grantsRevision : Nat
  authorityObservationId : ObservationId
  deriving DecidableEq, BEq, ReflBEq, Repr

/-! ## Watch scopes -/

inductive WatchObserverShape
  | childToy
  deriving DecidableEq, Repr

inductive WatchScopeMode
  | constrained
  | explicitBroad
  deriving DecidableEq, Repr

inductive WatchTraversalScope
  | rootOnly
  | recursive
  deriving DecidableEq, Repr

inductive WatchEventClass
  | created
  | modified
  | deleted
  deriving DecidableEq, Repr

instance : LT WatchEventClass := ⟨fun a b => a.ctorIdx < b.ctorIdx⟩
instance (a b : WatchEventClass) : Decidable (a < b) := inferInstanceAs (Decidable (a.ctorIdx < b.ctorIdx))

inductive WatchCoalescingPolicy
  | retainAll
  | lastPerPath
  deriving DecidableEq, Repr

inductive WatchObservationScopeState
  | active
  | revoked
  | superseded
  deriving DecidableEq, Repr

structure WatchObserverRef where
  childName : String
  artifactId : ComponentArtifactId
  artifactVersion : String
  assignmentId : ChildAssignmentId
  deriving DecidableEq, Repr

def invalidWatchScope (field reason : String) : MctKernelError :=
  .invalidConstraint "WatchObservationScope" field reason

/-- The path after `file:///` names one place: no credentials, query, escape, empty or relative segment. -/
def canonicalFilePath (path : List Char) : Bool :=
  !(path.isEmpty || path.contains '@' || path.contains '?' || path.contains '#' || path.contains '%' ||
    path.contains '\\' || decide (['/', '/'] <:+: path) || path.getLast? == some '/' ||
    (path.splitOn '/').any fun segment => segment.isEmpty || segment == ['.'] || segment == ['.', '.'])

def validateCanonicalFileRoot (root : String) : Except MctKernelError Unit := do
  ensureNonBlank "WatchObservationScope" "canonical_root_ref" root
  let path ← okOr (stripStart root "file:///") (invalidWatchScope "canonical_root_ref" "not canonical file URI")
  deny (!canonicalFilePath path.toList)
    (invalidWatchScope "canonical_root_ref" "credentialed, broad, or non-canonical root")

/-- **A canonical file URI**; `CanonicalFileRoot::new` lets nothing else through. -/
structure CanonicalFileRoot where
  value : String
  canonical : validateCanonicalFileRoot value = .ok ()
  deriving DecidableEq

/-- `windows(2).any(|pair| pair[0] >= pair[1])` does not hold. -/
def eventClassesAscending (classes : List WatchEventClass) : Bool :=
  ascending (fun a b => decide (a < b)) classes

/-- **A non-empty set of event classes in canonical order.** -/
structure WatchEventClasses where
  classes : List WatchEventClass
  nonEmpty : classes ≠ []
  ordered : eventClassesAscending classes = true
  deriving DecidableEq

/-- **The authority of one child over one watch root.** -/
structure WatchObservationScope where
  watchScopeId : WatchObservationScopeId
  observerShape : WatchObserverShape
  observerRef : WatchObserverRef
  scopeMode : WatchScopeMode
  canonicalRootRef : CanonicalFileRoot
  traversalScope : WatchTraversalScope
  eventClasses : WatchEventClasses
  maxEventsPerBatch : Nat
  coalescingPolicy : WatchCoalescingPolicy
  startsAt : Timestamp
  expiresAt : Timestamp
  scopeRevision : ℕ+
  policyRevision : Nat
  authorityState : WatchObservationScopeState
  authorityObservationId : ObservationId
  canonicalRecordDigest : String
  deriving DecidableEq, BEq, ReflBEq

def mctWatchMaxEventsPerBatch : Nat := 128

end Mct
