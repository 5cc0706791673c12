import PatinaMct.ToyGrants
/-!
# ChildCalls — whether a child instance may execute a call, and whether it still may

`child.rs`: the evaluation that mints a token for one call (`evaluateChildCallAuthorityWithPolicy`), and the admission
of that token against a later snapshot (`AuthorizedChildInvocation.admitEffectWithSnapshot`).  Admission looks at fewer
facts than evaluation: it does not look at scopes, nodes, pinned versions or exported operations again, and it does not
look at the call's target at all.  `admission_agrees_iff` and `token_target_iff` say exactly what follows from this.
-/
namespace Mct

open Checked

abbrev ChildCallEvaluationId := StringId "ChildCallEvaluationId"
abbrev AuthorizedChildInvocationId := StringId "AuthorizedChildInvocationId"

inductive ChildCallVerdict
  | allowed | denied
  deriving DecidableEq, Repr

inductive ChildCallReasonCode
  | readyAuthorizedInstance | unknownInstance | missingAssignment | assignmentRevoked | missingApproval
  | approvalNotApproved | approvalScopeMismatch | artifactMissing | artifactRejected | unsupportedLocalRuntime
  | operationNotExported | instanceNotReady | wrongNode | wrongProject | stalePolicy | versionMismatch
  deriving DecidableEq, Repr

structure ChildCallAuthorityEvaluation where
  evaluationId : ChildCallEvaluationId
  callId : CallId
  decisionId : DecisionId
  instanceId : Option ChildInstanceId
  assignmentId : Option ChildAssignmentId
  approvalId : Option ChildApprovalId
  artifactId : Option ComponentArtifactId
  childName : Option String
  verdict : ChildCallVerdict
  reasonCode : ChildCallReasonCode
  policyRevision : Nat
  observationId : ObservationId
  deriving DecidableEq, Repr

structure AuthorizedChildInvocation where
  callBinding : InvocationCallBinding
  dataAuthority : Option LocalInvocationData
  manifestHash : String
  authorizedChildInvocationId : AuthorizedChildInvocationId
  callId : CallId
  evaluationId : ChildCallEvaluationId
  assignmentId : ChildAssignmentId
  approvalId : ChildApprovalId
  artifactId : ComponentArtifactId
  childInstanceId : ChildInstanceId
  childName : String
  authorityDecisionId : DecisionId
  policyRevision : Nat
  localExecutionAuthority : Option LocalExecutionAuthorityTokenV1
  deriving DecidableEq, Repr

structure ChildCallAuthorityIds where
  evaluationId : ChildCallEvaluationId
  decisionId : DecisionId
  observationId : ObservationId
  authorizedChildInvocationId : AuthorizedChildInvocationId
  deriving DecidableEq, Repr

structure ChildCallAuthorityRequest where
  dataAuthority : Option LocalInvocationData
  instanceId : ChildInstanceId
  nodeId : MctNodeId
  ids : ChildCallAuthorityIds
  deriving DecidableEq, Repr

structure ChildCallAuthorityResult where
  evaluation : ChildCallAuthorityEvaluation
  authorized : Option AuthorizedChildInvocation
  deriving DecidableEq, Repr

def ChildCallAuthorityResult.isAllowed (result : ChildCallAuthorityResult) : Bool :=
  result.evaluation.verdict == .allowed && result.authorized.isSome

/-! ## Evaluation -/

def approvalScopeMatches (approval : ChildApproval) (call : MctCall) (nodeId : MctNodeId) : Bool :=
  optionMatches approval.scopeVisionId (some call.caller.visionId) &&
    optionMatches approval.scopeNodeId (some nodeId) && optionMatches approval.scopeProjectId call.caller.projectId

variable (call : MctCall) (request : ChildCallAuthorityRequest)

/-- `denied_with_context`; `denied_for_instance` and `denied` are the cases with less context. -/
def deniedChildCall (reason : ChildCallReasonCode) (inst : Option ChildInstance) (assignment : Option ChildAssignment)
    (approval : Option ChildApproval) (artifact : Option ComponentArtifact) (policyRevision : Nat) :
    ChildCallAuthorityEvaluation where
  evaluationId := request.ids.evaluationId
  callId := call.callId
  decisionId := request.ids.decisionId
  instanceId := inst.map (·.instanceId)
  assignmentId := (assignment.map (·.assignmentId)).or (inst.map (·.assignmentId))
  approvalId := approval.map (·.approvalId)
  artifactId := ((artifact.map (·.artifactId)).or (assignment.map (·.artifactId))).or (inst.map (·.artifactId))
  childName := (((artifact.map (·.childName)).or (assignment.map (·.childName))).or (approval.map (·.childName))).or
    (inst.map (·.childName))
  verdict := .denied
  reasonCode := reason
  policyRevision := policyRevision
  observationId := request.ids.observationId

structure ChildCallRecords where
  inst : ChildInstance
  assignment : ChildAssignment
  approval : ChildApproval
  artifact : ComponentArtifact

/-- The checks of the evaluation, in order; a failed one gives the denied evaluation. -/
def childCallRecords (policy : LocalChildPolicySnapshotV1) (expectedPolicyRevision : Nat) :
    Except ChildCallAuthorityEvaluation ChildCallRecords := do
  let inst ← okOr (policy.instances.find? fun inst => inst.instanceId == request.instanceId)
    (deniedChildCall call request .unknownInstance none none none none expectedPolicyRevision)
  deny (inst.nodeId ≠ request.nodeId)
    (deniedChildCall call request .wrongNode (some inst) none none none expectedPolicyRevision)
  deny (inst.instanceState ≠ .ready)
    (deniedChildCall call request .instanceNotReady (some inst) none none none expectedPolicyRevision)
  let assignment ← okOr (policy.assignments.find? fun assignment => assignment.assignmentId == inst.assignmentId)
    (deniedChildCall call request .missingAssignment (some inst) none none none expectedPolicyRevision)
  deny (assignment.assignmentState ≠ .active)
    (deniedChildCall call request .assignmentRevoked (some inst) (some assignment) none none expectedPolicyRevision)
  deny (assignment.visionId ≠ call.caller.visionId)
    (deniedChildCall call request .approvalScopeMismatch (some inst) (some assignment) none none expectedPolicyRevision)
  deny (!optionMatches assignment.nodeId (some request.nodeId))
    (deniedChildCall call request .wrongNode (some inst) (some assignment) none none expectedPolicyRevision)
  deny (!dataScopeMatches call request.dataAuthority assignment.projectId none)
    (deniedChildCall call request .wrongProject (some inst) (some assignment) none none expectedPolicyRevision)
  let approval ← okOr (policy.approvals.find? fun approval => approval.approvalId == assignment.approvalId)
    (deniedChildCall call request .missingApproval (some inst) (some assignment) none none expectedPolicyRevision)
  deny (approval.policyRevision ≠ expectedPolicyRevision)
    (deniedChildCall call request .stalePolicy (some inst) (some assignment) (some approval) none
      approval.policyRevision)
  deny (approval.approvalState ≠ .approved)
    (deniedChildCall call request .approvalNotApproved (some inst) (some assignment) (some approval) none
      approval.policyRevision)
  deny (approval.artifactId ≠ assignment.artifactId || approval.artifactId ≠ inst.artifactId ||
      approval.childName ≠ assignment.childName || approval.childName ≠ inst.childName ||
      approval.artifactVersion ≠ assignment.pinnedArtifactVersion)
    (deniedChildCall call request .versionMismatch (some inst) (some assignment) (some approval) none
      approval.policyRevision)
  deny (!approvalScopeMatches approval call request.nodeId ||
      !dataScopeMatches call request.dataAuthority approval.scopeProjectId none)
    (deniedChildCall call request .approvalScopeMismatch (some inst) (some assignment) (some approval) none
      approval.policyRevision)
  let artifact ← okOr (policy.artifacts.find? fun artifact => artifact.artifactId == assignment.artifactId)
    (deniedChildCall call request .artifactMissing (some inst) (some assignment) (some approval) none
      approval.policyRevision)
  deny (artifact.verificationStatus ≠ .verified)
    (deniedChildCall call request .artifactRejected (some inst) (some assignment) (some approval) (some artifact)
      approval.policyRevision)
  deny (!artifact.runtimeShape.isLocal)
    (deniedChildCall call request .unsupportedLocalRuntime (some inst) (some assignment) (some approval) (some artifact)
      approval.policyRevision)
  deny (artifact.artifactVersion ≠ assignment.pinnedArtifactVersion ||
      artifact.artifactVersion ≠ approval.artifactVersion || artifact.artifactId ≠ inst.artifactId ||
      artifact.childName ≠ inst.childName)
    (deniedChildCall call request .versionMismatch (some inst) (some assignment) (some approval) (some artifact)
      approval.policyRevision)
  deny (!artifact.exportsOperation call.target)
    (deniedChildCall call request .operationNotExported (some inst) (some assignment) (some approval) (some artifact)
      approval.policyRevision)
  return ⟨inst, assignment, approval, artifact⟩

def allowedChildCall (records : ChildCallRecords) :
    ChildCallAuthorityEvaluation where
  evaluationId := request.ids.evaluationId
  callId := call.callId
  decisionId := request.ids.decisionId
  instanceId := some records.inst.instanceId
  assignmentId := some records.assignment.assignmentId
  approvalId := some records.approval.approvalId
  artifactId := some records.artifact.artifactId
  childName := some records.inst.childName
  verdict := .allowed
  reasonCode := .readyAuthorizedInstance
  policyRevision := records.approval.policyRevision
  observationId := request.ids.observationId

def mintChildInvocation (records : ChildCallRecords) :
    AuthorizedChildInvocation where
  callBinding := .capture call
  dataAuthority := request.dataAuthority
  manifestHash := records.artifact.manifestHash
  authorizedChildInvocationId := request.ids.authorizedChildInvocationId
  callId := call.callId
  evaluationId := request.ids.evaluationId
  assignmentId := records.assignment.assignmentId
  approvalId := records.approval.approvalId
  artifactId := records.artifact.artifactId
  childInstanceId := records.inst.instanceId
  childName := records.inst.childName
  authorityDecisionId := request.ids.decisionId
  policyRevision := records.approval.policyRevision
  localExecutionAuthority := none

def evaluateChildCallAuthorityWithPolicy (policy : LocalChildPolicySnapshotV1) (expectedPolicyRevision : Nat) :
    ChildCallAuthorityResult :=
  match childCallRecords call request policy expectedPolicyRevision with
  | .error evaluation => ⟨evaluation, none⟩
  | .ok records => ⟨allowedChildCall call request records, some (mintChildInvocation call request records)⟩

def evaluateChildCallAuthority (policy : LocalChildPolicySnapshotV1) : ChildCallAuthorityResult :=
  evaluateChildCallAuthorityWithPolicy call request policy call.authorityContext.policyRevision

/-! ## Admission -/

inductive ChildEffectAdmissionDenyV1
  | localAuthorityUnavailable | callIdMismatch | callDataMismatch | effectiveDeadlineMismatch | policyAuthorityMismatch
  | grantsAuthorityMismatch | expired | childAuthorityMismatch
  deriving DecidableEq, Repr

def AuthorizedChildInvocation.bindLocalExecutionAuthority (token : AuthorizedChildInvocation)
    (authority : LocalExecutionAuthorityTokenV1) : AuthorizedChildInvocation :=
  { token with localExecutionAuthority := some authority }

def AuthorizedChildInvocation.admitRecords (token : AuthorizedChildInvocation)
    (snapshot : LocalExecutionAuthoritySnapshot) : Except ChildEffectAdmissionDenyV1 Unit := do
  let inst ← okOr (snapshot.childPolicy.instances.find? fun inst =>
      inst.instanceId == token.childInstanceId && inst.assignmentId == token.assignmentId &&
        inst.artifactId == token.artifactId && inst.childName == token.childName && inst.instanceState == .ready)
    .childAuthorityMismatch
  let assignment ← okOr (snapshot.childPolicy.assignments.find? fun assignment =>
      assignment.assignmentId == inst.assignmentId && assignment.approvalId == token.approvalId &&
        assignment.artifactId == token.artifactId && assignment.childName == token.childName &&
        assignment.assignmentState == .active)
    .childAuthorityMismatch
  let approval ← okOr (snapshot.childPolicy.approvals.find? fun approval =>
      approval.approvalId == assignment.approvalId && approval.artifactId == token.artifactId &&
        approval.childName == token.childName && approval.approvalState == .approved &&
        approval.policyRevision == snapshot.policyRevision)
    .childAuthorityMismatch
  deny (!snapshot.childPolicy.artifacts.any fun artifact =>
      artifact.artifactId == approval.artifactId && artifact.childName == token.childName &&
        artifact.artifactVersion == approval.artifactVersion && artifact.manifestHash == token.manifestHash &&
        artifact.verificationStatus == .verified && artifact.runtimeShape.isLocal)
    .childAuthorityMismatch

/-- **`AuthorizedChildInvocation::admit_effect_with_snapshot`**; the admitted effect is the token. -/
def AuthorizedChildInvocation.admitEffectWithSnapshot (token : AuthorizedChildInvocation) (call : MctCall)
    (snapshot : LocalExecutionAuthoritySnapshot) : Except ChildEffectAdmissionDenyV1 AuthorizedChildInvocation := do
  let authority ← okOr token.localExecutionAuthority .localAuthorityUnavailable
  deny (token.callId ≠ call.callId) .callIdMismatch
  deny (!token.callBinding.matchesCall call) .callDataMismatch
  deny (authority.effectiveDeadline != call.deadline) .effectiveDeadlineMismatch
  deny (authority.policyRevision ≠ snapshot.policyRevision ||
    authority.visionPolicyRevision ≠ snapshot.visionPolicyRevision) .policyAuthorityMismatch
  deny (authority.grantsAuthority ≠ snapshot.canonicalGrants.grantsAuthority ||
    authority.grantsAuthority.motherNodeId ≠ snapshot.executingMotherNodeId) .grantsAuthorityMismatch
  deny (decide (authority.effectiveDeadline ≤ snapshot.evaluatedAt)) .expired
  token.admitRecords snapshot
  return token

/-! ## What evaluation looks at -/

/-- What both evaluation and admission look at. -/
structure ChildCallRecords.Current (records : ChildCallRecords) (policyRevision : Nat) : Prop where
  ready : records.inst.instanceState = .ready
  assigned : records.assignment.assignmentId = records.inst.assignmentId
  active : records.assignment.assignmentState = .active
  approvedBy : records.approval.approvalId = records.assignment.approvalId
  revision : records.approval.policyRevision = policyRevision
  approved : records.approval.approvalState = .approved
  assignmentArtifact : records.approval.artifactId = records.assignment.artifactId
  instanceArtifact : records.approval.artifactId = records.inst.artifactId
  assignmentChild : records.approval.childName = records.assignment.childName
  instanceChild : records.approval.childName = records.inst.childName
  artifactId : records.artifact.artifactId = records.assignment.artifactId
  verified : records.artifact.verificationStatus = .verified
  runsLocally : records.artifact.runtimeShape.isLocal = true
  version : records.artifact.artifactVersion = records.approval.artifactVersion
  artifactChild : records.artifact.childName = records.inst.childName

/-- **What evaluation looks at and admission does not.** -/
structure ChildCallRecords.InScope (records : ChildCallRecords) (call : MctCall) (request : ChildCallAuthorityRequest) :
    Prop where
  node : records.inst.nodeId = request.nodeId
  vision : records.assignment.visionId = call.caller.visionId
  assignmentNode : optionMatches records.assignment.nodeId (some request.nodeId) = true
  assignmentProject : dataScopeMatches call request.dataAuthority records.assignment.projectId none = true
  pinned : records.approval.artifactVersion = records.assignment.pinnedArtifactVersion
  approvalScope : approvalScopeMatches records.approval call request.nodeId = true
  approvalProject : dataScopeMatches call request.dataAuthority records.approval.scopeProjectId none = true
  exported : records.artifact.exportsOperation call.target = true

/-- The records are the first ones of their ids in the policy. -/
structure ChildCallRecords.Found (records : ChildCallRecords) (policy : LocalChildPolicySnapshotV1) : Prop where
  inst : policy.instances.find? (fun inst => inst.instanceId == records.inst.instanceId) = some records.inst
  assignment : policy.assignments.find? (fun assignment =>
    assignment.assignmentId == records.assignment.assignmentId) = some records.assignment
  approval : policy.approvals.find? (fun approval =>
    approval.approvalId == records.approval.approvalId) = some records.approval
  artifact : policy.artifacts.find? (fun artifact =>
    artifact.artifactId == records.artifact.artifactId) = some records.artifact

variable {call call' : MctCall} {request : ChildCallAuthorityRequest} {policy : LocalChildPolicySnapshotV1}
  {policyRevision : Nat} {records : ChildCallRecords} {token admitted : AuthorizedChildInvocation}
  {snapshot : LocalExecutionAuthoritySnapshot}

/-- **Evaluation allows a call exactly on current records that have it in scope.** -/
theorem childCallRecords_ok : childCallRecords call request policy policyRevision = .ok records ↔
    records.inst.instanceId = request.instanceId ∧ records.Found policy ∧ records.Current policyRevision ∧
      records.InScope call request := by
  simp only [childCallRecords, bind_ok, exists_unit, deny_ok, okOr_ok, pure_ok, Bool.or_eq_false_iff,
    decide_eq_false_iff_not, not_not, and_assoc, Bool.not_eq_eq_eq_not, Bool.not_false]
  constructor
  · rintro ⟨inst, hinst, hnode, hready, assignment, hass, hact, hvision, hanode, hapr, approval,
      happ, hrev, happroved, h₁, h₂, h₃, h₄, h₅, hscope, hproj, artifact, hartifact, hver, hlocal,
      h₆, h₇, h₈, h₉, hexport, rfl⟩
    have hi : inst.instanceId = request.instanceId := by simpa using List.find?_some hinst
    have ha : assignment.assignmentId = inst.assignmentId := by simpa using List.find?_some hass
    have hp : approval.approvalId = assignment.approvalId := by simpa using List.find?_some happ
    have hr : artifact.artifactId = assignment.artifactId := by simpa using List.find?_some hartifact
    refine ⟨hi, ⟨?_, ?_, ?_, ?_⟩, ⟨hready, ha, hact, hp, hrev, happroved, h₁, h₂, h₃, h₄, hr, hver, hlocal,
      h₇, h₉⟩, ⟨hnode, hvision, hanode, hapr, h₅, hscope, hproj, hexport⟩⟩
    · rw [hi]
      exact hinst
    · rw [ha]
      exact hass
    · rw [hp]
      exact happ
    · rw [hr]
      exact hartifact
  · rintro ⟨hi, hfound, hcur, hscope⟩
    refine ⟨records.inst, ?_, hscope.node, hcur.ready, records.assignment, ?_, hcur.active, hscope.vision,
      hscope.assignmentNode, hscope.assignmentProject, records.approval, ?_, hcur.revision, hcur.approved,
      hcur.assignmentArtifact, hcur.instanceArtifact, hcur.assignmentChild, hcur.instanceChild,
      hscope.pinned, hscope.approvalScope, hscope.approvalProject, records.artifact, ?_, hcur.verified,
      hcur.runsLocally, hcur.version.trans hscope.pinned, hcur.version,
      ?_, hcur.artifactChild, hscope.exported, rfl⟩
    · rw [← hi]
      exact hfound.inst
    · rw [← hcur.assigned]
      exact hfound.assignment
    · rw [← hcur.approvedBy]
      exact hfound.approval
    · rw [← hcur.artifactId]
      exact hfound.artifact
    · rw [hcur.artifactId, ← hcur.assignmentArtifact]
      exact hcur.instanceArtifact

theorem evaluate_authorized : (evaluateChildCallAuthorityWithPolicy call request policy policyRevision).authorized =
      some token ↔
    ∃ records, childCallRecords call request policy policyRevision = .ok records ∧
      token = mintChildInvocation call request records := by
  unfold evaluateChildCallAuthorityWithPolicy
  cases childCallRecords call request policy policyRevision with
  | error evaluation => simp
  | ok records => simp [eq_comm]

/-! ## What admission looks at -/

structure ChildCallRecords.NamedBy (records : ChildCallRecords) (token : AuthorizedChildInvocation) : Prop where
  inst : records.inst.instanceId = token.childInstanceId
  assignment : records.assignment.assignmentId = token.assignmentId
  approval : records.approval.approvalId = token.approvalId
  artifact : records.artifact.artifactId = token.artifactId

structure LocalChildPolicySnapshotV1.DistinctIds (policy : LocalChildPolicySnapshotV1) : Prop where
  instances : (policy.instances.map (·.instanceId)).Nodup
  assignments : (policy.assignments.map (·.assignmentId)).Nodup
  approvals : (policy.approvals.map (·.approvalId)).Nodup
  artifacts : (policy.artifacts.map (·.artifactId)).Nodup

/-- **The records stand for a token at a snapshot**: the snapshot has them, they are the ones that the token names and all
of them are current.  Of several good approvals under one id the first one counts. -/
structure ChildCallRecords.StandFor (records : ChildCallRecords) (token : AuthorizedChildInvocation)
    (snapshot : LocalExecutionAuthoritySnapshot) : Prop where
  named : records.NamedBy token
  current : records.Current snapshot.policyRevision
  child : records.inst.childName = token.childName
  manifest : records.artifact.manifestHash = token.manifestHash
  inst : records.inst ∈ snapshot.childPolicy.instances
  assignment : records.assignment ∈ snapshot.childPolicy.assignments
  approval : (snapshot.childPolicy.approvals.find? fun approval => approval.approvalId == token.approvalId &&
    approval.artifactId == token.artifactId && approval.childName == token.childName &&
    approval.approvalState == .approved && approval.policyRevision == snapshot.policyRevision) = some records.approval
  artifact : records.artifact ∈ snapshot.childPolicy.artifacts

/-- **Admission finds its records exactly if some stand for the token.** -/
theorem admitRecords_ok : token.admitRecords snapshot = .ok () ↔
    ∃ records : ChildCallRecords, records.StandFor token snapshot := by
  simp only [AuthorizedChildInvocation.admitRecords, bind_ok, deny_ok, okOr_ok,
    Bool.not_eq_eq_eq_not, Bool.not_false, List.any_eq_true, Bool.and_eq_true, beq_iff_eq]
  constructor
  · rintro ⟨inst, hinst, assignment, hass, approval, happ, artifact, hmem, hartifact⟩
    have hi := List.find?_some hinst
    have ha := List.find?_some hass
    have hp := List.find?_some happ
    simp only [Bool.and_eq_true, beq_iff_eq] at hi ha hp
    obtain ⟨⟨⟨⟨hiid, hia⟩, hir⟩, hic⟩, hready⟩ := hi
    obtain ⟨⟨⟨⟨haid, hap⟩, har⟩, hac⟩, hact⟩ := ha
    obtain ⟨⟨⟨⟨hpid, hpr⟩, hpc⟩, happroved⟩, hrev⟩ := hp
    obtain ⟨⟨⟨⟨⟨hrid, hrc⟩, hvers⟩, hmanifest⟩, hver⟩, hlocal⟩ := hartifact
    rw [hap] at happ
    exact ⟨⟨inst, assignment, approval, artifact⟩, ⟨hiid, haid.trans hia, hpid.trans hap, hrid.trans hpr⟩,
      ⟨hready, haid, hact, hpid, hrev, happroved, hpr.trans har.symm, hpr.trans hir.symm, hpc.trans hac.symm,
        hpc.trans hic.symm, (hrid.trans hpr).trans har.symm, hver, hlocal, hvers, hrc.trans hic.symm⟩, hic, hmanifest,
      List.mem_of_find?_eq_some hinst, List.mem_of_find?_eq_some hass, happ, hmem⟩
  · rintro ⟨records, h⟩
    have hc := h.current
    have hartifact : records.assignment.artifactId = token.artifactId := hc.artifactId.symm.trans h.named.artifact
    have hchild : records.approval.childName = token.childName := hc.instanceChild.trans h.child
    -- another instance or assignment may stand first in its list, but it names the same ids
    refine FirstDecision.find?_exists h.inst ?_ fun inst hi => FirstDecision.find?_exists h.assignment ?_ fun assignment ha =>
      ⟨records.approval, ?_, records.artifact, h.artifact,
        ⟨⟨⟨⟨⟨hc.artifactId.trans hc.assignmentArtifact.symm, hc.artifactChild.trans h.child⟩, hc.version⟩, h.manifest⟩,
          hc.verified⟩, hc.runsLocally⟩⟩
    · simp only [Bool.and_eq_true, beq_iff_eq]
      exact ⟨⟨⟨⟨h.named.inst, hc.assigned.symm.trans h.named.assignment⟩,
        hc.instanceArtifact.symm.trans (hc.assignmentArtifact.trans hartifact)⟩, h.child⟩, hc.ready⟩
    · simp only [Bool.and_eq_true, beq_iff_eq] at hi ⊢
      exact ⟨⟨⟨⟨h.named.assignment.trans hi.1.1.1.2.symm, hc.approvedBy.symm.trans h.named.approval⟩, hartifact⟩,
        hc.assignmentChild.symm.trans hchild⟩, hc.active⟩
    · simp only [Bool.and_eq_true, beq_iff_eq] at ha
      rw [ha.1.1.1.2]
      exact h.approval

theorem ChildCallRecords.StandFor.found (h : records.StandFor token snapshot) (hids : snapshot.childPolicy.DistinctIds) :
    records.Found snapshot.childPolicy :=
  ⟨FirstDecision.find?_key hids.instances h.inst, FirstDecision.find?_key hids.assignments h.assignment,
    FirstDecision.find?_key hids.approvals (List.mem_of_find?_eq_some h.approval),
    FirstDecision.find?_key hids.artifacts h.artifact⟩

structure LocalExecutionAuthorityTokenV1.AdmitsCall (authority : LocalExecutionAuthorityTokenV1)
    (token : AuthorizedChildInvocation) (call : MctCall) (snapshot : LocalExecutionAuthoritySnapshot) : Prop where
  callId : token.callId = call.callId
  binding : token.callBinding.matchesCall call = true
  deadline : (authority.effectiveDeadline == call.deadline) = true
  policy : authority.policyRevision = snapshot.policyRevision ∧
    authority.visionPolicyRevision = snapshot.visionPolicyRevision
  grants : authority.grantsAuthority = snapshot.canonicalGrants.grantsAuthority ∧
    authority.grantsAuthority.motherNodeId = snapshot.executingMotherNodeId
  unexpired : snapshot.evaluatedAt < authority.effectiveDeadline

theorem admit_ok : token.admitEffectWithSnapshot call snapshot = .ok admitted ↔
    (∃ au, token.localExecutionAuthority = some au ∧ au.AdmitsCall token call snapshot) ∧
      token.admitRecords snapshot = .ok () ∧ token = admitted := by
  simp only [AuthorizedChildInvocation.admitEffectWithSnapshot, bind_ok, exists_unit, deny_ok, okOr_ok, pure_ok,
    Bool.or_eq_false_iff, decide_eq_false_iff_not, not_not, Bool.not_eq_eq_eq_not, Bool.not_false, bne,
    Timestamp.not_le]
  constructor
  · rintro ⟨au, hauth, hid, hbin, hdead, hpol, hgrants, hexpired, hrec, htoken⟩
    exact ⟨⟨au, hauth, hid, hbin, hdead, hpol, hgrants, hexpired⟩, hrec, htoken⟩
  · rintro ⟨⟨au, hauth, hadm⟩, hrec, htoken⟩
    exact ⟨au, hauth, hadm.callId, hadm.binding, hadm.deadline, hadm.policy, hadm.grants,
      hadm.unexpired, hrec, htoken⟩

/-! ## Admission against fresh evaluation -/

def FreshlyAllowed (call : MctCall) (request : ChildCallAuthorityRequest) (snapshot : LocalExecutionAuthoritySnapshot)
    (token : AuthorizedChildInvocation) : Prop :=
  let result := evaluateChildCallAuthorityWithPolicy call request snapshot.childPolicy snapshot.policyRevision
  result.isAllowed = true ∧ result.evaluation.instanceId = some token.childInstanceId ∧
    result.evaluation.assignmentId = some token.assignmentId ∧
    result.evaluation.approvalId = some token.approvalId ∧ result.evaluation.artifactId = some token.artifactId

/-- **The records that the token names still have the call in scope.** -/
def ScopeKept (call : MctCall) (request : ChildCallAuthorityRequest) (policy : LocalChildPolicySnapshotV1)
    (token : AuthorizedChildInvocation) : Prop :=
  ∀ records : ChildCallRecords, records.NamedBy token → records.Found policy → records.InScope call request

theorem freshlyAllowed_iff : FreshlyAllowed call request snapshot token ↔
    ∃ records, childCallRecords call request snapshot.childPolicy snapshot.policyRevision = .ok records ∧
      records.NamedBy token := by
  unfold FreshlyAllowed evaluateChildCallAuthorityWithPolicy
  cases hr : childCallRecords call request snapshot.childPolicy snapshot.policyRevision with
  | error evaluation => simp [ChildCallAuthorityResult.isAllowed]
  | ok records =>
    simp only [ChildCallAuthorityResult.isAllowed, allowedChildCall, Option.some.injEq, Except.ok.injEq, exists_eq_left']
    constructor
    · rintro ⟨-, h₁, h₂, h₃, h₄⟩
      exact ⟨h₁, h₂, h₃, h₄⟩
    · rintro ⟨h₁, h₂, h₃, h₄⟩
      exact ⟨rfl, h₁, h₂, h₃, h₄⟩

theorem ChildCallRecords.Found.eq {records' : ChildCallRecords} (h : records.Found policy) (h' : records'.Found policy)
    (hnamed : records.NamedBy token) (hnamed' : records'.NamedBy token) : records = records' := by
  have hi := h.inst
  have ha := h.assignment
  have hp := h.approval
  have hr := h.artifact
  rw [hnamed.inst, ← hnamed'.inst, h'.inst] at hi
  rw [hnamed.assignment, ← hnamed'.assignment, h'.assignment] at ha
  rw [hnamed.approval, ← hnamed'.approval, h'.approval] at hp
  rw [hnamed.artifact, ← hnamed'.artifact, h'.artifact] at hr
  cases records
  cases records'
  simp only [Option.some.injEq] at hi ha hp hr
  rw [hi, ha, hp, hr]

/-- **An admitted token would be minted again exactly when its records still have the call in scope.**  Admission
itself looks at no scope, node, pinned version or exported operation. -/
theorem admission_agrees_iff {minting : LocalExecutionAuthoritySnapshot} {deadline : Timestamp}
    (hmint : (evaluateChildCallAuthorityWithPolicy call request minting.childPolicy
      minting.policyRevision).authorized = some token)
    (hids : snapshot.childPolicy.DistinctIds)
    (haccepted : (token.bindLocalExecutionAuthority (minting.executionAuthority deadline)).admitEffectWithSnapshot call
      snapshot = .ok admitted) :
    FreshlyAllowed call request snapshot token ↔ ScopeKept call request snapshot.childPolicy token := by
  obtain ⟨minted, hmin, rfl⟩ := evaluate_authorized.mp hmint
  have hins := (childCallRecords_ok.mp hmin).1
  obtain ⟨records, hstand⟩ := admitRecords_ok.mp (admit_ok.mp haccepted).2.1
  have hfound := hstand.found hids
  -- binding the token to a snapshot does not change the ids it names
  have hnamed : records.NamedBy (mintChildInvocation call request minted) :=
    ⟨hstand.named.inst, hstand.named.assignment, hstand.named.approval, hstand.named.artifact⟩
  rw [freshlyAllowed_iff]
  constructor
  · rintro ⟨fresh, hfresh, hnamed'⟩ records' hnamed'' hfound'
    obtain ⟨-, hfound'', -, hscope⟩ := childCallRecords_ok.mp hfresh
    rw [hfound'.eq hfound'' hnamed'' hnamed']
    exact hscope
  · intro hkept
    exact ⟨records, childCallRecords_ok.mpr ⟨hnamed.inst.trans hins, hfound, hstand.current, hkept _ hnamed hfound⟩, hnamed⟩

end Mct

namespace Mct.ChildSample

open ToySample (call)

def observed : ObservationId := ⟨"child-observation", by decide⟩
def node : MctNodeId := ⟨"child-node", by decide⟩
def artifactId : ComponentArtifactId := ⟨"artifact", by decide⟩
def approvalId : ChildApprovalId := ⟨"approval", by decide⟩
def assignmentId : ChildAssignmentId := ⟨"assignment", by decide⟩
def instanceId : ChildInstanceId := ⟨"child-instance", by decide⟩

def request : ChildCallAuthorityRequest where
  dataAuthority := none
  instanceId := instanceId
  nodeId := node
  ids := ⟨⟨"child-evaluation", by decide⟩, ⟨"child-decision", by decide⟩, observed, ⟨"child-token", by decide⟩⟩

def artifact : ComponentArtifact where
  artifactId := artifactId
  childName := "child"
  artifactVersion := "1"
  contentHash := "ch"
  manifestHash := "mh"
  primaryExport := ⟨"n", "i", "1", ["f"]⟩
  additionalExports := []
  runtimeShape := .wasmComponent
  ingressMode := .witOnly
  lifecycleExports := .absentAllowed
  verificationStatus := .verified
  provenanceStatus := .acquisitionBacked
  acquisitionIds := []
  createdByObservationId := observed

def approval : ChildApproval :=
  ⟨approvalId, artifactId, "child", "1", none, none, none, .approved, 1, observed⟩

def assignmentTo (vision : VisionId) : ChildAssignment :=
  ⟨assignmentId, approvalId, artifactId, "child", vision, none, none, .active, "1", observed⟩

def inst : ChildInstance :=
  ⟨instanceId, assignmentId, artifactId, "child", 0, node, .ready, none, observed⟩

def snapshotFor (vision : VisionId) : LocalExecutionAuthoritySnapshot where
  executingMotherNodeId := "m"
  canonicalGrants := ⟨⟨"m", "e", 0, "o"⟩, [], []⟩
  policyRevision := 1
  visionPolicyRevision := 1
  childPolicy := ⟨[artifact], [approval], [assignmentTo vision], [inst]⟩
  evaluatedAt := ⟨"2026-05-31T00:00:00Z", 1780185600000000000⟩

def token : AuthorizedChildInvocation :=
  mintChildInvocation call request ⟨inst, assignmentTo call.caller.visionId, approval, artifact⟩

def boundToken : AuthorizedChildInvocation :=
  token.bindLocalExecutionAuthority ((snapshotFor call.caller.visionId).executionAuthority call.deadline)

def elsewhere : VisionId := ⟨"elsewhere", by decide⟩

theorem token_minted : (evaluateChildCallAuthorityWithPolicy call request
    (snapshotFor call.caller.visionId).childPolicy (snapshotFor call.caller.visionId).policyRevision).authorized =
      some token := by
  decide

theorem token_admitted (vision : VisionId) :
    boundToken.admitEffectWithSnapshot call (snapshotFor vision) = .ok boundToken := by
  rfl

theorem distinctIds (vision : VisionId) : (snapshotFor vision).childPolicy.DistinctIds :=
  ⟨List.nodup_singleton _, List.nodup_singleton _, List.nodup_singleton _, List.nodup_singleton _⟩

/-- The assignment is moved to another vision between minting and admission. -/
theorem moved_assignment_admitted :
    boundToken.admitEffectWithSnapshot call (snapshotFor elsewhere) = .ok boundToken ∧
      (evaluateChildCallAuthorityWithPolicy call request (snapshotFor elsewhere).childPolicy
        (snapshotFor elsewhere).policyRevision).evaluation.reasonCode = .approvalScopeMismatch ∧
      ¬ FreshlyAllowed call request (snapshotFor elsewhere) token := by
  refine ⟨token_admitted elsewhere, by decide, ?_⟩
  intro h
  exact absurd h.1 (by decide)

theorem admission_agrees_unmoved :
    FreshlyAllowed call request (snapshotFor call.caller.visionId) token ↔
      ScopeKept call request (snapshotFor call.caller.visionId).childPolicy token :=
  admission_agrees_iff token_minted (distinctIds _) (token_admitted call.caller.visionId)

end Mct.ChildSample

namespace Mct

variable {call call' : MctCall} {request : ChildCallAuthorityRequest} {policy : LocalChildPolicySnapshotV1}
  {policyRevision : Nat} {records : ChildCallRecords} {token admitted : AuthorizedChildInvocation}
  {snapshot : LocalExecutionAuthoritySnapshot}

/-! ## The target of a call -/

/-- What an admitted call shares with the call that the token was minted for. -/
structure SameInvocation (call call' : MctCall) : Prop where
  callId : call'.callId = call.callId
  caller : call'.caller = call.caller
  payload : call'.payloadMetadata = call.payloadMetadata
  origin : call'.origin = call.origin

def OperationTarget.other (target : OperationTarget) : OperationTarget :=
  { target with functionName := target.functionName ++ "x" }

theorem OperationTarget.other_ne (target : OperationTarget) : target.other ≠ target := by
  intro h
  have hname := congrArg (fun t => t.functionName.toList.length) h
  simp [OperationTarget.other] at hname

/-- **The token still stands at a snapshot**: the revisions and the grants that it is bound to are the snapshot's, the
Mother executes under her own grants, the deadline has not come, and the snapshot has the token's records. -/
structure AuthorizedChildInvocation.StandsAt (token : AuthorizedChildInvocation)
    (binding snapshot : LocalExecutionAuthoritySnapshot) (deadline : Timestamp) : Prop where
  policy : binding.policyRevision = snapshot.policyRevision ∧ binding.visionPolicyRevision = snapshot.visionPolicyRevision
  grants : binding.canonicalGrants.grantsAuthority = snapshot.canonicalGrants.grantsAuthority ∧
    binding.canonicalGrants.grantsAuthority.motherNodeId = snapshot.executingMotherNodeId
  unexpired : snapshot.evaluatedAt < deadline
  records : ∃ records : ChildCallRecords, records.StandFor token snapshot

theorem AuthorizedChildInvocation.StandsAt.of_admitted {binding : LocalExecutionAuthoritySnapshot} {deadline : Timestamp}
    (haccepted : (token.bindLocalExecutionAuthority (binding.executionAuthority deadline)).admitEffectWithSnapshot call
      snapshot = .ok admitted) : token.StandsAt binding snapshot deadline := by
  obtain ⟨⟨au, hauth, hadm⟩, hrec, -⟩ := admit_ok.mp haccepted
  cases hauth
  obtain ⟨records, h⟩ := admitRecords_ok.mp hrec
  exact ⟨hadm.policy, hadm.grants, hadm.unexpired, records, ⟨h.named.1, h.named.2, h.named.3, h.named.4⟩, h.current,
    h.child, h.manifest, h.inst, h.assignment, h.approval, h.artifact⟩

theorem AuthorizedChildInvocation.StandsAt.admits {binding : LocalExecutionAuthoritySnapshot} {deadline : Timestamp}
    (h : (mintChildInvocation call request records).StandsAt binding snapshot deadline)
    (hsame : SameInvocation call call') (hdead : (deadline == call'.deadline) = true) :
    let bound := (mintChildInvocation call request records).bindLocalExecutionAuthority (binding.executionAuthority deadline)
    bound.admitEffectWithSnapshot call' snapshot = .ok bound := by
  intro bound
  obtain ⟨found, hs⟩ := h.records
  have hrec : found.StandFor bound snapshot := ⟨⟨hs.named.1, hs.named.2, hs.named.3, hs.named.4⟩, hs.current, hs.child,
    hs.manifest, hs.inst, hs.assignment, hs.approval, hs.artifact⟩
  refine admit_ok.mpr ⟨⟨_, rfl, hsame.callId.symm, ?_, hdead, h.policy, h.grants, h.unexpired⟩,
    admitRecords_ok.mpr ⟨found, hrec⟩, rfl⟩
  exact InvocationCallBinding.matchesCall_capture.mpr ⟨hsame.caller, hsame.payload, hsame.origin⟩

/-- **A token keeps to its call's target exactly where it no longer stands.**  Where it stands, it is admitted for the call
id, caller, payload, origin and deadline that it is bound to, and for any target. -/
theorem token_target_iff {binding : LocalExecutionAuthoritySnapshot} {deadline : Timestamp}
    (hmint : (evaluateChildCallAuthorityWithPolicy call request policy policyRevision).authorized = some token)
    (snapshot : LocalExecutionAuthoritySnapshot) :
    let bound := token.bindLocalExecutionAuthority (binding.executionAuthority deadline)
    (∀ call', bound.admitEffectWithSnapshot call' snapshot = .ok bound → call'.target = call.target) ↔
      ¬ token.StandsAt binding snapshot deadline := by
  obtain ⟨minted, hmin, rfl⟩ := evaluate_authorized.mp hmint
  intro bound
  constructor
  · intro hkeeps hstands
    have hsame : SameInvocation call { call with deadline := deadline, target := call.target.other } :=
      ⟨rfl, rfl, rfl, rfl⟩
    exact call.target.other_ne (hkeeps _ (hstands.admits hsame (beq_self_eq_true deadline)))
  · intro hgone call' haccepted
    exact absurd (.of_admitted haccepted) hgone

end Mct

namespace Mct.ChildSample

open ToySample (call)

def otherCall : MctCall := { call with target := ⟨"n", "i", "g"⟩ }

theorem other_target_admitted :
    (evaluateChildCallAuthorityWithPolicy call request (snapshotFor call.caller.visionId).childPolicy
        1).authorized = some token ∧
      boundToken.admitEffectWithSnapshot otherCall (snapshotFor call.caller.visionId) = .ok boundToken ∧
      otherCall.target ≠ call.target ∧ artifact.exportsOperation otherCall.target = false := by
  refine ⟨token_minted, rfl, by decide, by decide⟩

theorem token_target_applies :
    (∀ call', boundToken.admitEffectWithSnapshot call' (snapshotFor call.caller.visionId) = .ok boundToken →
        call'.target = call.target) ↔
      ¬ token.StandsAt (snapshotFor call.caller.visionId) (snapshotFor call.caller.visionId) call.deadline :=
  token_target_iff token_minted (snapshotFor call.caller.visionId)

end Mct.ChildSample
