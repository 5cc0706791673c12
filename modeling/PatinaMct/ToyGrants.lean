import PatinaMct.ExecutionAuthority
import PatinaMct.FirstDecision
/-!
# ToyGrants — whether a child may use a toy

`toy.rs`: the evaluation of toy grants for a route and for a call.  The loop over the grants remembers grants that fail
in their state or scope, but returns at the first grant of the right subject that is stale or outside its window
(`scanToyGrants`), so the verdict is that of the first grant that decides.  `toyVerdict_existential_iff` says for which
grants the verdict is all the same that some grant covers the request, in whatever order they stand.
-/
namespace Mct

open FirstDecision

abbrev ToyGrantEvaluationId := StringId "ToyGrantEvaluationId"
abbrev AuthorizedToyCallId := StringId "AuthorizedToyCallId"

/-! ## Windows -/

inductive ExpiryRequirement
  | optional | mandatory | forbidden
  deriving DecidableEq, Repr

inductive ExpiryDecision
  | «open» | notYet | expired | missing | presentButForbidden
  deriving DecidableEq, Repr

def expiryDecision (now : Timestamp) (startsAt expiresAt : Option Timestamp) (requirement : ExpiryRequirement) :
    ExpiryDecision :=
  if startsAt.any fun startsAt => decide (now < startsAt) then .notYet
  else
    match requirement with
    | .forbidden => if expiresAt.isSome then .presentButForbidden else .open
    | .mandatory =>
      match expiresAt with
      | none => .missing
      | some expiresAt => if expiresAt ≤ now then .expired else .open
    | .optional =>
      match expiresAt with
      | none => .open
      | some expiresAt => if expiresAt ≤ now then .expired else .open

/-! ## Records -/

inductive ToyGrantVerdict
  | allowed | denied
  deriving DecidableEq, Repr

inductive ToyGrantReasonCode
  | activeGrant | missingGrant | expiredGrant | revokedGrant | wrongScope | unknownToy | policyDenied | staleSnapshot
  deriving DecidableEq, Repr

structure ToyGrantEvaluation where
  evaluationId : ToyGrantEvaluationId
  callId : CallId
  decisionId : DecisionId
  grantId : Option ToyGrantId
  toyId : ToyId
  subjectChildName : String
  verdict : ToyGrantVerdict
  reasonCode : ToyGrantReasonCode
  policyRevision : Nat
  grantsRevision : Nat
  observationId : ObservationId
  deriving DecidableEq, Repr

structure AuthorizedToyCall where
  callBinding : InvocationCallBinding
  authorizedToyCallId : AuthorizedToyCallId
  callId : CallId
  evaluationId : ToyGrantEvaluationId
  grantId : ToyGrantId
  toyId : ToyId
  childInstanceId : ChildInstanceId
  resourceId : Option String
  authorityDecisionId : DecisionId
  expiresAt : Timestamp
  policyRevision : Nat
  grantsRevision : Nat
  localExecutionAuthority : Option LocalExecutionAuthorityTokenV1
  canonicalToy : CanonicalToyContract
  canonicalGrant : ToyGrant
  subject : ToyGrantSubject
  action : String
  nodeId : MctNodeId
  visionId : VisionId
  projectId : Option ProjectId
  dataClassification : String
  deriving DecidableEq, Repr

structure ToyGrantEvaluationIds where
  evaluationId : ToyGrantEvaluationId
  decisionId : DecisionId
  observationId : ObservationId
  authorizedToyCallId : AuthorizedToyCallId
  deriving DecidableEq, Repr

structure ToyGrantEvaluationRequest where
  dataAuthority : Option LocalInvocationData
  toyId : ToyId
  subject : ToyGrantSubject
  childInstanceId : ChildInstanceId
  action : String
  resourceId : Option String
  nodeId : MctNodeId
  now : Timestamp
  ids : ToyGrantEvaluationIds
  deriving DecidableEq, Repr

structure ToyGrantEvaluationResult where
  evaluation : ToyGrantEvaluation
  authorized : Option AuthorizedToyCall
  deriving DecidableEq, Repr

def ToyGrantEvaluationResult.isAllowed (result : ToyGrantEvaluationResult) : Bool :=
  result.evaluation.verdict == .allowed && result.authorized.isSome

/-! ## Matching -/

def subjectMatches (grant request : ToyGrantSubject) : Bool :=
  grant.childName == request.childName && grant.artifactId == request.artifactId &&
    grant.artifactVersion == request.artifactVersion && optionMatches grant.assignmentId request.assignmentId &&
    optionMatches grant.callerNodeId request.callerNodeId

def scopeMatches (scope : ToyGrantScope) (call : MctCall) (request : ToyGrantEvaluationRequest) : Bool :=
  scope.visionId == call.caller.visionId && optionMatches scope.nodeId (some request.nodeId) &&
    dataScopeMatches call request.dataAuthority scope.projectId scope.dataClassification &&
    optionMatches scope.resourceId request.resourceId &&
    scope.allowedActions.any fun allowed => allowed == request.action

def toyTimeWindowDenial (now : Timestamp) (constraints : ToyGrantConstraints) : Option ToyGrantReasonCode :=
  match expiryDecision now constraints.startsAt constraints.expiresAt .optional with
  | .open => none
  | .expired => some .expiredGrant
  | .notYet | .missing | .presentButForbidden => some .policyDenied

def toyTokenExpiry [KernelHost] (call : MctCall) (request : ToyGrantEvaluationRequest) (grant : ToyGrant) :
    Option Timestamp :=
  let expiry := (grant.constraints.expiresAt.getD call.deadline).min call.deadline
  match grant.constraints.maxDurationMs with
  | none => some expiry
  | some maxDurationMs => (request.now.checkedAddMilliseconds maxDurationMs).map expiry.min

def ToyGrantState.denial : ToyGrantState → Option ToyGrantReasonCode
  | .active => none
  | .expired => some .expiredGrant
  | .revoked | .superseded | .denied => some .revokedGrant
  | .requested => some .policyDenied

/-! ## The evaluations -/

/-- How the loop over the grants ends: with the grant that covers the request, or with what to deny it for. -/
inductive ToyGrantScan
  | allowed (grant : ToyGrant)
  | denied (grant : Option ToyGrant) (reason : ToyGrantReasonCode)
  deriving DecidableEq

def scanToyGrants (policyRevision : Nat) (call : MctCall) (request : ToyGrantEvaluationRequest) :
    Option (ToyGrant × ToyGrantReasonCode) → Option ToyGrant → List ToyGrant → ToyGrantScan
  | matchingWrongState, matchingWrongScope, [] =>
    match matchingWrongScope, matchingWrongState with
    | some grant, _ => .denied (some grant) .wrongScope
    | none, some (grant, reason) => .denied (some grant) reason
    | none, none => .denied none .missingGrant
  | matchingWrongState, matchingWrongScope, grant :: rest =>
    if grant.toyId ≠ request.toyId then scanToyGrants policyRevision call request matchingWrongState matchingWrongScope rest
    else if !subjectMatches grant.subject request.subject then
      scanToyGrants policyRevision call request matchingWrongState matchingWrongScope rest
    else if grant.policyRevision ≠ policyRevision then .denied (some grant) .staleSnapshot
    else
      match grant.grantState.denial with
      | some reason => scanToyGrants policyRevision call request (some (grant, reason)) matchingWrongScope rest
      | none =>
        match toyTimeWindowDenial request.now grant.constraints with
        | some reason => .denied (some grant) reason
        | none =>
          if !scopeMatches grant.scope call request then
            scanToyGrants policyRevision call request matchingWrongState (some grant) rest
          else .allowed grant

variable (call : MctCall) (request : ToyGrantEvaluationRequest)

def toyEvaluation (grant : Option ToyGrant) (verdict : ToyGrantVerdict) (reasonCode : ToyGrantReasonCode)
    (policyRevision grantsRevision : Nat) :
    ToyGrantEvaluation where
  evaluationId := request.ids.evaluationId
  callId := call.callId
  decisionId := request.ids.decisionId
  grantId := grant.map (·.grantId)
  toyId := request.toyId
  subjectChildName := request.subject.childName
  verdict := verdict
  reasonCode := reasonCode
  policyRevision := policyRevision
  grantsRevision := grantsRevision
  observationId := request.ids.observationId

def evaluateToyGrantForRouteSnapshot (catalog : List CanonicalToyContract) (grants : List ToyGrant)
    (localPolicyRevision localGrantsGeneration : Nat) :
    ToyGrantEvaluation :=
  match catalog.find? fun toy => toy.toyId == request.toyId with
  | none => toyEvaluation call request none .denied .unknownToy localPolicyRevision localGrantsGeneration
  | some toy =>
    if !toy.authorityBearing then
      toyEvaluation call request none .denied .policyDenied localPolicyRevision localGrantsGeneration
    else
      match scanToyGrants localPolicyRevision call request none none grants with
      | .denied grant reason =>
        toyEvaluation call request grant .denied reason localPolicyRevision localGrantsGeneration
      | .allowed grant =>
        toyEvaluation call request (some grant) .allowed .activeGrant localPolicyRevision localGrantsGeneration

/-- `denied`, with the revisions of the grant or else of the call. -/
def deniedToyCall (grant : Option ToyGrant) (reason : ToyGrantReasonCode) : ToyGrantEvaluationResult :=
  ⟨toyEvaluation call request grant .denied reason
    ((grant.map (·.policyRevision)).getD call.authorityContext.policyRevision)
    ((grant.map (·.grantsRevision)).getD call.authorityContext.expectedReceiverGrantsAuthority.generation), none⟩

def mintToyCall (evaluation : ToyGrantEvaluation) (toy : CanonicalToyContract) (grant : ToyGrant)
    (expiresAt : Timestamp) (policyRevision grantsRevision : Nat) (authority : Option LocalExecutionAuthorityTokenV1) :
    AuthorizedToyCall where
  callBinding := .capture call
  authorizedToyCallId := request.ids.authorizedToyCallId
  callId := call.callId
  evaluationId := evaluation.evaluationId
  grantId := grant.grantId
  toyId := request.toyId
  childInstanceId := request.childInstanceId
  resourceId := request.resourceId
  authorityDecisionId := evaluation.decisionId
  expiresAt := expiresAt
  policyRevision := policyRevision
  grantsRevision := grantsRevision
  localExecutionAuthority := authority
  canonicalToy := toy
  canonicalGrant := grant
  subject := request.subject
  action := request.action
  nodeId := request.nodeId
  visionId := call.caller.visionId
  projectId := call.caller.projectId
  dataClassification := call.payloadMetadata.dataClassification

def evaluateToyGrantForCall [KernelHost] (call : MctCall) (request : ToyGrantEvaluationRequest)
    (catalog : List CanonicalToyContract) (grants : List ToyGrant) : ToyGrantEvaluationResult :=
  match catalog.find? fun toy => toy.toyId == request.toyId with
  | none => deniedToyCall call request none .unknownToy
  | some toy =>
    if !toy.authorityBearing then deniedToyCall call request none .policyDenied
    else
      match scanToyGrants call.authorityContext.policyRevision call request none none grants with
      | .denied grant reason => deniedToyCall call request grant reason
      | .allowed grant =>
        match toyTokenExpiry call request grant with
        | none => deniedToyCall call request (some grant) .policyDenied
        | some expiresAt =>
          let evaluation := toyEvaluation call request (some grant) .allowed .activeGrant grant.policyRevision
            grant.grantsRevision
          ⟨evaluation, some (mintToyCall call request evaluation toy grant expiresAt grant.policyRevision
            grant.grantsRevision none)⟩

/-! ## What a grant decides -/

variable {call : MctCall} {request : ToyGrantEvaluationRequest} {policyRevision : Nat} {grant : ToyGrant}
  {grants : List ToyGrant} {catalog : List CanonicalToyContract} {final : ToyGrant → Bool}

/-- What the loop does at a grant: go on, or return a verdict.  A grant that covers the request still has to pass a
final check. -/
def ToyGrant.decides (policyRevision : Nat) (call : MctCall) (request : ToyGrantEvaluationRequest)
    (final : ToyGrant → Bool) (grant : ToyGrant) : Option Bool :=
  if grant.toyId ≠ request.toyId then none
  else if !subjectMatches grant.subject request.subject then none
  else if grant.policyRevision ≠ policyRevision then some false
  else if grant.grantState.denial.isSome then none
  else if (toyTimeWindowDenial request.now grant.constraints).isSome then some false
  else if !scopeMatches grant.scope call request then none
  else some (final grant)

def ToyGrantScan.passes (final : ToyGrant → Bool) : ToyGrantScan → Bool
  | .allowed grant => final grant
  | .denied _ _ => false

/-- **The loop is the first decision.** -/
theorem scanToyGrants_passes (matchingWrongState : Option (ToyGrant × ToyGrantReasonCode))
    (matchingWrongScope : Option ToyGrant) :
    (scanToyGrants policyRevision call request matchingWrongState matchingWrongScope grants).passes final = true ↔
      grants.findSome? (·.decides policyRevision call request final) = some true := by
  induction grants generalizing matchingWrongState matchingWrongScope with
  | nil =>
    cases matchingWrongScope with
    | some grant => simp [scanToyGrants, ToyGrantScan.passes]
    | none =>
      cases matchingWrongState with
      | none => simp [scanToyGrants, ToyGrantScan.passes]
      | some remembered => simp [scanToyGrants, ToyGrantScan.passes]
  | cons grant rest ih =>
    rw [scanToyGrants, List.findSome?_cons, ToyGrant.decides]
    by_cases htoy : grant.toyId ≠ request.toyId
    · rw [if_pos htoy, if_pos htoy]
      exact ih _ _
    rw [if_neg htoy, if_neg htoy]
    by_cases hsub : (!subjectMatches grant.subject request.subject) = true
    · rw [if_pos hsub, if_pos hsub]
      exact ih _ _
    rw [if_neg hsub, if_neg hsub]
    by_cases hrev : grant.policyRevision ≠ policyRevision
    · rw [if_pos hrev, if_pos hrev]
      simp [ToyGrantScan.passes]
    rw [if_neg hrev, if_neg hrev]
    cases hstate : grant.grantState.denial with
    | some reason => exact ih _ _
    | none =>
      cases hwindow : toyTimeWindowDenial request.now grant.constraints with
      | some reason => simp [ToyGrantScan.passes]
      | none =>
        cases hscope : scopeMatches grant.scope call request with
        | false =>
          simp only [Option.isSome_none, Bool.false_eq_true, if_false, Bool.not_false, if_true]
          exact ih _ _
        | true => simp [ToyGrantScan.passes]

def ToyGrantConstraints.InWindow (constraints : ToyGrantConstraints) (now : Timestamp) : Prop :=
  (∀ startsAt, constraints.startsAt = some startsAt → startsAt ≤ now) ∧
    ∀ expiresAt, constraints.expiresAt = some expiresAt → now < expiresAt

theorem toyTimeWindowDenial_isSome {now : Timestamp} {constraints : ToyGrantConstraints} :
    (toyTimeWindowDenial now constraints).isSome = true ↔ ¬ constraints.InWindow now := by
  unfold toyTimeWindowDenial expiryDecision ToyGrantConstraints.InWindow
  have hexpiry : ((match (match constraints.expiresAt with
      | none => ExpiryDecision.open
      | some expiresAt => if expiresAt ≤ now then .expired else .open) with
      | .open => none
      | .expired => some ToyGrantReasonCode.expiredGrant
      | .notYet | .missing | .presentButForbidden => some .policyDenied).isSome = true) ↔
      ¬ ∀ expiresAt, constraints.expiresAt = some expiresAt → now < expiresAt := by
    cases constraints.expiresAt with
    | none => simp
    | some expiresAt =>
      by_cases he : expiresAt ≤ now
      · simp [he, Timestamp.not_lt]
      · simp [he, Timestamp.not_le.mp he]
  cases constraints.startsAt with
  | none => simpa using hexpiry
  | some startsAt =>
    by_cases hs : now < startsAt
    · have hnot : ¬ startsAt ≤ now := Timestamp.not_le.mpr hs
      simp [hs, hnot]
    · have hle : startsAt ≤ now := Timestamp.not_lt.mp hs
      simpa [hs, hle] using hexpiry

/-- **A grant covers a request**: it is for this toy, matches the subject, has the policy revision, is active, inside its
window, and matches the scope. -/
structure ToyGrant.Covers (policyRevision : Nat) (call : MctCall) (request : ToyGrantEvaluationRequest)
    (grant : ToyGrant) : Prop where
  toy : grant.toyId = request.toyId
  subject : subjectMatches grant.subject request.subject = true
  revision : grant.policyRevision = policyRevision
  active : grant.grantState = .active
  window : grant.constraints.InWindow request.now
  scope : scopeMatches grant.scope call request = true

/-- **A grant blocks a request**: it is for this toy and subject, but stale, or active outside its window. -/
def ToyGrant.Blocks (policyRevision : Nat) (request : ToyGrantEvaluationRequest) (grant : ToyGrant) : Prop :=
  grant.toyId = request.toyId ∧ subjectMatches grant.subject request.subject = true ∧
    (grant.policyRevision ≠ policyRevision ∨ grant.grantState = .active ∧ ¬ grant.constraints.InWindow request.now)

theorem ToyGrantState.denial_isSome {s : ToyGrantState} : s.denial.isSome = true ↔ s ≠ .active := by
  cases s <;> simp [denial]

theorem ToyGrantConstraints.InWindow.noDenial {now : Timestamp} {constraints : ToyGrantConstraints}
    (h : constraints.InWindow now) : (toyTimeWindowDenial now constraints).isSome = false := by
  rw [← Bool.not_eq_true, toyTimeWindowDenial_isSome, not_not]
  exact h

theorem ToyGrant.Covers.decides (h : grant.Covers policyRevision call request) :
    grant.decides policyRevision call request final = some (final grant) := by
  unfold ToyGrant.decides
  simp [h.toy, h.subject, h.revision, h.active, h.window.noDenial, h.scope, ToyGrantState.denial]

theorem ToyGrant.Blocks.decides (h : grant.Blocks policyRevision request) :
    grant.decides policyRevision call request final = some false := by
  unfold ToyGrant.decides
  obtain ⟨htoy, hsub, hrev | ⟨hact, hwindow⟩⟩ := h
  · simp [htoy, hsub, hrev]
  · rw [← toyTimeWindowDenial_isSome] at hwindow
    simp [htoy, hsub, hact, hwindow, ToyGrantState.denial]

theorem ToyGrant.covers_or_blocks {verdict : Bool}
    (h : grant.decides policyRevision call request final = some verdict) :
    grant.Covers policyRevision call request ∨ grant.Blocks policyRevision request := by
  unfold ToyGrant.decides at h
  split_ifs at h with htoy hsub hrev hstate hwindow hscope
  · rw [ne_eq, not_not] at htoy
    rw [Bool.not_eq_true, Bool.not_eq_false'] at hsub
    exact .inr ⟨htoy, hsub, .inl hrev⟩
  · rw [ne_eq, not_not] at htoy
    rw [Bool.not_eq_true, Bool.not_eq_false'] at hsub
    rw [ToyGrantState.denial_isSome, not_not] at hstate
    exact .inr ⟨htoy, hsub, .inr ⟨hstate, toyTimeWindowDenial_isSome.mp hwindow⟩⟩
  · rw [ne_eq, not_not] at htoy hrev
    rw [Bool.not_eq_true, Bool.not_eq_false'] at hsub hscope
    rw [ToyGrantState.denial_isSome, not_not] at hstate
    rw [toyTimeWindowDenial_isSome, not_not] at hwindow
    exact .inl ⟨htoy, hsub, hrev, hstate, hwindow, hscope⟩

theorem ToyGrant.decides_true :
    grant.decides policyRevision call request final = some true ↔
      grant.Covers policyRevision call request ∧ final grant = true := by
  constructor
  · intro h
    rcases covers_or_blocks h with hc | hb
    · rw [hc.decides, Option.some.injEq] at h
      exact ⟨hc, h⟩
    · rw [hb.decides] at h
      cases h
  · rintro ⟨hc, hf⟩
    rw [hc.decides, hf]

theorem ToyGrant.decides_false :
    grant.decides policyRevision call request final = some false ↔
      grant.Blocks policyRevision request ∨ grant.Covers policyRevision call request ∧ final grant = false := by
  constructor
  · intro h
    rcases covers_or_blocks h with hc | hb
    · rw [hc.decides, Option.some.injEq] at h
      exact .inr ⟨hc, h⟩
    · exact .inl hb
  · rintro (hb | ⟨hc, hf⟩)
    · exact hb.decides
    · rw [hc.decides, hf]

/-! ## Existential verdicts -/

def Catalogued (catalog : List CanonicalToyContract) (toyId : ToyId) : Prop :=
  ∃ toy, (catalog.find? fun toy => toy.toyId == toyId) = some toy ∧ toy.authorityBearing = true

theorem routeVerdict_allowed {generation : Nat} :
    (evaluateToyGrantForRouteSnapshot call request catalog grants policyRevision generation).verdict = .allowed ↔
      Catalogued catalog request.toyId ∧
        grants.findSome? (·.decides policyRevision call request fun _ => true) = some true := by
  rw [← scanToyGrants_passes none none]
  unfold evaluateToyGrantForRouteSnapshot Catalogued
  cases catalog.find? fun toy => toy.toyId == request.toyId with
  | none => simp [toyEvaluation]
  | some toy =>
    cases hb : toy.authorityBearing with
    | false => simp [hb, toyEvaluation]
    | true =>
      cases scanToyGrants policyRevision call request none none grants with
      | denied grant reason => simp [hb, toyEvaluation, ToyGrantScan.passes]
      | allowed grant => simp [hb, toyEvaluation, ToyGrantScan.passes]

theorem callVerdict_allowed [KernelHost] :
    (evaluateToyGrantForCall call request catalog grants).isAllowed = true ↔
      Catalogued catalog request.toyId ∧
        grants.findSome? (·.decides call.authorityContext.policyRevision call request
          fun grant => (toyTokenExpiry call request grant).isSome) = some true := by
  rw [← scanToyGrants_passes none none]
  unfold evaluateToyGrantForCall Catalogued
  cases catalog.find? fun toy => toy.toyId == request.toyId with
  | none => simp [deniedToyCall, toyEvaluation, ToyGrantEvaluationResult.isAllowed]
  | some toy =>
    cases hb : toy.authorityBearing with
    | false => simp [hb, deniedToyCall, toyEvaluation, ToyGrantEvaluationResult.isAllowed]
    | true =>
      cases scanToyGrants call.authorityContext.policyRevision call request none none grants with
      | denied grant reason =>
        simp [hb, deniedToyCall, toyEvaluation, ToyGrantEvaluationResult.isAllowed, ToyGrantScan.passes]
      | allowed grant =>
        cases he : toyTokenExpiry call request grant with
        | none => simp [hb, he, deniedToyCall, toyEvaluation, ToyGrantEvaluationResult.isAllowed, ToyGrantScan.passes]
        | some exp => simp [hb, he, toyEvaluation, ToyGrantEvaluationResult.isAllowed, ToyGrantScan.passes]

/-- **The verdict for a route is existential**: in whatever order the grants stand, it allows exactly when the toy is
catalogued and some grant covers the request. -/
def ExistentialForRoute (call : MctCall) (request : ToyGrantEvaluationRequest) (catalog : List CanonicalToyContract)
    (grants : List ToyGrant) (policyRevision generation : Nat) : Prop :=
  ∀ grants' : List ToyGrant, grants'.Perm grants →
    ((evaluateToyGrantForRouteSnapshot call request catalog grants' policyRevision generation).verdict = .allowed ↔
      Catalogued catalog request.toyId ∧ ∃ grant ∈ grants', grant.Covers policyRevision call request)

def ExistentialForCall [KernelHost] (call : MctCall) (request : ToyGrantEvaluationRequest)
    (catalog : List CanonicalToyContract) (grants : List ToyGrant) : Prop :=
  ∀ grants' : List ToyGrant, grants'.Perm grants →
    ((evaluateToyGrantForCall call request catalog grants').isAllowed = true ↔
      Catalogued catalog request.toyId ∧
        ∃ grant ∈ grants', grant.Covers call.authorityContext.policyRevision call request)

/-- **When the verdict is existential**: when the toy is not catalogued, no grant covers the request, or none blocks it;
for a call a grant also blocks that covers the request but has no expiry that a token can carry. -/
theorem toyVerdict_existential_iff [KernelHost] (call : MctCall) (request : ToyGrantEvaluationRequest)
    (catalog : List CanonicalToyContract) (grants : List ToyGrant) (policyRevision generation : Nat) :
    (ExistentialForRoute call request catalog grants policyRevision generation ↔
      ¬ Catalogued catalog request.toyId ∨ (∀ grant ∈ grants, ¬ grant.Covers policyRevision call request) ∨
        ∀ grant ∈ grants, ¬ grant.Blocks policyRevision request) ∧
    (ExistentialForCall call request catalog grants ↔
      ¬ Catalogued catalog request.toyId ∨
        (∀ grant ∈ grants, ¬ grant.Covers call.authorityContext.policyRevision call request) ∨
        ∀ grant ∈ grants, ¬ (grant.Blocks call.authorityContext.policyRevision request ∨
          grant.Covers call.authorityContext.policyRevision call request ∧
            toyTokenExpiry call request grant = none)) := by
  constructor
  · unfold ExistentialForRoute
    by_cases hc : Catalogued catalog request.toyId
    · have horder := findSome?_orderFree_iff (l := grants)
        (·.decides policyRevision call request fun _ => true) (·.Covers policyRevision call request)
        (fun grant hd => (ToyGrant.decides_true.mp hd).1)
        fun grant hg => by rw [hg.decides]; exact Option.some_ne_none _
      simp only [routeVerdict_allowed, hc, true_and, not_true_eq_false, false_or]
      rw [horder]
      simp only [ne_eq, ToyGrant.decides_false, Bool.true_eq_false, and_false, or_false]
    · simp [routeVerdict_allowed, hc]
  · unfold ExistentialForCall
    by_cases hc : Catalogued catalog request.toyId
    · have horder := findSome?_orderFree_iff (l := grants)
        (·.decides call.authorityContext.policyRevision call request
          fun grant => (toyTokenExpiry call request grant).isSome)
        (·.Covers call.authorityContext.policyRevision call request)
        (fun grant hd => (ToyGrant.decides_true.mp hd).1)
        fun grant hg => by rw [hg.decides]; exact Option.some_ne_none _
      simp only [callVerdict_allowed, hc, true_and, not_true_eq_false, false_or]
      rw [horder]
      simp only [ne_eq, ToyGrant.decides_false, Option.isSome_eq_false_iff, Option.isNone_iff_eq_none]
    · simp [callVerdict_allowed, hc]

end Mct

/-! ## A stale grant before a good one -/

namespace Mct.ToySample

def target : OperationTarget := ⟨"n", "i", "f"⟩

def call : MctCall where
  callId := ⟨"call", by decide⟩
  caller := ⟨⟨"mother", by decide⟩, none, ⟨"vision", by decide⟩, none⟩
  target := target
  payloadMetadata := ⟨"public", 0, false⟩
  authorityContext := ⟨1, ⟨"m", "e", 0, "o"⟩, 1⟩
  deadline := ⟨"2026-05-31T00:10:00Z", 1780186200000000000⟩
  traceContext := ⟨⟨"trace", by decide⟩, ⟨"span", by decide⟩⟩
  origin := .cli

def toy : CanonicalToyContract := ⟨⟨"kv", by decide⟩, ⟨"n", "i", "1", none, none⟩, true, 1, ⟨"observation", by decide⟩⟩

def subject : ToyGrantSubject := ⟨"child", "a", "1", none, none⟩

def request : ToyGrantEvaluationRequest where
  dataAuthority := none
  toyId := ⟨"kv", by decide⟩
  subject := subject
  childInstanceId := ⟨"instance", by decide⟩
  action := "read"
  resourceId := none
  nodeId := ⟨"mother", by decide⟩
  now := ⟨"2026-05-31T00:00:00Z", 1780185600000000000⟩
  ids := ⟨⟨"evaluation", by decide⟩, ⟨"decision", by decide⟩, ⟨"observation", by decide⟩, ⟨"authorized", by decide⟩⟩

def grantAt (policyRevision : Nat) : ToyGrant where
  grantId := ⟨"grant", by decide⟩
  toyId := ⟨"kv", by decide⟩
  subject := subject
  scope := ⟨⟨"vision", by decide⟩, none, none, none, none, ["read"]⟩
  constraints := ⟨none, none, none, none, false⟩
  grantState := .active
  issuerId := "p"
  policyRevision := policyRevision
  grantsRevision := 0
  authorityObservationId := ⟨"observation", by decide⟩

theorem stale_grant_shadows :
    (evaluateToyGrantForRouteSnapshot call request [toy] [grantAt 1] 1 0).verdict = .allowed ∧
      (evaluateToyGrantForRouteSnapshot call request [toy] [grantAt 0, grantAt 1] 1 0).verdict = .denied ∧
      (evaluateToyGrantForRouteSnapshot call request [toy] [grantAt 1, grantAt 0] 1 0).verdict = .allowed ∧
      ¬ ExistentialForRoute call request [toy] [grantAt 0, grantAt 1] 1 0 := by
  refine ⟨by decide, by decide, by decide, fun h => ?_⟩
  have hcov : (grantAt 1).Covers 1 call request := by
    refine ⟨rfl, by decide, rfl, rfl, ⟨?_, ?_⟩, by decide⟩
    · intro startsAt hs
      cases hs
    · intro expiresAt he
      cases he
  have hall := (h [grantAt 0, grantAt 1] (List.Perm.refl _)).mpr
    ⟨⟨toy, rfl, rfl⟩, grantAt 1, List.mem_cons_of_mem _ List.mem_cons_self, hcov⟩
  exact absurd hall (by decide)

end Mct.ToySample
