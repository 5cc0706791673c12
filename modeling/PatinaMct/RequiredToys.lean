import PatinaMct.ChildCalls
import PatinaMct.DaemonConfig
/-!
# RequiredToys — the gate for the toys that a child requires

`decision.rs`: before a local child is a candidate, every toy label of its manifest is evaluated.  The gate first chooses
one contract that matches the label, then takes an action and a resource from one grant of it, and asks the kernel about
these alone (`requiredToyRequest`).  So another contract, or another grant of the same contract, can stand before the one
that would allow the child.  `Unshadowed` says of a catalog and a list of grants that none does, in whatever order.
-/
namespace Mct

def mctWatchToyId : String := "toy:mct:watch-observation"

/-- Labels with a known interface match by its name, other labels by the id of the toy. -/
def requestedToyContractMatches (label : String) (contract : CanonicalToyContract) : Bool :=
  let named := decide (label.toList <:+: contract.contract.interfaceName.toList)
  if label ∈ ["logging", "measure", "git", "filesystem", "keyvalue"] then named
  else if label = "messaging" then named || contract.toyId.value == mctWatchToyId
  else contract.toyId.value == label

/-- What one turn of the gate's loop reads; `localNodeId` is the node of the snapshot's child policy. -/
structure ToyGate where
  snapshot : LocalExecutionAuthoritySnapshot
  localNodeId : MctNodeId
  child : MctLoadedChild
  authorizedChild : AuthorizedChildInvocation
  call : MctCall
  label : String

namespace ToyGate

variable (gate : ToyGate)

def catalog : List CanonicalToyContract := gate.snapshot.canonicalGrants.toyCatalog

def grants : List ToyGrant := gate.snapshot.canonicalGrants.toyGrants

def madeUpToyId : ToyId := .tagged _ "toy:required:" gate.label (by decide)

/-- The grant names the child's artifact for the toy, whatever its state. -/
def namesChild (toyId : ToyId) (grant : ToyGrant) : Bool :=
  grant.toyId == toyId && grant.subject.childName == gate.child.name &&
    grant.subject.artifactId == gate.child.artifactId.value

/-- The toy that is asked about: of the first matching contract with any grant for the child, else of the first matching
contract, else a made-up one. -/
def requiredToyId : ToyId :=
  let matchingContracts := gate.catalog.filter (requestedToyContractMatches gate.label)
  let selectedContract := matchingContracts.find? fun contract => gate.grants.any (gate.namesChild contract.toyId)
  ((selectedContract.or matchingContracts.head?).map (·.toyId)).getD gate.madeUpToyId

/-- The grant whose first action and resource are asked about. -/
def matchingToyGrant (toyId : ToyId) : Option ToyGrant :=
  (gate.grants.filter fun grant =>
    grant.toyId == toyId && grant.grantState == .active && grant.subject.childName == gate.child.name &&
      grant.subject.artifactId == gate.child.artifactId.value && grant.subject.artifactVersion == gate.child.version &&
      grant.subject.assignmentId == some gate.authorizedChild.assignmentId).find? fun grant =>
    grant.subject.callerNodeId.all (· == gate.call.caller.nodeId)

def routeToyRequest (toyId : ToyId) (action : String) (resourceId : Option String) : ToyGrantEvaluationRequest where
  dataAuthority := none
  toyId := toyId
  subject := ⟨gate.child.name, gate.child.artifactId.value, gate.child.version, some gate.authorizedChild.assignmentId,
    some gate.call.caller.nodeId⟩
  childInstanceId := gate.authorizedChild.childInstanceId
  action := action
  resourceId := resourceId
  nodeId := gate.localNodeId
  now := gate.snapshot.evaluatedAt
  ids :=
    let suffix := gate.call.callId.value ++ ":" ++ gate.label
    { evaluationId := .tagged _ "toy-eval-route:" suffix (by decide)
      decisionId := .tagged _ "decision-toy-route:" suffix (by decide)
      observationId := .tagged _ "obs-toy-route:" suffix (by decide)
      authorizedToyCallId := .tagged _ "unused-route-toy:" suffix (by decide) }

/-- The request for a toy with what the chosen grant asks for. -/
def toyRequest (toyId : ToyId) (chosen : Option ToyGrant) : ToyGrantEvaluationRequest :=
  gate.routeToyRequest toyId ((chosen.bind (·.scope.allowedActions.head?)).getD "invoke")
    (chosen.bind (·.scope.resourceId))

def requiredToyRequest : ToyGrantEvaluationRequest :=
  gate.toyRequest gate.requiredToyId (gate.matchingToyGrant gate.requiredToyId)

def evaluation : ToyGrantEvaluation :=
  evaluateToyGrantForRouteSnapshot gate.call gate.requiredToyRequest gate.catalog gate.grants gate.snapshot.policyRevision
    gate.snapshot.canonicalGrants.grantsAuthority.generation

/-- The gate with other toys and grants, or the same in another order. -/
def withToys (catalog : List CanonicalToyContract) (grants : List ToyGrant) : ToyGate :=
  { gate with
    snapshot := { gate.snapshot with
      canonicalGrants := { gate.snapshot.canonicalGrants with toyCatalog := catalog, toyGrants := grants } } }

/-! ## What the gate should say -/

/-- The grant covers the request for a toy with what the chosen grant asks for. -/
def Covers (toyId : ToyId) (chosen : Option ToyGrant) (grant : ToyGrant) : Prop :=
  grant.Covers gate.snapshot.policyRevision gate.call (gate.toyRequest toyId chosen)

/-- **The label is granted**: a matching contract has a grant that covers the child, its assignment and its caller for
some action and resource. -/
def Granted : Prop :=
  ∃ contract ∈ gate.catalog, requestedToyContractMatches gate.label contract = true ∧
    ∃ grant ∈ gate.grants, ∃ action resourceId, grant.Covers gate.snapshot.policyRevision gate.call
      (gate.routeToyRequest contract.toyId action resourceId)

/-- **The gate is exact for the label**: in whatever order the catalog and the grants stand, it is allowed exactly when it
is granted. -/
def Exact : Prop :=
  ∀ catalog grants, catalog.Perm gate.catalog → grants.Perm gate.grants →
    ((gate.withToys catalog grants).evaluation.verdict = .allowed ↔ (gate.withToys catalog grants).Granted)

/-! ## Shadows -/

/-- The grant may be the one whose action and resource are asked about. -/
def maySpeak (toyId : ToyId) (grant : ToyGrant) : Bool :=
  (grant.toyId == toyId && grant.grantState == .active && grant.subject.childName == gate.child.name &&
    grant.subject.artifactId == gate.child.artifactId.value && grant.subject.artifactVersion == gate.child.version &&
    grant.subject.assignmentId == some gate.authorizedChild.assignmentId) &&
    grant.subject.callerNodeId.all (· == gate.call.caller.nodeId)

/-- What may be asked about a toy: what a grant that may speak allows first, or the defaults when there is none. -/
def MayBeChosen (toyId : ToyId) (chosen : Option ToyGrant) : Prop :=
  (∃ grant ∈ gate.grants, gate.maySpeak toyId grant = true ∧ chosen = some grant) ∨
    (∀ grant ∈ gate.grants, gate.maySpeak toyId grant = false) ∧ chosen = none

/-- **A toy lets the child through in every order**: its contracts bear authority, no grant of it for the child is stale or
active outside its window, and whatever may be asked about it is covered by a grant. -/
structure Clear (toyId : ToyId) : Prop where
  bearing : ∀ contract ∈ gate.catalog, contract.toyId = toyId → contract.authorityBearing = true
  unblocked : ∀ grant ∈ gate.grants, ¬ grant.Blocks gate.snapshot.policyRevision (gate.toyRequest toyId none)
  covered : ∀ chosen, gate.MayBeChosen toyId chosen → ∃ grant ∈ gate.grants, gate.Covers toyId chosen grant

/-- **Nothing shadows the label**: if it is granted, every matching contract with a grant that names the child is of a toy
that lets it through; and if no contract matches, no toy under the made-up id is granted. -/
structure Unshadowed : Prop where
  clear : gate.Granted → ∀ contract ∈ gate.catalog, requestedToyContractMatches gate.label contract = true →
    (∃ grant ∈ gate.grants, gate.namesChild contract.toyId grant = true) → gate.Clear contract.toyId
  unmatched : (∀ contract ∈ gate.catalog, requestedToyContractMatches gate.label contract = false) →
    ∀ contract ∈ gate.catalog, contract.toyId = gate.madeUpToyId → contract.authorityBearing = true →
      ∀ chosen, gate.MayBeChosen gate.madeUpToyId chosen → ∀ grant ∈ gate.grants,
        ¬ gate.Covers gate.madeUpToyId chosen grant

end ToyGate

def residentRequiredToyAuthority (snapshot : LocalExecutionAuthoritySnapshot) (localNodeId : MctNodeId)
    (child : MctLoadedChild) (call : MctCall) (childAuthority : ChildCallAuthorityResult) : List ToyGrantEvaluation :=
  match childAuthority.authorized with
  | none => []
  | some authorizedChild =>
    child.requestedToys.map fun label => ToyGate.evaluation ⟨snapshot, localNodeId, child, authorizedChild, call, label⟩

namespace ToyGate

variable {gate : ToyGate} {contract : CanonicalToyContract} {grant : ToyGrant} {toyId : ToyId} {chosen : Option ToyGrant}
  {catalog : List CanonicalToyContract} {grants : List ToyGrant}

theorem evaluation_allowed : gate.evaluation.verdict = .allowed ↔ Catalogued gate.catalog gate.requiredToyId ∧
    gate.grants.findSome? (·.decides gate.snapshot.policyRevision gate.call gate.requiredToyRequest fun _ => true) =
      some true :=
  routeVerdict_allowed

theorem matchingToyGrant_eq (toyId : ToyId) : gate.matchingToyGrant toyId = gate.grants.find? (gate.maySpeak toyId) := by
  rw [matchingToyGrant, List.find?_filter]
  simp only [Bool.decide_and, Bool.decide_eq_true]
  rfl

theorem matchingToyGrant_mayBeChosen (toyId : ToyId) : gate.MayBeChosen toyId (gate.matchingToyGrant toyId) := by
  rw [matchingToyGrant_eq]
  cases hfind : gate.grants.find? (gate.maySpeak toyId) with
  | some grant => exact .inl ⟨grant, List.mem_of_find?_eq_some hfind, List.find?_some hfind, rfl⟩
  | none => exact .inr ⟨by simpa using hfind, rfl⟩

theorem matchingToyGrant_first {rest : List ToyGrant} (h : gate.maySpeak toyId grant = true) :
    (gate.withToys catalog (grant :: rest)).matchingToyGrant toyId = some grant := by
  rw [matchingToyGrant_eq]
  exact List.find?_cons_of_pos h

theorem matchingToyGrant_none (h : ∀ grant ∈ grants, gate.maySpeak toyId grant = false) :
    (gate.withToys catalog grants).matchingToyGrant toyId = none := by
  rw [matchingToyGrant_eq]
  exact List.find?_eq_none.mpr fun grant hgrant => Bool.eq_false_iff.mp (h grant hgrant)

/-! ## The toy that is asked about -/

theorem requiredToyId_matches (hmem : contract ∈ gate.catalog)
    (hmatch : requestedToyContractMatches gate.label contract = true) :
    ∃ chosen ∈ gate.catalog, requestedToyContractMatches gate.label chosen = true ∧ gate.requiredToyId = chosen.toyId ∧
      ((∃ grant ∈ gate.grants, gate.namesChild contract.toyId grant = true) →
        ∃ grant ∈ gate.grants, gate.namesChild chosen.toyId grant = true) := by
  have hfilter := List.mem_filter.mpr ⟨hmem, hmatch⟩
  simp only [requiredToyId]
  cases hfind : (gate.catalog.filter (requestedToyContractMatches gate.label)).find? fun contract =>
      gate.grants.any (gate.namesChild contract.toyId) with
  | some chosen =>
    obtain ⟨hin, hmatches⟩ := List.mem_filter.mp (List.mem_of_find?_eq_some hfind)
    have hnamed := List.find?_some hfind
    exact ⟨chosen, hin, hmatches, rfl, fun _ => List.any_eq_true.mp hnamed⟩
  | none =>
    obtain ⟨hin, hmatches⟩ := List.mem_filter.mp (List.head_mem (List.ne_nil_of_mem hfilter))
    refine ⟨_, hin, hmatches, ?_, fun hnamed => ?_⟩
    · rw [List.head?_eq_some_head (List.ne_nil_of_mem hfilter)]
      rfl
    · exact absurd (List.any_eq_true.mpr hnamed) (List.find?_eq_none.mp hfind contract hfilter)

theorem requiredToyId_unmatched (h : ∀ contract ∈ gate.catalog, requestedToyContractMatches gate.label contract = false) :
    gate.requiredToyId = gate.madeUpToyId := by
  have hnone : gate.catalog.filter (requestedToyContractMatches gate.label) = [] := by
    simpa using h
  simp [requiredToyId, hnone]

theorem requiredToyId_first (hmatch : requestedToyContractMatches gate.label contract = true)
    (hnamed : ∃ grant ∈ grants, gate.namesChild contract.toyId grant = true) :
    (gate.withToys (contract :: catalog) grants).requiredToyId = contract.toyId := by
  have hany : (grants.any (gate.namesChild contract.toyId)) = true := List.any_eq_true.mpr hnamed
  show (Option.map _ (Option.or (List.find? (fun contract => grants.any (gate.namesChild contract.toyId))
    (List.filter (requestedToyContractMatches gate.label) (contract :: catalog))) _)).getD _ = _
  rw [List.filter_cons_of_pos hmatch, List.find?_cons, hany]
  rfl

theorem requiredToyId_skip (hmatch : requestedToyContractMatches gate.label contract = false) :
    (gate.withToys (contract :: catalog) grants).requiredToyId = (gate.withToys catalog grants).requiredToyId := by
  have hfilter : (contract :: catalog).filter (requestedToyContractMatches gate.label) =
      catalog.filter (requestedToyContractMatches gate.label) := List.filter_cons_of_neg (by simp [hmatch])
  show (Option.map _ (Option.or
    (List.find? _ (List.filter (requestedToyContractMatches gate.label) (contract :: catalog)))
    (List.head? (List.filter (requestedToyContractMatches gate.label) (contract :: catalog))))).getD _ = _
  rw [hfilter]
  rfl

theorem catalogued_cons (h : contract.toyId = toyId) :
    Catalogued (contract :: catalog) toyId ↔ contract.authorityBearing = true := by
  simp [Catalogued, h]

theorem Granted.names (h : gate.Granted) : ∃ contract ∈ gate.catalog,
    requestedToyContractMatches gate.label contract = true ∧
      ∃ grant ∈ gate.grants, gate.namesChild contract.toyId grant = true := by
  obtain ⟨contract, hmem, hmatch, grant, hgrant, action, resourceId, hcovers⟩ := h
  have hsubject := hcovers.subject
  simp only [subjectMatches, Bool.and_eq_true, beq_iff_eq] at hsubject
  refine ⟨contract, hmem, hmatch, grant, hgrant, ?_⟩
  simp only [namesChild, Bool.and_eq_true, beq_iff_eq]
  exact ⟨⟨hcovers.toy, hsubject.1.1.1.1⟩, hsubject.1.1.1.2⟩

theorem Granted.mono (hcatalog : gate.catalog ⊆ catalog) (hgrants : gate.grants ⊆ grants) (h : gate.Granted) :
    (gate.withToys catalog grants).Granted := by
  obtain ⟨contract, hmem, hmatch, grant, hgrant, hcovers⟩ := h
  exact ⟨contract, hcatalog hmem, hmatch, grant, hgrants hgrant, hcovers⟩

/-- A grant that covers anything at all covers what it asks for itself. -/
theorem Covers.own (h : gate.Covers toyId chosen grant) : gate.Covers toyId (some grant) grant := by
  obtain ⟨htoy, hsubject, hrevision, hactive, hwindow, hscope⟩ := h
  refine ⟨htoy, hsubject, hrevision, hactive, hwindow, ?_⟩
  simp only [scopeMatches, Bool.and_eq_true, List.any_eq_true] at hscope ⊢
  obtain ⟨⟨⟨⟨hvision, hnode⟩, hdata⟩, -⟩, action, haction, -⟩ := hscope
  refine ⟨⟨⟨⟨hvision, hnode⟩, hdata⟩, ?_⟩, ?_⟩
  · show optionMatches grant.scope.resourceId grant.scope.resourceId = true
    cases hres : grant.scope.resourceId <;> simp [optionMatches]
  · cases hactions : grant.scope.allowedActions with
    | nil => rw [hactions] at haction; cases haction
    | cons first rest => exact ⟨first, List.mem_cons_self, by simp [toyRequest, routeToyRequest, hactions]⟩

/-! ## In every order -/

section Orders

variable (hcatalog : ∀ contract, contract ∈ catalog ↔ contract ∈ gate.catalog)
  (hgrants : ∀ grant, grant ∈ grants ↔ grant ∈ gate.grants)

include hcatalog hgrants

theorem granted_congr : (gate.withToys catalog grants).Granted ↔ gate.Granted := by
  have hcatalog' : (gate.withToys catalog grants).catalog = catalog := rfl
  have hgrants' : (gate.withToys catalog grants).grants = grants := rfl
  simp only [Granted, hcatalog', hgrants', hcatalog, hgrants]
  rfl

theorem unshadowed_congr (h : gate.Unshadowed) : (gate.withToys catalog grants).Unshadowed := by
  have hchosen : ∀ {toyId chosen}, (gate.withToys catalog grants).MayBeChosen toyId chosen →
      gate.MayBeChosen toyId chosen := by
    rintro toyId chosen (⟨grant, hgrant, hspeaks⟩ | ⟨hsilent, hchosen⟩)
    · exact .inl ⟨grant, (hgrants grant).mp hgrant, hspeaks⟩
    · exact .inr ⟨fun grant hgrant => hsilent grant ((hgrants grant).mpr hgrant), hchosen⟩
  constructor
  · rintro hgranted contract hmem hmatch ⟨grant, hgrant, hnames⟩
    have hclear := h.clear ((granted_congr hcatalog hgrants).mp hgranted) contract ((hcatalog contract).mp hmem) hmatch
      ⟨grant, (hgrants grant).mp hgrant, hnames⟩
    refine ⟨fun other hother => hclear.bearing other ((hcatalog other).mp hother),
      fun other hother => hclear.unblocked other ((hgrants other).mp hother), fun chosen hmay => ?_⟩
    obtain ⟨other, hother, hcovers⟩ := hclear.covered chosen (hchosen hmay)
    exact ⟨other, (hgrants other).mpr hother, hcovers⟩
  · intro hnone contract hmem hid hbears chosen hmay grant hgrant
    exact h.unmatched (fun other hother => hnone other ((hcatalog other).mpr hother)) contract
      ((hcatalog contract).mp hmem) hid hbears chosen (hchosen hmay) grant ((hgrants grant).mp hgrant)

end Orders

theorem Unshadowed.allowed_iff (h : gate.Unshadowed) : gate.evaluation.verdict = .allowed ↔ gate.Granted := by
  rw [evaluation_allowed]
  constructor
  · rintro ⟨⟨toy, hfound, hbears⟩, hdecides⟩
    obtain ⟨grant, hgrant, hcovers⟩ := List.exists_of_findSome?_eq_some hdecides
    obtain ⟨hcovers, -⟩ := ToyGrant.decides_true.mp hcovers
    by_cases hmatches : ∃ contract ∈ gate.catalog, requestedToyContractMatches gate.label contract = true
    · obtain ⟨contract, hmem, hmatch⟩ := hmatches
      obtain ⟨chosen, hchosen, hmatch', hid, -⟩ := requiredToyId_matches hmem hmatch
      rw [requiredToyRequest, hid] at hcovers
      exact ⟨chosen, hchosen, hmatch', grant, hgrant, _, _, hcovers⟩
    · push Not at hmatches
      have hnone := fun contract hmem => Bool.eq_false_iff.mpr (hmatches contract hmem)
      rw [requiredToyId_unmatched hnone] at hfound
      rw [requiredToyRequest, requiredToyId_unmatched hnone] at hcovers
      exact absurd hcovers (h.unmatched hnone toy (List.mem_of_find?_eq_some hfound)
        (by simpa using List.find?_some hfound) hbears _ (matchingToyGrant_mayBeChosen _) grant hgrant)
  · intro hgranted
    obtain ⟨contract, hmem, hmatch, hnamed⟩ := hgranted.names
    obtain ⟨chosen, hchosen, hmatch', hid, hnamed'⟩ := requiredToyId_matches hmem hmatch
    have hclear := h.clear hgranted chosen hchosen hmatch' (hnamed' hnamed)
    rw [requiredToyRequest, hid]
    constructor
    · unfold Catalogued
      cases hfind : gate.catalog.find? fun toy => toy.toyId == chosen.toyId with
      | none => exact absurd (List.find?_eq_none.mp hfind chosen hchosen) (by simp)
      | some toy =>
        exact ⟨toy, rfl, hclear.bearing toy (List.mem_of_find?_eq_some hfind) (by simpa using List.find?_some hfind)⟩
    · rw [FirstDecision.findSome?_true_iff]
      · obtain ⟨grant, hgrant, hcovers⟩ := hclear.covered _ (matchingToyGrant_mayBeChosen _)
        exact ⟨grant, hgrant, ToyGrant.decides_true.mpr ⟨hcovers, rfl⟩⟩
      · intro grant hgrant hrefused
        rcases ToyGrant.decides_false.mp hrefused with hblock | ⟨-, hfinal⟩
        · exact hclear.unblocked grant hgrant hblock
        · cases hfinal

theorem MayBeChosen.order (h : gate.MayBeChosen toyId chosen) : ∃ grants, grants.Perm gate.grants ∧
    ∀ catalog, (gate.withToys catalog grants).matchingToyGrant toyId = chosen := by
  rcases h with ⟨speaker, hspeaker, hspeaks, rfl⟩ | ⟨hsilent, rfl⟩
  · obtain ⟨rest, hperm⟩ := FirstDecision.exists_perm_cons hspeaker
    exact ⟨_, hperm, fun _ => matchingToyGrant_first hspeaks⟩
  · exact ⟨_, .refl _, fun _ => matchingToyGrant_none hsilent⟩

/-- A grant that covers what may be asked stands first in an order in which it covers what is asked. -/
theorem MayBeChosen.order_first (h : gate.MayBeChosen toyId chosen) (hgrant : grant ∈ gate.grants)
    (hcovers : gate.Covers toyId chosen grant) : ∃ rest, (grant :: rest).Perm gate.grants ∧
      ∀ catalog, gate.Covers toyId ((gate.withToys catalog (grant :: rest)).matchingToyGrant toyId) grant := by
  by_cases hown : gate.maySpeak toyId grant = true
  · obtain ⟨rest, hperm⟩ := FirstDecision.exists_perm_cons hgrant
    refine ⟨rest, hperm, fun catalog => ?_⟩
    rw [matchingToyGrant_first hown]
    exact hcovers.own
  · rcases h with ⟨speaker, hspeaker, hspeaks, rfl⟩ | ⟨hsilent, rfl⟩
    · have hne : speaker ≠ grant := by
        rintro rfl
        exact hown hspeaks
      obtain ⟨rest, hperm⟩ := FirstDecision.exists_perm_cons_cons hgrant hspeaker hne
      refine ⟨speaker :: rest, hperm, fun catalog => ?_⟩
      rw [matchingToyGrant_eq]
      exact ((List.find?_cons_of_neg hown).trans (List.find?_cons_of_pos hspeaks)).symm ▸ hcovers
    · obtain ⟨rest, hperm⟩ := FirstDecision.exists_perm_cons hgrant
      refine ⟨rest, hperm, fun catalog => ?_⟩
      rw [matchingToyGrant_none fun other hother => hsilent other (hperm.mem_iff.mp hother)]
      exact hcovers

theorem Exact.granted_iff (h : gate.Exact) (hcatalog : catalog.Perm gate.catalog) (hgrants : grants.Perm gate.grants) :
    gate.Granted ↔ Catalogued catalog (gate.withToys catalog grants).requiredToyId ∧
      grants.findSome? (·.decides gate.snapshot.policyRevision gate.call
        (gate.toyRequest (gate.withToys catalog grants).requiredToyId
          ((gate.withToys catalog grants).matchingToyGrant (gate.withToys catalog grants).requiredToyId)) fun _ => true) =
        some true := by
  rw [← granted_congr (fun _ => hcatalog.mem_iff) fun _ => hgrants.mem_iff, ← h _ _ hcatalog hgrants, evaluation_allowed]
  rfl

/-- What stands first in some order decides there, so all that can be chosen lets the child through. -/
theorem Exact.clear (h : gate.Exact) (hgranted : gate.Granted) (hmem : contract ∈ gate.catalog)
    (hmatch : requestedToyContractMatches gate.label contract = true)
    (hnamed : ∃ grant ∈ gate.grants, gate.namesChild contract.toyId grant = true) : gate.Clear contract.toyId := by
  obtain ⟨rest, hfirst⟩ := FirstDecision.exists_perm_cons hmem
  refine ⟨fun other hother hsame => ?_, fun blocker hblocker hblocks => ?_, fun chosen hchosen => ?_⟩
  · by_cases hother' : requestedToyContractMatches gate.label other = true
    · obtain ⟨rest', hperm⟩ := FirstDecision.exists_perm_cons hother
      have hcatalogued := ((h.granted_iff hperm (.refl _)).mp hgranted).1
      rwa [requiredToyId_first hother' (hsame ▸ hnamed), catalogued_cons rfl] at hcatalogued
    · -- a contract of the toy that does not match is not chosen, but it is the one that is looked up
      have hne : contract ≠ other := by
        rintro rfl
        exact hother' hmatch
      obtain ⟨rest', hperm⟩ := FirstDecision.exists_perm_cons_cons hother hmem hne
      have hcatalogued := ((h.granted_iff hperm (.refl _)).mp hgranted).1
      rwa [requiredToyId_skip (Bool.eq_false_iff.mpr hother'), requiredToyId_first hmatch hnamed,
        catalogued_cons hsame] at hcatalogued
  · obtain ⟨others, hperm⟩ := FirstDecision.exists_perm_cons hblocker
    have hdecides := ((h.granted_iff hfirst hperm).mp hgranted).2
    rw [requiredToyId_first hmatch (by simpa only [hperm.mem_iff] using hnamed), List.findSome?_cons] at hdecides
    generalize matchingToyGrant _ _ = chosen at hdecides
    have hblocks' : blocker.Blocks gate.snapshot.policyRevision (gate.toyRequest contract.toyId chosen) := hblocks
    rw [hblocks'.decides] at hdecides
    cases hdecides
  · obtain ⟨grants, hperm, hchosen⟩ := hchosen.order
    have hdecides := ((h.granted_iff hfirst hperm).mp hgranted).2
    rw [requiredToyId_first hmatch (by simpa only [hperm.mem_iff] using hnamed), hchosen] at hdecides
    obtain ⟨grant, hgrant, hcovers⟩ := List.exists_of_findSome?_eq_some hdecides
    exact ⟨grant, hperm.mem_iff.mp hgrant, (ToyGrant.decides_true.mp hcovers).1⟩

theorem exact_iff_unshadowed : gate.Exact ↔ gate.Unshadowed := by
  constructor
  · intro h
    refine ⟨fun hgranted contract hmem hmatch hnamed => h.clear hgranted hmem hmatch hnamed, ?_⟩
    -- no contract matches: with the made-up toy's contract first, the covering grant first would let the child through
    intro hunmatched contract hmem hid hbears chosen hchosen grant hgrant hcovers
    obtain ⟨rest, hfirst⟩ := FirstDecision.exists_perm_cons hmem
    obtain ⟨others, hperm, hcovers⟩ := hchosen.order_first hgrant hcovers
    have hid' : (gate.withToys (contract :: rest) (grant :: others)).requiredToyId = gate.madeUpToyId :=
      requiredToyId_unmatched fun other hother => hunmatched other (hfirst.mem_iff.mp hother)
    have hgranted : gate.Granted := by
      rw [h.granted_iff hfirst hperm, hid', catalogued_cons hid, List.findSome?_cons, (hcovers _).decides]
      exact ⟨hbears, rfl⟩
    obtain ⟨other, hother, hmatch, -⟩ := hgranted
    rw [hunmatched other hother] at hmatch
    cases hmatch
  · intro h catalog grants hcatalog hgrants
    exact (unshadowed_congr (fun _ => hcatalog.mem_iff) (fun _ => hgrants.mem_iff) h).allowed_iff

end ToyGate

section Gate

variable (snapshot : LocalExecutionAuthoritySnapshot) (localNodeId : MctNodeId) (child : MctLoadedChild) (call : MctCall)
  (childAuthority : ChildCallAuthorityResult)

def LocalExecutionAuthoritySnapshot.withToys (catalog : List CanonicalToyContract) (grants : List ToyGrant) :
    LocalExecutionAuthoritySnapshot :=
  { snapshot with canonicalGrants := { snapshot.canonicalGrants with toyCatalog := catalog, toyGrants := grants } }

/-- **The gate is exact**: in whatever order the catalog and the grants stand, a requested label is allowed exactly when it
is granted. -/
def ToyGateExact : Prop :=
  ∀ catalog grants, catalog.Perm snapshot.canonicalGrants.toyCatalog → grants.Perm snapshot.canonicalGrants.toyGrants →
    ∀ authorizedChild, childAuthority.authorized = some authorizedChild →
      List.Forall₂ (fun label evaluation => evaluation.verdict = .allowed ↔
          ToyGate.Granted ⟨snapshot.withToys catalog grants, localNodeId, child, authorizedChild, call, label⟩)
        child.requestedToys
        (residentRequiredToyAuthority (snapshot.withToys catalog grants) localNodeId child call childAuthority)

/-- **Nothing shadows a toy that the child requests.** -/
def ToysUnshadowed : Prop :=
  ∀ authorizedChild, childAuthority.authorized = some authorizedChild → ∀ label ∈ child.requestedToys,
    ToyGate.Unshadowed ⟨snapshot, localNodeId, child, authorizedChild, call, label⟩

variable {snapshot localNodeId child call childAuthority}

theorem toyGateExact_iff : ToyGateExact snapshot localNodeId child call childAuthority ↔
    ToysUnshadowed snapshot localNodeId child call childAuthority := by
  simp only [ToysUnshadowed, ← ToyGate.exact_iff_unshadowed]
  constructor
  · intro h authorizedChild hauth label hlabel catalog grants hcatalog hgrants
    have hall := h catalog grants hcatalog hgrants authorizedChild hauth
    rw [residentRequiredToyAuthority, hauth] at hall
    exact List.forall₂_same.mp (List.forall₂_map_right_iff.mp hall) label hlabel
  · intro h catalog grants hcatalog hgrants authorizedChild hauth
    rw [residentRequiredToyAuthority, hauth]
    exact List.forall₂_map_right_iff.mpr (List.forall₂_same.mpr fun label hlabel =>
      h authorizedChild hauth label hlabel catalog grants hcatalog hgrants)

theorem ToysUnshadowed.mono {catalog : List CanonicalToyContract} {grants : List ToyGrant}
    (hcatalog : snapshot.canonicalGrants.toyCatalog ⊆ catalog) (hgrants : snapshot.canonicalGrants.toyGrants ⊆ grants)
    (hbefore : ToysUnshadowed snapshot localNodeId child call childAuthority)
    (hafter : ToysUnshadowed (snapshot.withToys catalog grants) localNodeId child call childAuthority) :
    List.Forall₂ (fun evaluation evaluation' => evaluation.verdict = .allowed → evaluation'.verdict = .allowed)
      (residentRequiredToyAuthority snapshot localNodeId child call childAuthority)
      (residentRequiredToyAuthority (snapshot.withToys catalog grants) localNodeId child call childAuthority) := by
  cases hauth : childAuthority.authorized with
  | none => simp [residentRequiredToyAuthority, hauth]
  | some authorizedChild =>
    simp only [residentRequiredToyAuthority, hauth, List.forall₂_map_left_iff, List.forall₂_map_right_iff,
      List.forall₂_same]
    intro label hlabel hallowed
    have hgranted := (hbefore authorizedChild hauth label hlabel).allowed_iff.mp hallowed
    exact (hafter authorizedChild hauth label hlabel).allowed_iff.mpr (hgranted.mono hcatalog hgrants)

end Gate

/-- **Where the gate is exact**: in every order of the catalog and of the grants exactly where nothing shadows a requested
label; and while nothing does, further contracts and grants deny nothing that was allowed. -/
theorem toyGate_exact_iff (snapshot : LocalExecutionAuthoritySnapshot) (localNodeId : MctNodeId) (child : MctLoadedChild)
    (call : MctCall) (childAuthority : ChildCallAuthorityResult) :
    (ToyGateExact snapshot localNodeId child call childAuthority ↔
      ToysUnshadowed snapshot localNodeId child call childAuthority) ∧
    ∀ catalog grants, snapshot.canonicalGrants.toyCatalog ⊆ catalog → snapshot.canonicalGrants.toyGrants ⊆ grants →
      ToysUnshadowed snapshot localNodeId child call childAuthority →
      ToysUnshadowed (snapshot.withToys catalog grants) localNodeId child call childAuthority →
      List.Forall₂ (fun evaluation evaluation' => evaluation.verdict = .allowed → evaluation'.verdict = .allowed)
        (residentRequiredToyAuthority snapshot localNodeId child call childAuthority)
        (residentRequiredToyAuthority (snapshot.withToys catalog grants) localNodeId child call childAuthority) :=
  ⟨toyGateExact_iff, fun _ _ hcatalog hgrants hbefore hafter => hbefore.mono hcatalog hgrants hafter⟩

end Mct

namespace Mct.ToySample

def child : MctLoadedChild where
  childId := ⟨"child", by decide⟩
  version := "1"
  wasmPath := "w"
  manifestPath := "m"
  wasmDigest := ⟨"d", true, true⟩
  manifestDigest := ⟨"d", true, true⟩
  artifactId := ChildSample.artifactId
  ingressMode := .witOnly
  allowedOperations := []
  requestedToys := ["kv"]
  instanceState := .ready

def grantUntil (expiresAt : Option Timestamp) : ToyGrant :=
  { grantAt 1 with
    subject := ⟨"child", "artifact", "1", some ChildSample.assignmentId, none⟩
    constraints := ⟨none, expiresAt, none, none, false⟩ }

def gateSnapshot (grants : List ToyGrant) : LocalExecutionAuthoritySnapshot :=
  { ChildSample.snapshotFor call.caller.visionId with canonicalGrants := ⟨⟨"m", "e", 0, "o"⟩, [toy], grants⟩ }

def childAuthority : ChildCallAuthorityResult :=
  evaluateChildCallAuthorityWithPolicy call ChildSample.request (gateSnapshot []).childPolicy 1

def gateVerdicts (grants : List ToyGrant) : List ToyGrantVerdict :=
  (residentRequiredToyAuthority (gateSnapshot grants) ChildSample.node child call childAuthority).map (·.verdict)

def expired : ToyGrant := grantUntil (some ⟨"t", 0⟩)

theorem expired_grant_denies_child :
    gateVerdicts [grantUntil none] = [.allowed] ∧ gateVerdicts [expired, grantUntil none] = [.denied] ∧
      gateVerdicts [grantUntil none, expired] = [.allowed] ∧
      ¬ ToyGateExact (gateSnapshot [expired, grantUntil none]) ChildSample.node child call childAuthority := by
  refine ⟨by decide +kernel, by decide +kernel, by decide +kernel, fun h => ?_⟩
  obtain ⟨hexact, -⟩ := List.forall₂_cons.mp (h _ _ (.refl _) (.refl _) ChildSample.token ChildSample.token_minted)
  have hgood : grantUntil none ∈ [expired, grantUntil none] := by simp
  refine absurd (hexact.mpr ⟨toy, by decide, by decide +kernel, grantUntil none, hgood, "read", none, ?_⟩)
    (by decide +kernel)
  exact ⟨rfl, by decide +kernel, rfl, rfl, ⟨nofun, nofun⟩, by decide +kernel⟩

def gateFor (grants : List ToyGrant) : ToyGate :=
  ⟨gateSnapshot grants, ChildSample.node, child, ChildSample.token, call, "kv"⟩

def revoked : ToyGrant := { grantUntil none with grantState := .revoked }

theorem gate_unshadowed {grants : List ToyGrant} (hmem : grantUntil none ∈ grants)
    (honly : ∀ grant ∈ grants, grant = grantUntil none ∨ grant = revoked) :
    (gateFor grants).Unshadowed := by
  have hcontracts : ∀ contract ∈ (gateFor grants).catalog, contract = toy := fun contract h => List.mem_singleton.mp h
  refine ⟨fun _ contract hcontract _ _ => ?_, fun hnone => ?_⟩
  · obtain rfl := hcontracts contract hcontract
    refine ⟨fun other hother _ => ?_, fun grant hgrant hblocks => ?_, ?_⟩
    · obtain rfl := hcontracts other hother
      rfl
    · obtain ⟨-, -, hstale | ⟨hactive, hwindow⟩⟩ := hblocks
      · rcases honly grant hgrant with rfl | rfl <;> exact hstale rfl
      · rcases honly grant hgrant with rfl | rfl
        · exact hwindow ⟨nofun, nofun⟩
        · cases hactive
    · rintro chosen (⟨grant, hgrant, hspeaks, rfl⟩ | ⟨hsilent, -⟩)
      · rcases honly grant hgrant with rfl | rfl
        · have hcovers : (gateFor []).Covers toy.toyId (some (grantUntil none)) (grantUntil none) :=
            ⟨rfl, by decide +kernel, rfl, rfl, ⟨nofun, nofun⟩, by decide +kernel⟩
          exact ⟨_, hgrant, hcovers⟩
        · have hsilent : (gateFor []).maySpeak toy.toyId revoked = false := by decide +kernel
          exact absurd (hsilent.symm.trans hspeaks) Bool.false_ne_true
      · have hspeaks : (gateFor []).maySpeak toy.toyId (grantUntil none) = true := by decide +kernel
        exact absurd ((hsilent _ hmem).symm.trans hspeaks) Bool.false_ne_true
  · have hmatch : requestedToyContractMatches "kv" toy = true := by decide +kernel
    exact absurd ((hnone toy List.mem_cons_self).symm.trans hmatch) Bool.false_ne_true

/-- A revoked grant shadows nothing: with it the child still gets through. -/
theorem revoked_grant_denies_nothing : List.Forall₂
    (fun evaluation evaluation' => evaluation.verdict = .allowed → evaluation'.verdict = .allowed)
    (residentRequiredToyAuthority (gateSnapshot [grantUntil none]) ChildSample.node child call childAuthority)
    (residentRequiredToyAuthority (gateSnapshot [revoked, grantUntil none]) ChildSample.node child call childAuthority) := by
  have hunshadowed : ∀ grants, grantUntil none ∈ grants → (∀ grant ∈ grants, grant = grantUntil none ∨ grant = revoked) →
      ToysUnshadowed (gateSnapshot grants) ChildSample.node child call childAuthority := by
    intro grants hmem honly authorizedChild hauth label hlabel
    obtain rfl := Option.some.inj (ChildSample.token_minted.symm.trans hauth)
    obtain rfl := List.mem_singleton.mp hlabel
    exact gate_unshadowed hmem honly
  exact (toyGate_exact_iff (gateSnapshot [grantUntil none]) _ _ _ _).2 [toy] [revoked, grantUntil none]
    (List.Subset.refl _) (List.subset_cons_self _ _) (hunshadowed _ (by simp) (by simp))
    (hunshadowed _ (by simp) (by simp))

end Mct.ToySample
