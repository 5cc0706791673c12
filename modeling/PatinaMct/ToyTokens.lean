import PatinaMct.RecoveryConsistent
import PatinaMct.ToyGrants
/-!
# ToyTokens — minting a toy token and admitting its effects

`evaluate_toy_grant_for_snapshot` mints the token of a toy from one snapshot, and
`AuthorizedToyCall::admit_effect_with_snapshot` checks it against another before each effect.  The two read the scope of
a grant in different ways: minting compares it with what the Mother knows of the data, admission with what the call
says.  `minted_token_sound` relates them: what a minted token may at most outlive, when the snapshot that minted it
admits it, and what every snapshot that admits it still carries.
-/
namespace Mct

open Checked

/-! ## Minting -/

def evaluateToyGrantForSnapshot [KernelHost] (call : MctCall) (request : ToyGrantEvaluationRequest)
    (snapshot : LocalExecutionAuthoritySnapshot) : ToyGrantEvaluationResult :=
  let policyRevision := snapshot.policyRevision
  let grantsGeneration := snapshot.canonicalGrants.grantsAuthority.generation
  let evaluation := evaluateToyGrantForRouteSnapshot call request snapshot.canonicalGrants.toyCatalog
    snapshot.canonicalGrants.toyGrants policyRevision grantsGeneration
  if evaluation.verdict ≠ .allowed then ⟨evaluation, none⟩
  else
    match evaluation.grantId with
    | none => ⟨evaluation, none⟩
    | some grantId =>
      match snapshot.canonicalGrants.toyGrants.find? fun grant => grant.grantId == grantId with
      | none => ⟨evaluation, none⟩
      | some grant =>
        match snapshot.canonicalGrants.toyCatalog.find? fun toy => toy.toyId == request.toyId with
        | none => ⟨evaluation, none⟩
        | some toy =>
          match toyTokenExpiry call request grant with
          | none =>
            ⟨toyEvaluation call request (some grant) .denied .policyDenied policyRevision grantsGeneration, none⟩
          | some expiresAt =>
            ⟨evaluation, some (mintToyCall call request evaluation toy grant expiresAt policyRevision grantsGeneration
              (some (snapshot.executionAuthority call.deadline)))⟩

/-! ## Admission -/

inductive ToyEffectAdmissionDenyV1
  | localAuthorityUnavailable | callIdMismatch | callDataMismatch | effectiveDeadlineMismatch | policyAuthorityMismatch
  | grantsAuthorityMismatch | tokenExpired | unknownToy | missingExactGrant | inactiveGrant | exactGrantMismatch
  | grantNotStarted | grantExpired | consumptionStateUnavailable
  deriving DecidableEq, Repr

namespace AuthorizedToyCall

/-- Whether a grant is another than the token's, or does not cover what the token is for. -/
def grantMismatch (token : AuthorizedToyCall) (policyRevision : Nat) (grant : ToyGrant) : Bool :=
  grant != token.canonicalGrant || grant.toyId ≠ token.toyId || grant.policyRevision ≠ policyRevision ||
    !subjectMatches grant.subject token.subject || grant.scope.visionId ≠ token.visionId ||
    !optionMatches grant.scope.nodeId (some token.nodeId) || !optionMatches grant.scope.projectId token.projectId ||
    !optionMatches grant.scope.dataClassification (some token.dataClassification) ||
    !optionMatches grant.scope.resourceId token.resourceId ||
    !grant.scope.allowedActions.any fun action => action == token.action

def admitGrant (token : AuthorizedToyCall) (snapshot : LocalExecutionAuthoritySnapshot) :
    Except ToyEffectAdmissionDenyV1 Unit := do
  let currentToy ← okOr (snapshot.canonicalGrants.toyCatalog.find? fun toy =>
    toy.toyId == token.toyId && toy.authorityBearing) .unknownToy
  deny (currentToy ≠ token.canonicalToy) .exactGrantMismatch
  let grant ← okOr (snapshot.canonicalGrants.toyGrants.find? fun grant => grant.grantId == token.grantId)
    .missingExactGrant
  deny (grant.grantState ≠ .active) .inactiveGrant
  deny (token.grantMismatch snapshot.policyRevision grant) .exactGrantMismatch
  deny (grant.constraints.startsAt.any fun startsAt => decide (snapshot.evaluatedAt < startsAt)) .grantNotStarted
  deny (grant.constraints.expiresAt.any fun expiresAt => decide (expiresAt ≤ snapshot.evaluatedAt)) .grantExpired
  deny grant.constraints.maxUses.isSome .consumptionStateUnavailable

/-- **`AuthorizedToyCall::admit_effect_with_snapshot`**; the admitted effect is the token. -/
def admitEffectWithSnapshot (token : AuthorizedToyCall) (call : MctCall) (snapshot : LocalExecutionAuthoritySnapshot) :
    Except ToyEffectAdmissionDenyV1 AuthorizedToyCall := do
  let authority ← okOr token.localExecutionAuthority .localAuthorityUnavailable
  deny (token.callId ≠ call.callId) .callIdMismatch
  deny (!token.callBinding.matchesCall call) .callDataMismatch
  deny (authority.effectiveDeadline != call.deadline) .effectiveDeadlineMismatch
  deny (authority.policyRevision ≠ snapshot.policyRevision ||
    authority.visionPolicyRevision ≠ snapshot.visionPolicyRevision) .policyAuthorityMismatch
  deny (authority.grantsAuthority ≠ snapshot.canonicalGrants.grantsAuthority ||
    authority.grantsAuthority.motherNodeId ≠ snapshot.executingMotherNodeId) .grantsAuthorityMismatch
  deny (decide (token.expiresAt ≤ snapshot.evaluatedAt) || decide (authority.effectiveDeadline ≤ snapshot.evaluatedAt))
    .tokenExpired
  token.admitGrant snapshot
  return token

end AuthorizedToyCall

/-! ## What a minted token is -/

section Minted

variable {call call' : MctCall} {request : ToyGrantEvaluationRequest} {snapshot later : LocalExecutionAuthoritySnapshot}
  {token admitted : AuthorizedToyCall} {grant : ToyGrant} {rev : Nat} {grants : List ToyGrant}

theorem scanToyGrants_allowed (h : scanToyGrants rev call request none none grants = .allowed grant) :
    grant ∈ grants ∧ grant.Covers rev call request := by
  have hpasses : (scanToyGrants rev call request none none grants).passes (fun other => decide (other = grant)) =
      true := by
    rw [h]
    exact decide_eq_true rfl
  obtain ⟨other, hother, hdec⟩ := List.exists_of_findSome?_eq_some ((scanToyGrants_passes none none).mp hpasses)
  obtain ⟨hcov, heq⟩ := ToyGrant.decides_true.mp hdec
  obtain rfl := of_decide_eq_true heq
  exact ⟨hother, hcov⟩

/-- **What minting found**: the first toy of the request's id, which bears authority, and a grant that covers it. -/
structure Minted (call : MctCall) (request : ToyGrantEvaluationRequest) (snapshot : LocalExecutionAuthoritySnapshot)
    (toy : CanonicalToyContract) (grant : ToyGrant) : Prop where
  catalogued : snapshot.canonicalGrants.toyCatalog.find? (fun toy => toy.toyId == request.toyId) = some toy
  bears : toy.authorityBearing = true
  granted : snapshot.canonicalGrants.toyGrants.find? (fun other => other.grantId == grant.grantId) = some grant
  covers : grant.Covers snapshot.policyRevision call request

theorem routeSnapshot_allowed {catalog : List CanonicalToyContract} {generation : Nat}
    (h : (evaluateToyGrantForRouteSnapshot call request catalog grants rev generation).verdict = .allowed) :
    ∃ toy grant, catalog.find? (fun toy => toy.toyId == request.toyId) = some toy ∧ toy.authorityBearing = true ∧
      scanToyGrants rev call request none none grants = .allowed grant ∧
      (evaluateToyGrantForRouteSnapshot call request catalog grants rev generation).grantId =
        some grant.grantId := by
  unfold evaluateToyGrantForRouteSnapshot at h ⊢
  cases hfind : catalog.find? fun toy => toy.toyId == request.toyId with
  | none => simp [hfind, toyEvaluation] at h
  | some toy =>
    cases hbears : toy.authorityBearing with
    | false => simp [hfind, hbears, toyEvaluation] at h
    | true =>
      cases hscan : scanToyGrants rev call request none none grants with
      | denied grant reason => simp [hfind, hbears, hscan, toyEvaluation] at h
      | allowed grant => exact ⟨toy, grant, rfl, hbears, rfl, by simp [hbears, toyEvaluation]⟩

/-- **A minted token, taken apart.** -/
theorem evaluateToyGrantForSnapshot_authorized [KernelHost]
    (hunique : (snapshot.canonicalGrants.toyGrants.map (·.grantId)).Nodup)
    (h : (evaluateToyGrantForSnapshot call request snapshot).authorized = some token) :
    ∃ evaluation toy grant exp, Minted call request snapshot toy grant ∧
      toyTokenExpiry call request grant = some exp ∧
      token = mintToyCall call request evaluation toy grant exp snapshot.policyRevision
        snapshot.canonicalGrants.grantsAuthority.generation (some (snapshot.executionAuthority call.deadline)) := by
  unfold evaluateToyGrantForSnapshot at h
  simp only at h
  split at h
  · cases h
  rename_i hver
  rw [ne_eq, not_not] at hver
  obtain ⟨toy, grant, htoy, hbears, hscan, hgranted⟩ := routeSnapshot_allowed hver
  obtain ⟨hmem, hcov⟩ := scanToyGrants_allowed hscan
  have hgrant : snapshot.canonicalGrants.toyGrants.find? (fun other => other.grantId == grant.grantId) = some grant :=
    FirstDecision.find?_key hunique hmem
  simp only [hgranted, hgrant, htoy] at h
  split at h
  · cases h
  rename_i exp hexpiry
  cases h
  exact ⟨_, toy, grant, exp, ⟨htoy, hbears, hgrant, hcov⟩, hexpiry, rfl⟩

/-! ## What admission needs -/

/-- **An admitted token**: bound to the call and to the authority of the snapshot, not expired, with its toy and its grant
as they were, and a grant that is active, in its window and without a limit of uses. -/
structure AuthorizedToyCall.Admits (token : AuthorizedToyCall) (call : MctCall) (snapshot : LocalExecutionAuthoritySnapshot)
    (authority : LocalExecutionAuthorityTokenV1) (grant : ToyGrant) : Prop where
  authorized : token.localExecutionAuthority = some authority
  callId : token.callId = call.callId
  binding : token.callBinding.matchesCall call = true
  deadline : (authority.effectiveDeadline == call.deadline) = true
  policy : authority.policyRevision = snapshot.policyRevision
  visionPolicy : authority.visionPolicyRevision = snapshot.visionPolicyRevision
  grants : authority.grantsAuthority = snapshot.canonicalGrants.grantsAuthority
  mother : authority.grantsAuthority.motherNodeId = snapshot.executingMotherNodeId
  unexpired : snapshot.evaluatedAt < token.expiresAt
  beforeDeadline : snapshot.evaluatedAt < authority.effectiveDeadline
  toy : snapshot.canonicalGrants.toyCatalog.find? (fun toy => toy.toyId == token.toyId && toy.authorityBearing) =
    some token.canonicalToy
  found : snapshot.canonicalGrants.toyGrants.find? (fun grant => grant.grantId == token.grantId) = some grant
  active : grant.grantState = .active
  exact : token.grantMismatch snapshot.policyRevision grant = false
  window : grant.constraints.InWindow snapshot.evaluatedAt
  unlimited : grant.constraints.maxUses = none

theorem admitGrant_ok : token.admitGrant snapshot = .ok () ↔
    snapshot.canonicalGrants.toyCatalog.find? (fun toy => toy.toyId == token.toyId && toy.authorityBearing) =
        some token.canonicalToy ∧
      ∃ grant, snapshot.canonicalGrants.toyGrants.find? (fun grant => grant.grantId == token.grantId) = some grant ∧
        grant.grantState = .active ∧ token.grantMismatch snapshot.policyRevision grant = false ∧
        grant.constraints.InWindow snapshot.evaluatedAt ∧ grant.constraints.maxUses = none := by
  simp only [AuthorizedToyCall.admitGrant, bind_ok, exists_unit, deny_ok, okOr_ok, decide_eq_false_iff_not, not_not,
    Option.any_eq_false, ToyGrantConstraints.InWindow, Timestamp.not_lt, Timestamp.not_le, Option.isSome_eq_false_iff,
    Option.isNone_iff_eq_none]
  constructor
  · rintro ⟨toy, htoy, rfl, grant, hgrant, hact, hexact, hstarts, hexpires, hunlimited⟩
    exact ⟨htoy, grant, hgrant, hact, hexact, ⟨hstarts, hexpires⟩, hunlimited⟩
  · rintro ⟨htoy, grant, hgrant, hact, hexact, ⟨hstarts, hexpires⟩, hunlimited⟩
    exact ⟨_, htoy, rfl, grant, hgrant, hact, hexact, hstarts, hexpires, hunlimited⟩

theorem admitToyEffect_ok : token.admitEffectWithSnapshot call snapshot = .ok admitted ↔
    token = admitted ∧ ∃ au grant, token.Admits call snapshot au grant := by
  simp only [AuthorizedToyCall.admitEffectWithSnapshot, bind_ok, exists_unit, deny_ok, okOr_ok, pure_ok, admitGrant_ok,
    Bool.or_eq_false_iff, decide_eq_false_iff_not, not_not, Bool.not_eq_eq_eq_not, Bool.not_false, bne, Timestamp.not_le]
  constructor
  · rintro ⟨au, hauth, hid, hbin, hdeadline, ⟨hpol, hvision⟩, ⟨hgrants, hmother⟩, ⟨hexpires, hbefore⟩,
      ⟨htoy, grant, hgrant, hact, hexact, hwindow, hunlimited⟩, htoken⟩
    exact ⟨htoken, au, grant, hauth, hid, hbin, hdeadline, hpol, hvision, hgrants, hmother, hexpires,
      hbefore, htoy, hgrant, hact, hexact, hwindow, hunlimited⟩
  · rintro ⟨htoken, au, grant, h⟩
    exact ⟨au, h.authorized, h.callId, h.binding, h.deadline, ⟨h.policy, h.visionPolicy⟩, ⟨h.grants, h.mother⟩,
      ⟨h.unexpired, h.beforeDeadline⟩, ⟨h.toy, grant, h.found, h.active, h.exact, h.window, h.unlimited⟩, htoken⟩

/-! ## The two matchers -/

/-- **What the Mother knows of the data implies what the call says**: with or without evidence, a data scope that minting
matched matches the call's own claims. -/
theorem dataScopeMatches_claims {data : Option LocalInvocationData} {project : Option ProjectId}
    {classification : Option String} (h : dataScopeMatches call data project classification = true) :
    optionMatches project call.caller.projectId = true ∧
      optionMatches classification (some call.payloadMetadata.dataClassification) = true := by
  cases data with
  | none =>
    -- without evidence minting only matches a scope that asks for nothing
    simp only [dataScopeMatches, Bool.and_eq_true, Option.isNone_iff_eq_none] at h
    obtain ⟨rfl, rfl⟩ := h
    exact ⟨rfl, rfl⟩
  | some data =>
    simp only [dataScopeMatches, LocalInvocationData.matchesCall, LocalInvocationData.matchesScope, Bool.and_eq_true,
      beq_iff_eq] at h
    obtain ⟨⟨⟨⟨⟨-, hproj⟩, -⟩, hclass⟩, -⟩, hscopes, hscopeC⟩ := h
    rw [← hproj, ← hclass]
    refine ⟨?_, ?_⟩
    · rw [optionMatches_iff]
      rintro v rfl
      rw [Option.all_some, beq_iff_eq] at hscopes
      exact hscopes.symm
    · rw [optionMatches_iff]
      rintro v rfl
      rw [Option.all_some, beq_iff_eq] at hscopeC
      exact congrArg some hscopeC.symm

theorem Minted.not_mismatch {toy : CanonicalToyContract} {evaluation : ToyGrantEvaluation} {exp : Timestamp}
    {generation : Nat} {au : Option LocalExecutionAuthorityTokenV1} (h : grant.Covers rev call request) :
    (mintToyCall call request evaluation toy grant exp rev generation au).grantMismatch rev
      grant = false := by
  have hscope := h.scope
  simp only [scopeMatches, Bool.and_eq_true, beq_iff_eq] at hscope
  obtain ⟨⟨⟨⟨hvision, hnode⟩, hdata⟩, hres⟩, haction⟩ := hscope
  obtain ⟨hproj, hclass⟩ := dataScopeMatches_claims hdata
  simp [AuthorizedToyCall.grantMismatch, mintToyCall, bne, h.toy, h.revision, h.subject, hvision, hnode, hproj, hclass,
    hres, haction]

theorem toyTokenExpiry_le [KernelHost] {exp : Timestamp} (h : toyTokenExpiry call request grant = some exp) :
    exp ≤ call.deadline ∧
      (∀ grantExpiry, grant.constraints.expiresAt = some grantExpiry → exp ≤ grantExpiry) ∧
      ∀ maxDurationMs, grant.constraints.maxDurationMs = some maxDurationMs →
        exp.epochNanoseconds ≤ request.now.epochNanoseconds + maxDurationMs * 1000000 := by
  have hbase : ∀ grantExpiry, grant.constraints.expiresAt = some grantExpiry →
      (grant.constraints.expiresAt.getD call.deadline).min call.deadline ≤ grantExpiry := by
    intro grantExpiry hgrant
    rw [hgrant]
    exact Timestamp.min_le_left _ _
  unfold toyTokenExpiry at h
  cases hdur : grant.constraints.maxDurationMs with
  | none =>
    simp only [hdur, Option.some.injEq] at h
    subst h
    exact ⟨Timestamp.min_le_right _ _, hbase, fun maxDurationMs hms => (by cases hms)⟩
  | some duration =>
    simp only [hdur, Option.map_eq_some_iff] at h
    obtain ⟨limit, hlimit, rfl⟩ := h
    have hleft := Timestamp.min_le_left ((grant.constraints.expiresAt.getD call.deadline).min call.deadline) limit
    have hright := Timestamp.min_le_right ((grant.constraints.expiresAt.getD call.deadline).min call.deadline) limit
    refine ⟨Int.le_trans hleft (Timestamp.min_le_right _ _), fun grantExpiry hgrant =>
      Int.le_trans hleft (hbase grantExpiry hgrant), fun maxDurationMs hms => ?_⟩
    cases hms
    rw [← Timestamp.checkedAddMilliseconds_some hlimit]
    exact hright

/-! ## Tokens -/

/-- **A minted token is sound.**  Records are compared as the source compares them, with instants for times. -/
structure TokenSound (call : MctCall) (request : ToyGrantEvaluationRequest) (snapshot : LocalExecutionAuthoritySnapshot)
    (token : AuthorizedToyCall) : Prop where
  /-- The token carries records of its snapshot. -/
  records : token.canonicalGrant ∈ snapshot.canonicalGrants.toyGrants ∧
    token.canonicalToy ∈ snapshot.canonicalGrants.toyCatalog
  deadline : token.expiresAt ≤ call.deadline
  grantExpiry : ∀ grantExpiry, token.canonicalGrant.constraints.expiresAt = some grantExpiry → token.expiresAt ≤ grantExpiry
  duration : ∀ maxDurationMs, token.canonicalGrant.constraints.maxDurationMs = some maxDurationMs →
    token.expiresAt.epochNanoseconds ≤ request.now.epochNanoseconds + maxDurationMs * 1000000
  same : (token.admitEffectWithSnapshot call snapshot).isOk = true ↔
    token.canonicalGrant.constraints.maxUses = none ∧ request.now < token.expiresAt ∧
      snapshot.canonicalGrants.grantsAuthority.motherNodeId = snapshot.executingMotherNodeId
  later : ∀ call' later, (token.admitEffectWithSnapshot call' later).isOk = true →
    (∃ grant ∈ later.canonicalGrants.toyGrants, (grant == token.canonicalGrant) = true ∧ grant.grantState = .active ∧
      grant.constraints.InWindow later.evaluatedAt) ∧
    token.canonicalToy ∈ later.canonicalGrants.toyCatalog ∧
    later.canonicalGrants.grantsAuthority = snapshot.canonicalGrants.grantsAuthority ∧
    later.policyRevision = snapshot.policyRevision ∧ later.visionPolicyRevision = snapshot.visionPolicyRevision

theorem ToyGrantConstraints.InWindow.of_instant {constraints : ToyGrantConstraints} {now now' : Timestamp}
    (h : constraints.InWindow now) (hnow : now.epochNanoseconds = now'.epochNanoseconds) : constraints.InWindow now' := by
  refine ⟨fun startsAt hs => ?_, fun exp he => ?_⟩
  · have hle := h.1 startsAt hs
    rw [Timestamp.le_def, hnow] at hle
    exact hle
  · have hlt := h.2 exp he
    rw [Timestamp.lt_def, hnow] at hlt
    exact hlt

/-- The first toy of an id is also the first one of that id that bears authority, if it bears it. -/
theorem find?_bearing {catalog : List CanonicalToyContract} {toyId : ToyId} {toy : CanonicalToyContract}
    (h : catalog.find? (fun toy => toy.toyId == toyId) = some toy) (hbears : toy.authorityBearing = true) :
    catalog.find? (fun toy => toy.toyId == toyId && toy.authorityBearing) = some toy := by
  rw [List.find?_eq_some_iff_append] at h ⊢
  obtain ⟨hid, before, after, hcatalog, hbefore⟩ := h
  refine ⟨by rw [hid, hbears]; rfl, before, after, hcatalog, fun other hother => ?_⟩
  have hne := hbefore other hother
  rw [Bool.not_eq_true'] at hne ⊢
  rw [hne, Bool.false_and]

theorem isOk_iff_admits : (token.admitEffectWithSnapshot call snapshot).isOk = true ↔
    ∃ au grant, token.Admits call snapshot au grant := by
  constructor
  · intro h
    cases hadmission : token.admitEffectWithSnapshot call snapshot with
    | error reason =>
      rw [hadmission] at h
      cases h
    | ok admitted => exact (admitToyEffect_ok.mp hadmission).2
  · intro h
    rw [admitToyEffect_ok.mpr ⟨rfl, h⟩]
    rfl

/-- **Toy tokens are sound, and complete for the snapshot that minted them.** -/
theorem minted_token_sound [KernelHost] (hclock : (snapshot.evaluatedAt == request.now) = true)
    (hdeadline : snapshot.evaluatedAt < call.deadline)
    (hunique : (snapshot.canonicalGrants.toyGrants.map (·.grantId)).Nodup)
    (h : (evaluateToyGrantForSnapshot call request snapshot).authorized = some token) :
    TokenSound call request snapshot token := by
  obtain ⟨evaluation, toy, grant, expiresAt, minted, hexpiry, rfl⟩ := evaluateToyGrantForSnapshot_authorized hunique h
  obtain ⟨hcall, hgrant, hdur⟩ := toyTokenExpiry_le hexpiry
  have hnow : snapshot.evaluatedAt.epochNanoseconds = request.now.epochNanoseconds := beq_iff_eq.mp hclock
  refine ⟨⟨List.mem_of_find?_eq_some minted.granted, List.mem_of_find?_eq_some minted.catalogued⟩, hcall, hgrant, hdur,
    ?_, fun call' later hadmit => ?_⟩
  · rw [isOk_iff_admits]
    constructor
    · rintro ⟨authority, other, hadm⟩
      cases hadm.authorized
      have hother : other = grant := Option.some.inj (hadm.found.symm.trans minted.granted)
      subst hother
      refine ⟨hadm.unlimited, ?_, hadm.mother⟩
      rw [Timestamp.lt_def, ← hnow]
      exact hadm.unexpired
    · rintro ⟨hunlimited, hbefore, hmother⟩
      exact ⟨snapshot.executionAuthority call.deadline, grant,
        { authorized := rfl
          callId := rfl
          binding := InvocationCallBinding.matchesCall_capture.mpr ⟨rfl, rfl, rfl⟩
          deadline := beq_self_eq_true call.deadline
          policy := rfl
          visionPolicy := rfl
          grants := rfl
          mother := hmother
          unexpired := hnow.trans_lt (Timestamp.lt_def.mp hbefore)
          beforeDeadline := hdeadline
          toy := find?_bearing minted.catalogued minted.bears
          found := minted.granted
          active := minted.covers.active
          exact := Minted.not_mismatch minted.covers
          window := minted.covers.window.of_instant hnow.symm
          unlimited := hunlimited }⟩
  · obtain ⟨authority, other, hadm⟩ := isOk_iff_admits.mp hadmit
    cases hadm.authorized
    have hexact := hadm.exact
    simp only [AuthorizedToyCall.grantMismatch, Bool.or_eq_false_iff, bne, Bool.not_eq_false'] at hexact
    obtain ⟨⟨⟨⟨⟨⟨⟨⟨⟨hsame, -⟩, -⟩, -⟩, -⟩, -⟩, -⟩, -⟩, -⟩, -⟩ := hexact
    exact ⟨⟨other, List.mem_of_find?_eq_some hadm.found, hsame, hadm.active, hadm.window⟩,
      List.mem_of_find?_eq_some hadm.toy, hadm.grants.symm, hadm.policy.symm, hadm.visionPolicy.symm⟩

end Minted

end Mct

/-! ## A snapshot of another Mother's grants -/

namespace Mct.ToySample

open Recovery.Sample (host)

def snapshotAt (executing : String) : LocalExecutionAuthoritySnapshot where
  executingMotherNodeId := executing
  canonicalGrants := ⟨⟨"m", "e", 0, "o"⟩, [toy], [grantAt 1]⟩
  policyRevision := 1
  visionPolicyRevision := 1
  childPolicy := ⟨[], [], [], []⟩
  evaluatedAt := request.now

def toyToken : AuthorizedToyCall :=
  mintToyCall call request (toyEvaluation call request (some (grantAt 1)) .allowed .activeGrant 1 0) toy (grantAt 1)
    call.deadline 1 0 (some ((snapshotAt "m").executionAuthority call.deadline))

theorem toyToken_minted (executing : String) :
    (@evaluateToyGrantForSnapshot host call request (snapshotAt executing)).authorized = some toyToken := by
  rfl

theorem other_mother_not_admitted :
    (@evaluateToyGrantForSnapshot host call request (snapshotAt "n")).authorized = some toyToken ∧
      (snapshotAt "n").evaluatedAt = request.now ∧ (snapshotAt "n").evaluatedAt < call.deadline ∧
      ((snapshotAt "n").canonicalGrants.toyGrants.map (·.grantId)).Nodup ∧
      ((snapshotAt "n").canonicalGrants.toyCatalog.map (·.toyId)).Nodup ∧
      toyToken.canonicalGrant.constraints.maxUses = none ∧ request.now < toyToken.expiresAt ∧
      toyToken.admitEffectWithSnapshot call (snapshotAt "n") = .error .grantsAuthorityMismatch := by
  refine ⟨toyToken_minted "n", rfl, by decide, by decide, by decide, rfl, by decide, by decide⟩

theorem own_mother_admitted :
    TokenSound call request (snapshotAt "m") toyToken ∧
      toyToken.admitEffectWithSnapshot call (snapshotAt "m") = .ok toyToken :=
  ⟨@minted_token_sound call request (snapshotAt "m") toyToken host (by decide) (by decide) (by decide) (toyToken_minted "m"),
    by decide⟩

end Mct.ToySample
