import PatinaMct.Protocol
import PatinaMct.RecoveryConsistent
import PatinaMct.Separated
/-!
# Ingress — whose call it is, and the identity of its idempotency key

A call comes from a peer, a local principal, a trigger or a child's call-out; the context says which, and the pipeline
checks it against the request.  A keyed call is stored under the scope of its caller and compared by its fingerprint.
Scope and operation id are texts made of free identifiers with separators between them, so they name one principal and
one operation exactly when the texts have one reading (`identity_iff_singleReading`).
-/
namespace Mct

open Checked
open Separated
open Recovery (utf8)

abbrev CallTriggerAuthorityId := StringId "CallTriggerAuthorityId"
abbrev CallTriggerFiringId := StringId "CallTriggerFiringId"
abbrev CallTriggerOccurrenceId := StringId "CallTriggerOccurrenceId"

/-! ## Contexts -/

inductive ResidentCallIngressContext
  | peer (bindingId : PeerBindingId)
  | localPrincipal (origin : CallOrigin) (caller : CallerIdentity)
  | trigger (triggerAuthorityId : CallTriggerAuthorityId) (recordRevision : Nat) (firingId : CallTriggerFiringId)
      (occurrenceId : CallTriggerOccurrenceId)
  | childCallOut (parentCallId : CallId) (parentFiringId : Option CallTriggerFiringId) (depth : Nat)
  deriving DecidableEq, Repr

/-- `ResidentPayloadIngress`: the bytes that came with the call, and from where. -/
inductive ResidentPayloadIngress
  | «local» (inlinePayload : Option (List UInt8))
  | remote (inlinePayload : Option (List UInt8))
  deriving DecidableEq, Repr

namespace ResidentCallIngressContext

def ofPeer (request : MctCallProtocolRequest) : Option ResidentCallIngressContext :=
  if request.call.origin = .iroh ∧ request.call.caller.userId = none then some (.peer request.authority.peerBindingId)
  else none

def matchesRequest (request : MctCallProtocolRequest) : ResidentCallIngressContext → Bool
  | peer bindingId =>
    request.call.origin == .iroh && request.call.caller.userId.isNone && bindingId == request.authority.peerBindingId
  | localPrincipal origin caller =>
    origin == request.call.origin && origin != .iroh && origin != .triggerFiring && caller == request.call.caller
  | trigger .. => request.call.origin == .triggerFiring
  | childCallOut _ _ depth => request.call.origin == .wasmHost && decide (0 < depth)

end ResidentCallIngressContext

/-! ## The local socket -/

def localCallAlpn : NonBlank := ⟨"mct/local-call/0", by decide⟩

structure MctLocalNodeIdentity where
  nodeId : MctNodeId
  visionId : VisionId
  endpointId : EndpointIdText
  deriving DecidableEq, Repr

structure MctResidentCallSubmission where
  protocolRequestId : ProtocolRequestId
  callId : CallId
  target : OperationTarget
  payloadMetadata : PayloadMetadata
  authorityContext : AuthorityContextSnapshot
  deadline : Timestamp
  traceContext : TraceContext
  payload : MctCallPayloadHandle
  inlinePayloadBase64 : Option String
  idempotencyKey : Option String
  deriving DecidableEq, Repr

def StringId.prefixed {record other : String} (start : String) (hstart : trimmedEmpty start = false)
    (id : StringId other) : StringId record :=
  ⟨start ++ id.value, by rw [trimmedEmpty_append, hstart, Bool.false_and]⟩

def uidUser (uid : Nat) : UserId :=
  ⟨"uid:" ++ toString uid, by rw [trimmedEmpty_append]; rfl⟩

def uidBinding (uid : Nat) : PeerBindingId :=
  ⟨"binding-local-uid:" ++ toString uid, by rw [trimmedEmpty_append]; rfl⟩

/-- The request of a submission: node, vision and user are the Mother's own facts, the call id is the submitter's. -/
def localRequest (identity : MctLocalNodeIdentity) (uid : Nat) (submission : MctResidentCallSubmission) :
    MctCallProtocolRequest where
  protocolRequestId := submission.protocolRequestId
  authority :=
    { helloDecisionId := .prefixed "decision-local-call:" (by decide) submission.protocolRequestId
      peerBindingId := uidBinding uid
      visionId := identity.visionId
      acceptedAlpn := localCallAlpn.value
      endpointId := identity.endpointId
      policyRevision := submission.authorityContext.policyRevision
      expectedReceiverGrantsAuthority := submission.authorityContext.expectedReceiverGrantsAuthority }
  receivedOver := ⟨identity.endpointId, localCallAlpn, .incoming, .direct, none, none⟩
  call :=
    { callId := submission.callId
      caller := ⟨identity.nodeId, some (uidUser uid), identity.visionId, none⟩
      target := submission.target
      payloadMetadata := submission.payloadMetadata
      authorityContext := submission.authorityContext
      deadline := submission.deadline
      traceContext := submission.traceContext
      origin := .jvmAdapter }
  payload := submission.payload
  idempotencyKey := submission.idempotencyKey
  receivedObservationId := .prefixed "obs-local-call-received:" (by decide) submission.protocolRequestId

def localProtocolRequest (base64Decode : String → Except String (List UInt8)) (identity : MctLocalNodeIdentity)
    (uid : Nat) (submission : MctResidentCallSubmission) :
    Except String (MctCallProtocolRequest × Option (List UInt8)) := do
  let inlinePayload ← match submission.inlinePayloadBase64 with
    | none => pure none
    | some encoded => some <$> mapErr (fun _ => "decode inline call payload") (base64Decode encoded)
  let request := localRequest identity uid submission
  mapErr CallRequestError.text request.validate
  return (request, inlinePayload)

/-! ## Scope and fingerprint -/

def originTag : CallOrigin → String
  | .jvmAdapter => "jvm"
  | .wasmHost => "wasm"
  | .processHarness => "process"
  | .cli => "cli"
  | .triggerFiring => "trigger"
  | .iroh => "iroh"

def idOrDash {record : String} (id : Option (StringId record)) : String :=
  (id.map StringId.value).getD "-"

def localCallerScope (origin : CallOrigin) (caller : CallerIdentity) : String :=
  "local:" ++ originTag origin ++ ":" ++ caller.nodeId.value ++ ":" ++ idOrDash caller.userId ++ ":" ++
    caller.visionId.value ++ ":" ++ idOrDash caller.projectId

def residentIdempotencyCallerScope (request : MctCallProtocolRequest) : ResidentCallIngressContext → String
  | .peer bindingId => "peer-binding:" ++ bindingId.value
  | .trigger triggerAuthorityId _ _ _ => "trigger:" ++ triggerAuthorityId.value
  | .localPrincipal _ _ | .childCallOut _ _ _ => localCallerScope request.call.origin request.call.caller

structure MctIdempotencyFingerprint where
  target : String
  callId : CallId
  payloadDigest : String
  deriving DecidableEq, Repr

def operationIdFromTarget (target : OperationTarget) : String :=
  target.«namespace» ++ "/" ++ target.interfaceName ++ "." ++ target.functionName

def fingerprintPayloadDigest [KernelHost] : MctCallPayloadHandle → String
  | .inlinePayload _ _ _ blake3DigestHex => "blake3:" ++ blake3DigestHex
  | .contentAddressedBlob digest _ _ _ => digest
  | .externalReference externalRef _ _ => "external-ref:blake3:" ++ KernelHost.blake3 (utf8 externalRef)
  | .empty => "empty"

def residentIdempotencyFingerprint [KernelHost] (request : MctCallProtocolRequest) : MctIdempotencyFingerprint :=
  ⟨operationIdFromTarget request.call.target, request.call.callId, fingerprintPayloadDigest request.payload⟩

/-! ## Identity -/

/-- A keyed request that passes the checks of its ingress: its own validator and the match with its context. -/
structure KeyedIngress (request : MctCallProtocolRequest) (context : ResidentCallIngressContext) : Prop where
  valid : request.validate = .ok ()
  context : context.matchesRequest request = true
  keyed : request.idempotencyKey.isSome = true

def SamePrincipal (request request' : MctCallProtocolRequest) :
    ResidentCallIngressContext → ResidentCallIngressContext → Prop
  | .peer bindingId, .peer bindingId' => bindingId = bindingId'
  | .trigger triggerAuthorityId _ _ _, .trigger triggerAuthorityId' _ _ _ => triggerAuthorityId = triggerAuthorityId'
  | .localPrincipal _ _, .localPrincipal _ _ | .childCallOut _ _ _, .childCallOut _ _ _ =>
    request.call.origin = request'.call.origin ∧ request.call.caller = request'.call.caller
  | _, _ => False

/-- **One key, one principal and one operation.** -/
def IdentityInjectiveAt [KernelHost] (request : MctCallProtocolRequest) (context : ResidentCallIngressContext) :
    Prop :=
  ∀ request' context', KeyedIngress request' context' →
    residentIdempotencyCallerScope request context = residentIdempotencyCallerScope request' context' →
    SamePrincipal request request' context context' ∧
      (residentIdempotencyFingerprint request = residentIdempotencyFingerprint request' →
        request.call.target = request'.call.target)

def nonBlankChars (text : List Char) : Bool := !text.all isWhitespace

/-- A part that is present and is not written like an absent one. -/
def plainlyPresent {record : String} (id : Option (StringId record)) : Bool :=
  id.any fun id => id.value != "-"

def callerTexts (caller : CallerIdentity) : List (List Char) :=
  [caller.nodeId.value.toList, (idOrDash caller.userId).toList, caller.visionId.value.toList,
    (idOrDash caller.projectId).toList]

def targetTexts (target : OperationTarget) : List (List Char) :=
  [target.«namespace».toList, target.interfaceName.toList, target.functionName.toList]

/-- **The caller can be read off the scope**: the scope names a binding or a trigger, or it is not the one that local
    principals and call-outs share, user and project are present, and the colons cut the four texts in one way. -/
def ScopeDetermined (request : MctCallProtocolRequest) : ResidentCallIngressContext → Prop
  | .peer _ | .trigger _ _ _ _ => True
  | .localPrincipal _ _ | .childCallOut _ _ _ =>
    request.call.origin ≠ .wasmHost ∧ plainlyPresent request.call.caller.userId = true ∧
      plainlyPresent request.call.caller.projectId = true ∧
      SingleReading nonBlankChars [':', ':', ':'] (callerTexts request.call.caller)

/-- **The target can be read off the operation id.** -/
def TargetDetermined (target : OperationTarget) : Prop :=
  SingleReading nonBlankChars ['/', '.'] (targetTexts target)

instance (request : MctCallProtocolRequest) : ∀ context, Decidable (ScopeDetermined request context)
  | .peer _ | .trigger _ _ _ _ => inferInstanceAs (Decidable True)
  | .localPrincipal _ _ | .childCallOut _ _ _ => inferInstanceAs (Decidable (_ ∧ _))

instance (target : OperationTarget) : Decidable (TargetDetermined target) :=
  inferInstanceAs (Decidable (SingleReading _ _ _))

/-! ## Texts -/

theorem originTag_injective : Function.Injective originTag := by
  intro a b h
  cases a <;> cases b <;> first | rfl | exact absurd h (by decide)

theorem colon_not_mem_originTag (org : CallOrigin) : ':' ∉ (originTag org).toList := by
  cases org <;> decide

theorem nonBlankChars_iff {text : String} : nonBlankChars text.toList = true ↔ trimmedEmpty text = false := by
  simp [nonBlankChars, trimmedEmpty]

theorem idOrDash_nonBlank {record : String} (id : Option (StringId record)) :
    nonBlankChars (idOrDash id).toList = true := by
  cases id with
  | none => exact nonBlankChars_iff.mpr (by decide : trimmedEmpty "-" = false)
  | some id => exact nonBlankChars_iff.mpr id.nonBlank

theorem eq_of_idOrDash {record : String} {id id' : Option (StringId record)} (hid : plainlyPresent id = true)
    (h : idOrDash id' = idOrDash id) : id' = id := by
  cases id with
  | none => cases hid
  | some id =>
    cases id' with
    | none =>
      have hdash : "-" = id.value := h
      simp [plainlyPresent, ← hdash] at hid
    | some id' => exact congrArg some (StringId.ext h)

theorem localCallerScope_toList (org : CallOrigin) (caller : CallerIdentity) :
    (localCallerScope org caller).toList =
      "local:".toList ++ ((originTag org).toList ++ ':' :: joined [':', ':', ':'] (callerTexts caller)) := by
  delta localCallerScope
  simp [callerTexts, joined]

theorem localCallerScope_inj {org org' : CallOrigin} {caller caller' : CallerIdentity} :
    localCallerScope org caller = localCallerScope org' caller' ↔
      org = org' ∧
        joined [':', ':', ':'] (callerTexts caller) = joined [':', ':', ':'] (callerTexts caller') := by
  rw [← String.toList_inj, localCallerScope_toList, localCallerScope_toList, List.append_cancel_left_eq]
  constructor
  · intro h
    obtain ⟨htag, htexts⟩ := append_cons_inj (colon_not_mem_originTag org) (colon_not_mem_originTag org') h
    exact ⟨originTag_injective (String.toList_inj.mp htag), htexts⟩
  · rintro ⟨rfl, htexts⟩
    rw [htexts]

theorem operationIdFromTarget_toList (target : OperationTarget) :
    (operationIdFromTarget target).toList = joined ['/', '.'] (targetTexts target) := by
  simp [operationIdFromTarget, targetTexts, joined]

theorem targetTexts_injective : Function.Injective targetTexts := by
  intro a b h
  cases a
  cases b
  simpa [targetTexts, String.toList_inj] using h

theorem exists_callerTexts {texts : List (List Char)} (hlen : texts.length = 4)
    (hkind : ∀ text ∈ texts, nonBlankChars text = true) :
    ∃ caller, callerTexts caller = texts := by
  rcases texts with _ | ⟨node, _ | ⟨user, _ | ⟨vision, _ | ⟨project, _ | ⟨_, _⟩⟩⟩⟩⟩ <;> simp at hlen
  have hid : ∀ text ∈ [node, user, vision, project], trimmedEmpty (String.ofList text) = false := by
    intro text htext
    exact nonBlankChars_iff.mp (by rw [String.toList_ofList]; exact hkind text htext)
  refine ⟨⟨⟨_, hid node (by simp)⟩, some ⟨_, hid user (by simp)⟩, ⟨_, hid vision (by simp)⟩,
    some ⟨_, hid project (by simp)⟩⟩, ?_⟩
  simp [callerTexts, idOrDash]

theorem exists_targetTexts {texts : List (List Char)} (hlen : texts.length = 3)
    (hkind : ∀ text ∈ texts, nonBlankChars text = true) :
    ∃ target : OperationTarget, targetTexts target = texts ∧ target.validate = .ok () := by
  rcases texts with _ | ⟨space, _ | ⟨interface, _ | ⟨function, _ | ⟨_, _⟩⟩⟩⟩ <;> simp at hlen
  have hid : ∀ text ∈ [space, interface, function], trimmedEmpty (String.ofList text) = false := by
    intro text htext
    exact nonBlankChars_iff.mp (by rw [String.toList_ofList]; exact hkind text htext)
  refine ⟨⟨String.ofList space, String.ofList interface, String.ofList function⟩, by simp [targetTexts], ?_⟩
  exact OperationTarget.validate_ok.mpr ⟨hid space (by simp), hid interface (by simp), hid function (by simp)⟩

/-! ## The two readings -/

namespace ResidentCallIngressContext

def forCaller (caller : CallerIdentity) : ResidentCallIngressContext → ResidentCallIngressContext
  | localPrincipal origin _ => localPrincipal origin caller
  | context => context

end ResidentCallIngressContext

section Identity

variable {request request' : MctCallProtocolRequest} {context context' : ResidentCallIngressContext}

/-- The context is one of the two that share the local scope. -/
def ResidentCallIngressContext.isLocal : ResidentCallIngressContext → Bool
  | .localPrincipal _ _ | .childCallOut _ _ _ => true
  | .peer _ | .trigger _ _ _ _ => false

theorem scope_of_isLocal (h : context.isLocal = true) :
    residentIdempotencyCallerScope request context = localCallerScope request.call.origin request.call.caller := by
  cases context with
  | localPrincipal org caller => rfl
  | childCallOut parent firing depth => rfl
  | peer bindingId => cases h
  | trigger au rev firing occurrence => cases h

theorem KeyedIngress.target (h : KeyedIngress request context) : request.call.target.validate = .ok () := by
  have hvalid := h.valid
  simp only [MctCallProtocolRequest.validate, MctCall.validate, bind_ok, exists_unit, mapErr_ok] at hvalid
  exact hvalid.2.2.1.1

theorem KeyedIngress.forCaller (h : KeyedIngress request context) (hlocal : context.isLocal = true)
    (caller : CallerIdentity) :
    KeyedIngress { request with call := { request.call with caller } } (context.forCaller caller) := by
  refine ⟨MctCallProtocolRequest.validate_of_call h.valid caller request.call.origin h.target, ?_, h.keyed⟩
  have hcon := h.context
  cases context with
  | localPrincipal org own =>
    simp only [ResidentCallIngressContext.matchesRequest, Bool.and_eq_true] at hcon
    simpa [ResidentCallIngressContext.matchesRequest, ResidentCallIngressContext.forCaller] using hcon.1
  | childCallOut parent firing depth => exact hcon
  | peer bindingId => cases hlocal
  | trigger au rev firing occurrence => cases hlocal

theorem caller_eq_of_texts {caller caller' : CallerIdentity} (huser : plainlyPresent caller.userId = true)
    (hproj : plainlyPresent caller.projectId = true) (h : callerTexts caller' = callerTexts caller) :
    caller = caller' := by
  simp only [callerTexts, List.cons.injEq, String.toList_inj, and_true] at h
  obtain ⟨hnode, huser', hvision, hproj'⟩ := h
  have heq := eq_of_idOrDash huser huser'
  have heq' := eq_of_idOrDash hproj hproj'
  cases caller
  cases caller'
  simp_all [StringId.ext_iff]

theorem plainlyPresent_of_unique {record : String} {id : Option (StringId record)}
    (h : ∀ id' : Option (StringId record), idOrDash id' = idOrDash id → id = id') : plainlyPresent id = true := by
  cases id with
  | none => exact absurd (h (some ⟨"-", by decide⟩) rfl) (by simp)
  | some id =>
    simp only [plainlyPresent, Option.any_some, bne_iff_ne]
    intro hdash
    exact absurd (h none hdash.symm) (by simp)

theorem callerTexts_nonBlank (caller : CallerIdentity) : ∀ text ∈ callerTexts caller, nonBlankChars text = true := by
  simp only [callerTexts, List.forall_mem_cons, List.not_mem_nil, false_implies, implies_true, and_true]
  exact ⟨nonBlankChars_iff.mpr caller.nodeId.nonBlank, idOrDash_nonBlank _,
    nonBlankChars_iff.mpr caller.visionId.nonBlank, idOrDash_nonBlank _⟩

def ResidentCallIngressContext.scopeLetter : ResidentCallIngressContext → Char
  | .peer _ => 'p'
  | .trigger .. => 't'
  | .localPrincipal .. | .childCallOut .. => 'l'

theorem scope_head (request : MctCallProtocolRequest) (context : ResidentCallIngressContext) :
    (residentIdempotencyCallerScope request context).toList.head? = some context.scopeLetter := by
  cases context with
  | peer bindingId =>
    rw [residentIdempotencyCallerScope, String.toList_append]
    rfl
  | trigger au rev firing occurrence =>
    rw [residentIdempotencyCallerScope, String.toList_append]
    rfl
  | localPrincipal org caller =>
    rw [scope_of_isLocal rfl, localCallerScope_toList]
    rfl
  | childCallOut parent firing depth =>
    rw [scope_of_isLocal rfl, localCallerScope_toList]
    rfl

theorem samePrincipal_of_scopeDetermined (h : context.matchesRequest request = true)
    (h' : context'.matchesRequest request' = true) (hdetermined : ScopeDetermined request context)
    (hscope : residentIdempotencyCallerScope request context = residentIdempotencyCallerScope request' context') :
    SamePrincipal request request' context context' := by
  -- scopes of different families differ in their first letter
  have hhead : context.scopeLetter = context'.scopeLetter := by
    have := congrArg (fun text => text.toList.head?) hscope
    simpa only [scope_head, Option.some.injEq] using this
  have hlocal : context.isLocal = true → context'.isLocal = true →
      request.call.origin ≠ .wasmHost ∧ request.call.origin = request'.call.origin ∧
        request.call.caller = request'.call.caller := by
    intro hlocal hlocal'
    obtain ⟨horigin, huser, hproj, hread⟩ : request.call.origin ≠ .wasmHost ∧
        plainlyPresent request.call.caller.userId = true ∧ plainlyPresent request.call.caller.projectId = true ∧
        SingleReading nonBlankChars [':', ':', ':'] (callerTexts request.call.caller) := by
      cases context <;> first | exact hdetermined | cases hlocal
    rw [scope_of_isLocal hlocal, scope_of_isLocal hlocal'] at hscope
    obtain ⟨horigins, htexts⟩ := localCallerScope_inj.mp hscope
    have hcaller := singleReading_iff.mp hread _ rfl (callerTexts_nonBlank request'.call.caller) htexts.symm
    exact ⟨horigin, horigins, caller_eq_of_texts huser hproj hcaller⟩
  cases context with
  | peer bindingId =>
    cases context' with
    | peer bindingId' =>
      have hid : bindingId.value = bindingId'.value := by simpa [residentIdempotencyCallerScope] using hscope
      exact StringId.ext hid
    | _ => simp [ResidentCallIngressContext.scopeLetter] at hhead
  | trigger au rev firing occurrence =>
    cases context' with
    | trigger au' rev' firing' occurrence' =>
      have hid : au.value = au'.value := by simpa [residentIdempotencyCallerScope] using hscope
      exact StringId.ext hid
    | _ => simp [ResidentCallIngressContext.scopeLetter] at hhead
  | localPrincipal org caller =>
    cases context' with
    | localPrincipal org' caller' => exact (hlocal rfl rfl).2
    | childCallOut parent' firing' depth' =>
      obtain ⟨hne, horigin, -⟩ := hlocal rfl rfl
      simp only [ResidentCallIngressContext.matchesRequest, Bool.and_eq_true, beq_iff_eq] at h'
      exact absurd (horigin.trans h'.1) hne
    | _ => simp [ResidentCallIngressContext.scopeLetter] at hhead
  | childCallOut parent firing depth =>
    simp only [ResidentCallIngressContext.matchesRequest, Bool.and_eq_true, beq_iff_eq] at h
    exact absurd h.1 hdetermined.1

theorem target_eq_of_targetDetermined {target target' : OperationTarget} (hdetermined : TargetDetermined target)
    (hvalid : target'.validate = .ok ()) (h : operationIdFromTarget target = operationIdFromTarget target') :
    target = target' := by
  obtain ⟨hspace, hinterface, hfun⟩ := OperationTarget.validate_ok.mp hvalid
  refine targetTexts_injective (singleReading_iff.mp hdetermined _ rfl ?_ ?_).symm
  · simp only [targetTexts, List.forall_mem_cons, List.not_mem_nil, false_implies, implies_true, and_true]
    exact ⟨nonBlankChars_iff.mpr hspace, nonBlankChars_iff.mpr hinterface, nonBlankChars_iff.mpr hfun⟩
  · rw [← operationIdFromTarget_toList, ← operationIdFromTarget_toList, h]

variable [KernelHost]

theorem caller_eq_of_injective (h : KeyedIngress request context) (hinj : IdentityInjectiveAt request context)
    (hlocal : context.isLocal = true) (caller : CallerIdentity)
    (htexts : joined [':', ':', ':'] (callerTexts request.call.caller) =
      joined [':', ':', ':'] (callerTexts caller)) : request.call.caller = caller := by
  have hscope : residentIdempotencyCallerScope request context = residentIdempotencyCallerScope
      { request with call := { request.call with caller } } (context.forCaller caller) := by
    have hlocal' : (context.forCaller caller).isLocal = true := by
      cases context <;> first | rfl | cases hlocal
    rw [scope_of_isLocal hlocal, scope_of_isLocal hlocal']
    exact localCallerScope_inj.mpr ⟨rfl, htexts⟩
  obtain ⟨hsame, -⟩ := hinj _ _ (h.forCaller hlocal caller) hscope
  cases context with
  | localPrincipal org own => exact hsame.2
  | childCallOut parent firing depth => exact hsame.2
  | peer bindingId => cases hlocal
  | trigger au rev firing occurrence => cases hlocal

theorem origin_ne_of_injective (h : KeyedIngress request context) (hinj : IdentityInjectiveAt request context)
    (hlocal : context.isLocal = true) : request.call.origin ≠ .wasmHost := by
  intro horigin
  cases context with
  | localPrincipal org own =>
    have hother : KeyedIngress request (.childCallOut request.call.callId none 1) :=
      ⟨h.valid, by simp [ResidentCallIngressContext.matchesRequest, horigin], h.keyed⟩
    exact (hinj _ _ hother rfl).1
  | childCallOut parent firing depth =>
    have hother : KeyedIngress request (.localPrincipal request.call.origin request.call.caller) :=
      ⟨h.valid, by simp [ResidentCallIngressContext.matchesRequest, horigin], h.keyed⟩
    exact (hinj _ _ hother rfl).1
  | peer bindingId => cases hlocal
  | trigger au rev firing occurrence => cases hlocal

theorem scopeDetermined_of_injective (h : KeyedIngress request context)
    (hinj : IdentityInjectiveAt request context) : ScopeDetermined request context := by
  cases hlocal : context.isLocal with
  | false => cases context <;> trivial
  | true =>
    have hcaller := caller_eq_of_injective h hinj hlocal
    have huser : plainlyPresent request.call.caller.userId = true := by
      apply plainlyPresent_of_unique
      intro user htext
      have := hcaller { request.call.caller with userId := user } (by simp [callerTexts, htext])
      exact congrArg CallerIdentity.userId this
    have hproj : plainlyPresent request.call.caller.projectId = true := by
      apply plainlyPresent_of_unique
      intro project htext
      have := hcaller { request.call.caller with projectId := project } (by simp [callerTexts, htext])
      exact congrArg CallerIdentity.projectId this
    have hread : SingleReading nonBlankChars [':', ':', ':'] (callerTexts request.call.caller) := by
      refine singleReading_iff.mpr ?_
      intro texts hlen hkind hjoin
      obtain ⟨caller, rfl⟩ := exists_callerTexts hlen hkind
      rw [hcaller caller hjoin.symm]
    have horigin := origin_ne_of_injective h hinj hlocal
    cases context with
    | localPrincipal org own => exact ⟨horigin, huser, hproj, hread⟩
    | childCallOut parent firing depth => exact ⟨horigin, huser, hproj, hread⟩
    | peer bindingId => trivial
    | trigger au rev firing occurrence => trivial

theorem targetDetermined_of_injective (h : KeyedIngress request context)
    (hinj : IdentityInjectiveAt request context) : TargetDetermined request.call.target := by
  refine singleReading_iff.mpr ?_
  intro texts hlen hkind hjoin
  obtain ⟨target, rfl, hvalid⟩ := exists_targetTexts hlen hkind
  have hother : KeyedIngress { request with call := { request.call with target } } context := by
    refine ⟨MctCallProtocolRequest.validate_of_call h.valid request.call.caller request.call.origin hvalid, ?_, h.keyed⟩
    have hcon := h.context
    cases context <;> exact hcon
  have hscope : residentIdempotencyCallerScope request context =
      residentIdempotencyCallerScope { request with call := { request.call with target } } context := by
    cases context <;> rfl
  have hid : operationIdFromTarget request.call.target = operationIdFromTarget target := by
    rw [← String.toList_inj, operationIdFromTarget_toList, operationIdFromTarget_toList, hjoin]
  have := (hinj _ _ hother hscope).2 (by simp only [residentIdempotencyFingerprint, hid])
  exact congrArg targetTexts this.symm

/-- **A keyed call's scope and fingerprint name its principal and its operation exactly when both texts have one
    reading.** -/
theorem identity_iff_singleReading (request : MctCallProtocolRequest) (context : ResidentCallIngressContext)
    (h : KeyedIngress request context) :
    IdentityInjectiveAt request context ↔ ScopeDetermined request context ∧ TargetDetermined request.call.target := by
  constructor
  · intro hinj
    exact ⟨scopeDetermined_of_injective h hinj, targetDetermined_of_injective h hinj⟩
  · rintro ⟨hscope, htarget⟩ request' context' h' heq
    refine ⟨samePrincipal_of_scopeDetermined h.context h'.context hscope heq, fun hfin => ?_⟩
    exact target_eq_of_targetDetermined htarget h'.target (congrArg MctIdempotencyFingerprint.target hfin)

end Identity

namespace IngressSample

open Recovery.Sample (host second)

def identity : MctLocalNodeIdentity := ⟨⟨"node", by decide⟩, ⟨"vision-garden", by decide⟩, ⟨"endpoint", by decide⟩⟩

def authorityContext : AuthorityContextSnapshot := ⟨1, ⟨"node", "epoch", 1, "obs"⟩, 1⟩

def submission (target : OperationTarget) : MctResidentCallSubmission where
  protocolRequestId := ⟨"request", by decide⟩
  callId := ⟨"call-1", by decide⟩
  target := target
  payloadMetadata := ⟨"public", 0, false⟩
  authorityContext := authorityContext
  deadline := second 60
  traceContext := ⟨⟨"trace-1", by decide⟩, ⟨"span-1", by decide⟩⟩
  payload := .empty
  inlinePayloadBase64 := none
  idempotencyKey := some "key"

def submitted (target : OperationTarget) : MctCallProtocolRequest := localRequest identity 501 (submission target)

def submittedContext : ResidentCallIngressContext :=
  .localPrincipal .jvmAdapter ⟨identity.nodeId, some (uidUser 501), identity.visionId, none⟩

def calledOut (projectId : Option ProjectId) : MctCallProtocolRequest :=
  let request := submitted ⟨"demo", "api", "run"⟩
  { request with call := { request.call with
      origin := .wasmHost, caller := ⟨identity.nodeId, none, identity.visionId, projectId⟩ } }

def calledOutContext : ResidentCallIngressContext := .childCallOut ⟨"parent", by decide⟩ none 1

def plain : MctCallProtocolRequest :=
  let request := submitted ⟨"demo", "api", "run"⟩
  { request with call := { request.call with
      origin := .cli
      caller := ⟨identity.nodeId, some ⟨"gardener", by decide⟩, identity.visionId, some ⟨"garden", by decide⟩⟩ } }

def plainContext : ResidentCallIngressContext := .localPrincipal .cli plain.call.caller

theorem plain_call_identified : @IdentityInjectiveAt host plain plainContext :=
  (@identity_iff_singleReading host plain plainContext
    ⟨by decide +kernel, by decide +kernel, by decide +kernel⟩).mpr ⟨by decide +kernel, by decide +kernel⟩

def dashProject : ProjectId := ⟨"-", by decide⟩

def slashInNamespace : OperationTarget := ⟨"demo/v1", "api", "run"⟩
def slashInInterface : OperationTarget := ⟨"demo", "v1/api", "run"⟩

theorem localProtocolRequest_submission (target : OperationTarget) (h : (submitted target).validate = .ok ()) :
    localProtocolRequest (fun _ => .error "no decoder") identity 501 (submission target) =
      .ok (submitted target, none) := by
  show (mapErr CallRequestError.text (submitted target).validate >>= fun _ => pure (submitted target, none)) = _
  rw [h]
  rfl

/-- **One key for two operations, and one scope for two principals**: the socket accepts both submissions of a user, and
    they differ only in where the slash stands; two call-outs differ in whether the project is absent or a dash. -/
theorem ambiguous_identity :
    (localProtocolRequest (fun _ => .error "no decoder") identity 501 (submission slashInNamespace) =
        .ok (submitted slashInNamespace, none) ∧
      localProtocolRequest (fun _ => .error "no decoder") identity 501 (submission slashInInterface) =
        .ok (submitted slashInInterface, none) ∧
      KeyedIngress (submitted slashInNamespace) submittedContext ∧
      KeyedIngress (submitted slashInInterface) submittedContext ∧
      residentIdempotencyCallerScope (submitted slashInNamespace) submittedContext =
        residentIdempotencyCallerScope (submitted slashInInterface) submittedContext ∧
      @residentIdempotencyFingerprint host (submitted slashInNamespace) =
        @residentIdempotencyFingerprint host (submitted slashInInterface) ∧
      (submitted slashInNamespace).call.target.«namespace» ≠ (submitted slashInInterface).call.target.«namespace») ∧
    (KeyedIngress (calledOut none) calledOutContext ∧ KeyedIngress (calledOut (some dashProject)) calledOutContext ∧
      residentIdempotencyCallerScope (calledOut none) calledOutContext =
        residentIdempotencyCallerScope (calledOut (some dashProject)) calledOutContext ∧
      (calledOut none).call.caller.projectId ≠ (calledOut (some dashProject)).call.caller.projectId) := by
  refine ⟨⟨localProtocolRequest_submission _ ?_, localProtocolRequest_submission _ ?_, ⟨?_, ?_, ?_⟩, ⟨?_, ?_, ?_⟩, ?_,
    ?_, ?_⟩, ⟨?_, ?_, ?_⟩, ⟨?_, ?_, ?_⟩, ?_, ?_⟩ <;> decide +kernel

end IngressSample

end Mct
