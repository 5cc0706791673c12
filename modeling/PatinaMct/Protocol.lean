import PatinaMct.Call
/-!
# Protocol — the `mct/call/0` request and the integrity of its payload

The request of `call/mod.rs` as it is after JSON decoding, with its validators, and the comparison of a payload handle
with the facts an adapter observed about the bytes.  The kernel hashes nothing: sizes and digests are given to it.
-/
namespace Mct

open Checked

abbrev ProtocolRequestId := StringId "ProtocolRequestId"
abbrev NonBlank := StringId "NonBlank"

def mctCallAlpn : String := "mct/call/0"

/-! ## Payload handles -/

inductive MctCallPayloadHandle
  | inlinePayload (inlinePayloadRef contentType : String) (sizeBytes : Nat) (blake3DigestHex : String)
  | contentAddressedBlob (digest blobRef contentType : String) (sizeBytes : Nat)
  | externalReference (externalRef : String) (contentType : Option String) (approximateSizeBytes : Nat)
  | empty
  deriving DecidableEq, Repr

def validateOptionalStringField (record field : String) : Option String → Except MctKernelError Unit
  | some value => ensureNonBlank record field value
  | none => .ok ()

namespace MctCallPayloadHandle

def declaredSizeBytes : MctCallPayloadHandle → Nat
  | inlinePayload _ _ sizeBytes _ => sizeBytes
  | contentAddressedBlob _ _ _ sizeBytes => sizeBytes
  | externalReference _ _ approximateSizeBytes => approximateSizeBytes
  | empty => 0

def validate : MctCallPayloadHandle → Except MctKernelError Unit
  | inlinePayload inlinePayloadRef contentType _ blake3DigestHex => do
    ensureNonBlank "MctCallPayloadHandle" "inline_payload_ref" inlinePayloadRef
    ensureNonBlank "MctCallPayloadHandle" "content_type" contentType
    ensureNonBlank "MctCallPayloadHandle" "blake3_digest_hex" blake3DigestHex
  | contentAddressedBlob digest blobRef contentType _ => do
    ensureNonBlank "MctCallPayloadHandle" "digest" digest
    ensureNonBlank "MctCallPayloadHandle" "blob_ref" blobRef
    ensureNonBlank "MctCallPayloadHandle" "content_type" contentType
  | externalReference externalRef contentType _ => do
    ensureNonBlank "MctCallPayloadHandle" "external_ref" externalRef
    validateOptionalStringField "MctCallPayloadHandle" "content_type" contentType
  | empty => .ok ()

def isContentAddressedBlob : MctCallPayloadHandle → Bool
  | contentAddressedBlob .. => true
  | _ => false

def isInlinePayload : MctCallPayloadHandle → Bool
  | inlinePayload .. => true
  | _ => false

end MctCallPayloadHandle

/-! ## Integrity -/

inductive PayloadIntegritySubject
  | request | replyResult
  deriving DecidableEq, Repr

inductive PayloadIntegrityOutcome
  | matched | mismatch
  deriving DecidableEq, Repr

inductive PayloadIntegrityReason
  | integrityMatched | payloadDeclaredTooLarge | payloadActualTooLarge | payloadSizeMismatch | payloadDigestMismatch
  | payloadMissingInlineBytes | payloadUnexpectedInlineBytes | payloadBlobUnavailable | invalidPayloadDigest
  | resultPayloadTooLarge | resultPayloadIntegrityMismatch
  deriving DecidableEq, Repr

structure MctPayloadIntegrityObservation where
  inlineBytesPresent : Bool
  contentAddressedBlobFetchAttempted : Bool
  observedSizeBytes : Option Nat
  observedBlake3DigestHex : Option String
  deriving DecidableEq, Repr

def MctPayloadIntegrityObservation.missingInlineBytes : MctPayloadIntegrityObservation := ⟨false, false, none, none⟩

def MctPayloadIntegrityObservation.missingContentAddressedBlob : MctPayloadIntegrityObservation :=
  ⟨false, true, none, none⟩

structure MctPayloadIntegrityDecision where
  subject : PayloadIntegritySubject
  outcome : PayloadIntegrityOutcome
  reason : PayloadIntegrityReason
  safeMessage : String
  deriving DecidableEq, Repr

def handleDeclaresObservedBytes (handle : MctCallPayloadHandle) (observed : MctPayloadIntegrityObservation) : Bool :=
  handle.isInlinePayload || (observed.contentAddressedBlobFetchAttempted && handle.isContentAddressedBlob)

def declaredDigestHex : MctCallPayloadHandle → String
  | .inlinePayload _ _ _ blake3DigestHex => blake3DigestHex
  | .contentAddressedBlob digest _ _ _ => digest
  | .externalReference .. | .empty => ""

def mismatchReason (sizeMismatch : Bool) : PayloadIntegritySubject → PayloadIntegrityReason
  | .request => if sizeMismatch then .payloadSizeMismatch else .payloadDigestMismatch
  | .replyResult => .resultPayloadIntegrityMismatch

def reasonFor (subject : PayloadIntegritySubject) (result request : PayloadIntegrityReason) : PayloadIntegrityReason :=
  if subject = .replyResult then result else request

def comparedReason (subject : PayloadIntegritySubject) (handle : MctCallPayloadHandle) (observedSize : Nat)
    (observedDigest : String) (maxInlineSizeBytes : Nat) : PayloadIntegrityReason :=
  if !isDigestText (declaredDigestHex handle) || !isDigestText observedDigest then .invalidPayloadDigest
  else if maxInlineSizeBytes < handle.declaredSizeBytes then
    reasonFor subject .resultPayloadTooLarge .payloadDeclaredTooLarge
  else if maxInlineSizeBytes < observedSize then reasonFor subject .resultPayloadTooLarge .payloadActualTooLarge
  else if handle.declaredSizeBytes ≠ observedSize then mismatchReason true subject
  else if declaredDigestHex handle ≠ observedDigest then mismatchReason false subject
  else .integrityMatched

def payloadIntegrityReason (subject : PayloadIntegritySubject) (handle : MctCallPayloadHandle)
    (observed : MctPayloadIntegrityObservation) (maxInlineSizeBytes : Nat) : PayloadIntegrityReason :=
  if !handleDeclaresObservedBytes handle observed then
    if observed.inlineBytesPresent then
      reasonFor subject .resultPayloadIntegrityMismatch .payloadUnexpectedInlineBytes
    else .integrityMatched
  else
    match observed.inlineBytesPresent, observed.observedSizeBytes, observed.observedBlake3DigestHex with
    | true, some size, some digest => comparedReason subject handle size digest maxInlineSizeBytes
    | _, _, _ =>
      reasonFor subject .resultPayloadIntegrityMismatch
        (if observed.contentAddressedBlobFetchAttempted then .payloadBlobUnavailable else .payloadMissingInlineBytes)

def payloadIntegritySafeMessage : PayloadIntegrityReason → String
  | .integrityMatched => "payload integrity verified"
  | .resultPayloadTooLarge => "result payload too large"
  | .resultPayloadIntegrityMismatch => "result payload integrity mismatch"
  | .payloadDeclaredTooLarge | .payloadActualTooLarge | .payloadSizeMismatch | .payloadDigestMismatch
  | .payloadMissingInlineBytes | .payloadUnexpectedInlineBytes | .invalidPayloadDigest => "malformed call payload"
  | .payloadBlobUnavailable => "payload blob unavailable"

def evaluatePayloadIntegrity (subject : PayloadIntegritySubject) (handle : MctCallPayloadHandle)
    (observed : MctPayloadIntegrityObservation) (maxInlineSizeBytes : Nat) : MctPayloadIntegrityDecision :=
  let reason := payloadIntegrityReason subject handle observed maxInlineSizeBytes
  ⟨subject, if reason = .integrityMatched then .matched else .mismatch, reason, payloadIntegritySafeMessage reason⟩

theorem comparedReason_matched {subject : PayloadIntegritySubject} {handle : MctCallPayloadHandle} {size bound : Nat}
    {digest : String} (h : comparedReason subject handle size digest bound = .integrityMatched) :
    size = handle.declaredSizeBytes ∧ digest = declaredDigestHex handle ∧ handle.declaredSizeBytes ≤ bound := by
  unfold comparedReason reasonFor mismatchReason at h
  cases subject <;> split_ifs at h <;> simp_all

/-- **A match**: either the handle declares no bytes that could be looked at and none came, or the bytes that came have
    the declared size and digest. -/
theorem evaluatePayloadIntegrity_matched {subject : PayloadIntegritySubject} {handle : MctCallPayloadHandle}
    {observed : MctPayloadIntegrityObservation} {bound : Nat}
    (h : (evaluatePayloadIntegrity subject handle observed bound).outcome = .matched) :
    (handleDeclaresObservedBytes handle observed = false ∧ observed.inlineBytesPresent = false) ∨
      (handleDeclaresObservedBytes handle observed = true ∧ observed.inlineBytesPresent = true ∧
        observed.observedSizeBytes = some handle.declaredSizeBytes ∧
        observed.observedBlake3DigestHex = some (declaredDigestHex handle) ∧ handle.declaredSizeBytes ≤ bound) := by
  have hreason : payloadIntegrityReason subject handle observed bound = .integrityMatched := by
    unfold evaluatePayloadIntegrity at h
    simp only at h
    split_ifs at h with hr
    exact hr
  unfold payloadIntegrityReason at hreason
  split at hreason
  · rename_i hnot
    split at hreason
    · exact absurd hreason (by cases subject <;> simp [reasonFor])
    · exact Or.inl ⟨by simpa using hnot, by simp_all⟩
  · rename_i hdec
    split at hreason
    · rename_i size digest hpres hsize hdigest
      obtain ⟨rfl, rfl, hbound⟩ := comparedReason_matched hreason
      exact Or.inr ⟨by simpa using hdec, hpres, hsize, hdigest, hbound⟩
    · exact absurd hreason (by cases subject <;> simp [reasonFor]; all_goals (split <;> simp))

/-! ## Requests -/

inductive ConnectionSide
  | incoming | outgoing
  deriving DecidableEq, Repr

inductive PathClass
  | direct | relayed | relayOnly | privacyTransport | unknown
  deriving DecidableEq, Repr

structure IrohConnectionPresentation where
  endpointId : EndpointIdText
  alpn : NonBlank
  connectionSide : ConnectionSide
  pathClass : PathClass
  relayUrl : Option NonBlank
  presentedCapabilityRef : Option String
  deriving DecidableEq, Repr

def IrohConnectionPresentation.validate (presentation : IrohConnectionPresentation) : Except MctKernelError Unit :=
  validateOptionalStringField "IrohConnectionPresentation" "presented_capability_ref"
    presentation.presentedCapabilityRef

structure MctCallProtocolAuthority where
  helloDecisionId : DecisionId
  peerBindingId : PeerBindingId
  visionId : VisionId
  acceptedAlpn : String
  endpointId : EndpointIdText
  policyRevision : Nat
  expectedReceiverGrantsAuthority : GrantsAuthorityIdentity
  deriving DecidableEq, Repr

structure MctCallProtocolRequest where
  protocolRequestId : ProtocolRequestId
  authority : MctCallProtocolAuthority
  receivedOver : IrohConnectionPresentation
  call : MctCall
  payload : MctCallPayloadHandle
  idempotencyKey : Option String
  receivedObservationId : ObservationId
  deriving DecidableEq, Repr

inductive CallRequestError
  | kernel (error : MctKernelError)
  | payloadSizeMismatch (callSizeBytes handleSizeBytes : Nat)
  deriving DecidableEq, Repr

def CallRequestError.text : CallRequestError → String
  | .kernel error => error.text
  | .payloadSizeMismatch callSizeBytes handleSizeBytes =>
    s!"MCT call payload metadata size {callSizeBytes} does not match payload handle size {handleSizeBytes}"

def GrantsAuthorityIdentity.validate (identity : GrantsAuthorityIdentity) : Except MctKernelError Unit := do
  ensureNonBlank "GrantsAuthorityIdentity" "mother_node_id" identity.motherNodeId
  ensureNonBlank "GrantsAuthorityIdentity" "authority_epoch" identity.authorityEpoch
  ensureNonBlank "GrantsAuthorityIdentity" "source_authority_observation_id" identity.sourceAuthorityObservationId

def MctCallProtocolAuthority.validate (authority : MctCallProtocolAuthority) : Except MctKernelError Unit := do
  ensureNonBlank "MctCallProtocolAuthority" "accepted_alpn" authority.acceptedAlpn
  authority.expectedReceiverGrantsAuthority.validate

def OperationTarget.validate (target : OperationTarget) : Except MctKernelError Unit := do
  ensureNonBlank "OperationTarget" "namespace" target.«namespace»
  ensureNonBlank "OperationTarget" "interface_name" target.interfaceName
  ensureNonBlank "OperationTarget" "function_name" target.functionName

def PayloadMetadata.validate (metadata : PayloadMetadata) : Except MctKernelError Unit :=
  ensureNonBlank "PayloadMetadata" "data_classification" metadata.dataClassification

/-- The caller and the trace context have nothing to validate beyond their types. -/
def MctCall.validate (call : MctCall) : Except MctKernelError Unit := do
  call.target.validate
  call.payloadMetadata.validate
  call.authorityContext.expectedReceiverGrantsAuthority.validate
  ensureNonBlank "MctCall" "deadline" call.deadline.value

def MctCallProtocolRequest.validate (request : MctCallProtocolRequest) : Except CallRequestError Unit := do
  mapErr .kernel request.authority.validate
  mapErr .kernel request.receivedOver.validate
  mapErr .kernel request.call.validate
  mapErr .kernel request.payload.validate
  mapErr .kernel (validateOptionalStringField "MctCallProtocolRequest" "idempotency_key" request.idempotencyKey)
  deny (request.payload.declaredSizeBytes ≠ request.call.payloadMetadata.sizeBytes)
    (.payloadSizeMismatch request.call.payloadMetadata.sizeBytes request.payload.declaredSizeBytes)

theorem ensureNonBlank_ok {record field v : String} {u : Unit} :
    ensureNonBlank record field v = .ok u ↔ trimmedEmpty v = false := by
  simp only [ensureNonBlank, bind_ok, exists_unit, deny_ok]
  constructor
  · rintro ⟨-, h⟩
    exact h
  · intro h
    refine ⟨?_, h⟩
    by_contra hempty
    rw [show v = "" by simpa using hempty] at h
    exact absurd h (by decide)

theorem OperationTarget.validate_ok {target : OperationTarget} {u : Unit} :
    target.validate = .ok u ↔ trimmedEmpty target.«namespace» = false ∧ trimmedEmpty target.interfaceName = false ∧
      trimmedEmpty target.functionName = false := by
  simp only [validate, bind_ok, exists_unit, ensureNonBlank_ok]

/-- The validator reads neither the caller nor the origin, and of the target only that its parts are not blank. -/
theorem MctCallProtocolRequest.validate_of_call {req : MctCallProtocolRequest} {u : Unit}
    (h : req.validate = .ok u) (caller : CallerIdentity) (origin : CallOrigin) {target : OperationTarget}
    (htarget : target.validate = .ok u) :
    ({ req with call := { req.call with caller, origin, target } } : MctCallProtocolRequest).validate =
      .ok u := by
  simp only [validate, MctCall.validate, bind_ok, exists_unit, mapErr_ok] at h ⊢
  obtain ⟨hauth, hover, ⟨-, hcall⟩, hrest⟩ := h
  exact ⟨hauth, hover, ⟨htarget, hcall⟩, hrest⟩

end Mct
