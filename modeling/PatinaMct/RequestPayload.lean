import PatinaMct.Ingress
/-!
# RequestPayload — the bytes a child runs on

Bytes that come with a peer's call are compared with the payload handle when the call is served; a local call's bytes,
or the blob its handle names, when the resident takes it.  The child is then given the JSON of the bytes, or the empty
list when there are none.  What is between (authority, routing, the run record) does not look at the payload.
-/
namespace Mct

open Checked

def mctInlinePayloadMaxBytes : Nat := 32 * 1024
def mctBlobMaxBytes : Nat := 8 * 1024 * 1024

/-! ## The blob store -/

inductive MctLocalBlobStoreError
  | invalidDigest | blobTooLarge | payloadBlobUnavailable | io
  deriving DecidableEq, Repr

inductive BlobFile
  | absent | unreadable | present (bytes : List UInt8)
  deriving DecidableEq, Repr

/-- `fetch`: a handle of another kind has no bytes in the store; of a file at most one byte over the bound is read. -/
def fetchBlob (store : String → BlobFile) : MctCallPayloadHandle → Except MctLocalBlobStoreError (List UInt8)
  | .contentAddressedBlob digest _ _ sizeBytes =>
    if !isDigestText digest then .error .invalidDigest
    else if mctBlobMaxBytes < sizeBytes then .error .blobTooLarge
    else
      match store digest with
      | .absent => .error .payloadBlobUnavailable
      | .unreadable => .error .io
      | .present bytes => if mctBlobMaxBytes < bytes.length then .error .blobTooLarge else .ok bytes
  | _ => .ok []

/-! ## Resolution -/

section Resolution

variable [KernelHost]

def observedInlinePayload (inlinePayload : Option (List UInt8)) : MctPayloadIntegrityObservation :=
  ⟨inlinePayload.isSome, false, inlinePayload.map List.length, inlinePayload.map KernelHost.blake3⟩

def observedLocalBlobPayload (bytes : List UInt8) : MctPayloadIntegrityObservation :=
  ⟨true, true, some bytes.length, some (KernelHost.blake3 bytes)⟩

def declaredPayloadDigest : MctCallPayloadHandle → Option String
  | .inlinePayload _ _ _ blake3DigestHex => some blake3DigestHex
  | .contentAddressedBlob digest _ _ _ => some digest
  | .externalReference .. | .empty => none

structure PayloadFailure where
  safeMessage : String
  decision : MctPayloadIntegrityDecision
  deriving DecidableEq, Repr

def residentPayloadResolutionFailure (reason : PayloadIntegrityReason) (safeMessage : String) : PayloadFailure :=
  ⟨safeMessage, ⟨.request, .mismatch, reason, safeMessage⟩⟩

def whenMatched (decision : MctPayloadIntegrityDecision) (bytes : Option (List UInt8)) :
    Except PayloadFailure (Option (List UInt8)) :=
  if decision.outcome = .matched then .ok bytes else .error ⟨decision.safeMessage, decision⟩

def observedFetch (handle : MctCallPayloadHandle) :
    Except MctLocalBlobStoreError (List UInt8) →
      Except PayloadFailure (MctPayloadIntegrityObservation × Option (List UInt8))
  | .ok bytes => .ok (observedLocalBlobPayload bytes, some bytes)
  | .error .payloadBlobUnavailable => .ok (.missingContentAddressedBlob, none)
  | .error .blobTooLarge => .ok (⟨true, true, some (mctBlobMaxBytes + 1), declaredPayloadDigest handle⟩, none)
  | .error _ => .error (residentPayloadResolutionFailure .payloadBlobUnavailable "blob store unavailable")

def resolveResidentRequestPayload (store : String → BlobFile) (request : MctCallProtocolRequest) :
    ResidentPayloadIngress → Except PayloadFailure (Option (List UInt8))
  | .remote inlinePayload => .ok inlinePayload
  | .local inlinePayload =>
    if !request.payload.isContentAddressedBlob then
      whenMatched (evaluatePayloadIntegrity .request request.payload (observedInlinePayload inlinePayload)
        mctInlinePayloadMaxBytes) inlinePayload
    else do
      let (observed, fetched) ← observedFetch request.payload (fetchBlob store request.payload)
      whenMatched (evaluatePayloadIntegrity .request request.payload observed mctBlobMaxBytes) fetched

/-- The check of the serving side: a peer's call reaches the handler only with a payload that matches. -/
def servedPayload (request : MctCallProtocolRequest) : ResidentPayloadIngress → Except PayloadFailure Unit
  | .local _ => .ok ()
  | .remote inlinePayload =>
    let decision := evaluatePayloadIntegrity .request request.payload (observedInlinePayload inlinePayload)
      mctInlinePayloadMaxBytes
    deny (decision.outcome ≠ .matched) ⟨decision.safeMessage, decision⟩

/-! ## The child -/

def inlinePayloadContentType : MctCallPayloadHandle → Option String
  | .inlinePayload _ contentType _ _ => some contentType
  | .contentAddressedBlob _ _ contentType _ => some contentType
  | .externalReference _ contentType _ => contentType
  | .empty => none

inductive ChildRefusal
  | payload (failure : PayloadFailure)
  | contentTypeUnsupported
  | arguments (error : String)
  deriving DecidableEq, Repr

variable {Json : Type}

structure ChildRun (Json : Type) where
  payload : Option (List UInt8)
  args : Json
  deriving DecidableEq, Repr

/-- What `execute_resident_wit_child` hands to the export, with `serde_json::from_slice` and `json!([])`. -/
def executeResidentWitChild (fromSlice : List UInt8 → Except String Json) (emptyArray : Json)
    (request : MctCallProtocolRequest) (inlinePayload : Option (List UInt8)) :
    Except ChildRefusal (ChildRun Json) := do
  deny ((inlinePayloadContentType request.payload).getD "application/json" ≠ "application/json")
    .contentTypeUnsupported
  match inlinePayload with
  | some bytes => do
    let args ← mapErr .arguments (fromSlice bytes)
    return ⟨some bytes, args⟩
  | none => return ⟨none, emptyArray⟩

/-- **From the ingress to the export.** -/
def runResidentChild (fromSlice : List UInt8 → Except String Json) (emptyArray : Json) (store : String → BlobFile)
    (request : MctCallProtocolRequest) (ingress : ResidentPayloadIngress) : Except ChildRefusal (ChildRun Json) := do
  mapErr .payload (servedPayload request ingress)
  let inlinePayload ← mapErr .payload (resolveResidentRequestPayload store request ingress)
  executeResidentWitChild fromSlice emptyArray request inlinePayload

/-! ## Declared payloads -/

structure Declares (handle : MctCallPayloadHandle) (bytes : List UInt8) : Prop where
  size : bytes.length = handle.declaredSizeBytes
  digest : declaredPayloadDigest handle = some (KernelHost.blake3 bytes)

/-- **The child runs on the declared payload**: on the JSON of bytes with the declared size and digest, and on the empty
    list for lack of bytes only if the payload is empty. -/
def RunsOnDeclared (fromSlice : List UInt8 → Except String Json) (emptyArray : Json) (handle : MctCallPayloadHandle)
    (run : ChildRun Json) : Prop :=
  (∃ bytes, run.payload = some bytes ∧ Declares handle bytes ∧ fromSlice bytes = .ok run.args) ∨
    (run.payload = none ∧ handle = .empty ∧ run.args = emptyArray)

def ResidentPayloadIngress.bytes : ResidentPayloadIngress → Option (List UInt8)
  | .local inlinePayload | .remote inlinePayload => inlinePayload

/-- The handle names bytes that nobody looks for on this way in. -/
def Unfetched : MctCallPayloadHandle → ResidentPayloadIngress → Prop
  | .externalReference .., _ => True
  | .contentAddressedBlob .., .remote _ => True
  | _, _ => False

/-- A payload that is not empty, without bytes, that the child would take as JSON. -/
structure SubstitutesEmpty (handle : MctCallPayloadHandle) (ingress : ResidentPayloadIngress) : Prop where
  unfetched : Unfetched handle ingress
  noBytes : ingress.bytes = none
  json : (inlinePayloadContentType handle).getD "application/json" = "application/json"

section Proofs

variable {fromSlice : List UInt8 → Except String Json} {emptyArray : Json} {store : String → BlobFile}
  {req : MctCallProtocolRequest} {ingress : ResidentPayloadIngress} {run : ChildRun Json}
  {handle : MctCallPayloadHandle} {bytes : List UInt8} {inlinePayload : Option (List UInt8)}

omit [KernelHost] in
theorem declaredPayloadDigest_of_blob (h : handle.isContentAddressedBlob = true) :
    declaredPayloadDigest handle = some (declaredDigestHex handle) := by
  cases handle <;> first | rfl | cases h

omit [KernelHost] in
theorem declaredPayloadDigest_of_inline (h : handle.isInlinePayload = true) :
    declaredPayloadDigest handle = some (declaredDigestHex handle) := by
  cases handle <;> first | rfl | cases h

omit [KernelHost] in
theorem whenMatched_ok {decision : MctPayloadIntegrityDecision} {resolved : Option (List UInt8)} :
    whenMatched decision inlinePayload = .ok resolved ↔ decision.outcome = .matched ∧ resolved = inlinePayload := by
  unfold whenMatched
  split <;> simp_all [eq_comm]

/-- **Inline bytes that match**: an inline payload has come with the bytes it declares, any other payload with none. -/
theorem inline_matched (h : (evaluatePayloadIntegrity .request handle (observedInlinePayload inlinePayload)
    mctInlinePayloadMaxBytes).outcome = .matched) :
    (∃ bytes, inlinePayload = some bytes ∧ Declares handle bytes) ∨
      (inlinePayload = none ∧ handle.isInlinePayload = false) := by
  obtain ⟨hdec, hpres⟩ | ⟨hdec, hpres, hsize, hdigest, -⟩ := evaluatePayloadIntegrity_matched h
  · refine Or.inr ⟨Option.not_isSome_iff_eq_none.mp (by simpa [observedInlinePayload] using hpres), ?_⟩
    simpa [handleDeclaresObservedBytes, observedInlinePayload] using hdec
  · obtain ⟨bytes, rfl⟩ := Option.isSome_iff_exists.mp hpres
    have hinline : handle.isInlinePayload = true := by
      simpa [handleDeclaresObservedBytes, observedInlinePayload] using hdec
    refine Or.inl ⟨bytes, rfl, Option.some.inj hsize, ?_⟩
    rw [declaredPayloadDigest_of_inline hinline]
    exact hdigest.symm

/-- **A fetched blob that matches** has the bytes it declares; a blob over the bound never matches. -/
theorem fetched_matched {observed : MctPayloadIntegrityObservation} {fetched : Option (List UInt8)}
    (hblob : handle.isContentAddressedBlob = true)
    (hobs : observedFetch handle (fetchBlob store handle) = .ok (observed, fetched))
    (h : (evaluatePayloadIntegrity .request handle observed mctBlobMaxBytes).outcome = .matched) :
    ∃ bytes, fetched = some bytes ∧ Declares handle bytes := by
  have hmatch := evaluatePayloadIntegrity_matched h
  unfold observedFetch at hobs
  split at hobs
  · rename_i bytes hfetch
    cases hobs
    obtain ⟨hdec, -⟩ | ⟨-, -, hsize, hdigest, -⟩ := hmatch
    · simp [handleDeclaresObservedBytes, observedLocalBlobPayload, hblob] at hdec
    · refine ⟨bytes, rfl, Option.some.inj hsize, ?_⟩
      rw [declaredPayloadDigest_of_blob hblob]
      exact hdigest.symm
  · cases hobs
    obtain ⟨hdec, -⟩ | ⟨-, hpres, -⟩ := hmatch
    · simp [handleDeclaresObservedBytes, MctPayloadIntegrityObservation.missingContentAddressedBlob, hblob]
        at hdec
    · cases hpres
  · cases hobs
    obtain ⟨hdec, -⟩ | ⟨-, -, hsize, -, hbound⟩ := hmatch
    · simp [handleDeclaresObservedBytes, hblob] at hdec
    · rw [← Option.some.inj hsize] at hbound
      exact absurd hbound (Nat.not_succ_le_self _)
  · cases hobs

/-- What the pipeline resolved: the declared bytes, or none for a payload that has none here. -/
theorem resolved_declared (hser : servedPayload req ingress = .ok ())
    (h : resolveResidentRequestPayload store req ingress = .ok inlinePayload) :
    (∃ bytes, inlinePayload = some bytes ∧ Declares req.payload bytes) ∨
      (inlinePayload = none ∧ ingress.bytes = none ∧ (req.payload = .empty ∨ Unfetched req.payload ingress)) := by
  -- a payload without bytes that is neither inline nor looked up in the store
  have hnone : req.payload.isInlinePayload = false →
      (req.payload.isContentAddressedBlob = true → ∃ bytes, ingress = .remote bytes) →
      req.payload = .empty ∨ Unfetched req.payload ingress := by
    intro hinline hblob
    cases hpayload : req.payload with
    | inlinePayload ref contentType size digest => simp [hpayload, MctCallPayloadHandle.isInlinePayload] at hinline
    | contentAddressedBlob digest ref contentType size =>
      obtain ⟨bytes, rfl⟩ := hblob (by rw [hpayload]; rfl)
      exact Or.inr trivial
    | externalReference ref contentType size => exact Or.inr trivial
    | empty => exact Or.inl rfl
  cases ingress with
  | remote received =>
    cases h
    simp only [servedPayload, deny_ok, decide_eq_false_iff_not, not_not] at hser
    obtain hbytes | ⟨rfl, hinline⟩ := inline_matched hser
    · exact Or.inl hbytes
    · exact Or.inr ⟨rfl, rfl, hnone hinline fun _ => ⟨none, rfl⟩⟩
  | «local» received =>
    unfold resolveResidentRequestPayload at h
    simp only at h
    split at h
    · rename_i hblob
      obtain ⟨hmatch, rfl⟩ := whenMatched_ok.mp h
      obtain hbytes | ⟨rfl, hinline⟩ := inline_matched hmatch
      · exact Or.inl hbytes
      · refine Or.inr ⟨rfl, rfl, hnone hinline fun hisB => ?_⟩
        rw [hisB] at hblob
        cases hblob
    · rename_i hblob
      obtain ⟨⟨observed, fetched⟩, hfetch, hmatch⟩ := bind_ok.mp h
      obtain ⟨hmatch, rfl⟩ := whenMatched_ok.mp hmatch
      exact Or.inl (fetched_matched (by simpa using hblob) hfetch hmatch)

omit [KernelHost] in
theorem executeResidentWitChild_ok :
    executeResidentWitChild fromSlice emptyArray req inlinePayload = .ok run ↔
      (inlinePayloadContentType req.payload).getD "application/json" = "application/json" ∧
        run.payload = inlinePayload ∧
        ((∃ bytes, inlinePayload = some bytes ∧ fromSlice bytes = .ok run.args) ∨
          (inlinePayload = none ∧ run.args = emptyArray)) := by
  unfold executeResidentWitChild
  rw [bind_ok]
  simp only [exists_unit, deny_ok, decide_eq_false_iff_not, not_not]
  cases inlinePayload with
  | none =>
    cases run
    simp [pure, Except.pure, eq_comm]
  | some bytes =>
    cases run
    simp only [bind_ok, mapErr_ok, pure_ok, ChildRun.mk.injEq]
    constructor
    · rintro ⟨htype, args, hargs, rfl, rfl⟩
      exact ⟨htype, rfl, Or.inl ⟨bytes, rfl, hargs⟩⟩
    · rintro ⟨htype, rfl, ⟨_, hbytes, hargs⟩ | ⟨hbytes, -⟩⟩
      · cases hbytes
        exact ⟨htype, _, hargs, rfl, rfl⟩
      · cases hbytes

theorem runResidentChild_of_substitutes (h : SubstitutesEmpty req.payload ingress) :
    runResidentChild fromSlice emptyArray store req ingress = .ok ⟨none, emptyArray⟩ := by
  obtain ⟨hunfetched, hbytes, hjson⟩ := h
  have hser : servedPayload req ingress = .ok () := by
    cases ingress with
    | «local» received => rfl
    | remote received =>
      cases hbytes
      cases hpayload : req.payload <;> simp only [hpayload, Unfetched] at hunfetched <;>
        (rw [servedPayload, hpayload]; rfl)
  have hres : resolveResidentRequestPayload store req ingress = .ok none := by
    cases ingress with
    | remote received => exact congrArg _ hbytes
    | «local» received =>
      cases hbytes
      cases hpayload : req.payload <;> simp only [hpayload, Unfetched] at hunfetched
      rw [resolveResidentRequestPayload, hpayload]
      rfl
  have hchild : executeResidentWitChild fromSlice emptyArray req none = .ok ⟨none, emptyArray⟩ :=
    executeResidentWitChild_ok.mpr ⟨hjson, rfl, Or.inr ⟨rfl, rfl⟩⟩
  unfold runResidentChild
  rw [hser, hres]
  exact hchild

end Proofs

/-- **A child runs on the payload its call declares, except where a payload that nobody looks for is taken for the empty
    one.** -/
theorem runs_on_declared_iff (fromSlice : List UInt8 → Except String Json) (emptyArray : Json)
    (store : String → BlobFile) (request : MctCallProtocolRequest) (ingress : ResidentPayloadIngress) :
    (∀ run, runResidentChild fromSlice emptyArray store request ingress = .ok run →
        RunsOnDeclared fromSlice emptyArray request.payload run) ↔
      ¬ SubstitutesEmpty request.payload ingress := by
  constructor
  · intro h hsub
    obtain ⟨bytes, hbytes, -⟩ | ⟨-, hempty, -⟩ := h _ (runResidentChild_of_substitutes hsub)
    · cases hbytes
    · have hunfetched := hsub.unfetched
      rw [hempty] at hunfetched
      exact hunfetched
  · intro hnot run hrun
    simp only [runResidentChild, bind_ok, exists_unit, mapErr_ok] at hrun
    obtain ⟨hser, inlinePayload, hres, hchild⟩ := hrun
    obtain ⟨htype, hpayload, hargs⟩ := executeResidentWitChild_ok.mp hchild
    obtain ⟨bytes, rfl, hdec⟩ | ⟨rfl, hbytes, hempty | hunfetched⟩ := resolved_declared hser hres
    · obtain ⟨_, hsome, hjson⟩ | ⟨hnone, -⟩ := hargs
      · cases hsome
        exact Or.inl ⟨bytes, hpayload, hdec, hjson⟩
      · cases hnone
    · obtain ⟨_, hsome, -⟩ | ⟨-, hargs⟩ := hargs
      · cases hsome
      · exact Or.inr ⟨hpayload, hempty, hargs⟩
    · exact absurd ⟨hunfetched, hbytes, htype⟩ hnot

end Resolution

namespace IngressSample

open Recovery.Sample (host)

def external : MctCallProtocolRequest :=
  let request := submitted ⟨"demo", "api", "run"⟩
  { request with
    payload := .externalReference "bucket/args.json" none 4096
    call := { request.call with payloadMetadata := ⟨"public", 4096, false⟩ } }

def peerBlob : MctCallProtocolRequest :=
  let request := submitted ⟨"demo", "api", "run"⟩
  { request with
    payload := .contentAddressedBlob "a3" "blake3:a3" "application/json" 4096
    call := { request.call with
      origin := .iroh
      caller := ⟨identity.nodeId, none, identity.visionId, none⟩
      payloadMetadata := ⟨"public", 4096, false⟩ } }

/-- **Two calls with a payload of 4096 bytes run the child with no arguments.** -/
theorem child_runs_without_payload :
    (external.validate = .ok () ∧ peerBlob.validate = .ok ()) ∧
    (@runResidentChild host String (fun _ => .error "no JSON") "[]" (fun _ => .absent) external (.local none) =
        .ok ⟨none, "[]"⟩ ∧ external.payload ≠ .empty) ∧
    @runResidentChild host String (fun _ => .error "no JSON") "[]" (fun _ => .absent) peerBlob (.remote none) =
        .ok ⟨none, "[]"⟩ ∧ peerBlob.payload ≠ .empty := by
  refine ⟨⟨by decide +kernel, by decide +kernel⟩, ⟨?_, by decide⟩, ?_, by decide⟩
  · exact @runResidentChild_of_substitutes host _ _ _ _ _ _ ⟨trivial, rfl, rfl⟩
  · exact @runResidentChild_of_substitutes host _ _ _ _ _ _ ⟨trivial, rfl, rfl⟩

end IngressSample

end Mct
