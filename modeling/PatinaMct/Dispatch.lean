import PatinaMct.Writer
/-!
# Dispatch — the retry fence of keyed calls

A keyed call is reserved in the ledger before it may run.  The writer keeps an index of the reservations, by the digest
of the caller's scope and key; `check` forgets the expired ones as it goes, `process` appends a reservation or a
release, and a restart rebuilds the index from the entries alone (`rebuildIndex`).
-/
namespace Mct

open Checked

/-! ## Records -/

def mctIdempotencyTtlSeconds : Int := 12 * 60

structure CallDispatchClaimV1 where
  keyDigest : String
  fingerprintDigest : String
  acceptedAt : Timestamp
  expiresAt : Timestamp
  deriving DecidableEq, BEq, ReflBEq, Repr

structure CallDispatchReservationV1 where
  claim : CallDispatchClaimV1
  attemptSequence : Nat
  deriving DecidableEq, BEq, ReflBEq, Repr

inductive CallDispatchCheckV1
  | fresh | existing | fingerprintMismatch
  deriving DecidableEq, Repr

inductive DispatchEvent
  | reserved (reservation : CallDispatchReservationV1)
  | released (keyDigest : String) (attemptSequence : Nat)
  deriving DecidableEq, Repr

class DispatchHost extends LedgerHost where
  dispatchEvent : Codec DispatchEvent String

variable [DispatchHost]

def CallDispatchClaimV1.validate (claim : CallDispatchClaimV1) : Except String Unit := do
  deny (!(isDigestText claim.keyDigest && isDigestText claim.fingerprintDigest)) "invalid dispatch digest"
  let accepted ← KernelHost.parseTimestamp claim.acceptedAt.value
  let expires ← KernelHost.parseTimestamp claim.expiresAt.value
  let lifetime := accepted + mctIdempotencyTtlSeconds * 1000000000
  deny (decide (maxTimestamp < lifetime)) "timestamp overflow"
  deny (expires ≠ lifetime) "invalid dispatch lifetime"

/-! ## The index -/

structure CallDispatchIndexV1 where
  reservations : TextMap CallDispatchReservationV1

namespace CallDispatchIndexV1

def empty : CallDispatchIndexV1 := ⟨∅⟩

def live (now : Int) (record : CallDispatchReservationV1) : Bool :=
  match KernelHost.parseTimestamp record.claim.expiresAt.value with
  | .ok expiry => decide (now < expiry)
  | .error _ => false

variable (index : CallDispatchIndexV1)

def retainAfter (now : Int) : CallDispatchIndexV1 :=
  ⟨index.reservations.filter fun _ record => live now record⟩

def answer (claim : CallDispatchClaimV1) : CallDispatchCheckV1 :=
  match index.reservations[claim.keyDigest]? with
  | none => .fresh
  | some record =>
    if record.claim.fingerprintDigest = claim.fingerprintDigest then .existing else .fingerprintMismatch

def check (claim : CallDispatchClaimV1) :
    Except String CallDispatchCheckV1 × CallDispatchIndexV1 :=
  match claim.validate with
  | .error error => (.error error, index)
  | .ok () =>
    match KernelHost.parseTimestamp claim.acceptedAt.value with
    | .error error => (.error error, index)
    | .ok now =>
      let index := index.retainAfter now
      (.ok (index.answer claim), index)

def contains (reservation : CallDispatchReservationV1) : Bool :=
  index.reservations[reservation.claim.keyDigest]? == some reservation

end CallDispatchIndexV1

/-! ## Events in entries -/

def dispatchDetailStart : String := "mct-call-dispatch-v1:"

/-- The envelope that carries an event, and the word for it in the observation id. -/
def checkDispatchEnvelope (entry : MctObservationLedgerEntry) : DispatchEvent → Except String String
  | .reserved reservation => do
    reservation.claim.validate
    deny (!(reservation.attemptSequence == entry.localSequence &&
        entry.observation.observedAt == reservation.claim.acceptedAt && entry.observation.kind == .callConstructed &&
        entry.observation.outcome == .started))
      "invalid dispatch reservation envelope"
    return "reserved"
  | .released keyDigest attemptSequence => do
    deny (!(isDigestText keyDigest && decide (0 < attemptSequence) && decide (attemptSequence < entry.localSequence) &&
        entry.observation.kind == .callDenied && entry.observation.outcome == .denied))
      "invalid dispatch release envelope"
    return "released"

def decodeEvent (entry : MctObservationLedgerEntry) : Except String (Option DispatchEvent) :=
  match entry.observation.detailRef with
  | none => .ok none
  | some detail =>
    if startsWith detail "mct-call-dispatch-" then do
      let json ← okOr (stripStart detail dispatchDetailStart) "unknown dispatch schema"
      deny (decide (4096 < json.utf8ByteSize)) "dispatch fact too large"
      let event ← mapErr (fun _ => "malformed dispatch fact") (DispatchHost.dispatchEvent.decode json)
      deny (!(decide (entry.durabilityClass = .beforeEffect) && entry.observation.sourcePlane == .kernel &&
          entry.observation.visibility == .internalOnly && entry.observation.callId.isSome))
        "invalid dispatch observation envelope"
      let action ← checkDispatchEnvelope entry event
      deny (!(decide (0 < entry.localSequence) && entry.observation.observationId.value ==
          "obs:dispatch-" ++ action ++ ":" ++ toString entry.localSequence))
        "invalid dispatch observation identity"
      return some event
    else .ok none

def CallDispatchIndexV1.apply (index : CallDispatchIndexV1) : DispatchEvent → Except String CallDispatchIndexV1
  | .reserved reservation => do
    match index.reservations[reservation.claim.keyDigest]? with
    | none => pure ()
    | some prior =>
      let expires ← KernelHost.parseTimestamp prior.claim.expiresAt.value
      let accepted ← KernelHost.parseTimestamp reservation.claim.acceptedAt.value
      deny (decide (accepted < expires)) "overlapping dispatch reservations"
    return ⟨index.reservations.insert reservation.claim.keyDigest reservation⟩
  | .released keyDigest attemptSequence => do
    deny (!(index.reservations[keyDigest]?).any fun record => record.attemptSequence == attemptSequence)
      "dispatch release does not name the current attempt"
    return ⟨index.reservations.erase keyDigest⟩

def CallDispatchIndexV1.replayEntry (index : CallDispatchIndexV1) (entry : MctObservationLedgerEntry) :
    Except String CallDispatchIndexV1 := do
  match ← decodeEvent entry with
  | none => return index
  | some event => index.apply event

def rebuildIndex (entries : List MctObservationLedgerEntry) : Except String CallDispatchIndexV1 :=
  entries.foldlM CallDispatchIndexV1.replayEntry .empty

/-! ## The observations of the writer -/

/-- An event as an observation: what the template keeps is its trace and its ids. -/
def dispatchObservation (template : MctObservation) (action : String) (sequence : Nat) (kind : ObservationKind)
    (outcome : ObservationOutcome) (message : String) (event : DispatchEvent) : MctObservation :=
  { template with
    observationId := .tagged _ "obs:dispatch-" (action ++ ":" ++ toString sequence) (by decide)
    kind := kind
    outcome := outcome
    sourcePlane := .kernel
    visibility := .internalOnly
    safeMessage := message
    detailRef := some (dispatchDetailStart ++ DispatchHost.dispatchEvent.encode event) }

def dispatchReservationObservation (template : MctObservation) (claim : CallDispatchClaimV1) (sequence : Nat) :
    Except String (MctObservation × CallDispatchReservationV1) := do
  claim.validate
  deny (!(template.callId.isSome && decide (0 < sequence))) "invalid dispatch reservation template"
  return ({ dispatchObservation template "reserved" sequence .callConstructed .started
      "keyed dispatch reserved; execution may follow" (.reserved ⟨claim, sequence⟩) with
    observedAt := claim.acceptedAt }, ⟨claim, sequence⟩)

def dispatchReleaseObservation (template : MctObservation) (reservation : CallDispatchReservationV1) (sequence : Nat) :
    Except String MctObservation := do
  deny (!(template.callId.isSome && decide (0 < reservation.attemptSequence) &&
      decide (reservation.attemptSequence < sequence)))
    "invalid dispatch release template"
  return dispatchObservation template "released" sequence .callDenied .denied "keyed dispatch released before effect"
    (.released reservation.claim.keyDigest reservation.attemptSequence)

/-! ## The writer -/

inductive DispatchOperation
  | reserve (claim : CallDispatchClaimV1) (observation : MctObservation)
  | release (reservation : CallDispatchReservationV1) (observation : MctObservation)

inductive DispatchResponse
  | reserved (reservation : CallDispatchReservationV1)
  | existing
  | fingerprintMismatch
  | released

/-- What an operation does before it appends: it answers at once, or it has an observation to append. -/
inductive DispatchPlan
  | answer (response : DispatchResponse)
  | append (observation : MctObservation) (response : DispatchResponse)

/-- The first half of `process_dispatch`, at the sequence of the next entry. -/
def planDispatch (index : CallDispatchIndexV1) (sequence : Nat) :
    DispatchOperation → Except String DispatchPlan × CallDispatchIndexV1
  | .reserve claim template =>
    match index.check claim with
    | (.error error, index) => (.error error, index)
    | (.ok .existing, index) => (.ok (.answer .existing), index)
    | (.ok .fingerprintMismatch, index) => (.ok (.answer .fingerprintMismatch), index)
    | (.ok .fresh, index) =>
      ((dispatchReservationObservation template claim sequence).map fun made => .append made.1 (.reserved made.2), index)
  | .release reservation template =>
    -- a late release cannot remove a newer attempt
    if index.contains reservation then
      ((dispatchReleaseObservation template reservation sequence).map fun made => .append made .released, index)
    else (.ok (.answer .released), index)

/-- **The resident writer**: its log, its index and the entries of its ledger. -/
structure DispatchWriter where
  log : LedgerLog
  index : CallDispatchIndexV1
  entries : List MctObservationLedgerEntry

def DispatchWriter.nextSequence (writer : DispatchWriter) : Except String Nat := do
  let head ← mapErr appendErrorText writer.log.verifiedHead
  okOr (checkedAdd head.localSequence 1) "dispatch sequence overflow"

def DispatchWriter.process (writer : DispatchWriter) (operation : DispatchOperation) (appendedAt : String) (io : Io) :
    Except String DispatchResponse × DispatchWriter :=
  match writer.nextSequence with
  | .error error => (.error error, writer)
  | .ok sequence =>
    match planDispatch writer.index sequence operation with
    | (.error error, index) => (.error error, { writer with index := index })
    | (.ok (.answer response), index) => (.ok response, { writer with index := index })
    | (.ok (.append observation response), index) =>
      match writer.log.appendDurableBatch [observation] appendedAt .beforeEffect .notRequired io with
      | (.error error, log) => (.error (appendErrorText error), { writer with log := log, index := index })
      | (.ok appended, log) =>
        match appended.foldlM CallDispatchIndexV1.replayEntry index with
        | .error error => (.error error, ⟨log, index, writer.entries ++ appended⟩)
        | .ok index => (.ok response, ⟨log, index, writer.entries ++ appended⟩)

end Mct
