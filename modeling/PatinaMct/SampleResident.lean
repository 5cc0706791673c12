import PatinaMct.KeyedAlone
import PatinaMct.SettlementConfluence
/-!
# SampleResident — a concrete host for the handlers of calls

A host that hashes with BLAKE3 and writes the texts of the handlers as `serde_json` does; requests on it, and a ledger
writer that they start from.
-/
namespace Mct.ResidentSample

open Checked
open Sample (jsonString jsonOption jsonObject jsonArray jsonNat jsonMember commas text bytes Spelled)
open DispatchSample (eventJson eventCodec_lawful fits_of_length steadyIo)
open IngressSample (plain plainContext)
open Recovery.Sample (second)

/-! ## Claims -/

def textsJson (texts : List String) : List UInt8 := bytes (jsonArray (texts.map jsonString))

/-- A call under the key of the plain one, for another operation. -/
def other : MctCallProtocolRequest :=
  { plain with call := { plain.call with target := ⟨"demo", "api", "stop"⟩ } }

def claimOf (request : MctCallProtocolRequest) (n : Nat) : CallDispatchClaimV1 where
  keyDigest := Blake3.hash
    (textsJson ["mct-dispatch-key/v1", residentIdempotencyCallerScope request plainContext, "key"])
  fingerprintDigest := Blake3.hash (textsJson ["mct-dispatch-fingerprint/v1",
    operationIdFromTarget request.call.target, request.call.callId.value, "empty"])
  acceptedAt := second n
  expiresAt := second (n + 720)

def identityJson (identity : GrantsAuthorityIdentity) : List Char := jsonObject
  [("authority_epoch", jsonString identity.authorityEpoch), ("generation", jsonNat identity.generation),
    ("mother_node_id", jsonString identity.motherNodeId),
    ("source_authority_observation_id", jsonString identity.sourceAuthorityObservationId)]

def retryDirectiveText : CallProtocolRetryDirective → String
  | .none => "none"
  | .refreshHello => "refresh_hello"
  | .retryLater => "retry_later"

@[reducible] noncomputable def host : ResidentHost :=
  { DispatchSample.dispatchHost, SettlementSample.host with
    blake3 := Blake3.hash
    digestJson := textsJson
    peerCorrelationJson := fun callId bindingId nodeId visionId => text (jsonObject
      [("caller_call_id", jsonString callId.value), ("caller_node_id", jsonString nodeId.value),
        ("caller_vision_id", jsonString visionId.value), ("peer_binding_id", jsonString bindingId.value)])
    callerCorrelationJson := fun callId => text (jsonObject [("caller_call_id", jsonString callId.value)])
    receiverEchoJson := fun semantic protocol current directive => text (jsonObject
      [("current_receiver", jsonOption identityJson current), ("expected_protocol", identityJson protocol),
        ("expected_semantic", identityJson semantic), ("retry_directive", jsonString (retryDirectiveText directive))]) }

noncomputable scoped instance : ResidentHost := host

/-! ## Times -/

def seconds : List Nat := [0, 60, 90, 720, 780, 810, 1440]

theorem parse_second {n : Nat} (hn : n ∈ seconds) :
    KernelHost.parseTimestamp (second n).value = .ok (second n).epochNanoseconds := by
  revert n
  decide +kernel

theorem isDigestText_hash (bs : List UInt8) : isDigestText (Blake3.hash bs) = true := by
  have hdigit : ∀ n < 16, (Nat.digitChar n).utf8Size = 1 ∧ isLowerHex (Nat.digitChar n) = true := by decide
  have hchar : ∀ c ∈ (Blake3.hash bs).toList, c.utf8Size = 1 ∧ isLowerHex c = true := by
    intro c hc
    obtain ⟨n, hn, rfl⟩ := Blake3.hash_digits bs c hc
    exact hdigit n hn
  have hsize : ∀ cs : List Char, (∀ c ∈ cs, c.utf8Size = 1 ∧ isLowerHex c = true) →
      (String.ofList cs).utf8ByteSize = cs.length := by
    intro cs
    induction cs with
    | nil => exact fun _ => rfl
    | cons c cs ih =>
      intro h
      rw [List.forall_mem_cons] at h
      have hcons : (String.ofList (c :: cs)).utf8ByteSize = c.utf8Size + (String.ofList cs).utf8ByteSize := by simp
      rw [hcons, h.1.1, ih h.2, List.length_cons, Nat.add_comm]
  have hbytes := hsize _ hchar
  rw [String.ofList_toList, Blake3.hash_length] at hbytes
  rw [isDigestText, hbytes, Bool.and_eq_true, List.all_eq_true]
  exact ⟨rfl, fun c hc => (hchar c hc).2⟩

theorem events_lawful : EventRoundTrip := eventCodec_lawful

/-! ## Sizes -/

theorem jsonString_hash_length (bs : List UInt8) : (jsonString (Blake3.hash bs)).length = 66 := by
  have hdigit : ∀ n < 16, (Sample.escape (Nat.digitChar n)).length = 1 := by decide
  have hone : ∀ c ∈ (Blake3.hash bs).toList, (Sample.escape c).length = 1 := by
    intro c hc
    obtain ⟨n, hn, rfl⟩ := Blake3.hash_digits bs c hc
    exact hdigit n hn
  have hsum : ((Blake3.hash bs).toList.map fun c => (Sample.escape c).length).sum = 64 := by
    rw [List.map_congr_left hone, List.map_const', List.sum_replicate, Blake3.hash_length]
    rfl
  simp only [jsonString, List.length_cons, List.length_append, List.length_flatMap, hsum, List.length_nil]

theorem times_written : ∀ n ∈ seconds, Spelled (second n) ∧ (jsonString (second n).value).length ≤ 22 := by
  decide +kernel

theorem number_written : ∀ n < 10, (jsonNat n).length = 1 := by decide

theorem reserved_fits (request : MctCallProtocolRequest) {n sequence : Nat} (hn : n ∈ seconds)
    (hexpires : n + 720 ∈ seconds) (hsequence : sequence < 10) :
    DispatchEvent.Small (.reserved ⟨claimOf request n, sequence⟩) := by
  obtain ⟨hspelled, haccepted⟩ := times_written n hn
  obtain ⟨hspelled', hexpires⟩ := times_written (n + 720) hexpires
  have hevent : DispatchSample.SpelledEvent (.reserved ⟨claimOf request n, sequence⟩) := ⟨hspelled, hspelled'⟩
  refine fits_of_length hevent ?_
  have hkey : (jsonString (claimOf request n).keyDigest).length = 66 := jsonString_hash_length _
  have hprint : (jsonString (claimOf request n).fingerprintDigest).length = 66 := jsonString_hash_length _
  have haccepted : (jsonString (claimOf request n).acceptedAt.value).length ≤ 22 := haccepted
  have hexpires : (jsonString (claimOf request n).expiresAt.value).length ≤ 22 := hexpires
  have hnames : (jsonString "kind").length = 6 ∧ (jsonString "reserved").length = 10 ∧
      (jsonString "reservation").length = 13 ∧ (jsonString "claim").length = 7 ∧
      (jsonString "attempt_sequence").length = 18 ∧ (jsonString "key_digest").length = 12 ∧
      (jsonString "fingerprint_digest").length = 20 ∧ (jsonString "accepted_at").length = 13 ∧
      (jsonString "expires_at").length = 12 := by decide
  simp only [eventJson, DispatchSample.eventMembers, DispatchSample.reservationMembers, DispatchSample.claimMembers,
    jsonObject, jsonMember, List.map_cons, List.map_nil, commas, List.length_cons, List.length_append, List.length_nil,
    hnames, hkey, hprint, number_written sequence hsequence]
  omega

theorem released_fits (request : MctCallProtocolRequest) (n : Nat) {sequence : Nat} (hsequence : sequence < 10) :
    DispatchEvent.Small (.released (claimOf request n).keyDigest sequence) := by
  have hevent : DispatchSample.SpelledEvent (.released (claimOf request n).keyDigest sequence) := trivial
  refine fits_of_length hevent ?_
  have hkey : (jsonString (claimOf request n).keyDigest).length = 66 := jsonString_hash_length _
  have hnames : (jsonString "kind").length = 6 ∧ (jsonString "released").length = 10 ∧
      (jsonString "key_digest").length = 12 ∧ (jsonString "attempt_sequence").length = 18 := by decide
  simp only [eventJson, DispatchSample.eventMembers, jsonObject, jsonMember, List.map_cons, List.map_nil, commas,
    List.length_cons, List.length_append, List.length_nil, hnames, hkey, number_written sequence hsequence]
  omega

/-! ## Requests -/

noncomputable def requestAt (request : MctCallProtocolRequest) (n : Nat) (hn : n ∈ seconds)
    (execute : RunProg MctIrohCallHandlerResult) : KeyedRequest where
  request := request
  now := second n
  context := plainContext
  executionCallId := none
  execute := execute
  read := parse_second hn

theorem expiry_second (n : Nat) : (second n).epochNanoseconds + mctIdempotencyTtlSeconds * 1000000000 =
    (second (n + 720)).epochNanoseconds := by
  simp only [second, mctIdempotencyTtlSeconds]
  push_cast
  ring

theorem display_second (n : Nat) : KernelHost.displayTimestamp (second n).epochNanoseconds = (second n).value := by
  have hquotient : ((second n).epochNanoseconds / 1000000000).toNat = 1794700800 + n := by
    simp only [second]
    omega
  show Recovery.Sample.rfc3339 ((second n).epochNanoseconds / 1000000000).toNat = _
  rw [hquotient]
  rfl

theorem expiryRead {n : Nat} (hn : n + 720 ∈ seconds) : (second n).ExpiryRead := by
  unfold Timestamp.ExpiryRead
  rw [expiry_second, display_second]
  exact parse_second hn

theorem plain_ingress : KeyedIngress plain plainContext := ⟨by decide +kernel, by decide +kernel, by decide +kernel⟩

theorem other_ingress : KeyedIngress other plainContext := ⟨by decide +kernel, by decide +kernel, by decide +kernel⟩

noncomputable def keyedAt (request : MctCallProtocolRequest) (n : Nat) : KeyedCall :=
  keyedCall request (second n) (second (n + 720)) plainContext none "key"

theorem expiry_at {n : Nat} (hn : n ∈ seconds) (hexpires : n + 720 ∈ seconds)
    (hbound : (second (n + 720)).epochNanoseconds ≤ maxTimestamp) :
    idempotencyExpiry (second n) = .ok (second (n + 720)) := by
  have hsmall : decide (maxTimestamp < (second (n + 720)).epochNanoseconds) = false := by simpa using hbound
  unfold idempotencyExpiry
  rw [parse_second hn, ok_bind]
  simp only
  rw [expiry_second, display_second, Timestamp.new, parse_second hexpires, hsmall]
  rfl

theorem keyed_requestAt {req : MctCallProtocolRequest} (hkey : req.idempotencyKey = some "key") {n : Nat}
    (hn : n ∈ seconds) (hexpires : n + 720 ∈ seconds)
    (hbound : (second (n + 720)).epochNanoseconds ≤ maxTimestamp) (run : RunProg MctIrohCallHandlerResult) :
    (requestAt req n hn run).keyed = some (keyedAt req n) := by
  have hexpiry : idempotencyExpiry (requestAt req n hn run).now = .ok (second (n + 720)) :=
    expiry_at hn hexpires hbound
  have hkey' : (requestAt req n hn run).request.idempotencyKey = some "key" := hkey
  unfold KeyedRequest.keyed
  rw [hkey', hexpiry]
  rfl

theorem proper_at {req : MctCallProtocolRequest} (hingress : KeyedIngress req plainContext)
    (hkey : req.idempotencyKey = some "key") {n : Nat} (hn : n ∈ seconds) (hexpires : n + 720 ∈ seconds)
    (hbound : (second (n + 720)).epochNanoseconds ≤ maxTimestamp) (run : RunProg MctIrohCallHandlerResult) :
    (requestAt req n hn run).Proper (keyedAt req n) :=
  KeyedRequest.proper_of_ingress isDigestText_hash hingress (keyed_requestAt hkey hn hexpires hbound run)
    (expiryRead hexpires)

theorem claim_plain (n : Nat) : (keyedAt plain n).claim = claimOf plain n := rfl

theorem keyDigest_at (req : MctCallProtocolRequest) (n : Nat) : (keyedAt req n).claim.keyDigest =
    Blake3.hash (textsJson ["mct-dispatch-key/v1", residentIdempotencyCallerScope req plainContext, "key"]) := rfl

/-! ## A start -/

def silent : (question : Question) → question.Reply
  | .nonce | .receiverIdentity | .maxCallHorizonSeconds | .watchScopes => .error ""
  | .authorize _ => .error ""
  | .blobs => fun _ => .absent
  | .effectSnapshot _ => .unavailable
  | .childDenial _ | .effectDenial _ => none
  | .prepareChild _ _ => .failed ""
  | .invokeChild _ _ => .error ""
  | .deliverCallOuts _ _ _ => ⟨[], .ok ()⟩
  | .revalidate _ => .unavailable
  | .forward _ _ => ⟨[], .runtimeUnavailable⟩

def calm (n : Nat) : World := ⟨second n, steadyIo, none, silent⟩

theorem calm_steady (n : Nat) : (calm n).Steady := ⟨⟨fun _ => rfl, fun _ => rfl⟩, rfl⟩

noncomputable def ledger : LedgerLog := DispatchSample.start.log

theorem ledger_ready {room : Nat} (h : room ≤ 2 ^ 63) : ledger.Ready room :=
  ⟨rfl, Nat.one_pos, rfl, rfl, by show 1 + room ≤ 2 ^ 64; omega⟩

def noTables : CallTables := ⟨[], [], List.nodup_nil, List.nodup_nil⟩

end Mct.ResidentSample
