import PatinaMct.KeyedAlone
/-!
# Forwarding — a keyed call that goes on to another Mother

The origin rebuilds the request for the wire: the caller becomes the origin's node, and the key is copied.  The receiver
scopes keys by the peer binding alone, so what the origin kept apart by its own scopes meets there under one scope.  One
forwarded call leaves the answer to another one as it is exactly if their keys differ and the rows of the binding are not
used up (`forwarded_undisturbed_iff`).
-/
namespace Mct

open Checked

/-! ## The forwarded request -/

structure MctPeerAddressBookEntry where
  peerNodeId : MctNodeId
  visionId : VisionId
  deriving DecidableEq, Repr

structure MctOutboundPeerBindingPresentation where
  bindingId : PeerBindingId
  policyRevision : Nat
  signatureRef : String
  expiresAt : Timestamp
  deriving DecidableEq, Repr

structure MctHelloResponse where
  decisionId : DecisionId
  receivingGrantsAuthority : Option GrantsAuthorityIdentity
  deriving DecidableEq, Repr

section Request

variable [KernelHost]

def inlineResultPayloadHandle (reference contentType : String) (bytes : List UInt8) : MctCallPayloadHandle :=
  .inlinePayload reference contentType bytes.length (KernelHost.blake3 bytes)

def forwardedRequestPayloadHandle (original : MctCallPayloadHandle) (callId : CallId) :
    Option (List UInt8) → MctCallPayloadHandle
  | some bytes =>
    inlineResultPayloadHandle ("payload-forwarded:" ++ callId.value)
      ((inlinePayloadContentType original).getD "application/octet-stream") bytes
  | none => original

/-- **`resident_forwarded_call_request`**; without the receiver's identity in the hello the source panics. -/
def residentForwardedCallRequest (original : MctCallProtocolRequest) (localIdentity : MctLocalNodeIdentity)
    (peer : MctPeerAddressBookEntry) (outboundBinding : MctOutboundPeerBindingPresentation) (endpointId : EndpointIdText)
    (hello : MctHelloResponse) (inlinePayload : Option (List UInt8)) : Option MctCallProtocolRequest := do
  let expected ← hello.receivingGrantsAuthority
  let call : MctCall := { original.call with
    caller := ⟨localIdentity.nodeId, none, peer.visionId, original.call.caller.projectId⟩
    origin := .iroh
    authorityContext := { original.call.authorityContext with
      policyRevision := outboundBinding.policyRevision
      expectedReceiverGrantsAuthority := expected } }
  return {
    protocolRequestId := .prefixed "proto-forwarded:" (by decide) call.callId
    authority :=
      { helloDecisionId := hello.decisionId
        peerBindingId := outboundBinding.bindingId
        visionId := peer.visionId
        acceptedAlpn := mctCallAlpn
        endpointId := endpointId
        policyRevision := outboundBinding.policyRevision
        expectedReceiverGrantsAuthority := expected }
    receivedOver := ⟨endpointId, ⟨mctCallAlpn, by decide⟩, .outgoing, .direct, none, none⟩
    call := call
    payload := forwardedRequestPayloadHandle original.payload call.callId inlinePayload
    idempotencyKey := original.idempotencyKey
    receivedObservationId := .prefixed "obs-call-forwarded:" (by decide) original.call.callId }

variable {original forwarded : MctCallProtocolRequest} {lid : MctLocalNodeIdentity}
  {peer : MctPeerAddressBookEntry} {outboundBinding : MctOutboundPeerBindingPresentation} {endpointId : EndpointIdText}
  {hello : MctHelloResponse} {inlinePayload : Option (List UInt8)}

/-- **What the receiver makes of a forwarded call**: a call of the peer binding, under the key of the original. -/
theorem forwarded_received
    (h : residentForwardedCallRequest original lid peer outboundBinding endpointId hello inlinePayload =
      some forwarded) :
    ResidentCallIngressContext.ofPeer forwarded = some (.peer outboundBinding.bindingId) ∧
      forwarded.idempotencyKey = original.idempotencyKey ∧ forwarded.call.callId = original.call.callId ∧
      forwarded.call.target = original.call.target := by
  obtain ⟨expected, -, hreq⟩ := Option.bind_eq_some_iff.mp h
  obtain rfl := Option.some.inj hreq
  exact ⟨rfl, rfl, rfl, rfl⟩

end Request

/-! ## One row more or less -/

namespace CallTables

variable {tb : CallTables} {scope key : String} {fp : MctIdempotencyFingerprint} {now exp : Timestamp}
  {row : CallIdempotencyEntry}

def without (tables : CallTables) (row : CallIdempotencyEntry) : CallTables :=
  { tables with
    entries := tables.entries.filter fun other => other ≠ row
    entryKeys := tables.entryKeys.sublist (List.filter_sublist.map _) }

def answer (tables : CallTables) (scope key : String) (fingerprint : MctIdempotencyFingerprint) (now expiresAt : Timestamp) :
    Except String MctIdempotencyReservation := (tables.reserve scope key fingerprint now expiresAt).map Prod.fst

def stored (tables : CallTables) (scope key : String) (now : Timestamp) : Option CallIdempotencyEntry :=
  (tables.unexpired now).find? fun row => row.primaryKey == (scope, key)

def held (tables : CallTables) (scope : String) (now : Timestamp) : Nat :=
  (tables.unexpired now).countP fun row => row.callerScope == scope

def answerFrom (fingerprint : MctIdempotencyFingerprint) (now : Timestamp) (stored : Option CallIdempotencyEntry)
    (count : Nat) : Except String MctIdempotencyReservation :=
  match evaluateIdempotencyRequest fingerprint stored count mctIdempotencyMaxEntriesPerCaller now with
  | .executeFresh =>
    if stored.isSome then
      .error "UNIQUE constraint failed: call_idempotency_entries.caller_scope, call_idempotency_entries.idempotency_key"
    else .ok .executeFresh
  | .replayCompleted =>
    match stored.map CallIdempotencyEntry.state with
    | some (.completed reply) => .ok (.replay reply)
    | _ => .error "completed idempotency reply is missing"
  | reason => .ok (.refused reason)

theorem stored_isSome : (tb.stored scope key now).isSome = true ↔
    (scope, key) ∈ (tb.unexpired now).map CallIdempotencyEntry.primaryKey := by
  simp [stored, List.find?_isSome]

/-- **The answer depends on the row and the number alone.** -/
theorem answer_eq (hblank : (trimmedEmpty scope || trimmedEmpty key) = false) (hexpiry : now < exp) :
    tb.answer scope key fp now exp =
      answerFrom fp now (tb.stored scope key now) (tb.held scope now) := by
  have hlater : decide (exp ≤ now) = false := by
    rw [Timestamp.lt_def] at hexpiry
    rw [decide_eq_false_iff_not, Timestamp.le_def]
    omega
  unfold answer reserve answerFrom
  rw [hblank, hlater]
  simp only [deny, Bool.false_eq_true, if_false, ok_bind]
  rw [show tb.reservationReason scope key fp now = evaluateIdempotencyRequest fp
    (tb.stored scope key now) (tb.held scope now) mctIdempotencyMaxEntriesPerCaller now from rfl]
  generalize evaluateIdempotencyRequest fp (tb.stored scope key now) (tb.held scope now)
    mctIdempotencyMaxEntriesPerCaller now = reason
  cases reason with
  | executeFresh =>
    simp only [insertEntry]
    by_cases hmem : (scope, key) ∈ (tb.unexpired now).map CallIdempotencyEntry.primaryKey
    · rw [dif_pos hmem, if_pos (stored_isSome.mpr hmem)]
      rfl
    · rw [dif_neg hmem, if_neg fun hsome => hmem (stored_isSome.mp hsome)]
      rfl
  | replayCompleted =>
    rw [show (tb.unexpired now).find? (fun e => e.primaryKey == (scope, key)) = tb.stored scope key now from rfl]
    simp only
    cases (tb.stored scope key now).map CallIdempotencyEntry.state with
    | none => rfl
    | some s => cases s <;> rfl
  | idempotencyKeyReuseMismatch | idempotencyBudgetFull | idempotencyInProgress => rfl

theorem unexpired_without : (tb.without row).unexpired now = (tb.unexpired now).filter fun other => other ≠ row := by
  unfold unexpired without
  simp only [List.filter_filter, Bool.and_comm]

theorem stored_of_mem (hrow : row ∈ tb.unexpired now) : tb.stored row.callerScope row.idempotencyKey now = some row := by
  have hsome : (tb.stored row.callerScope row.idempotencyKey now).isSome = true :=
    stored_isSome.mpr (List.mem_map_of_mem hrow)
  obtain ⟨found, hfound⟩ := Option.isSome_iff_exists.mp hsome
  have hsame : found.primaryKey = row.primaryKey := by simpa [CallIdempotencyEntry.primaryKey] using List.find?_some hfound
  have hmem := List.mem_of_mem_filter (List.mem_of_find?_eq_some hfound)
  rw [hfound, row_eq (List.mem_of_mem_filter hrow) hmem hsame]

theorem stored_without_self (hrow : row ∈ tb.entries) :
    (tb.without row).stored row.callerScope row.idempotencyKey now = none := by
  unfold stored
  rw [unexpired_without, List.find?_eq_none]
  intro other hother hkey
  obtain ⟨hmem, hne⟩ := List.mem_filter.mp hother
  refine (of_decide_eq_true hne) (row_eq hrow (List.mem_of_mem_filter hmem) ?_)
  exact beq_iff_eq.mp hkey

theorem stored_without (hkey : row.primaryKey ≠ (scope, key)) :
    (tb.without row).stored scope key now = tb.stored scope key now := by
  unfold stored
  rw [unexpired_without, List.find?_filter]
  congr 1
  funext other
  by_cases hother : other = row
  · subst hother
    simp [hkey]
  · rw [Bool.eq_iff_iff]
    simp [hother]

theorem held_without (hrow : row ∈ tb.unexpired now) :
    tb.held row.callerScope now = (tb.without row).held row.callerScope now + 1 := by
  have hnodup : (tb.unexpired now).Nodup := List.Nodup.of_map _ (tb.unexpired_keys now)
  have herase : ((tb.unexpired now).filter fun other => other ≠ row) = (tb.unexpired now).erase row := by
    rw [hnodup.erase_eq_filter]
    refine List.filter_congr fun other _ => ?_
    by_cases hother : other = row <;> simp [hother]
  unfold held
  rw [unexpired_without, herase, (List.perm_cons_erase hrow).countP_eq]
  exact List.countP_cons_of_pos (beq_self_eq_true _)

def Live (tables : CallTables) (scope key : String) (now : Timestamp) : Prop :=
  (liveEntry now (tables.stored scope key now)).isSome = true

theorem answerFrom_none {count : Nat} : answerFrom fp now none count =
    .ok (if mctIdempotencyMaxEntriesPerCaller ≤ count then .refused .idempotencyBudgetFull else .executeFresh) := by
  simp only [answerFrom, evaluateIdempotencyRequest, liveEntry, Option.filter_none]
  by_cases hfull : mctIdempotencyMaxEntriesPerCaller ≤ count <;> simp [hfull]

theorem answerFrom_live (hlive : now < row.expiresAt) {count : Nat} : answerFrom fp now (some row) count =
    .ok (if row.fingerprint ≠ fp then .refused .idempotencyKeyReuseMismatch else row.state.answer) := by
  simp only [answerFrom, evaluateIdempotencyRequest, liveEntry, Option.filter_some, hlive, decide_true, if_true,
    CallIdempotencyEntry.isInFlight, Option.map_some]
  by_cases hsame : row.fingerprint = fp
  · simp only [hsame, ne_eq, not_true_eq_false, if_false]
    obtain hstate | ⟨reply, hstate⟩ : row.state = .inFlight ∨ ∃ reply, row.state = .completed reply := by
      cases row.state with
      | inFlight => exact Or.inl rfl
      | completed reply => exact Or.inr ⟨reply, rfl⟩
    · simp only [hstate]
      rfl
    · simp only [hstate]
      rfl
  · simp only [hsame, ne_eq, not_false_eq_true, if_true]

/-- **When a row makes no difference to a reservation of the same caller**: it is not under the key, and it is not the
one that uses the caller's rows up. -/
theorem answer_without_iff (hrow : row ∈ tb.unexpired now) (hlive : now < row.expiresAt)
    (hblank : (trimmedEmpty row.callerScope || trimmedEmpty key) = false) (hexpiry : now < exp) :
    tb.answer row.callerScope key fp now exp =
        (tb.without row).answer row.callerScope key fp now exp ↔
      row.idempotencyKey ≠ key ∧ ((tb.without row).Live row.callerScope key now ∨
        (tb.without row).held row.callerScope now + 1 ≠ mctIdempotencyMaxEntriesPerCaller) := by
  rw [answer_eq hblank hexpiry, answer_eq hblank hexpiry, held_without hrow]
  by_cases hkey : row.idempotencyKey = key
  · -- the row is under the key: it refuses or replays, and without it the key is free
    subst hkey
    rw [stored_of_mem hrow, stored_without_self (List.mem_of_mem_filter hrow)]
    rw [answerFrom_live hlive, answerFrom_none]
    refine ⟨fun hsame => ?_, fun hboth => absurd rfl hboth.1⟩
    exfalso
    have hans := Except.ok.inj hsame
    generalize row.state = s at hans
    cases s <;> split_ifs at hans <;> cases hans
  · have hother : row.primaryKey ≠ (row.callerScope, key) := fun hsame => hkey (Prod.mk.inj hsame).2
    rw [stored_without hother]
    unfold Live
    rw [stored_without hother]
    generalize tb.stored row.callerScope key now = stored
    generalize (tb.without row).held row.callerScope now = count
    cases hstored : liveEntry now stored with
    | some e =>
      simp only [answerFrom, evaluateIdempotencyRequest, hstored, Option.isSome_some, true_or, and_true, ne_eq, hkey,
        not_false_eq_true]
    | none =>
      simp only [answerFrom, evaluateIdempotencyRequest, hstored, Option.isSome_none, Bool.false_eq_true, false_or, ne_eq,
        hkey, not_false_eq_true, true_and]
      by_cases hfull : mctIdempotencyMaxEntriesPerCaller ≤ count
      · rw [if_pos hfull, if_pos (hfull.trans (Nat.le_succ count))]
        exact ⟨fun _ => by omega, fun _ => rfl⟩
      · rw [if_neg hfull]
        by_cases hlast : count + 1 = mctIdempotencyMaxEntriesPerCaller
        · rw [if_pos hlast.ge]
          refine ⟨fun hsame => ?_, fun hnot => absurd hlast hnot⟩
          simp only at hsame
          split_ifs at hsame
          cases hsame
        · rw [if_neg (by omega)]
          exact ⟨fun _ => hlast, fun _ => rfl⟩

end CallTables

/-! ## Two forwarded calls -/

section Two

variable [KernelHost] {first second first' second' : MctCallProtocolRequest} {identity identity' : MctLocalNodeIdentity}
  {peer peer' : MctPeerAddressBookEntry} {binding binding' : MctOutboundPeerBindingPresentation}
  {endpoint endpoint' : EndpointIdText} {hello hello' : MctHelloResponse} {bytes bytes' : Option (List UInt8)}
  {context context' : ResidentCallIngressContext}

/-- **Forwarded calls of one binding are kept apart by their keys alone.**  Two keyed calls of any origin principals are
forwarded over the same peer binding, and the receiver has a live row for the first.  Their scope and key at the receiver
differ if and only if the keys of the originals differ; and the first call makes no difference to what the second is
answered if and only if the keys differ and either the second key has a live row of its own or the first call's row is not
the one that uses up the rows of the binding. -/
theorem forwarded_undisturbed_iff
    (hfirst : residentForwardedCallRequest first identity peer binding endpoint hello bytes = some first')
    (hsecond : residentForwardedCallRequest second identity' peer' binding' endpoint' hello' bytes' = some second')
    (hbinding : binding.bindingId = binding'.bindingId)
    (hcontext : ResidentCallIngressContext.ofPeer first' = some context)
    (hcontext' : ResidentCallIngressContext.ofPeer second' = some context') {key key' : String}
    (hkey : first.idempotencyKey = some key) (hkey' : second.idempotencyKey = some key') {tables : CallTables}
    {row : CallIdempotencyEntry} {now expiresAt : Timestamp} (hrow : row ∈ tables.unexpired now)
    (hscope : row.callerScope = residentIdempotencyCallerScope first' context)
    (hrowKey : some row.idempotencyKey = first'.idempotencyKey) (hlive : now < row.expiresAt) (hblank : trimmedEmpty key' = false) (hexpiry : now < expiresAt) :
    ((residentIdempotencyCallerScope first' context, first'.idempotencyKey) ≠
        (residentIdempotencyCallerScope second' context', second'.idempotencyKey) ↔ key ≠ key') ∧
    (tables.answer (residentIdempotencyCallerScope second' context') key' (residentIdempotencyFingerprint second') now
        expiresAt =
      (tables.without row).answer (residentIdempotencyCallerScope second' context') key'
        (residentIdempotencyFingerprint second') now expiresAt ↔
      key ≠ key' ∧ ((tables.without row).Live (residentIdempotencyCallerScope second' context') key' now ∨
        (tables.without row).held (residentIdempotencyCallerScope second' context') now + 1 ≠
          mctIdempotencyMaxEntriesPerCaller)) := by
  obtain ⟨hpeer, hcopied, -, -⟩ := forwarded_received hfirst
  obtain ⟨hpeer', hcopied', -, -⟩ := forwarded_received hsecond
  obtain rfl := Option.some.inj (hcontext.symm.trans hpeer)
  obtain rfl := Option.some.inj (hcontext'.symm.trans hpeer')
  have hsame : residentIdempotencyCallerScope first' (.peer binding.bindingId) =
      residentIdempotencyCallerScope second' (.peer binding'.bindingId) := by
    rw [hbinding]
    rfl
  rw [hcopied, hkey] at hrowKey
  obtain rfl := Option.some.inj hrowKey
  rw [hcopied, hkey, hcopied', hkey', ← hsame, ← hscope]
  refine ⟨?_, CallTables.answer_without_iff hrow hlive ?_ hexpiry⟩
  · simp
  · rw [hblank, hscope, residentIdempotencyCallerScope_nonBlank]
    rfl

end Two

end Mct

namespace Mct.ForwardingSample

open Recovery.Sample (host second)
open IngressSample (identity submission)

def submittedBy (uid : Nat) (key : String) : MctCallProtocolRequest :=
  { localRequest identity uid (submission ⟨"demo", "api", "run"⟩) with idempotencyKey := some key }

def submitter (uid : Nat) : ResidentCallIngressContext :=
  .localPrincipal .jvmAdapter ⟨identity.nodeId, some (uidUser uid), identity.visionId, none⟩

def peer : MctPeerAddressBookEntry := ⟨⟨"forward-node", by decide⟩, ⟨"forward-vision", by decide⟩⟩

def binding : MctOutboundPeerBindingPresentation := ⟨⟨"forward-binding", by decide⟩, 1, "forward-signature", second 3600⟩

def hello : MctHelloResponse := ⟨⟨"forward-hello", by decide⟩, some ⟨"forward-node", "forward-epoch", 1, "forward-obs"⟩⟩

noncomputable def forwardedBy (uid : Nat) (key : String) : Option MctCallProtocolRequest :=
  @residentForwardedCallRequest host (submittedBy uid key) identity peer binding identity.endpointId hello none

def firstReply : MctRecordedCallReply := handlerResultToRecordedReply (.failed "the first user's result")

def fingerprint : MctIdempotencyFingerprint := ⟨"demo/api.run", (submission ⟨"demo", "api", "run"⟩).callId, "empty"⟩

def firstRow : CallIdempotencyEntry :=
  { CallTables.reservedEntry "peer-binding:forward-binding" "key" fingerprint (second 0) (second 720) with
    state := .completed firstReply }

def tables : CallTables := ⟨[firstRow], [], List.nodup_singleton _, List.nodup_nil⟩

/-- **One user is given another user's result.**  Two local users of the origin submit a call under the same key; the
origin accepts both, under different scopes, and forwards both over one binding.  The receiver answers the second with what
it recorded for the first; without the first it would have executed it. -/
theorem second_user_given_first_reply :
    (submittedBy 501 "key").validate = .ok () ∧ (submittedBy 502 "key").validate = .ok () ∧
    (submitter 501).matchesRequest (submittedBy 501 "key") = true ∧
    (submitter 502).matchesRequest (submittedBy 502 "key") = true ∧
    residentIdempotencyCallerScope (submittedBy 501 "key") (submitter 501) ≠
      residentIdempotencyCallerScope (submittedBy 502 "key") (submitter 502) ∧
    ∃ one two, forwardedBy 501 "key" = some one ∧ forwardedBy 502 "key" = some two ∧
      firstRow.callerScope = residentIdempotencyCallerScope one (.peer one.authority.peerBindingId) ∧
      some firstRow.idempotencyKey = one.idempotencyKey ∧ firstRow.fingerprint = @residentIdempotencyFingerprint host one ∧
      tables.answer (residentIdempotencyCallerScope two (.peer two.authority.peerBindingId)) "key"
        (@residentIdempotencyFingerprint host two) (second 60) (second 780) = .ok (.replay firstReply) ∧
      (tables.without firstRow).answer (residentIdempotencyCallerScope two (.peer two.authority.peerBindingId)) "key"
        (@residentIdempotencyFingerprint host two) (second 60) (second 780) = .ok .executeFresh := by
  have hmem : firstRow ∈ tables.unexpired (second 60) :=
    List.mem_filter.mpr ⟨List.mem_singleton_self _, by decide +kernel⟩
  have hblank : (trimmedEmpty firstRow.callerScope || trimmedEmpty firstRow.idempotencyKey) = false := by decide +kernel
  have hlater : second 60 < second 780 := by decide
  refine ⟨by decide +kernel, by decide +kernel, by decide +kernel, by decide +kernel, by decide +kernel, _, _, rfl, rfl,
    by decide +kernel, by decide +kernel, rfl, ?_, ?_⟩
  · refine (CallTables.answer_eq hblank hlater).trans ?_
    rw [CallTables.stored_of_mem hmem]
    exact CallTables.answerFrom_live (by decide)
  · refine (CallTables.answer_eq hblank hlater).trans ?_
    rw [CallTables.stored_without_self (List.mem_singleton_self _)]
    exact CallTables.answerFrom_none

theorem other_key_undisturbed : ∃ one two, forwardedBy 501 "key" = some one ∧ forwardedBy 502 "another" = some two ∧
    tables.answer (residentIdempotencyCallerScope two (.peer binding.bindingId)) "another"
        (@residentIdempotencyFingerprint host two) (second 60) (second 780) =
      (tables.without firstRow).answer (residentIdempotencyCallerScope two (.peer binding.bindingId)) "another"
        (@residentIdempotencyFingerprint host two) (second 60) (second 780) := by
  obtain ⟨one, hone⟩ : ∃ one, forwardedBy 501 "key" = some one := ⟨_, rfl⟩
  obtain ⟨two, htwo⟩ : ∃ two, forwardedBy 502 "another" = some two := ⟨_, rfl⟩
  obtain ⟨hfirst, hkey, -, -⟩ := @forwarded_received host _ _ _ _ _ _ _ _ hone
  obtain ⟨hsecond, -, -, -⟩ := @forwarded_received host _ _ _ _ _ _ _ _ htwo
  have hmem : firstRow ∈ tables.unexpired (second 60) :=
    List.mem_filter.mpr ⟨List.mem_singleton_self _, by decide +kernel⟩
  refine ⟨one, two, hone, htwo, (@forwarded_undisturbed_iff host _ _ _ _ _ _ _ _ _ _ _ _ _ _ _ _ _ _ hone htwo rfl hfirst
    hsecond _ _ rfl rfl _ _ _ _ hmem rfl hkey.symm (by decide) (by decide) (by decide)).2.mpr ⟨by decide, Or.inr ?_⟩⟩
  show 0 + 1 ≠ 256
  decide

end Mct.ForwardingSample
