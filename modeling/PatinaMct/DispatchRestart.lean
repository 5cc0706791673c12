import PatinaMct.Dispatch
import PatinaMct.SampleHost
/-!
# DispatchRestart — the index that a restart rebuilds

The live index forgets a reservation when any later check comes with an instant at or after its expiry, whatever key that
check is for; the rebuilt index forgets only what is released or reserved again.  The two are compared after every
operation.  `DispatchStep` says what one operation does to the index and to the entries.
-/
namespace Mct

open Checked

variable [DispatchHost]

/-! ## What one operation does -/

def DispatchWriter.forgetsAt (writer : DispatchWriter) : DispatchOperation → Option Int
  | .release _ _ => none
  | .reserve claim _ =>
    match writer.nextSequence, claim.validate with
    | .ok _, .ok () => (KernelHost.parseTimestamp claim.acceptedAt.value).toOption
    | _, _ => none

def DispatchFits (entry : MctObservationLedgerEntry) : Prop :=
  ∀ detail, entry.observation.detailRef = some detail →
    detail.utf8ByteSize ≤ dispatchDetailStart.utf8ByteSize + 4096

/-- **One operation**: the index after it and the entries it appended. -/
inductive DispatchStep (writer : DispatchWriter) (operation : DispatchOperation) :
    CallDispatchIndexV1 → List MctObservationLedgerEntry → Prop
  | idle : writer.forgetsAt operation = none → DispatchStep writer operation writer.index []
  | forgets {now : Int} : writer.forgetsAt operation = some now →
      DispatchStep writer operation (writer.index.retainAfter now) []
  | reserves {now : Int} {claim : CallDispatchClaimV1} {template : MctObservation} {sequence : Nat}
      {entry : MctObservationLedgerEntry} : operation = .reserve claim template →
      writer.forgetsAt operation = some now → KernelHost.parseTimestamp claim.acceptedAt.value = .ok now →
      (writer.index.retainAfter now).reservations[claim.keyDigest]? = none →
      DispatchFits entry → decodeEvent entry = .ok (some (.reserved ⟨claim, sequence⟩)) →
      DispatchStep writer operation
        ⟨(writer.index.retainAfter now).reservations.insert claim.keyDigest ⟨claim, sequence⟩⟩ [entry]
  | releases {reservation : CallDispatchReservationV1} {entry : MctObservationLedgerEntry} :
      writer.forgetsAt operation = none → writer.index.contains reservation = true → DispatchFits entry →
      decodeEvent entry = .ok (some (.released reservation.claim.keyDigest reservation.attemptSequence)) →
      DispatchStep writer operation ⟨writer.index.reservations.erase reservation.claim.keyDigest⟩ [entry]
  | oversized {index : CallDispatchIndexV1} {entry : MctObservationLedgerEntry} {error : String} :
      ¬ DispatchFits entry → decodeEvent entry = .error error → DispatchStep writer operation index [entry]

/-! ## What the writer appends is read back -/

/-- **What the fence needs of its serialiser**: every event reads back as it was written, in the sense of
`SerdeRoundTrip`. -/
abbrev EventRoundTrip : Prop := DispatchHost.dispatchEvent.Lawful

/-- The text of the event is not too large for a dispatch fact. -/
abbrev DispatchEvent.Small (event : DispatchEvent) : Prop := (DispatchHost.dispatchEvent.encode event).utf8ByteSize ≤ 4096

variable {writer : DispatchWriter} {operation : DispatchOperation} {index index' : CallDispatchIndexV1}
  {claim : CallDispatchClaimV1} {reservation : CallDispatchReservationV1} {template observation : MctObservation}
  {sequence : Nat} {entry : MctObservationLedgerEntry} {event : DispatchEvent} {now : Int}
  {entries : List MctObservationLedgerEntry}

theorem decodeEvent_fact (serde : EventRoundTrip) {action message : String} {kind : ObservationKind}
    {outcome : ObservationOutcome} {at_ : Timestamp}
    (hobs : entry.observation = { dispatchObservation template action sequence kind outcome message event with
      observedAt := at_ })
    (hlocal : entry.localSequence = sequence) (hdur : entry.durabilityClass = .beforeEffect)
    (hcall : template.callId.isSome = true) (hact : checkDispatchEnvelope entry event = .ok action) (hpos : 0 < sequence) :
    (DispatchFits entry → decodeEvent entry = .ok (some event)) ∧
      (¬ DispatchFits entry → decodeEvent entry = .error "dispatch fact too large") := by
  have hdetail : entry.observation.detailRef = some (dispatchDetailStart ++ DispatchHost.dispatchEvent.encode event) := by
    rw [hobs]
    rfl
  have hid : entry.observation.observationId.value = "obs:dispatch-" ++ action ++ ":" ++ toString entry.localSequence := by
    rw [hobs, hlocal]
    show "obs:dispatch-" ++ (action ++ ":" ++ toString sequence) = _
    simp only [String.append_assoc]
  have henvelope : entry.observation.sourcePlane = .kernel ∧ entry.observation.visibility = .internalOnly ∧
      entry.observation.callId.isSome = true := by
    rw [hobs]
    exact ⟨rfl, rfl, hcall⟩
  have hstart : startsWith (dispatchDetailStart ++ DispatchHost.dispatchEvent.encode event) "mct-call-dispatch-" = true := by
    have hsplit : dispatchDetailStart = "mct-call-dispatch-" ++ "v1:" := rfl
    rw [hsplit, String.append_assoc]
    exact startsWith_append _ _
  have hfits : DispatchFits entry ↔ event.Small := by
    constructor
    · intro h
      have := h _ hdetail
      rw [String.utf8ByteSize_append] at this
      omega
    · intro h detail hother
      rw [hdetail] at hother
      cases hother
      rw [String.utf8ByteSize_append]
      omega
  have hdec : decodeEvent entry =
      (deny (decide (4096 < (DispatchHost.dispatchEvent.encode event).utf8ByteSize)) "dispatch fact too large" >>=
        fun _ => .ok (some event)) := by
    unfold decodeEvent
    rw [hdetail]
    simp only [hstart, if_true, stripStart_append, okOr, ok_bind, serde event, mapErr, hdur, henvelope, hact, hid, hlocal]
    simp [deny, hpos, ok_bind]
  rw [hfits, hdec]
  constructor
  · intro hsmall
    have hpass : decide (4096 < (DispatchHost.dispatchEvent.encode event).utf8ByteSize) = false := by simpa using hsmall
    rw [hpass]
    rfl
  · intro hlarge
    simp only [deny]
    rw [if_pos (by simpa using hlarge)]
    rfl

/-! ## Indexes -/

theorem CallDispatchClaimV1.validate_ok :
    claim.validate = .ok () ↔ isDigestText claim.keyDigest = true ∧ isDigestText claim.fingerprintDigest = true ∧
      ∃ accepted, KernelHost.parseTimestamp claim.acceptedAt.value = .ok accepted ∧
        KernelHost.parseTimestamp claim.expiresAt.value = .ok (accepted + mctIdempotencyTtlSeconds * 1000000000) ∧
        accepted + mctIdempotencyTtlSeconds * 1000000000 ≤ maxTimestamp := by
  simp only [CallDispatchClaimV1.validate, bind_ok, exists_unit, deny_ok, Bool.not_eq_eq_eq_not, Bool.not_false,
    Bool.and_eq_true, decide_eq_false_iff_not, not_not, not_lt, ne_eq]
  constructor
  · rintro ⟨⟨hkey, hfin⟩, accepted, hacc, expires, hexpires, hbound, rfl⟩
    exact ⟨hkey, hfin, accepted, hacc, hexpires, hbound⟩
  · rintro ⟨hkey, hfin, accepted, hacc, hexpires, hbound⟩
    exact ⟨⟨hkey, hfin⟩, accepted, hacc, _, hexpires, hbound, rfl⟩

namespace CallDispatchIndexV1

/-- **Every record is under its own key and was checked.** -/
def WellKeyed (index : CallDispatchIndexV1) : Prop :=
  ∀ (key : String) (record : CallDispatchReservationV1), index.reservations[key]? = some record →
    record.claim.keyDigest = key ∧ record.claim.validate = .ok ()

theorem retainAfter_some {key : String} {record : CallDispatchReservationV1} :
    (index.retainAfter now).reservations[key]? = some record ↔
      index.reservations[key]? = some record ∧ live now record = true := by
  rw [retainAfter, Std.ExtTreeMap.getElem?_filter', Option.filter_eq_some_iff]

omit [DispatchHost] in
theorem ext {index index' : CallDispatchIndexV1}
    (h : ∀ key : String, index.reservations[key]? = index'.reservations[key]?) : index = index' := by
  cases index
  cases index'
  rw [mk.injEq]
  exact Std.ExtTreeMap.ext_getElem? h

theorem WellKeyed.insert (h : index.WellKeyed) (hvalid : reservation.claim.validate = .ok ()) :
    WellKeyed ⟨index.reservations.insert reservation.claim.keyDigest reservation⟩ := by
  intro key record hrec
  rw [Std.ExtTreeMap.getElem?_insert] at hrec
  split at hrec
  · rename_i hkey
    cases hrec
    exact ⟨compare_eq_iff_eq.mp hkey, hvalid⟩
  · exact h key record hrec

theorem WellKeyed.erase (h : index.WellKeyed) (key : String) : WellKeyed ⟨index.reservations.erase key⟩ := by
  intro other record hrec
  rw [Std.ExtTreeMap.getElem?_erase] at hrec
  split at hrec
  · cases hrec
  · exact h other record hrec

theorem WellKeyed.retainAfter (h : index.WellKeyed) (now : Int) : (index.retainAfter now).WellKeyed :=
  fun key record hrec => h key record (retainAfter_some.mp hrec).1

theorem WellKeyed.expired (h : index.WellKeyed) {key : String} {record : CallDispatchReservationV1}
    (hrec : index.reservations[key]? = some record) (hdead : live now record = false) :
    ∃ expires, KernelHost.parseTimestamp record.claim.expiresAt.value = .ok expires ∧ expires ≤ now := by
  obtain ⟨-, -, accepted, -, hexpires, -⟩ := CallDispatchClaimV1.validate_ok.mp (h key record hrec).2
  unfold live at hdead
  rw [hexpires] at hdead
  exact ⟨_, hexpires, by simpa using hdead⟩

theorem decodeEvent_valid (h : decodeEvent entry = .ok (some (.reserved reservation))) :
    reservation.claim.validate = .ok () := by
  unfold decodeEvent at h
  split at h
  · cases h
  · split at h
    · simp only [bind_ok, exists_unit, pure_ok, Option.some.injEq] at h
      obtain ⟨json, -, -, event, -, -, action, hact, -, rfl⟩ := h
      simp only [checkDispatchEnvelope, bind_ok, exists_unit] at hact
      exact hact.1
    · cases h

theorem apply_reserved_ok :
    index.apply (.reserved reservation) = .ok index' ↔
      (∀ prior, index.reservations[reservation.claim.keyDigest]? = some prior →
        ∃ expires accepted, KernelHost.parseTimestamp prior.claim.expiresAt.value = .ok expires ∧
          KernelHost.parseTimestamp reservation.claim.acceptedAt.value = .ok accepted ∧ expires ≤ accepted) ∧
      index' = ⟨index.reservations.insert reservation.claim.keyDigest reservation⟩ := by
  unfold apply
  simp only
  cases hprior : index.reservations[reservation.claim.keyDigest]? with
  | none =>
    simp only [pure_ok]
    constructor
    · intro h
      refine ⟨fun prior hnone => ?_, h.symm⟩
      cases hnone
    · intro h
      exact h.2.symm
  | some prior =>
    simp only [bind_ok, exists_unit, deny_ok, pure_ok, decide_eq_false_iff_not, not_lt, Option.some.injEq]
    constructor
    · rintro ⟨expires, hexpires, accepted, hacc, hle, h⟩
      refine ⟨?_, h.symm⟩
      rintro _ rfl
      exact ⟨expires, accepted, hexpires, hacc, hle⟩
    · rintro ⟨h, hindex⟩
      obtain ⟨expires, accepted, hexpires, hacc, hle⟩ := h prior rfl
      exact ⟨expires, hexpires, accepted, hacc, hle, hindex.symm⟩

theorem replayEntry_event (h : decodeEvent entry = .ok (some event)) : index.replayEntry entry = index.apply event := by
  unfold replayEntry
  rw [h]
  rfl

theorem WellKeyed.replayEntry (h : index.WellKeyed) (hrep : index.replayEntry entry = .ok index') :
    index'.WellKeyed := by
  unfold CallDispatchIndexV1.replayEntry at hrep
  cases hevent : decodeEvent entry with
  | error error =>
    rw [hevent] at hrep
    cases hrep
  | ok found =>
    rw [hevent] at hrep
    cases found with
    | none =>
      cases hrep
      exact h
    | some event =>
      cases event with
      | reserved reservation =>
        obtain ⟨-, rfl⟩ := apply_reserved_ok.mp hrep
        exact h.insert (decodeEvent_valid hevent)
      | released keyDigest attemptSequence =>
        have herase : index.apply (.released keyDigest attemptSequence) = .ok index' := hrep
        simp only [apply, bind_ok, exists_unit, pure_ok] at herase
        obtain ⟨-, rfl⟩ := herase
        exact h.erase keyDigest

theorem rebuild_wellKeyed (h : rebuildIndex entries = .ok index) :
    index.WellKeyed := by
  have hempty : WellKeyed .empty := fun key record hrec => by cases hrec
  unfold rebuildIndex at h
  generalize hstart : CallDispatchIndexV1.empty = start at h
  rw [hstart] at hempty
  clear hstart
  induction entries generalizing start with
  | nil =>
    cases h
    exact hempty
  | cons entry entries ih =>
    simp only [List.foldlM_cons, bind_ok] at h
    obtain ⟨middle, hmid, hrest⟩ := h
    exact ih middle (hempty.replayEntry hmid) hrest

end CallDispatchIndexV1

open CallDispatchIndexV1

/-! ## Every operation is a step -/

omit [DispatchHost] in
theorem DispatchWriter.nextSequence_ok (h : writer.nextSequence = .ok sequence) :
    writer.log.nextSequence = sequence ∧ 0 < sequence := by
  simp only [DispatchWriter.nextSequence, bind_ok, mapErr_ok, okOr_ok, checkedAdd_some] at h
  obtain ⟨head, hhead, -, rfl⟩ := h
  simp only [LedgerLog.verifiedHead, bind_ok, LedgerLog.headPredecessor, exists_unit, deny_ok, okOr_ok, pure_ok] at hhead
  obtain ⟨predecessor, ⟨hnonzero, hash, -, rfl⟩, hhead⟩ := hhead
  simp only [bind_ok, okOr_ok, pure_ok] at hhead
  obtain ⟨observationId, -, rfl⟩ := hhead
  have hpos : writer.log.nextSequence ≠ 0 := by simpa using hnonzero
  simp only
  omega

theorem appendDurableBatch_one {log log' : LedgerLog} {appended : List MctObservationLedgerEntry} {appendedAt : String}
    {io : Io}
    (h : log.appendDurableBatch [observation] appendedAt .beforeEffect .notRequired io = (.ok appended, log')) :
    appended = [log.nextEntry observation appendedAt .beforeEffect .notRequired] := by
  have houtcome := appendDurableBatch_outcome log [observation] appendedAt .beforeEffect .notRequired io
  rw [h] at houtcome
  cases houtcome with
  | committed hmade _ _ =>
    simp only [prepareBatch, bind_ok, exists_unit, pure_ok, Except.ok.injEq] at hmade
    obtain ⟨-, _, rfl, rfl⟩ := hmade
    rfl

/-- What a claim plans: without a reservation an answer, and the index after the check. -/
theorem planDispatch_reserve (index : CallDispatchIndexV1) (sequence : Nat) (claim : CallDispatchClaimV1)
    (template : MctObservation) :
    (planDispatch index sequence (.reserve claim template)).2 = (index.check claim).2 ∧
    (∀ response, (planDispatch index sequence (.reserve claim template)).1 = .ok (.answer response) →
      ∀ reservation, response ≠ .reserved reservation) ∧
    ∀ observation response, (planDispatch index sequence (.reserve claim template)).1 = .ok (.append observation response) →
      (index.check claim).1 = .ok .fresh ∧ ∃ reservation, response = .reserved reservation ∧
        dispatchReservationObservation template claim sequence = .ok (observation, reservation) := by
  simp only [planDispatch]
  cases hcheck : index.check claim with
  | mk result next =>
    cases result with
    | error error => simp
    | ok answer =>
      cases answer with
      | existing => simp
      | fingerprintMismatch => simp
      | fresh => cases dispatchReservationObservation template claim sequence <;> simp [Except.map]

theorem planDispatch_release (index : CallDispatchIndexV1) (sequence : Nat) (reservation : CallDispatchReservationV1)
    (template : MctObservation) :
    (planDispatch index sequence (.release reservation template)).2 = index ∧
    (∀ response, (planDispatch index sequence (.release reservation template)).1 = .ok (.answer response) →
      ∀ other, response ≠ .reserved other) ∧
    ∀ observation response,
      (planDispatch index sequence (.release reservation template)).1 = .ok (.append observation response) →
      index.contains reservation = true ∧ response = .released ∧
        dispatchReleaseObservation template reservation sequence = .ok observation := by
  simp only [planDispatch]
  by_cases hcont : index.contains reservation = true
  · cases dispatchReleaseObservation template reservation sequence <;> simp [hcont, Except.map]
  · simp [hcont]

/-- The index after a check: as before when the claim is refused, and without the expired reservations otherwise. -/
theorem DispatchWriter.check_index (hseq : writer.nextSequence = .ok sequence) (claim : CallDispatchClaimV1)
    (template : MctObservation) :
    writer.forgetsAt (.reserve claim template) = none ∧ (writer.index.check claim).2 = writer.index ∧
        (writer.index.check claim).1 ≠ .ok .fresh ∨
      ∃ now, writer.forgetsAt (.reserve claim template) = some now ∧
        KernelHost.parseTimestamp claim.acceptedAt.value = .ok now ∧
        (writer.index.check claim).2 = writer.index.retainAfter now ∧
        ((writer.index.check claim).1 = .ok .fresh →
          (writer.index.retainAfter now).reservations[claim.keyDigest]? = none) := by
  unfold CallDispatchIndexV1.check
  simp only [DispatchWriter.forgetsAt, hseq]
  cases hvalid : claim.validate with
  | error error => exact .inl ⟨rfl, rfl, by simp⟩
  | ok _ =>
    cases hparse : KernelHost.parseTimestamp claim.acceptedAt.value with
    | error error => exact .inl ⟨rfl, rfl, by simp⟩
    | ok now =>
      refine .inr ⟨now, rfl, rfl, rfl, fun hfresh => ?_⟩
      simp only [Except.ok.injEq, CallDispatchIndexV1.answer] at hfresh
      split at hfresh
      · assumption
      · split at hfresh
        · cases hfresh
        · cases hfresh

omit [DispatchHost] in
theorem CallDispatchIndexV1.contains_record (h : index.contains reservation = true) :
    ∃ record, index.reservations[reservation.claim.keyDigest]? = some record ∧
      record.attemptSequence = reservation.attemptSequence := by
  unfold contains at h
  cases hrec : index.reservations[reservation.claim.keyDigest]? with
  | none =>
    rw [hrec] at h
    cases h
  | some record =>
    rw [hrec] at h
    refine ⟨record, rfl, ?_⟩
    have hbeq : (record == reservation) = true := h
    obtain ⟨claim, attempt⟩ := record
    obtain ⟨claim', attempt'⟩ := reservation
    have hparts : (claim == claim' && attempt == attempt') = true := hbeq
    simp only [Bool.and_eq_true, beq_iff_eq] at hparts
    exact hparts.2

theorem CallDispatchIndexV1.apply_released (h : index.contains reservation = true) :
    index.apply (.released reservation.claim.keyDigest reservation.attemptSequence) =
      .ok ⟨index.reservations.erase reservation.claim.keyDigest⟩ := by
  obtain ⟨record, hrec, hattempt⟩ := contains_record h
  simp only [apply, hrec, Option.any_some, hattempt, beq_self_eq_true, deny]
  rfl

omit [DispatchHost] in
theorem CallDispatchIndexV1.contains_insert (index : CallDispatchIndexV1) (reservation : CallDispatchReservationV1) :
    contains ⟨index.reservations.insert reservation.claim.keyDigest reservation⟩ reservation = true := by
  unfold contains
  rw [Std.ExtTreeMap.getElem?_insert_self]
  exact BEq.rfl

theorem CallDispatchIndexV1.apply_fresh (h : index.reservations[reservation.claim.keyDigest]? = none) :
    index.apply (.reserved reservation) = .ok ⟨index.reservations.insert reservation.claim.keyDigest reservation⟩ := by
  refine apply_reserved_ok.mpr ⟨fun prior hprior => ?_, rfl⟩
  rw [h] at hprior
  cases hprior

theorem CallDispatchIndexV1.WellKeyed.digest (h : index.WellKeyed) (hcont : index.contains reservation = true) :
    isDigestText reservation.claim.keyDigest = true := by
  obtain ⟨record, hrec, -⟩ := contains_record hcont
  obtain ⟨hkey, hvalid⟩ := h _ record hrec
  rw [← hkey]
  exact (CallDispatchClaimV1.validate_ok.mp hvalid).1

theorem planDispatch_quiet (hseq : writer.nextSequence = .ok sequence) (operation : DispatchOperation) :
    DispatchStep writer operation (planDispatch writer.index sequence operation).2 [] := by
  cases operation with
  | reserve claim template =>
    rw [(planDispatch_reserve writer.index sequence claim template).1]
    rcases writer.check_index hseq claim template with ⟨hnone, hsame, -⟩ | ⟨now, hnow, -, hretains, -⟩
    · rw [hsame]
      exact .idle hnone
    · rw [hretains]
      exact .forgets hnow
  | release reservation template =>
    rw [(planDispatch_release writer.index sequence reservation template).1]
    exact .idle rfl

/-! ### Facts and outcomes -/

def DispatchOperation.keyDigest : DispatchOperation → String
  | .reserve claim _ => claim.keyDigest
  | .release reservation _ => reservation.claim.keyDigest

def DispatchOperation.fact (sequence : Nat) : DispatchOperation → DispatchEvent
  | .reserve claim _ => .reserved ⟨claim, sequence⟩
  | .release reservation _ => .released reservation.claim.keyDigest reservation.attemptSequence

def DispatchOperation.response (sequence : Nat) : DispatchOperation → DispatchResponse
  | .reserve claim _ => .reserved ⟨claim, sequence⟩
  | .release _ _ => .released

/-- **An operation that has a fact to append**: the claim of a key that has no live reservation, or the release of a
reservation that is in the index. -/
def CallDispatchIndexV1.Due (index : CallDispatchIndexV1) (sequence : Nat) : DispatchOperation → Prop
  | .reserve claim template => template.callId.isSome = true ∧ claim.validate = .ok () ∧
      ∃ now, KernelHost.parseTimestamp claim.acceptedAt.value = .ok now ∧
        (index.retainAfter now).reservations[claim.keyDigest]? = none
  | .release reservation template => template.callId.isSome = true ∧ index.contains reservation = true ∧
      0 < reservation.attemptSequence ∧ reservation.attemptSequence < sequence

theorem CallDispatchIndexV1.check_fresh : (index.check claim).1 = .ok .fresh ↔ claim.validate = .ok () ∧
    ∃ now, KernelHost.parseTimestamp claim.acceptedAt.value = .ok now ∧
      (index.retainAfter now).reservations[claim.keyDigest]? = none := by
  unfold check
  cases claim.validate with
  | error error => simp
  | ok _ =>
    cases KernelHost.parseTimestamp claim.acceptedAt.value with
    | error error => simp
    | ok now =>
      cases hrec : (index.retainAfter now).reservations[claim.keyDigest]? with
      | none => simp only [answer, hrec, Except.ok.injEq, true_and, exists_eq_left']
      | some record =>
        simp only [answer, hrec, Except.ok.injEq, true_and, exists_eq_left', reduceCtorEq, iff_false]
        split <;> simp

theorem planDispatch_due (hpos : 0 < sequence) :
    (∃ observation response, (planDispatch index sequence operation).1 = .ok (.append observation response)) ↔
      index.Due sequence operation := by
  cases operation with
  | reserve claim template =>
    simp only [Due, ← check_fresh]
    constructor
    · rintro ⟨observation, response, hplan⟩
      obtain ⟨hfresh, _, -, hmade⟩ := (planDispatch_reserve index sequence claim template).2.2 _ _ hplan
      simp only [dispatchReservationObservation, bind_ok, exists_unit, deny_ok, Bool.not_eq_eq_eq_not, Bool.not_false,
        Bool.and_eq_true] at hmade
      exact ⟨hmade.2.1.1, hfresh⟩
    · rintro ⟨hcall, hfresh⟩
      obtain ⟨hvalid, -⟩ := check_fresh.mp hfresh
      cases hcheck : index.check claim with
      | mk result next =>
        rw [hcheck] at hfresh
        obtain rfl : result = .ok .fresh := hfresh
        simp only [planDispatch, hcheck, dispatchReservationObservation, hvalid, hcall, hpos, ok_bind, deny]
        exact ⟨_, _, rfl⟩
  | release reservation template =>
    simp only [Due]
    constructor
    · rintro ⟨observation, response, hplan⟩
      obtain ⟨hcont, -, hmade⟩ := (planDispatch_release index sequence reservation template).2.2 _ _ hplan
      simp only [dispatchReleaseObservation, bind_ok, exists_unit, deny_ok, Bool.not_eq_eq_eq_not, Bool.not_false,
        Bool.and_eq_true, decide_eq_true_eq] at hmade
      exact ⟨hmade.1.1.1, hcont, hmade.1.1.2, hmade.1.2⟩
    · rintro ⟨hcall, hcont, hattempt, hlater⟩
      simp only [planDispatch, hcont, if_true, dispatchReleaseObservation, hcall, hattempt, hlater, deny]
      exact ⟨_, _, rfl⟩

variable {response : DispatchResponse}

theorem planDispatch_detail (h : (planDispatch index sequence operation).1 = .ok (.append observation response)) :
    observation.detailRef =
      some (dispatchDetailStart ++ DispatchHost.dispatchEvent.encode (operation.fact sequence)) := by
  cases operation with
  | reserve claim template =>
    obtain ⟨-, _, -, hmade⟩ := (planDispatch_reserve index sequence claim template).2.2 _ _ h
    simp only [dispatchReservationObservation, bind_ok, exists_unit, pure_ok, Prod.mk.injEq] at hmade
    obtain ⟨-, -, rfl, -⟩ := hmade
    rfl
  | release reservation template =>
    obtain ⟨-, -, hmade⟩ := (planDispatch_release index sequence reservation template).2.2 _ _ h
    simp only [dispatchReleaseObservation, bind_ok, exists_unit, pure_ok] at hmade
    obtain ⟨-, rfl⟩ := hmade
    rfl

/-- **The fact of a plan is read back as it is**, unless it is too large. -/
theorem decodeEvent_planned (serde : EventRoundTrip)
    {appendedAt : String} (hseq : writer.nextSequence = .ok sequence)
    (hplan : (planDispatch writer.index sequence operation).1 = .ok (.append observation response))
    (hdigest : isDigestText operation.keyDigest = true)
    (hentry : entry = writer.log.nextEntry observation appendedAt .beforeEffect .notRequired) :
    response = operation.response sequence ∧
      (DispatchFits entry → decodeEvent entry = .ok (some (operation.fact sequence))) ∧
      (¬ DispatchFits entry → decodeEvent entry = .error "dispatch fact too large") := by
  subst hentry
  have hlocal : (writer.log.nextEntry observation appendedAt .beforeEffect .notRequired).localSequence = sequence :=
    (writer.nextSequence_ok hseq).1
  cases operation with
  | reserve claim template =>
    obtain ⟨-, reservation, rfl, hmade⟩ := (planDispatch_reserve writer.index sequence claim template).2.2 _ _ hplan
    simp only [dispatchReservationObservation, bind_ok, exists_unit, deny_ok, pure_ok, Prod.mk.injEq,
      Bool.not_eq_eq_eq_not, Bool.not_false, Bool.and_eq_true, decide_eq_true_eq] at hmade
    obtain ⟨hvalid, ⟨hcall, hpos⟩, rfl, rfl⟩ := hmade
    refine ⟨rfl, decodeEvent_fact serde rfl hlocal rfl hcall ?_ hpos⟩
    simp only [checkDispatchEnvelope, DispatchOperation.fact, hvalid, ok_bind, hlocal]
    simp [deny, LedgerLog.nextEntry, sealedEntry, dispatchObservation]
  | release reservation template =>
    obtain ⟨-, rfl, hmade⟩ := (planDispatch_release writer.index sequence reservation template).2.2 _ _ hplan
    simp only [dispatchReleaseObservation, bind_ok, exists_unit, deny_ok, pure_ok, Bool.not_eq_eq_eq_not, Bool.not_false,
      Bool.and_eq_true, decide_eq_true_eq] at hmade
    obtain ⟨⟨⟨hcall, hpos⟩, hbefore⟩, rfl⟩ := hmade
    refine ⟨rfl, decodeEvent_fact serde rfl hlocal rfl hcall ?_ (by omega)⟩
    have hdigest : isDigestText reservation.claim.keyDigest = true := hdigest
    simp only [checkDispatchEnvelope, DispatchOperation.fact, hdigest, hpos, hbefore, hlocal]
    simp [deny, LedgerLog.nextEntry, sealedEntry, dispatchObservation]

theorem CallDispatchIndexV1.Due.digest (h : index.Due sequence operation) (hkeyed : index.WellKeyed) :
    isDigestText operation.keyDigest = true := by
  cases operation with
  | reserve claim template => exact (CallDispatchClaimV1.validate_ok.mp h.2.1).1
  | release reservation template => exact hkeyed.digest h.2.1

/-- **The entry of a plan**, replayed on the index after the check: a step, or it is too large. -/
theorem planDispatch_appended (serde : EventRoundTrip) (hkeyed : writer.index.WellKeyed)
    (hseq : writer.nextSequence = .ok sequence)
    (hplan : (planDispatch writer.index sequence operation).1 = .ok (.append observation response))
    {appendedAt : String} (hentry : entry = writer.log.nextEntry observation appendedAt .beforeEffect .notRequired) :
    (∃ index', (planDispatch writer.index sequence operation).2.replayEntry entry = .ok index' ∧
        DispatchStep writer operation index' [entry]) ∨
      ∃ error, (planDispatch writer.index sequence operation).2.replayEntry entry = .error error ∧
        ∀ index', DispatchStep writer operation index' [entry] := by
  have hdue := (planDispatch_due (writer.nextSequence_ok hseq).2).mp ⟨_, _, hplan⟩
  obtain ⟨-, hfits, hlarge⟩ := decodeEvent_planned serde hseq hplan (hdue.digest hkeyed) hentry
  by_cases hsmall : DispatchFits entry
  · have hdec := hfits hsmall
    rw [replayEntry_event hdec]
    cases operation with
    | reserve claim template =>
      have hfresh := check_fresh.mpr hdue.2
      rcases writer.check_index hseq claim template with ⟨-, -, hstale⟩ | ⟨now, hnow, hparse, hretains, hnone⟩
      · exact absurd hfresh hstale
      rw [(planDispatch_reserve writer.index sequence claim template).1, hretains]
      exact .inl ⟨_, apply_fresh (hnone hfresh), .reserves rfl hnow hparse (hnone hfresh) hsmall hdec⟩
    | release reservation template =>
      rw [(planDispatch_release writer.index sequence reservation template).1]
      exact .inl ⟨_, apply_released hdue.2.1, .releases rfl hdue.2.1 hsmall hdec⟩
  · refine .inr ⟨"dispatch fact too large", ?_, fun _ => .oversized hsmall (hlarge hsmall)⟩
    rw [replayEntry, hlarge hsmall]
    rfl

omit [DispatchHost] in
theorem dispatchFact_ordinary {detail : String} (h : observation.detailRef = some (dispatchDetailStart ++ detail)) :
    validateOrdinaryObservation observation = .ok () := by
  rw [validateOrdinaryObservation, h, deny_ok, Option.any_some]
  simp only [startsWith, String.toList_append]
  rfl

omit [DispatchHost] in
theorem dispatchFits_of_size {detail : String}
    (h : entry.observation.detailRef = some (dispatchDetailStart ++ detail)) (hsize : detail.utf8ByteSize ≤ 4096) :
    DispatchFits entry := by
  intro found hfound
  rw [h] at hfound
  cases hfound
  rw [String.utf8ByteSize_append]
  omega

def LedgerLog.Keeps (log : LedgerLog) (io : Io) : Prop :=
  log.isPoisoned = false ∧ io.write 0 = .written ∧ io.sync 0 = .synced

/-- A batch of one fact is appended exactly when the log takes it and its write and its sync succeed. -/
theorem appendDurableBatch_one_iff {log : LedgerLog} {appendedAt : String} {io : Io}
    (h : validateOrdinaryObservation observation = .ok ()) :
    (∃ appended log', log.appendDurableBatch [observation] appendedAt .beforeEffect .notRequired io =
        (.ok appended, log')) ↔
      log.Keeps io := by
  simp only [LedgerLog.Keeps, LedgerLog.appendDurableBatch, prepareBatch, h, ok_bind, pure, Except.pure]
  cases log.isPoisoned with
  | true => simp
  | false =>
    cases hwrite : io.write 0 with
    | failed kept source => simp [writeFrames, hwrite]
    | written => cases hsync : io.sync 0 <;> simp [writeFrames, hwrite]

/-- **What an operation comes to**: an answer without a fact, or a fact, which the log does not take, or takes and replay
refuses, or takes and replay applies. -/
inductive DispatchWriter.Outcome (writer : DispatchWriter) (operation : DispatchOperation) (appendedAt : String) (io : Io) :
    Except String DispatchResponse × DispatchWriter → Prop
  | quiet {reply : Except String DispatchResponse} {index : CallDispatchIndexV1} :
      DispatchStep writer operation index [] →
      (∀ sequence, writer.nextSequence = .ok sequence → ¬ writer.index.Due sequence operation) →
      (∀ reservation, reply ≠ .ok (.reserved reservation)) → Outcome writer operation appendedAt io
        (reply, { writer with index := index })
  | torn {sequence : Nat} {observation : MctObservation} {response : DispatchResponse} {error : String} {log : LedgerLog} :
      writer.nextSequence = .ok sequence →
      (planDispatch writer.index sequence operation).1 = .ok (.append observation response) → ¬ writer.log.Keeps io →
      Outcome writer operation appendedAt io
        (.error error, ⟨log, (planDispatch writer.index sequence operation).2, writer.entries⟩)
  | refused {sequence : Nat} {observation : MctObservation} {response : DispatchResponse} {error : String}
      {log : LedgerLog} {entry : MctObservationLedgerEntry} : writer.nextSequence = .ok sequence →
      (planDispatch writer.index sequence operation).1 = .ok (.append observation response) →
      entry = writer.log.nextEntry observation appendedAt .beforeEffect .notRequired → writer.log.Keeps io →
      (planDispatch writer.index sequence operation).2.replayEntry entry = .error error →
      Outcome writer operation appendedAt io
        (.error error, ⟨log, (planDispatch writer.index sequence operation).2, writer.entries ++ [entry]⟩)
  | recorded {sequence : Nat} {observation : MctObservation} {response : DispatchResponse} {index : CallDispatchIndexV1}
      {log : LedgerLog} {entry : MctObservationLedgerEntry} : writer.nextSequence = .ok sequence →
      (planDispatch writer.index sequence operation).1 = .ok (.append observation response) →
      entry = writer.log.nextEntry observation appendedAt .beforeEffect .notRequired → writer.log.Keeps io →
      writer.log.appendDurableBatch [observation] appendedAt .beforeEffect .notRequired io = (.ok [entry], log) →
      (planDispatch writer.index sequence operation).2.replayEntry entry = .ok index →
      Outcome writer operation appendedAt io (.ok response, ⟨log, index, writer.entries ++ [entry]⟩)

theorem DispatchWriter.process_outcome (writer : DispatchWriter) (operation : DispatchOperation) (appendedAt : String)
    (io : Io) : writer.Outcome operation appendedAt io (writer.process operation appendedAt io) := by
  unfold process
  cases hseq : writer.nextSequence with
  | error error =>
    refine .quiet (.idle ?_) (fun sequence h => ?_) (fun _ => by simp)
    · cases operation with
      | reserve claim template => simp only [forgetsAt, hseq]
      | release reservation template => rfl
    · rw [hseq] at h
      cases h
  | ok sequence =>
    have hquiet := planDispatch_quiet hseq operation
    have hdue : _ ↔ writer.index.Due sequence operation := planDispatch_due (writer.nextSequence_ok hseq).2
    have hnone : (∀ observation response,
          (planDispatch writer.index sequence operation).1 ≠ .ok (.append observation response)) →
        ∀ other, writer.nextSequence = .ok other → ¬ writer.index.Due other operation := by
      intro hplan other hother hdue'
      obtain rfl := Except.ok.inj (hseq.symm.trans hother)
      obtain ⟨observation, response, happend⟩ := hdue.mpr hdue'
      exact hplan observation response happend
    have hfailed := @Outcome.torn _ writer operation appendedAt io sequence
    have hrefused := @Outcome.refused _ writer operation appendedAt io sequence
    have hrecorded := @Outcome.recorded _ writer operation appendedAt io sequence
    simp only
    cases hplan : planDispatch writer.index sequence operation with
    | mk result next =>
      rw [hplan] at hquiet hnone hfailed hrefused hrecorded
      cases result with
      | error error => exact .quiet hquiet (hnone (by simp)) (fun _ => by simp)
      | ok plan =>
        cases plan with
        | answer response =>
          refine .quiet hquiet (hnone (by simp)) fun reservation heq => ?_
          have hanswer := congrArg Prod.fst hplan
          cases operation with
          | reserve claim template =>
            exact (planDispatch_reserve _ sequence claim template).2.1 _ hanswer reservation (Except.ok.inj heq)
          | release other template =>
            exact (planDispatch_release _ sequence other template).2.1 _ hanswer reservation (Except.ok.inj heq)
        | append observation response =>
          have hkeeps := @appendDurableBatch_one_iff _ observation writer.log appendedAt io
            (dispatchFact_ordinary (planDispatch_detail (congrArg Prod.fst hplan)))
          simp only
          cases happend : writer.log.appendDurableBatch [observation] appendedAt .beforeEffect .notRequired io with
          | mk appended log =>
            cases appended with
            | error error =>
              refine hfailed hseq rfl fun h => ?_
              obtain ⟨_, _, heq⟩ := hkeeps.mpr h
              cases happend.symm.trans heq
            | ok appended =>
              obtain rfl := appendDurableBatch_one happend
              simp only [List.foldlM_cons, List.foldlM_nil]
              cases hreplay : next.replayEntry (writer.log.nextEntry observation appendedAt .beforeEffect .notRequired) with
              | error error => exact hrefused hseq rfl rfl (hkeeps.mp ⟨_, _, happend⟩) hreplay
              | ok index => exact hrecorded hseq rfl rfl (hkeeps.mp ⟨_, _, happend⟩) happend hreplay

theorem DispatchWriter.process_step (serde : EventRoundTrip) (hkeyed : writer.index.WellKeyed)
    (operation : DispatchOperation) (appendedAt : String) (io : Io) :
    ∃ appended, (writer.process operation appendedAt io).2.entries = writer.entries ++ appended ∧
      DispatchStep writer operation (writer.process operation appendedAt io).2.index appended := by
  have houtcome := writer.process_outcome operation appendedAt io
  generalize writer.process operation appendedAt io = after at houtcome
  cases houtcome with
  | quiet hstep => exact ⟨[], (List.append_nil _).symm, hstep⟩
  | torn hseq => exact ⟨[], (List.append_nil _).symm, planDispatch_quiet hseq operation⟩
  | refused hseq hplan hentry _ hreplay =>
    obtain ⟨index, hindex, -⟩ | ⟨error, -, hstep⟩ := planDispatch_appended serde hkeyed hseq hplan hentry
    · rw [hreplay] at hindex
      cases hindex
    · exact ⟨_, rfl, hstep _⟩
  | recorded hseq hplan hentry _ _ hreplay =>
    obtain ⟨index, hindex, hstep⟩ | ⟨error, herror, -⟩ := planDispatch_appended serde hkeyed hseq hplan hentry
    · rw [hreplay] at hindex
      cases hindex
      exact ⟨_, rfl, hstep⟩
    · rw [hreplay] at herror
      cases herror

/-! ## The rebuilt index and the live one -/

/-- **A restart is accepted and answers as the live writer does.** -/
def DispatchWriter.Agrees (writer : DispatchWriter) : Prop :=
  ∃ rebuilt, rebuildIndex writer.entries = .ok rebuilt ∧
    (∀ claim, (rebuilt.check claim).1 = (writer.index.check claim).1) ∧
    ∀ reservation, rebuilt.contains reservation = writer.index.contains reservation

theorem DispatchWriter.Agrees.of_rebuilt (h : rebuildIndex writer.entries = .ok writer.index) : writer.Agrees :=
  ⟨writer.index, h, fun _ => rfl, fun _ => rfl⟩

def CallDispatchIndexV1.Within (live rebuilt : CallDispatchIndexV1) : Prop :=
  ∀ (key : String) (record : CallDispatchReservationV1), live.reservations[key]? = some record →
    rebuilt.reservations[key]? = some record

/-- An index that answers as a larger one is the larger one: `contains` tells a forgotten reservation. -/
theorem CallDispatchIndexV1.Within.eq {rebuilt : CallDispatchIndexV1} (h : index.Within rebuilt)
    (hkeyed : rebuilt.WellKeyed)
    (hcont : ∀ reservation, rebuilt.contains reservation = index.contains reservation) : rebuilt = index := by
  refine CallDispatchIndexV1.ext fun key => ?_
  cases hlive : index.reservations[key]? with
  | some record => exact h key record hlive
  | none =>
    cases hrebuilt : rebuilt.reservations[key]? with
    | none => rfl
    | some record =>
      have hsame := hcont record
      obtain ⟨hkey, -⟩ := hkeyed key record hrebuilt
      unfold CallDispatchIndexV1.contains at hsame
      rw [hkey, hrebuilt, hlive, BEq.rfl] at hsame
      cases hsame

/-- An operation and its entries after which a restart still agrees. -/
structure DispatchWriter.Tidy (writer : DispatchWriter) (operation : DispatchOperation)
    (appended : List MctObservationLedgerEntry) : Prop where
  fits : ∀ entry ∈ appended, DispatchFits entry
  replaces : ∀ (now : Int), writer.forgetsAt operation = some now →
    ∀ (key : String) (record : CallDispatchReservationV1), writer.index.reservations[key]? = some record →
      CallDispatchIndexV1.live now record = false → appended ≠ [] ∧ key = operation.keyDigest

theorem CallDispatchIndexV1.retainAfter_within (index : CallDispatchIndexV1) (now : Int) :
    (index.retainAfter now).Within index := fun _ _ h => (retainAfter_some.mp h).1

theorem CallDispatchIndexV1.retainAfter_eq
    (h : ∀ (key : String) (record : CallDispatchReservationV1), index.reservations[key]? = some record →
      live now record = true) : index.retainAfter now = index := by
  refine CallDispatchIndexV1.ext fun key => ?_
  cases hrec : index.reservations[key]? with
  | some record => exact retainAfter_some.mpr ⟨hrec, h key record hrec⟩
  | none =>
    cases hretains : (index.retainAfter now).reservations[key]? with
    | none => rfl
    | some record =>
      rw [(retainAfter_some.mp hretains).1] at hrec
      cases hrec

theorem rebuildIndex_append (h : rebuildIndex entries = .ok index)
    (appended : List MctObservationLedgerEntry) :
    rebuildIndex (entries ++ appended) = appended.foldlM replayEntry index := by
  unfold rebuildIndex at h ⊢
  rw [List.foldlM_append, h]
  rfl

theorem rebuildIndex_snoc (h : rebuildIndex entries = .ok index)
    (hevent : decodeEvent entry = .ok (some event)) (happly : index.apply event = .ok index') :
    rebuildIndex (entries ++ [entry]) = .ok index' := by
  rw [rebuildIndex_append h, List.foldlM_cons, replayEntry_event hevent, happly]
  rfl

theorem rebuildIndex_quiet (h : rebuildIndex entries = .ok index)
    (hevent : decodeEvent entry = .ok none) : rebuildIndex (entries ++ [entry]) = .ok index := by
  rw [rebuildIndex_append h, List.foldlM_cons, replayEntry, hevent]
  rfl

variable {appended : List MctObservationLedgerEntry}

/-- **The index that a restart rebuilds after a step**: what a reservation adds to and a release takes from the index
before, with nothing forgotten. -/
theorem DispatchStep.rebuilt (hrebuilt : rebuildIndex writer.entries = .ok writer.index)
    (hstep : DispatchStep writer operation index appended) (hfits : ∀ entry ∈ appended, DispatchFits entry) :
    ∃ rebuilt, rebuildIndex (writer.entries ++ appended) = .ok rebuilt ∧ index.Within rebuilt ∧
      (writer.Tidy operation appended ↔ rebuilt = index) := by
  have hkeyed := rebuild_wellKeyed hrebuilt
  cases hstep with
  | idle hnone =>
    refine ⟨writer.index, by rwa [List.append_nil], fun _ _ h => h, fun _ => rfl, fun _ => ⟨hfits, fun now hnow => ?_⟩⟩
    rw [hnone] at hnow
    cases hnow
  | @forgets now hnow =>
    refine ⟨writer.index, by rwa [List.append_nil], writer.index.retainAfter_within now, fun hord => ?_, fun heq =>
      ⟨hfits, fun now' hnow' key record hrec hdead => ?_⟩⟩
    · refine (retainAfter_eq fun key record hrec => ?_).symm
      by_contra hdead
      rw [Bool.not_eq_true] at hdead
      exact (hord.replaces now hnow key record hrec hdead).1 rfl
    · rw [hnow] at hnow'
      cases hnow'
      rw [heq, retainAfter_some, hdead] at hrec
      cases hrec.2
  | @reserves now claim template sequence entry hoperation hnow hparse hfresh hsmall hdec =>
    -- a reservation that is still in the rebuilt index has expired, so it does not overlap
    have happly : writer.index.apply (.reserved ⟨claim, sequence⟩) =
        .ok ⟨writer.index.reservations.insert claim.keyDigest ⟨claim, sequence⟩⟩ := by
      refine apply_reserved_ok.mpr ⟨fun prior hprior => ?_, rfl⟩
      have hdead : CallDispatchIndexV1.live now prior = false := by
        by_contra hlive
        rw [Bool.not_eq_false] at hlive
        rw [retainAfter_some.mpr ⟨hprior, hlive⟩] at hfresh
        cases hfresh
      obtain ⟨expires, hexpires, hle⟩ := hkeyed.expired hprior hdead
      exact ⟨expires, now, hexpires, hparse, hle⟩
    refine ⟨_, rebuildIndex_snoc hrebuilt hdec happly, fun key record hrec => ?_, fun hord => ?_, fun heq =>
      ⟨hfits, fun now' hnow' key record hrec hdead => ⟨by simp, ?_⟩⟩⟩
    · rw [Std.ExtTreeMap.getElem?_insert] at hrec ⊢
      by_cases hkey : compare claim.keyDigest key = .eq
      · rwa [if_pos hkey] at hrec ⊢
      · rw [if_neg hkey] at hrec ⊢
        exact (retainAfter_some.mp hrec).1
    · refine CallDispatchIndexV1.ext fun key => ?_
      simp only [Std.ExtTreeMap.getElem?_insert]
      split
      · rfl
      · rename_i hother
        cases hrec : writer.index.reservations[key]? with
        | none =>
          cases hretains : (writer.index.retainAfter now).reservations[key]? with
          | none => rfl
          | some record =>
            rw [(retainAfter_some.mp hretains).1] at hrec
            cases hrec
        | some record =>
          refine (retainAfter_some.mpr ⟨hrec, ?_⟩).symm
          by_contra hdead
          rw [Bool.not_eq_true] at hdead
          have hkey := (hord.replaces now hnow key record hrec hdead).2
          rw [hoperation] at hkey
          exact hother (compare_eq_iff_eq.mpr hkey.symm)
    · rw [hnow] at hnow'
      cases hnow'
      by_contra hother
      rw [hoperation] at hother
      have hat := congrArg (fun index : CallDispatchIndexV1 => index.reservations[key]?) heq
      have hne : ¬ compare claim.keyDigest key = .eq := fun h => hother (compare_eq_iff_eq.mp h).symm
      simp only [Std.ExtTreeMap.getElem?_insert, if_neg hne, hrec] at hat
      rw [(retainAfter_some.mp hat.symm).2] at hdead
      cases hdead
  | @releases reservation entry hnone hcont hsmall hdec =>
    refine ⟨_, rebuildIndex_snoc hrebuilt hdec (apply_released hcont), fun _ _ h => h, fun _ => rfl, fun _ =>
      ⟨hfits, fun now hnow => ?_⟩⟩
    rw [hnone] at hnow
    cases hnow
  | oversized hbig _ => exact absurd (hfits _ List.mem_cons_self) hbig

/-- **One operation**: after it a restart agrees exactly when it was tidy, and then it rebuilds the live index. -/
theorem DispatchStep.agrees_iff (hrebuilt : rebuildIndex writer.entries = .ok writer.index) {after : DispatchWriter}
    (hents : after.entries = writer.entries ++ appended)
    (hstep : DispatchStep writer operation after.index appended) :
    (after.Agrees ↔ writer.Tidy operation appended) ∧
      (writer.Tidy operation appended → rebuildIndex after.entries = .ok after.index) := by
  by_cases hfits : ∀ entry ∈ appended, DispatchFits entry
  · obtain ⟨rebuilt, hafter, hwit, hord⟩ := hstep.rebuilt hrebuilt hfits
    rw [← hents] at hafter
    refine ⟨⟨fun hagree => ?_, fun h => ?_⟩, fun h => ?_⟩
    · obtain ⟨other, hother, -, hcont⟩ := hagree
      rw [hafter] at hother
      cases hother
      exact hord.mpr (hwit.eq (rebuild_wellKeyed hafter) hcont)
    · rw [hord.mp h] at hafter
      exact .of_rebuilt hafter
    · rwa [hord.mp h] at hafter
  · refine ⟨⟨fun hagree => ?_, fun h => absurd h.fits hfits⟩, fun h => absurd h.fits hfits⟩
    obtain ⟨other, hother, -⟩ := hagree
    rw [hents, rebuildIndex_append hrebuilt] at hother
    generalize after.index = index at hstep
    cases hstep with
    | oversized hbig hdec =>
      rw [List.foldlM_cons, replayEntry, hdec] at hother
      cases hother
    | idle _ => exact absurd (fun _ h => by cases h) hfits
    | forgets _ => exact absurd (fun _ h => by cases h) hfits
    | reserves _ _ _ _ hsmall _ => exact absurd (List.forall_mem_singleton.mpr hsmall) hfits
    | releases _ _ hsmall _ => exact absurd (List.forall_mem_singleton.mpr hsmall) hfits

/-! ## Runs -/

structure DispatchCall where
  operation : DispatchOperation
  appendedAt : String
  io : Io

def DispatchWriter.after (writer : DispatchWriter) (call : DispatchCall) : DispatchWriter :=
  (writer.process call.operation call.appendedAt call.io).2

def DispatchWriter.runAll (writer : DispatchWriter) (calls : List DispatchCall) : DispatchWriter :=
  calls.foldl DispatchWriter.after writer

def DispatchWriter.appends (writer : DispatchWriter) (call : DispatchCall) : List MctObservationLedgerEntry :=
  (writer.after call).entries.drop writer.entries.length

/-! ## Orderly operations -/

/-- **The operation records its fact**: it is due, the log takes entries and the disk keeps this one. -/
structure DispatchWriter.Records (writer : DispatchWriter) (call : DispatchCall) (sequence : Nat) : Prop where
  next : writer.nextSequence = .ok sequence
  due : writer.index.Due sequence call.operation
  keeps : writer.log.Keeps call.io

/-- **An operation after which a restart still agrees**: the fact that it records is not too large, and a reservation
that its check finds expired is the one that it replaces. -/
structure DispatchWriter.Orderly (writer : DispatchWriter) (call : DispatchCall) : Prop where
  fits : ∀ sequence, writer.Records call sequence → (call.operation.fact sequence).Small
  replaces : ∀ now, writer.forgetsAt call.operation = some now →
    ∀ (key : String) (record : CallDispatchReservationV1), writer.index.reservations[key]? = some record →
      CallDispatchIndexV1.live now record = false →
      (∃ sequence, writer.Records call sequence) ∧ key = call.operation.keyDigest

theorem DispatchWriter.appends_cases (writer : DispatchWriter) (call : DispatchCall) :
    (∃ sequence entry, writer.Records call sequence ∧ writer.appends call = [entry] ∧ entry.observation.detailRef =
        some (dispatchDetailStart ++ DispatchHost.dispatchEvent.encode (call.operation.fact sequence))) ∨
      (∀ sequence, ¬ writer.Records call sequence) ∧ writer.appends call = [] := by
  have houtcome := writer.process_outcome call.operation call.appendedAt call.io
  have hdue : ∀ {sequence observation response}, writer.nextSequence = .ok sequence →
      (planDispatch writer.index sequence call.operation).1 = .ok (.append observation response) →
      writer.index.Due sequence call.operation := fun hseq hplan =>
    (planDispatch_due (writer.nextSequence_ok hseq).2).mp ⟨_, _, hplan⟩
  unfold appends after
  generalize writer.process call.operation call.appendedAt call.io = after at houtcome
  cases houtcome with
  | quiet _ hnone => exact .inr ⟨fun sequence h => hnone sequence h.next h.due, List.drop_length⟩
  | torn _ _ hkeeps => exact .inr ⟨fun sequence h => hkeeps h.keeps, List.drop_length⟩
  | refused hseq hplan hentry hkeeps | recorded hseq hplan hentry hkeeps =>
    exact .inl ⟨_, _, ⟨hseq, hdue hseq hplan, hkeeps⟩, List.drop_left, hentry ▸ planDispatch_detail hplan⟩

theorem DispatchWriter.orderly_iff (writer : DispatchWriter) (call : DispatchCall) :
    writer.Orderly call ↔ writer.Tidy call.operation (writer.appends call) := by
  rcases writer.appends_cases call with ⟨sequence, entry, hrecords, happends, hdetail⟩ | ⟨hnone, happends⟩
  · have hfits : DispatchFits entry ↔
        (call.operation.fact sequence).Small := by
      refine ⟨fun h => ?_, dispatchFits_of_size hdetail⟩
      have := h _ hdetail
      rw [String.utf8ByteSize_append] at this
      omega
    rw [happends]
    constructor
    · rintro ⟨hfit, hreplaces⟩
      refine ⟨List.forall_mem_singleton.mpr (hfits.mpr (hfit sequence hrecords)), fun now hnow key record hrec hdead => ?_⟩
      exact ⟨by simp, (hreplaces now hnow key record hrec hdead).2⟩
    · rintro ⟨hfit, hreplaces⟩
      refine ⟨fun other hother => ?_, fun now hnow key record hrec hdead => ?_⟩
      · obtain rfl : other = sequence := Except.ok.inj (hother.next.symm.trans hrecords.next)
        exact hfits.mp (List.forall_mem_singleton.mp hfit)
      · exact ⟨⟨sequence, hrecords⟩, (hreplaces now hnow key record hrec hdead).2⟩
  · rw [happends]
    constructor
    · rintro ⟨-, hreplaces⟩
      refine ⟨by simp, fun now hnow key record hrec hdead => ?_⟩
      obtain ⟨⟨sequence, hrecords⟩, -⟩ := hreplaces now hnow key record hrec hdead
      exact absurd hrecords (hnone sequence)
    · rintro ⟨-, hreplaces⟩
      refine ⟨fun sequence hrecords => absurd hrecords (hnone sequence), fun now hnow key record hrec hdead => ?_⟩
      exact absurd rfl (hreplaces now hnow key record hrec hdead).1

theorem DispatchWriter.after_agrees_iff (serde : EventRoundTrip)
    (hrebuilt : rebuildIndex writer.entries = .ok writer.index) (call : DispatchCall) :
    ((writer.after call).Agrees ↔ writer.Orderly call) ∧
      (writer.Orderly call → rebuildIndex (writer.after call).entries = .ok (writer.after call).index) := by
  obtain ⟨appended, hents, hstep⟩ := writer.process_step serde (rebuild_wellKeyed hrebuilt)
    call.operation call.appendedAt call.io
  have happ : writer.appends call = appended := by
    unfold DispatchWriter.appends DispatchWriter.after
    rw [hents, List.drop_left]
  rw [writer.orderly_iff, happ]
  exact hstep.agrees_iff hrebuilt hents

/-- **When a restart is accepted and agrees after every operation**: exactly when every operation was orderly.  A clock
that steps back, or two requests that reach the writer in another order than they read it, is what an operation that is
not orderly needs to make the next restart fail. -/
theorem dispatch_restart_agrees_iff (serde : EventRoundTrip) (writer : DispatchWriter)
    (hrebuilt : rebuildIndex writer.entries = .ok writer.index) (calls : List DispatchCall) :
    (∀ front, front <+: calls → (writer.runAll front).Agrees) ↔
      ∀ front call, front ++ [call] <+: calls →
        (writer.runAll front).Orderly call := by
  induction calls generalizing writer with
  | nil =>
    constructor
    · intro _ front call hfront
      simp at hfront
    · intro _ front hfront
      rw [List.prefix_nil.mp hfront]
      exact .of_rebuilt hrebuilt
  | cons first calls ih =>
    obtain ⟨hiff, hnext⟩ := writer.after_agrees_iff serde hrebuilt first
    constructor
    · intro hagree
      have hord : writer.Orderly first := hiff.mp (hagree [first] (by simp))
      have hrest := (ih (writer.after first) (hnext hord)).mp fun front hfront =>
        hagree (first :: front) (List.cons_prefix_cons.mpr ⟨rfl, hfront⟩)
      intro front call hfront
      cases front with
      | nil =>
        obtain ⟨rfl, -⟩ := List.cons_prefix_cons.mp hfront
        exact hord
      | cons other front =>
        obtain ⟨rfl, htail⟩ := List.cons_prefix_cons.mp hfront
        exact hrest front call htail
    · intro hord
      have hrebuilt' := hnext (hord [] first (by simp))
      have hrest := (ih (writer.after first) hrebuilt').mpr fun front call hfront =>
        hord (first :: front) call (List.cons_prefix_cons.mpr ⟨rfl, hfront⟩)
      intro front hfront
      cases front with
      | nil => exact .of_rebuilt hrebuilt
      | cons other front =>
        obtain ⟨rfl, htail⟩ := List.cons_prefix_cons.mp hfront
        exact hrest front htail

omit [DispatchHost] in
theorem LedgerLog.Ready.nextSequence {log : LedgerLog} {room : Nat} {idx : CallDispatchIndexV1}
    {es : List MctObservationLedgerEntry} (h : log.Ready room) (hroom : 0 < room) :
    DispatchWriter.nextSequence ⟨log, idx, es⟩ = .ok log.nextSequence := by
  obtain ⟨hash, hhash⟩ := Option.isSome_iff_exists.mp h.hash
  obtain ⟨last, hlast⟩ := Option.isSome_iff_exists.mp h.last
  have hstarts := h.started
  have hadd : checkedAdd (log.nextSequence - 1) 1 = some log.nextSequence := by
    have hbound := h.room
    rw [checkedAdd, if_pos (by omega), Nat.sub_add_cancel h.started]
  have hnonzero : (log.nextSequence == 0) = false := by simp; omega
  simp only [DispatchWriter.nextSequence, LedgerLog.verifiedHead, LedgerLog.headPredecessor, hhash, hlast, hnonzero, deny,
    okOr, ok_bind, Bool.false_eq_true, if_false, pure, Except.pure, mapErr, hadd]

/-- **A fact that is due and small is recorded** by a writer that nothing stops. -/
theorem DispatchWriter.process_records (serde : EventRoundTrip) {room : Nat}
    (hready : writer.log.Ready (room + 1)) {io : Io} (hio : io.Succeeds)
    (hdue : writer.index.Due writer.log.nextSequence operation) (hdigest : isDigestText operation.keyDigest = true)
    (happly : (planDispatch writer.index writer.log.nextSequence operation).2.apply
      (operation.fact writer.log.nextSequence) = .ok index)
    (hsize : (operation.fact writer.log.nextSequence).Small)
    (appendedAt : String) :
    ∃ entry log, writer.process operation appendedAt io =
        (.ok (operation.response writer.log.nextSequence), ⟨log, index, writer.entries ++ [entry]⟩) ∧
      decodeEvent entry = .ok (some (operation.fact writer.log.nextSequence)) ∧ log.Ready room ∧
      log.nextSequence = writer.log.nextSequence + 1 := by
  have hnext : writer.nextSequence = .ok writer.log.nextSequence := hready.nextSequence (Nat.succ_pos room)
  have hread : ∀ {sequence observation response entry}, writer.nextSequence = .ok sequence →
      (planDispatch writer.index sequence operation).1 = .ok (.append observation response) →
      entry = writer.log.nextEntry observation appendedAt .beforeEffect .notRequired →
      sequence = writer.log.nextSequence ∧ response = operation.response sequence ∧
        decodeEvent entry = .ok (some (operation.fact sequence)) := by
    intro sequence observation response entry hseq hplan hentry
    obtain rfl := Except.ok.inj (hnext.symm.trans hseq)
    obtain ⟨hresponse, hfits, -⟩ := decodeEvent_planned serde hseq hplan hdigest hentry
    exact ⟨rfl, hresponse, hfits (dispatchFits_of_size (hentry ▸ planDispatch_detail hplan) hsize)⟩
  have houtcome := writer.process_outcome operation appendedAt io
  generalize writer.process operation appendedAt io = after at houtcome ⊢
  cases houtcome with
  | quiet _ hnone => exact absurd hdue (hnone _ hnext)
  | torn _ _ hkeeps => exact absurd ⟨hready.writing, hio.1 0, hio.2 0⟩ hkeeps
  | refused hseq hplan hentry _ hreplay =>
    obtain ⟨rfl, -, hdec⟩ := hread hseq hplan hentry
    rw [replayEntry_event hdec, happly] at hreplay
    cases hreplay
  | @recorded sequence observation response _ _ _ hseq hplan hentry _ happend hreplay =>
    obtain ⟨rfl, rfl, hdec⟩ := hread hseq hplan hentry
    rw [replayEntry_event hdec, happly] at hreplay
    cases hreplay
    have hready : writer.log.Ready (room + [observation].length) := hready
    obtain ⟨added, log, hlog, -, hroom, hafter⟩ := hready.appendDurableBatch hio
      (List.forall_mem_singleton.mpr (dispatchFact_ordinary (planDispatch_detail hplan))) appendedAt .beforeEffect
      .notRequired
    cases happend.symm.trans hlog
    exact ⟨_, _, rfl, hdec, hroom, hafter⟩

theorem DispatchWriter.process_reserve (serde : EventRoundTrip)
    {room : Nat} (hready : writer.log.Ready (room + 1)) {io : Io} (hio : io.Succeeds) (hvalid : claim.validate = .ok ())
    (hparse : KernelHost.parseTimestamp claim.acceptedAt.value = .ok now) (hcall : template.callId.isSome = true)
    (hfresh : (writer.index.retainAfter now).reservations[claim.keyDigest]? = none)
    (hsize : DispatchEvent.Small (.reserved ⟨claim, writer.log.nextSequence⟩))
    (appendedAt : String) :
    ∃ entry log, writer.process (.reserve claim template) appendedAt io =
        (.ok (.reserved ⟨claim, writer.log.nextSequence⟩),
          ⟨log, ⟨(writer.index.retainAfter now).reservations.insert claim.keyDigest ⟨claim, writer.log.nextSequence⟩⟩,
            writer.entries ++ [entry]⟩) ∧
      decodeEvent entry = .ok (some (.reserved ⟨claim, writer.log.nextSequence⟩)) ∧
      log.Ready room ∧ log.nextSequence = writer.log.nextSequence + 1 := by
  have hdue : writer.index.Due writer.log.nextSequence (.reserve claim template) := ⟨hcall, hvalid, now, hparse, hfresh⟩
  refine process_records serde hready hio hdue (CallDispatchClaimV1.validate_ok.mp hvalid).1 ?_ hsize appendedAt
  rw [(planDispatch_reserve writer.index _ claim template).1, CallDispatchIndexV1.check, hvalid]
  simp only [hparse]
  exact apply_fresh hfresh

end Mct

namespace Mct.DispatchSample

open Checked
open Sample (jsonObject jsonString jsonString_inj jsonNat jsonNat_inj jsonObject_inj Alike Members text text_injective
  Spelled jsonCodec jsonCodec_lawful jsonCodec_encode)
open Recovery.Sample (second)

deriving instance Countable for CallDispatchClaimV1, CallDispatchReservationV1, DispatchEvent

/-! ## A history that the next restart refuses -/

def claimAt (key : Char) (n : Nat) : CallDispatchClaimV1 :=
  ⟨String.ofList (.replicate 64 key), String.ofList (.replicate 64 'f'), second n, second (n + 720)⟩

def seconds : List Nat := [0, 100, 720, 820, 1000, 1720]

def claimMembers (claim : CallDispatchClaimV1) : Members :=
  [("key_digest", jsonString claim.keyDigest), ("fingerprint_digest", jsonString claim.fingerprintDigest),
    ("accepted_at", jsonString claim.acceptedAt.value), ("expires_at", jsonString claim.expiresAt.value)]

def reservationMembers (reservation : CallDispatchReservationV1) : Members :=
  [("claim", jsonObject (claimMembers reservation.claim)), ("attempt_sequence", jsonNat reservation.attemptSequence)]

def eventMembers : DispatchEvent → Members
  | .reserved reservation =>
    [("kind", jsonString "reserved"), ("reservation", jsonObject (reservationMembers reservation))]
  | .released keyDigest attemptSequence => [("kind", jsonString "released"), ("key_digest", jsonString keyDigest),
      ("attempt_sequence", jsonNat attemptSequence)]

def eventJson (event : DispatchEvent) : List Char := jsonObject (eventMembers event)

def SpelledEvent : DispatchEvent → Prop
  | .reserved reservation => Spelled reservation.claim.acceptedAt ∧ Spelled reservation.claim.expiresAt
  | .released _ _ => True

instance (event : DispatchEvent) : Decidable (SpelledEvent event) := by
  cases event with
  | reserved reservation => exact inferInstanceAs (Decidable (_ ∧ _))
  | released keyDigest attemptSequence => exact inferInstanceAs (Decidable True)

theorem claim_alike (c c' : CallDispatchClaimV1) : List.Forall₂ Alike (claimMembers c) (claimMembers c') := by
  simp [claimMembers]

theorem reservation_alike (r r' : CallDispatchReservationV1) :
    List.Forall₂ Alike (reservationMembers r) (reservationMembers r') := by
  simp [reservationMembers, claim_alike]

theorem reserved_alike (r r' : CallDispatchReservationV1) :
    List.Forall₂ Alike (eventMembers (.reserved r)) (eventMembers (.reserved r')) := by
  simp [eventMembers, reservation_alike]

theorem released_alike (keyDigest keyDigest' : String) (attempt attempt' : Nat) :
    List.Forall₂ Alike (eventMembers (.released keyDigest attempt)) (eventMembers (.released keyDigest' attempt')) := by
  simp [eventMembers]

theorem reserved_inj {r r' : CallDispatchReservationV1} (h : SpelledEvent (.reserved r))
    (h' : SpelledEvent (.reserved r')) (heq : eventJson (.reserved r) = eventJson (.reserved r')) : r = r' := by
  have hevent := jsonObject_inj (reserved_alike r r') heq
  simp only [eventMembers, List.cons.injEq, Prod.mk.injEq, true_and, and_true] at hevent
  have hreservation := jsonObject_inj (reservation_alike r r') hevent
  simp only [reservationMembers, List.cons.injEq, Prod.mk.injEq, true_and, and_true, jsonNat_inj] at hreservation
  obtain ⟨hclaim, hattempt⟩ := hreservation
  have hclaim := jsonObject_inj (claim_alike _ _) hclaim
  simp only [claimMembers, List.cons.injEq, Prod.mk.injEq, true_and, and_true, jsonString_inj] at hclaim
  obtain ⟨hkey, hprint, haccepted, hexpires⟩ := hclaim
  have haccepted := h.1.eq h'.1 haccepted
  have hexpires := h.2.eq h'.2 hexpires
  obtain ⟨⟨_, _, _, _⟩, _⟩ := r
  obtain ⟨⟨_, _, _, _⟩, _⟩ := r'
  simp only [CallDispatchReservationV1.mk.injEq, CallDispatchClaimV1.mk.injEq]
  exact ⟨⟨hkey, hprint, haccepted, hexpires⟩, hattempt⟩

theorem reserved_ne_released (r : CallDispatchReservationV1) (keyDigest : String) (attemptSequence : Nat) :
    eventJson (.reserved r) ≠ eventJson (.released keyDigest attemptSequence) := by
  intro heq
  have hreserved : (eventJson (.reserved r))[11]? = some 's' := rfl
  have hreleased : (eventJson (.released keyDigest attemptSequence))[11]? = some 'l' := rfl
  rw [heq, hreleased] at hreserved
  cases hreserved

theorem eventJson_inj {event event' : DispatchEvent} (h : SpelledEvent event) (h' : SpelledEvent event')
    (heq : eventJson event = eventJson event') : event = event' := by
  cases event with
  | reserved r =>
    cases event' with
    | reserved r' => rw [reserved_inj h h' heq]
    | released keyDigest attempt => exact absurd heq (reserved_ne_released _ _ _)
  | released keyDigest attempt =>
    cases event' with
    | reserved r => exact absurd heq.symm (reserved_ne_released _ _ _)
    | released keyDigest' attempt' =>
      have hevent := jsonObject_inj (released_alike _ _ _ _) heq
      simp only [eventMembers, List.cons.injEq, Prod.mk.injEq, true_and, and_true, jsonString_inj, jsonNat_inj] at hevent
      rw [hevent.1, hevent.2]

/-- **The codec of the dispatch events**: JSON, but for times that are misspelled. -/
noncomputable def eventCodec : Codec DispatchEvent String := jsonCodec text eventJson SpelledEvent

theorem eventCodec_lawful : eventCodec.Lawful :=
  jsonCodec_lawful text_injective (fun _ => ⟨_, rfl⟩) fun _ _ h h' heq => eventJson_inj h h' heq

theorem eventCodec_encode {event : DispatchEvent} (h : SpelledEvent event) :
    eventCodec.encode event = text (eventJson event) := jsonCodec_encode h

/-- The first key, another key after the first has expired, and the first key again, with an earlier reading or after its
own expiry. -/
def events : List DispatchEvent :=
  [.reserved ⟨claimAt 'a' 0, 1⟩, .reserved ⟨claimAt 'b' 1000, 2⟩, .reserved ⟨claimAt 'a' 100, 3⟩,
    .reserved ⟨claimAt 'a' 1000, 2⟩]

@[reducible] noncomputable def dispatchHost : DispatchHost := { Sample.hostOf {} with dispatchEvent := eventCodec }

noncomputable scoped instance : DispatchHost := dispatchHost

theorem parse_second : ∀ n ∈ seconds, KernelHost.parseTimestamp (second n).value = .ok (second n).epochNanoseconds := by
  decide +kernel

theorem text_size (cs : List Char) : (text cs).utf8ByteSize ≤ 4 * cs.length := by
  unfold text
  induction cs with
  | nil => simp
  | cons c cs ih =>
    have hsize : (String.ofList (c :: cs)).utf8ByteSize = c.utf8Size + (String.ofList cs).utf8ByteSize := by simp
    have hchar := c.utf8Size_le_four
    rw [hsize, List.length_cons]
    omega

theorem fits_of_length {event : DispatchEvent} (hspelled : SpelledEvent event) (hlength : (eventJson event).length ≤ 1024) :
    (eventCodec.encode event).utf8ByteSize ≤ 4096 := by
  have hsize := text_size (eventJson event)
  rw [eventCodec_encode hspelled]
  omega

theorem events_fit : ∀ event ∈ events, (eventCodec.encode event).utf8ByteSize ≤ 4096 := by
  have hsmall : ∀ event ∈ events, SpelledEvent event ∧ (eventJson event).length ≤ 1024 := by decide +kernel
  intro event hevent
  exact fits_of_length (hsmall event hevent).1 (hsmall event hevent).2

theorem claimAt_valid {key : Char} {n : Nat} (hkey : isDigestText (String.ofList (.replicate 64 key)) = true)
    (hacc : n ∈ seconds) (hexpires : n + 720 ∈ seconds) : (claimAt key n).validate = .ok () := by
  have hprint : isDigestText (String.ofList (.replicate 64 'f')) = true := by decide
  refine CallDispatchClaimV1.validate_ok.mpr ⟨hkey, hprint, _, parse_second n hacc, ?_, ?_⟩
  · have hlater : (second (n + 720)).epochNanoseconds =
        (second n).epochNanoseconds + mctIdempotencyTtlSeconds * 1000000000 := by
      simp only [second, mctIdempotencyTtlSeconds]
      push_cast
      ring
    rw [← hlater]
    exact parse_second (n + 720) hexpires
  · have hbound : ∀ n ∈ seconds, (second n).epochNanoseconds + mctIdempotencyTtlSeconds * 1000000000 ≤ maxTimestamp := by
      decide
    exact hbound n hacc

def template : MctObservation where
  observationId := ⟨"dispatch-o", by decide⟩
  observedAt := second 0
  kind := .callReceived
  sourcePlane := .kernel
  trace := .root ⟨"dispatch-t", by decide⟩
  callId := some ⟨"dispatch-c", by decide⟩
  decisionId := none
  subjectId := none
  resourceId := none
  policyRevision := none
  grantsRevision := none
  outcome := .started
  visibility := .internalOnly
  safeMessage := ""
  detailRef := none

noncomputable def first : MctObservationLedgerEntry :=
  sealedEntry ⟨"l", "m"⟩ 0 none template (second 0).value .beforeEffect .notRequired

noncomputable def start : DispatchWriter where
  log := ⟨"p", "l", "m", frameOf first, 1, some first.entryHash, .ready, .ok emptyAuthorityReplay, ∅, frameOf first,
    (frameOf first).length, some "o", (frameOf first).length⟩
  index := .empty
  entries := [first]

def steadyIo : Io := ⟨fun _ => .written, fun _ => .synced⟩

def reserveCall (claim : CallDispatchClaimV1) : DispatchCall := ⟨.reserve claim template, (second 0).value, steadyIo⟩

theorem after_reserveCall (writer : DispatchWriter) (claim : CallDispatchClaimV1) :
    writer.after (reserveCall claim) = (writer.process (.reserve claim template) (second 0).value steadyIo).2 := rfl

theorem runAll_cons (writer : DispatchWriter) (call : DispatchCall) (calls : List DispatchCall) :
    writer.runAll (call :: calls) = (writer.after call).runAll calls := rfl

theorem runAll_nil (writer : DispatchWriter) : writer.runAll [] = writer := rfl

def calls : List DispatchCall :=
  [reserveCall (claimAt 'a' 0), reserveCall (claimAt 'b' 1000), reserveCall (claimAt 'a' 100)]

noncomputable def reserved (index : CallDispatchIndexV1) (key : Char) (n sequence : Nat) : CallDispatchIndexV1 :=
  ⟨(index.retainAfter (second n).epochNanoseconds).reservations.insert (claimAt key n).keyDigest ⟨claimAt key n, sequence⟩⟩

theorem reserves {log : LedgerLog} {index : CallDispatchIndexV1} {entries : List MctObservationLedgerEntry} {key : Char}
    {n sequence room : Nat} (hready : log.Ready (room + 1)) (hnext : log.nextSequence = sequence)
    (hevent : .reserved ⟨claimAt key n, sequence⟩ ∈ events) (hvalid : (claimAt key n).validate = .ok ()) (hn : n ∈ seconds)
    (hfresh : (index.retainAfter (second n).epochNanoseconds).reservations[(claimAt key n).keyDigest]? = none) :
    ∃ entry log', DispatchWriter.process ⟨log, index, entries⟩ (.reserve (claimAt key n) template) (second 0).value
        steadyIo = (.ok (.reserved ⟨claimAt key n, sequence⟩),
          ⟨log', reserved index key n sequence, entries ++ [entry]⟩) ∧
      decodeEvent entry = .ok (some (.reserved ⟨claimAt key n, sequence⟩)) ∧
      log'.Ready room ∧ log'.nextSequence = sequence + 1 := by
  subst hnext
  exact @DispatchWriter.process_reserve _ ⟨log, index, entries⟩ _ _ _ eventCodec_lawful room hready _
    ⟨fun _ => rfl, fun _ => rfl⟩ hvalid (parse_second n hn) rfl hfresh (events_fit _ hevent) _

theorem start_rebuilt : rebuildIndex start.entries = .ok start.index := rfl

theorem first_key_fresh : (start.index.retainAfter
    (second 0).epochNanoseconds).reservations[(claimAt 'a' 0).keyDigest]? = none := rfl

theorem first_valid {n : Nat} (hacc : n ∈ seconds) (hexpires : n + 720 ∈ seconds) :
    (claimAt 'a' n).validate = .ok () := claimAt_valid (by decide) hacc hexpires

theorem other_valid : (claimAt 'b' 1000).validate = .ok () := claimAt_valid (by decide) (by decide) (by decide)

theorem start_reserves : ∃ entry log, start.process (.reserve (claimAt 'a' 0) template) (second 0).value steadyIo =
      (.ok (.reserved ⟨claimAt 'a' 0, 1⟩), ⟨log, reserved start.index 'a' 0 1, start.entries ++ [entry]⟩) ∧
    decodeEvent entry = .ok (some (.reserved ⟨claimAt 'a' 0, 1⟩)) ∧
    log.Ready 2 ∧ log.nextSequence = 2 := by
  have hready : start.log.Ready 3 := ⟨rfl, Nat.one_pos, rfl, rfl, by decide⟩
  have hevent : .reserved ⟨claimAt 'a' 0, 1⟩ ∈ events := List.mem_cons_self
  exact reserves hready rfl hevent (first_valid (by decide) (by decide)) (by decide) first_key_fresh

noncomputable def replayed : CallDispatchIndexV1 :=
  ⟨((∅ : TextMap CallDispatchReservationV1).insert (claimAt 'a' 0).keyDigest ⟨claimAt 'a' 0, 1⟩).insert
    (claimAt 'b' 1000).keyDigest ⟨claimAt 'b' 1000, 2⟩⟩

theorem replayed_fresh : ((∅ : TextMap CallDispatchReservationV1).insert (claimAt 'a' 0).keyDigest
    ⟨claimAt 'a' 0, 1⟩)[(claimAt 'b' 1000).keyDigest]? = none := by decide +kernel

theorem replayed_overlaps : replayed.apply (.reserved ⟨claimAt 'a' 100, 3⟩) = .error "overlapping dispatch reservations" := by
  have hprior : replayed.reservations[(claimAt 'a' 100).keyDigest]? = some ⟨claimAt 'a' 0, 1⟩ := by decide +kernel
  have hexpires : KernelHost.parseTimestamp (claimAt 'a' 0).expiresAt.value = .ok (second 720).epochNanoseconds :=
    parse_second 720 (by decide)
  have hacc : KernelHost.parseTimestamp (claimAt 'a' 100).acceptedAt.value = .ok (second 100).epochNanoseconds :=
    parse_second 100 (by decide)
  have hearly : decide ((second 100).epochNanoseconds < (second 720).epochNanoseconds) = true := by decide
  simp only [CallDispatchIndexV1.apply, hprior, hexpires, hacc, ok_bind, hearly, deny]
  rfl

/-- **The second reservation of a key is accepted because another key's later reading has made the writer forget the
first; every restart then refuses the ledger.** -/
theorem stepped_back_clock_blocks_restart :
    ((start.runAll (calls.take 2)).process (.reserve (claimAt 'a' 100) template) (second 0).value steadyIo).1 =
        .ok (.reserved ⟨claimAt 'a' 100, 3⟩) ∧
      rebuildIndex (start.runAll calls).entries = .error "overlapping dispatch reservations" ∧
      ¬ (start.runAll calls).Agrees := by
  obtain ⟨e₁, log₁, h₁, hd₁, hready₁, hnext₁⟩ := start_reserves
  have hevent₂ : .reserved ⟨claimAt 'b' 1000, 2⟩ ∈ events := List.mem_cons_of_mem _ List.mem_cons_self
  have hevent₃ : .reserved ⟨claimAt 'a' 100, 3⟩ ∈ events :=
    List.mem_cons_of_mem _ (List.mem_cons_of_mem _ List.mem_cons_self)
  obtain ⟨e₂, log₂, h₂, hd₂, hready₂, hnext₂⟩ := @reserves log₁ (reserved start.index 'a' 0 1)
    (start.entries ++ [e₁]) 'b' 1000 2 1 hready₁ hnext₁ hevent₂ other_valid (by decide) (by decide +kernel)
  obtain ⟨e₃, log₃, h₃, hd₃, -⟩ := @reserves log₂ (reserved (reserved start.index 'a' 0 1) 'b' 1000 2)
    (start.entries ++ [e₁] ++ [e₂]) 'a' 100 3 0 hready₂ hnext₂ hevent₃
    (first_valid (by decide) (by decide)) (by decide) (by decide +kernel)
  have htwo : start.runAll (calls.take 2) =
      ⟨log₂, reserved (reserved start.index 'a' 0 1) 'b' 1000 2, start.entries ++ [e₁] ++ [e₂]⟩ := by
    have htake : calls.take 2 = [reserveCall (claimAt 'a' 0), reserveCall (claimAt 'b' 1000)] := rfl
    rw [htake, runAll_cons, runAll_cons, runAll_nil, after_reserveCall start, h₁, after_reserveCall, h₂]
  have hthree : start.runAll calls = ((start.runAll (calls.take 2)).process (.reserve (claimAt 'a' 100) template)
      (second 0).value steadyIo).2 := by
    have htake : calls.take 2 = [reserveCall (claimAt 'a' 0), reserveCall (claimAt 'b' 1000)] := rfl
    rw [htake, calls, runAll_cons, runAll_cons, runAll_cons, runAll_nil, runAll_cons, runAll_cons, runAll_nil,
      after_reserveCall _ (claimAt 'a' 100)]
  have hreplayed : rebuildIndex (start.entries ++ [e₁] ++ [e₂]) = .ok replayed := by
    have hone : rebuildIndex (start.entries ++ [e₁]) =
        .ok ⟨(∅ : TextMap CallDispatchReservationV1).insert (claimAt 'a' 0).keyDigest ⟨claimAt 'a' 0, 1⟩⟩ := by
      refine rebuildIndex_snoc start_rebuilt hd₁ (CallDispatchIndexV1.apply_reserved_ok.mpr ⟨fun prior h => ?_, rfl⟩)
      cases h
    refine rebuildIndex_snoc hone hd₂ (CallDispatchIndexV1.apply_reserved_ok.mpr ⟨fun prior h => ?_, rfl⟩)
    rw [replayed_fresh] at h
    cases h
  have href : rebuildIndex (start.runAll calls).entries = .error "overlapping dispatch reservations" := by
    rw [hthree, htwo, h₃, rebuildIndex_append hreplayed, List.foldlM_cons, CallDispatchIndexV1.replayEntry_event hd₃,
      replayed_overlaps]
    rfl
  refine ⟨?_, href, ?_⟩
  · rw [htwo, h₃]
  · rintro ⟨rebuilt, hrebuilt, -⟩
    rw [href] at hrebuilt
    cases hrebuilt

theorem reserved_first {key : String} {record : CallDispatchReservationV1}
    (h : (reserved start.index 'a' 0 1).reservations[key]? = some record) : key = (claimAt 'a' 0).keyDigest := by
  have hinsert : ((∅ : TextMap CallDispatchReservationV1).insert (claimAt 'a' 0).keyDigest ⟨claimAt 'a' 0, 1⟩)[key]? =
      some record := h
  rw [Std.ExtTreeMap.getElem?_insert] at hinsert
  split at hinsert
  · exact (compare_eq_iff_eq.mp (by assumption)).symm
  · cases hinsert

theorem first_key_expired : ((reserved start.index 'a' 0 1).retainAfter
    (second 1000).epochNanoseconds).reservations[(claimAt 'a' 1000).keyDigest]? = none := by decide +kernel

theorem second_reserved : (reserved (reserved start.index 'a' 0 1) 'a' 1000 2).contains ⟨claimAt 'a' 1000, 2⟩ = true := by
  decide +kernel

/-- **A reservation that replaces the expired one of its own key** leaves a ledger that the next restart accepts. -/
theorem restart_agrees_after_expiry :
    rebuildIndex start.entries = .ok start.index ∧
      (start.runAll [reserveCall (claimAt 'a' 0), reserveCall (claimAt 'a' 1000)]).index.contains
        ⟨claimAt 'a' 1000, 2⟩ = true ∧
      (start.runAll [reserveCall (claimAt 'a' 0), reserveCall (claimAt 'a' 1000)]).Agrees := by
  obtain ⟨e₁, log₁, h₁, -, hready₁, hnext₁⟩ := start_reserves
  have hevent : .reserved ⟨claimAt 'a' 1000, 2⟩ ∈ events := by simp [events]
  have hvalid := first_valid (n := 1000) (by decide) (by decide)
  have hparse := parse_second 1000 (by decide)
  obtain ⟨e₂, log₂, h₂, -⟩ := @reserves log₁ (reserved start.index 'a' 0 1) (start.entries ++ [e₁]) 'a' 1000 2 1
    hready₁ hnext₁ hevent hvalid (by decide) first_key_expired
  have hone : start.after (reserveCall (claimAt 'a' 0)) = ⟨log₁, reserved start.index 'a' 0 1, start.entries ++ [e₁]⟩ := by
    rw [after_reserveCall, h₁]
  have htwo : start.runAll [reserveCall (claimAt 'a' 0), reserveCall (claimAt 'a' 1000)] =
      ⟨log₂, reserved (reserved start.index 'a' 0 1) 'a' 1000 2, start.entries ++ [e₁] ++ [e₂]⟩ := by
    rw [runAll_cons, runAll_cons, runAll_nil, hone, after_reserveCall, h₂]
  refine ⟨start_rebuilt, ?_, (dispatch_restart_agrees_iff eventCodec_lawful start start_rebuilt _).mpr ?_ _
    List.prefix_rfl⟩
  · rw [htwo]
    exact second_reserved
  intro front call hfront
  cases front with
  | nil =>
    obtain ⟨rfl, -⟩ := List.cons_prefix_cons.mp hfront
    refine ⟨fun sequence hrecords => ?_, fun now _ key record hrec => (by cases hrec)⟩
    obtain rfl : sequence = 1 := Except.ok.inj hrecords.next.symm
    exact events_fit _ List.mem_cons_self
  | cons other front =>
    obtain ⟨rfl, hsecond⟩ := List.cons_prefix_cons.mp hfront
    cases front with
    | cons other front => simp at hsecond
    | nil =>
      obtain ⟨rfl, -⟩ := List.cons_prefix_cons.mp hsecond
      rw [runAll_cons, runAll_nil, hone]
      have hnext : DispatchWriter.nextSequence ⟨log₁, reserved start.index 'a' 0 1, start.entries ++ [e₁]⟩ = .ok 2 :=
        hnext₁ ▸ hready₁.nextSequence (by decide)
      refine ⟨fun sequence hrecords => ?_, fun now _ key record hrec _ => ⟨⟨2, ?_⟩, reserved_first hrec⟩⟩
      · obtain rfl : sequence = 2 := Except.ok.inj (hrecords.next.symm.trans hnext)
        exact events_fit _ hevent
      · exact ⟨hnext, ⟨rfl, hvalid, _, hparse, first_key_expired⟩, ⟨hready₁.writing, rfl, rfl⟩⟩

end Mct.DispatchSample
