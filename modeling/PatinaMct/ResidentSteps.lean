import PatinaMct.DispatchRestart
import PatinaMct.Resident
/-!
# ResidentSteps — what one operation does to the ledger of a resident

Only the fence changes the dispatch index, and only its entries carry dispatch events.  Every other operation is
`Undisturbed`; one question to the fence is a `DispatchTurn`.  A batch that failed is remembered with the events it would
reveal, since a part of it may be there after the next start.
-/
namespace Mct

open Checked

variable [ResidentHost]

def MctObservation.isDispatchFact (observation : MctObservation) : Bool :=
  observation.detailRef.any fun detail => startsWith detail "mct-call-dispatch-"

variable {entry : MctObservationLedgerEntry}

theorem decodeEvent_none (h : entry.observation.isDispatchFact = false) :
    decodeEvent entry = .ok none := by
  unfold decodeEvent
  unfold MctObservation.isDispatchFact at h
  split
  · rfl
  · rename_i detail hdetail
    rw [hdetail, Option.any_some] at h
    rw [h]
    rfl

def Reveals (entry : MctObservationLedgerEntry) (event : DispatchEvent) : Prop :=
  decodeEvent entry = .ok (some event) ∨ ∃ error, decodeEvent entry = .error error

variable {event : DispatchEvent}

theorem Reveals.eq {other : DispatchEvent} (h : Reveals entry event)
    (hother : decodeEvent entry = .ok (some other)) : other = event := by
  obtain hevent | ⟨error, herror⟩ := h
  · rw [hevent] at hother
    cases hother
    rfl
  · rw [herror] at hother
    cases hother

theorem Reveals.of_replay (h : Reveals entry event)
    {index index' : CallDispatchIndexV1} (hrep : index.replayEntry entry = .ok index') :
    decodeEvent entry = .ok (some event) ∧ index.apply event = .ok index' := by
  obtain hevent | ⟨error, herror⟩ := h
  · rw [CallDispatchIndexV1.replayEntry_event hevent] at hrep
    exact ⟨hevent, hrep⟩
  · unfold CallDispatchIndexV1.replayEntry at hrep
    rw [herror] at hrep
    cases hrep

/-! ## Batches -/

variable {appendedAt : String} {observations : List MctObservation}

theorem prepareBatch_observation {id : LedgerIdentity} {seq : Nat} {prev : Option String}
    {prepared : List (MctObservationLedgerEntry × List UInt8)}
    (h : prepareBatch id appendedAt .beforeEffect .notRequired seq prev observations = .ok prepared) :
    ∀ item ∈ prepared, item.1.observation ∈ observations := by
  induction observations generalizing seq prev prepared with
  | nil =>
    cases h
    exact fun item hitem => absurd hitem List.not_mem_nil
  | cons observation observations ih =>
    simp only [prepareBatch, bind_ok, exists_unit, pure_ok] at h
    obtain ⟨-, rest, hrest, rfl⟩ := h
    intro item hitem
    obtain rfl | hmem := List.mem_cons.mp hitem
    · exact List.mem_cons_self
    · exact List.mem_cons_of_mem _ (ih hrest item hmem)

theorem appendDurableBatch_observation {log log' : LedgerLog} {io : Io} {appended : List MctObservationLedgerEntry}
    (h : log.appendDurableBatch observations appendedAt .beforeEffect .notRequired io = (.ok appended, log')) :
    ∀ entry ∈ appended, entry.observation ∈ observations := by
  have houtcome := appendDurableBatch_outcome log observations appendedAt .beforeEffect .notRequired io
  rw [h] at houtcome
  cases houtcome with
  | committed hmade _ _ =>
    intro entry hentry
    obtain ⟨item, hitem, rfl⟩ := List.mem_map.mp hentry
    exact prepareBatch_observation hmade item hitem

namespace Resident

variable {resident : Resident} {world : World}

variable {observations : List MctObservation} {entry : MctObservationLedgerEntry}

theorem sealed_observation (h : entry ∈ resident.sealed world observations) : entry.observation ∈ observations := by
  simp only [sealed] at h
  split at h
  · rename_i prepared hprep
    obtain ⟨item, hitem, rfl⟩ := List.mem_map.mp h
    exact prepareBatch_observation hprep item hitem
  · exact absurd h List.not_mem_nil

variable {observation : MctObservation}

theorem sealed_one (h : entry ∈ resident.sealed world [observation]) :
    entry = resident.writer.log.nextEntry observation world.clock.value .beforeEffect .notRequired := by
  simp only [sealed] at h
  split at h
  · rename_i prepared hprep
    simp only [prepareBatch, bind_ok, exists_unit, pure_ok, Except.ok.injEq] at hprep
    obtain ⟨-, _, rfl, rfl⟩ := hprep
    exact List.mem_singleton.mp h
  · exact absurd h List.not_mem_nil

/-! ## Operations beside the fence -/

/-- **The dispatch facts of the resident are as they were.** -/
structure Undisturbed (before after : Resident) : Prop where
  index : after.writer.index = before.writer.index
  entries : ∃ added, after.writer.entries = before.writer.entries ++ added ∧ ∀ entry ∈ added, decodeEvent entry = .ok none
  attempted : ∀ entry ∈ after.attempted, entry ∈ before.attempted ∨ decodeEvent entry = .ok none
  calm : after.fenced = false → before.fenced = false ∧ after.attempted = before.attempted

variable {before after : Resident}

theorem Undisturbed.of_writer (hwritten : after.writer = before.writer)
    (hfenced : after.fenced = before.fenced) (hattempted : after.attempted = before.attempted) :
    Undisturbed before after := by
  refine ⟨by rw [hwritten], ⟨[], by rw [hwritten, List.append_nil], fun _ h => absurd h List.not_mem_nil⟩, ?_, ?_⟩
  · rw [hattempted]
    exact fun _ h => Or.inl h
  · intro hcalm
    exact ⟨hfenced ▸ hcalm, hattempted⟩

theorem Undisturbed.refl (resident : Resident) : Undisturbed resident resident := .of_writer rfl rfl rfl

theorem statement_undisturbed {α : Type} (res : Except String (α × CallTables)) :
    Undisturbed resident (resident.statement world res).1 := by
  unfold statement
  split <;> exact .of_writer rfl rfl rfl

theorem append_undisturbed (h : ∀ observation ∈ observations, observation.isDispatchFact = false) :
    Undisturbed resident (resident.append world observations).1 := by
  have htimed : ∀ observation ∈ observations.map (MctObservation.timed world.clock),
      observation.isDispatchFact = false := by
    intro observation hobs
    obtain ⟨original, horiginal, rfl⟩ := List.mem_map.mp hobs
    exact h original horiginal
  unfold append
  split_ifs
  · exact Undisturbed.refl resident
  · exact Undisturbed.refl resident
  · simp only
    split
    · rename_i appended log happ
      refine ⟨rfl, ⟨appended, rfl, fun entry hentry => ?_⟩, fun _ h => Or.inl h, fun hcalm => ⟨hcalm, rfl⟩⟩
      exact decodeEvent_none (htimed _ (appendDurableBatch_observation happ entry hentry))
    · refine ⟨rfl, ⟨[], (List.append_nil _).symm, fun _ h => absurd h List.not_mem_nil⟩, fun entry hentry => Or.inr ?_,
        fun hcalm => by cases hcalm⟩
      exact decodeEvent_none (htimed _ (sealed_observation hentry))

theorem settlementObservation_plain (t : Timestamp) (st : Settlement) :
    (settlementObservation t st).isDispatchFact = false := by
  simp only [MctObservation.isDispatchFact, settlementObservation, Option.any_some, startsWith, String.toList_append]
  rfl

theorem settle_undisturbed : Undisturbed resident (resident.settle world) := by
  have hfacts : ∀ observation ∈ resident.prior.facts world.clock, observation.isDispatchFact = false := by
    intro observation hobs
    unfold PriorTenure.facts at hobs
    obtain ⟨st, -, rfl⟩ := List.mem_map.mp (List.mem_filter.mp hobs).1
    exact settlementObservation_plain _ _
  have happ : Undisturbed resident (resident.append world (resident.prior.facts world.clock)).1 :=
    append_undisturbed hfacts
  unfold settle
  split
  · rename_i heq
    rw [heq] at happ
    exact happ
  · rename_i heq
    rw [heq] at happ
    split <;> exact ⟨happ.index, happ.entries, happ.attempted, happ.calm⟩

theorem runOp_undisturbed (op : RunOp)
    (h : ∀ observations, op = .append observations → ∀ observation ∈ observations, observation.isDispatchFact = false) :
    Undisturbed resident (op.perform world resident).1 := by
  cases op with
  | readClock => exact Undisturbed.refl resident
  | append observations => exact append_undisturbed (h observations rfl)
  | getRun runId => exact statement_undisturbed _
  | insertRun run => exact statement_undisturbed _
  | completeRun runId res => exact statement_undisturbed _
  | ask question => exact Undisturbed.refl resident

/-! ## The fence -/

/-- **One question to the fence**: nothing happens; a claim is answered without a reservation, and expired reservations
are forgotten; a claim is granted; a reservation is released, or tried to be. -/
inductive DispatchTurn (before : Resident) : DispatchOperation → Resident → Except String DispatchResponse → Prop
  | idle {operation : DispatchOperation} {after : Resident} {reply : Except String DispatchResponse} :
      after.writer.index = before.writer.index → after.writer.entries = before.writer.entries →
      (∀ entry ∈ after.attempted, entry ∈ before.attempted) →
      (∀ reservation, reply ≠ .ok (.reserved reservation)) → DispatchTurn before operation after reply
  | answered {claim : CallDispatchClaimV1} {template : MctObservation} {after : Resident}
      {reply : Except String DispatchResponse} {now : Int} {sequence : Nat} {added : List MctObservationLedgerEntry} :
      KernelHost.parseTimestamp claim.acceptedAt.value = .ok now →
      after.writer.index = before.writer.index.retainAfter now → after.writer.entries = before.writer.entries ++ added →
      (∀ entry ∈ added, Reveals entry (.reserved ⟨claim, sequence⟩)) →
      (∀ entry ∈ after.attempted, entry ∈ before.attempted ∨ Reveals entry (.reserved ⟨claim, sequence⟩)) →
      (∀ reservation, reply ≠ .ok (.reserved reservation)) →
      DispatchTurn before (.reserve claim template) after reply
  | granted {claim : CallDispatchClaimV1} {template : MctObservation} {after : Resident} {now : Int} {sequence : Nat}
      {entry : MctObservationLedgerEntry} :
      before.fenced = false → claim.validate = .ok () → KernelHost.parseTimestamp claim.acceptedAt.value = .ok now →
      (before.writer.index.retainAfter now).reservations[claim.keyDigest]? = none →
      after.writer.index =
        ⟨(before.writer.index.retainAfter now).reservations.insert claim.keyDigest ⟨claim, sequence⟩⟩ →
      after.writer.entries = before.writer.entries ++ [entry] →
      decodeEvent entry = .ok (some (.reserved ⟨claim, sequence⟩)) → after.attempted = before.attempted →
      DispatchTurn before (.reserve claim template) after (.ok (.reserved ⟨claim, sequence⟩))
  | released {reservation : CallDispatchReservationV1} {template : MctObservation} {after : Resident}
      {reply : Except String DispatchResponse} {added : List MctObservationLedgerEntry} :
      before.writer.index.contains reservation = true →
      (after.writer.index = before.writer.index ∨
        after.writer.index = ⟨before.writer.index.reservations.erase reservation.claim.keyDigest⟩) →
      after.writer.entries = before.writer.entries ++ added →
      (∀ entry ∈ added, Reveals entry (.released reservation.claim.keyDigest reservation.attemptSequence)) →
      (∀ entry ∈ after.attempted, entry ∈ before.attempted ∨
        Reveals entry (.released reservation.claim.keyDigest reservation.attemptSequence)) →
      (∀ reservation, reply ≠ .ok (.reserved reservation)) →
      DispatchTurn before (.release reservation template) after reply

variable {index : CallDispatchIndexV1} {sequence : Nat} {operation : DispatchOperation} {response : DispatchResponse}

/-- What the fence appends reveals the fact of the operation, which tells the answer. -/
theorem planned_reveals (serde : EventRoundTrip) {writer : DispatchWriter}
    (hkeyed : writer.index.WellKeyed) (hseq : writer.nextSequence = .ok sequence)
    (hplan : (planDispatch writer.index sequence operation).1 = .ok (.append observation response)) {appendedAt : String}
    (hentry : entry = writer.log.nextEntry observation appendedAt .beforeEffect .notRequired) :
    response = operation.response sequence ∧ Reveals entry (operation.fact sequence) := by
  have hdue := (planDispatch_due (writer.nextSequence_ok hseq).2).mp ⟨_, _, hplan⟩
  obtain ⟨hresponse, hfits, hlarge⟩ := decodeEvent_planned serde hseq hplan (hdue.digest hkeyed) hentry
  by_cases h : DispatchFits entry
  · exact ⟨hresponse, Or.inl (hfits h)⟩
  · exact ⟨hresponse, Or.inr ⟨_, hlarge h⟩⟩

/-- What is sealed for a question is the entry of its plan. -/
theorem sealed_planned (h : entry ∈ resident.sealed world (resident.plannedObservations operation)) :
    ∃ sequence observation response, resident.writer.nextSequence = .ok sequence ∧
      (planDispatch resident.writer.index sequence operation).1 = .ok (.append observation response) ∧
      ∃ appendedAt, entry = resident.writer.log.nextEntry observation appendedAt .beforeEffect .notRequired := by
  unfold plannedObservations at h
  split at h
  · exact absurd (sealed_observation h) List.not_mem_nil
  · rename_i sequence hseq
    split at h
    · rename_i observation response hplan
      exact ⟨sequence, observation, response, hseq, hplan, _, sealed_one h⟩
    · exact absurd (sealed_observation h) List.not_mem_nil

variable {operation : DispatchOperation} {reply : Except String DispatchResponse} {writer : DispatchWriter}

theorem answeredBy_writer : (resident.answeredBy world operation (reply, writer)).1.writer = writer := by
  cases reply <;> rfl

theorem answeredBy_reply : (resident.answeredBy world operation (reply, writer)).2 = reply := by
  cases reply <;> rfl

theorem answeredBy_attempted (h : entry ∈ (resident.answeredBy world operation (reply, writer)).1.attempted) :
    entry ∈ resident.attempted ∨ entry ∈ resident.sealed world (resident.plannedObservations operation) := by
  cases reply with
  | ok response => exact Or.inl h
  | error err =>
    simp only [answeredBy] at h
    split at h
    · exact Or.inr h
    · exact absurd h List.not_mem_nil

theorem answeredBy_quiet
    (h : ∀ sequence, resident.writer.nextSequence = .ok sequence → ¬ resident.writer.index.Due sequence operation)
    (hentry : entry ∈ (resident.answeredBy world operation (reply, writer)).1.attempted) : entry ∈ resident.attempted := by
  obtain hold | hnew := answeredBy_attempted hentry
  · exact hold
  · obtain ⟨sequence, observation, response, hseq, hplan, -⟩ := sealed_planned hnew
    exact absurd ((planDispatch_due (resident.writer.nextSequence_ok hseq).2).mp ⟨_, _, hplan⟩) (h sequence hseq)

theorem answeredBy_reveals (serde : EventRoundTrip) (hkeyed : resident.writer.index.WellKeyed)
    (hseq : resident.writer.nextSequence = .ok sequence)
    (hentry : entry ∈ (resident.answeredBy world operation (reply, writer)).1.attempted) :
    entry ∈ resident.attempted ∨ Reveals entry (operation.fact sequence) := by
  refine (answeredBy_attempted hentry).imp_right fun hnew => ?_
  obtain ⟨_, _, _, hseq', hplan, _, hmade⟩ := sealed_planned hnew
  obtain rfl := Except.ok.inj (hseq.symm.trans hseq')
  exact (planned_reveals serde hkeyed hseq hplan hmade).2

theorem forgetsAt_parse {claim : CallDispatchClaimV1} {template : MctObservation} {now : Int}
    (h : writer.forgetsAt (.reserve claim template) = some now) :
    KernelHost.parseTimestamp claim.acceptedAt.value = .ok now := by
  simp only [DispatchWriter.forgetsAt] at h
  split at h
  · cases hparse : KernelHost.parseTimestamp claim.acceptedAt.value with
    | error err =>
      rw [hparse] at h
      cases h
    | ok read =>
      rw [hparse] at h
      exact congrArg Except.ok (Option.some.inj h)
  · cases h

/-- **A fact that is not applied**: the index is that of the check, whether the ledger has the fact or not. -/
theorem failed_turn (serde : EventRoundTrip) (hkeyed : resident.writer.index.WellKeyed)
    (hseq : resident.writer.nextSequence = .ok sequence)
    (hplan : (planDispatch resident.writer.index sequence operation).1 = .ok (.append observation response))
    {added : List MctObservationLedgerEntry} (hadded : ∀ other ∈ added, Reveals other (operation.fact sequence))
    {err : String} {log : LedgerLog} (hwriter : writer =
      ⟨log, (planDispatch resident.writer.index sequence operation).2, resident.writer.entries ++ added⟩) :
    DispatchTurn resident operation (resident.answeredBy world operation (.error err, writer)).1
      (resident.answeredBy world operation (.error err, writer)).2 := by
  have hdue := (planDispatch_due (resident.writer.nextSequence_ok hseq).2).mp ⟨_, _, hplan⟩
  have hattempted := fun entry => @answeredBy_reveals _ resident world entry sequence operation (.error err) writer serde
    hkeyed hseq
  subst hwriter
  cases operation with
  | reserve claim template =>
    obtain ⟨-, -, hstale⟩ | ⟨now, -, hparse, hretains, -⟩ := resident.writer.check_index hseq claim template
    · exact absurd (CallDispatchIndexV1.check_fresh.mpr hdue.2) hstale
    · exact .answered hparse ((planDispatch_reserve _ sequence claim template).1.trans hretains) rfl hadded hattempted
        fun _ h => (by cases h)
  | release reservation template =>
    exact .released hdue.2.1 (Or.inl (planDispatch_release _ sequence reservation template).1) rfl hadded hattempted
      fun _ h => (by cases h)

theorem writer_turn (serde : EventRoundTrip) (hkeyed : resident.writer.index.WellKeyed)
    (hfenced : resident.fenced = false) (operation : DispatchOperation) :
    DispatchTurn resident operation
      (resident.answeredBy world operation (resident.writer.process operation world.clock.value world.io)).1
      (resident.answeredBy world operation (resident.writer.process operation world.clock.value world.io)).2 := by
  have houtcome := resident.writer.process_outcome operation world.clock.value world.io
  generalize resident.writer.process operation world.clock.value world.io = answer at houtcome ⊢
  cases houtcome with
  | @quiet reply index hstep hdue hreply =>
    have hreply' : ∀ reservation, (resident.answeredBy world operation
        (reply, { resident.writer with index := index })).2 ≠ .ok (.reserved reservation) := by
      rw [answeredBy_reply]
      exact hreply
    cases hstep with
    | idle => exact .idle (by rw [answeredBy_writer]) (by rw [answeredBy_writer]) (fun _ => answeredBy_quiet hdue) hreply'
    | @forgets now hnow =>
      cases operation with
      | release reservation template => cases hnow
      | reserve claim template =>
        have hnone : ∀ entry ∈ ([] : List MctObservationLedgerEntry), Reveals entry (.reserved ⟨claim, 0⟩) :=
          fun _ h => absurd h List.not_mem_nil
        exact .answered (forgetsAt_parse hnow) (by rw [answeredBy_writer])
          (by rw [answeredBy_writer]; exact (List.append_nil _).symm) hnone
          (fun _ h => Or.inl (answeredBy_quiet hdue h)) hreply'
  | torn hseq hplan =>
    exact failed_turn serde hkeyed hseq hplan (fun _ h => absurd h List.not_mem_nil) (by rw [List.append_nil])
  | refused hseq hplan hentry =>
    exact failed_turn serde hkeyed hseq hplan
      (List.forall_mem_singleton.mpr (planned_reveals serde hkeyed hseq hplan hentry).2) rfl
  | recorded hseq hplan hentry _ _ hreplay =>
    have hdue := (planDispatch_due (resident.writer.nextSequence_ok hseq).2).mp ⟨_, _, hplan⟩
    obtain ⟨rfl, hreveals⟩ := planned_reveals serde hkeyed hseq hplan hentry
    obtain ⟨hdec, happly⟩ := hreveals.of_replay hreplay
    cases operation with
    | reserve claim template =>
      have hfresh := CallDispatchIndexV1.check_fresh.mpr hdue.2
      obtain ⟨-, -, hstale⟩ | ⟨now, -, hparse, hretains, hnone⟩ := resident.writer.check_index hseq claim template
      · exact absurd hfresh hstale
      obtain ⟨-, rfl⟩ := CallDispatchIndexV1.apply_reserved_ok.mp happly
      rw [(planDispatch_reserve _ _ claim template).1, hretains]
      exact .granted hfenced hdue.2.1 hparse (hnone hfresh) rfl rfl hdec rfl
    | release reservation template =>
      rw [(planDispatch_release _ _ reservation template).1] at happly
      obtain rfl := Except.ok.inj ((CallDispatchIndexV1.apply_released hdue.2.1).symm.trans happly)
      exact .released hdue.2.1 (Or.inr rfl) rfl (List.forall_mem_singleton.mpr hreveals) (fun _ h => Or.inl h)
        fun _ h => (by cases h)

theorem DispatchTurn.of_timed (time : Timestamp)
    (h : DispatchTurn before (timedDispatch time operation) after reply) : DispatchTurn before operation after reply := by
  cases operation with
  | reserve claim template =>
    cases h with
    | idle hindex hents hattempted hreply => exact .idle hindex hents hattempted hreply
    | answered hparse hindex hents hadded hattempted hreply =>
      exact .answered hparse hindex hents hadded hattempted hreply
    | granted hfenced hvalid hparse hnone hindex hents hdec hattempted =>
      exact .granted hfenced hvalid hparse hnone hindex hents hdec hattempted
  | release rv template =>
    cases h with
    | idle hindex hents hattempted hreply => exact .idle hindex hents hattempted hreply
    | released hcont hindex hents hadded hattempted hreply =>
      exact .released hcont hindex hents hadded hattempted hreply

theorem dispatch_turn (serde : EventRoundTrip) (hkeyed : resident.writer.index.WellKeyed)
    (operation : DispatchOperation) :
    DispatchTurn resident operation (resident.dispatch world operation).1 (resident.dispatch world operation).2 := by
  unfold dispatch
  split_ifs with hfenced
  · exact .idle rfl rfl (fun _ h => h) fun _ => by simp
  · exact .idle rfl rfl (fun _ h => h) fun _ => by simp
  · exact .of_timed world.clock (writer_turn serde hkeyed (by simpa using hfenced) _)

theorem DispatchTurn.wellKeyed (h : DispatchTurn before operation after reply)
    (hkeyed : before.writer.index.WellKeyed) : after.writer.index.WellKeyed := by
  cases h with
  | idle hindex => rwa [hindex]
  | answered hparse hindex =>
    rw [hindex]
    exact hkeyed.retainAfter _
  | @granted claim template after now sequence entry hfenced hvalid hparse hnone hindex =>
    rw [hindex]
    have hres : (⟨claim, sequence⟩ : CallDispatchReservationV1).claim.validate = .ok () := hvalid
    exact (hkeyed.retainAfter now).insert hres
  | released hcont hindex =>
    obtain hindex | hindex := hindex
    · rwa [hindex]
    · rw [hindex]
      exact hkeyed.erase _

theorem dispatch_calm (h : (resident.dispatch world operation).1.fenced = false) :
    resident.fenced = false ∧ (resident.dispatch world operation).1.attempted = resident.attempted := by
  unfold dispatch at h ⊢
  split_ifs at h ⊢ with hfenced
  · exact ⟨h, rfl⟩
  · refine ⟨by simpa using hfenced, ?_⟩
    simp only at h ⊢
    generalize resident.writer.process _ _ _ = answer at h ⊢
    obtain ⟨reply, writer⟩ := answer
    cases reply with
    | ok response => rfl
    | error err => cases h

end Resident

end Mct
