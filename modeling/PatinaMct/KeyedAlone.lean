import PatinaMct.KeyedPaths
import PatinaMct.ResidentProgress
/-!
# KeyedAlone — a keyed request that is handled without others

The handler in worlds where nothing fails: what its reservation in the tables and its question to the fence are answered
decides whether it starts its execution, and what the execution answers decides what it leaves under the key.
-/
namespace Mct

open Checked
open Resumption

/-! ## The tables -/

def MctIdempotencyEntryState.answer : MctIdempotencyEntryState → MctIdempotencyReservation
  | .inFlight => .refused .idempotencyInProgress
  | .completed reply => .replay reply

namespace CallTables

variable {tables : CallTables} {scope key : String} {fingerprint : MctIdempotencyFingerprint} {now expiresAt : Timestamp}

def Absent (tables : CallTables) (scope key : String) : Prop := ∀ row ∈ tables.entries, row.primaryKey ≠ (scope, key)

def HasBudget (tables : CallTables) (scope : String) (now : Timestamp) : Prop :=
  ((tables.unexpired now).countP fun row => row.callerScope == scope) < mctIdempotencyMaxEntriesPerCaller

instance : Decidable (tables.HasBudget scope now) := inferInstanceAs (Decidable (_ < _))

theorem Absent.unexpired (h : tables.Absent scope key) :
    (scope, key) ∉ (tables.unexpired now).map CallIdempotencyEntry.primaryKey := by
  intro hmem
  obtain ⟨row, hrow, hkey⟩ := List.mem_map.mp hmem
  exact h row (List.mem_of_mem_filter hrow) hkey

theorem reason_free (h : (scope, key) ∉ (tables.unexpired now).map CallIdempotencyEntry.primaryKey) :
    tables.reservationReason scope key fingerprint now =
      if tables.HasBudget scope now then .executeFresh else .idempotencyBudgetFull := by
  have hnone : (tables.unexpired now).find? (fun row => row.primaryKey == (scope, key)) = none := by
    rw [List.find?_eq_none]
    intro row hrow hkey
    exact h (List.mem_map.mpr ⟨row, hrow, beq_iff_eq.mp hkey⟩)
  simp only [reservationReason, hnone, evaluateIdempotencyRequest, liveEntry, Option.filter_none]
  by_cases hbudget : tables.HasBudget scope now
  · rw [if_pos hbudget, if_neg (Nat.not_le.mpr hbudget)]
  · rw [if_neg hbudget, if_pos (Nat.not_lt.mp hbudget)]

theorem reserve_free (h : (scope, key) ∉ (tables.unexpired now).map CallIdempotencyEntry.primaryKey)
    (hblank : (trimmedEmpty scope || trimmedEmpty key) = false) (hexpiry : now < expiresAt) (fingerprint : MctIdempotencyFingerprint) :
    ∃ tables', tables.reserve scope key fingerprint now expiresAt =
        .ok (if tables.HasBudget scope now then .executeFresh else .refused .idempotencyBudgetFull, tables') ∧
      tables'.runs = tables.runs ∧
      tables'.entries = tables.unexpired now ++
        if tables.HasBudget scope now then [reservedEntry scope key fingerprint now expiresAt] else [] := by
  have hlater : decide (expiresAt ≤ now) = false := by
    rw [Timestamp.lt_def] at hexpiry
    rw [decide_eq_false_iff_not, Timestamp.le_def]
    omega
  unfold CallTables.reserve
  rw [hblank, hlater, reason_free h]
  by_cases hbudget : tables.HasBudget scope now
  · simp only [hbudget, if_true, deny, Bool.false_eq_true, if_false, ok_bind, insertEntry, dif_neg h]
    exact ⟨_, rfl, rfl, rfl⟩
  · simp only [hbudget, if_false, deny, Bool.false_eq_true, ok_bind]
    exact ⟨_, rfl, rfl, (List.append_nil _).symm⟩

/-- **The row under the key**, with the fingerprint and the expiry of a reservation. -/
def Keeps (tables : CallTables) (scope key : String) (fingerprint : MctIdempotencyFingerprint) (expiresAt : Timestamp)
    (state : MctIdempotencyEntryState) : Prop :=
  ∃ row ∈ tables.entries, row.primaryKey = (scope, key) ∧ row.fingerprint = fingerprint ∧ row.expiresAt = expiresAt ∧
    row.state = state

variable {tables' : CallTables} {state : MctIdempotencyEntryState}

theorem Keeps.of_entries (h : tables.Keeps scope key fingerprint expiresAt state) (hsame : tables'.entries = tables.entries) :
    tables'.Keeps scope key fingerprint expiresAt state := by
  obtain ⟨row, hrow, hrest⟩ := h
  exact ⟨row, hsame ▸ hrow, hrest⟩

theorem Keeps.reserve (h : tables.Keeps scope key fingerprint expiresAt state)
    (hblank : (trimmedEmpty scope || trimmedEmpty key) = false) {later : Timestamp} (hnow : now < later)
    (htext : ¬ expiresAt.value ≤ now.value) (hlive : now < expiresAt) :
    ∃ kept, tables.reserve scope key fingerprint now later = .ok
      (state.answer, kept) := by
  obtain ⟨row, hrow, hkey, rfl, rfl, rfl⟩ := h
  have hlater : decide (later ≤ now) = false := by
    rw [Timestamp.lt_def] at hnow
    rw [decide_eq_false_iff_not, Timestamp.le_def]
    omega
  have hmem : row ∈ tables.unexpired now := List.mem_filter.mpr ⟨hrow, by simpa using htext⟩
  have hfind : (tables.unexpired now).find? (fun row => row.primaryKey == (scope, key)) = some row := by
    have hsome : ((tables.unexpired now).find? fun row => row.primaryKey == (scope, key)).isSome = true :=
      List.find?_isSome.mpr ⟨row, hmem, beq_iff_eq.mpr hkey⟩
    obtain ⟨found, hfound⟩ := Option.isSome_iff_exists.mp hsome
    have hsame : found.primaryKey = (scope, key) := by simpa using List.find?_some hfound
    rw [hfound, row_eq hrow (List.mem_of_mem_filter (List.mem_of_find?_eq_some hfound)) (hsame.trans hkey.symm)]
  unfold CallTables.reserve
  rw [hblank, hlater]
  simp only [reservationReason, hfind, evaluateIdempotencyRequest, liveEntry, Option.filter_some, hlive, decide_true, if_true,
    deny, Bool.false_eq_true, if_false, ok_bind, ne_eq, not_true_eq_false, CallIdempotencyEntry.isInFlight]
  obtain hstate | ⟨reply, hstate⟩ : row.state = .inFlight ∨ ∃ reply, row.state = .completed reply := by
    cases row.state with
    | inFlight => exact Or.inl rfl
    | completed reply => exact Or.inr ⟨reply, rfl⟩
  · simp only [hstate]
    exact ⟨_, rfl⟩
  · simp only [hstate, Option.map_some]
    exact ⟨_, rfl⟩

theorem bind_row {row : CallIdempotencyEntry} (hrow : row ∈ tables.entries) (hflight : row.isInFlight = true)
    (hnone : row.executionCallId = none) (execution : CallId) :
    ∃ tables', tables.bindExecution row.callerScope row.idempotencyKey row.fingerprint execution = .ok tables' ∧
      tables'.Keeps row.callerScope row.idempotencyKey row.fingerprint row.expiresAt .inFlight := by
  have hself : (row.isReservation row.callerScope row.idempotencyKey row.fingerprint && row.executionCallId.isNone) =
      true := by
    rw [CallIdempotencyEntry.isReservation_self hflight, hnone]
    rfl
  have hunbound : tables.unbound row.callerScope row.idempotencyKey row.fingerprint =
      tables.entries.filter fun row' => row' == row := by
    unfold unbound
    refine List.filter_congr fun row' hrow' => ?_
    rw [Bool.eq_iff_iff, beq_iff_eq]
    constructor
    · intro h
      rw [Bool.and_eq_true] at h
      exact eq_of_isReservation hrow hrow' h.1
    · rintro rfl
      exact hself
  have hone : (tables.unbound row.callerScope row.idempotencyKey row.fingerprint).length = 1 := by
    rw [hunbound, List.filter_beq, List.length_replicate]
    exact List.count_eq_one_of_mem (List.Nodup.of_map _ tables.entryKeys) hrow
  unfold bindExecution
  rw [hone]
  refine ⟨_, rfl, { row with executionCallId := some execution }, ?_, rfl, rfl, rfl,
    beq_iff_eq.mp hflight⟩
  refine List.mem_map.mpr ⟨row, hrow, ?_⟩
  rw [if_pos hself]

theorem Keeps.complete (h : tables.Keeps scope key fingerprint expiresAt .inFlight) {reply : MctRecordedCallReply}
    (hfits : (reply.inlineResultPayload.any fun pl => decide (mctResultInlinePayloadMaxBytes < pl.length)) =
      false) :
    ∃ tables', tables.complete scope key fingerprint reply = .ok tables' ∧
      tables'.Keeps scope key fingerprint expiresAt (.completed reply) := by
  obtain ⟨row, hrow, hkey, rfl, rfl, hstate⟩ := h
  obtain ⟨rfl, rfl⟩ := Prod.mk.inj hkey
  have hflight : row.isInFlight = true := beq_iff_eq.mpr hstate
  obtain ⟨tables', hcomp, -, hents⟩ := complete_row hrow hflight hfits
  refine ⟨tables', hcomp, { row with state := .completed reply }, ?_, rfl, rfl, rfl, rfl⟩
  rw [hents, completeCallIdempotency]
  refine List.mem_map.mpr ⟨row, hrow, ?_⟩
  rw [if_pos (CallIdempotencyEntry.isReservation_self hflight)]

theorem Keeps.release (h : tables.Keeps scope key fingerprint expiresAt .inFlight) :
    (tables.release scope key fingerprint).Absent scope key := by
  obtain ⟨row, hrow, hkey, rfl, rfl, hstate⟩ := h
  intro other hother hsame
  obtain ⟨hmem, hnot⟩ := List.mem_filter.mp hother
  obtain rfl := row_eq hrow hmem (hsame.trans hkey.symm)
  have hflight : other.isInFlight = true := beq_iff_eq.mpr hstate
  rw [CallIdempotencyEntry.isReservation, hsame, hflight] at hnot
  simp at hnot

end CallTables

/-! ## The handler -/

abbrev CallTables.KeepsFor (tables : CallTables) (keyed : KeyedCall) (state : MctIdempotencyEntryState) : Prop :=
  tables.Keeps keyed.callerScope keyed.key keyed.fingerprint keyed.expiresAt state

abbrev CallTables.AbsentFor (tables : CallTables) (keyed : KeyedCall) : Prop := tables.Absent keyed.callerScope keyed.key

abbrev CallTables.OpenFor (tables : CallTables) (keyed : KeyedCall) : Prop :=
  tables.KeepsFor keyed .inFlight ∨ tables.AbsentFor keyed

variable [ResidentHost] {resident : Resident} {worlds : Nat → World} {room : Nat}

theorem CallDispatchIndexV1.empty_fresh (now : Int) (key : String) :
    (CallDispatchIndexV1.empty.retainAfter now).reservations[key]? = none := by
  rw [Option.eq_none_iff_forall_ne_some]
  intro record hrec
  have hempty := (retainAfter_some.mp hrec).1
  rw [CallDispatchIndexV1.empty] at hempty
  simp at hempty

def CallProg.alone (program : CallProg) (worlds : Nat → World) (resident : Resident) :
    Outcome Resident CallOp CallOp.Reply MctIrohCallHandlerResult := program.exec CallOp.perform worlds resident

abbrev CallProg.Leads (program : CallProg) (worlds : Nat → World) (resident : Resident) (events : List CallEvent)
    (rest : CallProg) (final : Resident) : Prop := Prog.Leads CallOp.perform program worlds resident events rest final

theorem CallProg.Leads.alone {prog rest : CallProg} {final : Resident} {events : List CallEvent}
    (h : prog.Leads worlds resident events rest final) :
    prog.alone worlds resident =
      let after := rest.alone (fun n => worlds (n + events.length)) final
      { after with events := events ++ after.events } :=
  Prog.Leads.exec h

theorem CallProg.IsQuiet.alone {prog : CallProg} (h : prog.IsQuiet) :
    KeyedCall.startEvent ∉ (prog.alone worlds resident).events := by
  intro hmem
  have hquiet := h.path (prog.exec_path CallOp.perform worlds resident) _ hmem
  cases hquiet

theorem CallProg.alone_act {op : CallOp} {next : op.Reply → CallProg} {resident' : Resident} {reply : op.Reply}
    (h : op.perform (worlds 0) resident = (resident', reply)) :
    CallProg.alone (.act op next) worlds resident =
      { CallProg.alone (next reply) (fun n => worlds (n + 1)) resident' with
        events := ⟨op, reply⟩ :: (CallProg.alone (next reply) (fun n => worlds (n + 1)) resident').events } := by
  unfold CallProg.alone
  rw [Prog.exec, h]

namespace KeyedCall

abbrev next (keyed : KeyedCall) (resident : Resident) : CallDispatchReservationV1 :=
  ⟨keyed.claim, resident.writer.log.nextSequence⟩

abbrev Recordable (keyed : KeyedCall) (resident : Resident) : Prop :=
  DispatchEvent.Small (.reserved (keyed.next resident))

/-- The row that a reservation of the key inserts. -/
abbrev row (keyed : KeyedCall) : CallIdempotencyEntry :=
  CallTables.reservedEntry keyed.callerScope keyed.key keyed.fingerprint keyed.now keyed.expiresAt

/-- The tables answer the request for its key. -/
abbrev Reserves (keyed : KeyedCall) (tables : CallTables) (answer : MctIdempotencyReservation) (after : CallTables) : Prop :=
  tables.reserve keyed.callerScope keyed.key keyed.fingerprint keyed.now keyed.expiresAt = .ok (answer, after)

abbrev reserving (keyed : KeyedCall) (answer : MctIdempotencyReservation) : CallEvent :=
  ⟨.reserve keyed.callerScope keyed.key keyed.fingerprint keyed.now keyed.expiresAt, .ok answer⟩

variable {keyed : KeyedCall} {execute : RunProg MctIrohCallHandlerResult} {now : Int}

theorem observation_ordinary {id : ObservationId} {kind : ObservationKind} {out : ObservationOutcome}
    {message rest : String} :
    validateOrdinaryObservation (keyed.observation id kind out message ("idempotency_reason:" ++ rest)) = .ok () := by
  simp only [validateOrdinaryObservation, observation, Option.any_some, deny_ok, startsWith, String.toList_append]
  rfl

theorem record_alone {obs : MctObservation} {next : CallProg} (h : resident.Ready (room + 1))
    (hworld : (worlds 0).Steady) (hord : validateOrdinaryObservation obs = .ok ()) :
    ∃ added log, log.Ready room ∧ log.nextSequence = resident.writer.log.nextSequence + 1 ∧
      (record obs next).alone worlds resident =
        let rest := next.alone (fun n => worlds (n + 1))
          { resident with writer := ⟨log, resident.writer.index, resident.writer.entries ++ added⟩ }
        { rest with events := ⟨.run (.append [obs]), .ok ()⟩ :: rest.events } := by
  have hready : resident.Ready (room + [obs].length) := h
  obtain ⟨added, log, happ, hadded, hlog, hnext⟩ := hready.append hworld fun other hother => by
    rw [List.mem_singleton.mp hother]
    exact hord
  have hperform : (CallOp.run (.append [obs])).perform (worlds 0) resident = (_, Except.ok ()) := happ
  refine ⟨added, log, hlog, hnext, ?_⟩
  unfold record
  rw [CallProg.alone_act hperform]

def executed (keyed : KeyedCall) (execute : RunProg MctIrohCallHandlerResult) (reservation : CallDispatchReservationV1) :
    CallProg := execute.lift.bind (keyed.finish (some reservation))

def granted (keyed : KeyedCall) (resident : Resident) (now : Int) (log : LedgerLog) (entry : MctObservationLedgerEntry) :
    Resident :=
  { resident with writer := ⟨log, ⟨(resident.writer.index.retainAfter now).reservations.insert keyed.claim.keyDigest
    (keyed.next resident)⟩, resident.writer.entries ++ [entry]⟩ }

theorem claimed_eq (hvalid : keyed.claim.validate = .ok ()) :
    keyed.claimed execute = .act (.dispatch keyed.reserveOperation) (keyed.dispatched execute) := by
  unfold claimed
  rw [hvalid]
  rfl

theorem dispatch_granted (serde : EventRoundTrip) {w : World} (h : resident.Ready (room + 1))
    (hworld : w.Steady) (hvalid : keyed.claim.validate = .ok ())
    (hparse : KernelHost.parseTimestamp keyed.now.value = .ok now)
    (hfresh : (resident.writer.index.retainAfter now).reservations[keyed.claim.keyDigest]? = none)
    (hsize : keyed.Recordable resident) :
    ∃ e log, decodeEvent e = .ok (some (.reserved (keyed.next resident))) ∧
      log.Ready room ∧ log.nextSequence = resident.writer.log.nextSequence + 1 ∧
      resident.dispatch w keyed.reserveOperation =
        (keyed.granted resident now log e, .ok (.reserved (keyed.next resident))) := by
  have hparse' : KernelHost.parseTimestamp keyed.claim.acceptedAt.value = .ok now := hparse
  have hcall : (keyed.residentIdempotencyObservation .executeFresh .started).callId.isSome = true := rfl
  obtain ⟨e, log, hdispatch, hdec, hlog, hnext⟩ := h.reserve serde hworld hvalid hparse' hcall hfresh hsize
  exact ⟨e, log, hdec, hlog, hnext, hdispatch⟩

/-- **A free key lets the execution start.** -/
theorem claimed_granted (serde : EventRoundTrip) (h : resident.Ready (room + 1))
    (hworld : (worlds 0).Steady) (hvalid : keyed.claim.validate = .ok ())
    (hparse : KernelHost.parseTimestamp keyed.now.value = .ok now)
    (hfresh : (resident.writer.index.retainAfter now).reservations[keyed.claim.keyDigest]? = none)
    (hsize : keyed.Recordable resident) :
    ∃ entry log, decodeEvent entry = .ok (some (.reserved (keyed.next resident))) ∧ log.Ready room ∧
      log.nextSequence = resident.writer.log.nextSequence + 1 ∧
      (keyed.claimed execute).Leads worlds resident [keyed.asked (.ok (.reserved (keyed.next resident)))]
        (.act .start fun _ => keyed.executed execute (keyed.next resident)) (keyed.granted resident now log entry) := by
  obtain ⟨entry, log, hevent, hlog, hnext, hdispatch⟩ := dispatch_granted serde h hworld hvalid hparse hfresh hsize
  have hperform : (CallOp.dispatch keyed.reserveOperation).perform (worlds 0) resident =
      (keyed.granted resident now log entry, Except.ok (.reserved (keyed.next resident))) :=
    hdispatch
  refine ⟨entry, log, hevent, hlog, hnext, ?_⟩
  rw [claimed_eq hvalid]
  exact .cons hperform (.nil _ _ _)

/-- **A key that the fence has does not start it.** -/
theorem claimed_held (h : resident.Ready (room + 1)) (hvalid : keyed.claim.validate = .ok ())
    (hparse : KernelHost.parseTimestamp keyed.now.value = .ok now) {record : CallDispatchReservationV1}
    (hrec : (resident.writer.index.retainAfter now).reservations[keyed.claim.keyDigest]? = some record) :
    startEvent ∉ ((keyed.claimed execute).alone worlds resident).events := by
  have hparse' : KernelHost.parseTimestamp keyed.claim.acceptedAt.value = .ok now := hparse
  have hperform : (CallOp.dispatch keyed.reserveOperation).perform (worlds 0) resident = _ :=
    h.reserved hvalid hparse' hrec
  rw [claimed_eq hvalid, CallProg.alone_act hperform]
  intro hmem
  obtain hfirst | hrest := List.mem_cons.mp hmem
  · cases hfirst
  · revert hrest
    split_ifs
    · exact CallProg.IsQuiet.alone (record_quiet _ (keyed.finish_none_quiet _))
    · exact CallProg.IsQuiet.alone keyed.refuseMismatch_quiet

theorem bound_alone (hworld : (worlds 0).Steady)
    (hrow : keyed.row ∈ resident.tables.entries) :
    ∃ tables before, startEvent ∉ before ∧ tables.KeepsFor keyed .inFlight ∧
      (keyed.bound execute).Leads worlds resident before (keyed.claimed execute) { resident with tables := tables } := by
  unfold bound
  cases keyed.executionCallId with
  | none => exact ⟨resident.tables, [], List.not_mem_nil, ⟨_, hrow, rfl, rfl, rfl, rfl⟩, .nil _ _ _⟩
  | some execution =>
    obtain ⟨tables, hbind, hkeeps⟩ := CallTables.bind_row hrow rfl rfl execution
    have hbind' : resident.tables.bindExecution keyed.callerScope keyed.key keyed.fingerprint execution = .ok tables := hbind
    have hperform : (CallOp.bindExecution keyed.callerScope keyed.key keyed.fingerprint execution).perform (worlds 0)
        resident = ({ resident with tables := tables }, Except.ok ()) := by
      simp only [CallOp.perform, hbind', Except.map, Resident.statement_steady hworld]
    exact ⟨tables, [⟨.bindExecution keyed.callerScope keyed.key keyed.fingerprint execution, .ok ()⟩], by simp [startEvent],
      hkeeps, .cons hperform (.nil _ _ _)⟩

/-! ## After the execution -/

omit [ResidentHost] in
theorem statement_entries {α : Type} {w : World} {res : Except String (α × CallTables)}
    (h : ∀ v tb, res = .ok (v, tb) → tb.entries = resident.tables.entries) :
    (resident.statement w res).1.tables.entries = resident.tables.entries := by
  unfold Resident.statement
  split
  · rfl
  · rfl
  · exact h _ _ rfl

theorem runOp_entries (op : RunOp) (w : World) (resident : Resident) :
    (op.perform w resident).1.tables.entries = resident.tables.entries := by
  cases op with
  | readClock | ask => rfl
  | append obss =>
    simp only [RunOp.perform, Resident.append]
    split_ifs
    · rfl
    · rfl
    · split <;> rfl
  | getRun runId =>
    refine statement_entries fun v tb h => ?_
    cases h
    rfl
  | insertRun run =>
    refine statement_entries fun v tb h => ?_
    unfold CallTables.insertRun at h
    split_ifs at h
    · cases h
    · cases h
      rfl
  | completeRun runId res =>
    refine statement_entries fun v tb h => ?_
    split_ifs at h
    cases h
    rfl

theorem lift_entries (execute : RunProg MctIrohCallHandlerResult) (worlds : Nat → World) (resident : Resident) :
    (CallProg.alone execute.lift worlds resident).store.tables.entries = resident.tables.entries := by
  induction execute generalizing worlds resident with
  | done res => rfl
  | act op next ih =>
    exact (ih _ _ _).trans (runOp_entries op (worlds 0) resident)

theorem append_tables (resident : Resident) (w : World) (obss : List MctObservation) :
    (resident.append w obss).1.tables = resident.tables := by
  unfold Resident.append
  split_ifs
  · rfl
  · rfl
  · simp only
    split <;> rfl

theorem dispatch_tables (resident : Resident) (w : World) (op : DispatchOperation) :
    (resident.dispatch w op).1.tables = resident.tables := by
  unfold Resident.dispatch
  split_ifs
  · rfl
  · rfl
  · simp only
    unfold Resident.answeredBy
    split <;> rfl

theorem CallProg.alone_store (op : CallOp) (next : op.Reply → CallProg) (worlds : Nat → World) (resident : Resident) :
    (CallProg.alone (.act op next) worlds resident).store =
      (CallProg.alone (next (op.perform (worlds 0) resident).2) (fun n => worlds (n + 1))
        (op.perform (worlds 0) resident).1).store := rfl

variable {result : MctIrohCallHandlerResult} {rv : CallDispatchReservationV1}

theorem releaseKey_alone (hworlds : ∀ n, (worlds n).Steady) (hkeeps : resident.tables.KeepsFor keyed .inFlight) :
    ((keyed.releaseKey (some rv) result).alone worlds resident).store.tables.OpenFor keyed := by
  unfold releaseKey record
  rw [CallProg.alone_store]
  simp only [CallOp.perform, RunOp.perform]
  have hfirst := append_tables resident (worlds 0) [keyed.transientReleaseObservation]
  generalize resident.append (worlds 0) [keyed.transientReleaseObservation] = appended at hfirst ⊢
  obtain ⟨noted, reply⟩ := appended
  have hnoted : noted.tables.KeepsFor keyed .inFlight :=
    hkeeps.of_entries (congrArg CallTables.entries hfirst)
  cases reply with
  | error err => exact Or.inl hnoted
  | ok _ =>
    simp only
    rw [CallProg.alone_store]
    simp only [CallOp.perform]
    have hsecond := dispatch_tables noted (worlds 1) (.release rv keyed.transientReleaseObservation)
    generalize noted.dispatch (worlds (0 + 1)) (.release rv keyed.transientReleaseObservation) = asked at hsecond ⊢
    obtain ⟨freed, reply⟩ := asked
    have hfreed : freed.tables.KeepsFor keyed .inFlight :=
      hnoted.of_entries (congrArg CallTables.entries hsecond)
    cases reply with
    | error err => exact Or.inl hfreed
    | ok resp =>
      simp only
      rw [CallProg.alone_store]
      simp only [CallOp.perform, Resident.statement_steady (hworlds (0 + 1 + 1))]
      exact Or.inr hfreed.release

/-- **An execution that is refused for the time being** comes to ask for the release of its reservation. -/
theorem executed_leads_release (h : resident.Ready (room + 1)) (hworld : (worlds 1).Steady)
    (htransient : isTransientRefusalBeforeEffect result = true) :
    ∃ added log next, (added.map fun entry => entry.observation) =
        [keyed.transientReleaseObservation.timed (worlds 1).clock] ∧ log.Ready room ∧
      log.nextSequence = resident.writer.log.nextSequence + 1 ∧
      (keyed.executed (.done result) rv).Leads worlds resident
        [⟨.isFenced, false⟩, ⟨.run (.append [keyed.transientReleaseObservation]), .ok ()⟩]
        (.act (.dispatch (keyed.releaseOperation rv)) next)
        { resident with writer := ⟨log, resident.writer.index, resident.writer.entries ++ added⟩ } := by
  have hready : resident.Ready (room + [keyed.transientReleaseObservation].length) := h
  obtain ⟨added, log, happend, hadded, hlog, hnext⟩ := hready.append hworld fun other hother => by
    rw [List.mem_singleton.mp hother]
    rfl
  have hfence : CallOp.isFenced.perform (worlds 0) resident = (resident, false) := by
    rw [CallOp.perform, h.unfenced]
  have hnote : (CallOp.run (.append [keyed.transientReleaseObservation])).perform (worlds 1) resident = (_, Except.ok ()) :=
    happend
  have hfinish : (keyed.executed (.done result) rv).Leads worlds resident [⟨.isFenced, false⟩]
      (keyed.releaseKey (some rv) result) resident := by
    refine .cons hfence ?_
    rw [if_neg Bool.false_ne_true, if_pos htransient]
    exact .nil _ _ _
  exact ⟨added, log, _, hadded, hlog, hnext, hfinish.trans (.cons hnote (.nil _ _ _))⟩

/-- The answer of an execution that the handler keeps under the key. -/
structure Recorded (ran : Outcome Resident CallOp CallOp.Reply MctIrohCallHandlerResult) : Prop where
  unfenced : ran.store.fenced = false
  final : isTransientRefusalBeforeEffect ran.result = false
  fits : (ran.result.inlineResultPayload.any fun payload => decide (mctResultInlinePayloadMaxBytes < payload.length)) =
    false

/-- What an execution leaves under the key: its answer if the handler keeps it, and otherwise nothing new. -/
def Settles (keyed : KeyedCall) (ran after : Outcome Resident CallOp CallOp.Reply MctIrohCallHandlerResult) : Prop :=
  (Recorded ran → after.result = ran.result ∧
    after.store.tables.KeepsFor keyed (.completed (handlerResultToRecordedReply ran.result))) ∧
  (¬ Recorded ran → after.store.tables.OpenFor keyed)

theorem finish_alone (hworlds : ∀ n, (worlds n).Steady) (hkeeps : resident.tables.KeepsFor keyed .inFlight)
    {evs : List CallEvent} :
    Settles keyed ⟨resident, result, evs⟩ ((keyed.finish (some rv) result).alone worlds resident) := by
  have hperform : CallOp.isFenced.perform (worlds 0) resident = (resident, resident.fenced) := rfl
  unfold Settles finish
  rw [CallProg.alone_act hperform]
  simp only
  cases hfenced : resident.fenced with
  | true =>
    refine ⟨fun hrecorded => ?_, fun _ => Or.inl hkeeps⟩
    have hopen := hrecorded.unfenced
    rw [hfenced] at hopen
    cases hopen
  | false =>
    simp only [Bool.false_eq_true, if_false]
    cases htransient : isTransientRefusalBeforeEffect result with
    | true =>
      refine ⟨fun hrecorded => ?_, fun _ => ?_⟩
      · have hfinal := hrecorded.final
        rw [htransient] at hfinal
        cases hfinal
      · exact releaseKey_alone (fun n => hworlds (n + 1)) hkeeps
    | false =>
      simp only [Bool.false_eq_true, if_false]
      cases hfits : result.inlineResultPayload.any fun pl => decide (mctResultInlinePayloadMaxBytes < pl.length) with
      | true =>
        have href : resident.tables.complete keyed.callerScope keyed.key keyed.fingerprint
            (handlerResultToRecordedReply result) =
            .error "recorded idempotency reply payload exceeds inline result cap" := by
          unfold CallTables.complete
          have hlarge : ((handlerResultToRecordedReply result).inlineResultPayload.any fun pl =>
              decide (mctResultInlinePayloadMaxBytes < pl.length)) = true := hfits
          rw [hlarge]
          rfl
        have hstat : (CallOp.complete keyed.callerScope keyed.key keyed.fingerprint
            (handlerResultToRecordedReply result)).perform (worlds 1) resident =
            (resident, Except.error "recorded idempotency reply payload exceeds inline result cap") := by
          simp only [CallOp.perform, href, Except.map, Resident.statement, (hworlds 1).sqlite]
        rw [CallProg.alone_act hstat]
        refine ⟨fun hrecorded => ?_, fun _ => Or.inl hkeeps⟩
        have hsmall := hrecorded.fits
        rw [hfits] at hsmall
        cases hsmall
      | false =>
        have hsmall : ((handlerResultToRecordedReply result).inlineResultPayload.any fun pl =>
            decide (mctResultInlinePayloadMaxBytes < pl.length)) = false := hfits
        obtain ⟨tb, hcomp, hcompleted⟩ := hkeeps.complete hsmall
        have hstat : (CallOp.complete keyed.callerScope keyed.key keyed.fingerprint
            (handlerResultToRecordedReply result)).perform (worlds 1) resident =
            ({ resident with tables := tb }, Except.ok ()) := by
          simp only [CallOp.perform, hcomp, Except.map, Resident.statement_steady (hworlds 1)]
        rw [CallProg.alone_act hstat]
        exact ⟨fun _ => ⟨rfl, hcompleted⟩, fun hnot => absurd ⟨hfenced, htransient, hfits⟩ hnot⟩

/-- **The answer of the execution is kept under the key**, or the key stays pending or becomes free. -/
theorem executed_alone (rv : CallDispatchReservationV1) (hworlds : ∀ n, (worlds n).Steady)
    (hkeeps : resident.tables.KeepsFor keyed .inFlight) :
    Settles keyed (CallProg.alone execute.lift worlds resident) ((keyed.executed execute rv).alone worlds resident) := by
  have hran : (CallProg.alone execute.lift worlds resident).store.tables.KeepsFor keyed .inFlight :=
    hkeeps.of_entries (lift_entries execute worlds resident)
  have hbind : (keyed.executed execute rv).alone worlds resident = _ :=
    Prog.exec_bind CallOp.perform (keyed.finish (some rv)) execute.lift worlds resident
  rw [hbind]
  exact finish_alone (fun n => hworlds (_ + n)) hran

end KeyedCall

/-! ## The request -/

structure KeyedRequest.Proper (owner : KeyedRequest) (keyed : KeyedCall) : Prop where
  matched : owner.context.matchesRequest owner.request = true
  call : owner.keyed = some keyed
  nonblank : (trimmedEmpty keyed.callerScope || trimmedEmpty keyed.key) = false
  claim : keyed.claim.validate = .ok ()
  live : keyed.now < keyed.expiresAt

namespace KeyedRequest

variable {owner : KeyedRequest} {keyed : KeyedCall}

theorem Proper.program (h : owner.Proper keyed) :
    owner.program = .act (.reserve keyed.callerScope keyed.key keyed.fingerprint keyed.now keyed.expiresAt)
      (keyed.reserved owner.execute) := by
  have hkeyed := h.call
  unfold KeyedRequest.keyed at hkeyed
  unfold KeyedRequest.program executeIdempotentCallWithExecution
  rw [h.matched]
  split at hkeyed
  · rename_i key exp hkey hexpires
    cases hkeyed
    simp only [hkey, hexpires, Bool.not_true, Bool.false_eq_true, if_false]
  · cases hkeyed

theorem Proper.parse (h : owner.Proper keyed) :
    KernelHost.parseTimestamp keyed.now.value = .ok owner.now.epochNanoseconds := by
  rw [(owner.keyed_now h.call).1]
  exact owner.read

theorem Proper.reserve_empty (h : owner.Proper keyed) {tables : CallTables} (hnone : tables.unexpired keyed.now = []) :
    ∃ tb, keyed.Reserves tables .executeFresh tb ∧ tb.runs = tables.runs ∧ tb.entries = [keyed.row] := by
  have hfree : (keyed.callerScope, keyed.key) ∉ (tables.unexpired keyed.now).map CallIdempotencyEntry.primaryKey := by
    rw [hnone]
    exact List.not_mem_nil
  have hbudget : tables.HasBudget keyed.callerScope keyed.now := by
    rw [CallTables.HasBudget, hnone, List.countP_nil]
    decide
  obtain ⟨tb, hreserve, hruns, hentries⟩ := CallTables.reserve_free hfree h.nonblank h.live keyed.fingerprint
  rw [if_pos hbudget] at hreserve hentries
  rw [hnone] at hentries
  exact ⟨tb, hreserve, hruns, hentries⟩

theorem Proper.reserve_leads (h : owner.Proper keyed) (hworld : (worlds 0).Steady) {answer : MctIdempotencyReservation}
    {tb : CallTables} (hres : keyed.Reserves resident.tables answer tb) :
    owner.program.Leads worlds resident [keyed.reserving answer] (keyed.reserved owner.execute (.ok answer))
      { resident with tables := tb } := by
  have hperform : (CallOp.reserve keyed.callerScope keyed.key keyed.fingerprint keyed.now keyed.expiresAt).perform
      (worlds 0) resident = ({ resident with tables := tb }, Except.ok answer) := by
    simp only [CallOp.perform, hres, Resident.statement_steady hworld]
  rw [h.program]
  exact .cons hperform (.nil _ _ _)

/-- **A request for a key that is free**, up to its start. -/
theorem Proper.leads_granted (serde : EventRoundTrip) (h : owner.Proper keyed)
    (hexecution : keyed.executionCallId = none) (hready : resident.Ready (room + 1)) (hworld : (worlds 0).Steady)
    (hlater : (worlds 1).Steady) {tables : CallTables} (hreserve : keyed.Reserves resident.tables .executeFresh tables)
    (hfresh : (resident.writer.index.retainAfter owner.now.epochNanoseconds).reservations[keyed.claim.keyDigest]? = none)
    (hsize : keyed.Recordable resident) :
    ∃ entry log, decodeEvent entry = .ok (some (.reserved (keyed.next resident))) ∧ log.Ready room ∧
      log.nextSequence = resident.writer.log.nextSequence + 1 ∧
      owner.program.Leads worlds resident
        [keyed.reserving .executeFresh, keyed.asked (.ok (.reserved (keyed.next resident)))]
        (.act .start fun _ => keyed.executed owner.execute (keyed.next resident))
        (keyed.granted { resident with tables := tables } owner.now.epochNanoseconds log entry) := by
  let reserved : Resident := { resident with tables := tables }
  let later : Nat → World := fun n => worlds (n + 1)
  have hreserved : reserved.Ready (room + 1) := ⟨hready.unfenced, hready.log⟩
  obtain ⟨entry, log, hevent, hlog, hnext, hclaim⟩ := @KeyedCall.claimed_granted _ reserved later room keyed owner.execute
    _ serde hreserved hlater h.claim h.parse hfresh hsize
  have hbound : keyed.reserved owner.execute (.ok .executeFresh) = keyed.claimed owner.execute := by
    rw [KeyedCall.reserved, KeyedCall.bound, hexecution]
  exact ⟨entry, log, hevent, hlog, hnext, (h.reserve_leads hworld hreserve).trans (hbound ▸ hclaim)⟩

/-- **A request for a key that has no row**, up to its question to the fence. -/
theorem Proper.alone (h : owner.Proper keyed) (hworlds : ∀ n, (worlds n).Steady)
    (habs : resident.tables.AbsentFor keyed) :
    (¬ resident.tables.HasBudget keyed.callerScope keyed.now →
      KeyedCall.startEvent ∉ (owner.program.alone worlds resident).events) ∧
    (resident.tables.HasBudget keyed.callerScope keyed.now →
      ∃ tb before, KeyedCall.startEvent ∉ before ∧ tb.KeepsFor keyed .inFlight ∧
        owner.program.Leads worlds resident before (keyed.claimed owner.execute) { resident with tables := tb }) := by
  obtain ⟨tb, hres, -, hents⟩ := CallTables.reserve_free habs.unexpired h.nonblank h.live keyed.fingerprint
  constructor
  · intro hbudget
    rw [if_neg hbudget] at hres
    rw [(h.reserve_leads (hworlds 0) hres).alone]
    intro hmem
    obtain hfirst | hrest := List.mem_cons.mp hmem
    · cases hfirst
    · exact CallProg.IsQuiet.alone (KeyedCall.record_quiet _ (CallProg.done_quiet _)) hrest
  · intro hbudget
    rw [if_pos hbudget] at hents hres
    have hrow : keyed.row ∈ tb.entries := by
      rw [hents]
      exact List.mem_append_right _ (List.mem_singleton_self _)
    let reserved : Resident := { resident with tables := tb }
    let later : Nat → World := fun n => worlds (n + 1)
    have hlater : (later 0).Steady := hworlds 1
    have hrow' : keyed.row ∈ reserved.tables.entries := hrow
    obtain ⟨tb', before, hbefore, hkeeps, hbound⟩ := KeyedCall.bound_alone hlater hrow'
    refine ⟨tb', keyed.reserving .executeFresh :: before, ?_, hkeeps, (h.reserve_leads (hworlds 0) hres).trans hbound⟩
    simp only [List.mem_cons, not_or]
    exact ⟨fun hsame => (by cases hsame), hbefore⟩

theorem Proper.alone_keeps (h : owner.Proper keyed) (hworld : (worlds 0).Steady) {exp : Timestamp}
    {s : MctIdempotencyEntryState}
    (hkeeps : resident.tables.Keeps keyed.callerScope keyed.key keyed.fingerprint exp s)
    (htext : ¬ exp.value ≤ keyed.now.value) (hlive : keyed.now < exp) :
    ∃ kept, owner.program.alone worlds resident =
      let rest := (keyed.reserved owner.execute (.ok s.answer)).alone (fun n => worlds (n + 1))
        { resident with tables := kept }
      { rest with events := keyed.reserving s.answer :: rest.events } := by
  obtain ⟨kept, hres⟩ := hkeeps.reserve h.nonblank h.live htext hlive
  exact ⟨kept, (h.reserve_leads hworld hres).alone⟩

/-- A request for the same operation under the same key, before the expiry by the clock and by the stored text. -/
structure DuplicateOf (owner : KeyedRequest) (duplicate keyed : KeyedCall) : Prop where
  proper : owner.Proper duplicate
  scope : duplicate.callerScope = keyed.callerScope
  key : duplicate.key = keyed.key
  fingerprint : duplicate.fingerprint = keyed.fingerprint
  live : duplicate.now < keyed.expiresAt
  text : ¬ keyed.expiresAt.value ≤ duplicate.now.value

/-- **Duplicates replay the result**: they find its reply in the tables, start nothing, and answer with it if the ledger
takes the fact. -/
def Replays (resident : Resident) (keyed : KeyedCall) (result : MctIrohCallHandlerResult) : Prop :=
  ∀ owner duplicate, DuplicateOf owner duplicate keyed → ∀ worlds : Nat → World, (∀ n, (worlds n).Steady) →
    (∃ rest, (owner.program.alone worlds resident).events =
      ⟨.reserve duplicate.callerScope duplicate.key duplicate.fingerprint duplicate.now duplicate.expiresAt,
        .ok (.replay (handlerResultToRecordedReply result))⟩ :: rest) ∧
    KeyedCall.startEvent ∉ (owner.program.alone worlds resident).events ∧
    (resident.Ready 1 →
      (owner.program.alone worlds resident).result = replayedReplyToHandlerResult (handlerResultToRecordedReply result))

variable {result : MctIrohCallHandlerResult}

theorem replays_of_keeps (hkeeps : resident.tables.KeepsFor keyed (.completed (handlerResultToRecordedReply result))) :
    Replays resident keyed result := by
  intro owner duplicate hdup worlds hworlds
  rw [CallTables.KeepsFor, ← hdup.scope, ← hdup.key, ← hdup.fingerprint] at hkeeps
  obtain ⟨kept, halone⟩ := hdup.proper.alone_keeps (hworlds 0) hkeeps hdup.text hdup.live
  rw [halone]
  refine ⟨⟨_, rfl⟩, fun hmem => ?_, fun hready => ?_⟩
  · obtain hfirst | hrest := List.mem_cons.mp hmem
    · cases hfirst
    · exact CallProg.IsQuiet.alone (KeyedCall.record_quiet _ (CallProg.done_quiet _)) hrest
  · let found : Resident := { resident with tables := kept }
    have hfound : found.Ready (0 + 1) := ⟨hready.unfenced, hready.log⟩
    let later : Nat → World := fun n => worlds (n + 1)
    have hlater : (later 0).Steady := hworlds 1
    obtain ⟨added, log, -, -, hrec⟩ := KeyedCall.record_alone hfound hlater KeyedCall.observation_ordinary
    exact congrArg Outcome.result hrec

/-- **A request for a key that is free everywhere** runs its execution. -/
theorem Proper.alone_fresh (serde : EventRoundTrip) (h : owner.Proper keyed)
    (hready : resident.Ready (room + 1)) (hworlds : ∀ n, (worlds n).Steady)
    (habs : resident.tables.AbsentFor keyed)
    (hbudget : resident.tables.HasBudget keyed.callerScope keyed.now)
    (hfresh : (resident.writer.index.retainAfter owner.now.epochNanoseconds).reservations[keyed.claim.keyDigest]? = none)
    (hsize : keyed.Recordable resident) :
    ∃ tb before entry log, KeyedCall.startEvent ∉ before ∧ tb.KeepsFor keyed .inFlight ∧ log.Ready room ∧
      owner.program.Leads worlds resident (before ++ [KeyedCall.startEvent])
        (keyed.executed owner.execute (keyed.next resident))
        (keyed.granted { resident with tables := tb } owner.now.epochNanoseconds log entry) := by
  obtain ⟨tb, before, hbefore, hkeeps, hleads⟩ := (h.alone hworlds habs).2 hbudget
  let reserved : Resident := { resident with tables := tb }
  have hreserved : reserved.Ready (room + 1) := ⟨hready.unfenced, hready.log⟩
  let later : Nat → World := fun n => worlds (n + before.length)
  have hlater : (later 0).Steady := hworlds (0 + before.length)
  obtain ⟨entry, log, -, hlog, -, hclaim⟩ :=
    @KeyedCall.claimed_granted _ reserved later room keyed owner.execute _ serde hreserved hlater h.claim h.parse
      hfresh hsize
  refine ⟨tb, before ++ [keyed.asked (.ok (.reserved (keyed.next resident)))], entry, log, ?_, hkeeps, hlog, ?_⟩
  · simp only [List.mem_append, List.mem_singleton, not_or]
    exact ⟨hbefore, fun hsame => by cases hsame⟩
  · rw [List.append_assoc]
    exact hleads.trans (hclaim.trans (.cons rfl (.nil _ _ _)))

/-- **A key that the fence has is not executed again**, though it has no row. -/
theorem Proper.alone_held (h : owner.Proper keyed) (hready : resident.Ready (room + 1)) (hworlds : ∀ n, (worlds n).Steady)
    (habs : resident.tables.AbsentFor keyed) {record : CallDispatchReservationV1}
    (hrec : (resident.writer.index.retainAfter owner.now.epochNanoseconds).reservations[keyed.claim.keyDigest]? =
      some record) : KeyedCall.startEvent ∉ (owner.program.alone worlds resident).events := by
  by_cases hbudget : resident.tables.HasBudget keyed.callerScope keyed.now
  case neg => exact (h.alone hworlds habs).1 hbudget
  obtain ⟨tb, before, hbefore, -, hleads⟩ := (h.alone hworlds habs).2 hbudget
  let reserved : Resident := { resident with tables := tb }
  have hreserved : reserved.Ready (room + 1) := ⟨hready.unfenced, hready.log⟩
  have hheld : KeyedCall.startEvent ∉
      ((keyed.claimed owner.execute).alone (fun n => worlds (n + before.length)) reserved).events :=
    KeyedCall.claimed_held hreserved h.claim h.parse hrec
  rw [hleads.alone]
  exact fun hmem => (List.mem_append.mp hmem).elim hbefore hheld

/-- **The request comes to its start**, by events without one, with its execution still to run. -/
def StartsAt (owner : KeyedRequest) (keyed : KeyedCall) (worlds : Nat → World) (resident : Resident)
    (before : List CallEvent) (started : Resident) : Prop :=
  KeyedCall.startEvent ∉ before ∧ ∃ reservation, owner.program.Leads worlds resident (before ++ [KeyedCall.startEvent])
    (keyed.executed owner.execute reservation) started

/-- What duplicates are told after an execution: its result exactly if the handler keeps it, as it answers itself. -/
structure Answers (keyed : KeyedCall) (ran after : Outcome Resident CallOp CallOp.Reply MctIrohCallHandlerResult) :
    Prop where
  replays : Replays after.store keyed ran.result ↔ KeyedCall.Recorded ran
  result : KeyedCall.Recorded ran → after.result = ran.result

theorem StartsAt.answers {before : List CallEvent} {started : Resident} (h : owner.Proper keyed)
    (hworlds : ∀ n, (worlds n).Steady) (htext : ¬ keyed.expiresAt.value ≤ keyed.now.value)
    (hstarts : owner.StartsAt keyed worlds resident before started) (hkeeps : started.tables.KeepsFor keyed .inFlight) :
    Answers keyed (CallProg.alone owner.execute.lift (fun n => worlds (n + (before.length + 1))) started)
      (owner.program.alone worlds resident) := by
  obtain ⟨-, reservation, hleads⟩ := hstarts
  obtain ⟨hrecorded, hlost⟩ := KeyedCall.executed_alone reservation (fun n => hworlds (n + (before.length + 1))) hkeeps
  rw [hleads.alone, List.length_append, List.length_singleton]
  refine ⟨⟨fun hreplays => ?_, fun hran => replays_of_keeps (hrecorded hran).2⟩, fun hran => (hrecorded hran).1⟩
  by_contra hnot
  -- the request itself would be a duplicate
  obtain ⟨⟨rest, hfirst⟩, -, -⟩ := hreplays owner keyed ⟨h, rfl, rfl, rfl, h.live, htext⟩ worlds hworlds
  obtain hkept | hfree := hlost hnot
  · obtain ⟨kept, hagain⟩ := h.alone_keeps (hworlds 0) hkept htext h.live
    rw [hagain] at hfirst
    cases hfirst
  · obtain ⟨tables, hreserve, -⟩ := CallTables.reserve_free hfree.unexpired h.nonblank h.live keyed.fingerprint
    rw [(h.reserve_leads (hworlds 0) hreserve).alone] at hfirst
    split_ifs at hfirst <;> cases hfirst

/-- **When a request for a free key starts, and when its result is replayed.** -/
theorem Proper.starts_iff (serde : EventRoundTrip) (h : owner.Proper keyed)
    (hready : resident.Ready (room + 1)) (hworlds : ∀ n, (worlds n).Steady)
    (habs : resident.tables.AbsentFor keyed) (htext : ¬ keyed.expiresAt.value ≤ keyed.now.value)
    (hsize : keyed.Recordable resident) :
    (KeyedCall.startEvent ∈ (owner.program.alone worlds resident).events ↔
      resident.tables.HasBudget keyed.callerScope keyed.now ∧
        (resident.writer.index.retainAfter owner.now.epochNanoseconds).reservations[keyed.claim.keyDigest]? = none) ∧
    (KeyedCall.startEvent ∈ (owner.program.alone worlds resident).events →
      ∃ before started, owner.StartsAt keyed worlds resident before started ∧ started.fenced = false ∧
        Answers keyed (CallProg.alone owner.execute.lift (fun n => worlds (n + (before.length + 1))) started)
          (owner.program.alone worlds resident)) := by
  by_cases hbudget : resident.tables.HasBudget keyed.callerScope keyed.now
  case neg =>
    have hnot := (h.alone hworlds habs).1 hbudget
    exact ⟨⟨fun hstart => absurd hstart hnot, fun hboth => absurd hboth.1 hbudget⟩, fun hstart => absurd hstart hnot⟩
  cases hrec : (resident.writer.index.retainAfter owner.now.epochNanoseconds).reservations[keyed.claim.keyDigest]? with
  | some record =>
    have hnot := h.alone_held hready hworlds habs hrec
    refine ⟨⟨fun hstart => absurd hstart hnot, fun hboth => ?_⟩, fun hstart => absurd hstart hnot⟩
    cases hboth.2
  | none =>
    obtain ⟨tb, before, entry, log, hbefore, hkeeps, -, hleads⟩ :=
      h.alone_fresh serde hready hworlds habs hbudget hrec hsize
    have hstarts : owner.StartsAt keyed worlds resident before
        (keyed.granted { resident with tables := tb } owner.now.epochNanoseconds log entry) := ⟨hbefore, _, hleads⟩
    refine ⟨⟨fun _ => ⟨hbudget, rfl⟩, fun _ => ?_⟩, fun _ => ⟨before, _, hstarts, hready.unfenced,
      hstarts.answers h hworlds htext hkeeps⟩⟩
    rw [hleads.alone]
    simp

end KeyedRequest

/-! ## What passes the ingress -/

/-- The expiry of a reservation is printed and read back. -/
def Timestamp.ExpiryRead (now : Timestamp) : Prop :=
  KernelHost.parseTimestamp (KernelHost.displayTimestamp
      (now.epochNanoseconds + mctIdempotencyTtlSeconds * 1000000000)) =
    .ok (now.epochNanoseconds + mctIdempotencyTtlSeconds * 1000000000)

omit [ResidentHost] in
theorem residentIdempotencyCallerScope_nonBlank (req : MctCallProtocolRequest) (context : ResidentCallIngressContext) :
    trimmedEmpty (residentIdempotencyCallerScope req context) = false := by
  cases context with
  | peer bindingId =>
    show trimmedEmpty ("peer-binding:" ++ bindingId.value) = false
    rw [trimmedEmpty_append, show trimmedEmpty "peer-binding:" = false by decide, Bool.false_and]
  | trigger triggerAuthorityId =>
    show trimmedEmpty ("trigger:" ++ triggerAuthorityId.value) = false
    rw [trimmedEmpty_append, show trimmedEmpty "trigger:" = false by decide, Bool.false_and]
  | localPrincipal | childCallOut =>
    show trimmedEmpty (localCallerScope req.call.origin req.call.caller) = false
    delta localCallerScope
    simp only [trimmedEmpty_append, show trimmedEmpty "local:" = false by decide, Bool.false_and]

namespace KeyedRequest

variable {owner : KeyedRequest} {keyed : KeyedCall}

/-- **A request that passes its ingress is handled.** -/
theorem proper_of_ingress (hdigest : ∀ bytes, isDigestText (KernelHost.blake3 bytes) = true)
    (hing : KeyedIngress owner.request owner.context) (hkeyed : owner.keyed = some keyed)
    (hround : owner.now.ExpiryRead) : owner.Proper keyed := by
  obtain ⟨hnow, hexpiry⟩ := owner.keyed_now hkeyed
  have hexpires : keyed.expiresAt = ⟨KernelHost.displayTimestamp
        (owner.now.epochNanoseconds + mctIdempotencyTtlSeconds * 1000000000),
      owner.now.epochNanoseconds + mctIdempotencyTtlSeconds * 1000000000⟩ ∧
      owner.now.epochNanoseconds + mctIdempotencyTtlSeconds * 1000000000 ≤ maxTimestamp := by
    unfold idempotencyExpiry at hexpiry
    rw [owner.read] at hexpiry
    simp only [ok_bind, bind_ok, exists_unit, deny_ok, mapErr_ok, Timestamp.new] at hexpiry
    obtain ⟨hbound, hnew⟩ := hexpiry
    rw [hround] at hnew
    exact ⟨(Except.ok.inj hnew).symm, by simpa using hbound⟩
  obtain ⟨hexpires, hbound⟩ := hexpires
  have hblank : trimmedEmpty keyed.callerScope = false ∧ trimmedEmpty keyed.key = false := by
    have hvalid := hing.valid
    simp only [MctCallProtocolRequest.validate, bind_ok, exists_unit, mapErr_ok] at hvalid
    have hfield := hvalid.2.2.2.2.1
    unfold KeyedRequest.keyed at hkeyed
    split at hkeyed
    · rename_i key expiresAt hkey _
      cases hkeyed
      rw [hkey] at hfield
      exact ⟨residentIdempotencyCallerScope_nonBlank _ _, ensureNonBlank_ok.mp hfield⟩
    · cases hkeyed
  refine ⟨hing.context, hkeyed, by rw [hblank.1, hblank.2]; rfl, ?_, ?_⟩
  · have hacc : KernelHost.parseTimestamp keyed.claim.acceptedAt.value = .ok owner.now.epochNanoseconds := by
      show KernelHost.parseTimestamp keyed.now.value = _
      rw [hnow]
      exact owner.read
    refine CallDispatchClaimV1.validate_ok.mpr ⟨hdigest _, hdigest _, _, hacc, ?_, hbound⟩
    show KernelHost.parseTimestamp keyed.expiresAt.value = _
    rw [hexpires]
    exact hround
  · rw [hexpires, hnow, Timestamp.lt_def]
    simp only [mctIdempotencyTtlSeconds]
    omega

end KeyedRequest

end Mct
