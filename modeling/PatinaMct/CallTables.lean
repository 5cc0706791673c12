import PatinaMct.CallRecords
/-!
# CallTables — the statements on the two tables of calls

`call_idempotency_entries` and `runtime_runs` with their primary keys, and the statements that the resident runs on them.
Times are compared as the stored texts where SQLite compares them and as instants where the kernel does.
-/
namespace Mct

open Checked

def mctIdempotencyMaxEntriesPerCaller : Nat := 256
def mctResultInlinePayloadMaxBytes : Nat := 32 * 1024

/-- The rows of the two tables, each under its primary key. -/
structure CallTables where
  entries : List CallIdempotencyEntry
  runs : List MctRuntimeRunRecord
  entryKeys : (entries.map CallIdempotencyEntry.primaryKey).Nodup
  runKeys : (runs.map MctRuntimeRunRecord.runId).Nodup

inductive MctIdempotencyReason
  | executeFresh | replayCompleted | idempotencyKeyReuseMismatch | idempotencyBudgetFull | idempotencyInProgress
  deriving DecidableEq, Repr

/-- The entry that a request finds, if it has not expired. -/
def liveEntry (now : Timestamp) (stored : Option CallIdempotencyEntry) : Option CallIdempotencyEntry :=
  stored.filter fun entry => decide (now < entry.expiresAt)

/-- `evaluate_idempotency_request`: the reason of its decision. -/
def evaluateIdempotencyRequest (requested : MctIdempotencyFingerprint) (stored : Option CallIdempotencyEntry)
    (callerEntryCount callerEntryBudget : Nat) (now : Timestamp) : MctIdempotencyReason :=
  match liveEntry now stored with
  | some entry =>
    if entry.fingerprint ≠ requested then .idempotencyKeyReuseMismatch
    else if entry.isInFlight then .idempotencyInProgress
    else .replayCompleted
  | none => if callerEntryBudget ≤ callerEntryCount then .idempotencyBudgetFull else .executeFresh

inductive MctIdempotencyReservation
  | replay (reply : MctRecordedCallReply)
  | refused (reason : MctIdempotencyReason)
  | executeFresh
  deriving DecidableEq, Repr

namespace CallIdempotencyEntry

variable {e : CallIdempotencyEntry} {scope key : String} {fingerprint : MctIdempotencyFingerprint}

theorem inFlight_of_isReservation (h : e.isReservation scope key fingerprint = true) : e.isInFlight = true := by
  simp only [isReservation, Bool.and_eq_true] at h
  exact h.2

theorem isReservation_self (hflight : e.isInFlight = true) :
    e.isReservation e.callerScope e.idempotencyKey e.fingerprint = true := by
  simp [isReservation, primaryKey, hflight]

end CallIdempotencyEntry

namespace CallTables

variable (tables : CallTables) (scope key : String) (fingerprint : MctIdempotencyFingerprint)

/-! ## Runs -/

def insertRun (run : MctRuntimeRunRecord) : Except String CallTables :=
  if h : run.runId ∈ tables.runs.map MctRuntimeRunRecord.runId then .error "UNIQUE constraint failed: runtime_runs.run_id"
  else .ok { tables with
    runs := tables.runs ++ [run]
    runKeys := by
      rw [List.map_append, List.map_singleton, List.nodup_append]
      exact ⟨tables.runKeys, List.nodup_singleton _, fun a ha b hb heq => h (by simp_all)⟩ }

def closeRun (runId : String) (result : MctResult) : CallTables :=
  { tables with
    runs := completeRun runId result tables.runs
    runKeys := by rw [completeRun_keys]; exact tables.runKeys }

/-! ## Reservations -/

/-- The rows that the start of a reservation does not delete. -/
def unexpired (now : Timestamp) : List CallIdempotencyEntry :=
  tables.entries.filter fun entry => !decide (entry.expiresAt.value ≤ now.value)

theorem unexpired_keys (now : Timestamp) : ((tables.unexpired now).map CallIdempotencyEntry.primaryKey).Nodup :=
  tables.entryKeys.sublist (List.filter_sublist.map _)

def reservedEntry (now expiresAt : Timestamp) : CallIdempotencyEntry where
  callerScope := scope
  idempotencyKey := key
  fingerprint := fingerprint
  state := .inFlight
  createdAt := now.value
  expiresAt := expiresAt
  executionCallId := none

def insertEntry (now expiresAt : Timestamp) : Except String CallTables :=
  if h : (scope, key) ∈ (tables.unexpired now).map CallIdempotencyEntry.primaryKey then
    .error "UNIQUE constraint failed: call_idempotency_entries.caller_scope, call_idempotency_entries.idempotency_key"
  else .ok { tables with
    entries := tables.unexpired now ++ [reservedEntry scope key fingerprint now expiresAt]
    entryKeys := by
      rw [List.map_append, List.map_singleton, List.nodup_append]
      refine ⟨tables.unexpired_keys now, List.nodup_singleton _, fun a ha b hb heq => h ?_⟩
      rw [List.mem_singleton.mp hb] at heq
      rw [heq] at ha
      exact ha }

/-- The row under the key, and the number of the caller's rows. -/
def reservationReason (now : Timestamp) : MctIdempotencyReason :=
  let entries := tables.unexpired now
  evaluateIdempotencyRequest fingerprint (entries.find? fun entry => entry.primaryKey == (scope, key))
    (entries.countP fun entry => entry.callerScope == scope) mctIdempotencyMaxEntriesPerCaller now

/-- **`reserve_call_idempotency`**: one transaction, so an error leaves the rows as they were. -/
def reserve (now expiresAt : Timestamp) : Except String (MctIdempotencyReservation × CallTables) := do
  deny (trimmedEmpty scope || trimmedEmpty key) "idempotency scope and key must not be blank"
  deny (decide (expiresAt ≤ now)) "idempotency expiry must follow reservation time"
  let kept : CallTables := { tables with entries := tables.unexpired now, entryKeys := tables.unexpired_keys now }
  match tables.reservationReason scope key fingerprint now with
  | .executeFresh => do
    let tables ← tables.insertEntry scope key fingerprint now expiresAt
    return (.executeFresh, tables)
  | .replayCompleted =>
    match (kept.entries.find? fun entry => entry.primaryKey == (scope, key)).map CallIdempotencyEntry.state with
    | some (.completed reply) => return (.replay reply, kept)
    | _ => .error "completed idempotency reply is missing"
  | reason => return (.refused reason, kept)

def release : CallTables :=
  { tables with
    entries := releaseCallIdempotency scope key fingerprint tables.entries
    entryKeys := tables.entryKeys.sublist (List.filter_sublist.map _) }

def matching : List CallIdempotencyEntry := tables.entries.filter fun row => row.isReservation scope key fingerprint

def complete (reply : MctRecordedCallReply) : Except String CallTables := do
  deny (reply.inlineResultPayload.any fun payload => decide (mctResultInlinePayloadMaxBytes < payload.length))
    "recorded idempotency reply payload exceeds inline result cap"
  deny ((tables.matching scope key fingerprint).length ≠ 1)
    "idempotency completion did not match one in-flight reservation"
  return { tables with
    entries := completeCallIdempotency scope key fingerprint reply tables.entries
    entryKeys := by rw [completeCallIdempotency_keys]; exact tables.entryKeys }

def unbound : List CallIdempotencyEntry :=
  tables.entries.filter fun row => row.isReservation scope key fingerprint && row.executionCallId.isNone

def bindExecution (execution : CallId) : Except String CallTables := do
  deny ((tables.unbound scope key fingerprint).length ≠ 1)
    "execution identity requires exactly one fresh matching reservation"
  return { tables with
    entries := tables.entries.map fun row =>
      if row.isReservation scope key fingerprint && row.executionCallId.isNone then
        { row with executionCallId := some execution }
      else row
    entryKeys := by
      have hkeys : (tables.entries.map fun row =>
          if row.isReservation scope key fingerprint && row.executionCallId.isNone then
            { row with executionCallId := some execution }
          else row).map CallIdempotencyEntry.primaryKey = tables.entries.map CallIdempotencyEntry.primaryKey := by
        rw [List.map_map]
        refine List.map_congr_left fun row _ => ?_
        simp only [Function.comp_apply]
        split <;> rfl
      rw [hkeys]
      exact tables.entryKeys }

/-! ## One row under a key -/

section Rows

variable {tables scope key fingerprint} {row row' : CallIdempotencyEntry} {run run' : MctRuntimeRunRecord}
  {reply : MctRecordedCallReply}

theorem row_eq (hrow : row ∈ tables.entries) (hrow' : row' ∈ tables.entries)
    (hkey : row'.primaryKey = row.primaryKey) : row' = row :=
  List.inj_on_of_nodup_map tables.entryKeys hrow' hrow hkey

theorem run_eq (hrun : run ∈ tables.runs) (hrun' : run' ∈ tables.runs) (hkey : run'.runId = run.runId) : run' = run :=
  List.inj_on_of_nodup_map tables.runKeys hrun' hrun hkey

theorem eq_of_isReservation (hrow : row ∈ tables.entries) (hrow' : row' ∈ tables.entries)
    (h : row'.isReservation row.callerScope row.idempotencyKey row.fingerprint = true) : row' = row := by
  simp only [CallIdempotencyEntry.isReservation, Bool.and_eq_true, beq_iff_eq] at h
  exact row_eq hrow hrow' h.1.1

theorem matching_length (hrow : row ∈ tables.entries) (hflight : row.isInFlight = true) :
    (tables.matching row.callerScope row.idempotencyKey row.fingerprint).length = 1 := by
  have hmatch : tables.matching row.callerScope row.idempotencyKey row.fingerprint =
      tables.entries.filter fun row' => row' == row := by
    unfold matching
    refine List.filter_congr fun row' hrow' => ?_
    rw [Bool.eq_iff_iff, beq_iff_eq]
    constructor
    · exact eq_of_isReservation hrow hrow'
    · rintro rfl
      exact CallIdempotencyEntry.isReservation_self hflight
  rw [hmatch, List.filter_beq, List.length_replicate]
  exact List.count_eq_one_of_mem (List.Nodup.of_map _ tables.entryKeys) hrow

/-- **A reservation in flight can be completed**, if the reply fits. -/
theorem complete_row (hrow : row ∈ tables.entries) (hflight : row.isInFlight = true)
    (hfits : (reply.inlineResultPayload.any fun pl => decide (mctResultInlinePayloadMaxBytes < pl.length)) =
      false) :
    ∃ tables', tables.complete row.callerScope row.idempotencyKey row.fingerprint reply = .ok tables' ∧
      tables'.runs = tables.runs ∧
      tables'.entries = completeCallIdempotency row.callerScope row.idempotencyKey row.fingerprint reply
        tables.entries := by
  unfold complete
  rw [hfits, matching_length hrow hflight]
  exact ⟨_, rfl, rfl, rfl⟩

end Rows

end CallTables

end Mct
