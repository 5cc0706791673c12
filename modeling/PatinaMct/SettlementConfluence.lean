import PatinaMct.Blake3
import PatinaMct.Rows
import PatinaMct.SampleJson
import PatinaMct.Settlement
/-!
# SettlementConfluence — settlements that are interrupted and resumed

An attempt that stops leaves facts and rows behind, and the next one decides again from them.  The facts change nothing
but the marks of interrupted calls, and no left-over is denied whose call is marked so; the rows change the decision of a
reservation exactly when its run was closed and it was not.  Where that does not happen the resumed settlement is the
rest of the first one (`PriorTenure.settlements_rest`).
-/
namespace Mct

open Checked

/-! ## Ids of facts -/

theorem startsWith_dispositionId (disp : Disposition) (digest : String) :
    startsWith (dispositionId disp digest).value interruptedObservationStart = (disp == .interrupted) := by
  unfold startsWith dispositionId interruptedObservationStart
  cases disp <;> simp [Disposition.code] <;> rfl

theorem dispositionId_inj {a b : Disposition} {digest digest' : String}
    (h : (dispositionId a digest).value = (dispositionId b digest').value) : a = b ∧ digest = digest' := by
  have hchars : a.code.toList ++ ':' :: digest.toList = b.code.toList ++ ':' :: digest'.toList := by
    simpa [dispositionId] using congrArg String.toList h
  clear h
  cases a <;> cases b <;> simp [Disposition.code] at hchars ⊢ <;> exact String.toList_inj.mp hchars

/-! ## Dispositions are stable -/

section Stable

variable {trail : CallTrail} {callId : CallId} {run : Option MctRuntimeRunRecord}

theorem reservationDisposition_interrupted (h : reservationDisposition trail callId run ≠ .denied) :
    reservationDisposition { trail with interrupted := true } callId run = reservationDisposition trail callId run := by
  unfold reservationDisposition at h ⊢
  cases run with
  | none =>
    simp only [CallTrail.denialForReservation, CallTrail.denialForRun] at h ⊢
    split
    · rfl
    · split_ifs at h ⊢ <;> simp_all
  | some run =>
    simp only [CallTrail.denialForRun] at h ⊢
    split_ifs at h ⊢ <;> simp_all

theorem runDisposition_interrupted (h : runDisposition trail ≠ .denied) :
    runDisposition { trail with interrupted := true } = runDisposition trail := by
  unfold runDisposition CallTrail.denialForRun at h ⊢
  split_ifs at h ⊢ <;> simp_all

theorem denied_reservation (h : reservationDisposition trail callId run = .denied) : trail.denialForRun.isSome = true := by
  unfold reservationDisposition CallTrail.denialForReservation at h
  cases run <;> simp only at h <;> split_ifs at h <;> simp_all

theorem interrupted_reservation (h : reservationDisposition trail callId run = .interrupted) :
    run = none ∨ trail.denialForRun.isSome = false := by
  unfold reservationDisposition at h
  cases run with
  | none => exact Or.inl rfl
  | some run =>
    right
    simp only at h
    split_ifs at h with hresult hdenial
    simpa using hdenial

end Stable

/-! ## Runs by call id -/

theorem foldl_laterRun_some (best : MctRuntimeRunRecord) (runs : List MctRuntimeRunRecord) :
    ∃ run, runs.foldl laterRun (some best) = some run ∧ (run = best ∨ run ∈ runs) := by
  induction runs generalizing best with
  | nil => exact ⟨best, rfl, Or.inl rfl⟩
  | cons next runs ih =>
    rw [List.foldl_cons, laterRun]
    split
    · obtain ⟨run, hrun, hmem⟩ := ih next
      exact ⟨run, hrun, Or.inr (List.mem_cons.mpr hmem)⟩
    · obtain ⟨run, hrun, hmem⟩ := ih best
      exact ⟨run, hrun, hmem.imp_right (List.mem_cons_of_mem _)⟩

theorem getRunByCallId_spec (callId : CallId) (runs : List MctRuntimeRunRecord) :
    (∀ run, getRunByCallId callId runs = some run → run ∈ runs ∧ run.callId = callId) ∧
      (getRunByCallId callId runs = none → ∀ run ∈ runs, run.callId ≠ callId) := by
  unfold getRunByCallId
  have hmem : ∀ run, run ∈ runs.filter (fun run => run.callId == callId) ↔ run ∈ runs ∧ run.callId = callId := by simp
  generalize runs.filter (fun run => run.callId == callId) = own at hmem
  cases own with
  | nil =>
    refine ⟨fun run h => (by cases h), fun _ run hrun heq => ?_⟩
    exact absurd ((hmem run).mpr ⟨hrun, heq⟩) List.not_mem_nil
  | cons first own =>
    obtain ⟨run, hrun, hin⟩ := foldl_laterRun_some first own
    have hfold : (first :: own).foldl laterRun none = some run := hrun
    rw [hfold]
    refine ⟨fun run' heq => ?_, fun h => (by cases h)⟩
    obtain rfl := Option.some.inj heq
    exact (hmem run).mp (List.mem_cons.mpr hin)

theorem getRunByCallId_map {f : MctRuntimeRunRecord → MctRuntimeRunRecord} (hcall : ∀ run, (f run).callId = run.callId)
    (hstart : ∀ run, (f run).startedAt = run.startedAt) (callId : CallId) (runs : List MctRuntimeRunRecord) :
    getRunByCallId callId (runs.map f) = (getRunByCallId callId runs).map f := by
  unfold getRunByCallId
  rw [List.filter_map]
  have hsame : runs.filter ((fun run => run.callId == callId) ∘ f) = runs.filter (fun run => run.callId == callId) := by
    simp [Function.comp_def, hcall]
  rw [hsame]
  generalize runs.filter (fun run => run.callId == callId) = own
  suffices h : ∀ best : Option MctRuntimeRunRecord,
      (own.map f).foldl laterRun (best.map f) = (own.foldl laterRun best).map f from h none
  induction own with
  | nil => intro best; rfl
  | cons run own ih =>
    intro best
    rw [List.map_cons, List.foldl_cons, List.foldl_cons, ← ih]
    congr 1
    cases best with
    | none => rfl
    | some best =>
      simp only [laterRun, Option.map_some, hstart]
      split <;> rfl

/-! ## What settlements do to the rows -/

section Rows

variable {denial : CallId → Option DecisionId} {tables tables' : CallTables} {settlement : Settlement}
  {settled : List Settlement} {entry : MctInFlightCallIdempotencyEntry} {row : CallIdempotencyEntry}
  {run : MctRuntimeRunRecord}

def Settlement.closeOne (denial : CallId → Option DecisionId) (run : MctRuntimeRunRecord) (settlement : Settlement) :
    MctRuntimeRunRecord :=
  match settlement.closes denial with
  | some (runId, result) =>
    if run.runId = runId then { run with state := .terminalForResult result, result := some result } else run
  | none => run

def closedBy (denial : CallId → Option DecisionId) (settled : List Settlement) (run : MctRuntimeRunRecord) :
    MctRuntimeRunRecord :=
  settled.foldl (Settlement.closeOne denial) run

def Settlement.closesRun (denial : CallId → Option DecisionId) (run : MctRuntimeRunRecord) (settlement : Settlement) :
    Bool :=
  (settlement.closes denial).any fun closed => closed.1 == run.runId

def Settlement.settles (row : CallIdempotencyEntry) : Settlement → Bool
  | .reservation entry _ _ => row.isReservation entry.callerScope entry.idempotencyKey entry.fingerprint
  | .runOnly _ _ => false

theorem Settlement.closeOne_keys (denial : CallId → Option DecisionId) (run : MctRuntimeRunRecord) (settlement : Settlement) :
    (settlement.closeOne denial run).runId = run.runId ∧ (settlement.closeOne denial run).callId = run.callId ∧
      (settlement.closeOne denial run).startedAt = run.startedAt := by
  unfold closeOne
  split
  · split <;> exact ⟨rfl, rfl, rfl⟩
  · exact ⟨rfl, rfl, rfl⟩

theorem closedBy_keys (settled : List Settlement) (run : MctRuntimeRunRecord) :
    (closedBy denial settled run).runId = run.runId ∧ (closedBy denial settled run).callId = run.callId ∧
      (closedBy denial settled run).startedAt = run.startedAt := by
  induction settled generalizing run with
  | nil => exact ⟨rfl, rfl, rfl⟩
  | cons settlement settled ih =>
    obtain ⟨hid, hcall, hstart⟩ := settlement.closeOne_keys denial run
    obtain ⟨hid', hcall', hstart'⟩ := ih (settlement.closeOne denial run)
    exact ⟨hid'.trans hid, hcall'.trans hcall, hstart'.trans hstart⟩

theorem Settlement.closeOne_of_not_closes (h : settlement.closesRun denial run = false) :
    settlement.closeOne denial run = run := by
  unfold closesRun at h
  unfold closeOne
  split
  · rename_i runId res hcloses
    rw [hcloses] at h
    exact if_neg fun heq => by simp [heq] at h
  · rfl

theorem closedBy_of_not_closes (h : ∀ settlement ∈ settled, settlement.closesRun denial run = false) :
    closedBy denial settled run = run := by
  induction settled with
  | nil => rfl
  | cons settlement settled ih =>
    rw [closedBy, List.foldl_cons, settlement.closeOne_of_not_closes (h settlement List.mem_cons_self)]
    exact ih fun other hother => h other (List.mem_cons_of_mem _ hother)

theorem closedBy_result (h : run.result.isSome = true ∨ ∃ settlement ∈ settled, settlement.closesRun denial run = true) :
    (closedBy denial settled run).result.isSome = true := by
  induction settled generalizing run with
  | nil =>
    obtain h | ⟨settlement, hmem, -⟩ := h
    · exact h
    · cases hmem
  | cons settlement settled ih =>
    show (closedBy denial settled (settlement.closeOne denial run)).result.isSome = true
    apply ih
    cases hcloses : settlement.closesRun denial run with
    | true =>
      left
      unfold Settlement.closesRun at hcloses
      unfold Settlement.closeOne
      split
      · rename_i runId res heq
        rw [heq] at hcloses
        have hid : runId = run.runId := by simpa using hcloses
        rw [if_pos hid.symm]
        rfl
      · rename_i heq
        rw [heq] at hcloses
        cases hcloses
    | false =>
      rw [settlement.closeOne_of_not_closes hcloses]
      refine h.imp_right ?_
      rintro ⟨other, hother, hclosed⟩
      obtain rfl | hother := List.mem_cons.mp hother
      · rw [hcloses] at hclosed
        cases hclosed
      · exact ⟨other, hother, hclosed⟩

theorem closeRun_runs :
    (settlement.closeRun denial tables).runs = tables.runs.map fun run => settlement.closeOne denial run := by
  unfold Settlement.closeRun Settlement.closeOne
  split <;> simp_all [CallTables.closeRun, completeRun]

theorem closeRun_entries (denial : CallId → Option DecisionId) (tables : CallTables) (settlement : Settlement) :
    (settlement.closeRun denial tables).entries = tables.entries := by
  unfold Settlement.closeRun
  split <;> rfl

/-! ### Reservations -/

theorem inFlight_complete {scope key : String} {fingerprint : MctIdempotencyFingerprint}
    (reply : MctRecordedCallReply) (entries : List CallIdempotencyEntry) :
    (completeCallIdempotency scope key fingerprint reply entries).filter CallIdempotencyEntry.isInFlight =
      (entries.filter CallIdempotencyEntry.isInFlight).filter fun row => !row.isReservation scope key fingerprint := by
  unfold completeCallIdempotency
  induction entries with
  | nil => rfl
  | cons row entries ih =>
    rw [List.map_cons]
    cases hres : row.isReservation scope key fingerprint with
    | true =>
      have hflight : row.isInFlight = true := CallIdempotencyEntry.inFlight_of_isReservation hres
      have hdone : ({ row with state := .completed reply } : CallIdempotencyEntry).isInFlight = false := rfl
      simp [hflight, hdone, hres, ih]
    | false =>
      cases hflight : row.isInFlight with
      | true => simp [hflight, hres, ih]
      | false => simp [hflight, ih]

structure Applied (denial : CallId → Option DecisionId) (settled : List Settlement) (tables tables' : CallTables) :
    Prop where
  runs : tables'.runs = tables.runs.map (closedBy denial settled)
  inFlight : tables'.entries.filter CallIdempotencyEntry.isInFlight =
    (tables.entries.filter CallIdempotencyEntry.isInFlight).filter fun row => !settled.any (Settlement.settles row)
  kept : ∀ row ∈ tables.entries, (∀ settlement ∈ settled, settlement.settles row = false) → row ∈ tables'.entries

theorem Applied.nil : Applied denial [] tables tables where
  runs := (List.map_id' tables.runs).symm
  inFlight := by simp
  kept _ hrow _ := hrow

theorem Applied.cons {tables₁ : CallTables} (h : Applied denial [settlement] tables tables₁)
    (h' : Applied denial settled tables₁ tables') : Applied denial (settlement :: settled) tables tables' where
  runs := by
    rw [h'.runs, h.runs, List.map_map]
    rfl
  inFlight := by
    rw [h'.inFlight, h.inFlight, List.filter_filter]
    refine List.filter_congr fun row _ => ?_
    simp [Bool.and_comm]
  kept row hrow hnot := by
    refine h'.kept row (h.kept row hrow ?_) fun other hother => hnot other (List.mem_cons_of_mem _ hother)
    intro other hother
    rw [List.mem_singleton.mp hother]
    exact hnot settlement List.mem_cons_self

theorem recoveredReply_inline (res : MctResult) : (recoveredReply res).inlineResultPayload = none := by
  unfold recoveredReply
  simp only
  split <;> rfl

theorem replyFor_isSome (denial : CallId → Option DecisionId) (entry : MctInFlightCallIdempotencyEntry)
    {run : Option MctRuntimeRunRecord} {disp : Disposition}
    (hrel : disp ≠ .released)
    (hrec : disp = .resultRecovered → (run.bind fun run => run.result).isSome = true) :
    ∃ reply, replyFor denial entry run disp = some reply ∧ reply.inlineResultPayload = none := by
  cases disp with
  | released => exact absurd rfl hrel
  | denied => exact ⟨_, rfl, recoveredReply_inline _⟩
  | interrupted => exact ⟨_, rfl, rfl⟩
  | resultRecovered =>
    obtain ⟨res, hresult⟩ := Option.isSome_iff_exists.mp (hrec rfl)
    exact ⟨recoveredReply res, by rw [replyFor, hresult]; rfl, recoveredReply_inline _⟩

theorem run_of_closesRun {denial : CallId → Option DecisionId} (h : settlement.closesRun denial run = true) :
    (settlement.run.map fun run => run.runId) = some run.runId := by
  unfold Settlement.closesRun at h
  cases settlement with
  | reservation entry decided disp =>
    cases decided with
    | none => cases disp <;> cases h
    | some decided =>
      cases disp <;> simp_all [Settlement.closes, Settlement.run]
  | runOnly decided disp =>
    cases disp <;> simp_all [Settlement.closes, Settlement.run]

theorem closeNextRun_of_safe {denial : CallId → Option DecisionId} {tables : CallTables} {rest : List Settlement}
    (h : ∀ next ∈ rest.head?, next.isReservation = true → next.closes denial = none) :
    closeNextRun denial tables rest = tables := by
  unfold closeNextRun
  split
  · rename_i entry run disp rest
    rw [Settlement.closeRun, h _ rfl rfl]
  · rfl

end Rows

variable [SettlementHost]

/-! ## Trails -/

def Settlement.interrupts (callId : String) (settlement : Settlement) : Bool :=
  settlement.disposition == .interrupted && !settlement.callId.isLegacy && settlement.callId.value == callId

variable (l : List MctObservation) (settled : List Settlement) (observedAt : Timestamp) (callId : String)
  (settlement : Settlement)

theorem settlementObservation_id :
    (settlementObservation observedAt settlement).observationId = dispositionId settlement.disposition settlement.digest :=
  rfl

theorem settlementObservation_plain :
    (settlementObservation observedAt settlement).isPeerResult = false ∧
      (settlementObservation observedAt settlement).isDisposition = true ∧
      isEffectStart (settlementObservation observedAt settlement).kind = false ∧
      (settlementObservation observedAt settlement).kind ≠ .routeSelected ∧
      (settlementObservation observedAt settlement).detailRef ≠ some transientReleaseDetail := by
  refine ⟨rfl, startsWith_append _ _, ?_, ?_, ?_⟩
  · unfold settlementObservation
    cases settlement.disposition <;> rfl
  · unfold settlementObservation
    cases settlement.disposition <;> simp [Disposition.observed]
  · intro h
    have := congrArg String.toList (Option.some.inj h)
    simp [dispositionDetailStart, transientReleaseDetail] at this

/-- **A disposition adds nothing to a trail but the mark of an interruption.** -/
theorem CallTrail.note_settlement (trail : CallTrail) (observedAt : Timestamp)
    (settlement : Settlement) (position : Nat) :
    trail.note callId (settlementObservation observedAt settlement, position) =
      { trail with interrupted := trail.interrupted || settlement.interrupts callId } := by
  obtain ⟨hpeer, hdecision, heff, hroute, htransport⟩ := settlementObservation_plain observedAt settlement
  unfold CallTrail.note
  simp only [hpeer, Bool.false_or, Bool.not_eq_true']
  have hcall : ((settlementObservation observedAt settlement).callId.any fun id => id.value == callId) =
      (!settlement.callId.isLegacy && settlement.callId.value == callId) := by
    unfold settlementObservation
    cases settlement.callId.isLegacy <;> simp
  rw [hcall]
  unfold Settlement.interrupts
  cases hmatch : (!settlement.callId.isLegacy && settlement.callId.value == callId) with
  | false => simp [Bool.and_assoc, hmatch]
  | true =>
    simp [hdecision, heff, hroute, htransport, settlementObservation_id, startsWith_dispositionId,
      Bool.and_assoc, hmatch]

theorem callTrail_append :
    callTrail (l ++ settled.map (settlementObservation observedAt)) callId =
      { callTrail l callId with
        interrupted := (callTrail l callId).interrupted || settled.any (Settlement.interrupts callId) } := by
  unfold callTrail
  rw [List.zipIdx_append, List.foldl_append]
  generalize l.zipIdx.foldl (CallTrail.note callId) .empty = trail
  generalize 0 + l.length = position
  induction settled generalizing trail position with
  | nil => simp
  | cons settlement settled ih =>
    rw [List.map_cons, List.zipIdx_cons, List.foldl_cons, CallTrail.note_settlement, ih]
    simp [Bool.or_assoc]

theorem denial_append :
    (callTrail (l ++ settled.map (settlementObservation observedAt)) callId).denial =
      (callTrail l callId).denial := by
  rw [callTrail_append]
  rfl

/-! ## The plan -/

namespace PriorTenure

variable {prior : PriorTenure} {settlement other : Settlement} {more : List Settlement}

def reserved (prior : PriorTenure) : List CallIdempotencyEntry :=
  (prior.tables.entries.filter CallIdempotencyEntry.isInFlight).insertionSort entryOrder

def reservationSettlements (prior : PriorTenure) : List Settlement :=
  prior.reserved.map fun row => settleReservation prior.tables.runs prior.ledger row.leftOver

def loneRuns (prior : PriorTenure) : List MctRuntimeRunRecord :=
  unsettledRuns prior.tables prior.reservationSettlements

abbrev planned (prior : PriorTenure) (row : CallIdempotencyEntry) : Settlement :=
  settleReservation prior.tables.runs prior.ledger row.leftOver

abbrev noting (prior : PriorTenure) (observedAt : Timestamp) (more : List Settlement) : List MctObservation :=
  prior.ledger ++ more.map (settlementObservation observedAt)

abbrev AppliedFirst (prior : PriorTenure) (settled : Nat) (tables' : CallTables) : Prop :=
  Applied prior.denial (prior.settlements.take settled) prior.tables tables'

theorem settlements_eq (prior : PriorTenure) :
    prior.settlements = prior.reservationSettlements ++ prior.loneRuns.map (settleRun prior.ledger) := by
  simp only [settlements, inFlightCallIdempotencyEntries, List.map_map, loneRuns, reservationSettlements, reserved]
  rfl

theorem mem_settlements :
    settlement ∈ prior.settlements ↔
      (∃ row ∈ prior.reserved, settlement = prior.planned row) ∨
        ∃ run ∈ prior.loneRuns, settlement = settleRun prior.ledger run := by
  rw [settlements_eq, List.mem_append, reservationSettlements, List.mem_map, List.mem_map]
  simp only [eq_comm]

variable {row : CallIdempotencyEntry}

omit [SettlementHost] in
theorem mem_reserved :
    row ∈ prior.reserved ↔ row ∈ prior.tables.entries ∧ row.isInFlight = true := by
  rw [reserved, List.mem_insertionSort, List.mem_filter]

variable {run : MctRuntimeRunRecord}

theorem mem_loneRuns :
    run ∈ prior.loneRuns ↔ (run ∈ prior.tables.runs ∧ run.result = none) ∧
      ∀ settlement ∈ prior.reservationSettlements, (settlement.run.map fun run => run.runId) ≠ some run.runId := by
  simp [loneRuns, unsettledRuns, unfinishedRuns, List.mem_insertionSort]

/-- **No left-over is denied whose call another one marks as interrupted.** -/
theorem not_denied_of_interrupts (hset : settlement ∈ prior.settlements) (hother : other ∈ prior.settlements)
    (h : other.interrupts settlement.callId.value = true) : settlement.disposition ≠ .denied := by
  intro hdenied
  simp only [Settlement.interrupts, Bool.and_eq_true, beq_iff_eq, Bool.not_eq_true'] at h
  obtain ⟨⟨hinterrupted, hlegacy⟩, hcall⟩ := h
  have hcall : other.callId = settlement.callId := StringId.ext hcall
  obtain ⟨row, hrow, rfl⟩ | ⟨run, hrun, rfl⟩ := mem_settlements.mp hset
  · -- a denied reservation has a denial for its run
    have hdenial := denied_reservation hdenied
    obtain ⟨row', hrow', rfl⟩ | ⟨run', hrun', rfl⟩ := mem_settlements.mp hother
    · have hids : row'.leftOver.recoveryCallId = row.leftOver.recoveryCallId := hcall
      simp only [settleReservation, Settlement.disposition, hids] at hinterrupted hdenied
      rw [hdenied] at hinterrupted
      cases hinterrupted
    · have hids : run'.callId = row.leftOver.recoveryCallId := hcall
      simp only [settleRun, Settlement.disposition, hids, runDisposition, hdenial, if_true] at hinterrupted
      cases hinterrupted
  · have hdenial : (callTrail prior.ledger run.callId.value).denialForRun.isSome = true := by
      simp only [settleRun, Settlement.disposition, runDisposition] at hdenied
      split_ifs at hdenied with hsome
      exact hsome
    obtain ⟨row', hrow', rfl⟩ | ⟨run', hrun', rfl⟩ := mem_settlements.mp hother
    · have hids : row'.leftOver.recoveryCallId = run.callId := hcall
      simp only [settleReservation, Settlement.disposition] at hinterrupted
      rw [hids] at hinterrupted
      obtain hnone | hnot := interrupted_reservation hinterrupted
      · -- the run itself has this call id
        have hlegacy' : run.callId.isLegacy = false := by rw [← hids]; exact hlegacy
        rw [leftOverRun, if_neg (by simp [hlegacy'])] at hnone
        exact (getRunByCallId_spec _ _).2 hnone run (mem_loneRuns.mp hrun).1.1 rfl
      · rw [hdenial] at hnot
        cases hnot
    · have hids : run'.callId = run.callId := hcall
      simp only [settleRun, Settlement.disposition, hids, runDisposition, hdenial, if_true] at hinterrupted
      cases hinterrupted

variable (observedAt : Timestamp)

/-- **The facts of a plan do not change its decisions.** -/
theorem callTrail_more (hmore : ∀ m ∈ more, m ∈ prior.settlements) (hset : settlement ∈ prior.settlements) :
    callTrail (prior.noting observedAt more) settlement.callId.value =
        callTrail prior.ledger settlement.callId.value ∨
      (callTrail (prior.noting observedAt more) settlement.callId.value =
          { callTrail prior.ledger settlement.callId.value with interrupted := true } ∧
        settlement.disposition ≠ .denied) := by
  rw [callTrail_append]
  cases hany : more.any (Settlement.interrupts settlement.callId.value) with
  | false => exact Or.inl (by simp)
  | true =>
    obtain ⟨other, hother, hinterrupts⟩ := List.any_eq_true.mp hany
    exact Or.inr ⟨by simp, not_denied_of_interrupts hset (hmore other hother) hinterrupts⟩

theorem settleReservation_more (hmore : ∀ m ∈ more, m ∈ prior.settlements) (hrow : row ∈ prior.reserved) :
    settleReservation prior.tables.runs (prior.noting observedAt more) row.leftOver =
      prior.planned row := by
  have hmem : prior.planned row ∈ prior.settlements :=
    mem_settlements.mpr (Or.inl ⟨row, hrow, rfl⟩)
  obtain hsame | ⟨hmarked, hdenied⟩ := callTrail_more observedAt hmore hmem
  · simp only [settleReservation, Settlement.callId] at hsame ⊢
    rw [hsame]
  · simp only [settleReservation, Settlement.callId, Settlement.disposition] at hmarked hdenied ⊢
    rw [hmarked, reservationDisposition_interrupted hdenied]

theorem settleRun_more (hmore : ∀ m ∈ more, m ∈ prior.settlements) (hrun : run ∈ prior.loneRuns) :
    settleRun (prior.noting observedAt more) run = settleRun prior.ledger run := by
  have hmem : settleRun prior.ledger run ∈ prior.settlements := mem_settlements.mpr (Or.inr ⟨run, hrun, rfl⟩)
  obtain hsame | ⟨hmarked, hdenied⟩ := callTrail_more observedAt hmore hmem
  · simp only [settleRun, Settlement.callId] at hsame ⊢
    rw [hsame]
  · simp only [settleRun, Settlement.callId, Settlement.disposition] at hmarked hdenied ⊢
    rw [hmarked, runDisposition_interrupted hdenied]

end PriorTenure

/-! ## Planned settlements succeed -/

section Planned

variable {denial : CallId → Option DecisionId} {tables tables' : CallTables} {settlement : Settlement}
  {settled : List Settlement} {row : CallIdempotencyEntry} {run : MctRuntimeRunRecord}

def Settlement.ReadFrom (tables : CallTables) : Settlement → Prop
  | .reservation entry run disposition =>
    (∃ row ∈ tables.entries, row.isInFlight = true ∧ entry = row.leftOver) ∧
      (disposition = .resultRecovered → (run.bind fun run => run.result).isSome = true)
  | .runOnly _ _ => True

/-- **One settlement succeeds** and does to the rows what it says. -/
theorem apply_applied (denial : CallId → Option DecisionId) (h : settlement.ReadFrom tables) :
    ∃ tables', settlement.apply denial tables = .ok tables' ∧ Applied denial [settlement] tables tables' := by
  have hruns : ∀ {next : CallTables}, next.runs = (settlement.closeRun denial tables).runs →
      next.runs = tables.runs.map (closedBy denial [settlement]) := by
    intro next hnext
    rw [hnext, closeRun_runs]
    rfl
  have hents := closeRun_entries denial tables settlement
  cases settlement with
  | runOnly run disposition =>
    refine ⟨_, rfl, hruns rfl, ?_, ?_⟩
    · simp [hents, Settlement.settles]
    · intro row hrow _
      rw [hents]
      exact hrow
  | reservation entry run disposition =>
    obtain ⟨⟨row, hrow, hflight, rfl⟩, hrec⟩ := h
    by_cases hrel : disposition = .released
    · subst hrel
      refine ⟨_, rfl, hruns rfl, ?_, ?_⟩
      · simp only [CallTables.release, releaseCallIdempotency, hents, List.filter_filter, Settlement.settles,
          List.any_cons, List.any_nil, Bool.or_false]
        refine List.filter_congr fun _ _ => Bool.and_comm _ _
      · intro other hother hnot
        have := hnot _ List.mem_cons_self
        simp only [CallTables.release, releaseCallIdempotency, hents, List.mem_filter]
        exact ⟨hother, by simpa [Settlement.settles] using this⟩
    · obtain ⟨reply, hreply, hinline⟩ := replyFor_isSome denial row.leftOver hrel hrec
      have hrow' : row ∈ ((Settlement.reservation row.leftOver run disposition).closeRun denial tables).entries := by
        rw [hents]
        exact hrow
      obtain ⟨tables', hcomp, hsame, hchange⟩ := CallTables.complete_row hrow' hflight (by rw [hinline]; rfl)
      refine ⟨tables', ?_, hruns hsame, ?_, ?_⟩
      · unfold Settlement.apply Settlement.finish
        cases disposition <;> first | exact absurd rfl hrel | (simp only [hreply, okOr]; exact hcomp)
      · rw [hchange, hents, inFlight_complete]
        simp [Settlement.settles, CallIdempotencyEntry.leftOver]
      · intro other hother hnot
        have hnot := hnot _ List.mem_cons_self
        rw [hchange, hents]
        refine List.mem_map.mpr ⟨other, hother, ?_⟩
        rw [if_neg (by simpa [Settlement.settles, CallIdempotencyEntry.leftOver] using hnot)]

theorem applySettlements_applied (hread : ∀ settlement ∈ settled, settlement.ReadFrom tables)
    (hapart : settled.Pairwise fun a b => ∀ row, b.settles row = true → a.settles row = false) :
    ∃ tables', applySettlements denial settled tables = .ok tables' ∧ Applied denial settled tables tables' := by
  induction settled generalizing tables with
  | nil => exact ⟨tables, rfl, .nil⟩
  | cons settlement settled ih =>
    obtain ⟨tables₁, happly, happ⟩ := apply_applied denial (hread settlement List.mem_cons_self)
    obtain ⟨hfirst, hrest⟩ := List.pairwise_cons.mp hapart
    have hread₁ : ∀ other ∈ settled, other.ReadFrom tables₁ := by
      intro other hother
      have hread := hread other (List.mem_cons_of_mem _ hother)
      cases other with
      | runOnly run disp => trivial
      | reservation e run disp =>
        obtain ⟨⟨row, hrow, hflight, rfl⟩, hrec⟩ := hread
        refine ⟨⟨row, happ.kept row hrow ?_, hflight, rfl⟩, hrec⟩
        intro first hmem
        rw [List.mem_singleton.mp hmem]
        exact hfirst _ hother row (CallIdempotencyEntry.isReservation_self hflight)
    obtain ⟨tables', hall, happ'⟩ := ih hread₁ hrest
    refine ⟨tables', ?_, happ.cons happ'⟩
    unfold applySettlements at hall ⊢
    rw [List.foldlM_cons, happly]
    exact hall

end Planned

/-! ## The rest of a plan -/

/-- The observation is a disposition of the left-over with this digest. -/
def MctObservation.disposes (digest : String) (observation : MctObservation) : Bool :=
  [Disposition.interrupted, .denied, .released, .resultRecovered].any fun disposition =>
    observation.observationId == dispositionId disposition digest

namespace PriorTenure

variable {prior : PriorTenure} {settlement : Settlement} {row : CallIdempotencyEntry} {run : MctRuntimeRunRecord}

theorem settlements_readFrom (h : settlement ∈ prior.settlements) : settlement.ReadFrom prior.tables := by
  obtain ⟨row, hrow, rfl⟩ | ⟨run, -, rfl⟩ := mem_settlements.mp h
  · obtain ⟨hentry, hflight⟩ := mem_reserved.mp hrow
    refine ⟨⟨row, hentry, hflight, rfl⟩, fun hrec => ?_⟩
    unfold reservationDisposition at hrec
    cases hrun : leftOverRun prior.tables.runs row.leftOver.recoveryCallId with
    | none =>
      simp only [hrun] at hrec
      split_ifs at hrec
    | some run =>
      simp only [hrun] at hrec
      split_ifs at hrec with hresult
      exact hresult
  · trivial

omit [SettlementHost] in
theorem reserved_nodup (prior : PriorTenure) : prior.reserved.Nodup := by
  have hents : prior.tables.entries.Nodup := List.Nodup.of_map _ prior.tables.entryKeys
  exact ((List.perm_insertionSort _ _).nodup_iff).mpr (hents.filter _)

/-- A planned settlement of a reservation settles the row that it was read from and no other. -/
theorem settles_iff {row' : CallIdempotencyEntry} (hrow : row ∈ prior.reserved) (hrow' : row' ∈ prior.reserved) :
    (prior.planned row).settles row' = true ↔ row' = row := by
  constructor
  · exact CallTables.eq_of_isReservation (mem_reserved.mp hrow).1 (mem_reserved.mp hrow').1
  · rintro rfl
    exact CallIdempotencyEntry.isReservation_self (mem_reserved.mp hrow).2

theorem settlements_apart (prior : PriorTenure) :
    prior.settlements.Pairwise fun a b => ∀ row, b.settles row = true → a.settles row = false := by
  rw [settlements_eq, List.pairwise_append]
  refine ⟨?_, ?_, ?_⟩
  · rw [reservationSettlements, List.pairwise_map]
    refine prior.reserved_nodup.imp_of_mem fun {a b} ha hb hne row hsettles => ?_
    -- one row cannot have both keys
    by_contra hother
    rw [Bool.not_eq_false] at hother
    simp only [settleReservation, Settlement.settles, CallIdempotencyEntry.isReservation, Bool.and_eq_true,
      beq_iff_eq] at hsettles hother
    exact hne (CallTables.row_eq (mem_reserved.mp hb).1 (mem_reserved.mp ha).1
      (hother.1.1.symm.trans hsettles.1.1))
  · rw [List.pairwise_map]
    exact List.pairwise_of_forall fun _ _ _ _ => rfl
  · intro a _ b hb row hsettles
    obtain ⟨run, -, rfl⟩ := List.mem_map.mp hb
    cases hsettles

theorem applySettlements_take (prior : PriorTenure) (settled : Nat) :
    ∃ tables', applySettlements prior.denial (prior.settlements.take settled) prior.tables = .ok tables' ∧
      prior.AppliedFirst settled tables' :=
  applySettlements_applied (fun _ h => settlements_readFrom (List.mem_of_mem_take h))
    (prior.settlements_apart.sublist (List.take_sublist _ _))

theorem closesRun_of_unfinished (h : settlement ∈ prior.settlements) (hrun : settlement.run = some run)
    (hopen : run.result = none) : settlement.closesRun prior.denial run = true := by
  obtain ⟨row, hrow, rfl⟩ | ⟨lone, -, rfl⟩ := mem_settlements.mp h
  · simp only [settleReservation, Settlement.run] at hrun ⊢
    simp only [hrun, reservationDisposition, hopen, Option.isSome_none, Bool.false_eq_true, if_false]
    split <;> simp [Settlement.closesRun, Settlement.closes]
  · simp only [settleRun, Settlement.run, Option.some.injEq] at hrun ⊢
    subst hrun
    unfold runDisposition
    split <;> simp [Settlement.closesRun, Settlement.closes]

section Rest

variable {tables' : CallTables} {settled : Nat} {observedAt : Timestamp} {more : List Settlement}

theorem take_settlements (prior : PriorTenure) (settled : Nat) :
    prior.settlements.take settled =
      (prior.reserved.take settled).map prior.planned ++
        (prior.loneRuns.take (settled - prior.reserved.length)).map (settleRun prior.ledger) := by
  rw [settlements_eq, List.take_append, reservationSettlements, List.length_map, List.map_take, List.map_take]

theorem drop_settlements (prior : PriorTenure) (settled : Nat) :
    prior.settlements.drop settled =
      (prior.reserved.drop settled).map prior.planned ++
        (prior.loneRuns.drop (settled - prior.reserved.length)).map (settleRun prior.ledger) := by
  rw [settlements_eq, List.drop_append, reservationSettlements, List.length_map, List.map_drop, List.map_drop]

theorem reserved_rest (h : prior.AppliedFirst settled tables')
    (l : List MctObservation) : reserved ⟨tables', l⟩ = prior.reserved.drop settled := by
  have hsettling : ∀ row ∈ prior.reserved,
      (!(prior.settlements.take settled).any (Settlement.settles row)) = decide (row ∉ prior.reserved.take settled) := by
    intro row hrow
    rw [Bool.eq_iff_iff, Bool.not_eq_true', decide_eq_true_iff, ← Bool.not_eq_true, not_iff_not, List.any_eq_true,
      take_settlements]
    constructor
    · rintro ⟨settlement, hmem, hsettles⟩
      obtain hmem | hmem := List.mem_append.mp hmem
      · obtain ⟨row', hrow', rfl⟩ := List.mem_map.mp hmem
        rw [(settles_iff (List.mem_of_mem_take hrow') hrow).mp hsettles]
        exact hrow'
      · obtain ⟨run, -, rfl⟩ := List.mem_map.mp hmem
        cases hsettles
    · intro htake
      exact ⟨_, List.mem_append_left _ (List.mem_map.mpr ⟨row, htake, rfl⟩), (settles_iff hrow hrow).mpr rfl⟩
  calc reserved ⟨tables', l⟩
      = prior.reserved.filter (fun row => !(prior.settlements.take settled).any (Settlement.settles row)) := by
        simp only [reserved, h.inFlight, Rows.filter_insertionSort]
    _ = prior.reserved.drop settled := by
        rw [List.filter_congr hsettling, Rows.filter_not_mem_take prior.reserved_nodup]

theorem unfinishedRuns_rest (h : prior.AppliedFirst settled tables') :
    unfinishedRuns tables'.runs = (unfinishedRuns prior.tables.runs).filter fun run =>
      !(prior.settlements.take settled).any (Settlement.closesRun prior.denial run) := by
  have hopen : ∀ run, (closedBy prior.denial (prior.settlements.take settled) run).result.isNone =
      (run.result.isNone && !(prior.settlements.take settled).any (Settlement.closesRun prior.denial run)) := by
    intro run
    cases hany : (prior.settlements.take settled).any (Settlement.closesRun prior.denial run) with
    | true =>
      have hclosed := closedBy_result (Or.inr (List.any_eq_true.mp hany))
      rw [Option.isNone_eq_false_iff.mpr hclosed, Bool.not_true, Bool.and_false]
    | false =>
      rw [closedBy_of_not_closes (by simpa using hany), Bool.not_false, Bool.and_true]
  have hsame : ∀ run ∈ prior.tables.runs.filter (fun run => run.result.isNone &&
      !(prior.settlements.take settled).any (Settlement.closesRun prior.denial run)),
      closedBy prior.denial (prior.settlements.take settled) run = run := by
    intro run hrun
    have hnot := (Bool.and_eq_true _ _ ▸ (List.mem_filter.mp hrun).2).2
    exact closedBy_of_not_closes (by simpa using hnot)
  unfold unfinishedRuns
  rw [Rows.filter_insertionSort, h.runs, List.filter_map, List.filter_filter]
  simp only [Function.comp_def, hopen]
  rw [List.map_congr_left hsame, List.map_id']
  congr 1
  exact List.filter_congr fun run _ => Bool.and_comm _ _

/-- **The run of no later reservation has been closed** by the first settlements. -/
def RunsUntouched (prior : PriorTenure) (settled : Nat) : Prop :=
  ∀ done ∈ prior.settlements.take settled, ∀ later ∈ prior.settlements.drop settled, later.isReservation = true →
    ∀ run, later.run = some run → done.closesRun prior.denial run = false

theorem reservationSettlements_rest (h : prior.AppliedFirst settled tables')
    (huntouched : prior.RunsUntouched settled) (hmore : ∀ m ∈ more, m ∈ prior.settlements) :
    reservationSettlements ⟨tables', prior.noting observedAt more⟩ =
      prior.reservationSettlements.drop settled := by
  rw [reservationSettlements, reserved_rest h, reservationSettlements, ← List.map_drop]
  refine List.map_congr_left fun row hrow => ?_
  have hreserved := List.mem_of_mem_drop hrow
  have hlater : prior.planned row ∈ prior.settlements.drop settled := by
    rw [drop_settlements]
    exact List.mem_append_left _ (List.mem_map.mpr ⟨row, hrow, rfl⟩)
  have hrun : leftOverRun tables'.runs row.leftOver.recoveryCallId =
      leftOverRun prior.tables.runs row.leftOver.recoveryCallId := by
    cases hdec : leftOverRun prior.tables.runs row.leftOver.recoveryCallId with
    | none =>
      unfold leftOverRun at hdec ⊢
      split
      · rfl
      · rename_i hlegacy
        rw [if_neg hlegacy] at hdec
        rw [h.runs, getRunByCallId_map (fun run => (closedBy_keys _ run).2.1) (fun run => (closedBy_keys _ run).2.2),
          hdec]
        rfl
    | some run =>
      have hkept : closedBy prior.denial (prior.settlements.take settled) run = run :=
        closedBy_of_not_closes fun done hdone => huntouched done hdone _ hlater rfl run hdec
      unfold leftOverRun at hdec ⊢
      split at hdec
      · cases hdec
      · rename_i hlegacy
        rw [if_neg hlegacy, h.runs,
          getRunByCallId_map (fun run => (closedBy_keys _ run).2.1) (fun run => (closedBy_keys _ run).2.2), hdec,
          Option.map_some, hkept]
  calc settleReservation tables'.runs (prior.noting observedAt more) row.leftOver
      = settleReservation prior.tables.runs (prior.noting observedAt more) row.leftOver := by
        simp only [settleReservation, hrun]
    _ = prior.planned row := settleReservation_more observedAt hmore hreserved

theorem loneRuns_nodup (prior : PriorTenure) : prior.loneRuns.Nodup := by
  have hruns : prior.tables.runs.Nodup := List.Nodup.of_map _ prior.tables.runKeys
  exact (((List.perm_insertionSort _ _).nodup_iff).mpr (hruns.filter _)).filter _

theorem run_mem (h : settlement ∈ prior.settlements) (hrun : settlement.run = some run) : run ∈ prior.tables.runs := by
  obtain ⟨row, -, rfl⟩ | ⟨lone, hlone, rfl⟩ := mem_settlements.mp h
  · simp only [settleReservation, Settlement.run, leftOverRun] at hrun
    split at hrun
    · cases hrun
    · exact ((getRunByCallId_spec _ _).1 run hrun).1
  · obtain rfl := Option.some.inj hrun
    exact (mem_loneRuns.mp hlone).1.1

theorem loneRuns_rest (h : prior.AppliedFirst settled tables')
    (huntouched : prior.RunsUntouched settled) (hmore : ∀ m ∈ more, m ∈ prior.settlements) :
    loneRuns ⟨tables', prior.noting observedAt more⟩ =
      prior.loneRuns.drop (settled - prior.reserved.length) := by
  have hsplit : ∀ other ∈ prior.reservationSettlements,
      other ∈ (prior.settlements.take settled) ∨ other ∈ prior.reservationSettlements.drop settled := by
    intro other hother
    rw [← List.take_append_drop settled prior.reservationSettlements, List.mem_append] at hother
    refine hother.imp_left fun htake => ?_
    rw [settlements_eq, List.take_append]
    exact List.mem_append_left _ htake
  rw [loneRuns, unsettledRuns, reservationSettlements_rest h huntouched hmore, unfinishedRuns_rest h,
    ← Rows.filter_not_mem_take prior.loneRuns_nodup, loneRuns, unsettledRuns, List.filter_filter, List.filter_filter]
  refine List.filter_congr fun run hrun => ?_
  obtain ⟨hmem, hopen⟩ : run ∈ prior.tables.runs ∧ run.result = none := by
    simpa [unfinishedRuns, List.mem_insertionSort] using hrun
  rw [Bool.eq_iff_iff]
  simp only [Bool.and_eq_true, Bool.not_eq_true', List.any_eq_false, beq_iff_eq, decide_eq_true_iff, Bool.not_eq_true]
  constructor
  · rintro ⟨hnone, hnotC⟩
    have hlone : ∀ other ∈ prior.reservationSettlements, (other.run.map fun run => run.runId) ≠ some run.runId := by
      intro other hother heq
      obtain htake | hdrop := hsplit other hother
      · obtain ⟨own, hown, hid⟩ := Option.map_eq_some_iff.mp heq
        have hplanned := List.mem_of_mem_take htake
        obtain rfl := CallTables.run_eq hmem (run_mem hplanned hown) hid
        have hcloses := closesRun_of_unfinished hplanned hown hopen
        rw [hnotC other htake] at hcloses
        cases hcloses
      · exact hnone other hdrop heq
    refine ⟨fun htake => ?_, hlone⟩
    have hplanned : settleRun prior.ledger run ∈ prior.settlements.take settled := by
      rw [take_settlements]
      exact List.mem_append_right _ (List.mem_map.mpr ⟨run, htake, rfl⟩)
    have hcloses := closesRun_of_unfinished (List.mem_of_mem_take hplanned) rfl hopen
    rw [hnotC _ hplanned] at hcloses
    cases hcloses
  · rintro ⟨hnotT, hlone⟩
    refine ⟨fun other hother => hlone other (List.mem_of_mem_drop hother), fun done hdone => ?_⟩
    by_contra hcloses
    have hid := run_of_closesRun (Bool.not_eq_false _ ▸ hcloses)
    rw [take_settlements] at hdone
    obtain hdone | hdone := List.mem_append.mp hdone
    · obtain ⟨row, hrow, rfl⟩ := List.mem_map.mp hdone
      exact hlone _ (List.mem_map.mpr ⟨row, List.mem_of_mem_take hrow, rfl⟩) hid
    · obtain ⟨lone, htake, rfl⟩ := List.mem_map.mp hdone
      have hmem' := (mem_loneRuns.mp (List.mem_of_mem_take htake)).1.1
      obtain rfl := CallTables.run_eq hmem hmem' (Option.some.inj hid)
      exact hnotT htake

/-- **The plan after a part of it is its rest.** -/
theorem settlements_rest (h : prior.AppliedFirst settled tables')
    (huntouched : prior.RunsUntouched settled) (hmore : ∀ m ∈ more, m ∈ prior.settlements) :
    settlements ⟨tables', prior.noting observedAt more⟩ =
      prior.settlements.drop settled := by
  rw [settlements_eq, reservationSettlements_rest h huntouched hmore, loneRuns_rest h huntouched hmore,
    drop_settlements, reservationSettlements, ← List.map_drop]
  congr 1
  exact List.map_congr_left fun run hrun => settleRun_more observedAt hmore (List.mem_of_mem_drop hrun)

end Rest

/-! ## Facts of a plan -/

def unrecorded (prior : PriorTenure) : List Settlement :=
  prior.settlements.filter fun settlement =>
    !(recordedIds prior.ledger).contains (dispositionId settlement.disposition settlement.digest).value

theorem facts_eq (prior : PriorTenure) (observedAt : Timestamp) :
    prior.facts observedAt = prior.unrecorded.map (settlementObservation observedAt) := by
  rw [facts, List.filter_map]
  rfl

theorem mem_settlements_of_unrecorded (h : settlement ∈ prior.unrecorded) : settlement ∈ prior.settlements :=
  (List.mem_filter.mp h).1

theorem recordedIds_append (l : List MctObservation) (observedAt : Timestamp) (more : List Settlement) :
    recordedIds (l ++ more.map (settlementObservation observedAt)) =
      recordedIds l ++ more.map fun settlement => (dispositionId settlement.disposition settlement.digest).value := by
  have hplain : (more.map (settlementObservation observedAt)).filter (fun observation => !observation.isPeerResult) =
      more.map (settlementObservation observedAt) := by
    refine List.filter_eq_self.mpr fun observation hobs => ?_
    obtain ⟨settlement, -, rfl⟩ := List.mem_map.mp hobs
    rw [(settlementObservation_plain observedAt settlement).1]
    rfl
  rw [recordedIds, List.filter_append, hplain, List.map_append, List.map_map]
  rfl

/-- **The left-overs have different digests.** -/
def Distinct (prior : PriorTenure) : Prop := (prior.settlements.map Settlement.digest).Nodup

theorem eq_of_digest (hdistinct : prior.Distinct) {other : Settlement} (h : settlement ∈ prior.settlements)
    (hother : other ∈ prior.settlements) (heq : other.digest = settlement.digest) : other = settlement :=
  List.inj_on_of_nodup_map hdistinct hother h heq

theorem unrecorded_nodup (hdistinct : prior.Distinct) : prior.unrecorded.Nodup :=
  (List.Nodup.of_map _ hdistinct).filter _

theorem not_contains_append (hdistinct : prior.Distinct) (observedAt : Timestamp) {more : List Settlement}
    (hmore : ∀ m ∈ more, m ∈ prior.settlements) (h : settlement ∈ prior.settlements) :
    (!(recordedIds (prior.noting observedAt more)).contains
        (dispositionId settlement.disposition settlement.digest).value) =
      (decide (settlement ∉ more) &&
        !(recordedIds prior.ledger).contains (dispositionId settlement.disposition settlement.digest).value) := by
  have hmem : (more.map fun other => (dispositionId other.disposition other.digest).value).contains
      (dispositionId settlement.disposition settlement.digest).value = decide (settlement ∈ more) := by
    rw [Bool.eq_iff_iff, List.contains_iff_mem, List.mem_map, decide_eq_true_iff]
    constructor
    · rintro ⟨other, hother, hid⟩
      rw [← eq_of_digest hdistinct h (hmore other hother) (dispositionId_inj hid).2]
      exact hother
    · exact fun hin => ⟨settlement, hin, rfl⟩
  rw [recordedIds_append, List.contains_append, hmem, Bool.not_or, Bool.and_comm, decide_not]

/-! ## Attempts that are safe -/

/-- **The attempt does not stop between a run and its reservation**: the runs of the reservations that are still to be
    completed are not closed yet. -/
def SafeAbort (prior : PriorTenure) : SettlementAbort → Prop
  | .appending _ => True
  | .writing settled runClosed =>
    prior.RunsUntouched settled ∧
      (runClosed = true → ∀ next ∈ (prior.settlements.drop settled).head?, next.isReservation = true →
        next.closes prior.denial = none)

def SafeAttempts (prior : PriorTenure) : List (Timestamp × SettlementAbort) → Prop
  | [] => True
  | attempt :: attempts =>
    prior.SafeAbort attempt.2 ∧
      ∀ next, prior.abort attempt.1 attempt.2 = .ok next → next.SafeAttempts attempts

/-- **What a plan comes to**: its rows, and its ledger with one time for all observations. -/
def outcome (prior : PriorTenure) (time : Timestamp) : Except String (CallTables × List MctObservation) := do
  let tables ← applySettlements prior.denial prior.settlements prior.tables
  return (tables, prior.ledger.map (MctObservation.timed time) ++ prior.unrecorded.map (settlementObservation time))

theorem denial_more (observedAt : Timestamp) (tb : CallTables) (more : List Settlement) :
    denial ⟨tb, prior.noting observedAt more⟩ = prior.denial := by
  funext callId
  rw [denial, denial, denial_append]

theorem map_timed (time observedAt : Timestamp) (more : List Settlement) :
    (more.map (settlementObservation observedAt)).map (MctObservation.timed time) = more.map (settlementObservation time) := by
  rw [List.map_map]
  rfl

/-- **Part of the facts**: the rest of them is still to be appended. -/
theorem outcome_appending (hdistinct : prior.Distinct) (time observedAt : Timestamp) (facts : Nat) :
    outcome ⟨prior.tables, prior.ledger ++ (prior.facts observedAt).take facts⟩ time = prior.outcome time ∧
      settlements ⟨prior.tables, prior.ledger ++ (prior.facts observedAt).take facts⟩ = prior.settlements := by
  have hmore : ∀ m ∈ prior.unrecorded.take facts, m ∈ prior.settlements :=
    fun m hm => mem_settlements_of_unrecorded (List.mem_of_mem_take hm)
  have happ : Applied prior.denial (prior.settlements.take 0) prior.tables prior.tables := .nil
  rw [facts_eq, ← List.map_take]
  have hplan : settlements ⟨prior.tables, prior.noting observedAt (prior.unrecorded.take facts)⟩ =
      prior.settlements :=
    settlements_rest happ (fun done hdone => absurd hdone List.not_mem_nil) hmore
  have hrest : unrecorded ⟨prior.tables, prior.noting observedAt (prior.unrecorded.take facts)⟩ =
      prior.unrecorded.drop facts := by
    rw [unrecorded, hplan, ← Rows.filter_not_mem_take (unrecorded_nodup hdistinct)]
    rw [unrecorded, List.filter_filter]
    exact List.filter_congr fun settlement h => not_contains_append hdistinct observedAt hmore h
  refine ⟨?_, hplan⟩
  rw [outcome, outcome, hplan, hrest, denial_more]
  simp only [List.map_append, map_timed, List.append_assoc]
  rw [← List.map_append, List.take_append_drop]

variable {tables' : CallTables}

/-- **All facts and part of the rows**: the rest of the rows is still to be changed. -/
theorem outcome_writing (hdistinct : prior.Distinct) (time observedAt : Timestamp) {settled : Nat}
    (huntouched : prior.RunsUntouched settled)
    (happly : applySettlements prior.denial (prior.settlements.take settled) prior.tables = .ok tables')
    (happ : prior.AppliedFirst settled tables') :
    outcome ⟨tables', prior.ledger ++ prior.facts observedAt⟩ time = prior.outcome time ∧
      settlements ⟨tables', prior.ledger ++ prior.facts observedAt⟩ = prior.settlements.drop settled := by
  have hmore : ∀ m ∈ prior.unrecorded, m ∈ prior.settlements := fun m hm => mem_settlements_of_unrecorded hm
  rw [facts_eq]
  have hplan : settlements ⟨tables', prior.noting observedAt prior.unrecorded⟩ =
      prior.settlements.drop settled := settlements_rest happ huntouched hmore
  have hrest : unrecorded ⟨tables', prior.noting observedAt prior.unrecorded⟩ = [] := by
    rw [unrecorded, hplan, List.filter_eq_nil_iff]
    intro settlement hdrop
    have h := List.mem_of_mem_drop hdrop
    rw [not_contains_append hdistinct observedAt hmore h, Bool.and_eq_true, decide_eq_true_iff]
    rintro ⟨hnot, hnew⟩
    exact hnot (List.mem_filter.mpr ⟨h, hnew⟩)
  refine ⟨?_, hplan⟩
  have htables : applySettlements prior.denial (prior.settlements.drop settled) tables' =
      applySettlements prior.denial prior.settlements prior.tables := by
    conv_rhs => rw [← List.take_append_drop settled prior.settlements]
    unfold applySettlements at happly ⊢
    rw [List.foldlM_append, happly]
    rfl
  rw [outcome, outcome, hplan, hrest, denial_more, htables]
  simp only [List.map_append, map_timed, List.map_nil, List.append_nil]

/-- **A safe attempt does not change what the plan comes to.** -/
theorem abort_outcome (hdistinct : prior.Distinct) (time observedAt : Timestamp) {abort : SettlementAbort}
    (hsafe : prior.SafeAbort abort) :
    ∃ next, prior.abort observedAt abort = .ok next ∧ next.outcome time = prior.outcome time ∧ next.Distinct := by
  cases abort with
  | appending facts =>
    obtain ⟨houtcome, hplan⟩ := outcome_appending hdistinct time observedAt facts
    refine ⟨_, rfl, houtcome, ?_⟩
    unfold Distinct
    rw [hplan]
    exact hdistinct
  | writing settled runClosed =>
    obtain ⟨huntouched, hnext⟩ := hsafe
    obtain ⟨tables', happly, happ⟩ := prior.applySettlements_take settled
    obtain ⟨houtcome, hplan⟩ := outcome_writing hdistinct time observedAt huntouched happly happ
    have hsame : (if runClosed then closeNextRun prior.denial tables' (prior.settlements.drop settled) else tables') =
        tables' := by
      split
      · rename_i hclosed
        exact closeNextRun_of_safe (hnext hclosed)
      · rfl
    refine ⟨⟨tables', prior.ledger ++ prior.facts observedAt⟩, ?_, houtcome, ?_⟩
    · simp only [abort, happly]
      exact congrArg (fun tables => Except.ok (PriorTenure.mk tables _)) hsame
    · unfold Distinct
      rw [hplan, List.map_drop]
      exact hdistinct.sublist (List.drop_sublist _ _)

theorem abortAll_outcome (hdistinct : prior.Distinct) (time : Timestamp) {attempts : List (Timestamp × SettlementAbort)}
    (hsafe : prior.SafeAttempts attempts) :
    ∃ stopped, prior.abortAll attempts = .ok stopped ∧ stopped.outcome time = prior.outcome time := by
  induction attempts generalizing prior with
  | nil => exact ⟨prior, rfl, rfl⟩
  | cons att attempts ih =>
    obtain ⟨next, habort, hsame, hdistinct'⟩ := abort_outcome hdistinct time att.1 hsafe.1
    obtain ⟨stopped, hall, hsame'⟩ := ih hdistinct' (hsafe.2 next habort)
    refine ⟨stopped, ?_, hsame'.trans hsame⟩
    unfold abortAll at hall ⊢
    rw [List.foldlM_cons, habort]
    exact hall

/-! ## Confluence -/

theorem settle_outcome (prior : PriorTenure) (time observedAt : Timestamp) :
    ∃ after, prior.settle observedAt = .ok after ∧
      prior.outcome time = .ok (after.tables, after.ledger.map (MctObservation.timed time)) ∧
      Applied prior.denial prior.settlements prior.tables after.tables := by
  obtain ⟨tables', happly, happ⟩ := prior.applySettlements_take prior.settlements.length
  rw [AppliedFirst, List.take_length] at happ
  rw [List.take_length] at happly
  refine ⟨⟨tables', prior.ledger ++ prior.facts observedAt⟩, ?_, ?_, happ⟩
  · rw [settle, happly]
    rfl
  · rw [outcome, happly, List.map_append, facts_eq, map_timed]
    rfl

theorem applied_complete (h : Applied prior.denial prior.settlements prior.tables tables') :
    (∀ row ∈ tables'.entries, row.isInFlight = false) ∧ ∀ run ∈ tables'.runs, run.result.isSome = true := by
  constructor
  · intro row hrow
    by_contra hflight
    rw [Bool.not_eq_false] at hflight
    have hleft : row ∈ tables'.entries.filter CallIdempotencyEntry.isInFlight := List.mem_filter.mpr ⟨hrow, hflight⟩
    rw [h.inFlight] at hleft
    obtain ⟨hleft, hnot⟩ := List.mem_filter.mp hleft
    have hreserved : row ∈ prior.reserved := mem_reserved.mpr (List.mem_filter.mp hleft)
    have hsettling : prior.settlements.any (Settlement.settles row) = true :=
      List.any_eq_true.mpr ⟨_, mem_settlements.mpr (Or.inl ⟨row, hreserved, rfl⟩),
        (settles_iff hreserved hreserved).mpr rfl⟩
    rw [hsettling] at hnot
    cases hnot
  · intro run hrun
    rw [h.runs] at hrun
    obtain ⟨start, hstart, rfl⟩ := List.mem_map.mp hrun
    apply closedBy_result
    cases hresult : start.result with
    | some res => exact Or.inl rfl
    | none =>
      right
      by_cases hown : ∃ other ∈ prior.reservationSettlements, (other.run.map fun run => run.runId) = some start.runId
      · obtain ⟨other, hother, hid⟩ := hown
        have hplanned : other ∈ prior.settlements := by
          rw [settlements_eq]
          exact List.mem_append_left _ hother
        obtain ⟨decided, hdec, hid⟩ := Option.map_eq_some_iff.mp hid
        obtain rfl := CallTables.run_eq hstart (run_mem hplanned hdec) hid
        exact ⟨other, hplanned, closesRun_of_unfinished hplanned hdec hresult⟩
      · have hlone : start ∈ prior.loneRuns :=
          mem_loneRuns.mpr ⟨⟨hstart, hresult⟩, fun other hother hid => hown ⟨other, hother, hid⟩⟩
        have hplanned := mem_settlements.mpr (Or.inr ⟨start, hlone, rfl⟩)
        exact ⟨_, hplanned, closesRun_of_unfinished hplanned rfl hresult⟩

def Undisposed (prior : PriorTenure) : Prop :=
  ∀ settlement ∈ prior.settlements, ∀ observation ∈ prior.ledger, observation.disposes settlement.digest = false

theorem unrecorded_of_undisposed (h : prior.Undisposed) : prior.unrecorded = prior.settlements := by
  rw [unrecorded, List.filter_eq_self]
  intro settlement hset
  rw [Bool.not_eq_true', ← Bool.not_eq_true, List.contains_iff_mem]
  intro hmem
  obtain ⟨obs, hobs, hid⟩ := List.mem_map.mp hmem
  have hfresh := h settlement hset obs (List.mem_filter.mp hobs).1
  rw [MctObservation.disposes, StringId.ext hid] at hfresh
  generalize settlement.disposition = disp at hfresh
  cases disp <;> simp at hfresh

theorem disposes_iff {observedAt : Timestamp} {digest : String} :
    (settlementObservation observedAt settlement).disposes digest = (settlement.digest == digest) := by
  rw [Bool.eq_iff_iff, beq_iff_eq, MctObservation.disposes, List.any_eq_true, settlementObservation_id]
  constructor
  · rintro ⟨disp, -, hid⟩
    exact (dispositionId_inj (congrArg StringId.value (beq_iff_eq.mp hid))).2
  · rintro rfl
    refine ⟨settlement.disposition, ?_, by simp⟩
    cases settlement.disposition <;> simp

/-- **One fact per left-over** stands in the ledger that the plan comes to. -/
theorem countP_disposes (hdistinct : prior.Distinct) (hundisposed : prior.Undisposed) (time : Timestamp)
    (h : settlement ∈ prior.settlements) :
    (prior.ledger.map (MctObservation.timed time) ++ prior.unrecorded.map (settlementObservation time)).countP
      (MctObservation.disposes settlement.digest) = 1 := by
  have hledger : (prior.ledger.map (MctObservation.timed time)).countP (MctObservation.disposes settlement.digest) =
      0 := by
    rw [List.countP_map, List.countP_eq_zero]
    intro obs hobs
    have := hundisposed settlement h obs hobs
    exact Bool.not_eq_true _ ▸ this
  have hfacts : (prior.settlements.map (settlementObservation time)).countP (MctObservation.disposes settlement.digest) =
      (prior.settlements.map Settlement.digest).count settlement.digest := by
    rw [List.countP_map, List.count, List.countP_map]
    exact List.countP_congr fun other _ => by simp [disposes_iff]
  rw [List.countP_append, hledger, unrecorded_of_undisposed hundisposed, hfacts, Nat.zero_add]
  exact List.count_eq_one_of_mem hdistinct (List.mem_map_of_mem h)

/-- **A settlement that is interrupted and resumed comes to what an uninterrupted one comes to**, as long as no attempt
    stops between a run and a reservation that is decided from it: the same rows, the same facts, nothing left over and,
    where none was there before, one fact per left-over. -/
theorem settlement_confluent (attempts : List (Timestamp × SettlementAbort)) (observedAt observedAt' time : Timestamp)
    (hdistinct : prior.Distinct) (hsafe : prior.SafeAttempts attempts) :
    ∃ stopped resumed single, prior.abortAll attempts = .ok stopped ∧ stopped.settle observedAt = .ok resumed ∧
      prior.settle observedAt' = .ok single ∧
      resumed.tables = single.tables ∧
      resumed.ledger.map (MctObservation.timed time) = single.ledger.map (MctObservation.timed time) ∧
      (prior.Undisposed →
        ∀ settlement ∈ prior.settlements, resumed.ledger.countP (MctObservation.disposes settlement.digest) = 1) ∧
      (∀ row ∈ resumed.tables.entries, row.isInFlight = false) ∧
      ∀ run ∈ resumed.tables.runs, run.result.isSome = true := by
  obtain ⟨stopped, hstop, hsame⟩ := abortAll_outcome hdistinct time hsafe
  obtain ⟨resumed, hresumed, houtcome, happ⟩ := stopped.settle_outcome time observedAt
  obtain ⟨single, hsingle, houtcome', -⟩ := prior.settle_outcome time observedAt'
  obtain ⟨hflight, hresults⟩ := applied_complete happ
  have heq : (resumed.tables, resumed.ledger.map (MctObservation.timed time)) =
      (single.tables, single.ledger.map (MctObservation.timed time)) :=
    Except.ok.inj (houtcome.symm.trans (hsame.trans houtcome'))
  obtain ⟨htables, hledger⟩ := Prod.mk.inj heq
  refine ⟨stopped, resumed, single, hstop, hresumed, hsingle, htables, hledger, ?_, hflight, hresults⟩
  intro hundisposed settlement hset
  have hone := countP_disposes hdistinct hundisposed time hset
  have hfinal : single.ledger.map (MctObservation.timed time) =
      prior.ledger.map (MctObservation.timed time) ++ prior.unrecorded.map (settlementObservation time) := by
    rw [outcome] at houtcome'
    obtain ⟨tables, -, hpure⟩ := bind_ok.mp houtcome'
    exact (congrArg Prod.snd (Except.ok.inj hpure)).symm
  rw [← hfinal, ← hledger, List.countP_map] at hone
  exact hone

end PriorTenure

end Mct

namespace Mct.SettlementSample

open Checked
open Sample (jsonString jsonOption jsonObject jsonArray bytes)
open IngressSample (plain plainContext)
open Recovery.Sample (second)

@[reducible] def host : SettlementHost where
  toKernelHost := { Recovery.Sample.host with blake3 := Blake3.hash }
  legacyReservationJson scope key callId createdAt :=
    bytes (jsonArray [jsonString scope, jsonString key, jsonString callId, jsonString createdAt])
  dispositionJson detail := String.ofList (jsonObject
    [("call_id", jsonString detail.callId), ("disposition", jsonString detail.disposition),
      ("idempotency_fingerprint", jsonOption jsonString detail.idempotencyFingerprint),
      ("idempotency_scope", jsonOption jsonString detail.idempotencyScope),
      ("run_id", jsonOption jsonString detail.runId),
      ("run_state_before", jsonOption jsonString detail.runStateBefore),
      ("schema", jsonString "mct-call-restart-disposition-v1"), ("tenure", jsonString "previous_writer_tenure")])

local instance : SettlementHost := host

def row : CallIdempotencyEntry where
  callerScope := residentIdempotencyCallerScope plain plainContext
  idempotencyKey := "key"
  fingerprint := residentIdempotencyFingerprint plain
  state := .inFlight
  createdAt := (second 0).value
  expiresAt := second 600
  executionCallId := none

def run : MctRuntimeRunRecord where
  runId := "run-1"
  callId := plain.call.callId
  authorityDecisionId := none
  traceId := plain.call.traceContext.traceId
  state := .running
  startedAt := (second 1).value
  call := plain.call
  result := none

def left : PriorTenure := ⟨⟨[row], [run], List.nodup_singleton _, List.nodup_singleton _⟩, []⟩

def closedRun : MctRuntimeRunRecord := { run with state := .failed, result := some (interruptedResult run) }

def interrupted : Settlement := .reservation row.leftOver (some run) .interrupted
def recovered : Settlement := .reservation row.leftOver (some closedRun) .resultRecovered

theorem left_settlements : left.settlements = [interrupted] := rfl

theorem left_distinct : left.Distinct := List.nodup_singleton _

theorem left_undisposed : left.Undisposed := fun _ _ _ h => absurd h List.not_mem_nil

def attempts : List (Timestamp × SettlementAbort) := [(second 60, .writing 1 false), (second 70, .writing 0 false)]

theorem left_safe : left.SafeAttempts attempts := by
  refine ⟨⟨?_, fun h => nomatch h⟩, fun next _ => ⟨⟨?_, fun h => nomatch h⟩, fun _ _ => trivial⟩⟩
  · intro done _ later hlater
    rw [left_settlements] at hlater
    exact absurd hlater List.not_mem_nil
  · exact fun done hdone => absurd hdone List.not_mem_nil

theorem settled_once :
    ∃ stopped resumed single, left.abortAll attempts = .ok stopped ∧ stopped.settle (second 90) = .ok resumed ∧
      left.settle (second 60) = .ok single ∧ resumed.tables = single.tables ∧
      resumed.ledger.map (MctObservation.timed (second 0)) = single.ledger.map (MctObservation.timed (second 0)) ∧
      (∀ settlement ∈ left.settlements, resumed.ledger.countP (MctObservation.disposes settlement.digest) = 1) ∧
      (∀ row ∈ resumed.tables.entries, row.isInFlight = false) ∧
      ∀ run ∈ resumed.tables.runs, run.result.isSome = true := by
  obtain ⟨stopped, resumed, single, hstopped, hresumed, hsingle, htables, hledger, hcount, hdone⟩ :=
    PriorTenure.settlement_confluent attempts (second 90) (second 60) (second 0) left_distinct left_safe
  exact ⟨stopped, resumed, single, hstopped, hresumed, hsingle, htables, hledger, hcount left_undisposed, hdone⟩

theorem settle_single {prior : PriorTenure} {decided : Option MctRuntimeRunRecord} {disp : Disposition}
    {reply : MctRecordedCallReply} (t : Timestamp) (hents : prior.tables.entries = [row])
    (hplan : prior.settlements = [.reservation row.leftOver decided disp]) (hrel : disp ≠ .released)
    (hreply : replyFor prior.denial row.leftOver decided disp = some reply)
    (hinline : reply.inlineResultPayload = none) :
    ∃ after, prior.settle t = .ok after ∧ after.tables.entries = [{ row with state := .completed reply }] ∧
      after.ledger = prior.ledger ++ prior.unrecorded.map (settlementObservation t) := by
  let st := Settlement.reservation row.leftOver decided disp
  have hsame := closeRun_entries prior.denial prior.tables st
  have hrow : row ∈ (st.closeRun prior.denial prior.tables).entries := by
    rw [hsame, hents]
    exact List.mem_cons_self
  obtain ⟨tables', hcomp, -, hchange⟩ := CallTables.complete_row hrow rfl (by rw [hinline]; rfl)
  have hfin : st.apply prior.denial prior.tables = .ok tables' := by
    unfold Settlement.apply Settlement.finish st
    cases disp <;> first | exact absurd rfl hrel | (simp only [hreply, okOr]; exact hcomp)
  refine ⟨⟨tables', prior.ledger ++ prior.facts t⟩, ?_, ?_, by rw [prior.facts_eq]⟩
  · unfold PriorTenure.settle applySettlements
    rw [hplan, List.foldlM_cons, hfin]
    rfl
  · show tables'.entries = _
    rw [hchange, hsame, hents, completeCallIdempotency, List.map_singleton,
      if_pos (CallIdempotencyEntry.isReservation_self rfl)]

def stopped : PriorTenure :=
  ⟨⟨[row], [closedRun], List.nodup_singleton _, List.nodup_singleton _⟩, [settlementObservation (second 60) interrupted]⟩

theorem left_abortAll : left.abortAll [(second 60, .writing 0 true)] = .ok stopped := rfl

theorem stopped_settlements : stopped.settlements = [recovered] := rfl

theorem stopped_unrecorded : stopped.unrecorded = [recovered] := by
  have hrecorded : recordedIds stopped.ledger = [(dispositionId .interrupted interrupted.digest).value] :=
    PriorTenure.recordedIds_append [] (second 60) [interrupted]
  have hnew : (recordedIds stopped.ledger).contains (dispositionId .resultRecovered recovered.digest).value = false := by
    rw [hrecorded, ← Bool.not_eq_true, List.contains_iff_mem, List.mem_singleton]
    intro heq
    cases (dispositionId_inj heq).1
  rw [PriorTenure.unrecorded, stopped_settlements]
  exact List.filter_cons_of_pos (by rw [Bool.not_eq_true']; exact hnew)

/-- **A run that was closed before its reservation is taken for a result**: the attempt stops after it closed the run, the
    next one replies with a failure that has no reason and adds a second fact. -/
theorem interrupted_twice :
    left.Distinct ∧ left.Undisposed ∧
    ∃ stopped resumed single, left.abortAll [(second 60, .writing 0 true)] = .ok stopped ∧
      stopped.settle (second 90) = .ok resumed ∧ left.settle (second 90) = .ok single ∧
      (single.tables.entries = [{ row with state := .completed (interruptedReply (some run)) }] ∧
        single.ledger.countP (MctObservation.disposes interrupted.digest) = 1) ∧
      (resumed.tables.entries = [{ row with state := .completed (recoveredReply (interruptedResult run)) }] ∧
        resumed.ledger.countP (MctObservation.disposes interrupted.digest) = 2) ∧
      (interruptedReply (some run)).protocolReason = some .executionInterrupted ∧
      (recoveredReply (interruptedResult run)).protocolReason = none := by
  obtain ⟨resumed, hresumed, hents, hledger⟩ :=
    @settle_single stopped _ _ _ (second 90) rfl stopped_settlements (by decide) rfl rfl
  obtain ⟨single, hsingle, hents', hledger'⟩ :=
    @settle_single left _ _ _ (second 90) rfl left_settlements (by decide) rfl rfl
  refine ⟨left_distinct, left_undisposed, stopped, resumed, single, left_abortAll, hresumed, hsingle,
    ⟨hents', ?_⟩, ⟨hents, ?_⟩, rfl, rfl⟩
  · rw [hledger', PriorTenure.unrecorded_of_undisposed left_undisposed, left_settlements]
    simp [left, PriorTenure.disposes_iff]
  · have hsame : recovered.digest = interrupted.digest := rfl
    rw [hledger, stopped_unrecorded]
    simp [stopped, PriorTenure.disposes_iff, hsame]

end Mct.SettlementSample
