import PatinaMct.KeyedOnce
/-!
# ReleasedRetry — the retry of a call that the restart has released

A restart that finds a reservation without a run and without the start of an effect deletes its row, so that a retry may
execute.  The ledger's fence is not asked: a reservation that had reached the ledger stays there until it expires, and
the retry is then refused as interrupted.  A retry starts exactly if neither the fence nor the caller's budget is in its
way.
-/
namespace Mct

open Checked
open Resumption

/-! ## The released row is gone -/

section Rows

variable [SettlementHost] {denial : CallId → Option DecisionId} {tb tb' : CallTables} {st : Settlement}
  {settled : List Settlement} {scope key : String}

omit [SettlementHost] in
theorem Settlement.apply_absent (h : st.apply denial tb = .ok tb') (habs : tb.Absent scope key) :
    tb'.Absent scope key := by
  have hclosed : (st.closeRun denial tb).Absent scope key := by
    intro row hrow
    rw [closeRun_entries] at hrow
    exact habs row hrow
  unfold Settlement.apply at h
  generalize st.closeRun denial tb = closed at h hclosed
  unfold Settlement.finish at h
  split at h
  · cases h
    exact hclosed
  · cases h
    exact fun row hrow => hclosed row (List.mem_of_mem_filter hrow)
  · rename_i e run disp _
    obtain ⟨reply, -, hcomp⟩ := bind_ok.mp h
    simp only [CallTables.complete, bind_ok, exists_unit, pure_ok] at hcomp
    obtain ⟨-, -, rfl⟩ := hcomp
    intro row hrow hkey
    have hkeys : row.primaryKey ∈ closed.entries.map CallIdempotencyEntry.primaryKey := by
      rw [← completeCallIdempotency_keys]
      exact List.mem_map_of_mem hrow
    obtain ⟨old, hold, hsame⟩ := List.mem_map.mp hkeys
    exact hclosed old hold (hsame.trans hkey)

omit [SettlementHost] in
theorem applySettlements_absent (h : applySettlements denial settled tb = .ok tb')
    (habs : tb.Absent scope key) : tb'.Absent scope key := by
  induction settled generalizing tb with
  | nil =>
    cases h
    exact habs
  | cons st settled ih =>
    rw [applySettlements, List.foldlM_cons] at h
    obtain ⟨middle, hmid, hrest⟩ := bind_ok.mp h
    exact ih hrest (st.apply_absent hmid habs)

theorem PriorTenure.released_absent {prior : PriorTenure} {row : CallIdempotencyEntry} (hrow : row ∈ prior.tables.entries)
    (hflight : row.isInFlight = true)
    (hreleased : (settleReservation prior.tables.runs prior.ledger row.leftOver).disposition = .released)
    (happ : applySettlements prior.denial prior.settlements prior.tables = .ok tb') :
    tb'.Absent row.callerScope row.idempotencyKey := by
  have hmem : settleReservation prior.tables.runs prior.ledger row.leftOver ∈ prior.settlements :=
    mem_settlements.mpr (Or.inl ⟨row, mem_reserved.mpr ⟨hrow, hflight⟩, rfl⟩)
  have hapart := prior.settlements_apart
  obtain ⟨front, back, hsplit⟩ := List.append_of_mem hmem
  rw [hsplit] at happ hapart
  obtain ⟨hfront, -, hcross⟩ := List.pairwise_append.mp hapart
  obtain ⟨middle, hmid, hkept⟩ : ∃ middle, applySettlements prior.denial front prior.tables = .ok middle ∧
      Applied prior.denial front prior.tables middle :=
    applySettlements_applied (fun st h => settlements_readFrom (by rw [hsplit]; exact List.mem_append_left _ h)) hfront
  have hpend : row ∈ middle.entries := by
    refine hkept.kept row hrow fun st hset => ?_
    exact hcross st hset _ List.mem_cons_self row (CallIdempotencyEntry.isReservation_self hflight)
  rw [applySettlements, List.foldlM_append] at happ
  obtain ⟨middle', hmid', hrest⟩ := bind_ok.mp happ
  obtain rfl : middle = middle' := Except.ok.inj (hmid.symm.trans hmid')
  rw [List.foldlM_cons] at hrest
  obtain ⟨released, hrel, hback⟩ := bind_ok.mp hrest
  refine applySettlements_absent hback ?_
  have hfin : (settleReservation prior.tables.runs prior.ledger row.leftOver).apply prior.denial middle =
      .ok (((settleReservation prior.tables.runs prior.ledger row.leftOver).closeRun prior.denial middle).release
        row.callerScope row.idempotencyKey row.fingerprint) := by
    unfold Settlement.apply settleReservation
    have hdecision : reservationDisposition (callTrail prior.ledger row.leftOver.recoveryCallId.value)
        row.leftOver.recoveryCallId (leftOverRun prior.tables.runs row.leftOver.recoveryCallId) = .released := hreleased
    simp only [hdecision]
    rfl
  obtain rfl := Except.ok.inj (hrel.symm.trans hfin)
  have hkeeps : ((settleReservation prior.tables.runs prior.ledger row.leftOver).closeRun prior.denial middle).Keeps
      row.callerScope row.idempotencyKey row.fingerprint row.expiresAt .inFlight := by
    refine ⟨row, ?_, rfl, rfl, rfl, beq_iff_eq.mp hflight⟩
    rw [closeRun_entries]
    exact hpend
  exact hkeeps.release

end Rows

/-! ## The restart -/

variable [ResidentHost]

theorem settlementObservation_ordinary (t : Timestamp) (st : Settlement) :
    validateOrdinaryObservation (settlementObservation t st) = .ok () := by
  simp only [validateOrdinaryObservation, settlementObservation, Option.any_some, deny_ok, startsWith, String.toList_append]
  rfl

namespace Resident

variable {resident : Resident} {world : World} {room : Nat}

/-- **A settlement that nothing stops** writes its facts and changes the rows. -/
theorem Ready.settle (h : resident.Ready (room + (resident.prior.facts world.clock).length)) (hworld : world.Steady) :
    ∃ tables log added, applySettlements resident.prior.denial resident.prior.settlements resident.tables = .ok tables ∧
      log.Ready room ∧ log.nextSequence = resident.writer.log.nextSequence + (resident.prior.facts world.clock).length ∧
      resident.settle world =
        { resident with tables := tables, writer := ⟨log, resident.writer.index, resident.writer.entries ++ added⟩ } := by
  have hord : ∀ observation ∈ resident.prior.facts world.clock, validateOrdinaryObservation observation = .ok () := by
    intro observation hobs
    unfold PriorTenure.facts at hobs
    obtain ⟨settlement, -, rfl⟩ := List.mem_map.mp (List.mem_filter.mp hobs).1
    exact settlementObservation_ordinary _ _
  obtain ⟨added, log, happend, -, hlog, hnext⟩ := h.append hworld hord
  obtain ⟨tables, happ, -⟩ : ∃ tables,
      applySettlements resident.prior.denial resident.prior.settlements resident.prior.tables = .ok tables ∧
        Applied resident.prior.denial resident.prior.settlements resident.prior.tables tables :=
    applySettlements_applied (fun _ h => PriorTenure.settlements_readFrom h) resident.prior.settlements_apart
  have happ' : applySettlements resident.prior.denial resident.prior.settlements resident.tables = .ok tables := happ
  refine ⟨tables, log, added, happ', hlog, hnext, ?_⟩
  unfold Resident.settle
  rw [happend]
  simp only [happ']

end Resident

theorem PriorTenure.facts_length (prior : PriorTenure) (t : Timestamp) :
    (prior.facts t).length ≤ prior.tables.entries.length + prior.tables.runs.length := by
  have hreserved : (inFlightCallIdempotencyEntries prior.tables.entries).length ≤ prior.tables.entries.length := by
    rw [inFlightCallIdempotencyEntries, List.length_map, List.length_insertionSort]
    exact List.length_filter_le _ _
  have hruns : ∀ settled, (unsettledRuns prior.tables settled).length ≤ prior.tables.runs.length := by
    intro settled
    rw [unsettledRuns, unfinishedRuns]
    exact (List.length_filter_le _ _).trans (by simpa using List.length_filter_le _ _)
  refine (List.length_filter_le _ _).trans ?_
  rw [List.length_map, settlements, List.length_append, List.length_map, List.length_map]
  exact Nat.add_le_add hreserved (hruns _)

/-- **After a restart that releases a reservation**, its row is gone and its fence is what the ledger says. -/
theorem Resident.settle_released {rs : Resident} {crash : Crash} {w : World} {row : CallIdempotencyEntry}
    (hrow : row ∈ rs.tables.entries) (hflight : row.isInFlight = true)
    {idx : CallDispatchIndexV1} (hrebuilt : rebuildIndex (rs.found crash) = .ok idx)
    (hreleased : (settleReservation rs.tables.runs ((rs.found crash).map fun e => e.observation)
      row.leftOver).disposition = .released)
    (hlog : crash.log.Ready (1 + ((rs.reopen crash).prior.facts w.clock).length)) (hworld : w.Steady) :
    ((rs.reopen crash).settle w).Ready (0 + 1) ∧
      ((rs.reopen crash).settle w).tables.Absent row.callerScope row.idempotencyKey ∧
      applySettlements (rs.reopen crash).prior.denial (rs.reopen crash).prior.settlements rs.tables =
        .ok ((rs.reopen crash).settle w).tables ∧
      ((rs.reopen crash).settle w).writer.index = idx ∧
      ((rs.reopen crash).settle w).writer.log.nextSequence =
        crash.log.nextSequence + ((rs.reopen crash).prior.facts w.clock).length := by
  have hreopen : rs.reopen crash =
      { rs with writer := ⟨crash.log, idx, rs.found crash⟩, fenced := false, attempted := [] } := by
    simp only [Resident.reopen, hrebuilt]
  have hready : (rs.reopen crash).Ready (1 + ((rs.reopen crash).prior.facts w.clock).length) := by
    refine ⟨by rw [hreopen], ?_⟩
    have hsame : (rs.reopen crash).writer.log = crash.log := by rw [hreopen]
    rw [hsame]
    exact hlog
  obtain ⟨tb, log, added, happ, hlog', hnext, hsettles⟩ := hready.settle hworld
  have habs : tb.Absent row.callerScope row.idempotencyKey := by
    rw [hreopen] at happ
    exact PriorTenure.released_absent hrow hflight hreleased happ
  have htables : (rs.reopen crash).tables = rs.tables := by rw [hreopen]
  have hlogged : (rs.reopen crash).writer.log = crash.log := by rw [hreopen]
  rw [htables] at happ
  rw [hlogged] at hnext
  rw [hsettles]
  refine ⟨⟨hready.unfenced, hlog'⟩, habs, happ, ?_, hnext⟩
  rw [hreopen]

/-! ## The retry -/

/-- **A released key is retryable exactly if nothing of the call is left.**  A keyed call is interrupted by a crash and its
reservation is released on the restart.  A retry in worlds without failures starts its execution if and only if its
caller has room for a row, and the ledger that the restart found has no live reservation of the key.  Then the execution
runs from the store at the start, and duplicates replay its result if and only if the handler could keep it: the writer
is not fenced, the result is no transient refusal and its payload fits. -/
theorem released_retry_starts_iff (serde : EventRoundTrip)
    (hdigest : ∀ bytes, isDigestText (KernelHost.blake3 bytes) = true) {resident : Resident} {crash : Crash} {world : World}
    {row : CallIdempotencyEntry} (hrow : row ∈ resident.tables.entries) (hflight : row.isInFlight = true)
    {index : CallDispatchIndexV1} (hrebuilt : rebuildIndex (resident.found crash) = .ok index)
    (hreleased : (settleReservation resident.tables.runs ((resident.found crash).map fun entry => entry.observation)
      row.leftOver).disposition = .released)
    (hlog : crash.log.Ready (1 + ((resident.reopen crash).prior.facts world.clock).length)) (hworld : world.Steady)
    {owner : KeyedRequest} {keyed : KeyedCall} (hingress : KeyedIngress owner.request owner.context)
    (hkeyed : owner.keyed = some keyed) (hscope : keyed.callerScope = row.callerScope)
    (hkey : keyed.key = row.idempotencyKey) (hround : owner.now.ExpiryRead)
    (htext : ¬ keyed.expiresAt.value ≤ keyed.now.value)
    (hsize : keyed.Recordable ((resident.reopen crash).settle world))
    {worlds : Nat → World} (hworlds : ∀ n, (worlds n).Steady) :
    (KeyedCall.startEvent ∈ (owner.program.alone worlds ((resident.reopen crash).settle world)).events ↔
      ((resident.reopen crash).settle world).tables.HasBudget keyed.callerScope keyed.now ∧
        (index.retainAfter owner.now.epochNanoseconds).reservations[keyed.claim.keyDigest]? = none) ∧
    (KeyedCall.startEvent ∈ (owner.program.alone worlds ((resident.reopen crash).settle world)).events →
      ∃ before started, owner.StartsAt keyed worlds ((resident.reopen crash).settle world) before started ∧
        started.fenced = false ∧
        KeyedRequest.Answers keyed
          (CallProg.alone owner.execute.lift (fun n => worlds (n + (before.length + 1))) started)
          (owner.program.alone worlds ((resident.reopen crash).settle world))) := by
  obtain ⟨hready, habs, -, hindex, -⟩ := resident.settle_released hrow hflight hrebuilt hreleased hlog hworld
  rw [← hscope, ← hkey] at habs
  have hprop := KeyedRequest.proper_of_ingress hdigest hingress hkeyed hround
  obtain ⟨hstarts, hrep⟩ := hprop.starts_iff serde hready hworlds habs htext hsize
  refine ⟨hstarts.trans ?_, hrep⟩
  rw [hindex]

/-! ## A retry that is refused, and one that starts -/

theorem decodeEvent_constructed {e : MctObservationLedgerEntry} {rv : CallDispatchReservationV1}
    (h : decodeEvent e = .ok (some (.reserved rv))) : e.observation.kind = .callConstructed := by
  unfold decodeEvent at h
  split at h
  · cases h
  · split_ifs at h
    · simp only [bind_ok, exists_unit, pure_ok] at h
      obtain ⟨json, -, -, ev, -, -, act, hact, -, hevent⟩ := h
      cases hevent
      simp only [checkDispatchEnvelope, bind_ok, exists_unit, deny_ok, Bool.not_eq_eq_eq_not, Bool.not_false,
        Bool.and_eq_true, beq_iff_eq] at hact
      exact hact.2.1.1.2
    · cases h

omit [ResidentHost] in
theorem released_of_constructed {obs : MctObservation} (h : obs.kind = .callConstructed) {callId : CallId}
    (hlegacy : callId.isLegacy = false) :
    reservationDisposition (callTrail [obs] callId.value) callId none = .released := by
  have htrail : (callTrail [obs] callId.value).latestResult = none ∧
      (callTrail [obs] callId.value).effectStarted = false := by
    have hstart : isEffectStart .callConstructed = false := rfl
    have hresult : (ObservationKind.callConstructed == .resultRecorded) = false := rfl
    have hroute : (ObservationKind.callConstructed == .routeSelected) = false := rfl
    simp only [callTrail, List.zipIdx_cons, List.zipIdx_nil, List.foldl_cons, List.foldl_nil, CallTrail.note, h, hstart,
      hresult, hroute, Bool.false_and, Bool.or_false, Bool.false_eq_true, if_false]
    split_ifs
    · exact ⟨rfl, rfl⟩
    · exact ⟨rfl, rfl⟩
  unfold reservationDisposition
  have hdenied : (callTrail [obs] callId.value).denialForReservation = none := by
    unfold CallTrail.denialForReservation CallTrail.denialForRun CallTrail.denial
    rw [htrail.1]
    simp
  simp [hlegacy, hdenied, htrail.2]

end Mct

namespace Mct.ResidentSample

open IngressSample (plain)
open Recovery.Sample (second)

noncomputable def retry : KeyedRequest := requestAt plain 90 (by decide) served

theorem retry_proper : retry.Proper (keyedAt plain 90) := proper_at plain_ingress rfl (by decide) (by decide) (by decide) served

noncomputable def row : CallIdempotencyEntry := (keyedAt plain 0).row

noncomputable def reservedTables : CallTables := ⟨[row], [], List.nodup_singleton _, List.nodup_nil⟩

theorem reserve_first : (keyedAt plain 0).Reserves noTables .executeFresh reservedTables := by
  obtain ⟨tb, hreserve, hruns, hentries⟩ := call_proper.reserve_empty (rfl : noTables.unexpired _ = [])
  have htables : tb = reservedTables := by
    cases tb
    simp only at hruns hentries
    subst hruns hentries
    rfl
  rw [← htables]
  exact hreserve

noncomputable def interrupted : KeyedPool :=
  keyedMachine.run (.first noTables ledger) [.spawn call, .turn 0 (calm 0), .turn 0 (calm 0)]

noncomputable def reserved : Resident := { Resident.first noTables ledger with tables := reservedTables }

theorem interrupted_eq : ∃ entry log,
    decodeEvent entry = .ok (some (.reserved ⟨(keyedAt plain 0).claim, 1⟩)) ∧
      interrupted.store = (keyedAt plain 0).granted reserved (second 0).epochNanoseconds log entry := by
  have hready : (Resident.first noTables ledger).Ready (0 + 1) := ⟨rfl, ledger_ready (by decide)⟩
  let worlds : Nat → World := fun _ => calm 0
  obtain ⟨entry, log, hevent, -, -, hgranted⟩ := @KeyedRequest.Proper.leads_granted _ _ worlds _ _ _ events_lawful call_proper
    rfl hready (calm_steady 0) (calm_steady 0) _ reserve_first (CallDispatchIndexV1.empty_fresh _ _)
    (reserved_fits plain (by decide) (by decide) (by decide))
  exact ⟨entry, log, hevent, congrArg Resumption.Pool.store (run_leads hgranted)⟩

noncomputable def restart : Crash := ⟨0, [], ledger⟩

theorem keyDigest_eq : (keyedAt plain 90).claim.keyDigest = (keyedAt plain 0).claim.keyDigest :=
  (keyDigest_at plain 90).trans (keyDigest_at plain 0).symm

theorem row_released {obs : MctObservation} (h : obs.kind = .callConstructed) :
    (settleReservation [] [obs] row.leftOver).disposition = .released := by
  have hlegacy : row.leftOver.recoveryCallId.isLegacy = false := by decide +kernel
  exact released_of_constructed h hlegacy

/-- **A released call whose retry does not start.**  The Mother stops between the reservation in the ledger and the
execution; the restart finds no start of an effect and deletes the row, and a retry of the same call under the key, well
before the expiry, is answered from the fence. -/
theorem released_retry_refused :
    row ∈ interrupted.store.tables.entries ∧ row.isInFlight = true ∧
    (settleReservation interrupted.store.tables.runs ((interrupted.store.found restart).map fun entry => entry.observation)
      row.leftOver).disposition = .released ∧
    ((interrupted.store.reopen restart).settle (calm 60)).tables.Absent row.callerScope row.idempotencyKey ∧
    retry.keyed = some (keyedAt plain 90) ∧ (keyedAt plain 90).callerScope = row.callerScope ∧
    (keyedAt plain 90).key = row.idempotencyKey ∧ (keyedAt plain 90).fingerprint = row.fingerprint ∧
    (keyedAt plain 90).now < row.expiresAt ∧
    KeyedCall.startEvent ∉
      (retry.program.alone (fun _ => calm 90) ((interrupted.store.reopen restart).settle (calm 60))).events := by
  obtain ⟨entry, log, hdec, heq⟩ := interrupted_eq
  have hrow : row ∈ interrupted.store.tables.entries := by
    rw [heq]
    exact List.mem_singleton_self _
  have hfound : interrupted.store.found restart = [entry] := by
    rw [heq]
    rfl
  have hruns : interrupted.store.tables.runs = [] := by
    rw [heq]
    rfl
  have hreleased : (settleReservation interrupted.store.tables.runs
      ((interrupted.store.found restart).map fun entry => entry.observation) row.leftOver).disposition = .released := by
    rw [hfound, hruns]
    exact row_released (decodeEvent_constructed hdec)
  have hindex : rebuildIndex (interrupted.store.found restart) =
      .ok ⟨CallDispatchIndexV1.empty.reservations.insert (keyedAt plain 0).claim.keyDigest ⟨(keyedAt plain 0).claim, 1⟩⟩ := by
    rw [hfound]
    have hempty : rebuildIndex [] = .ok .empty := rfl
    refine rebuildIndex_snoc hempty hdec (CallDispatchIndexV1.apply_reserved_ok.mpr ⟨fun prior h => ?_, rfl⟩)
    rw [CallDispatchIndexV1.empty] at h
    simp at h
  have hfacts : ((interrupted.store.reopen restart).prior.facts (calm 60).clock).length ≤ 2 ^ 62 := by
    refine (PriorTenure.facts_length _ _).trans ?_
    have htables : (interrupted.store.reopen restart).prior.tables = reservedTables := by
      rw [Resident.reopen, hindex, heq]
      rfl
    rw [htables]
    decide
  have hlog : restart.log.Ready (1 + ((interrupted.store.reopen restart).prior.facts (calm 60).clock).length) :=
    ledger_ready (by omega)
  obtain ⟨hready, habs, -, hwritten, -⟩ :=
    interrupted.store.settle_released hrow rfl hindex hreleased hlog (calm_steady 60)
  refine ⟨hrow, rfl, hreleased, habs, retry_proper.call, rfl, rfl, rfl, by decide, ?_⟩
  have hrec : (((interrupted.store.reopen restart).settle (calm 60)).writer.index.retainAfter
      retry.now.epochNanoseconds).reservations[(keyedAt plain 90).claim.keyDigest]? =
        some ⟨(keyedAt plain 0).claim, 1⟩ := by
    rw [hwritten, keyDigest_eq]
    refine CallDispatchIndexV1.retainAfter_some.mpr ⟨Std.ExtTreeMap.getElem?_insert_self, ?_⟩
    have hparse : KernelHost.parseTimestamp (keyedAt plain 0).claim.expiresAt.value = .ok (second 720).epochNanoseconds :=
      parse_second (by decide)
    simp only [CallDispatchIndexV1.live, hparse]
    decide
  exact retry_proper.alone_held hready (fun _ => calm_steady 90) habs hrec

theorem early_facts : ((reserved.reopen restart).prior.facts (calm 60).clock).length = 1 := by
  have hprior : (reserved.reopen restart).prior = ⟨reservedTables, []⟩ := rfl
  have hall : ∀ settlements : List MctObservation,
      (settlements.filter fun obs => !(recordedIds []).contains obs.observationId.value) = settlements :=
    fun settlements => List.filter_eq_self.mpr fun _ _ => rfl
  rw [hprior, PriorTenure.facts, hall, List.length_map]
  rfl

theorem early_index : rebuildIndex (reserved.found restart) = .ok .empty := rfl

theorem early_released : (settleReservation reserved.tables.runs ((reserved.found restart).map fun e => e.observation)
    row.leftOver).disposition = .released := by
  have hlegacy : row.leftOver.recoveryCallId.isLegacy = false := by decide +kernel
  have hdecision : reservationDisposition (callTrail [] row.leftOver.recoveryCallId.value) row.leftOver.recoveryCallId
      none = .released := by
    unfold reservationDisposition
    simp [hlegacy, callTrail, CallTrail.denialForReservation, CallTrail.denialForRun, CallTrail.denial, CallTrail.empty]
  exact hdecision

theorem early_log : restart.log.Ready (1 + ((reserved.reopen restart).prior.facts (calm 60).clock).length) := by
  rw [early_facts]
  exact ledger_ready (by decide)

theorem early_settled :
    ((reserved.reopen restart).settle (calm 60)).tables.HasBudget (keyedAt plain 90).callerScope (keyedAt plain 90).now ∧
      ((reserved.reopen restart).settle (calm 60)).writer.log.nextSequence = 2 := by
  obtain ⟨-, habs, happ, -, hnext⟩ :=
    reserved.settle_released (List.mem_singleton_self row) rfl early_index early_released early_log (calm_steady 60)
  rw [early_facts] at hnext
  refine ⟨?_, hnext⟩
  have hnone : ((reserved.reopen restart).settle (calm 60)).tables.entries = [] := by
    refine List.eq_nil_iff_forall_not_mem.mpr fun other hother => ?_
    by_cases hkey : other.primaryKey = (row.callerScope, row.idempotencyKey)
    · exact habs other hother hkey
    · refine applySettlements_absent happ (fun found hfound hsame => ?_) other hother rfl
      obtain rfl := List.mem_singleton.mp hfound
      exact hkey hsame.symm
  rw [CallTables.HasBudget, CallTables.unexpired, hnone]
  decide

/-- **A released call whose retry starts**: its result is what duplicates replay. -/
theorem released_retry_started :
    KeyedCall.startEvent ∈
      (retry.program.alone (fun _ => calm 90) ((reserved.reopen restart).settle (calm 60))).events ∧
    KeyedRequest.Replays (retry.program.alone (fun _ => calm 90) ((reserved.reopen restart).settle (calm 60))).store
      (keyedAt plain 90) (.failed "served") := by
  have hsize : (keyedAt plain 90).Recordable ((reserved.reopen restart).settle (calm 60)) := by
    rw [KeyedCall.Recordable, KeyedCall.next, early_settled.2, claim_plain]
    exact reserved_fits plain (by decide) (by decide) (by decide)
  have hingress : KeyedIngress retry.request retry.context := plain_ingress
  obtain ⟨hstarts, hanswers⟩ := released_retry_starts_iff events_lawful isDigestText_hash (List.mem_singleton_self row) rfl
    early_index early_released early_log (calm_steady 60) hingress retry_proper.call rfl rfl (expiryRead (by decide))
    (by decide +kernel) hsize fun _ => calm_steady 90
  have hstart := hstarts.mpr ⟨early_settled.1, CallDispatchIndexV1.empty_fresh _ _⟩
  obtain ⟨before, started, -, hunfenced, hreplays, -⟩ := hanswers hstart
  exact ⟨hstart, hreplays.mpr ⟨hunfenced, rfl, rfl⟩⟩

end Mct.ResidentSample
