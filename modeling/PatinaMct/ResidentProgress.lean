import PatinaMct.DispatchRestart
import PatinaMct.KeyedCall
/-!
# ResidentProgress — operations that nothing stops

On a writer that is neither fenced nor poisoned, in worlds where neither the file nor SQLite fails, every append is
acknowledged, the fence answers by its index alone, and a statement does what the tables say.
-/
namespace Mct

open Checked

/-! ## The resident -/

/-- Neither the file nor SQLite fails. -/
structure World.Steady (world : World) : Prop where
  io : world.io.Succeeds
  sqlite : world.sqliteError = none

structure Resident.Ready (resident : Resident) (room : Nat) : Prop where
  unfenced : resident.fenced = false
  log : resident.writer.log.Ready room

variable [ResidentHost] {rs : Resident} {w : World} {room : Nat}

omit [ResidentHost] in
theorem Resident.statement_steady {α : Type} (hworld : w.Steady) {v : α} {tb : CallTables} :
    rs.statement w (.ok (v, tb)) = ({ rs with tables := tb }, .ok v) := by
  simp only [Resident.statement, hworld.sqlite]

namespace Resident.Ready

theorem append {obss : List MctObservation} (h : rs.Ready (room + obss.length))
    (hworld : w.Steady)
    (hord : ∀ obs ∈ obss, validateOrdinaryObservation obs = .ok ()) :
    ∃ added log, rs.append w obss =
        ({ rs with writer := ⟨log, rs.writer.index, rs.writer.entries ++ added⟩ }, .ok ()) ∧
      (added.map fun e => e.observation) = obss.map (MctObservation.timed w.clock) ∧
      log.Ready room ∧ log.nextSequence = rs.writer.log.nextSequence + obss.length := by
  unfold Resident.append
  split
  · rename_i hempty
    obtain rfl := List.isEmpty_iff.mp hempty
    exact ⟨[], rs.writer.log, by simp, rfl, h.log, rfl⟩
  rw [if_neg (by rw [h.unfenced]; decide)]
  have hready : rs.writer.log.Ready (room + (obss.map (MctObservation.timed w.clock)).length) := by
    rw [List.length_map]
    exact h.log
  obtain ⟨added, log, happ, hadded, hlog, hnext⟩ := hready.appendDurableBatch hworld.io (fun obs hobs => by
    obtain ⟨other, hother, rfl⟩ := List.mem_map.mp hobs
    exact hord other hother) w.clock.value .beforeEffect .notRequired
  simp only [happ]
  rw [List.length_map] at hnext
  exact ⟨added, log, rfl, hadded, hlog, hnext⟩

theorem dispatch_eq (h : rs.Ready room) (op : DispatchOperation) :
    rs.dispatch w op = rs.answeredBy w (timedDispatch w.clock op)
      (rs.writer.process (timedDispatch w.clock op) w.clock.value w.io) := by
  unfold Resident.dispatch
  rw [if_neg (by rw [h.unfenced]; decide), if_neg (by rw [h.log.writing]; decide)]

variable {c : CallDispatchClaimV1} {tpl : MctObservation} {now : Int}

theorem reserve (serde : EventRoundTrip) (h : rs.Ready (room + 1)) (hworld : w.Steady)
    (hvalid : c.validate = .ok ()) (hparse : KernelHost.parseTimestamp c.acceptedAt.value = .ok now)
    (hcall : tpl.callId.isSome = true)
    (hfresh : (rs.writer.index.retainAfter now).reservations[c.keyDigest]? = none)
    (hsize : DispatchEvent.Small (.reserved ⟨c, rs.writer.log.nextSequence⟩)) :
    ∃ e log, rs.dispatch w (.reserve c tpl) =
        ({ rs with writer := ⟨log, ⟨(rs.writer.index.retainAfter now).reservations.insert c.keyDigest
            ⟨c, rs.writer.log.nextSequence⟩⟩, rs.writer.entries ++ [e]⟩ },
          .ok (.reserved ⟨c, rs.writer.log.nextSequence⟩)) ∧
      decodeEvent e = .ok (some (.reserved ⟨c, rs.writer.log.nextSequence⟩)) ∧ log.Ready room ∧
      log.nextSequence = rs.writer.log.nextSequence + 1 := by
  have hcall' : (tpl.timed w.clock).callId.isSome = true := hcall
  obtain ⟨e, log, hprocess, hdec, hlog, hnext⟩ :=
    DispatchWriter.process_reserve serde h.log hworld.io hvalid hparse hcall' hfresh hsize w.clock.value
  refine ⟨e, log, ?_, hdec, hlog, hnext⟩
  rw [h.dispatch_eq, timedDispatch, hprocess]
  rfl

theorem reserved (h : rs.Ready (room + 1)) (hvalid : c.validate = .ok ())
    (hparse : KernelHost.parseTimestamp c.acceptedAt.value = .ok now) {record : CallDispatchReservationV1}
    (hrec : (rs.writer.index.retainAfter now).reservations[c.keyDigest]? = some record) :
    rs.dispatch w (.reserve c tpl) =
      ({ rs with writer := { rs.writer with index := rs.writer.index.retainAfter now } },
        .ok (if record.claim.fingerprintDigest = c.fingerprintDigest then .existing else .fingerprintMismatch)) := by
  have hseq : rs.writer.nextSequence = .ok rs.writer.log.nextSequence :=
    h.log.nextSequence (Nat.succ_pos room)
  rw [h.dispatch_eq, timedDispatch]
  simp only [DispatchWriter.process, hseq, planDispatch, CallDispatchIndexV1.check, hvalid, hparse,
    CallDispatchIndexV1.answer, hrec]
  by_cases hsame : record.claim.fingerprintDigest = c.fingerprintDigest
  · simp only [hsame, if_true]
    rfl
  · simp only [hsame, if_false]
    rfl

/-- **A reservation that is in the index is released.** -/
theorem release (serde : EventRoundTrip) (h : rs.Ready (room + 1)) (hworld : w.Steady)
    {rv : CallDispatchReservationV1} (hdue : rs.writer.index.Due rs.writer.log.nextSequence (.release rv tpl))
    (hdigest : isDigestText rv.claim.keyDigest = true)
    (hsize : DispatchEvent.Small (.released rv.claim.keyDigest rv.attemptSequence)) :
    ∃ entry log, rs.dispatch w (.release rv tpl) =
        ({ rs with writer := ⟨log, ⟨rs.writer.index.reservations.erase rv.claim.keyDigest⟩,
            rs.writer.entries ++ [entry]⟩ }, .ok .released) ∧
      decodeEvent entry = .ok (some (.released rv.claim.keyDigest rv.attemptSequence)) ∧
      log.Ready room ∧ log.nextSequence = rs.writer.log.nextSequence + 1 := by
  have htimed : rs.writer.index.Due rs.writer.log.nextSequence (.release rv (tpl.timed w.clock)) := hdue
  obtain ⟨entry, log, hprocess, hdec, hlog, hnext⟩ := DispatchWriter.process_records serde h.log hworld.io htimed hdigest
    (by rw [(planDispatch_release _ _ rv _).1]; exact CallDispatchIndexV1.apply_released hdue.2.1) hsize w.clock.value
  refine ⟨entry, log, ?_, hdec, hlog, hnext⟩
  rw [h.dispatch_eq, timedDispatch, hprocess]
  rfl

end Resident.Ready

end Mct
