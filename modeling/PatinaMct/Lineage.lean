import PatinaMct.Ingress
import PatinaMct.WriterAgreement
/-!
# Lineage — the Mother id under which each command opens the ledger

A ledger belongs to one Mother: every entry names her node id, and a scan under another id ends in `foreignLineage`.  The
resident and the identity command present the recorded node id, all other commands a fixed one.  What is opened under one
id keeps its lineage through every append, failed or not (`LedgerLog.Lined`), so all is well in every run whose commands
present the recorded id; and in all runs exactly if the recorded id is the fixed one (`one_lineage_iff`).
-/
namespace Frames

variable {α : Type} [DecidableEq α] {nl : α}

theorem mem_frames_take {fs : List (List α)} (hfs : ∀ f ∈ fs, Complete nl f) {kept : Nat} {frame : List α}
    (hframe : frame ∈ frames nl (fs.flatten.take kept)) (hended : terminated nl frame = true) :
    frame ∈ fs := by
  obtain ⟨gs, rest, hgs, hrest, hsplit⟩ := exists_split nl (fs.flatten.take kept)
  have hmem : frame ∈ gs := by
    rw [hsplit, frames_split hgs hrest] at hframe
    obtain hfront | hlast := List.mem_append.mp hframe
    · exact hfront
    · split at hlast
      · cases hlast
      · rw [List.mem_singleton.mp hlast, not_terminated hrest] at hended
        cases hended
  have hall : fs.flatten = gs.flatten ++ (rest ++ fs.flatten.drop kept) := by
    rw [← List.append_assoc, ← hsplit, List.take_append_drop]
  have hfs' : fs = gs ++ frames nl (rest ++ fs.flatten.drop kept) := by
    rw [← frames_flatten_append hgs, ← hall, frames_flatten_complete hfs]
  rw [hfs']
  exact List.mem_append_left _ hmem

end Frames

namespace Mct

open Checked
open Frames

variable [LedgerHost] {path : String} {id : LedgerIdentity} {bytes : List UInt8} {state : LedgerScanState}
  {entries : List MctObservationLedgerEntry} {known : Option (Nat × String)}

/-! ## The lineage of a file -/

/-- **Every entry of the file is of the lineage.** -/
def OfLineage (id : LedgerIdentity) (bytes : List UInt8) : Prop :=
  ∀ frame ∈ frames newline bytes, terminated newline frame = true →
    ∀ entry, LedgerHost.entry.decode frame.dropLast = .ok entry →
      entry.ledgerId = id.ledgerId ∧ entry.motherNodeId = id.motherNodeId

def Aligned (bytes : List UInt8) : Prop := ∀ frame ∈ frames newline bytes, terminated newline frame = true

theorem OfLineage.empty (id : LedgerIdentity) : OfLineage id [] := by
  intro frame hframe
  rw [frames_nil] at hframe
  cases hframe

theorem scanEntry_foreign {frame : List UInt8} {status : LedgerQuarantineStatus}
    (h : scanEntry path id state frame = .error (.foreignLineage status)) :
    ∃ e, LedgerHost.entry.decode frame.dropLast = .ok e ∧
      ¬ (e.ledgerId = id.ledgerId ∧ e.motherNodeId = id.motherNodeId) := by
  simp only [scanEntry, bind_error, deny_error, mapErr_error, mapErr_ok, pure, Except.pure, reduceCtorEq, and_false, or_false,
    false_or, exists_false] at h
  obtain ⟨e, hdec, _, -, hother, -⟩ := h
  refine ⟨e, hdec, fun hsame => ?_⟩
  rw [hsame.1, hsame.2] at hother
  simp at hother

theorem scanFrames_lineage {fs : List (List UInt8)}
    (h : ∀ frame ∈ fs, terminated newline frame = true → ∀ entry, LedgerHost.entry.decode frame.dropLast = .ok entry →
      entry.ledgerId = id.ledgerId ∧ entry.motherNodeId = id.motherNodeId) (status : LedgerQuarantineStatus) :
    scanFrames path id known state fs ≠ .ok (.foreignLineage status) := by
  intro hscan
  have hplain := scanFrames_known hscan
  clear hscan
  induction fs generalizing state with
  | nil => cases hplain
  | cons frame fs ih =>
    rw [List.forall_mem_cons] at h
    unfold scanFrames at hplain
    by_cases hended : terminated newline frame = true
    · rw [if_pos hended] at hplain
      cases hentry : scanEntry path id state frame with
      | error ending =>
        rw [hentry] at hplain
        cases hplain
        obtain ⟨entry, hdec, hother⟩ := scanEntry_foreign hentry
        exact hother (h.1 hended entry hdec)
      | ok entry =>
        rw [hentry] at hplain
        exact ih h.2 hplain
    · rw [if_neg hended] at hplain
      cases hplain

/-- **A file of the lineage is not refused as foreign.** -/
theorem OfLineage.scan (h : OfLineage id bytes) (status : LedgerQuarantineStatus) :
    scanExisting path id known bytes ≠ .ok (.foreignLineage status) := scanFrames_lineage h status

theorem framesOf_complete (serde : SerdeRoundTrip) (entries : List MctObservationLedgerEntry) :
    ∀ f ∈ entries.map frameOf, Complete newline f := by
  intro f hf
  obtain ⟨entry, -, rfl⟩ := List.mem_map.mp hf
  exact frameOf_complete serde entry

theorem frameOf_read (serde : SerdeRoundTrip) (entry : MctObservationLedgerEntry) :
    LedgerHost.entry.decode (frameOf entry).dropLast = .ok entry := by
  rw [frameOf, List.dropLast_concat]
  exact serde.entry entry

/-- **Entries of the lineage extend the file**, also when the last bytes are missing. -/
theorem OfLineage.append (serde : SerdeRoundTrip) (h : OfLineage id bytes) (haligned : Aligned bytes)
    (hents : ∀ entry ∈ entries, entry.ledgerId = id.ledgerId ∧ entry.motherNodeId = id.motherNodeId) (kept : Nat) :
    OfLineage id (bytes ++ (entries.map frameOf).flatten.take kept) := by
  have hcomp := framesOf_complete serde entries
  intro frame hframe hended entry hdec
  rw [frames_append haligned] at hframe
  obtain hold | hnew := List.mem_append.mp hframe
  · exact h frame hold hended entry hdec
  · obtain ⟨other, hother, rfl⟩ := List.mem_map.mp (mem_frames_take hcomp hnew hended)
    obtain rfl := Except.ok.inj ((frameOf_read serde other).symm.trans hdec)
    exact hents other hother

theorem Aligned.append (serde : SerdeRoundTrip) (h : Aligned bytes) (entries : List MctObservationLedgerEntry) :
    Aligned (bytes ++ (entries.map frameOf).flatten) := by
  intro frame hframe
  have hcomp := framesOf_complete serde entries
  rw [frames_append h, frames_flatten_complete hcomp] at hframe
  obtain hold | hnew := List.mem_append.mp hframe
  · exact h frame hold
  · exact (hcomp frame hnew).terminated

/-! ## The lineage of a log -/

/-- **The log's file is of its lineage**, and a log that is not poisoned can go on. -/
structure LedgerLog.Lined (log : LedgerLog) (id : LedgerIdentity) : Prop where
  identity : log.identity = id
  lineage : OfLineage id log.file
  aligned : log.isPoisoned = false → Aligned log.file
  headed : log.Headed

variable {log log' : LedgerLog} {io : Io}

theorem linked_lineage {seq : Nat} {prev : Option String} (h : linked id seq prev entries = true) :
    ∀ e ∈ entries, e.ledgerId = id.ledgerId ∧ e.motherNodeId = id.motherNodeId := by
  induction entries generalizing seq prev with
  | nil => exact fun _ hmem => nomatch hmem
  | cons e entries ih =>
    rw [linked, Bool.and_eq_true] at h
    rw [List.forall_mem_cons]
    exact ⟨(follows_iff.mp h.1).2.1, ih h.2⟩

theorem LedgerLog.Lined.commitAll (serde : SerdeRoundTrip) (h : log.Lined id) (hready : log.isPoisoned = false)
    (hextends : log.Extends entries) : (log.commitAll entries).Lined id := by
  have hids := linked_lineage hextends
  rw [h.identity] at hids
  have hwhole := h.lineage.append serde (h.aligned hready) hids (entries.map frameOf).flatten.length
  rw [List.take_length] at hwhole
  refine ⟨(log.commitAll_identity entries).1.trans h.identity, ?_, fun _ => ?_, commitAll_headed h.headed entries⟩
  · rw [log.commitAll_file]
    exact hwhole
  · rw [log.commitAll_file]
    exact (h.aligned hready).append serde entries

/-- **What an operation does to the log stays in its lineage.** -/
theorem LedgerLog.Lined.effect (serde : SerdeRoundTrip) (h : log.Lined id) (heff : LogEffect log io log') :
    log'.Lined id := by
  cases heff with
  | commits entries hready hextends =>
    by_cases hempty : entries = []
    · subst hempty
      exact h
    · exact h.commitAll serde (hready hempty) hextends
  | tears front entries kept hready hfails hextends =>
    obtain ⟨hfront, hrest⟩ := LedgerLog.extends_append.mp hextends
    have hcommit := h.commitAll serde hready hfront
    have hopen : (log.commitAll front).isPoisoned = false := by
      rw [isPoisoned, (log.commitAll_identity front).2.2]
      exact hready
    have hids := linked_lineage hrest
    rw [hcommit.identity] at hids
    exact ⟨hcommit.identity, hcommit.lineage.append serde (hcommit.aligned hopen) hids kept,
      fun hopen => absurd hopen (by simp [tear, isPoisoned]), hcommit.headed⟩

theorem LedgerLog.Lined.step (serde : SerdeRoundTrip) (h : log.Lined id) {entropy : Option (Vector UInt8 32)}
    (hstep : WriterStep log entropy io log') : log'.Lined id :=
  h.effect serde (hstep.effect h.headed)

theorem JsonlObservationLedger.runAll_lined (serde : SerdeRoundTrip) {l : JsonlObservationLedger}
    (h : l.toLedgerLog.Lined id) (calls : List (WriterOp × Io)) : (l.runAll calls).toLedgerLog.Lined id := by
  induction calls generalizing l with
  | nil => exact h
  | cons call calls ih => exact ih (h.step serde (call.1.step l call.2))

/-! ## Opening -/

/-- The disk and the scan state that an open goes on from. -/
structure LedgerDisk.Lined (disk : LedgerDisk) (id : LedgerIdentity) (state : LedgerScanState) : Prop where
  lineage : OfLineage id disk.ledger
  aligned : Aligned disk.ledger
  headed : state.nextSequence = 0 → state.previousHash = none

/-- **What a stage of an open leaves**: a file of the lineage, and an error, if it ends with one, that does not call the
file foreign. -/
structure StageLined {α : Type} (id : LedgerIdentity) (state : α → LedgerScanState)
    (outcome : Except ObservationLedgerError α × LedgerDisk) : Prop where
  lineage : OfLineage id outcome.2.ledger
  accepts : ∀ status, outcome.1 ≠ .error (.foreignLineage status)
  lined : ∀ a, outcome.1 = .ok a → outcome.2.Lined id (state a)

variable {α : Type} {disk : LedgerDisk} {crash : OpenCrash} {status : LedgerRecoveryStatus}

omit [LedgerHost] in
theorem OpenCrash.hook_accepts {stage : RecoveryStage} {err : ObservationLedgerError}
    (h : crash.hook path stage = .error err) (status : LedgerQuarantineStatus) : err ≠ .foreignLineage status := by
  rw [OpenCrash.hook, deny_error] at h
  rw [← h.2]
  exact nofun

theorem StageLined.error {get : α → LedgerScanState} {err : ObservationLedgerError} (h : OfLineage id disk.ledger)
    (herror : ∀ status, err ≠ .foreignLineage status) :
    StageLined id get ((.error err : Except ObservationLedgerError α), disk) where
  lineage := h
  accepts := fun status heq => herror status (Except.error.inj heq)
  lined := fun _ heq => nomatch heq

theorem StageLined.ok {get : α → LedgerScanState} {a : α} (h : disk.Lined id (get a)) :
    StageLined id get ((.ok a : Except ObservationLedgerError α), disk) where
  lineage := h.lineage
  accepts := fun _ heq => nomatch heq
  lined := fun _ heq => by rwa [← Except.ok.inj heq]

theorem recoveryEntry_accepts {err : ObservationLedgerError} (h : recoveryEntry path id status state = .error err)
    (foreign : LedgerQuarantineStatus) : err ≠ .foreignLineage foreign := by
  rintro rfl
  simp only [recoveryEntry, bind_error, mapErr_error, reduceCtorEq, and_false, exists_false, false_or, mapErr_ok] at h
  obtain ⟨observationId, -, h⟩ := h
  split at h
  · cases h
  · simp only [bind_error, mapErr_error, reduceCtorEq, and_false, exists_false, false_or, pure, Except.pure] at h

theorem LedgerDisk.Lined.appendRecovery (serde : SerdeRoundTrip) (h : disk.Lined id state) :
    StageLined id (fun state => state) (appendRecoveryObservation path id status crash state disk) := by
  unfold appendRecoveryObservation
  cases hentry : recoveryEntry path id status state with
  | error err => exact .error h.lineage (recoveryEntry_accepts hentry)
  | ok item =>
    cases item with
    | none => exact .ok h
    | some entry =>
      have hids : ∀ other ∈ [entry], other.ledgerId = id.ledgerId ∧ other.motherNodeId = id.motherNodeId := by
        intro other hother
        rw [List.mem_singleton.mp hother]
        exact (follows_iff.mp (recoveryEntry_ok hentry).1).2.1
      have hframe : ([entry].map frameOf).flatten = frameOf entry := by simp
      have hpart := h.lineage.append serde h.aligned hids
      have hwhole := h.aligned.append serde [entry]
      rw [hframe] at hpart hwhole
      have hdone : StageLined id (fun state : LedgerScanState => state)
          (.ok (state.remember entry (frameOf entry)), { disk with ledger := disk.ledger ++ frameOf entry }) := by
        have hfull := hpart (frameOf entry).length
        rw [List.take_length] at hfull
        exact .ok ⟨hfull, hwhole, fun hzero => absurd hzero (Nat.succ_ne_zero _)⟩
      cases crash with
      | tornObservation kept => exact .error (hpart kept) nofun
      | never => exact hdone
      | after stage => exact hdone

theorem LedgerDisk.Lined.complete (h : disk.Lined id state) {record : String} :
    StageLined id Prod.fst (completeRecord path status record crash state disk) := by
  unfold completeRecord
  cases hhook : crash.hook path .diagnosticRecordCompleted with
  | error err => exact .error h.lineage (crash.hook_accepts hhook)
  | ok _ => exact .ok ⟨h.lineage, h.aligned, h.headed⟩

theorem LedgerDisk.Lined.finish (serde : SerdeRoundTrip) (h : disk.Lined id state) {record : String} {observes : Bool} :
    StageLined id Prod.fst (finishRecovery path id status record crash observes state disk) := by
  unfold finishRecovery
  cases observes with
  | false => exact h.complete
  | true =>
    rw [if_pos rfl]
    have hstage : StageLined id (fun state => state) (appendRecoveryObservation path id status crash state disk) :=
      h.appendRecovery serde
    cases happ : appendRecoveryObservation path id status crash state disk with
    | mk res disk' =>
      rw [happ] at hstage
      cases res with
      | error err => exact .error hstage.lineage fun status herror => hstage.accepts status (congrArg _ herror)
      | ok next =>
        cases hhook : crash.hook path .recoveryObservationAppended with
        | error err => exact .error hstage.lineage (crash.hook_accepts hhook)
        | ok _ => exact (hstage.lined next rfl).complete

omit [LedgerHost] in
theorem preserveSource_accepts {name : String} {case : ForensicCase} {err : ObservationLedgerError}
    (h : preserveSource path name bytes case = .error err) (foreign : LedgerQuarantineStatus) :
    err ≠ .foreignLineage foreign := by
  rintro rfl
  unfold preserveSource at h
  split at h
  · cases h
  · split at h
    · cases h
    · cases h

theorem ensureResidueForensics_ledger (path : String) (id : LedgerIdentity) (residue : LedgerTailResidue)
    (now : SystemTime) (crash : OpenCrash) (disk : LedgerDisk) :
    (ensureResidueForensics path id residue now crash disk).2.ledger = disk.ledger ∧
      ∀ status, (ensureResidueForensics path id residue now crash disk).1 ≠ .error (.foreignLineage status) := by
  unfold ensureResidueForensics
  simp only
  split
  · next err hhook => exact ⟨rfl, fun status heq => crash.hook_accepts hhook status (Except.error.inj heq)⟩
  · split
    · next err hsource => exact ⟨rfl, fun status heq => preserveSource_accepts hsource status (Except.error.inj heq)⟩
    · split
      · next err hhook => exact ⟨rfl, fun status heq => crash.hook_accepts hhook status (Except.error.inj heq)⟩
      · split
        · next err hcase =>
          refine ⟨rfl, fun status heq => ?_⟩
          rw [Except.error.inj heq, caseStatus] at hcase
          split at hcase <;> cases hcase
        · split
          · next err hhook => exact ⟨rfl, fun status heq => crash.hook_accepts hhook status (Except.error.inj heq)⟩
          · exact ⟨rfl, fun _ heq => nomatch heq⟩

theorem LedgerDisk.Lined.ready (h : OfLineage id disk.ledger)
    (hscan : scanExisting path id known disk.ledger = .ok (.ready state)) : disk.Lined id state where
  lineage := h
  aligned := (scanFrames_ready.mp (scanFrames_known hscan)).1
  headed := fun hzero => by rw [scanExisting_empty hscan hzero]; rfl

theorem LedgerDisk.Lined.residue {residue : LedgerTailResidue} (h : OfLineage id disk.ledger)
    (hscan : scanExisting path id known disk.ledger = .ok (.residue residue)) :
    { disk with ledger := disk.ledger.take residue.state.committedLen }.Lined id residue.state := by
  obtain ⟨front, back, entries, hframes, hended, -, hchain, hstate, -⟩ := scanFrames_residue (scanFrames_known hscan)
  have hlen : entries.length = front.length := by rw [readChain_length hchain, List.length_map]
  obtain ⟨hseq, hhash, hcommit, -⟩ := emptyScanState.rememberAll_counters hlen
  rw [← hstate] at hseq hhash hcommit
  have hmem : ∀ f ∈ front, f ∈ frames newline disk.ledger := by
    intro f hf
    rw [hframes]
    exact List.mem_append_left _ hf
  have htake : disk.ledger.take residue.state.committedLen = front.flatten := by
    have hfile := frames_flatten newline disk.ledger
    rw [hframes, List.flatten_append] at hfile
    rw [hcommit, ← hfile]
    show List.take (0 + front.flatten.length) _ = _
    rw [Nat.zero_add, List.take_left]
  have hcomp : ∀ f ∈ front, Complete newline f := fun f hf => complete_of_mem (hmem f hf) (hended f hf)
  have hcut : frames newline (disk.ledger.take residue.state.committedLen) = front := by
    rw [htake, frames_flatten_complete hcomp]
  refine ⟨fun frame hframe => ?_, fun frame hframe => ?_, fun hzero => ?_⟩
  · rw [hcut] at hframe
    exact h frame (hmem frame hframe)
  · rw [hcut] at hframe
    exact hended frame hframe
  · have hnone : front.length = 0 := by
      rw [hseq] at hzero
      omega
    rw [hhash, List.length_eq_zero_iff.mp (hlen.trans hnone)]
    rfl

theorem recoverTail_lined (serde : SerdeRoundTrip) {residue : LedgerTailResidue} {now : SystemTime}
    (h : OfLineage id disk.ledger) (hscan : scanExisting path id known disk.ledger = .ok (.residue residue)) :
    StageLined id Prod.fst (recoverTail path id residue now crash disk) := by
  unfold recoverTail
  obtain ⟨hledger, hacc⟩ := ensureResidueForensics_ledger path id residue now crash disk
  cases hens : ensureResidueForensics path id residue now crash disk with
  | mk res disk' =>
    rw [hens] at hledger hacc
    have hkept : OfLineage id disk'.ledger := by rwa [hledger]
    have hsame : scanExisting path id known disk'.ledger = .ok (.residue residue) := by rwa [hledger]
    cases res with
    | error err => exact .error hkept fun status herror => hacc status (congrArg _ herror)
    | ok status =>
      have hcut : { disk' with ledger := disk'.ledger.take residue.state.committedLen }.Lined id residue.state :=
        .residue hkept hsame
      cases hhook : crash.hook path .ledgerTruncated with
      | error err => exact .error hcut.lineage (crash.hook_accepts hhook)
      | ok _ => exact hcut.finish serde

theorem completePendingRecovery_lined (serde : SerdeRoundTrip) (h : disk.Lined id state) :
    StageLined id Prod.fst (completePendingRecovery path id crash state disk) := by
  unfold completePendingRecovery
  cases (disk.pendingRecoveries path id).head? with
  | none => exact .ok h
  | some item =>
    obtain ⟨name, status⟩ := item
    have hstage : StageLined id Prod.fst (finishRecovery path id status (recordPath path name) crash
      (!state.recoveryObservationIds.contains status.recoveryDecisionId) state disk) := h.finish serde
    cases hfin : finishRecovery path id status (recordPath path name) crash
        (!state.recoveryObservationIds.contains status.recoveryDecisionId) state disk with
    | mk res disk' =>
      rw [hfin] at hstage
      simp only [hfin]
      cases res with
      | error err => exact .error hstage.lineage fun status herror => hstage.accepts status (congrArg _ herror)
      | ok out => exact .ok (hstage.lined out rfl)

theorem preserveQuarantine_ledger (path : String) (status : LedgerQuarantineStatus) (disk : LedgerDisk) :
    (preserveQuarantine path status disk).2.ledger = disk.ledger ∧
      ∀ foreign, (preserveQuarantine path status disk).1 ≠ .error (.foreignLineage foreign) := by
  unfold preserveQuarantine
  simp only
  split
  · next err hsource => exact ⟨rfl, fun status heq => preserveSource_accepts hsource status (Except.error.inj heq)⟩
  · exact ⟨rfl, fun _ heq => nomatch heq⟩

/-- **What an open leaves on a file of its lineage**: a handle of the lineage, or an error that does not call the file
foreign. -/
structure OpenLined (id : LedgerIdentity) (outcome : Except ObservationLedgerError JsonlObservationLedger × LedgerDisk) :
    Prop where
  lineage : OfLineage id outcome.2.ledger
  accepts : ∀ status, outcome.1 ≠ .error (.foreignLineage status)
  handle : ∀ ledger, outcome.1 = .ok ledger → ledger.toLedgerLog.Lined id

theorem OpenLined.error {err : ObservationLedgerError} (h : OfLineage id disk.ledger)
    (herror : ∀ status, err ≠ .foreignLineage status) : OpenLined id (.error err, disk) where
  lineage := h
  accepts := fun status heq => herror status (Except.error.inj heq)
  handle := fun _ heq => nomatch heq

theorem OpenLined.opened {createdNew : Bool} {status : Option LedgerRecoveryStatus} (h : disk.Lined id state) :
    OpenLined id (.ok (openedHandle path id createdNew state status disk), disk) where
  lineage := h.lineage
  accepts := fun _ heq => nomatch heq
  handle := fun l heq => by
    rw [← Except.ok.inj heq]
    exact ⟨rfl, h.lineage, fun _ => h.aligned, h.headed⟩

theorem openLedger_lined (serde : SerdeRoundTrip) {createdNew : Bool} {now : SystemTime} (h : OfLineage id disk.ledger) :
    OpenLined id (openLedger path id createdNew known now crash disk) := by
  unfold openLedger
  cases hscan : scanExisting path id known disk.ledger with
  | error discontinuity => exact .error h nofun
  | ok ending =>
    cases ending with
    | ready state =>
      have hstage : StageLined id Prod.fst (completePendingRecovery path id crash state disk) :=
        completePendingRecovery_lined serde (.ready h hscan)
      simp only
      cases hpend : completePendingRecovery path id crash state disk with
      | mk res disk' =>
        rw [hpend] at hstage
        cases res with
        | error err => exact .error hstage.lineage fun status herror => hstage.accepts status (congrArg _ herror)
        | ok out => exact .opened (hstage.lined out rfl)
    | residue residue =>
      have hstage : StageLined id Prod.fst (recoverTail path id residue now crash disk) := recoverTail_lined serde h hscan
      simp only
      cases hrec : recoverTail path id residue now crash disk with
      | mk res disk' =>
        rw [hrec] at hstage
        cases res with
        | error err => exact .error hstage.lineage fun status herror => hstage.accepts status (congrArg _ herror)
        | ok out => exact .opened (hstage.lined out rfl)
    | quarantine status =>
      obtain ⟨hledger, hacc⟩ := preserveQuarantine_ledger path status disk
      simp only
      cases hpreserved : preserveQuarantine path status disk with
      | mk res disk' =>
        rw [hpreserved] at hledger hacc
        have hkept : OfLineage id disk'.ledger := by rwa [hledger]
        cases res with
        | error err => exact .error hkept fun status herror => hacc status (congrArg _ herror)
        | ok _ => exact .error hkept nofun
    | foreignLineage status => exact absurd hscan (h.scan status)

/-! ## Commands -/

/-- **What opens the ledger**: the stages of a resident's start and the commands that run without one. -/
inductive LedgerUser
  | startupRecovery | startupClassification | residentTenure | identity | childApproval | artifactStage | sourceCreate
  | sourceRevoke | triggerMutation | releaseAcquisition | supervisorInstall | supervisorRecordValidation
  | standingSourceAdmission
  deriving DecidableEq, Repr

inductive LedgerAccess
  | recovers | reads | writes
  deriving DecidableEq, Repr

def LedgerUser.access : LedgerUser → LedgerAccess
  | .startupRecovery => .recovers
  | .startupClassification | .supervisorRecordValidation | .standingSourceAdmission => .reads
  | _ => .writes

def localMct : String := "local-mct"

/-- **The Mother id that it presents**, under a recorded node id. -/
def LedgerUser.presents (recorded : MctNodeId) : LedgerUser → String
  | .startupRecovery | .startupClassification | .residentTenure | .identity => recorded.value
  | _ => localMct

def localLineage (motherNodeId : String) : LedgerIdentity := ⟨"ledger-local", motherNodeId⟩

/-- `JsonlObservationLedgerReader::open`; the entries that a reader goes on to read have passed this scan. -/
def openReadOnly (path : String) (id : LedgerIdentity) (known : Option (Nat × String)) (disk : LedgerDisk) :
    Except ObservationLedgerError Unit :=
  match scanExisting path id known disk.ledger with
  | .error discontinuity => .error (.ledgerDiscontinuity discontinuity)
  | .ok (.ready _) => .ok ()
  | .ok (.residue residue) => .error (.unterminatedTail path residue.offset residue.bytes.length residue.digest)
  | .ok (.quarantine status) => .error (.quarantined status)
  | .ok (.foreignLineage status) => .error (.foreignLineage status)

structure LedgerUse where
  user : LedgerUser
  createdNew : Bool
  known : Option (Nat × String)
  now : SystemTime
  crash : OpenCrash
  calls : List (WriterOp × Io)

def LedgerUse.write (use : LedgerUse) (path : String) (id : LedgerIdentity) (calls : List (WriterOp × Io))
    (disk : LedgerDisk) : Except ObservationLedgerError Unit × LedgerDisk :=
  match openLedger path id use.createdNew use.known use.now use.crash disk with
  | (.error error, disk) => (.error error, disk)
  | (.ok ledger, disk) => (.ok (), { disk with ledger := (ledger.runAll calls).file })

def LedgerUse.recoverResidueForStartup (use : LedgerUse) (path : String) (id : LedgerIdentity) (disk : LedgerDisk) :
    Except ObservationLedgerError Unit × LedgerDisk :=
  match scanExisting path id use.known disk.ledger with
  | .error discontinuity => (.error (.ledgerDiscontinuity discontinuity), disk)
  | .ok (.residue _) => use.write path id [] disk
  | .ok (.ready _) => if pendingTailRecoveryExists path id disk then use.write path id [] disk else (.ok (), disk)
  | .ok (.quarantine _) | .ok (.foreignLineage _) => (.ok (), disk)

def LedgerUse.perform (use : LedgerUse) (path : String) (recorded : MctNodeId) (disk : LedgerDisk) :
    Except ObservationLedgerError Unit × LedgerDisk :=
  let id := localLineage (use.user.presents recorded)
  match use.user.access with
  | .recovers => use.recoverResidueForStartup path id disk
  | .reads => (openReadOnly path id use.known disk, disk)
  | .writes => use.write path id use.calls disk

/-- **One lineage through a run**: no use refuses the ledger as foreign, and all its entries stay of the lineage. -/
def OneLineage (path : String) (recorded : MctNodeId) : List LedgerUse → LedgerDisk → Prop
  | [], _ => True
  | use :: uses, disk =>
    (∀ status, (use.perform path recorded disk).1 ≠ .error (.foreignLineage status)) ∧
      OfLineage (localLineage recorded.value) (use.perform path recorded disk).2.ledger ∧
      OneLineage path recorded uses (use.perform path recorded disk).2

/-! ## Runs -/

variable {recorded : MctNodeId} {uses : List LedgerUse}

theorem OneLineage.of_step (hstep : ∀ use ∈ uses, ∀ disk : LedgerDisk, OfLineage (localLineage recorded.value) disk.ledger →
    (∀ status, (use.perform path recorded disk).1 ≠ .error (.foreignLineage status)) ∧
      OfLineage (localLineage recorded.value) (use.perform path recorded disk).2.ledger)
    (h : OfLineage (localLineage recorded.value) disk.ledger) : OneLineage path recorded uses disk := by
  induction uses generalizing disk with
  | nil => trivial
  | cons use uses ih =>
    rw [List.forall_mem_cons] at hstep
    obtain ⟨hacc, hkept⟩ := hstep.1 disk h
    exact ⟨hacc, hkept, ih hstep.2 hkept⟩

theorem openReadOnly_accepts (h : OfLineage id disk.ledger) (status : LedgerQuarantineStatus) :
    openReadOnly path id known disk ≠ .error (.foreignLineage status) := by
  unfold openReadOnly
  cases hscan : scanExisting path id known disk.ledger with
  | error discontinuity => exact nofun
  | ok ending =>
    cases ending with
    | ready | residue | quarantine => exact nofun
    | foreignLineage status => exact absurd hscan (h.scan status)

theorem LedgerUse.write_lined (serde : SerdeRoundTrip) (use : LedgerUse) (calls : List (WriterOp × Io))
    (h : OfLineage id disk.ledger) :
    (∀ status, (use.write path id calls disk).1 ≠ .error (.foreignLineage status)) ∧
      OfLineage id (use.write path id calls disk).2.ledger := by
  have hopened : OpenLined id (openLedger path id use.createdNew use.known use.now use.crash disk) :=
    openLedger_lined serde h
  unfold LedgerUse.write
  cases hopen : openLedger path id use.createdNew use.known use.now use.crash disk with
  | mk res disk' =>
    rw [hopen] at hopened
    cases res with
    | error err =>
      refine ⟨fun status herror => hopened.accepts status ?_, hopened.lineage⟩
      exact congrArg _ (Except.error.inj herror)
    | ok l =>
      exact ⟨fun _ => nofun, (JsonlObservationLedger.runAll_lined serde (hopened.handle l rfl) calls).lineage⟩

theorem LedgerUse.recover_lined (serde : SerdeRoundTrip) (use : LedgerUse) (h : OfLineage id disk.ledger) :
    (∀ status, (use.recoverResidueForStartup path id disk).1 ≠ .error (.foreignLineage status)) ∧
      OfLineage id (use.recoverResidueForStartup path id disk).2.ledger := by
  have hnothing : (∀ status, (.ok () : Except ObservationLedgerError Unit) ≠ .error (.foreignLineage status)) ∧
      OfLineage id disk.ledger := ⟨fun _ => nofun, h⟩
  unfold LedgerUse.recoverResidueForStartup
  cases scanExisting path id use.known disk.ledger with
  | error discontinuity => exact ⟨fun _ => nofun, h⟩
  | ok ending =>
    cases ending with
    | ready state =>
      simp only
      split
      · exact use.write_lined serde [] h
      · exact hnothing
    | residue residue => exact use.write_lined serde [] h
    | quarantine status => exact hnothing
    | foreignLineage status => exact hnothing

theorem LedgerUse.perform_lined (serde : SerdeRoundTrip) (use : LedgerUse)
    (hpres : use.user.presents recorded = recorded.value) (h : OfLineage (localLineage recorded.value) disk.ledger) :
    (∀ status, (use.perform path recorded disk).1 ≠ .error (.foreignLineage status)) ∧
      OfLineage (localLineage recorded.value) (use.perform path recorded disk).2.ledger := by
  unfold LedgerUse.perform
  rw [hpres]
  simp only
  cases use.user.access with
  | recovers => exact use.recover_lined serde h
  | reads => exact ⟨openReadOnly_accepts h, h⟩
  | writes => exact use.write_lined serde use.calls h

/-! ## A command under another id -/

omit [LedgerHost] in
theorem obs_visible : trimmedEmpty "obs:" = false := by decide

variable (identity : MctLocalNodeIdentity) (policyRevision : Nat)

def identityDecision (observedAt : Timestamp) (sequence : Nat) :
    MctObservation :=
  let name := "node-identity-" ++ observedAt.value ++ "-" ++ toString sequence
  { observationId := .tagged _ "obs:" name obs_visible
    observedAt := observedAt
    kind := .operatorActionRecorded
    sourcePlane := .operator
    trace := .root (.tagged _ "trace:" name (by decide))
    callId := none
    decisionId := some (.tagged _ "decision:" name (by decide))
    subjectId := some identity.nodeId.value
    resourceId := some identity.endpointId.value
    policyRevision := some policyRevision
    grantsRevision := none
    outcome := .allowed
    visibility := .nodeOperator
    safeMessage := "local node identity recorded endpoint=" ++ identity.endpointId.value ++ " vision=" ++
      identity.visionId.value
    detailRef := none }

def identityUse (now : SystemTime) : LedgerUse where
  user := .identity
  createdNew := true
  known := none
  now := now
  crash := .never
  calls := [(.appendBatchBeforeEffect [identityDecision identity policyRevision now.1 0] now.1.value,
    ⟨fun _ => .written, fun _ => .synced⟩)]

def identityEntry (now : SystemTime) : MctObservationLedgerEntry :=
  sealedEntry (localLineage identity.nodeId.value) 0 none (identityDecision identity policyRevision now.1 0) now.1.value
    .beforeEffect .notRequired

theorem identityUse_perform (identity : MctLocalNodeIdentity) (rev : Nat) (now : SystemTime) :
    (identityUse identity rev now).perform path identity.nodeId ⟨[], ∅⟩ =
      (.ok (), ⟨frameOf (identityEntry identity rev now), ∅⟩) := by
  rfl

theorem scanExisting_foreign (serde : SerdeRoundTrip) {e : MctObservationLedgerEntry} (hfirst : e.localSequence = 0)
    (hother : e.motherNodeId ≠ id.motherNodeId) :
    ∃ status, scanExisting path id none (frameOf e) = .ok (.foreignLineage status) := by
  have hcomp := frameOf_complete serde e
  have hframe : frames newline (frameOf e) = [frameOf e] := by
    have := frames_complete hcomp []
    rwa [List.append_nil, frames_nil] at this
  have hread := frameOf_read serde e
  have hseq : decide (e.localSequence ≠ emptyScanState.nextSequence) = false := by
    rw [hfirst]
    rfl
  have hforeign : (decide (e.ledgerId ≠ id.ledgerId) || decide (e.motherNodeId ≠ id.motherNodeId)) = true := by
    rw [decide_eq_true hother, Bool.or_true]
  simp only [scanExisting, hframe, scanFrames, if_pos hcomp.terminated, scanEntry, hread, mapErr, ok_bind, hseq,
    hforeign, deny]
  exact ⟨_, rfl⟩

/-- **Every command that presents another id refuses what the identity command has appended.** -/
theorem LedgerUse.perform_foreign (serde : SerdeRoundTrip) {identity : MctLocalNodeIdentity} {rev : Nat}
    {now : SystemTime} (use : LedgerUse) (hknown : use.known = none)
    (hother : use.user.presents identity.nodeId ≠ identity.nodeId.value) :
    ∃ status, (use.perform path identity.nodeId ⟨frameOf (identityEntry identity rev now), ∅⟩).1 =
      .error (.foreignLineage status) := by
  have hmother : (identityEntry identity rev now).motherNodeId ≠
      (localLineage (use.user.presents identity.nodeId)).motherNodeId := fun heq => hother heq.symm
  obtain ⟨status, hscan⟩ := @scanExisting_foreign _ path _ serde (identityEntry identity rev now) rfl hmother
  unfold LedgerUse.perform
  have haccess : use.user.access = .reads ∨ use.user.access = .writes := by
    revert hother
    cases use.user <;> simp [LedgerUser.access, LedgerUser.presents]
  obtain hreads | hwrites := haccess
  · simp only [hreads, openReadOnly, hknown, hscan]
    exact ⟨_, rfl⟩
  · simp only [hwrites, LedgerUse.write, openLedger, hknown, hscan, preserveQuarantine, preserveSource,
      Std.ExtTreeMap.getElem?_empty, Option.getD_none]
    exact ⟨_, rfl⟩

/-- **One lineage for one Mother.**  In every run whose uses all present the recorded node id, on a ledger that is empty or
of the lineage, every entry stays of the lineage and no use refuses the ledger as foreign.  All runs are such runs exactly
if the recorded id is the one that the other commands present; a run needs a clock that has some reading. -/
theorem one_lineage_iff (serde : SerdeRoundTrip) (clock : Nonempty SystemTime) (path : String)
    (identity : MctLocalNodeIdentity) :
    (∀ (uses : List LedgerUse) (disk : LedgerDisk), OfLineage (localLineage identity.nodeId.value) disk.ledger →
        (∀ use ∈ uses, use.user.presents identity.nodeId = identity.nodeId.value) →
        OneLineage path identity.nodeId uses disk) ∧
      ((∀ (uses : List LedgerUse) (disk : LedgerDisk), OfLineage (localLineage identity.nodeId.value) disk.ledger →
          OneLineage path identity.nodeId uses disk) ↔
        identity.nodeId.value = localMct) := by
  have hkeeps : ∀ (uses : List LedgerUse) (disk : LedgerDisk), OfLineage (localLineage identity.nodeId.value) disk.ledger →
      (∀ use ∈ uses, use.user.presents identity.nodeId = identity.nodeId.value) →
      OneLineage path identity.nodeId uses disk := by
    intro uses disk h hpres
    exact .of_step (fun use huse disk hdisk => use.perform_lined serde (hpres use huse) hdisk) h
  refine ⟨hkeeps, fun hall => ?_, fun hlocal uses disk h => hkeeps uses disk h fun use _ => ?_⟩
  · by_contra hother
    obtain ⟨now⟩ := clock
    -- the identity command, and then any command under the fixed id
    let approval : LedgerUse := ⟨.childApproval, false, none, now, .never, []⟩
    obtain ⟨-, -, href, -⟩ := hall [identityUse identity 1 now, approval] ⟨[], ∅⟩ (.empty _)
    obtain ⟨status, hforeign⟩ := @LedgerUse.perform_foreign _ path serde identity 1 now approval rfl
      fun heq => hother heq.symm
    rw [identityUse_perform] at href
    exact href status hforeign
  · cases use.user <;> simp only [LedgerUser.presents, hlocal]

end Mct

namespace Mct.LineageSample

open Sample (serde start bytes entryJson entryCodec_encode)
open scoped Sample

def garden : MctLocalNodeIdentity where
  nodeId := ⟨"garden-mct", by decide⟩
  visionId := ⟨"garden-mct-vision", by decide⟩
  endpointId := ⟨"garden-mct-endpoint", by decide⟩

/-- The line that the identity command writes is the JSON of its entry. -/
theorem identityFrame_json : frameOf (identityEntry garden 1 start) =
    bytes (entryJson (identityEntry garden 1 start)) ++ [newline] := by
  rw [frameOf, show LedgerHost.entry = Sample.entryCodec from rfl, entryCodec_encode (by decide +kernel)]

def useBy (user : LedgerUser) : LedgerUse := ⟨user, false, none, start, .never, []⟩

/-- The identity command of a Mother with another name starts her ledger, and then no child can be approved and no standing
source admitted: both refuse the ledger as foreign. -/
theorem renamed_mother_refused :
    (identityUse garden 1 start).perform "ledger.jsonl" garden.nodeId ⟨[], ∅⟩ =
        (.ok (), ⟨bytes (entryJson (identityEntry garden 1 start)) ++ [newline], ∅⟩) ∧
      ∀ user ∈ [LedgerUser.childApproval, .standingSourceAdmission], ∃ status,
        ((useBy user).perform "ledger.jsonl" garden.nodeId
          ((identityUse garden 1 start).perform "ledger.jsonl" garden.nodeId ⟨[], ∅⟩).2).1 =
            .error (.foreignLineage status) := by
  rw [identityUse_perform]
  refine ⟨by rw [identityFrame_json], fun user huser => LedgerUse.perform_foreign serde (useBy user) rfl ?_⟩
  revert user
  decide

theorem renamed_mother_served :
    ((identityUse garden 1 start).perform "ledger.jsonl" garden.nodeId ⟨[], ∅⟩).2.ledger =
        bytes (entryJson (identityEntry garden 1 start)) ++ [newline] ∧
      OneLineage "ledger.jsonl" garden.nodeId
        (identityUse garden 1 start :: [LedgerUser.startupRecovery, .startupClassification, .residentTenure].map useBy)
        ⟨[], ∅⟩ := by
  refine ⟨?_, (one_lineage_iff serde ⟨start⟩ "ledger.jsonl" garden).1 _ _ (.empty _) (by decide)⟩
  rw [identityUse_perform]
  exact identityFrame_json

end Mct.LineageSample
