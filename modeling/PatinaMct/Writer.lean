import PatinaMct.Scan
import PatinaMct.WrittenFacts
/-!
# Writer — appending to an open ledger

`LedgerLog` is the part of an open handle that an append reads and writes: the file behind it, the head of the chain,
the cached replay and the state of the writer.  What the file system does is an argument (`Io`): a write may leave a
prefix of its bytes and fail, and so may a sync.  Each append is described once: it is refused and changes nothing,
it commits its entries (`LedgerLog.commit`), or it tears them (`LedgerLog.tear`) and poisons the writer.
-/
namespace Mct

open Checked
open Frames
open Recovery (TextSet)

variable [LedgerHost]

/-! ## The handle's log -/

inductive LedgerWriterState
  | ready | poisoned
  deriving DecidableEq, Repr

/-- **What the appends of a handle read and write.**  `file` is the content of the ledger file; a hasher is the bytes it
was fed. -/
structure LedgerLog where
  path : String
  ledgerId : String
  motherNodeId : String
  file : List UInt8
  nextSequence : Nat
  previousHash : Option String
  writerState : LedgerWriterState
  authorityReplay : Except String AuthorityReplayV1
  usedEpochs : TextSet
  prefixHasher : List UInt8
  prefixLen : Nat
  lastObservationId : Option String
  lastFrameLen : Nat
  deriving DecidableEq

structure LedgerVerifiedHead where
  localSequence : Nat
  entryHash : String
  observationId : String
  ledgerId : String
  motherNodeId : String
  deriving DecidableEq, Repr

namespace LedgerLog

variable (log : LedgerLog)

def identity : LedgerIdentity := ⟨log.ledgerId, log.motherNodeId⟩

def isPoisoned : Bool := log.writerState == .poisoned

def cachedReplay : Except ObservationLedgerError AuthorityReplayV1 :=
  mapErr .authorityReplay log.authorityReplay

def headPredecessor : Except ObservationLedgerError AuthorityEpochPredecessorV1 := do
  deny (log.nextSequence == 0) (.authorityReplay "ledger head is missing")
  let entryHash ← okOr log.previousHash (.authorityReplay "ledger head hash is missing")
  return .validatedHead (log.nextSequence - 1) entryHash

def verifiedHead : Except ObservationLedgerError LedgerVerifiedHead := do
  match ← log.headPredecessor with
  | .validatedHead sequence entryHash =>
    let observationId ← okOr log.lastObservationId (.authorityReplay "ledger head observation is missing")
    return ⟨sequence, entryHash, observationId, log.ledgerId, log.motherNodeId⟩
  | _ => .error (.authorityReplay "ledger head is missing")

def link : Option (Nat × String) := previousLink log.nextSequence log.previousHash

end LedgerLog

/-! ## The file system -/

/-- `write_all`: a failed one may leave a part of its bytes in the file. -/
inductive WriteOutcome
  | written
  | failed (kept : Nat) (source : String)

/-- `sync_data`: after a failed one a part of the bytes since the last sync may be left. -/
inductive SyncOutcome
  | synced
  | failed (kept : Nat) (source : String)

/-- The outcomes of the writes and syncs of one operation, in order. -/
structure Io where
  write : Nat → WriteOutcome
  sync : Nat → SyncOutcome

def Io.Succeeds (io : Io) : Prop := (∀ n, io.write n = .written) ∧ ∀ n, io.sync n = .synced

/-! ## Appending one entry -/

def validateOrdinaryObservation (observation : MctObservation) : Except ObservationLedgerError Unit :=
  deny (observation.detailRef.any fun detail =>
      startsWith detail "mct-authority-" || startsWith detail "ledger-tail-recovery-")
    .reservedAuthorityDetail

namespace LedgerLog

variable (log : LedgerLog)

def recordCommittedEntry (previous : Option (Nat × String)) (entry : MctObservationLedgerEntry) (frame : List UInt8) :
    LedgerLog :=
  let folded := foldCached log.authorityReplay log.usedEpochs previous entry
  { log with
    prefixHasher := log.prefixHasher ++ frame
    prefixLen := log.prefixLen + frame.length
    lastFrameLen := frame.length
    lastObservationId := some entry.observation.observationId.value
    authorityReplay := folded.1
    usedEpochs := folded.2 }

/-- `poisoned_append_error`, with the bytes that the failed call has left. -/
def poisonedAppendError (stage : AppendFailureStage) (source : String) (left : List UInt8) :
    ObservationLedgerError × LedgerLog :=
  (.appendCommitUnknown log.path stage source, { log with file := log.file ++ left, writerState := .poisoned })

/-- `append_frame`, at the `n`-th write and sync of the operation. -/
def appendFrame (frame : List UInt8) (io : Io) (n : Nat) :
    Except ObservationLedgerError Unit × LedgerLog :=
  match io.write n with
  | .failed kept source =>
    let (error, log) := log.poisonedAppendError .write source (frame.take kept)
    (.error error, log)
  | .written =>
    match io.sync n with
    | .failed kept source =>
      let (error, log) := log.poisonedAppendError .durability source (frame.take kept)
      (.error error, log)
    | .synced => (.ok (), { log with file := log.file ++ frame })

def appendCanonical (observation : MctObservation) (appendedAt : String) (durabilityClass : DurabilityClass)
    (exportStatus : ExportStatus) (io : Io) (n : Nat) :
    Except ObservationLedgerError MctObservationLedgerEntry × LedgerLog :=
  if log.isPoisoned then (.error (.writerPoisoned log.path), log)
  else
    let entry := sealedEntry log.identity log.nextSequence log.previousHash observation appendedAt durabilityClass
      exportStatus
    let frame := frameOf entry
    match log.appendFrame frame io n with
    | (.error error, log) => (.error error, log)
    | (.ok (), appended) =>
      (.ok entry, { appended.recordCommittedEntry log.link entry frame with
        previousHash := some entry.entryHash
        nextSequence := log.nextSequence + 1 })

def appendCanonicalBeforeEffect (observation : MctObservation) (at_ : String) (io : Io) :
    Except ObservationLedgerError MctObservationLedgerEntry × LedgerLog :=
  log.appendCanonical observation at_ .beforeEffect .notRequired io 0

def append (observation : MctObservation) (appendedAt : String) (durabilityClass : DurabilityClass)
    (exportStatus : ExportStatus) (io : Io) (n : Nat) :
    Except ObservationLedgerError MctObservationLedgerEntry × LedgerLog :=
  match validateOrdinaryObservation observation with
  | .error error => (.error error, log)
  | .ok () => log.appendCanonical observation appendedAt durabilityClass exportStatus io n

def appendBeforeEffect (observation : MctObservation) (appendedAt : String) (io : Io) (n : Nat) :
    Except ObservationLedgerError MctObservationLedgerEntry × LedgerLog :=
  log.append observation appendedAt .beforeEffect .notRequired io n

end LedgerLog

/-! ## Batches -/

/-- The first loop of `append_durable_batch`: the entries and frames of the batch, each linked to the one before it. -/
def prepareBatch (id : LedgerIdentity) (appendedAt : String) (durabilityClass : DurabilityClass)
    (exportStatus : ExportStatus) :
    Nat → Option String → List MctObservation →
      Except ObservationLedgerError (List (MctObservationLedgerEntry × List UInt8))
  | _, _, [] => .ok []
  | nextSequence, previousHash, observation :: observations => do
    validateOrdinaryObservation observation
    let entry := sealedEntry id nextSequence previousHash observation appendedAt durabilityClass exportStatus
    let rest ← prepareBatch id appendedAt durabilityClass exportStatus (nextSequence + 1) (some entry.entryHash)
      observations
    return (entry, frameOf entry) :: rest

/-- The write loop of a batch: the bytes it leaves, and the source of the first failure. -/
def writeFrames (io : Io) : Nat → List (List UInt8) → List UInt8 × Option String
  | _, [] => ([], none)
  | n, frame :: frames =>
    match io.write n with
    | .failed kept source => (frame.take kept, some source)
    | .written =>
      let (bytes, failure) := writeFrames io (n + 1) frames
      (frame ++ bytes, failure)

def appendErrorText : ObservationLedgerError → String
  | .reservedAuthorityDetail => "ordinary observation cannot use a reserved authority detail namespace"
  | .writerPoisoned path =>
    "observation ledger writer is poisoned at " ++ path ++ "; close and reopen before appending"
  | .appendCommitUnknown path stage source =>
    "observation ledger append commitment is unknown at " ++ path ++ " during " ++
      (match stage with | .write => "Write" | .durability => "Durability" | .acknowledgement => "Acknowledgement") ++
      ": " ++ source
  -- no append returns another error
  | _ => ""

def commitUnknown : ObservationLedgerError → Bool
  | .appendCommitUnknown _ _ _ => true
  | _ => false

namespace LedgerLog

/-- The last loop of `append_durable_batch`, for one entry. -/
def acknowledge (log : LedgerLog) (item : MctObservationLedgerEntry × List UInt8) : LedgerLog :=
  let (entry, frame) := item
  { log.recordCommittedEntry (entry.previousEntryHash.map fun hash => (entry.localSequence - 1, hash)) entry frame with
    previousHash := some entry.entryHash
    nextSequence := entry.localSequence + 1 }

def appendDurableBatch (log : LedgerLog) (observations : List MctObservation) (appendedAt : String)
    (durabilityClass : DurabilityClass) (exportStatus : ExportStatus) (io : Io) :
    Except ObservationLedgerError (List MctObservationLedgerEntry) × LedgerLog :=
  if log.isPoisoned then (.error (.writerPoisoned log.path), log)
  else
    match prepareBatch log.identity appendedAt durabilityClass exportStatus log.nextSequence log.previousHash
      observations with
    | .error error => (.error error, log)
    | .ok prepared =>
      if prepared.isEmpty then (.ok [], log)
      else
        match writeFrames io 0 (prepared.map (·.2)) with
        | (bytes, some source) =>
          let (error, log) := log.poisonedAppendError .write source bytes
          (.error error, log)
        | (bytes, none) =>
          match io.sync 0 with
          | .failed kept source =>
            let (error, log) := log.poisonedAppendError .durability source (bytes.take kept)
            (.error error, log)
          | .synced => (.ok (prepared.map (·.1)), prepared.foldl acknowledge { log with file := log.file ++ bytes })

/-- The loop of `append_batch_before_effect`, from the `n`-th observation on. -/
def appendEach (appendedAt : String) (io : Io) :
    LedgerLog → Nat → List MctObservationLedgerEntry → List MctObservation →
      Except ObservationLedgerError (List MctObservationLedgerEntry) × LedgerLog
  | log, _, acknowledged, [] => (.ok acknowledged, log)
  | log, n, acknowledged, observation :: observations =>
    match log.appendBeforeEffect observation appendedAt io n with
    | (.ok entry, log) => appendEach appendedAt io log (n + 1) (acknowledged ++ [entry]) observations
    | (.error error, log) =>
      (.error (.batchPartiallyCommitted ⟨acknowledged, n, commitUnknown error, appendErrorText error⟩), log)

def appendBatchBeforeEffect (log : LedgerLog) (observations : List MctObservation) (appendedAt : String) (io : Io) :
    Except ObservationLedgerError (List MctObservationLedgerEntry) × LedgerLog :=
  appendEach appendedAt io log 0 [] observations

end LedgerLog

/-! ## What an append leaves -/

/-- The entries are the next links of a chain, in this order. -/
def linked (id : LedgerIdentity) : Nat → Option String → List MctObservationLedgerEntry → Bool
  | _, _, [] => true
  | sequence, previous, entry :: entries =>
    follows id sequence previous entry && linked id (sequence + 1) (some entry.entryHash) entries

namespace LedgerLog

variable (log : LedgerLog) (entries : List MctObservationLedgerEntry)

def commit (entry : MctObservationLedgerEntry) : LedgerLog :=
  { { log with file := log.file ++ frameOf entry }.recordCommittedEntry log.link entry (frameOf entry) with
    previousHash := some entry.entryHash
    nextSequence := log.nextSequence + 1 }

def commitAll : LedgerLog := entries.foldl commit log

/-- The log after entries whose append has failed: some of their bytes are left and the writer is poisoned. -/
def tear (kept : Nat) : LedgerLog :=
  { log with file := log.file ++ (entries.map frameOf).flatten.take kept, writerState := .poisoned }

def Extends : Prop :=
  linked log.identity log.nextSequence log.previousHash entries = true

end LedgerLog

/-- **What an operation does to the log**: it commits entries, or it commits some and tears the next. -/
inductive LogEffect (log : LedgerLog) (io : Io) : LedgerLog → Prop
  | commits (entries : List MctObservationLedgerEntry) : (entries ≠ [] → log.isPoisoned = false) → log.Extends entries →
      LogEffect log io (log.commitAll entries)
  | tears (front entries : List MctObservationLedgerEntry) (kept : Nat) : log.isPoisoned = false → ¬ io.Succeeds →
      log.Extends (front ++ entries) → LogEffect log io ((log.commitAll front).tear entries kept)

variable {log log' : LedgerLog} {io : Io} {n : Nat} {entry : MctObservationLedgerEntry}
  {entries : List MctObservationLedgerEntry} {obs : MctObservation} {t : String}
  {dc : DurabilityClass} {ex : ExportStatus}

theorem LogEffect.unchanged : LogEffect log io log := .commits [] (fun h => (h rfl).elim) rfl

inductive AppendOutcome (log : LedgerLog) (io : Io) (entry : MctObservationLedgerEntry) :
    Except ObservationLedgerError MctObservationLedgerEntry → LedgerLog → Prop
  | refused : log.isPoisoned = true → AppendOutcome log io entry (.error (.writerPoisoned log.path)) log
  | acknowledged : log.isPoisoned = false → AppendOutcome log io entry (.ok entry) (log.commit entry)
  | torn (stage : AppendFailureStage) (source : String) (kept : Nat) : log.isPoisoned = false → ¬ io.Succeeds →
      AppendOutcome log io entry (.error (.appendCommitUnknown log.path stage source)) (log.tear [entry] kept)

def LedgerLog.nextEntry (log : LedgerLog) (observation : MctObservation) (appendedAt : String)
    (durabilityClass : DurabilityClass) (exportStatus : ExportStatus) : MctObservationLedgerEntry :=
  sealedEntry log.identity log.nextSequence log.previousHash observation appendedAt durabilityClass exportStatus

theorem LedgerLog.tear_single (log : LedgerLog) (entry : MctObservationLedgerEntry) (kept : Nat) :
    log.tear [entry] kept = { log with file := log.file ++ (frameOf entry).take kept, writerState := .poisoned } := by
  unfold tear
  simp

theorem appendCanonical_outcome (log : LedgerLog) (obs : MctObservation) (t : String)
    (dc : DurabilityClass) (ex : ExportStatus) (io : Io) (n : Nat) :
    AppendOutcome log io (log.nextEntry obs t dc ex)
      (log.appendCanonical obs t dc ex io n).1
      (log.appendCanonical obs t dc ex io n).2 := by
  unfold LedgerLog.appendCanonical
  by_cases hp : log.isPoisoned = true
  · rw [if_pos hp]
    exact .refused hp
  · rw [if_neg hp]
    rw [Bool.not_eq_true] at hp
    unfold LedgerLog.appendFrame
    cases hw : io.write n with
    | failed kept source =>
      have hfails : ¬ io.Succeeds := fun h => by rw [h.1 n] at hw; cases hw
      have htorn : AppendOutcome log io (log.nextEntry obs t dc ex) _ _ :=
        .torn .write source kept hp hfails
      rw [LedgerLog.tear_single] at htorn
      exact htorn
    | written =>
      cases hs : io.sync n with
      | failed kept source =>
        have hfails : ¬ io.Succeeds := fun h => by rw [h.2 n] at hs; cases hs
        have htorn : AppendOutcome log io (log.nextEntry obs t dc ex) _ _ :=
          .torn .durability source kept hp hfails
        rw [LedgerLog.tear_single] at htorn
        exact htorn
      | synced => exact .acknowledged hp

theorem AppendOutcome.effect {res : Except ObservationLedgerError MctObservationLedgerEntry}
    (h : AppendOutcome log io entry res log') (hentry : log.Extends [entry]) : LogEffect log io log' := by
  cases h with
  | refused _ => exact .unchanged
  | acknowledged hp => exact .commits [entry] (fun _ => hp) hentry
  | torn stage source kept hp hfails => exact .tears [] [entry] kept hp hfails hentry

theorem LedgerLog.extends_nextEntry (log : LedgerLog) (obs : MctObservation) (t : String)
    (dc : DurabilityClass) (ex : ExportStatus) :
    log.Extends [log.nextEntry obs t dc ex] := by
  unfold Extends linked linked
  rw [Bool.and_true]
  exact sealedEntry_follows

theorem appendCanonical_effect (log : LedgerLog) (obs : MctObservation) (t : String)
    (dc : DurabilityClass) (ex : ExportStatus) (io : Io) (n : Nat) :
    LogEffect log io (log.appendCanonical obs t dc ex io n).2 :=
  (appendCanonical_outcome log obs t dc ex io n).effect
    (log.extends_nextEntry _ _ _ _)

theorem append_effect (log : LedgerLog) (obs : MctObservation) (t : String)
    (dc : DurabilityClass) (ex : ExportStatus) (io : Io) (n : Nat) :
    LogEffect log io (log.append obs t dc ex io n).2 := by
  unfold LedgerLog.append
  cases validateOrdinaryObservation obs with
  | error err => exact .unchanged
  | ok _ => exact appendCanonical_effect log obs t dc ex io n

/-! ## What a batch leaves -/

variable {id : LedgerIdentity} {seq : Nat} {prev : Option String}

theorem linked_append
    {l l' : List MctObservationLedgerEntry} :
    linked id seq prev (l ++ l') =
      (linked id seq prev l && linked id (seq + l.length) (hashAfter prev l) l') := by
  induction l generalizing seq prev with
  | nil => rfl
  | cons entry l ih =>
    rw [List.cons_append, linked, linked, ih, Bool.and_assoc, List.length_cons,
      show seq + 1 + l.length = seq + (l.length + 1) by omega]
    rfl

namespace LedgerLog

theorem commitAll_identity (log : LedgerLog) (entries : List MctObservationLedgerEntry) :
    (log.commitAll entries).identity = log.identity ∧ (log.commitAll entries).path = log.path ∧
      (log.commitAll entries).writerState = log.writerState := by
  induction entries generalizing log with
  | nil => exact ⟨rfl, rfl, rfl⟩
  | cons entry entries ih => exact ih (log.commit entry)

theorem commitAll_head (log : LedgerLog) (entries : List MctObservationLedgerEntry) :
    (log.commitAll entries).nextSequence = log.nextSequence + entries.length ∧
      (log.commitAll entries).previousHash = hashAfter log.previousHash entries := by
  induction entries generalizing log with
  | nil => exact ⟨rfl, rfl⟩
  | cons entry entries ih =>
    obtain ⟨hseq, hhash⟩ := ih (log.commit entry)
    refine ⟨?_, hhash⟩
    rw [List.length_cons, show log.nextSequence + (entries.length + 1) = log.nextSequence + 1 + entries.length by omega]
    exact hseq

theorem extends_append {log : LedgerLog} {l l' : List MctObservationLedgerEntry} :
    log.Extends (l ++ l') ↔ log.Extends l ∧ (log.commitAll l).Extends l' := by
  unfold Extends
  rw [linked_append, Bool.and_eq_true, (log.commitAll_identity l).1, (log.commitAll_head l).1, (log.commitAll_head l).2]

theorem commitAll_append (log : LedgerLog) (l l' : List MctObservationLedgerEntry) :
    log.commitAll (l ++ l') = (log.commitAll l).commitAll l' := List.foldl_append

end LedgerLog

/-- **Effects compose**, until one tears. -/
theorem LogEffect.after (entries : List MctObservationLedgerEntry) (hready : log.isPoisoned = false)
    (hents : log.Extends entries) (h : LogEffect (log.commitAll entries) io log') : LogEffect log io log' := by
  cases h with
  | commits l _ hl =>
    rw [← LedgerLog.commitAll_append]
    exact .commits _ (fun _ => hready) (LedgerLog.extends_append.mpr ⟨hents, hl⟩)
  | tears front l kept _ hfails hl =>
    rw [← LedgerLog.commitAll_append]
    refine .tears _ l kept hready hfails ?_
    rw [List.append_assoc]
    exact LedgerLog.extends_append.mpr ⟨hents, hl⟩

theorem append_ok (h : log.append obs t dc ex io n = (.ok entry, log')) :
    validateOrdinaryObservation obs = .ok () ∧ log.isPoisoned = false ∧
      entry = log.nextEntry obs t dc ex ∧ log' = log.commit entry := by
  unfold LedgerLog.append at h
  cases hv : validateOrdinaryObservation obs with
  | error err =>
    rw [hv] at h
    cases h
  | ok _ =>
    rw [hv] at h
    have houtcome := appendCanonical_outcome log obs t dc ex io n
    simp only at h
    rw [h] at houtcome
    cases houtcome with
    | acknowledged hp => exact ⟨rfl, hp, rfl, rfl⟩

theorem appendEach_effect (t : String) (io : Io) (log : LedgerLog) (n : Nat)
    (acknowledged : List MctObservationLedgerEntry) (obss : List MctObservation) :
    LogEffect log io (LedgerLog.appendEach t io log n acknowledged obss).2 := by
  induction obss generalizing log n acknowledged with
  | nil => exact .unchanged
  | cons obs obss ih =>
    have heff := append_effect log obs t .beforeEffect .notRequired io n
    rw [LedgerLog.appendEach]
    unfold LedgerLog.appendBeforeEffect
    cases hr : log.append obs t .beforeEffect .notRequired io n with
    | mk res log' =>
      rw [hr] at heff
      cases res with
      | error err => exact heff
      | ok entry =>
        obtain ⟨-, hready, rfl, rfl⟩ := append_ok hr
        exact LogEffect.after [log.nextEntry obs t .beforeEffect .notRequired] hready
          (log.extends_nextEntry _ _ _ _) (ih _ _ _)

variable {prepared : List (MctObservationLedgerEntry × List UInt8)}

theorem prepareBatch_ok
    {obss : List MctObservation}
    (h : prepareBatch id t dc ex seq prev obss = .ok prepared) :
    linked id seq prev (prepared.map (·.1)) = true ∧
      (∀ item ∈ prepared, item.2 = frameOf item.1) ∧
      ∀ item ∈ prepared, validateOrdinaryObservation item.1.observation = .ok () := by
  induction obss generalizing seq prev prepared with
  | nil =>
    cases h
    exact ⟨rfl, by simp, by simp⟩
  | cons obs obss ih =>
    simp only [prepareBatch, bind_ok, exists_unit, pure_ok] at h
    obtain ⟨hordinary, rest, hrest, rfl⟩ := h
    obtain ⟨hlinked, hframes, hord⟩ := ih hrest
    refine ⟨?_, ?_, ?_⟩
    · rw [List.map_cons, linked, hlinked, Bool.and_true]
      exact sealedEntry_follows
    · exact List.forall_mem_cons.mpr ⟨rfl, hframes⟩
    · exact List.forall_mem_cons.mpr ⟨hordinary, hord⟩

omit [LedgerHost] in
/-- The bytes that the write loop leaves are a part of the batch, and all of it when nothing failed. -/
theorem writeFrames_bytes (io : Io) (n : Nat) (fs : List (List UInt8)) :
    ((writeFrames io n fs).2 = none → (writeFrames io n fs).1 = fs.flatten) ∧
      ((writeFrames io n fs).2 ≠ none → ¬ io.Succeeds ∧ ∃ kept, (writeFrames io n fs).1 = fs.flatten.take kept) := by
  induction fs generalizing n with
  | nil => exact ⟨fun _ => rfl, fun h => (h rfl).elim⟩
  | cons frame fs ih =>
    unfold writeFrames
    cases hw : io.write n with
    | failed kept source =>
      refine ⟨fun h => ?_, fun _ => ⟨fun h => ?_, min kept frame.length, ?_⟩⟩
      · cases h
      · rw [h.1 n] at hw
        cases hw
      · rw [List.flatten_cons, List.take_append_of_le_length (Nat.min_le_right _ _), ← List.take_eq_take_min]
    | written =>
      obtain ⟨hall, hpart⟩ := ih (n + 1)
      refine ⟨fun h => ?_, fun h => ?_⟩
      · show frame ++ (writeFrames io (n + 1) fs).1 = _
        rw [hall h, List.flatten_cons]
      · obtain ⟨hfails, kept, hkept⟩ := hpart h
        refine ⟨hfails, frame.length + kept, ?_⟩
        show frame ++ (writeFrames io (n + 1) fs).1 = _
        rw [hkept, List.flatten_cons, List.take_length_add_append]

def LedgerLog.Headed (log : LedgerLog) : Prop := log.nextSequence = 0 → log.previousHash = none

variable {bs : List UInt8}

theorem LedgerLog.acknowledge_commit (hhead : log.Headed)
    (hentry : follows log.identity log.nextSequence log.previousHash entry = true) :
    ({ log with file := bs }.acknowledge (entry, frameOf entry)) =
      { log.commit entry with file := bs } := by
  obtain ⟨hseq, -, hprev, -⟩ := follows_iff.mp hentry
  have hlink : (entry.previousEntryHash.map fun hash => (entry.localSequence - 1, hash)) = log.link := by
    unfold LedgerLog.link previousLink
    rw [hprev, hseq]
    split
    · rename_i hzero
      rw [hhead hzero]
      rfl
    · rfl
  unfold acknowledge commit
  simp only
  rw [hlink, hseq]
  rfl

theorem LedgerLog.acknowledge_all
    (hhead : log.Headed) (hlinked : log.Extends (prepared.map (·.1)))
    (hframes : ∀ item ∈ prepared, item.2 = frameOf item.1) :
    prepared.foldl acknowledge { log with file := bs } =
      { log.commitAll (prepared.map (·.1)) with file := bs } := by
  induction prepared generalizing log with
  | nil => rfl
  | cons item prepared ih =>
    obtain ⟨entry, frame⟩ := item
    rw [List.forall_mem_cons] at hframes
    obtain ⟨hframe, hframes⟩ := hframes
    obtain rfl : frame = frameOf entry := hframe
    have hstep : log.Extends ([entry] ++ prepared.map (·.1)) := hlinked
    rw [extends_append] at hstep
    have hfollows : follows log.identity log.nextSequence log.previousHash entry = true := by
      have hone : (follows log.identity log.nextSequence log.previousHash entry && true) = true := hstep.1
      rwa [Bool.and_true] at hone
    rw [List.foldl_cons, acknowledge_commit hhead hfollows]
    exact ih (fun hzero => by cases hzero) hstep.2 hframes

theorem LedgerLog.commitAll_file (log : LedgerLog) (entries : List MctObservationLedgerEntry) :
    (log.commitAll entries).file = log.file ++ (entries.map frameOf).flatten := by
  induction entries generalizing log with
  | nil => simp [commitAll]
  | cons entry entries ih =>
    have hrest := ih (log.commit entry)
    have hone : (log.commit entry).file = log.file ++ frameOf entry := rfl
    rw [hone] at hrest
    rw [List.map_cons, List.flatten_cons, ← List.append_assoc]
    exact hrest

/-- **What a batch comes to**: it is refused, or torn as its frames are written, or committed as a whole. -/
inductive BatchOutcome (log : LedgerLog) (io : Io)
    (made : Except ObservationLedgerError (List (MctObservationLedgerEntry × List UInt8))) :
    Except ObservationLedgerError (List MctObservationLedgerEntry) × LedgerLog → Prop
  | refused {error : ObservationLedgerError} (h : log.isPoisoned = true ∨ made = .error error) :
      BatchOutcome log io made (.error error, log)
  | torn {error : ObservationLedgerError} {prepared : List (MctObservationLedgerEntry × List UInt8)} (kept : Nat)
      (hmade : made = .ok prepared) (hready : log.isPoisoned = false) (hfails : ¬ io.Succeeds) :
      BatchOutcome log io made (.error error, log.tear (prepared.map (·.1)) kept)
  | committed {prepared : List (MctObservationLedgerEntry × List UInt8)} {log' : LedgerLog} (hmade : made = .ok prepared)
      (hready : log.isPoisoned = false) (h : log.Headed → log' = log.commitAll (prepared.map (·.1))) :
      BatchOutcome log io made (.ok (prepared.map (·.1)), log')

theorem appendDurableBatch_outcome (log : LedgerLog) (obss : List MctObservation) (t : String) (dc : DurabilityClass)
    (ex : ExportStatus) (io : Io) :
    BatchOutcome log io (prepareBatch log.identity t dc ex log.nextSequence log.previousHash obss)
      (log.appendDurableBatch obss t dc ex io) := by
  unfold LedgerLog.appendDurableBatch
  by_cases hp : log.isPoisoned = true
  · rw [if_pos hp]
    exact .refused (.inl hp)
  rw [if_neg hp]
  rw [Bool.not_eq_true] at hp
  cases hprep : prepareBatch log.identity t dc ex log.nextSequence log.previousHash obss with
  | error err => exact .refused (.inr rfl)
  | ok prepared =>
    obtain ⟨hlinked, hframes, -⟩ := prepareBatch_ok hprep
    have hbytes : prepared.map (·.2) = (prepared.map (·.1)).map frameOf := by
      rw [List.map_map]
      exact List.map_congr_left hframes
    -- a torn batch keeps some of the bytes of its frames
    have htorn : ∀ err kept, BatchOutcome log io (.ok prepared) (.error err,
        { log with file := log.file ++ (prepared.map (·.2)).flatten.take kept, writerState := .poisoned }) ∨ io.Succeeds := by
      intro err kept
      rw [hbytes, or_iff_not_imp_right]
      exact .torn kept rfl hp
    simp only
    split
    · rename_i hempty
      obtain rfl := List.isEmpty_iff.mp hempty
      exact .committed rfl hp fun _ => rfl
    obtain ⟨hall, hpart⟩ := writeFrames_bytes io 0 (prepared.map (·.2))
    cases hwritten : writeFrames io 0 (prepared.map (·.2)) with
    | mk bs failure =>
      rw [hwritten] at hall hpart
      cases failure with
      | some source =>
        obtain ⟨hfails, kept, rfl⟩ := hpart (by simp)
        exact (htorn _ kept).resolve_right hfails
      | none =>
        obtain rfl := hall rfl
        simp only
        cases hs : io.sync 0 with
        | failed kept source => exact (htorn _ kept).resolve_right fun h => by rw [h.2 0] at hs; cases hs
        | synced =>
          refine .committed rfl hp fun hhead => ?_
          rw [LedgerLog.acknowledge_all hhead hlinked hframes, hbytes, ← LedgerLog.commitAll_file]

theorem appendDurableBatch_effect (hhead : log.Headed) (obss : List MctObservation) (t : String)
    (dc : DurabilityClass) (ex : ExportStatus) (io : Io) :
    LogEffect log io (log.appendDurableBatch obss t dc ex io).2 := by
  have houtcome := appendDurableBatch_outcome log obss t dc ex io
  generalize log.appendDurableBatch obss t dc ex io = after at houtcome
  cases houtcome with
  | refused _ => exact .unchanged
  | torn kept hmade hready hfails => exact .tears [] _ kept hready hfails (prepareBatch_ok hmade).1
  | committed hmade hready h =>
    rw [h hhead]
    exact .commits _ (fun _ => hready) (prepareBatch_ok hmade).1

/-! ## Failures -/

theorem commitAll_headed (h : log.Headed) (entries : List MctObservationLedgerEntry) : (log.commitAll entries).Headed := by
  cases entries with
  | nil => exact h
  | cons e entries =>
    intro hzero
    have hnext := (LedgerLog.commitAll_head log (e :: entries)).1
    rw [hzero, List.length_cons] at hnext
    omega

theorem LogEffect.frozen (h : LogEffect log io log') (hpoison : log.isPoisoned = true) : log' = log := by
  cases h with
  | commits entries hready _ =>
    have hnil : entries = [] := by
      by_contra hne
      rw [hready hne] at hpoison
      cases hpoison
    rw [hnil]
    rfl
  | tears front entries kept hready =>
    rw [hready] at hpoison
    cases hpoison

theorem LogEffect.trans {io' : Io} {last : LedgerLog} (h : LogEffect log io log') (h' : LogEffect log' io' last) :
    ∃ io, LogEffect log io last := by
  cases hpoison : log.isPoisoned with
  | true =>
    obtain rfl := h.frozen hpoison
    exact ⟨io', h'⟩
  | false =>
    cases h with
    | commits entries _ hextends => exact ⟨io', h'.after entries hpoison hextends⟩
    | tears front entries kept _ hfails hextends =>
      rw [h'.frozen rfl]
      exact ⟨io, .tears front entries kept hpoison hfails hextends⟩

theorem LogEffect.headed (h : LogEffect log io log') (hhead : log.Headed) : log'.Headed := by
  cases h with
  | commits entries => exact commitAll_headed hhead entries
  | tears front => exact commitAll_headed hhead front

/-! ## Logs with room -/

/-- The log takes appends, and has sequences left for some. -/
structure LedgerLog.Ready (log : LedgerLog) (room : Nat) : Prop where
  writing : log.isPoisoned = false
  started : 0 < log.nextSequence
  hash : log.previousHash.isSome = true
  last : log.lastObservationId.isSome = true
  room : log.nextSequence + room ≤ 2 ^ 64

variable {room : Nat}

theorem LedgerLog.Ready.commitAll {es : List MctObservationLedgerEntry} (h : log.Ready (room + es.length)) :
    (log.commitAll es).Ready room := by
  induction es generalizing log with
  | nil => exact h
  | cons e es ih =>
    have hroom := h.room
    rw [List.length_cons] at hroom
    have hcommits : (log.commit e).Ready (room + es.length) := by
      refine ⟨h.writing, Nat.succ_pos _, rfl, rfl, ?_⟩
      show log.nextSequence + 1 + (room + es.length) ≤ 2 ^ 64
      omega
    exact ih hcommits

theorem prepareBatch_ordinary {id : LedgerIdentity} {appendedAt : String} {durabilityClass : DurabilityClass}
    {exportStatus : ExportStatus} {observations : List MctObservation} (seq : Nat) (prev : Option String)
    (h : ∀ observation ∈ observations, validateOrdinaryObservation observation = .ok ()) :
    ∃ prepared, prepareBatch id appendedAt durabilityClass exportStatus seq prev observations = .ok prepared ∧
      (prepared.map fun item => item.1.observation) = observations := by
  induction observations generalizing seq prev with
  | nil => exact ⟨[], rfl, rfl⟩
  | cons observation observations ih =>
    rw [List.forall_mem_cons] at h
    let entry := sealedEntry id seq prev observation appendedAt durabilityClass exportStatus
    obtain ⟨prepared, hprep, hsame⟩ := ih (seq + 1) (some entry.entryHash) h.2
    refine ⟨(entry, frameOf entry) :: prepared, ?_, ?_⟩
    · simp only [prepareBatch, h.1, ok_bind]
      rw [hprep]
      rfl
    · rw [List.map_cons, hsame]
      rfl

/-- **A batch that nothing stops** is committed. -/
theorem LedgerLog.Ready.appendDurableBatch {observations : List MctObservation}
    (h : log.Ready (room + observations.length)) {io : Io} (hio : io.Succeeds)
    (hord : ∀ obs ∈ observations, validateOrdinaryObservation obs = .ok ()) (appendedAt : String)
    (durabilityClass : DurabilityClass) (exportStatus : ExportStatus) :
    ∃ entries log', log.appendDurableBatch observations appendedAt durabilityClass exportStatus io = (.ok entries, log') ∧
      (entries.map fun entry => entry.observation) = observations ∧ log'.Ready room ∧
      log'.nextSequence = log.nextSequence + observations.length := by
  obtain ⟨prepared, hprep, hsame⟩ := @prepareBatch_ordinary _ log.identity appendedAt durabilityClass exportStatus
    observations log.nextSequence log.previousHash hord
  have hents : ((prepared.map (·.1)).map fun entry => entry.observation) = observations := by
    rw [List.map_map]
    exact hsame
  have hlen : (prepared.map (·.1)).length = observations.length := by
    rw [← congrArg List.length hents, List.length_map (fun entry : MctObservationLedgerEntry => entry.observation)]
  have houtcome := appendDurableBatch_outcome log observations appendedAt durabilityClass exportStatus io
  rw [hprep] at houtcome
  generalize log.appendDurableBatch observations appendedAt durabilityClass exportStatus io = after at houtcome
  cases houtcome with
  | refused hwhy =>
    rw [h.writing] at hwhy
    rcases hwhy with hwhy | hwhy <;> cases hwhy
  | torn _ _ _ hfails => exact absurd hio hfails
  | committed hmade _ hafter =>
    obtain rfl := Except.ok.inj hmade
    obtain rfl := hafter fun hzero => absurd hzero h.started.ne'
    refine ⟨_, _, rfl, hents, LedgerLog.Ready.commitAll (by rw [hlen]; exact h), ?_⟩
    rw [← hlen]
    exact (log.commitAll_head (prepared.map (·.1))).1

end Mct
