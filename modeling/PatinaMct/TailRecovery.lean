import PatinaMct.AuthorityWriter
/-!
# TailRecovery — opening a ledger, and recovering an unterminated tail

`openLedger` scans the file under the writer lock.  A clean file is opened as it is, after the one pending recovery that
an earlier open may have left; a torn last frame is first copied into the forensic directory beside the ledger, with a
record of the decision, and only then cut off, and the recovery is observed in the ledger itself.  The open may be cut
short after any of its stages, or while it appends that observation (`OpenCrash`).
-/
namespace Mct

open Checked

variable [LedgerHost]

/-! ## The disk -/

inductive RecordFile
  | recovery (status : LedgerRecoveryStatus)
  | other
  deriving DecidableEq

structure ForensicCase where
  source : Option (List UInt8)
  record : Option RecordFile
  deriving DecidableEq

/-- **A ledger file and the forensic directory beside it**, by the names of its cases. -/
structure LedgerDisk where
  ledger : List UInt8
  forensics : TextMap ForensicCase

variable (path : String) (id : LedgerIdentity)

def forensicRootPath : String := path ++ ".forensics"

def recordPath (name : String) : String := forensicRootPath path ++ "/" ++ name ++ "/record.json"

def sourcePath (name : String) : String := forensicRootPath path ++ "/" ++ name ++ "/source.bin"

def tailCase (offset : Nat) (digest : String) : String := "tail-" ++ toString offset ++ "-" ++ digest

def recoveryDecisionId (offset : Nat) (digest : String) : String :=
  "ledger-tail-recovery-" ++ toString offset ++ "-" ++ digest

/-! ## Stages -/

inductive RecoveryStage
  | forensicDirectoryReady | sourceBytesPreserved | diagnosticRecordPreserved | ledgerTruncated
  | recoveryObservationAppended | diagnosticRecordCompleted
  deriving DecidableEq, Repr

/-- **Where an open ends early**: after a stage, or with a part of the frame of its observation. -/
inductive OpenCrash
  | never
  | after (stage : RecoveryStage)
  | tornObservation (kept : Nat)
  deriving DecidableEq, Repr

def OpenCrash.hook (crash : OpenCrash) (path : String) (stage : RecoveryStage) : Except ObservationLedgerError Unit :=
  deny (decide (crash = .after stage)) (.io path "aborted")

/-! ## The recovery observation -/

def recoveryObservation (status : LedgerRecoveryStatus) (observationId : ObservationId) (observedAt : Timestamp) :
    MctObservation where
  observationId := observationId
  observedAt := observedAt
  kind := .storageAppendSucceeded
  sourcePlane := .storage
  trace := .root (.tagged _ "trace-" status.recoveryDecisionId (by decide))
  callId := none
  decisionId := none
  subjectId := some id.motherNodeId
  resourceId := some id.ledgerId
  policyRevision := none
  grantsRevision := none
  outcome := .completed
  visibility := .nodeOperator
  safeMessage := tailRecoverySafeMessage
  detailRef := some ("ledger-tail-recovery-v1:" ++ status.residueDigest)

/-- The entry that a recovery appends, `none` when its identity has been observed.  The errors are the two `expect`s of
the source, on texts that no recovery writes; the time is only read once the identity is known to be new. -/
def recoveryEntry (status : LedgerRecoveryStatus) (state : LedgerScanState) :
    Except ObservationLedgerError (Option MctObservationLedgerEntry) := do
  let observationId ← mapErr (fun _ => .json path "recovery observation identity is empty")
    (StringId.new "ObservationId" status.recoveryDecisionId)
  if state.recoveryObservationIds.contains status.recoveryDecisionId then
    return none
  let observedAt ← mapErr (fun _ => .json path "recovery time is not RFC3339") (Timestamp.new status.recoveryTime)
  return some (sealedEntry id state.nextSequence state.previousHash
    (recoveryObservation id status observationId observedAt) status.recoveryTime .beforeEffect .notRequired)

def appendRecoveryObservation (status : LedgerRecoveryStatus) (crash : OpenCrash) (state : LedgerScanState)
    (disk : LedgerDisk) : Except ObservationLedgerError LedgerScanState × LedgerDisk :=
  match recoveryEntry path id status state with
  | .error error => (.error error, disk)
  | .ok none => (.ok state, disk)
  | .ok (some entry) =>
    match crash with
    | .tornObservation kept =>
      (.error (.io path "aborted"), { disk with ledger := disk.ledger ++ (frameOf entry).take kept })
    | _ => (.ok (state.remember entry (frameOf entry)), { disk with ledger := disk.ledger ++ frameOf entry })

/-! ## Recovering a tail -/

def newRecoveryStatus (residue : LedgerTailResidue) (now : SystemTime) :
    LedgerRecoveryStatus where
  ledgerPath := path
  sourceLedgerId := id.ledgerId
  sourceMotherNodeId := id.motherNodeId
  residueOffset := residue.offset
  residueLength := residue.bytes.length
  residueDigest := residue.digest
  lastCommittedSequence := if residue.state.nextSequence = 0 then none else some (residue.state.nextSequence - 1)
  lastCommittedHash := residue.state.previousHash
  failureClass := "unterminated_final_frame"
  recoveryDecisionId := recoveryDecisionId residue.offset residue.digest
  recoveryTime := now.1.value
  preservedBytesPath := sourcePath path (tailCase residue.offset residue.digest)
  diagnosticRecordPath := recordPath path (tailCase residue.offset residue.digest)
  recoveryComplete := false

def LedgerDisk.putCase (disk : LedgerDisk) (name : String) (case : ForensicCase) : LedgerDisk :=
  { disk with forensics := disk.forensics.insert name case }

/-- The status of a case: the one its record has, or a new one. -/
def caseStatus (residue : LedgerTailResidue) (now : SystemTime) (case : ForensicCase) :
    Except ObservationLedgerError LedgerRecoveryStatus :=
  match case.record with
  | none => .ok (newRecoveryStatus path id residue now)
  | some (.recovery status) => .ok status
  | some .other => .error (.json (recordPath path (tailCase residue.offset residue.digest)) "not a recovery record")

def preserveSource (name : String) (bytes : List UInt8) (case : ForensicCase) :
    Except ObservationLedgerError ForensicCase :=
  match case.source with
  | none => .ok { case with source := some bytes }
  | some existing =>
    if existing = bytes then .ok case
    else .error (.ledgerChanged (sourcePath path name) bytes.length existing.length)

def ensureResidueForensics (residue : LedgerTailResidue) (now : SystemTime) (crash : OpenCrash) (disk : LedgerDisk) :
    Except ObservationLedgerError LedgerRecoveryStatus × LedgerDisk :=
  let name := tailCase residue.offset residue.digest
  let case := disk.forensics[name]?.getD ⟨none, none⟩
  let disk := disk.putCase name case
  match crash.hook path .forensicDirectoryReady with
  | .error error => (.error error, disk)
  | .ok () =>
    match preserveSource path name residue.bytes case with
    | .error error => (.error error, disk)
    | .ok case =>
      let disk := disk.putCase name case
      match crash.hook path .sourceBytesPreserved with
      | .error error => (.error error, disk)
      | .ok () =>
        match caseStatus path id residue now case with
        | .error error => (.error error, disk)
        | .ok status =>
          let disk := disk.putCase name { case with record := some (.recovery status) }
          match crash.hook path .diagnosticRecordPreserved with
          | .error error => (.error error, disk)
          | .ok () => (.ok status, disk)

def LedgerDisk.writeRecord (disk : LedgerDisk) (path record : String) (status : LedgerRecoveryStatus) : LedgerDisk :=
  { disk with
    forensics := disk.forensics.map fun name case =>
      if recordPath path name = record then { case with record := some (.recovery status) } else case }

def completeRecord (status : LedgerRecoveryStatus) (record : String) (crash : OpenCrash) (state : LedgerScanState)
    (disk : LedgerDisk) :
    Except ObservationLedgerError (LedgerScanState × LedgerRecoveryStatus) × LedgerDisk :=
  let status := { status with recoveryComplete := true }
  let disk := disk.writeRecord path record status
  match crash.hook path .diagnosticRecordCompleted with
  | .error error => (.error error, disk)
  | .ok () => (.ok (state, status), disk)

def finishRecovery (status : LedgerRecoveryStatus) (record : String) (crash : OpenCrash) (observes : Bool)
    (state : LedgerScanState) (disk : LedgerDisk) :
    Except ObservationLedgerError (LedgerScanState × LedgerRecoveryStatus) × LedgerDisk :=
  if observes then
    match appendRecoveryObservation path id status crash state disk with
    | (.error error, disk) => (.error error, disk)
    | (.ok state, disk) =>
      match crash.hook path .recoveryObservationAppended with
      | .error error => (.error error, disk)
      | .ok () => completeRecord path status record crash state disk
  else completeRecord path status record crash state disk

def recoverTail (residue : LedgerTailResidue) (now : SystemTime) (crash : OpenCrash) (disk : LedgerDisk) :
    Except ObservationLedgerError (LedgerScanState × LedgerRecoveryStatus) × LedgerDisk :=
  match ensureResidueForensics path id residue now crash disk with
  | (.error error, disk) => (.error error, disk)
  | (.ok status, disk) =>
    let disk := { disk with ledger := disk.ledger.take residue.state.committedLen }
    match crash.hook path .ledgerTruncated with
    | .error error => (.error error, disk)
    | .ok () => finishRecovery path id status status.diagnosticRecordPath crash true residue.state disk

/-! ## Completing a pending recovery -/

/-- The record is of this ledger and its recovery has not been completed. -/
def LedgerRecoveryStatus.pendingFor (status : LedgerRecoveryStatus) (path : String) (id : LedgerIdentity) : Bool :=
  status.ledgerPath == path && status.sourceLedgerId == id.ledgerId && status.sourceMotherNodeId == id.motherNodeId &&
    !status.recoveryComplete

def ForensicCase.pending (case : ForensicCase) (path : String) (id : LedgerIdentity) : Option LedgerRecoveryStatus :=
  match case.record with
  | some (.recovery status) => if status.pendingFor path id then some status else none
  | _ => none

def LedgerDisk.pendingRecoveries (disk : LedgerDisk) (path : String) (id : LedgerIdentity) :
    List (String × LedgerRecoveryStatus) :=
  disk.forensics.toList.filterMap fun item => (item.2.pending path id).map fun status => (item.1, status)

def pendingTailRecoveryExists (disk : LedgerDisk) : Bool :=
  !(disk.pendingRecoveries path id).isEmpty

def completePendingRecovery (crash : OpenCrash) (state : LedgerScanState) (disk : LedgerDisk) :
    Except ObservationLedgerError (LedgerScanState × Option LedgerRecoveryStatus) × LedgerDisk :=
  match (disk.pendingRecoveries path id).head? with
  | none => (.ok (state, none), disk)
  | some (name, status) =>
    let observes := !state.recoveryObservationIds.contains status.recoveryDecisionId
    match finishRecovery path id status (recordPath path name) crash observes state disk with
    | (.error error, disk) => (.error error, disk)
    | (.ok (state, status), disk) => (.ok (state, some status), disk)

/-! ## Opening -/

def LedgerFailureClass.debugText : LedgerFailureClass → String
  | .terminatedMalformedFrame => "TerminatedMalformedFrame"
  | .entryHashMismatch => "EntryHashMismatch"
  | .previousHashMismatch => "PreviousHashMismatch"
  | .sequenceDiscontinuity => "SequenceDiscontinuity"
  | .foreignLineage => "ForeignLineage"

def preserveQuarantine (status : LedgerQuarantineStatus) (disk : LedgerDisk) :
    Except ObservationLedgerError LedgerQuarantineStatus × LedgerDisk :=
  let name := "quarantine-" ++ toString status.firstBadOffset ++ "-" ++ blake3 disk.ledger ++ "-" ++
    status.failureClass.debugText
  let case := disk.forensics[name]?.getD ⟨none, none⟩
  match preserveSource path name disk.ledger case with
  | .error error => (.error error, disk.putCase name case)
  | .ok case =>
    (.ok { status with
        preservedLedgerPath := some (sourcePath path name)
        diagnosticRecordPath := some (recordPath path name) },
      disk.putCase name { case with record := some .other })

def openedHandle (createdNew : Bool) (state : LedgerScanState) (recoveryStatus : Option LedgerRecoveryStatus)
    (disk : LedgerDisk) : JsonlObservationLedger where
  path := path
  ledgerId := id.ledgerId
  motherNodeId := id.motherNodeId
  file := disk.ledger
  nextSequence := state.nextSequence
  previousHash := state.previousHash
  writerState := .ready
  authorityReplay := state.authorityReplay
  usedEpochs := state.usedEpochs
  prefixHasher := state.prefixHasher
  prefixLen := state.committedLen
  lastObservationId := state.lastObservationId
  lastFrameLen := state.lastFrameLen
  createdNew := createdNew
  recoveryStatus := recoveryStatus
  authorityTenure := none
  recoveryWaitOffsetMs := 0

/-- **`open_file_with_recovery_hook`**, once the lock is held; `known` is the head this process has verified before. -/
def openLedger (createdNew : Bool) (known : Option (Nat × String)) (now : SystemTime) (crash : OpenCrash)
    (disk : LedgerDisk) :
    Except ObservationLedgerError JsonlObservationLedger × LedgerDisk :=
  match scanExisting path id known disk.ledger with
  | .error discontinuity => (.error (.ledgerDiscontinuity discontinuity), disk)
  | .ok (.ready state) =>
    match completePendingRecovery path id crash state disk with
    | (.error error, disk) => (.error error, disk)
    | (.ok (state, status), disk) => (.ok (openedHandle path id createdNew state status disk), disk)
  | .ok (.residue residue) =>
    match recoverTail path id residue now crash disk with
    | (.error error, disk) => (.error error, disk)
    | (.ok (state, status), disk) => (.ok (openedHandle path id createdNew state (some status) disk), disk)
  | .ok (.quarantine status) =>
    match preserveQuarantine path status disk with
    | (.error error, disk) => (.error error, disk)
    | (.ok status, disk) => (.error (.quarantined status), disk)
  | .ok (.foreignLineage status) =>
    match preserveQuarantine path status disk with
    | (.error error, disk) => (.error error, disk)
    | (.ok status, disk) => (.error (.foreignLineage status), disk)

end Mct
