import PatinaMct.AuthorityWriter
/-!
# TypedWriters — recovery, issuance, genesis and passkey operations of an open ledger

The operations of `guardian_recovery.rs`, `admin_issuance.rs`, `admin_genesis.rs` and `passkey_admin.rs` on the handle.
Recovery and issuance are mutations of their own paths, resolved against the committed command on a retry; the two
births and the passkey facts have checks of their own before the one append.
-/
namespace Mct

open Checked
open Recovery (GuardianRecoveryCommandV1 GuardianRecoveryActionV1 RecoveryDigestV1 RecoveryClockV1)

variable [LedgerHost]

/-- `u64::try_from(n).unwrap_or(u64::MAX)`. -/
def saturateU64 (n : Nat) : Nat := min n (2 ^ 64 - 1)

/-! ## Guardian recovery -/

/-- The readings of the writer's clocks in one call: the wall time and the monotonic milliseconds when the command is
stamped, and the monotonic milliseconds after the append. -/
structure WriterClock where
  wallTime : SystemTime
  elapsedMs : Nat
  acknowledgedMs : Nat

def startsWait : GuardianRecoveryActionV1 → Bool
  | .initiate _ _ | .proposePolicy _ | .rebaseWait => true
  | _ => false

def hostOnly : GuardianRecoveryActionV1 → Bool
  | .rebaseWait | .issueChallenge _ | .expire | .activatePolicy => true
  | _ => false

def AuthorityMutationResultV1.newlyCommitted : AuthorityMutationResultV1 → Bool
  | .committed _ .newlyCommitted _ _ _ _ | .committedProjectionPending _ .newlyCommitted _ _ _ _ => true
  | _ => false

def noProjection : Projection := fun _ => .ok none

namespace JsonlObservationLedger

variable (ledger : JsonlObservationLedger)

/-- The clock of a command: that of the committed command on an exact retry, a new reading otherwise. -/
def recoveryClock (tenure : AuthorityWriterTenureV1) (mutationId : String) (command : GuardianRecoveryCommandV1)
    (clock : WriterClock) :
    Except AuthorityMutationRejectionReasonV1 RecoveryClockV1 :=
  let sampled : RecoveryClockV1 :=
    ⟨tenure.fact.authorityEpoch, clock.wallTime.1, saturateU64 clock.elapsedMs - ledger.recoveryWaitOffsetMs⟩
  match ledger.cachedReplay with
  | .error _ => .ok sampled
  | .ok replay =>
    match replay.mutations[mutationId]? with
    | none => .ok sampled
    | some existing =>
      match existing.fact.changes with
      | [.guardianRecovery old oldClock] => if old == command then .ok oldClock else .error .mutationIdConflict
      | _ => .error .mutationIdConflict

def recoveryRequest (mutationId : String) (command : GuardianRecoveryCommandV1) (clock : RecoveryClockV1) :
    AuthorityMutationRequestV1 where
  mutationId := mutationId
  changes := [.guardianRecovery command clock]
  -- correlation only: the evaluator authorizes the command
  grantShapingSources := [.operatorDecision mutationId "verified-recovery-transcript" .grantChange]
  decidedAt := clock.wallTime.value

def waiting : Bool :=
  match ledger.cachedReplay with
  | .error _ => false
  | .ok replay =>
    replay.state.guardianRecovery.any fun recovery => recovery.pending.isSome || recovery.pendingPolicyEdit.isSome

/-- The time that the append of a wait's start has taken is no credit toward the wait. -/
def offsetWait (action : GuardianRecoveryActionV1) (clock : WriterClock) :
    JsonlObservationLedger :=
  if !ledger.waiting then { ledger with recoveryWaitOffsetMs := 0 }
  else if startsWait action then
    { ledger with
      recoveryWaitOffsetMs :=
        saturateU64 (ledger.recoveryWaitOffsetMs + (saturateU64 (clock.acknowledgedMs + 1) - saturateU64 clock.elapsedMs)) }
  else ledger

def executeGuardianRecoveryWithClock (mutationId : String) (command : GuardianRecoveryCommandV1) (clock : WriterClock)
    (io : Io) :
    AuthorityMutationResultV1 × JsonlObservationLedger :=
  match ledger.authorityTenure with
  | none => (.rejectedBeforeCommit mutationId .authorityEpochUnavailable, ledger)
  | some tenure =>
    match ledger.recoveryClock tenure mutationId command clock with
    | .error reason => (.rejectedBeforeCommit mutationId reason, ledger)
    | .ok stamped =>
      let (result, ledger) :=
        ledger.executeAuthorityMutationInner (recoveryRequest mutationId command stamped) noProjection true io
      (result, if result.newlyCommitted then ledger.offsetWait command.action clock else ledger)

def executeGuardianRecovery (mutationId : String) (command : GuardianRecoveryCommandV1) (clock : WriterClock) (io : Io) :
    AuthorityMutationResultV1 × JsonlObservationLedger :=
  if hostOnly command.action then (.rejectedBeforeCommit mutationId .invalidRequest, ledger)
  else ledger.executeGuardianRecoveryWithClock mutationId command clock io

def activateGuardianPolicy (mutationId : String) (expectedState : RecoveryDigestV1) (clock : WriterClock) (io : Io) :
    AuthorityMutationResultV1 × JsonlObservationLedger :=
  ledger.executeGuardianRecoveryWithClock mutationId ⟨some expectedState, .activatePolicy⟩ clock io

def rebaseGuardianRecoveryClock (mutationId : String) (expectedState : RecoveryDigestV1) (clock : WriterClock) (io : Io) :
    AuthorityMutationResultV1 × JsonlObservationLedger :=
  ledger.executeGuardianRecoveryWithClock mutationId ⟨some expectedState, .rebaseWait⟩ clock io

def expireGuardianRecovery (mutationId : String) (expectedState : RecoveryDigestV1) (clock : WriterClock) (io : Io) :
    AuthorityMutationResultV1 × JsonlObservationLedger :=
  ledger.executeGuardianRecoveryWithClock mutationId ⟨some expectedState, .expire⟩ clock io

def challengeContext : Option (String × String) := do
  let replay ← ledger.cachedReplay.toOption
  let hash ← (authorityStateHash replay.state).toOption
  let authority ← replay.currentAuthority
  return (hash, authority.authorityEpoch)

def issueGuardianRecoveryChallenge (mutationId : String) (expectedState : RecoveryDigestV1)
    (random : Except String (Vector UInt8 32)) (clock : WriterClock) (io : Io) :
    AuthorityMutationResultV1 × JsonlObservationLedger :=
  match ledger.challengeContext, random with
  | none, _ => (.rejectedBeforeCommit mutationId .priorStateMismatch, ledger)
  | some _, .error _ => (.rejectedBeforeCommit mutationId .invalidRequest, ledger)
  | some (hash, epoch), .ok random =>
    ledger.executeGuardianRecoveryWithClock mutationId
      ⟨some expectedState, .issueChallenge (canonicalHash (.writerChallenge hash epoch random))⟩ clock io

/-! ## Issuance -/

/-- The time and the sources of an issuance: those of the committed one on an exact retry. -/
def issuanceStamp (request : AdminKeyIssueRequestV1) (now : Timestamp) :
    Except AuthorityMutationRejectionReasonV1 (Timestamp × List GrantShapingSourceV1) := do
  let replay ← mapErr (fun _ => .priorStateMismatch) ledger.cachedReplay
  match replay.mutations[request.intent.issuanceId]? with
  | some existing =>
    match existing.fact.changes with
    | [.adminKeyIssue old decidedAt] =>
      if old == request then .ok (decidedAt, existing.fact.grantShapingSources) else .error .mutationIdConflict
    | _ => .error .mutationIdConflict
  | none => do
    let issuer ← okOr replay.state.adminKeyGrants[request.intent.issuerGrantId]? .invalidRequest
    return (now, [.adminKey issuer.publicHalf])

def executeAdminKeyIssuance (request : AdminKeyIssueRequestV1) (now : SystemTime) (io : Io) :
    AuthorityMutationResultV1 × JsonlObservationLedger :=
  match ledger.issuanceStamp request now.1 with
  | .error reason => (.rejectedBeforeCommit request.intent.issuanceId reason, ledger)
  | .ok (decidedAt, sources) =>
    ledger.executeAuthorityMutationInner
      ⟨request.intent.issuanceId, [.adminKeyIssue request decidedAt], sources, decidedAt.value⟩ noProjection true io

end JsonlObservationLedger

/-! ## Strict genesis -/

structure AdminGenesisSetupV1 where
  motherNodeId : String
  ledgerId : String
  pinnedRoot : Recovery.RecoveryPublicKeyV1
  inventoryHash : String

/-- What the checks of a birth end in: the entry that is already there, or the fact to append. -/
inductive GenesisAdmission (α : Type)
  | receipt
  | birth (fact : α)

namespace JsonlObservationLedger

variable (ledger : JsonlObservationLedger)

def birthReceipt (missing : String) :
    Except ObservationLedgerError MctObservationLedgerEntry := do
  let entries ← ledger.entries
  okOr entries.head? (.authorityReplay missing)

def admitGenesis (setup : AdminGenesisSetupV1) (request : AdminGenesisRequestV1) (now : Timestamp) :
    Except ObservationLedgerError (GenesisAdmission AdminGenesisFactV1) := do
  let i := request.intent
  deny ledger.isPoisoned (.authorityReplay "genesis writer is poisoned")
  mapErr (·.toLedgerError) request.validate
  deny (ledger.motherNodeId ≠ setup.motherNodeId || ledger.ledgerId ≠ setup.ledgerId ||
      i.motherNodeId ≠ setup.motherNodeId || i.ledgerId ≠ setup.ledgerId || i.inventoryHash ≠ setup.inventoryHash ||
      i.root.publicHalf ≠ setup.pinnedRoot.ed25519 || i.root.mlDsa65PublicKey ≠ some setup.pinnedRoot.mlDsa65)
    (.authorityReplay "genesis does not match independently pinned setup")
  let replay ← ledger.cachedReplay
  match replay.state.adminGenesis with
  | some prior => do
    deny (prior.request != request) (.authorityReplay "genesis conflicts with committed birth")
    return .receipt
  | none => do
    deny (!ledger.createdNew || ledger.nextSequence != 0 || ledger.authorityTenure.isSome || replay.state ≠ .empty ||
        replay.currentAuthority.isSome || ledger.recoveryStatus.isSome)
      (.authorityReplay "nonvirgin history cannot acquire strict genesis")
    return .birth ⟨request, now⟩

def executeAdminGenesis (setup : AdminGenesisSetupV1) (request : AdminGenesisRequestV1) (now : SystemTime) (io : Io) :
    Except ObservationLedgerError MctObservationLedgerEntry × JsonlObservationLedger :=
  match ledger.admitGenesis setup request now.1 with
  | .error error => (.error error, ledger)
  | .ok .receipt => (ledger.birthReceipt "genesis receipt missing", ledger)
  | .ok (.birth fact) => ledger.commitFact fact.observation fact.decidedAt.value io

end JsonlObservationLedger

/-! ## Passkey administration -/

structure PasskeyGenesisSetupV1 where
  motherNodeId : String
  ledgerId : String
  root : WebAuthnP256DayKeyV1
  inventoryHash : String

def PasskeyGenesisSetupV1.validateRequest (setup : PasskeyGenesisSetupV1) (request : PasskeyAdminRequestV1) :
    Except ObservationLedgerError Unit :=
  match request.intent.action with
  | .bootstrap root inventoryHash =>
    deny (request.intent.motherNodeId ≠ setup.motherNodeId || request.intent.ledgerId ≠ setup.ledgerId ||
        root ≠ setup.root || inventoryHash ≠ setup.inventoryHash)
      (.authorityReplay "genesis disagrees with trusted registration/setup")
  | _ => .error (.authorityReplay "not genesis")

namespace JsonlObservationLedger

variable (ledger : JsonlObservationLedger) (request : PasskeyAdminRequestV1)

def admitPasskey (time : Timestamp) :
    Except ObservationLedgerError MctObservation := do
  deny (ledger.isPoisoned || request.intent.motherNodeId ≠ ledger.motherNodeId ||
      request.intent.ledgerId ≠ ledger.ledgerId)
    (.authorityReplay "writer unavailable or wrong target")
  let replay ← ledger.cachedReplay
  let _ ← mapErr (·.toLedgerError) (passkeyTransition replay ⟨request, time⟩)
  let _ ← mapErr (·.toLedgerError) (PasskeyAdminFactV1.identity ⟨request, time⟩)
  mapErr (·.toLedgerError) (PasskeyAdminFactV1.observation ⟨request, time⟩)

def commitPasskeyAt (time : SystemTime) (io : Io) :
    Except ObservationLedgerError MctObservationLedgerEntry × JsonlObservationLedger :=
  match ledger.admitPasskey request time.1 with
  | .error error => (.error error, ledger)
  | .ok observation => ledger.commitFact observation time.1.value io

def admitPasskeyGenesis (setup : PasskeyGenesisSetupV1) (request : PasskeyAdminRequestV1) :
    Except ObservationLedgerError (GenesisAdmission Unit) := do
  setup.validateRequest request
  deny (ledger.isPoisoned || ledger.motherNodeId ≠ setup.motherNodeId || ledger.ledgerId ≠ setup.ledgerId)
    (.authorityReplay "genesis disagrees with trusted registration/setup")
  let replay ← ledger.cachedReplay
  match replay.state.passkeyAdmin with
  | some prior => do
    deny (prior.genesis.request != request) (.authorityReplay "conflicting passkey genesis")
    return .receipt
  | none => do
    deny (!ledger.createdNew || ledger.nextSequence != 0 || ledger.authorityTenure.isSome ||
        ledger.recoveryStatus.isSome)
      (.authorityReplay "nonvirgin ledger cannot acquire passkey provenance")
    return .birth ()

def executePasskeyGenesis (setup : PasskeyGenesisSetupV1) (request : PasskeyAdminRequestV1) (time : SystemTime)
    (io : Io) :
    Except ObservationLedgerError MctObservationLedgerEntry × JsonlObservationLedger :=
  match ledger.admitPasskeyGenesis setup request with
  | .error error => (.error error, ledger)
  | .ok .receipt => (ledger.birthReceipt "missing birth receipt", ledger)
  | .ok (.birth ()) => ledger.commitPasskeyAt request time io

/-- `execute_passkey_admin` takes leases and revocations only. -/
def managesDayKeys : PasskeyAdminActionV1 → Bool
  | .issueDayKey _ _ _ _ | .revokeDayKey _ => true
  | _ => false

def executePasskeyAdmin (time : SystemTime) (io : Io) :
    Except ObservationLedgerError MctObservationLedgerEntry × JsonlObservationLedger :=
  if managesDayKeys request.intent.action then ledger.commitPasskeyAt request time io
  else (.error (.authorityReplay "wrong administrative API"), ledger)

/-- The instant of a time, as `execute_passkey_command_with_clock` parses it. -/
def parseInstant (time : Timestamp) : Except ObservationLedgerError Int :=
  mapErr .authorityReplay (KernelHost.parseTimestamp time.value)

/-- The lease of a day-key proof authorizes the scope at this time; other proofs need none. -/
def leaseAuthorizes (state : PasskeyAdminStateV1) (scope : AdminKeyScopeV1) (time : Timestamp) :
    DayKeyAdminProofV1 → Bool
  | .ed25519DayKeyV1 grantId _ => state.dayKeys[grantId]?.any fun key => key.authorizes scope time
  | _ => true

/-- The checks between the commit of a command and its effect, at the second reading of the clock. -/
def clearEffect (scope : AdminKeyScopeV1) (time : Timestamp) : Except ObservationLedgerError Unit := do
  mapErr (fun e => .authorityReplay e.text) (request.intent.validate time)
  let replay ← ledger.cachedReplay
  let passkey ← okOr replay.state.passkeyAdmin (.authorityReplay "lost passkey provenance")
  let now ← parseInstant time
  let last ← parseInstant passkey.state.lastDecidedAt
  deny (decide (now < last)) (.authorityReplay "clock rollback after admission")
  deny (!leaseAuthorizes passkey.state scope time request.proof)
    (.authorityReplay "lease expired or revoked before effect")

/-- `execute_passkey_command_with_clock` up to its effect: the body that the effect is run on. -/
def admitPasskeyCommand (route : String) (scope : AdminKeyScopeV1) (commitTime effectTime : SystemTime) (io : Io) :
    Except ObservationLedgerError String × JsonlObservationLedger :=
  match request.intent.action with
  | .command signedScope signedRoute body =>
    if signedScope ≠ scope ∨ signedRoute ≠ route then
      (.error (.authorityReplay "route/scope substitution"), ledger)
    else
      match ledger.commitPasskeyAt request commitTime io with
      | (.error error, ledger) => (.error error, ledger)
      | (.ok _, ledger) =>
        match ledger.clearEffect request scope effectTime.1 with
        | .error error => (.error error, ledger)
        | .ok () => (.ok body, ledger)
  | _ => (.error (.authorityReplay "not a scoped command"), ledger)

def executePasskeyCommand {α : Type} (ledger : JsonlObservationLedger) (request : PasskeyAdminRequestV1) (route : String)
    (scope : AdminKeyScopeV1) (commitTime effectTime : SystemTime)
    (effect : String → Except ObservationLedgerError α) (io : Io) :
    Except ObservationLedgerError α × JsonlObservationLedger :=
  match ledger.admitPasskeyCommand request route scope commitTime effectTime io with
  | (.error error, ledger) => (.error error, ledger)
  | (.ok body, ledger) => (effect body, ledger)

end JsonlObservationLedger

end Mct
