import PatinaMct.TypedWriters
/-!
# WriterSteps — what any operation of the handle does to its log

`WriterOp` has every operation of an open ledger that can append, with its arguments and the readings it takes, and
`WriterOp.run` is the call.  `WriterStep` says what such a call can do to the log, whichever operation it is: nothing,
one canonical fact that was checked against the cached replay (`FactAdmitted`), or ordinary entries.  Everything that
holds for all operations is proved from `WriterOp.step`.
-/
namespace Mct

open Checked
open Recovery (GuardianRecoveryCommandV1 RecoveryDigestV1)

variable [LedgerHost]

/-! ## Checked facts -/

/-- **The canonical facts that a writer appends**, by the checks that were made on the log. -/
inductive FactAdmitted (log : LedgerLog) (entropy : Option (Vector UInt8 32)) : MctObservation → String → Prop
  | epoch {replay : AuthorityReplayV1} {startup : AuthorityTenureStartupEvidenceV1} {random : Vector UInt8 32}
      {stateHash : String} (startedAt : SystemTime) : log.authorityReplay = .ok replay → entropy = some random →
      epochStartupRelation log.link replay
        (epochFactOf log.identity replay startup (freshAuthorityEpoch random) startedAt.1.value stateHash) = true →
      authorityStateHash replay.state = .ok stateHash →
      FactAdmitted log entropy
        ((epochFactOf log.identity replay startup (freshAuthorityEpoch random) startedAt.1.value stateHash).observation
          startedAt.1) startedAt.1.value
  | mutation {replay : AuthorityReplayV1} {request : AuthorityMutationRequestV1} {prior : GrantsAuthorityIdentityV1}
      {resulting : AuthorityStateV1} {intentHash priorHash resultingHash : String} (observedAt : Timestamp) :
      log.authorityReplay = .ok replay →
      MutationAdmitted log.identity replay request prior resulting intentHash priorHash resultingHash →
      FactAdmitted log entropy
        ((mutationFactOf log.identity prior request intentHash priorHash resultingHash).observation observedAt)
        request.decidedAt
  | «import» {replay : AuthorityReplayV1} {request : LegacyAuthorityImportRequestV1} {prior : GrantsAuthorityIdentityV1}
      {imported : AuthorityStateV1} {principalRef decidedAt priorHash importedHash : String} (observedAt : Timestamp) :
      log.authorityReplay = .ok replay → ImportAdmitted replay request prior imported priorHash importedHash →
      FactAdmitted log entropy
        ((importFactOf log.identity prior request principalRef imported decidedAt priorHash importedHash).observation
          observedAt) decidedAt
  | genesis {fact : AdminGenesisFactV1} : GenesisAdmitted log.identity fact.request → log.nextSequence = 0 →
      FactAdmitted log entropy fact.observation fact.decidedAt.value
  | passkey {replay : AuthorityReplayV1} {fact : PasskeyAdminFactV1} {next : PasskeyAdminCanonicalV1}
      {observation : MctObservation} : log.authorityReplay = .ok replay →
      fact.request.intent.motherNodeId = log.motherNodeId → fact.request.intent.ledgerId = log.ledgerId →
      passkeyTransition replay fact = .ok next → fact.observation = .ok observation →
      (replay.state.passkeyAdmin = none → log.nextSequence = 0) →
      FactAdmitted log entropy observation fact.decidedAt.value

/-- **What one call does to the log.** -/
inductive WriterStep (log : LedgerLog) (entropy : Option (Vector UInt8 32)) (io : Io) : LedgerLog → Prop
  | quiet : WriterStep log entropy io log
  | fact {observation : MctObservation} {at_ : String} : FactAdmitted log entropy observation at_ →
      WriterStep log entropy io (log.appendCanonicalBeforeEffect observation at_ io).2
  | append (observation : MctObservation) (appendedAt : String) (durabilityClass : DurabilityClass)
      (exportStatus : ExportStatus) :
      WriterStep log entropy io (log.append observation appendedAt durabilityClass exportStatus io 0).2
  | batch (observations : List MctObservation) (appendedAt : String) (durabilityClass : DurabilityClass)
      (exportStatus : ExportStatus) :
      WriterStep log entropy io (log.appendDurableBatch observations appendedAt durabilityClass exportStatus io).2
  | each (observations : List MctObservation) (appendedAt : String) :
      WriterStep log entropy io (log.appendBatchBeforeEffect observations appendedAt io).2

/-! ## Operations -/

/-- **The operations of an open ledger that can append.** -/
inductive WriterOp
  | append (observation : MctObservation) (appendedAt : String) (durabilityClass : DurabilityClass)
      (exportStatus : ExportStatus)
  | appendDurableBatch (observations : List MctObservation) (appendedAt : String) (durabilityClass : DurabilityClass)
      (exportStatus : ExportStatus)
  | appendBatchBeforeEffect (observations : List MctObservation) (appendedAt : String)
  | beginAuthorityTenure (startedAt : SystemTime) (entropy : Except String (Vector UInt8 32))
  | beginAuthorityTenureWithStartup (startup : AuthorityTenureStartupEvidenceV1) (startedAt : SystemTime)
      (entropy : Except String (Vector UInt8 32))
  | executeAuthorityMutation (request : AuthorityMutationRequestV1) (projection : Projection)
  | executePairingTicketAdmission (request : AuthorityMutationRequestV1) (authenticatedPeer : EndpointIdText)
      (motherNow : Timestamp) (projection : Projection)
  | executeLegacyAuthorityImport (request : LegacyAuthorityImportRequestV1) (authenticatedPrincipalRef : String)
      (importedState : AuthorityStateV1) (decidedAt : String)
  | executeGuardianRecovery (mutationId : String) (command : GuardianRecoveryCommandV1) (clock : WriterClock)
  | activateGuardianPolicy (mutationId : String) (expectedState : RecoveryDigestV1) (clock : WriterClock)
  | rebaseGuardianRecoveryClock (mutationId : String) (expectedState : RecoveryDigestV1) (clock : WriterClock)
  | expireGuardianRecovery (mutationId : String) (expectedState : RecoveryDigestV1) (clock : WriterClock)
  | issueGuardianRecoveryChallenge (mutationId : String) (expectedState : RecoveryDigestV1)
      (random : Except String (Vector UInt8 32)) (clock : WriterClock)
  | executeAdminKeyIssuance (request : AdminKeyIssueRequestV1) (now : SystemTime)
  | executeAdminGenesis (setup : AdminGenesisSetupV1) (request : AdminGenesisRequestV1) (now : SystemTime)
  | executePasskeyGenesis (setup : PasskeyGenesisSetupV1) (request : PasskeyAdminRequestV1) (time : SystemTime)
  | executePasskeyAdmin (request : PasskeyAdminRequestV1) (time : SystemTime)
  | executePasskeyCommand (request : PasskeyAdminRequestV1) (route : String) (scope : AdminKeyScopeV1)
      (commitTime effectTime : SystemTime)

/-- What an operation returns; a passkey command returns the body that its effect is run on. -/
inductive OpResult
  | entry (result : Except ObservationLedgerError MctObservationLedgerEntry)
  | entries (result : Except ObservationLedgerError (List MctObservationLedgerEntry))
  | done (result : Except ObservationLedgerError Unit)
  | mutation (result : AuthorityMutationResultV1)
  | command (result : Except ObservationLedgerError String)

namespace JsonlObservationLedger

def onLog {α : Type} (ledger : JsonlObservationLedger) (outcome : α × LedgerLog) : α × JsonlObservationLedger :=
  (outcome.1, { ledger with toLedgerLog := outcome.2 })

def run (ledger : JsonlObservationLedger) (io : Io) : WriterOp → OpResult × JsonlObservationLedger
  | .append observation appendedAt durabilityClass exportStatus =>
    (ledger.onLog (ledger.toLedgerLog.append observation appendedAt durabilityClass exportStatus io 0)).map .entry id
  | .appendDurableBatch observations appendedAt durabilityClass exportStatus =>
    (ledger.onLog (ledger.toLedgerLog.appendDurableBatch observations appendedAt durabilityClass exportStatus io)).map
      .entries id
  | .appendBatchBeforeEffect observations appendedAt =>
    (ledger.onLog (ledger.toLedgerLog.appendBatchBeforeEffect observations appendedAt io)).map .entries id
  | .beginAuthorityTenure startedAt entropy => (ledger.beginAuthorityTenure startedAt entropy io).map .done id
  | .beginAuthorityTenureWithStartup startup startedAt entropy =>
    (ledger.beginAuthorityTenureWithStartup startup startedAt entropy io).map .done id
  | .executeAuthorityMutation request projection =>
    (ledger.executeAuthorityMutation request projection io).map .mutation id
  | .executePairingTicketAdmission request authenticatedPeer motherNow projection =>
    (ledger.executePairingTicketAdmission request authenticatedPeer motherNow projection io).map .mutation id
  | .executeLegacyAuthorityImport request authenticatedPrincipalRef importedState decidedAt =>
    (ledger.executeLegacyAuthorityImport request authenticatedPrincipalRef importedState decidedAt io).map .mutation id
  | .executeGuardianRecovery mutationId command clock =>
    (ledger.executeGuardianRecovery mutationId command clock io).map .mutation id
  | .activateGuardianPolicy mutationId expectedState clock =>
    (ledger.activateGuardianPolicy mutationId expectedState clock io).map .mutation id
  | .rebaseGuardianRecoveryClock mutationId expectedState clock =>
    (ledger.rebaseGuardianRecoveryClock mutationId expectedState clock io).map .mutation id
  | .expireGuardianRecovery mutationId expectedState clock =>
    (ledger.expireGuardianRecovery mutationId expectedState clock io).map .mutation id
  | .issueGuardianRecoveryChallenge mutationId expectedState random clock =>
    (ledger.issueGuardianRecoveryChallenge mutationId expectedState random clock io).map .mutation id
  | .executeAdminKeyIssuance request now => (ledger.executeAdminKeyIssuance request now io).map .mutation id
  | .executeAdminGenesis setup request now => (ledger.executeAdminGenesis setup request now io).map .entry id
  | .executePasskeyGenesis setup request time => (ledger.executePasskeyGenesis setup request time io).map .entry id
  | .executePasskeyAdmin request time => (ledger.executePasskeyAdmin request time io).map .entry id
  | .executePasskeyCommand request route scope commitTime effectTime =>
    (ledger.admitPasskeyCommand request route scope commitTime effectTime io).map .command id

end JsonlObservationLedger

open JsonlObservationLedger

/-! ## Each operation is a step -/

variable {ledger : JsonlObservationLedger} {io : Io}

omit [LedgerHost] in
theorem cachedReplay_ok {log : LedgerLog} {replay : AuthorityReplayV1} :
    log.cachedReplay = .ok replay ↔ log.authorityReplay = .ok replay := mapErr_ok

omit [LedgerHost] in
/-- **The two startup checks agree**: what the writer admits, replay admits after the head of the log. -/
theorem startupRelation_agrees {r : AuthorityReplayV1} {startup : AuthorityTenureStartupEvidenceV1}
    {predecessor : AuthorityEpochPredecessorV1} {ep t sh : String}
    (hpredecessor : ledger.actualPredecessor = .ok predecessor)
    (hvalid : ledger.startupRelationValid r predecessor startup = true) :
    epochStartupRelation ledger.link r (epochFactOf ledger.identity r startup ep t sh) =
      true := by
  unfold actualPredecessor at hpredecessor
  unfold startupRelationValid at hvalid
  unfold epochStartupRelation epochFactOf LedgerLog.link previousLink
  by_cases hempty : ledger.nextSequence = 0
  · rw [if_pos hempty] at hpredecessor
    rw [if_pos hempty]
    cases hclass : startup.startupClass <;> cases hauth : r.currentAuthority <;>
      simp_all
  · rw [if_neg hempty] at hpredecessor
    rw [if_neg hempty]
    simp only [LedgerLog.headPredecessor, bind_ok, exists_unit, okOr_ok, pure_ok] at hpredecessor
    obtain ⟨-, hash, hhash, rfl⟩ := hpredecessor
    rw [hhash]
    cases hclass : startup.startupClass <;> cases hauth : r.currentAuthority <;>
      simp_all

theorem admitTenure_admitted {startup : AuthorityTenureStartupEvidenceV1} {t : SystemTime}
    {random : Except String (Vector UInt8 32)} {fact : EpochEstablishedFactV1}
    (h : ledger.admitTenure startup t random = .ok fact) :
    FactAdmitted ledger.toLedgerLog random.toOption (fact.observation t.1) t.1.value := by
  simp only [admitTenure, bind_ok, exists_unit, deny_ok, mapErr_ok, pure_ok,
    Bool.or_eq_false_iff, Bool.not_eq_eq_eq_not, Bool.not_false, cachedReplay_ok] at h
  obtain ⟨replay, hrep, predecessor, hpredecessor, sh, hhash, ⟨⟨⟨-, hvalid⟩, -⟩, -⟩, bytes, rfl, rfl⟩ := h
  exact .epoch t hrep rfl (startupRelation_agrees hpredecessor hvalid) hhash

abbrev JsonlObservationLedger.Steps {α : Type} (ledger : JsonlObservationLedger) (entropy : Option (Vector UInt8 32))
    (io : Io) (outcome : α × JsonlObservationLedger) : Prop :=
  WriterStep ledger.toLedgerLog entropy io outcome.2.toLedgerLog

variable {startup : AuthorityTenureStartupEvidenceV1} {t now time commitTime effectTime : SystemTime}
  {random : Except String (Vector UInt8 32)} {request : AuthorityMutationRequestV1} {projection : Projection}
  {typedPath : Bool} {mid route : String} {cmd : GuardianRecoveryCommandV1} {clock : WriterClock}

theorem beginAuthorityTenureWithStartup_step :
    ledger.Steps random.toOption io (ledger.beginAuthorityTenureWithStartup startup t random io) := by
  unfold beginAuthorityTenureWithStartup
  split
  · exact .quiet
  · cases hadm : ledger.admitTenure startup t random with
    | error err => exact .quiet
    | ok fact =>
      have hstep : ledger.Steps random.toOption io (ledger.commitFact (fact.observation t.1) t.1.value io) :=
        .fact (admitTenure_admitted hadm)
      simp only
      split
      · rename_i hcommits
        rwa [hcommits] at hstep
      · rename_i hcommits
        rwa [hcommits] at hstep

theorem beginAuthorityTenure_step : ledger.Steps random.toOption io (ledger.beginAuthorityTenure t random io) := by
  unfold beginAuthorityTenure
  split
  · exact .quiet
  · split
    · exact .quiet
    · exact beginAuthorityTenureWithStartup_step

theorem admitMutation_new {request : AuthorityMutationRequestV1} {typedPath : Bool} {fact : AuthorityMutationFactV1}
    {resulting : AuthorityStateV1} {observedAt : Timestamp}
    (h : ledger.admitMutation request typedPath = .ok (.new fact resulting observedAt)) :
    ∃ replay prior intentHash priorHash resultingHash, ledger.authorityReplay = .ok replay ∧
      MutationAdmitted ledger.identity replay request prior resulting intentHash priorHash resultingHash ∧
      fact = mutationFactOf ledger.identity prior request intentHash priorHash resultingHash := by
  simp only [admitMutation, bind_ok, exists_unit, deny_ok, mapErr_ok, cachedReplay_ok] at h
  obtain ⟨-, -, -, intentHash, hintent, replay, hrep, -, h⟩ := h
  split at h
  · simp only [bind_ok, exists_unit, pure_ok, reduceCtorEq, and_false] at h
  · rename_i hfresh
    simp only [admitNewMutation, bind_ok, exists_unit, okOr_ok, mapErr_ok, pure_ok,
      MutationAdmission.new.injEq, checkedAdd_some] at h
    obtain ⟨prior, hprior, hissued, hguardian, hsigned, resulting', happ, priorHash, hpriorH, resultingHash,
      hresultingHash, _, ⟨hgen, -⟩, _, -, rfl, rfl, -⟩ := h
    refine ⟨replay, prior, intentHash, priorHash, resultingHash, hrep, ⟨hprior, hintent, ?_, hissued, hguardian,
      hsigned, happ, hpriorH, hresultingHash, hgen⟩, rfl⟩
    rw [Std.ExtTreeMap.contains_eq_isSome_getElem?, hfresh]
    rfl

theorem executeAuthorityMutationValidated_step :
    ledger.Steps none io (ledger.executeAuthorityMutationValidated request projection typedPath io) := by
  unfold executeAuthorityMutationValidated
  cases hadm : ledger.admitMutation request typedPath with
  | error reason => exact .quiet
  | ok admission =>
    cases admission with
    | existing committed state => exact .quiet
    | new fact resulting observedAt =>
      have hfact : FactAdmitted ledger.toLedgerLog none (fact.observation observedAt) fact.decidedAt := by
        obtain ⟨replay, prior, _, _, _, hrep, hadmit, rfl⟩ := admitMutation_new hadm
        exact .mutation observedAt hrep hadmit
      have hstep : ledger.Steps none io (ledger.commitFact (fact.observation observedAt) fact.decidedAt io) := .fact hfact
      simp only
      split
      · rename_i hcommits
        rwa [hcommits] at hstep
      · rename_i hcommits
        rwa [hcommits] at hstep

theorem executeAuthorityMutationInner_step :
    ledger.Steps none io (ledger.executeAuthorityMutationInner request projection typedPath io) := by
  unfold executeAuthorityMutationInner
  split
  · exact .quiet
  · exact executeAuthorityMutationValidated_step

theorem executePairingTicketAdmission_step {authenticatedPeer : EndpointIdText} {motherNow : Timestamp} :
    ledger.Steps none io (ledger.executePairingTicketAdmission request authenticatedPeer motherNow projection io) := by
  unfold executePairingTicketAdmission
  split
  · exact executeAuthorityMutationValidated_step
  · exact .quiet

theorem admitImport_ok {req : LegacyAuthorityImportRequestV1} {principalRef decidedAt : String}
    {imported : AuthorityStateV1} {fact : LegacyAuthorityImportFactV1} {observedAt : Timestamp}
    (h : ledger.admitImport req principalRef imported decidedAt = .ok (fact, observedAt)) :
    FactAdmitted ledger.toLedgerLog none (fact.observation observedAt) decidedAt := by
  simp only [admitImport, bind_ok, exists_unit, deny_ok, mapErr_ok, okOr_ok, pure_ok,
    cachedReplay_ok, Prod.mk.injEq, checkedAdd_some, Bool.or_eq_false_iff, decide_eq_false_iff_not, not_not,
    Bool.not_eq_eq_eq_not, Bool.not_false] at h
  obtain ⟨-, ⟨-, hcon⟩, time, -, replay, hrep, honce, hunmanaged, prior, hprior, ⟨himp, huntyped⟩, importedHash,
    himported, hsnapshot, priorHash, hpriorH, _, ⟨hgen, -⟩, rfl, rfl⟩ := h
  exact .import time hrep ⟨hprior, hcon, honce, hunmanaged, huntyped, himp, himported,
    hsnapshot.symm, hpriorH, hgen⟩

theorem executeLegacyAuthorityImport_step {req : LegacyAuthorityImportRequestV1} {principalRef decidedAt : String}
    {imported : AuthorityStateV1} :
    ledger.Steps none io (ledger.executeLegacyAuthorityImport req principalRef imported decidedAt io) := by
  unfold executeLegacyAuthorityImport
  cases hadm : ledger.admitImport req principalRef imported decidedAt with
  | error reason => exact .quiet
  | ok admission =>
    obtain ⟨fact, t⟩ := admission
    have hstep : ledger.Steps none io (ledger.commitFact (fact.observation t) decidedAt io) := .fact (admitImport_ok hadm)
    simp only
    split
    · rename_i hcommits
      rwa [hcommits] at hstep
    · rename_i hcommits
      rwa [hcommits] at hstep

theorem offsetWait_log (ledger : JsonlObservationLedger) (act : Recovery.GuardianRecoveryActionV1)
    (clock : WriterClock) : (ledger.offsetWait act clock).toLedgerLog = ledger.toLedgerLog := by
  unfold offsetWait
  split
  · rfl
  · split
    · rfl
    · rfl

theorem executeGuardianRecoveryWithClock_step :
    ledger.Steps none io (ledger.executeGuardianRecoveryWithClock mid cmd clock io) := by
  unfold executeGuardianRecoveryWithClock
  split
  · exact .quiet
  · split
    · exact .quiet
    · rename_i stamped _
      have hstep : ledger.Steps none io (ledger.executeAuthorityMutationInner
          (recoveryRequest mid cmd stamped) noProjection true io) := executeAuthorityMutationInner_step
      simp only
      split
      · rw [JsonlObservationLedger.Steps, offsetWait_log]
        exact hstep
      · exact hstep

theorem executeGuardianRecovery_step : ledger.Steps none io (ledger.executeGuardianRecovery mid cmd clock io) := by
  unfold executeGuardianRecovery
  split
  · exact .quiet
  · exact executeGuardianRecoveryWithClock_step

theorem issueGuardianRecoveryChallenge_step {expectedState : RecoveryDigestV1} :
    ledger.Steps none io (ledger.issueGuardianRecoveryChallenge mid expectedState random clock io) := by
  unfold issueGuardianRecoveryChallenge
  split
  · exact .quiet
  · exact .quiet
  · exact executeGuardianRecoveryWithClock_step

theorem executeAdminKeyIssuance_step {req : AdminKeyIssueRequestV1} :
    ledger.Steps none io (ledger.executeAdminKeyIssuance req now io) := by
  unfold executeAdminKeyIssuance
  split
  · exact .quiet
  · exact executeAuthorityMutationInner_step

theorem admitGenesis_birth {setup : AdminGenesisSetupV1} {req : AdminGenesisRequestV1} {now : Timestamp}
    {fact : AdminGenesisFactV1} (h : ledger.admitGenesis setup req now = .ok (.birth fact)) :
    FactAdmitted ledger.toLedgerLog none fact.observation fact.decidedAt.value := by
  simp only [admitGenesis, bind_ok, exists_unit, deny_ok, mapErr_ok, cachedReplay_ok,
    Bool.or_eq_false_iff, decide_eq_false_iff_not, not_not] at h
  obtain ⟨-, hvalid, ⟨⟨⟨⟨⟨⟨hmother, hledger⟩, hmother'⟩, hledger'⟩, -⟩, -⟩, -⟩, r, -, h⟩ := h
  split at h
  · simp only [bind_ok, exists_unit, pure_ok, reduceCtorEq, and_false] at h
  · simp only [bind_ok, exists_unit, deny_ok, pure_ok, GenesisAdmission.birth.injEq, Bool.or_eq_false_iff,
      bne_eq_false_iff_eq] at h
    obtain ⟨⟨⟨⟨⟨⟨-, hempty⟩, -⟩, -⟩, -⟩, -⟩, rfl⟩ := h
    exact .genesis ⟨hvalid, hmother'.trans hmother.symm, hledger'.trans hledger.symm⟩ hempty

theorem executeAdminGenesis_step {setup : AdminGenesisSetupV1} {req : AdminGenesisRequestV1} :
    ledger.Steps none io (ledger.executeAdminGenesis setup req now io) := by
  unfold executeAdminGenesis
  cases hadm : ledger.admitGenesis setup req now.1 with
  | error err => exact .quiet
  | ok admission =>
    cases admission with
    | receipt => exact .quiet
    | birth fact => exact .fact (admitGenesis_birth hadm)

/-- **A passkey fact that is appended was admitted**; a birth also needs the empty ledger. -/
theorem admitPasskey_ok {req : PasskeyAdminRequestV1} {time : Timestamp} {observation : MctObservation}
    (h : ledger.admitPasskey req time = .ok observation) :
    ∃ r next, ledger.authorityReplay = .ok r ∧ ledger.isPoisoned = false ∧
      req.intent.motherNodeId = ledger.motherNodeId ∧ req.intent.ledgerId = ledger.ledgerId ∧
      passkeyTransition r ⟨req, time⟩ = .ok next ∧
      PasskeyAdminFactV1.observation ⟨req, time⟩ = .ok observation := by
  simp only [admitPasskey, bind_ok, exists_unit, deny_ok, mapErr_ok, cachedReplay_ok,
    Bool.or_eq_false_iff, decide_eq_false_iff_not, not_not] at h
  obtain ⟨⟨⟨hready, hmother⟩, hledger⟩, r, hrep, next, hnext, _, -, hobs⟩ := h
  exact ⟨r, next, hrep, hready, hmother, hledger, hnext, hobs⟩

variable {req : PasskeyAdminRequestV1}

theorem commitPasskeyAt_step (hbirth : ∀ r, ledger.authorityReplay = .ok r → r.state.passkeyAdmin = none →
      req.intent.action.bootstrapInventory.isSome = true → ledger.nextSequence = 0) :
    ledger.Steps none io (ledger.commitPasskeyAt req time io) := by
  unfold commitPasskeyAt
  cases hadm : ledger.admitPasskey req time.1 with
  | error err => exact .quiet
  | ok obs =>
    obtain ⟨r, next, hrep, -, hmother, hledger, hnext, hobs⟩ := admitPasskey_ok hadm
    refine .fact (FactAdmitted.passkey hrep hmother hledger hnext hobs ?_)
    intro hnone
    refine hbirth r hrep hnone ?_
    simp only [passkeyTransition, hnone, passkeyOrigin, bind_ok, okOr_ok] at hnext
    obtain ⟨inventory, hinv, -⟩ := hnext
    exact Option.isSome_iff_exists.mpr ⟨inventory, hinv⟩

theorem executePasskeyGenesis_step {setup : PasskeyGenesisSetupV1} :
    ledger.Steps none io (ledger.executePasskeyGenesis setup req time io) := by
  unfold executePasskeyGenesis
  cases hadm : ledger.admitPasskeyGenesis setup req with
  | error error => exact .quiet
  | ok admission =>
    cases admission with
    | receipt => exact .quiet
    | birth _ =>
      refine commitPasskeyAt_step fun r hrep hnone _ => ?_
      simp only [admitPasskeyGenesis, bind_ok, exists_unit, deny_ok, cachedReplay_ok] at hadm
      obtain ⟨-, -, r', hrep', hadm⟩ := hadm
      cases hrep.symm.trans hrep'
      simp only [hnone, bind_ok, exists_unit, deny_ok, Bool.or_eq_false_iff, bne_eq_false_iff_eq] at hadm
      exact hadm.1.1.1.2

theorem executePasskeyAdmin_step : ledger.Steps none io (ledger.executePasskeyAdmin req time io) := by
  unfold executePasskeyAdmin
  split
  · rename_i hmanages
    refine commitPasskeyAt_step fun _ _ _ hboot => ?_
    cases hact : req.intent.action <;>
      simp [hact, managesDayKeys, PasskeyAdminActionV1.bootstrapInventory] at hmanages hboot
  · exact .quiet

theorem admitPasskeyCommand_step {scope : AdminKeyScopeV1} :
    ledger.Steps none io (ledger.admitPasskeyCommand req route scope commitTime effectTime io) := by
  unfold admitPasskeyCommand
  split
  · rename_i hact
    have hstep : ledger.Steps none io (ledger.commitPasskeyAt req commitTime io) := by
      refine commitPasskeyAt_step fun _ _ _ hboot => ?_
      rw [hact] at hboot
      cases hboot
    split
    · exact .quiet
    · split
      · rename_i hcommits
        rwa [hcommits] at hstep
      · rename_i hcommits
        rw [hcommits] at hstep
        split
        · exact hstep
        · exact hstep
  · exact .quiet

def WriterOp.entropy : WriterOp → Option (Vector UInt8 32)
  | .beginAuthorityTenure _ entropy => entropy.toOption
  | .beginAuthorityTenureWithStartup _ _ entropy => entropy.toOption
  | _ => none

theorem WriterOp.step (op : WriterOp) (ledger : JsonlObservationLedger) (io : Io) :
    WriterStep ledger.toLedgerLog op.entropy io (ledger.run io op).2.toLedgerLog := by
  cases op with
  | append obs appendedAt dc ex => exact .append _ _ _ _
  | appendDurableBatch obss appendedAt dc ex => exact .batch _ _ _ _
  | appendBatchBeforeEffect obss appendedAt => exact .each _ _
  | beginAuthorityTenure startedAt entropy => exact beginAuthorityTenure_step
  | beginAuthorityTenureWithStartup startup startedAt entropy => exact beginAuthorityTenureWithStartup_step
  | executeAuthorityMutation req projection => exact executeAuthorityMutationInner_step
  | executePairingTicketAdmission req peer now projection => exact executePairingTicketAdmission_step
  | executeLegacyAuthorityImport req pr imported t => exact executeLegacyAuthorityImport_step
  | executeGuardianRecovery mid cmd clock => exact executeGuardianRecovery_step
  | activateGuardianPolicy mid expectedState clock => exact executeGuardianRecoveryWithClock_step
  | rebaseGuardianRecoveryClock mid expectedState clock => exact executeGuardianRecoveryWithClock_step
  | expireGuardianRecovery mid expectedState clock => exact executeGuardianRecoveryWithClock_step
  | issueGuardianRecoveryChallenge mid expectedState random clock => exact issueGuardianRecoveryChallenge_step
  | executeAdminKeyIssuance req now => exact executeAdminKeyIssuance_step
  | executeAdminGenesis setup req now => exact executeAdminGenesis_step
  | executePasskeyGenesis setup req time => exact executePasskeyGenesis_step
  | executePasskeyAdmin req time => exact executePasskeyAdmin_step
  | executePasskeyCommand req route scope commitTime effectTime => exact admitPasskeyCommand_step

end Mct
