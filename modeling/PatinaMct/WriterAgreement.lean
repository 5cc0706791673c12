import PatinaMct.TailRecovery
import PatinaMct.WriterSteps
/-!
# WriterAgreement — the writer and a fresh scan agree

A handle keeps in memory what a scan of its file would compute: the head, the counters of the prefix and the replay of
the authority facts.  The writer checks a fact with its own code before it appends it, and replay checks the stored fact
with other code; `FactAdmitted.folds` says that the second never refuses what the first has admitted.  From it one step
keeps the agreement (`LedgerLog.Synced.step`), and so does a run of any operations in which nothing fails.
-/
namespace Mct

open Checked
open Recovery (TextSet)

variable [LedgerHost]

/-! ## Agreement -/

/-- **What the handle keeps is what the scan computed.** -/
structure LedgerLog.Matches (log : LedgerLog) (state : LedgerScanState) : Prop where
  nextSequence : log.nextSequence = state.nextSequence
  previousHash : log.previousHash = state.previousHash
  prefixLen : log.prefixLen = state.committedLen
  prefixHasher : log.prefixHasher = state.prefixHasher
  lastFrameLen : log.lastFrameLen = state.lastFrameLen
  lastObservationId : log.lastObservationId = state.lastObservationId
  usedEpochs : log.usedEpochs = state.usedEpochs
  authorityReplay : log.authorityReplay = state.authorityReplay

/-- **A fresh scan of the file is ready and agrees with the handle**, and the cached replay is not an error. -/
structure LedgerLog.Synced (log : LedgerLog) (known : Option (Nat × String)) : Prop where
  scanned : ∃ state, scanExisting log.path log.identity known log.file = .ok (.ready state) ∧ log.Matches state
  replayed : ∃ replay, log.authorityReplay = .ok replay

variable {log : LedgerLog} {known : Option (Nat × String)} {entry : MctObservationLedgerEntry}
  {entries : List MctObservationLedgerEntry}

theorem LedgerLog.Synced.empty (h : log.Synced known) (hzero : log.nextSequence = 0) : log.Matches emptyScanState := by
  obtain ⟨s, hscan, hmatch⟩ := h.scanned
  rw [hmatch.nextSequence] at hzero
  rwa [scanExisting_empty hscan hzero] at hmatch

theorem LedgerLog.Synced.headed (h : log.Synced known) : log.Headed := fun hzero => (h.empty hzero).previousHash

/-- **An entry that follows and folds keeps the agreement.** -/
theorem LedgerLog.Synced.commit (serde : SerdeRoundTrip) (h : log.Synced known)
    (hfollows : follows log.identity log.nextSequence log.previousHash entry = true)
    (hfolds : ∀ r, log.authorityReplay = .ok r →
      ∃ next, foldAuthorityEntry r log.usedEpochs log.link entry = .ok next) :
    (log.commit entry).Synced known := by
  obtain ⟨⟨s, hscan, hm⟩, r, hreplay⟩ := h
  rw [hm.nextSequence, hm.previousHash] at hfollows
  refine ⟨⟨s.remember entry (frameOf entry), scanExisting_snoc serde hscan hfollows, ?_⟩, ?_⟩
  · have hfolded : foldCached log.authorityReplay log.usedEpochs log.link entry =
        foldCached s.authorityReplay s.usedEpochs (previousLink s.nextSequence s.previousHash) entry := by
      rw [LedgerLog.link, hm.authorityReplay, hm.usedEpochs, hm.nextSequence, hm.previousHash]
    exact {
      nextSequence := congrArg (· + 1) hm.nextSequence
      previousHash := rfl
      prefixLen := congrArg (· + (frameOf entry).length) hm.prefixLen
      prefixHasher := congrArg (· ++ frameOf entry) hm.prefixHasher
      lastFrameLen := rfl
      lastObservationId := rfl
      usedEpochs := congrArg Prod.snd hfolded
      authorityReplay := congrArg Prod.fst hfolded }
  · obtain ⟨next, hnext⟩ := hfolds r hreplay
    refine ⟨next.1, ?_⟩
    show (foldCached log.authorityReplay log.usedEpochs log.link entry).1 = _
    rw [hreplay, foldCached, hnext]

/-! ## Ordinary entries -/

omit [LedgerHost] in
/-- **An ordinary entry carries no fact**: its namespace is refused before it is appended. -/
theorem ordinary_payload (h : validateOrdinaryObservation entry.observation = .ok ()) : authorityPayload entry = none := by
  unfold authorityPayload
  cases hdetail : entry.observation.detailRef with
  | none => rfl
  | some detail =>
    have hplain : startsWith detail "mct-authority-" = false := by
      simp only [validateOrdinaryObservation, deny_ok, hdetail, Option.any_some, Bool.or_eq_false_iff] at h
      exact h.1
    have hunmarked : startsWith detail authorityFactDetailStart = false := by
      rw [← Bool.not_eq_true] at hplain ⊢
      intro hfact
      refine hplain ?_
      unfold startsWith at hfact ⊢
      rw [List.isPrefixOf_iff_prefix] at hfact ⊢
      exact List.IsPrefix.trans (by decide) hfact
    rw [Option.bind_some, stripStart, hunmarked]
    rfl

theorem folds_of_no_payload (h : authorityPayload entry = none) (r : AuthorityReplayV1) (u : TextSet)
    (prev : Option (Nat × String)) :
    foldAuthorityEntry r u prev entry = .ok (r.note entry, u) := by
  refine foldAuthorityEntry_ok.mpr ⟨r, ?_, rfl⟩
  rw [foldAuthorityEntryBody, h]

theorem LedgerLog.Synced.commitOrdinary (serde : SerdeRoundTrip) (h : log.Synced known) (hextends : log.Extends entries)
    (hord : ∀ entry ∈ entries, validateOrdinaryObservation entry.observation = .ok ()) :
    (log.commitAll entries).Synced known := by
  induction entries generalizing log with
  | nil => exact h
  | cons entry entries ih =>
    rw [List.forall_mem_cons] at hord
    have hstep : log.Extends ([entry] ++ entries) := hextends
    rw [extends_append] at hstep
    have hfollows : follows log.identity log.nextSequence log.previousHash entry = true := by
      have hone : (follows log.identity log.nextSequence log.previousHash entry && true) = true := hstep.1
      rwa [Bool.and_true] at hone
    refine ih (h.commit serde hfollows fun r _ => ?_) hstep.2 hord.2
    exact ⟨_, folds_of_no_payload (ordinary_payload hord.1) r log.usedEpochs log.link⟩

/-! ## Facts -/

omit [LedgerHost] in
theorem hexText_size (bs : List UInt8) : (hexText bs).utf8ByteSize = 2 * bs.length := by
  have hdigit : ∀ n < 16, (Nat.digitChar n).utf8Size = 1 := by decide
  unfold hexText
  induction bs with
  | nil => rfl
  | cons byte bs ih =>
    have hlow := hdigit (byte.toNat % 16) (Nat.mod_lt _ (by omega))
    have hhigh := hdigit (byte.toNat / 16) (by have := byte.toNat_lt; omega)
    rw [List.flatMap_cons, String.ofList_append, String.utf8ByteSize_append, ih, List.length_cons]
    simp [hlow, hhigh]
    omega

omit [LedgerHost] in
theorem freshAuthorityEpoch_size (random : Vector UInt8 32) :
    (freshAuthorityEpoch random).utf8ByteSize = authorityEpochStart.utf8ByteSize + 64 := by
  rw [freshAuthorityEpoch, String.utf8ByteSize_append, hexText_size, Vector.length_toList]

variable {replay : AuthorityReplayV1} {observation : MctObservation}

/-- **Replay accepts the passkey fact that the writer commits**, on the log it was admitted to. -/
theorem passkey_folds (serde : SerdeRoundTrip) (h : log.Synced known)
    {fact : PasskeyAdminFactV1} {next : PasskeyAdminCanonicalV1}
    (hmother : fact.request.intent.motherNodeId = log.motherNodeId)
    (hledger : fact.request.intent.ledgerId = log.ledgerId) (hnext : passkeyTransition replay fact = .ok next)
    (hobs : fact.observation = .ok observation)
    (hbirth : replay.state.passkeyAdmin = none → log.nextSequence = 0) :
    ∃ result, foldAuthorityEntry replay log.usedEpochs log.link
      (log.nextEntry observation fact.decidedAt.value .beforeEffect .notRequired) = .ok result := by
  set entry := log.nextEntry observation fact.decidedAt.value .beforeEffect .notRequired with hentry
  obtain ⟨identity, hidentity, hshape⟩ : ∃ identity, fact.identity = .ok identity ∧
      observation.detailRef =
        some (encodeAuthorityFact "passkey_admin" fact.id (LedgerHost.passkeyAdmin.encode fact)) ∧
      observation.observationId.value = fact.id := by
    simp only [PasskeyAdminFactV1.observation, bind_ok, pure_ok] at hobs
    obtain ⟨identity, hidentity, rfl⟩ := hobs
    exact ⟨identity, hidentity, rfl, rfl⟩
  -- a birth is the first frame because the writer has seen an empty log
  obtain ⟨epochs, hepochs⟩ : ∃ epochs, passkeyEpochs replay log.usedEpochs log.link entry fact = .ok epochs := by
    unfold passkeyEpochs
    cases hpasskey : replay.state.passkeyAdmin with
    | some prior => exact ⟨_, rfl⟩
    | none =>
      have hzero := hbirth hpasskey
      have hempty := h.empty hzero
      have hprev : log.previousHash = none := hempty.previousHash
      have hused : log.usedEpochs = ∅ := hempty.usedEpochs
      have hlink : log.link = none := by
        unfold LedgerLog.link previousLink
        rw [if_pos hzero]
      have hseq : entry.localSequence = 0 := hzero
      have hhash : entry.previousEntryHash = none := hprev
      refine ⟨log.usedEpochs.insert fact.request.intent.epoch, ?_⟩
      rw [hlink, hseq, hhash, hused]
      rfl
  have hrep : replayPasskeyFact replay log.usedEpochs log.link entry fact =
      .ok (replay.afterPasskey identity next, epochs) := by
    refine replayPasskeyFact_ok.mpr ⟨observation, next, identity, hmother.symm, hledger.symm, rfl, rfl, hobs, ?_,
      hepochs, hnext, hidentity, rfl⟩
    show (!(observation == observation)) = false
    rw [BEq.rfl, Bool.not_true]
  exact ⟨_, foldAuthorityEntry_fact serde hshape.1 hshape.2 ((foldFact_passkey serde fact).trans hrep)⟩

variable {random : Option (Vector UInt8 32)}

/-- **Replay accepts every fact that the writer commits.** -/
theorem FactAdmitted.folds (serde : SerdeRoundTrip) (h : log.Synced known)
    (hfresh : ∀ bytes, random = some bytes → log.usedEpochs.contains (freshAuthorityEpoch bytes) = false)
    {at_ : String} (hadm : FactAdmitted log random observation at_)
    (hreplay : log.authorityReplay = .ok replay) :
    ∃ result, foldAuthorityEntry replay log.usedEpochs log.link
      (log.nextEntry observation at_ .beforeEffect .notRequired) = .ok result := by
  cases hadm with
  | epoch t hcached hran hstartup hhash =>
    cases hreplay.symm.trans hcached
    have hpar : (Timestamp.new t.1.value).isOk = true := by
      rw [t.2]
      rfl
    exact ⟨_, EpochAdmitted.folds serde ⟨hstartup, hhash, hfresh _ hran, startsWith_append _ _,
      freshAuthorityEpoch_size _, hpar⟩ sealedEntry_carrier rfl⟩
  | mutation observedAt hcached hmutation =>
    cases hreplay.symm.trans hcached
    exact ⟨_, hmutation.folds serde sealedEntry_carrier rfl⟩
  | «import» observedAt hcached himp =>
    cases hreplay.symm.trans hcached
    exact ⟨_, himp.folds serde sealedEntry_carrier rfl⟩
  | genesis hgen hzero =>
    have hempty := h.empty hzero
    have hreplay' : replay = emptyAuthorityReplay := by
      have := hreplay.symm.trans hempty.authorityReplay
      cases this
      rfl
    have hlink : log.link = none := by
      unfold LedgerLog.link previousLink
      rw [if_pos hzero]
    rw [hreplay', hlink, hempty.usedEpochs, LedgerLog.nextEntry, hzero, hempty.previousHash]
    exact ⟨_, hgen.folds serde⟩
  | passkey hcached hmother hledger hnext hobs hbirth =>
    cases hreplay.symm.trans hcached
    exact passkey_folds serde h hmother hledger hnext hobs hbirth

/-! ## One step -/

variable {io : Io} {log' : LedgerLog}

theorem AppendOutcome.committed (hio : io.Succeeds) {res : Except ObservationLedgerError MctObservationLedgerEntry}
    (h : AppendOutcome log io entry res log') : log' = log ∨ log' = log.commit entry := by
  cases h with
  | refused _ => exact .inl rfl
  | acknowledged _ => exact .inr rfl
  | torn stage source kept _ hfails => exact absurd hio hfails

/-- **What ordinary appends do when nothing fails**: they commit ordinary entries that continue the chain. -/
def OrdinaryCommit (log log' : LedgerLog) : Prop :=
  ∃ entries, log' = log.commitAll entries ∧ log.Extends entries ∧
    ∀ entry ∈ entries, validateOrdinaryObservation entry.observation = .ok ()

theorem OrdinaryCommit.unchanged : OrdinaryCommit log log := ⟨[], rfl, rfl, by simp⟩

theorem append_ordinary (log : LedgerLog) (hio : io.Succeeds) (observation : MctObservation) (t : String)
    (dc : DurabilityClass) (ex : ExportStatus) (n : Nat) :
    OrdinaryCommit log (log.append observation t dc ex io n).2 := by
  unfold LedgerLog.append
  cases hord : validateOrdinaryObservation observation with
  | error err => exact .unchanged
  | ok _ =>
    rcases (appendCanonical_outcome log observation t dc ex io n).committed hio with h | h
    · rw [h]
      exact .unchanged
    · rw [h]
      exact ⟨[log.nextEntry observation t dc ex], rfl, log.extends_nextEntry _ _ _ _,
        List.forall_mem_singleton.mpr hord⟩

theorem appendEach_ordinary (log : LedgerLog) (hio : io.Succeeds) (t : String) (n : Nat)
    (acknowledged : List MctObservationLedgerEntry) (obss : List MctObservation) :
    OrdinaryCommit log (LedgerLog.appendEach t io log n acknowledged obss).2 := by
  induction obss generalizing log n acknowledged with
  | nil => exact .unchanged
  | cons observation obss ih =>
    have hone := append_ordinary log hio observation t .beforeEffect .notRequired n
    rw [LedgerLog.appendEach]
    unfold LedgerLog.appendBeforeEffect
    cases hr : log.append observation t .beforeEffect .notRequired io n with
    | mk res middle =>
      rw [hr] at hone
      cases res with
      | error err => exact hone
      | ok entry =>
        obtain ⟨first, rfl, hfirst, hplain⟩ := hone
        obtain ⟨rest, hrest, hextends, hplain'⟩ := ih (log.commitAll first) (n + 1) (acknowledged ++ [entry])
        refine ⟨first ++ rest, ?_, LedgerLog.extends_append.mpr ⟨hfirst, hextends⟩, ?_⟩
        · rw [LedgerLog.commitAll_append]
          exact hrest
        · exact List.forall_mem_append.mpr ⟨hplain, hplain'⟩

theorem appendDurableBatch_ordinary (hio : io.Succeeds) (hhead : log.Headed) (obss : List MctObservation)
    (t : String) (dc : DurabilityClass) (ex : ExportStatus) :
    OrdinaryCommit log (log.appendDurableBatch obss t dc ex io).2 := by
  have houtcome := appendDurableBatch_outcome log obss t dc ex io
  generalize log.appendDurableBatch obss t dc ex io = after at houtcome
  cases houtcome with
  | refused _ => exact .unchanged
  | torn _ _ _ hfails => exact absurd hio hfails
  | committed hmade _ h =>
    obtain ⟨hlinked, -, hord⟩ := prepareBatch_ok hmade
    exact ⟨_, h hhead, hlinked, List.forall_mem_map.mpr hord⟩

/-- **One step keeps the agreement**, when nothing fails and its epoch is new. -/
theorem LedgerLog.Synced.step (serde : SerdeRoundTrip) (h : log.Synced known) (hio : io.Succeeds)
    (hfresh : ∀ bytes, random = some bytes → log.usedEpochs.contains (freshAuthorityEpoch bytes) = false)
    (hstep : WriterStep log random io log') : log'.Synced known := by
  have hcommits : ∀ {log' : LedgerLog}, OrdinaryCommit log log' → log'.Synced known := by
    rintro _ ⟨entries, rfl, hextends, hord⟩
    exact h.commitOrdinary serde hextends hord
  cases hstep with
  | quiet => exact h
  | @fact observation at_ hadm =>
    rcases (appendCanonical_outcome log observation at_ .beforeEffect .notRequired io 0).committed hio with hsame | hnew
    · rw [LedgerLog.appendCanonicalBeforeEffect, hsame]
      exact h
    · rw [LedgerLog.appendCanonicalBeforeEffect, hnew]
      exact h.commit serde sealedEntry_follows fun replay hreplay => hadm.folds serde h hfresh hreplay
  | append observation appendedAt durabilityClass exportStatus => exact hcommits (append_ordinary log hio _ _ _ _ 0)
  | batch observations appendedAt durabilityClass exportStatus =>
    exact hcommits (appendDurableBatch_ordinary hio h.headed _ _ _ _)
  | each observations appendedAt => exact hcommits (appendEach_ordinary log hio _ 0 [] observations)

/-! ## Opening -/

variable {path : String} {id : LedgerIdentity} {status : LedgerRecoveryStatus} {crash : OpenCrash}
  {state state' : LedgerScanState} {disk disk' : LedgerDisk}

/-- **The entry of a recovery is the next link and carries no fact.** -/
theorem recoveryEntry_ok (h : recoveryEntry path id status state = .ok (some entry)) :
    follows id state.nextSequence state.previousHash entry = true ∧ authorityPayload entry = none := by
  simp only [recoveryEntry, bind_ok, mapErr_ok] at h
  obtain ⟨observationId, -, h⟩ := h
  split at h
  · simp only [pure_ok, reduceCtorEq] at h
  · simp only [bind_ok, mapErr_ok, pure_ok, Option.some.injEq] at h
    obtain ⟨t, -, rfl⟩ := h
    refine ⟨sealedEntry_follows, ?_⟩
    have hother : startsWith ("ledger-tail-recovery-v1:" ++ status.residueDigest) authorityFactDetailStart = false := by
      rw [startsWith, String.toList_append]
      rfl
    show stripStart ("ledger-tail-recovery-v1:" ++ status.residueDigest) authorityFactDetailStart = none
    rw [stripStart, hother]
    rfl

/-- The scan state is the one of a fresh scan of the disk, and its replay is not an error. -/
structure ScanState (path : String) (id : LedgerIdentity) (known : Option (Nat × String)) (state : LedgerScanState)
    (disk : LedgerDisk) : Prop where
  scanned : scanExisting path id known disk.ledger = .ok (.ready state)
  replayed : ∃ replay, state.authorityReplay = .ok replay

theorem ScanState.appendRecovery (serde : SerdeRoundTrip) (h : ScanState path id known state disk)
    (happ : appendRecoveryObservation path id status crash state disk = (.ok state', disk')) :
    ScanState path id known state' disk' := by
  unfold appendRecoveryObservation at happ
  cases hentry : recoveryEntry path id status state with
  | error err =>
    rw [hentry] at happ
    cases happ
  | ok item =>
    rw [hentry] at happ
    cases item with
    | none =>
      cases happ
      exact h
    | some entry =>
      obtain ⟨hfollows, hplain⟩ := recoveryEntry_ok hentry
      have hnew : ScanState path id known (state.remember entry (frameOf entry))
          { disk with ledger := disk.ledger ++ frameOf entry } := by
        obtain ⟨replay, hreplay⟩ := h.replayed
        refine ⟨scanExisting_snoc serde h.scanned hfollows, replay.note entry, ?_⟩
        simp only [LedgerScanState.remember, hreplay, foldCached, folds_of_no_payload hplain]
      cases crash with
      | tornObservation kept => cases happ
      | never =>
        cases happ
        exact hnew
      | after stage =>
        cases happ
        exact hnew

variable {record : String} {status' : LedgerRecoveryStatus}

theorem ScanState.complete (h : ScanState path id known state disk)
    (hcomp : completeRecord path status record crash state disk = (.ok (state', status'), disk')) :
    ScanState path id known state' disk' := by
  unfold completeRecord at hcomp
  simp only at hcomp
  split at hcomp
  · cases hcomp
  · cases hcomp
    exact ⟨h.scanned, h.replayed⟩

theorem ScanState.finish (serde : SerdeRoundTrip) (h : ScanState path id known state disk) {observes : Bool}
    (hfin : finishRecovery path id status record crash observes state disk = (.ok (state', status'), disk')) :
    ScanState path id known state' disk' := by
  unfold finishRecovery at hfin
  cases observes with
  | false => exact h.complete hfin
  | true =>
    simp only [if_true] at hfin
    cases happ : appendRecoveryObservation path id status crash state disk with
    | mk res middle =>
      rw [happ] at hfin
      cases res with
      | error err => cases hfin
      | ok next =>
        simp only at hfin
        split at hfin
        · cases hfin
        · exact (h.appendRecovery serde happ).complete hfin

variable {ledger : JsonlObservationLedger}

/-- **A handle opened on a ready file agrees with it**, also after the pending recovery that the open completes. -/
theorem openLedger_synced (serde : SerdeRoundTrip) {createdNew : Bool} {now : SystemTime}
    (h : ScanState path id known state disk)
    (hopen : openLedger path id createdNew known now crash disk = (.ok ledger, disk')) :
    ledger.toLedgerLog.Synced known := by
  have hhan : ∀ {state : LedgerScanState} {status : Option LedgerRecoveryStatus} {disk : LedgerDisk},
      ScanState path id known state disk → (openedHandle path id createdNew state status disk).toLedgerLog.Synced known :=
    fun hstate => ⟨⟨_, hstate.scanned, ⟨rfl, rfl, rfl, rfl, rfl, rfl, rfl, rfl⟩⟩, hstate.replayed⟩
  unfold openLedger completePendingRecovery at hopen
  rw [h.scanned] at hopen
  simp only at hopen
  cases hpend : (disk.pendingRecoveries path id).head? with
  | none =>
    rw [hpend] at hopen
    cases hopen
    exact hhan h
  | some item =>
    obtain ⟨name, status⟩ := item
    rw [hpend] at hopen
    simp only at hopen
    cases hfin : finishRecovery path id status (recordPath path name) crash
        (!state.recoveryObservationIds.contains status.recoveryDecisionId) state disk with
    | mk res middle =>
      rw [hfin] at hopen
      cases res with
      | error err => cases hopen
      | ok out =>
        obtain ⟨next, completed⟩ := out
        cases hopen
        exact hhan (h.finish serde hfin)

/-! ## Runs -/

def JsonlObservationLedger.runAll (ledger : JsonlObservationLedger) (calls : List (WriterOp × Io)) :
    JsonlObservationLedger :=
  calls.foldl (fun ledger call => (ledger.run call.2 call.1).2) ledger

/-- **Every epoch that a call draws is new** in the ledger it is drawn for. -/
def JsonlObservationLedger.DrawsFresh (ledger : JsonlObservationLedger) : List (WriterOp × Io) → Prop
  | [] => True
  | (op, io) :: calls =>
    (∀ bytes, op.entropy = some bytes → ledger.usedEpochs.contains (freshAuthorityEpoch bytes) = false) ∧
      (ledger.run io op).2.DrawsFresh calls

theorem JsonlObservationLedger.run_synced (serde : SerdeRoundTrip) (calls : List (WriterOp × Io))
    (h : ledger.toLedgerLog.Synced known) (hio : ∀ call ∈ calls, call.2.Succeeds)
    (hfresh : ledger.DrawsFresh calls) (front : List (WriterOp × Io)) (hfront : front <+: calls) :
    (ledger.runAll front).toLedgerLog.Synced known := by
  induction calls generalizing ledger front with
  | nil =>
    rw [List.prefix_nil.mp hfront]
    exact h
  | cons call calls ih =>
    obtain ⟨op, io⟩ := call
    rw [List.forall_mem_cons] at hio
    cases front with
    | nil => exact h
    | cons first front =>
      obtain ⟨rfl, hrest⟩ := List.cons_prefix_cons.mp hfront
      exact ih (h.step serde hio.1 hfresh.1 (op.step ledger io)) hio.2 hfresh.2 front hrest

theorem WriterStep.effect {entropy : Option (Vector UInt8 32)} (h : WriterStep log entropy io log')
    (hhead : log.Headed) : LogEffect log io log' := by
  cases h with
  | quiet => exact .unchanged
  | fact _ => exact appendCanonical_effect log _ _ _ _ io 0
  | append => exact append_effect log _ _ _ _ io 0
  | batch => exact appendDurableBatch_effect hhead _ _ _ _ io
  | each => exact appendEach_effect _ io log 0 [] _

theorem JsonlObservationLedger.run_effect (hhead : ledger.toLedgerLog.Headed) (calls : List (WriterOp × Io)) :
    ∃ io, LogEffect ledger.toLedgerLog io (ledger.runAll calls).toLedgerLog := by
  induction calls generalizing ledger with
  | nil => exact ⟨⟨fun _ => .written, fun _ => .synced⟩, .unchanged⟩
  | cons call calls ih =>
    have hfirst := (call.1.step ledger call.2).effect hhead
    obtain ⟨io, hrest⟩ := ih (hfirst.headed hhead)
    exact hfirst.trans hrest

/-- **What calls leave of the file**, whatever fails: the entries that the handle counts, and a part of what one
more operation wrote; then no further call changes the log. -/
structure FailureContained (ledger : JsonlObservationLedger) (calls more : List (WriterOp × Io)) : Prop where
  file : ∃ entries torn kept, ledger.Extends (entries ++ torn) ∧
    (ledger.runAll calls).nextSequence = ledger.nextSequence + entries.length ∧
    (ledger.runAll calls).file =
      ledger.file ++ (entries.map frameOf).flatten ++ (torn.map frameOf).flatten.take kept ∧
    (torn ≠ [] → (ledger.runAll calls).isPoisoned = true)
  last : (ledger.runAll calls).isPoisoned = true →
    (ledger.runAll (calls ++ more)).toLedgerLog = (ledger.runAll calls).toLedgerLog

theorem failed_write_contained (hhead : ledger.toLedgerLog.Headed) (calls more : List (WriterOp × Io)) :
    FailureContained ledger calls more := by
  obtain ⟨io, heff⟩ := JsonlObservationLedger.run_effect hhead calls
  constructor
  · generalize (ledger.runAll calls).toLedgerLog = after at heff
    cases heff with
    | commits entries _ hextends =>
      refine ⟨entries, [], 0, ?_, (LedgerLog.commitAll_head _ entries).1, ?_, fun h => absurd rfl h⟩
      · rwa [List.append_nil]
      · rw [LedgerLog.commitAll_file, List.take_zero, List.append_nil]
    | tears front entries kept _ _ hextends =>
      refine ⟨front, entries, kept, hextends, (LedgerLog.commitAll_head _ front).1, ?_, fun _ => rfl⟩
      rw [← LedgerLog.commitAll_file]
      rfl
  · intro hpoison
    obtain ⟨io', hmore⟩ := JsonlObservationLedger.run_effect (heff.headed hhead) more
    unfold JsonlObservationLedger.runAll
    rw [List.foldl_append]
    exact hmore.frozen hpoison

/-- **The writer and replay agree in every run.**  A handle opened on a ready file whose facts replay, and any calls in
which no write or sync fails: after each of them the cached replay is still good and all that the handle keeps is what a
fresh scan of the file computes. -/
theorem writer_agrees_with_scan (serde : SerdeRoundTrip) (path : String) (id : LedgerIdentity) (createdNew : Bool)
    (known : Option (Nat × String)) (now : SystemTime) (crash : OpenCrash) (disk disk' : LedgerDisk)
    (state : LedgerScanState) (replay : AuthorityReplayV1) (ledger : JsonlObservationLedger)
    (calls front : List (WriterOp × Io)) (hready : scanExisting path id known disk.ledger = .ok (.ready state))
    (hreplay : state.authorityReplay = .ok replay)
    (hopen : openLedger path id createdNew known now crash disk = (.ok ledger, disk'))
    (hio : ∀ call ∈ calls, call.2.Succeeds) (hfresh : ledger.DrawsFresh calls) (hfront : front <+: calls) :
    (ledger.runAll front).toLedgerLog.Synced known :=
  JsonlObservationLedger.run_synced serde calls (openLedger_synced serde ⟨hready, replay, hreplay⟩ hopen) hio hfresh front
    hfront

end Mct

namespace Mct.Sample

open Checked
open Recovery.Sample (second)

def start : SystemTime := ⟨second 0, rfl⟩

def steady : Io := ⟨fun _ => .written, fun _ => .synced⟩

def virgin : JsonlObservationLedger := openedHandle "p" ledgerIdentity true emptyScanState none ⟨[], ∅⟩

def begins : WriterOp × Io := (.beginAuthorityTenure start (.ok (Vector.replicate 32 0)), steady)

def firstCalls : List (WriterOp × Io) := [begins, (.executeAuthorityMutation request noProjection, steady)]

theorem virgin_stateHash : authorityStateHash emptyAuthorityReplay.state = .ok (stateHash .empty) :=
  hashes_checked empty_checked

theorem virgin_inferredStartup : virgin.inferredStartup = .ok virginStartup := by
  have hreplay : virgin.cachedReplay = .ok emptyAuthorityReplay := rfl
  have hpredecessor : virgin.actualPredecessor = .ok .noneForVirgin := rfl
  rw [JsonlObservationLedger.inferredStartup, hreplay, ok_bind, hpredecessor, ok_bind, virgin_stateHash]
  rfl

theorem virgin_admitTenure : virgin.admitTenure virginStartup start (.ok (Vector.replicate 32 0)) = .ok epochFact := by
  have hreplay : virgin.cachedReplay = .ok emptyAuthorityReplay := rfl
  have hpredecessor : virgin.actualPredecessor = .ok .noneForVirgin := rfl
  have hinv : trimmedEmpty virginStartup.inventoryHash = false := by decide
  have hvalid : virgin.startupRelationValid emptyAuthorityReplay .noneForVirgin virginStartup = true := by decide
  have hprior : virginStartup.expectedPriorAuthority = emptyAuthorityReplay.currentAuthority := rfl
  have hstate : virginStartup.expectedAuthorityStateHash = stateHash .empty := rfl
  rw [JsonlObservationLedger.admitTenure, hreplay, ok_bind, hpredecessor, ok_bind, virgin_stateHash, mapErr, ok_bind,
    hinv, hvalid, hprior, hstate]
  simp only [ne_eq, not_true_eq_false, decide_false, Bool.not_true, Bool.or_false, deny]
  rfl

theorem virgin_commitFact :
    virgin.commitFact (epochFact.observation start.1) start.1.value steady =
      (.ok epochEntry, { virgin with toLedgerLog := virgin.toLedgerLog.commit epochEntry }) := by
  rfl

theorem virgin_begins : (virgin.runAll [begins]).toLedgerLog = virgin.toLedgerLog.commit epochEntry := by
  have hnone : virgin.authorityTenure.isSome = false := rfl
  simp only [begins, JsonlObservationLedger.runAll, List.foldl_cons, List.foldl_nil, JsonlObservationLedger.run,
    Prod.map_snd, id_eq, JsonlObservationLedger.beginAuthorityTenure,
    JsonlObservationLedger.beginAuthorityTenureWithStartup, hnone, virgin_inferredStartup, virgin_admitTenure,
    virgin_commitFact, Bool.false_eq_true, if_false]

theorem writer_agrees_with_first_calls :
    (virgin.runAll (firstCalls.take 1)).file = frameOf epochEntry ∧
      (virgin.runAll (firstCalls.take 1)).toLedgerLog.Synced none ∧ (virgin.runAll firstCalls).toLedgerLog.Synced none := by
  have hopen : openLedger "p" ledgerIdentity true none start .never ⟨[], ∅⟩ = (.ok virgin, ⟨[], ∅⟩) := rfl
  have hio : ∀ call ∈ firstCalls, call.2.Succeeds := by
    simp only [firstCalls, List.forall_mem_cons]
    exact ⟨⟨fun _ => rfl, fun _ => rfl⟩, ⟨fun _ => rfl, fun _ => rfl⟩, by simp⟩
  have hfresh : virgin.DrawsFresh firstCalls := by
    refine ⟨fun bytes _ => rfl, fun bytes hbytes => ?_, trivial⟩
    cases hbytes
  have hagree := fun front hfront => writer_agrees_with_scan serde "p" ledgerIdentity true none start .never ⟨[], ∅⟩ ⟨[], ∅⟩
    emptyScanState emptyAuthorityReplay virgin firstCalls front rfl rfl hopen hio hfresh hfront
  refine ⟨?_, hagree _ (List.take_prefix 1 firstCalls), hagree _ List.prefix_rfl⟩
  rw [show firstCalls.take 1 = [begins] from rfl, virgin_begins]
  exact List.nil_append (frameOf epochEntry)

/-! A write that stops after one byte, and calls after it. -/

def fullDisk : Io := ⟨fun _ => .failed 1 "no space left on device", fun _ => .synced⟩

def health : MctObservation where
  observationId := ⟨"obs:disk-health", by decide⟩
  observedAt := second 1
  kind := .nodeHealthReported
  sourcePlane := .storage
  trace := .root ⟨"trace-disk-health", by decide⟩
  callId := none
  decisionId := none
  subjectId := none
  resourceId := none
  policyRevision := none
  grantsRevision := none
  outcome := .completed
  visibility := .nodeOperator
  safeMessage := "healthy"
  detailRef := none

def reports : WriterOp × Io := (.append health (second 1).value .beforeEffect .notRequired, fullDisk)

def tornCalls : List (WriterOp × Io) := [begins, reports]

theorem runAll_pair (ledger : JsonlObservationLedger) (first second : WriterOp × Io) :
    ledger.runAll [first, second] = ((ledger.runAll [first]).run second.2 second.1).2 := rfl

theorem append_torn {ledger : JsonlObservationLedger} (h : ledger.isPoisoned = false) :
    (ledger.run reports.2 reports.1).2.toLedgerLog =
      ledger.toLedgerLog.tear [ledger.toLedgerLog.nextEntry health (second 1).value .beforeEffect .notRequired] 1 := by
  have hordinary : validateOrdinaryObservation health = .ok () := rfl
  rw [LedgerLog.tear_single]
  simp only [reports, JsonlObservationLedger.run, JsonlObservationLedger.onLog, LedgerLog.append, hordinary,
    LedgerLog.appendCanonical, h, Bool.false_eq_true, if_false]
  rfl

theorem torn_calls_contained :
    virgin.toLedgerLog.Headed ∧ FailureContained virgin tornCalls firstCalls ∧
      (virgin.runAll tornCalls).isPoisoned = true ∧ (virgin.runAll tornCalls).nextSequence = 1 ∧
      (virgin.runAll (tornCalls ++ firstCalls)).file =
        frameOf epochEntry ++ (frameOf (nextEntry [epochEntry] health (second 1))).take 1 := by
  have hhead : virgin.toLedgerLog.Headed := fun _ => rfl
  have hcontained := failed_write_contained hhead tornCalls firstCalls
  have hbegun := virgin_begins
  have hlog : (virgin.runAll tornCalls).toLedgerLog = (virgin.toLedgerLog.commit epochEntry).tear
      [(virgin.toLedgerLog.commit epochEntry).nextEntry health (second 1).value .beforeEffect .notRequired] 1 := by
    have hready : (virgin.runAll [begins]).isPoisoned = false := by
      rw [hbegun]
      rfl
    rw [tornCalls, runAll_pair, append_torn hready, hbegun]
  have hpoisoned : (virgin.runAll tornCalls).isPoisoned = true := by
    rw [hlog]
    rfl
  refine ⟨hhead, hcontained, hpoisoned, ?_, ?_⟩
  · rw [hlog]
    rfl
  · rw [hcontained.last hpoisoned, hlog, LedgerLog.tear_single]
    rfl

end Mct.Sample
