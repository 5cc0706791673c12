import PatinaMct.Chain
/-!
# WrittenFacts — the facts that the writer builds are the facts that replay accepts

Writer and replay check a fact with different code.  This module has the facts as the writer builds them from a cached
replay (`mutationFactOf`, `importFactOf`, `epochFactOf`), the conditions under which it does so (`MutationAdmitted`,
`ImportAdmitted`, `EpochAdmitted`), and the simulation: an entry that carries such a fact folds into the replay that
the writer expects.
-/
namespace Mct

open Checked
open Recovery (TextSet)

variable [LedgerHost]

/-! ## Entries -/

def sealedEntry (id : LedgerIdentity) (sequence : Nat) (previous : Option String) (observation : MctObservation)
    (appendedAt : String) (durabilityClass : DurabilityClass) (exportStatus : ExportStatus) :
    MctObservationLedgerEntry :=
  let entry : MctObservationLedgerEntry :=
    ⟨id.ledgerId, id.motherNodeId, sequence, observation, previous, "", appendedAt, durabilityClass, exportStatus⟩
  { entry with entryHash := entryHash entry }

variable {id : LedgerIdentity} {seq : Nat} {prev : Option String} {obs : MctObservation}
  {appendedAt : String} {ex : ExportStatus}

theorem sealedEntry_follows {dc : DurabilityClass} :
    follows id seq prev
      (sealedEntry id seq prev obs appendedAt dc ex) = true :=
  follows_iff.mpr ⟨rfl, ⟨rfl, rfl⟩, rfl, rfl⟩

/-- The entry belongs to this ledger and precedes its effect, as every canonical fact does. -/
structure CanonicalCarrier (id : LedgerIdentity) (entry : MctObservationLedgerEntry) : Prop where
  ledger : entry.ledgerId = id.ledgerId
  mother : entry.motherNodeId = id.motherNodeId
  durability : entry.durabilityClass = .beforeEffect

theorem sealedEntry_carrier :
    CanonicalCarrier id (sealedEntry id seq prev obs appendedAt .beforeEffect ex) :=
  ⟨rfl, rfl, rfl⟩

omit [LedgerHost] in
theorem CanonicalCarrier.operatorAction {e : MctObservationLedgerEntry}
    (hentry : CanonicalCarrier id e) {idTag traceTag name : String} {hid : trimmedEmpty idTag = false}
    {htrace : trimmedEmpty traceTag = false} {t : Timestamp} {plane : SourcePlane} {generation : Nat}
    {safeMessage detail : String}
    (hobs : e.observation = operatorActionObservation idTag traceTag name hid htrace t plane
      id.motherNodeId id.ledgerId generation safeMessage detail) :
    operatorCarrierMismatch e plane generation = false := by
  refine operatorCarrierMismatch_false.mpr ⟨?_, ?_, hentry.durability, ?_, ?_, ?_, ?_⟩
  · rw [hobs]
    rfl
  · rw [hobs]
    rfl
  · rw [hobs]
    rfl
  · rw [hobs, hentry.mother]
    rfl
  · rw [hobs, hentry.ledger]
    rfl
  · rw [hobs]
    rfl

/-! ## Mutations -/

def mutationFactOf (id : LedgerIdentity) (prior : GrantsAuthorityIdentityV1) (request : AuthorityMutationRequestV1)
    (intentHash priorHash resultingHash : String) : AuthorityMutationFactV1 where
  mutationId := request.mutationId
  mutationIntentHash := intentHash
  motherNodeId := id.motherNodeId
  ledgerId := id.ledgerId
  authorityEpoch := prior.authorityEpoch
  priorState := ⟨prior, priorHash⟩
  changes := request.changes
  grantShapingSources := request.grantShapingSources
  resultingState :=
    ⟨⟨id.motherNodeId, prior.authorityEpoch, prior.generation + 1, "obs:authority-mutation:" ++ request.mutationId⟩,
      resultingHash⟩
  decidedAt := request.decidedAt

/-- **What the writer has checked when it commits a new mutation.** -/
structure MutationAdmitted (id : LedgerIdentity) (replay : AuthorityReplayV1) (request : AuthorityMutationRequestV1)
    (prior : GrantsAuthorityIdentityV1) (resulting : AuthorityStateV1) (intentHash priorHash resultingHash : String) :
    Prop where
  current : replay.currentAuthority = some prior
  intent : authorityMutationIntentHash request = .ok intentHash
  fresh : replay.mutations.contains request.mutationId = false
  issuance : validateIssuanceContext replay.adminGrantIds request.changes prior id.ledgerId request.mutationId
    request.decidedAt = .ok ()
  guardian : validateGuardianContext replay.state request.changes prior id.ledgerId request.decidedAt = .ok ()
  signatures : verifyAdminChangeSignatures replay.state replay.adminSignatureNonces id.motherNodeId id.ledgerId
    request.changes = .ok ()
  applied : applyAuthorityChanges replay.state request.changes = .ok resulting
  hashesPrior : authorityStateHash replay.state = .ok priorHash
  hashesResulting : authorityStateHash resulting = .ok resultingHash
  generation : prior.generation + 1 < 2 ^ 64

variable {id : LedgerIdentity} {r : AuthorityReplayV1} {u : TextSet} {prev : Option (Nat × String)}
  {e : MctObservationLedgerEntry} {prior : GrantsAuthorityIdentityV1} {resulting : AuthorityStateV1}
  {intentHash priorHash rh : String} {req : AuthorityMutationRequestV1} {t : Timestamp}

theorem MutationAdmitted.replays (h : MutationAdmitted id r req prior resulting intentHash priorHash
    rh) (hentry : CanonicalCarrier id e)
    (hobs : e.observation =
      (mutationFactOf id prior req intentHash priorHash rh).observation t) :
    replayMutationFact r e (mutationFactOf id prior req intentHash priorHash rh) =
      .ok (r.afterMutation e (mutationFactOf id prior req intentHash priorHash rh)
        resulting) := by
  refine replayMutationFact_ok.mpr ⟨resulting, ?_, h.fresh, rfl⟩
  refine validateAuthorityMutationFact_ok.mpr ⟨prior, intentHash, priorHash, rh, h.current, h.intent,
    h.hashesPrior, h.signatures, ?_, ?_, h.applied, h.hashesResulting, h.generation, ?_, hentry.mother.symm,
    hentry.ledger.symm, rfl, rfl, rfl, ?_⟩
  · rw [hentry.ledger]
    exact h.issuance
  · rw [hentry.ledger]
    exact h.guardian
  · exact hentry.operatorAction hobs
  · rw [hobs, hentry.mother]
    rfl

variable (replay : AuthorityReplayV1) (entry : MctObservationLedgerEntry)

def AuthorityReplayV1.withMutation (fact : AuthorityMutationFactV1) (resulting : AuthorityStateV1) :
    AuthorityReplayV1 :=
  let envelope : CanonicalAuthorityEnvelopeV1 :=
    ⟨authorityFactSchema, FactKind.authorityMutation.text, fact.factId, LedgerHost.authorityMutation.encode fact⟩
  ((replay.afterMutation entry fact resulting).record entry envelope (LedgerHost.envelope.encode envelope)).note entry

/-- **Replay accepts the mutation that the writer commits.** -/
theorem MutationAdmitted.folds (serde : SerdeRoundTrip) (h : MutationAdmitted id r req prior resulting
    intentHash priorHash rh) (hentry : CanonicalCarrier id e)
    (hobs : e.observation =
      (mutationFactOf id prior req intentHash priorHash rh).observation t) :
    foldAuthorityEntry r u prev e =
      .ok (r.withMutation e (mutationFactOf id prior req intentHash priorHash rh) resulting,
        u) := by
  have hfold : foldFact r u prev e FactKind.authorityMutation.text
      (LedgerHost.authorityMutation.encode (mutationFactOf id prior req intentHash priorHash rh)) =
        .ok (r.afterMutation e (mutationFactOf id prior req intentHash priorHash rh) resulting,
          u) := by
    rw [foldFact_mutation serde, h.replays hentry hobs]
    rfl
  refine foldAuthorityEntry_fact serde ?_ ?_ hfold
  · rw [hobs]
    rfl
  · rw [hobs]
    rfl

/-! ## The legacy import -/

structure LegacyAuthorityImportRequestV1 where
  schema : String
  importId : String
  expectedMotherNodeId : String
  expectedLedgerId : String
  expectedConfigAuthorityHash : String
  expectedSqliteAuthorityHash : String
  confirmation : String
  deriving DecidableEq, Repr

def importFactOf (id : LedgerIdentity) (prior : GrantsAuthorityIdentityV1) (request : LegacyAuthorityImportRequestV1)
    (principalRef : String) (imported : AuthorityStateV1) (decidedAt priorHash importedHash : String) :
    LegacyAuthorityImportFactV1 where
  importId := request.importId
  motherNodeId := id.motherNodeId
  ledgerId := id.ledgerId
  authorityEpoch := prior.authorityEpoch
  operatorDecision := ⟨"decision:" ++ request.importId, principalRef, request.confirmation, decidedAt⟩
  sourceEvidence := ⟨request.expectedConfigAuthorityHash, request.expectedSqliteAuthorityHash⟩
  importedState := imported
  priorState := ⟨prior, priorHash⟩
  resultingState :=
    ⟨⟨id.motherNodeId, prior.authorityEpoch, prior.generation + 1, "obs:legacy-authority-import:" ++ request.importId⟩,
      importedHash⟩

structure ImportAdmitted (replay : AuthorityReplayV1) (request : LegacyAuthorityImportRequestV1)
    (prior : GrantsAuthorityIdentityV1) (imported : AuthorityStateV1) (priorHash importedHash : String) : Prop where
  current : replay.currentAuthority = some prior
  confirmed : request.confirmation = legacyAuthorityImportConfirmation
  once : replay.imported = false
  unmutated : replay.mutations.isEmpty = true
  untyped : replay.state.typedAuthority = false
  importsUntyped : imported.typedAuthority = false
  hashesImported : authorityStateHash imported = .ok importedHash
  snapshot : request.expectedSqliteAuthorityHash = importedHash
  hashesPrior : authorityStateHash replay.state = .ok priorHash
  generation : prior.generation + 1 < 2 ^ 64

theorem authorityStateHash_watch {s : AuthorityStateV1} {hash : String} (h : authorityStateHash s = .ok hash) :
    validateWatchScopeState s = .ok () := by
  simp only [authorityStateHash, bind_ok, exists_unit, mapErr_ok] at h
  exact h.1

def AuthorityReplayV1.withImport (fact : LegacyAuthorityImportFactV1) : AuthorityReplayV1 :=
  let envelope : CanonicalAuthorityEnvelopeV1 :=
    ⟨authorityFactSchema, FactKind.legacyAuthorityImport.text, fact.factId,
      LedgerHost.legacyAuthorityImport.encode fact⟩
  ((replay.afterImport entry fact).record entry envelope (LedgerHost.envelope.encode envelope)).note entry

variable {imported : AuthorityStateV1} {importedHash pr decidedAt : String}

theorem ImportAdmitted.replays {req : LegacyAuthorityImportRequestV1}
    (h : ImportAdmitted r req prior imported priorHash importedHash) (hentry : CanonicalCarrier id e)
    (hobs : e.observation =
      (importFactOf id prior req pr imported decidedAt priorHash importedHash).observation t) :
    replayImportFact r e (importFactOf id prior req pr imported decidedAt priorHash importedHash) =
      .ok (r.afterImport e
        (importFactOf id prior req pr imported decidedAt priorHash importedHash)) := by
  refine replayImportFact_ok.mpr ⟨?_, h.once, h.unmutated, rfl⟩
  refine validateLegacyImportFact_ok.mpr ⟨prior, priorHash, importedHash, h.untyped, h.importsUntyped, h.current,
    h.hashesPrior, authorityStateHash_watch h.hashesImported, h.hashesImported, h.generation, ?_, hentry.mother.symm,
    hentry.ledger.symm, rfl, h.confirmed, rfl, ?_, h.snapshot⟩
  · exact hentry.operatorAction hobs
  · rw [hobs, hentry.mother]
    rfl

theorem ImportAdmitted.folds (serde : SerdeRoundTrip) {req : LegacyAuthorityImportRequestV1}
    (h : ImportAdmitted r req prior imported priorHash importedHash) (hentry : CanonicalCarrier id e)
    (hobs : e.observation =
      (importFactOf id prior req pr imported decidedAt priorHash importedHash).observation t) :
    foldAuthorityEntry r u prev e =
      .ok (r.withImport e
        (importFactOf id prior req pr imported decidedAt priorHash importedHash), u) := by
  have hfold : foldFact r u prev e FactKind.legacyAuthorityImport.text
      (LedgerHost.legacyAuthorityImport.encode
        (importFactOf id prior req pr imported decidedAt priorHash importedHash)) =
      .ok (r.afterImport e
        (importFactOf id prior req pr imported decidedAt priorHash importedHash), u) := by
    rw [foldFact_import serde, h.replays hentry hobs]
    rfl
  refine foldAuthorityEntry_fact serde ?_ ?_ hfold
  · rw [hobs]
    rfl
  · rw [hobs]
    rfl

/-! ## Epochs -/

def epochFactOf (id : LedgerIdentity) (replay : AuthorityReplayV1) (startup : AuthorityTenureStartupEvidenceV1)
    (epoch startedAt stateHash : String) : EpochEstablishedFactV1 where
  motherNodeId := id.motherNodeId
  ledgerId := id.ledgerId
  authorityEpoch := epoch
  predecessor := startup.expectedPredecessor
  generationBaseline := replay.generation
  priorAuthority := replay.currentAuthority
  resultingAuthority := ⟨id.motherNodeId, epoch, replay.generation, "obs:authority-epoch:" ++ epoch⟩
  grantStateHash := stateHash
  establishment :=
    ⟨startedAt, startup.startupClass, startup.operatorGateDecisionId, startup.authenticatedPrincipalRef⟩

/-- **What the writer has checked when it starts a tenure**; the epoch is fresh. -/
structure EpochAdmitted (id : LedgerIdentity) (previous : Option (Nat × String)) (replay : AuthorityReplayV1)
    (usedEpochs : TextSet) (startup : AuthorityTenureStartupEvidenceV1) (epoch startedAt stateHash : String) :
    Prop where
  startup : epochStartupRelation previous replay (epochFactOf id replay startup epoch startedAt stateHash) = true
  hashes : authorityStateHash replay.state = .ok stateHash
  fresh : usedEpochs.contains epoch = false
  starts : startsWith epoch authorityEpochStart = true
  size : epoch.utf8ByteSize = authorityEpochStart.utf8ByteSize + 64
  parsed : (Timestamp.new startedAt).isOk = true

def AuthorityReplayV1.withEpoch (fact : EpochEstablishedFactV1) : AuthorityReplayV1 :=
  let envelope : CanonicalAuthorityEnvelopeV1 :=
    ⟨authorityFactSchema, FactKind.epochEstablished.text, fact.factId, LedgerHost.epochEstablished.encode fact⟩
  ((replay.afterEpoch fact).record entry envelope (LedgerHost.envelope.encode envelope)).note entry

theorem EpochAdmitted.folds (serde : SerdeRoundTrip) {startup : AuthorityTenureStartupEvidenceV1}
    {ep startedAt sh : String}
    (h : EpochAdmitted id prev r u startup ep startedAt sh)
    (hentry : CanonicalCarrier id e)
    (hobs : e.observation =
      (epochFactOf id r startup ep startedAt sh).observation t) :
    foldAuthorityEntry r u prev e =
      .ok (r.withEpoch e (epochFactOf id r startup ep startedAt sh),
        u.insert ep) := by
  have hvalid : validateEpochFact prev e r u
      (epochFactOf id r startup ep startedAt sh) = .ok () := by
    refine validateEpochFact_ok.mpr ⟨sh, h.hashes, ?_, ?_, hentry.durability, ?_, ?_, ?_, ?_,
      hentry.mother.symm, hentry.ledger.symm, h.startup, h.parsed, rfl, rfl, rfl, h.fresh, h.starts, h.size, ?_⟩
    · rw [hobs]
      rfl
    · rw [hobs]
      rfl
    · rw [hobs]
      rfl
    · rw [hobs, hentry.mother]
      rfl
    · rw [hobs, hentry.ledger]
      rfl
    · rw [hobs]
      rfl
    · rw [hobs, hentry.mother]
      rfl
  have hfold := (foldFact_epoch serde (epochFactOf id r startup ep startedAt sh)).trans
    (replayEpochFact_ok.mpr ⟨hvalid, rfl, rfl⟩)
  refine foldAuthorityEntry_fact serde ?_ ?_ hfold
  · rw [hobs]
    rfl
  · rw [hobs]
    rfl

/-! ## Strict genesis -/

/-- **What the writer has checked when it commits a strict genesis**, on a ledger without entries. -/
structure GenesisAdmitted (id : LedgerIdentity) (request : AdminGenesisRequestV1) : Prop where
  valid : request.validate = .ok ()
  mother : request.intent.motherNodeId = id.motherNodeId
  ledger : request.intent.ledgerId = id.ledgerId

def AuthorityReplayV1.withGenesis (fact : AdminGenesisFactV1) : AuthorityReplayV1 :=
  let envelope : CanonicalAuthorityEnvelopeV1 :=
    ⟨authorityFactSchema, FactKind.adminGenesis.text, fact.factId, LedgerHost.adminGenesis.encode fact⟩
  ((replay.afterGenesis fact).record entry envelope (LedgerHost.envelope.encode envelope)).note entry

theorem GenesisAdmitted.folds (serde : SerdeRoundTrip) {fact : AdminGenesisFactV1}
    (h : GenesisAdmitted id fact.request) :
    foldAuthorityEntry emptyAuthorityReplay ∅ none
        (sealedEntry id 0 none fact.observation fact.decidedAt.value .beforeEffect ex) =
      .ok (emptyAuthorityReplay.withGenesis
          (sealedEntry id 0 none fact.observation fact.decidedAt.value .beforeEffect ex) fact,
        (∅ : TextSet).insert fact.request.intent.birthEpoch) := by
  have hrep : replayGenesis emptyAuthorityReplay ∅ none
      (sealedEntry id 0 none fact.observation fact.decidedAt.value .beforeEffect ex) fact =
        .ok (emptyAuthorityReplay.afterGenesis fact, (∅ : TextSet).insert fact.request.intent.birthEpoch) := by
    refine replayGenesis_ok.mpr ⟨h.valid, rfl, rfl, rfl, rfl, rfl, rfl, rfl, h.mother.symm, h.ledger.symm, rfl, rfl,
      ?_, rfl, rfl⟩
    show (!(fact.observation == fact.observation)) = false
    rw [BEq.rfl, Bool.not_true]
  exact foldAuthorityEntry_fact serde rfl rfl ((foldFact_genesis serde fact).trans hrep)

end Mct
