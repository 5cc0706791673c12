import PatinaMct.AuthorityReplay
/-!
# AuthorityFold — the births, the fold over entries, and what one fold step does

The two facts that can begin a ledger's authority (strict genesis and passkey genesis), `foldAuthorityEntry` over all
five kinds, and `replayAuthorityEntries`.  The second half is the inversion of one step: `foldFact_cases` says, kind by
kind, what an accepted canonical fact was checked for and which replay it leaves, so that no later proof opens the
fold again.  `Replayed.induction` is the induction along an accepted ledger.
-/
namespace Mct

open Checked
open Recovery (TextSet)

variable [LedgerHost]

/-! ## Strict genesis -/

def AdminGenesisFactV1.factId (fact : AdminGenesisFactV1) : String :=
  "obs:admin-genesis:" ++ fact.request.intent.bootstrapId

def AdminGenesisFactV1.identity (fact : AdminGenesisFactV1) : GrantsAuthorityIdentityV1 :=
  ⟨fact.request.intent.motherNodeId, fact.request.intent.birthEpoch, 1, fact.factId⟩

def AdminGenesisFactV1.observation (fact : AdminGenesisFactV1) : MctObservation where
  observationId := .tagged _ "obs:admin-genesis:" fact.request.intent.bootstrapId (by decide)
  observedAt := fact.decidedAt
  kind := .operatorActionRecorded
  sourcePlane := .kernel
  trace := .root (.tagged _ "trace:admin-genesis:" fact.request.intent.bootstrapId (by decide))
  callId := none
  decisionId := none
  subjectId := some fact.request.intent.motherNodeId
  resourceId := some fact.request.intent.ledgerId
  policyRevision := none
  grantsRevision := some 1
  outcome := .allowed
  visibility := .nodeOperator
  safeMessage := "strict administrative genesis committed"
  detailRef := some (encodeAuthorityFact "admin_genesis" fact.factId (LedgerHost.adminGenesis.encode fact))

variable (replay : AuthorityReplayV1) (usedEpochs : TextSet) (previous : Option (Nat × String))
  (entry : MctObservationLedgerEntry)

def AuthorityReplayV1.afterGenesis (fact : AdminGenesisFactV1) : AuthorityReplayV1 :=
  let root := fact.request.intent.root
  { replay with
    currentAuthority := some fact.identity
    adminSignatureNonces := insert (root.grantId, 0) replay.adminSignatureNonces
    state := { replay.state with
      adminKeyGrants := replay.state.adminKeyGrants.insert root.grantId root
      adminGenesis := some fact }
    canonicalFactCount := replay.canonicalFactCount + 1 }

def replayGenesis (fact : AdminGenesisFactV1) :
    Except AuthorityReplayError (AuthorityReplayV1 × TextSet) := do
  mapErr (fun e => authorityIncoherent e.text) fact.request.validate
  deny (previous.isSome || entry.previousEntryHash.isSome || entry.localSequence ≠ 0 ||
      replay.currentAuthority.isSome || replay.state ≠ .empty || replay.canonicalFactCount ≠ 0 ||
      !usedEpochs.isEmpty || entry.motherNodeId ≠ fact.request.intent.motherNodeId ||
      entry.ledgerId ≠ fact.request.intent.ledgerId || entry.durabilityClass ≠ .beforeEffect ||
      entry.appendedAt ≠ fact.decidedAt.value || entry.observation != fact.observation)
    (authorityIncoherent "strict genesis must be the exact first canonical frame")
  return (replay.afterGenesis fact, usedEpochs.insert fact.request.intent.birthEpoch)

/-! ## Passkey facts -/

def PasskeyAdminFactV1.requestHash (fact : PasskeyAdminFactV1) : String :=
  canonicalHash (.passkeyRequest fact.request)

def PasskeyAdminFactV1.id (fact : PasskeyAdminFactV1) : String := "obs:passkey-admin:" ++ fact.requestHash

def PasskeyAdminFactV1.identity (fact : PasskeyAdminFactV1) :
    Except AuthorityReplayFailure GrantsAuthorityIdentityV1 := do
  let generation ← okOr (checkedAdd fact.request.intent.generation 1) ⟨"generation overflow"⟩
  return ⟨fact.request.intent.motherNodeId, fact.request.intent.epoch, generation, fact.id⟩

def PasskeyAdminFactV1.observation (fact : PasskeyAdminFactV1) : Except AuthorityReplayFailure MctObservation := do
  let identity ← fact.identity
  return {
    observationId := .tagged _ "obs:passkey-admin:" fact.requestHash (by decide)
    observedAt := fact.decidedAt
    kind := .operatorActionRecorded
    sourcePlane := .kernel
    trace := .root (.tagged _ "trace:obs:passkey-admin:" fact.requestHash (by decide))
    callId := none
    decisionId := none
    subjectId := some fact.request.intent.motherNodeId
    resourceId := some fact.request.intent.ledgerId
    policyRevision := none
    grantsRevision := some identity.generation
    outcome := .allowed
    visibility := .nodeOperator
    safeMessage := "passkey administration committed"
    detailRef := some (encodeAuthorityFact "passkey_admin" fact.id (LedgerHost.passkeyAdmin.encode fact)) }

def passkeyStep (prior : Option PasskeyAdminStateV1) (fact : PasskeyAdminFactV1) :
    Except AuthorityReplayFailure PasskeyAdminStateV1 :=
  mapErr (fun e => ⟨e.text⟩) (evaluatePasskeyAdminTransition prior fact.request fact.decidedAt)

def PasskeyAdminActionV1.bootstrapInventory : PasskeyAdminActionV1 → Option String
  | .bootstrap _ inventoryHash => some inventoryHash
  | _ => none

def passkeyFollow (prior : PasskeyAdminCanonicalV1) (fact : PasskeyAdminFactV1) :
    Except AuthorityReplayFailure PasskeyAdminCanonicalV1 := do
  let i := fact.request.intent
  let current ← okOr replay.currentAuthority ⟨"missing authority"⟩
  deny (i.motherNodeId ≠ current.motherNodeId || i.epoch ≠ current.authorityEpoch ||
      i.generation ≠ current.generation || i.authorityObservationId ≠ current.sourceAuthorityObservationId)
    ⟨"stale or wrong authority snapshot"⟩
  let state ← passkeyStep (some prior.state) fact
  return ⟨prior.genesis, state⟩

def passkeyOrigin (fact : PasskeyAdminFactV1) :
    Except AuthorityReplayFailure PasskeyAdminCanonicalV1 := do
  let i := fact.request.intent
  let inventoryHash ← okOr i.action.bootstrapInventory ⟨"no passkey genesis"⟩
  deny (replay.state ≠ .empty || replay.currentAuthority.isSome || replay.canonicalFactCount ≠ 0 ||
      i.generation ≠ 0 || !i.authorityObservationId.isEmpty ||
      !(stripStart i.epoch authorityEpochStart).any isDigestText || !isDigestText inventoryHash)
    ⟨"legacy authority cannot promote into passkey genesis"⟩
  let state ← passkeyStep none fact
  return ⟨fact, state⟩

def passkeyTransition (fact : PasskeyAdminFactV1) :
    Except AuthorityReplayFailure PasskeyAdminCanonicalV1 :=
  match replay.state.passkeyAdmin with
  | some prior => passkeyFollow replay prior fact
  | none => passkeyOrigin replay fact

/-- The epochs after a passkey fact: a birth brings its own and has to be the first physical frame. -/
def passkeyEpochs (fact : PasskeyAdminFactV1) : Except AuthorityReplayError TextSet :=
  if replay.state.passkeyAdmin.isNone then do
    deny (previous.isSome || entry.previousEntryHash.isSome || entry.localSequence ≠ 0 || !usedEpochs.isEmpty)
      (authorityIncoherent "passkey genesis must be the first physical frame")
    return usedEpochs.insert fact.request.intent.epoch
  else .ok usedEpochs

def AuthorityReplayV1.afterPasskey (identity : GrantsAuthorityIdentityV1) (next : PasskeyAdminCanonicalV1) :
    AuthorityReplayV1 :=
  { replay with
    currentAuthority := some identity
    state := { replay.state with passkeyAdmin := some next }
    canonicalFactCount := replay.canonicalFactCount + 1 }

def replayPasskeyFact (fact : PasskeyAdminFactV1) :
    Except AuthorityReplayError (AuthorityReplayV1 × TextSet) := do
  let fail := fun (e : AuthorityReplayFailure) => authorityIncoherent e.text
  deny (entry.motherNodeId ≠ fact.request.intent.motherNodeId || entry.ledgerId ≠ fact.request.intent.ledgerId ||
      entry.durabilityClass ≠ .beforeEffect || entry.appendedAt ≠ fact.decidedAt.value)
    (authorityIncoherent "passkey fact envelope mismatch")
  let observation ← mapErr fail fact.observation
  deny (entry.observation != observation) (authorityIncoherent "passkey fact envelope mismatch")
  let usedEpochs ← passkeyEpochs replay usedEpochs previous entry fact
  let next ← mapErr fail (passkeyTransition replay fact)
  let identity ← mapErr fail fact.identity
  return (replay.afterPasskey identity next, usedEpochs)

/-! ## The other three kinds -/

def AuthorityReplayV1.afterEpoch (fact : EpochEstablishedFactV1) : AuthorityReplayV1 :=
  { replay with
    currentAuthority := some fact.resultingAuthority
    canonicalFactCount := replay.canonicalFactCount + 1 }

def replayEpochFact (fact : EpochEstablishedFactV1) :
    Except AuthorityReplayError (AuthorityReplayV1 × TextSet) := do
  validateEpochFact previous entry replay usedEpochs fact
  return (replay.afterEpoch fact, usedEpochs.insert fact.authorityEpoch)

def AuthorityReplayV1.afterMutation (fact : AuthorityMutationFactV1) (resulting : AuthorityStateV1) :
    AuthorityReplayV1 :=
  { replay with
    adminSignatureNonces := recordAdminSignatureNonces replay.adminSignatureNonces fact.changes
    mutations := replay.mutations.insert fact.mutationId ⟨fact, entry.localSequence, entry.entryHash⟩
    state := resulting
    currentAuthority := some fact.resultingState.grantsAuthority
    canonicalFactCount := replay.canonicalFactCount + 1 }

def replayMutationFact (fact : AuthorityMutationFactV1) : Except AuthorityReplayError AuthorityReplayV1 := do
  let resulting ← validateAuthorityMutationFact entry replay fact
  deny (replay.mutations.contains fact.mutationId)
    (.incoherent entry.localSequence "duplicate canonical authority mutation id")
  return replay.afterMutation entry fact resulting

def AuthorityReplayV1.afterImport (fact : LegacyAuthorityImportFactV1) : AuthorityReplayV1 :=
  { replay with
    state := fact.importedState
    currentAuthority := some fact.resultingState.grantsAuthority
    imported := true
    «import» := some ⟨fact, entry.localSequence, entry.entryHash⟩
    canonicalFactCount := replay.canonicalFactCount + 1 }

def replayImportFact (fact : LegacyAuthorityImportFactV1) : Except AuthorityReplayError AuthorityReplayV1 := do
  validateLegacyImportFact entry replay fact
  deny (replay.imported || !replay.mutations.isEmpty)
    (.incoherent entry.localSequence "legacy authority import is not one-time or precedes mutations")
  return replay.afterImport entry fact

/-! ## The fold -/

inductive FactKind
  | passkeyAdmin | adminGenesis | epochEstablished | authorityMutation | legacyAuthorityImport
  deriving DecidableEq, Repr

def FactKind.text : FactKind → String
  | .passkeyAdmin => "passkey_admin"
  | .adminGenesis => "admin_genesis"
  | .epochEstablished => "epoch_established"
  | .authorityMutation => "authority_mutation"
  | .legacyAuthorityImport => "legacy_authority_import"

def decodeBody {α : Type} (codec : Codec α Json) (entry : MctObservationLedgerEntry) (body : Json) :
    Except AuthorityReplayError α :=
  mapErr (AuthorityReplayError.malformed entry.localSequence) (codec.decode body)

def foldFact (factKind : String) (body : Json) :
    Except AuthorityReplayError (AuthorityReplayV1 × TextSet) :=
  if factKind = FactKind.passkeyAdmin.text then do
    let fact ← decodeBody LedgerHost.passkeyAdmin entry body
    replayPasskeyFact replay usedEpochs previous entry fact
  else if factKind = FactKind.adminGenesis.text then do
    let fact ← decodeBody LedgerHost.adminGenesis entry body
    replayGenesis replay usedEpochs previous entry fact
  else if factKind = FactKind.epochEstablished.text then do
    let fact ← decodeBody LedgerHost.epochEstablished entry body
    replayEpochFact replay usedEpochs previous entry fact
  else if factKind = FactKind.authorityMutation.text then do
    let fact ← decodeBody LedgerHost.authorityMutation entry body
    let replay ← replayMutationFact replay entry fact
    return (replay, usedEpochs)
  else if factKind = FactKind.legacyAuthorityImport.text then do
    let fact ← decodeBody LedgerHost.legacyAuthorityImport entry body
    let replay ← replayImportFact replay entry fact
    return (replay, usedEpochs)
  else .error (.unknownFactKind entry.localSequence factKind)

def AuthorityReplayV1.record (envelope : CanonicalAuthorityEnvelopeV1) (payload : String) : AuthorityReplayV1 :=
  { replay with
    facts := replay.facts ++
      [⟨envelope.factId, envelope.factKind, entry.localSequence, entry.entryHash, payload⟩] }

def foldCanonicalFact (payload : String) :
    Except AuthorityReplayError (AuthorityReplayV1 × TextSet) := do
  let envelope ← mapErr (AuthorityReplayError.malformed entry.localSequence) (LedgerHost.envelope.decode payload)
  deny (envelope.schema ≠ authorityFactSchema) (.unknownSchema entry.localSequence envelope.schema)
  deny (envelope.factId ≠ entry.observation.observationId.value)
    (.incoherent entry.localSequence "fact_id does not match observation_id")
  let (replay, usedEpochs) ← foldFact replay usedEpochs previous entry envelope.factKind envelope.body
  return (replay.record entry envelope payload, usedEpochs)

def authorityPayload : Option String :=
  entry.observation.detailRef.bind fun detail => stripStart detail authorityFactDetailStart

def foldAuthorityEntryBody : Except AuthorityReplayError (AuthorityReplayV1 × TextSet) :=
  match authorityPayload entry with
  | none => .ok (replay, usedEpochs)
  | some payload => foldCanonicalFact replay usedEpochs previous entry payload

/-- What every accepted entry leaves behind, whatever it carries. -/
def AuthorityReplayV1.note : AuthorityReplayV1 :=
  { replay with
    tailRecoveryOnly := replay.tailRecoveryOnly && isValidTailRecoveryEntry entry
    adminGrantIds := replay.state.adminKeyGrants.keys.foldl (fun ids id => ids.insert id) replay.adminGrantIds }

def foldAuthorityEntry : Except AuthorityReplayError (AuthorityReplayV1 × TextSet) := do
  let (replay, usedEpochs) ← foldAuthorityEntryBody replay usedEpochs previous entry
  return (replay.note entry, usedEpochs)

def replayEntriesFrom (replay : AuthorityReplayV1) (usedEpochs : TextSet) :
    Option (Nat × String) → List MctObservationLedgerEntry →
      Except AuthorityReplayError (AuthorityReplayV1 × TextSet)
  | _, [] => .ok (replay, usedEpochs)
  | previous, entry :: entries => do
    let (replay, usedEpochs) ← foldAuthorityEntry replay usedEpochs previous entry
    replayEntriesFrom replay usedEpochs (some (entry.localSequence, entry.entryHash)) entries

def replayAuthorityEntries (entries : List MctObservationLedgerEntry) : Except AuthorityReplayError AuthorityReplayV1 :=
  (·.1) <$> replayEntriesFrom emptyAuthorityReplay ∅ none entries

/-! ## What an accepted fact was checked for -/

omit [LedgerHost] in
theorem operatorCarrierMismatch_false {e : MctObservationLedgerEntry} {plane : SourcePlane} {generation : Nat} :
    operatorCarrierMismatch e plane generation = false ↔
      e.observation.kind = .operatorActionRecorded ∧ e.observation.sourcePlane = plane ∧
      e.durabilityClass = .beforeEffect ∧ e.observation.visibility = .nodeOperator ∧
      e.observation.subjectId = some e.motherNodeId ∧ e.observation.resourceId = some e.ledgerId ∧
      e.observation.grantsRevision = some generation := by
  simp only [operatorCarrierMismatch, Bool.or_eq_false_iff, decide_eq_false_iff_not, not_not, and_assoc]

variable {replay replay' : AuthorityReplayV1} {usedEpochs usedEpochs' : TextSet} {prev : Option (Nat × String)}
  {entry : MctObservationLedgerEntry}

theorem validateEpochFact_ok {fact : EpochEstablishedFactV1} :
    validateEpochFact prev entry replay usedEpochs fact = .ok () ↔
      ∃ hash, authorityStateHash replay.state = .ok hash ∧
        entry.observation.kind = .lifecycleTransitionRecorded ∧ entry.observation.sourcePlane = .storage ∧
        entry.durabilityClass = .beforeEffect ∧ entry.observation.visibility = .nodeOperator ∧
        entry.observation.subjectId = some entry.motherNodeId ∧ entry.observation.resourceId = some entry.ledgerId ∧
        entry.observation.grantsRevision = some fact.generationBaseline ∧ fact.motherNodeId = entry.motherNodeId ∧
        fact.ledgerId = entry.ledgerId ∧ epochStartupRelation prev replay fact = true ∧
        (Timestamp.new fact.establishment.startedAt).isOk = true ∧ fact.generationBaseline = replay.generation ∧
        fact.priorAuthority = replay.currentAuthority ∧ fact.grantStateHash = hash ∧
        usedEpochs.contains fact.authorityEpoch = false ∧
        startsWith fact.authorityEpoch authorityEpochStart = true ∧
        fact.authorityEpoch.utf8ByteSize = authorityEpochStart.utf8ByteSize + 64 ∧
        fact.resultingAuthority =
          ⟨entry.motherNodeId, fact.authorityEpoch, fact.generationBaseline, entry.observation.observationId.value⟩ := by
  simp only [validateEpochFact, bind_ok, exists_unit, deny_ok, mapErr_ok, Bool.or_eq_false_iff, decide_eq_false_iff_not,
    not_not, and_assoc, Bool.not_eq_eq_eq_not, Bool.not_false]

theorem replayEpochFact_ok {fact : EpochEstablishedFactV1} :
    replayEpochFact replay usedEpochs prev entry fact = .ok (replay', usedEpochs') ↔
      validateEpochFact prev entry replay usedEpochs fact = .ok () ∧ replay' = replay.afterEpoch fact ∧
        usedEpochs' = usedEpochs.insert fact.authorityEpoch := by
  simp only [replayEpochFact, bind_ok, exists_unit, pure_ok, Prod.mk.injEq, @eq_comm _ replay', @eq_comm _ usedEpochs']

theorem validateAuthorityMutationFact_ok {fact : AuthorityMutationFactV1} {resulting : AuthorityStateV1} :
    validateAuthorityMutationFact entry replay fact = .ok resulting ↔
      ∃ prior intent priorHash resultingHash, replay.currentAuthority = some prior ∧
        authorityMutationIntentHash fact.request = .ok intent ∧ authorityStateHash replay.state = .ok priorHash ∧
        verifyAdminChangeSignatures replay.state replay.adminSignatureNonces fact.motherNodeId fact.ledgerId
          fact.changes = .ok () ∧
        validateIssuanceContext replay.adminGrantIds fact.changes prior entry.ledgerId fact.mutationId
          fact.decidedAt = .ok () ∧
        validateGuardianContext replay.state fact.changes prior entry.ledgerId fact.decidedAt = .ok () ∧
        applyAuthorityChanges replay.state fact.changes = .ok resulting ∧
        authorityStateHash resulting = .ok resultingHash ∧ prior.generation + 1 < 2 ^ 64 ∧
        operatorCarrierMismatch entry .kernel (prior.generation + 1) = false ∧
        fact.motherNodeId = entry.motherNodeId ∧ fact.ledgerId = entry.ledgerId ∧
        fact.authorityEpoch = prior.authorityEpoch ∧ fact.mutationIntentHash = intent ∧
        fact.priorState = ⟨prior, priorHash⟩ ∧
        fact.resultingState =
          ⟨⟨entry.motherNodeId, prior.authorityEpoch, prior.generation + 1, entry.observation.observationId.value⟩,
            resultingHash⟩ := by
  simp only [validateAuthorityMutationFact, bind_ok, exists_unit, deny_ok, mapErr_ok, okOr_ok, pure_ok, checkedAdd_some,
    Bool.or_eq_false_iff, decide_eq_false_iff_not, not_not, and_assoc]
  constructor
  · rintro ⟨prior, hp, intent, hi, ph, hph, hs, hic, hgc, r, hr, rh, hrh, _, hg, rfl, hcarries, hm, hl, he, hih, h₁, h₂,
      h₃, h₄, rfl⟩
    refine ⟨prior, intent, ph, rh, hp, hi, hph, hs, hic, hgc, hr, hrh, hg, hcarries, hm, hl, he, hih, ?_, ?_⟩
    · rw [← h₁, ← h₂]
    · rw [← h₃, ← h₄]
  · rintro ⟨prior, intent, ph, rh, hp, hi, hph, hs, hic, hgc, hr, hrh, hg, hcarries, hm, hl, he, hih, h₁, h₂⟩
    exact ⟨prior, hp, intent, hi, ph, hph, hs, hic, hgc, resulting, hr, rh, hrh, _, hg, rfl, hcarries, hm, hl, he, hih,
      by rw [h₁], by rw [h₁], by rw [h₂], by rw [h₂], rfl⟩

theorem replayMutationFact_ok {fact : AuthorityMutationFactV1} :
    replayMutationFact replay entry fact = .ok replay' ↔
      ∃ resulting, validateAuthorityMutationFact entry replay fact = .ok resulting ∧
        replay.mutations.contains fact.mutationId = false ∧ replay' = replay.afterMutation entry fact resulting := by
  simp only [replayMutationFact, bind_ok, exists_unit, deny_ok, pure_ok, @eq_comm _ replay']

theorem validateLegacyImportFact_ok {fact : LegacyAuthorityImportFactV1} :
    validateLegacyImportFact entry replay fact = .ok () ↔
      ∃ prior priorHash importedHash, replay.state.typedAuthority = false ∧ fact.importedState.typedAuthority = false ∧
        replay.currentAuthority = some prior ∧ authorityStateHash replay.state = .ok priorHash ∧
        validateWatchScopeState fact.importedState = .ok () ∧
        authorityStateHash fact.importedState = .ok importedHash ∧ prior.generation + 1 < 2 ^ 64 ∧
        operatorCarrierMismatch entry .operator (prior.generation + 1) = false ∧
        fact.motherNodeId = entry.motherNodeId ∧ fact.ledgerId = entry.ledgerId ∧
        fact.authorityEpoch = prior.authorityEpoch ∧
        fact.operatorDecision.confirmation = legacyAuthorityImportConfirmation ∧
        fact.priorState = ⟨prior, priorHash⟩ ∧
        fact.resultingState =
          ⟨⟨entry.motherNodeId, prior.authorityEpoch, prior.generation + 1, entry.observation.observationId.value⟩,
            importedHash⟩ ∧
        fact.sourceEvidence.sqliteAuthorityHash = importedHash := by
  simp only [validateLegacyImportFact, bind_ok, exists_unit, deny_ok, mapErr_ok, okOr_ok, checkedAdd_some,
    Bool.or_eq_false_iff, decide_eq_false_iff_not, not_not, and_assoc]
  constructor
  · rintro ⟨h₀, h₀', prior, hp, ph, hph, hw, ih, hih, _, hg, rfl, hcarries, hm, hl, he, hc, h₁, h₂, h₃, h₄, hs⟩
    refine ⟨prior, ph, ih, h₀, h₀', hp, hph, hw, hih, hg, hcarries, hm, hl, he, hc, ?_, ?_, hs⟩
    · rw [← h₁, ← h₂]
    · rw [← h₃, ← h₄]
  · rintro ⟨prior, ph, ih, h₀, h₀', hp, hph, hw, hih, hg, hcarries, hm, hl, he, hc, h₁, h₂, hs⟩
    exact ⟨h₀, h₀', prior, hp, ph, hph, hw, ih, hih, _, hg, rfl, hcarries, hm, hl, he, hc, by rw [h₁], by rw [h₁],
      by rw [h₂], by rw [h₂], hs⟩

theorem replayImportFact_ok {fact : LegacyAuthorityImportFactV1} :
    replayImportFact replay entry fact = .ok replay' ↔
      validateLegacyImportFact entry replay fact = .ok () ∧ replay.imported = false ∧ replay.mutations.isEmpty = true ∧
        replay' = replay.afterImport entry fact := by
  simp only [replayImportFact, bind_ok, exists_unit, deny_ok, pure_ok, Bool.or_eq_false_iff, Bool.not_eq_eq_eq_not,
    Bool.not_false, and_assoc, @eq_comm _ replay']

theorem replayGenesis_ok {fact : AdminGenesisFactV1} :
    replayGenesis replay usedEpochs prev entry fact = .ok (replay', usedEpochs') ↔
      fact.request.validate = .ok () ∧ prev = none ∧ entry.previousEntryHash = none ∧ entry.localSequence = 0 ∧
        replay.currentAuthority = none ∧ replay.state = .empty ∧ replay.canonicalFactCount = 0 ∧
        usedEpochs.isEmpty = true ∧ entry.motherNodeId = fact.request.intent.motherNodeId ∧
        entry.ledgerId = fact.request.intent.ledgerId ∧ entry.durabilityClass = .beforeEffect ∧
        entry.appendedAt = fact.decidedAt.value ∧ (entry.observation != fact.observation) = false ∧
        replay' = replay.afterGenesis fact ∧ usedEpochs' = usedEpochs.insert fact.request.intent.birthEpoch := by
  simp only [replayGenesis, bind_ok, exists_unit, deny_ok, mapErr_ok, pure_ok, Bool.or_eq_false_iff,
    decide_eq_false_iff_not, not_not, and_assoc, Option.isSome_eq_false_iff, Option.isNone_iff_eq_none,
    Bool.not_eq_eq_eq_not, Bool.not_false, Prod.mk.injEq, @eq_comm _ replay', @eq_comm _ usedEpochs']

theorem PasskeyAdminFactV1.identity_ok {fact : PasskeyAdminFactV1} {identity : GrantsAuthorityIdentityV1} :
    fact.identity = .ok identity ↔ fact.request.intent.generation + 1 < 2 ^ 64 ∧
      identity = ⟨fact.request.intent.motherNodeId, fact.request.intent.epoch, fact.request.intent.generation + 1,
        fact.id⟩ := by
  simp only [PasskeyAdminFactV1.identity, bind_ok, okOr_ok, checkedAdd_some, pure_ok]
  constructor
  · rintro ⟨_, ⟨h, rfl⟩, rfl⟩
    exact ⟨h, rfl⟩
  · rintro ⟨h, rfl⟩
    exact ⟨_, ⟨h, rfl⟩, rfl⟩

theorem passkeyFollow_ok {prior next : PasskeyAdminCanonicalV1} {fact : PasskeyAdminFactV1} :
    passkeyFollow replay prior fact = .ok next ↔
      ∃ cur, replay.currentAuthority = some cur ∧ fact.request.intent.motherNodeId = cur.motherNodeId ∧
        fact.request.intent.epoch = cur.authorityEpoch ∧ fact.request.intent.generation = cur.generation ∧
        fact.request.intent.authorityObservationId = cur.sourceAuthorityObservationId ∧
        next.genesis = prior.genesis ∧ passkeyStep (some prior.state) fact = .ok next.state := by
  simp only [passkeyFollow, bind_ok, exists_unit, deny_ok, okOr_ok, pure_ok, Bool.or_eq_false_iff,
    decide_eq_false_iff_not, not_not, and_assoc]
  constructor
  · rintro ⟨cur, hc, h₁, h₂, h₃, h₄, s, hs, rfl⟩
    exact ⟨cur, hc, h₁, h₂, h₃, h₄, rfl, hs⟩
  · rintro ⟨cur, hc, h₁, h₂, h₃, h₄, hg, hs⟩
    exact ⟨cur, hc, h₁, h₂, h₃, h₄, next.state, hs, by rw [← hg]⟩

theorem passkeyOrigin_ok {next : PasskeyAdminCanonicalV1} {fact : PasskeyAdminFactV1} :
    passkeyOrigin replay fact = .ok next ↔
      ∃ inventoryHash, fact.request.intent.action.bootstrapInventory = some inventoryHash ∧ replay.state = .empty ∧
        replay.currentAuthority = none ∧ replay.canonicalFactCount = 0 ∧ fact.request.intent.generation = 0 ∧
        fact.request.intent.authorityObservationId.isEmpty = true ∧
        (stripStart fact.request.intent.epoch authorityEpochStart).any isDigestText = true ∧
        isDigestText inventoryHash = true ∧ next.genesis = fact ∧ passkeyStep none fact = .ok next.state := by
  simp only [passkeyOrigin, bind_ok, exists_unit, deny_ok, okOr_ok, pure_ok, Bool.or_eq_false_iff,
    decide_eq_false_iff_not, not_not, and_assoc, Bool.not_eq_eq_eq_not, Bool.not_false, Option.isSome_eq_false_iff,
    Option.isNone_iff_eq_none]
  constructor
  · rintro ⟨inv, hi, h₁, h₂, h₃, h₄, h₅, h₆, h₇, s, hs, rfl⟩
    exact ⟨inv, hi, h₁, h₂, h₃, h₄, h₅, h₆, h₇, rfl, hs⟩
  · rintro ⟨inv, hi, h₁, h₂, h₃, h₄, h₅, h₆, h₇, hg, hs⟩
    exact ⟨inv, hi, h₁, h₂, h₃, h₄, h₅, h₆, h₇, next.state, hs, by rw [← hg]⟩

theorem replayPasskeyFact_ok {fact : PasskeyAdminFactV1} :
    replayPasskeyFact replay usedEpochs prev entry fact = .ok (replay', usedEpochs') ↔
      ∃ obs next identity, entry.motherNodeId = fact.request.intent.motherNodeId ∧
        entry.ledgerId = fact.request.intent.ledgerId ∧ entry.durabilityClass = .beforeEffect ∧
        entry.appendedAt = fact.decidedAt.value ∧ fact.observation = .ok obs ∧
        (entry.observation != obs) = false ∧
        passkeyEpochs replay usedEpochs prev entry fact = .ok usedEpochs' ∧
        passkeyTransition replay fact = .ok next ∧ fact.identity = .ok identity ∧
        replay' = replay.afterPasskey identity next := by
  simp only [replayPasskeyFact, bind_ok, exists_unit, deny_ok, mapErr_ok, pure_ok, Bool.or_eq_false_iff,
    decide_eq_false_iff_not, not_not, and_assoc, Prod.mk.injEq]
  constructor
  · rintro ⟨h₁, h₂, h₃, h₄, o, ho, hne, u, hu, next, hn, i, hi, rfl, rfl⟩
    exact ⟨o, next, i, h₁, h₂, h₃, h₄, ho, hne, hu, hn, hi, rfl⟩
  · rintro ⟨o, next, i, h₁, h₂, h₃, h₄, ho, hne, hu, hn, hi, rfl⟩
    exact ⟨h₁, h₂, h₃, h₄, o, ho, hne, _, hu, next, hn, i, hi, rfl, rfl⟩

/-- **What an accepted fact is**: a fact of one of the five kinds that passed the checks of its kind. -/
theorem foldFact_cases {factKind : String} {body : Json}
    (h : foldFact replay usedEpochs prev entry factKind body = .ok (replay', usedEpochs')) :
    (∃ fact, factKind = FactKind.passkeyAdmin.text ∧
      replayPasskeyFact replay usedEpochs prev entry fact = .ok (replay', usedEpochs')) ∨
    (∃ fact, factKind = FactKind.adminGenesis.text ∧
      replayGenesis replay usedEpochs prev entry fact = .ok (replay', usedEpochs')) ∨
    (∃ fact, factKind = FactKind.epochEstablished.text ∧
      replayEpochFact replay usedEpochs prev entry fact = .ok (replay', usedEpochs')) ∨
    (∃ fact, factKind = FactKind.authorityMutation.text ∧ replayMutationFact replay entry fact = .ok replay' ∧
      usedEpochs' = usedEpochs) ∨
    (∃ fact, factKind = FactKind.legacyAuthorityImport.text ∧ replayImportFact replay entry fact = .ok replay' ∧
      usedEpochs' = usedEpochs) := by
  unfold foldFact at h
  split at h
  · rename_i hk
    obtain ⟨fact, -, h⟩ := bind_ok.mp h
    exact .inl ⟨fact, hk, h⟩
  split at h
  · rename_i hk
    obtain ⟨fact, -, h⟩ := bind_ok.mp h
    exact .inr (.inl ⟨fact, hk, h⟩)
  split at h
  · rename_i hk
    obtain ⟨fact, -, h⟩ := bind_ok.mp h
    exact .inr (.inr (.inl ⟨fact, hk, h⟩))
  split at h
  · rename_i hk
    simp only [bind_ok, pure_ok, Prod.mk.injEq] at h
    obtain ⟨fact, -, _, h, rfl, rfl⟩ := h
    exact .inr (.inr (.inr (.inl ⟨fact, hk, h, rfl⟩)))
  split at h
  · rename_i hk
    simp only [bind_ok, pure_ok, Prod.mk.injEq] at h
    obtain ⟨fact, -, _, h, rfl, rfl⟩ := h
    exact .inr (.inr (.inr (.inr ⟨fact, hk, h, rfl⟩)))
  · cases h

theorem foldCanonicalFact_ok {payload : String} :
    foldCanonicalFact replay usedEpochs prev entry payload = .ok (replay', usedEpochs') ↔
      ∃ envelope middle, LedgerHost.envelope.decode payload = .ok envelope ∧ envelope.schema = authorityFactSchema ∧
        envelope.factId = entry.observation.observationId.value ∧
        foldFact replay usedEpochs prev entry envelope.factKind envelope.body = .ok (middle, usedEpochs') ∧
        replay' = middle.record entry envelope payload := by
  simp only [foldCanonicalFact, bind_ok, exists_unit, deny_ok, mapErr_ok, pure_ok, decide_eq_false_iff_not, not_not,
    Prod.exists, Prod.mk.injEq]
  constructor
  · rintro ⟨envelope, he, hs, hid, middle, u, hf, rfl, rfl⟩
    exact ⟨envelope, middle, he, hs, hid, hf, rfl⟩
  · rintro ⟨envelope, middle, he, hs, hid, hf, rfl⟩
    exact ⟨envelope, he, hs, hid, middle, usedEpochs', hf, rfl, rfl⟩

theorem foldAuthorityEntry_ok :
    foldAuthorityEntry replay usedEpochs prev entry = .ok (replay', usedEpochs') ↔
      ∃ middle, foldAuthorityEntryBody replay usedEpochs prev entry = .ok (middle, usedEpochs') ∧
        replay' = middle.note entry := by
  simp only [foldAuthorityEntry, bind_ok, pure_ok, Prod.exists, Prod.mk.injEq]
  constructor
  · rintro ⟨middle, u, hf, rfl, rfl⟩
    exact ⟨middle, hf, rfl⟩
  · rintro ⟨middle, hf, rfl⟩
    exact ⟨middle, usedEpochs', hf, rfl, rfl⟩

omit [LedgerHost] in
theorem mem_adminGrantIds_note {id : String} :
    id ∈ (replay.note entry).adminGrantIds ↔ id ∈ replay.adminGrantIds ∨ id ∈ replay.state.adminKeyGrants := by
  have hfold : ∀ (keys : List String) (ids : TextSet),
      id ∈ keys.foldl (fun ids id => ids.insert id) ids ↔ id ∈ ids ∨ id ∈ keys := by
    intro keys
    induction keys with
    | nil => simp
    | cons key keys ih =>
      intro ids
      rw [List.foldl_cons, ih, Std.ExtTreeSet.mem_insert, List.mem_cons, compare_eq_iff_eq, eq_comm]
      tauto
  show id ∈ replay.state.adminKeyGrants.keys.foldl (fun ids id => ids.insert id) replay.adminGrantIds ↔ _
  rw [hfold, Std.ExtTreeMap.mem_keys]

/-! ## Prefixes of a replay -/

def linkAfter : Option (Nat × String) → List MctObservationLedgerEntry → Option (Nat × String)
  | previous, [] => previous
  | _, entry :: entries => linkAfter (some (entry.localSequence, entry.entryHash)) entries

theorem replayEntriesFrom_append {r : AuthorityReplayV1} {u : TextSet} {prev : Option (Nat × String)}
    (l l' : List MctObservationLedgerEntry) :
    replayEntriesFrom r u prev (l ++ l') =
      (replayEntriesFrom r u prev l >>= fun middle =>
        replayEntriesFrom middle.1 middle.2 (linkAfter prev l) l') := by
  induction l generalizing r u prev with
  | nil => rfl
  | cons e l ih =>
    simp only [List.cons_append, replayEntriesFrom, linkAfter, bind_assoc]
    congr 1
    funext x
    exact ih

def Replayed (entries : List MctObservationLedgerEntry) (replay : AuthorityReplayV1) (usedEpochs : TextSet) : Prop :=
  replayEntriesFrom emptyAuthorityReplay ∅ none entries = .ok (replay, usedEpochs)

variable {entries l : List MctObservationLedgerEntry}

theorem replayAuthorityEntries_ok :
    replayAuthorityEntries entries = .ok replay ↔ ∃ usedEpochs, Replayed entries replay usedEpochs := by
  unfold replayAuthorityEntries Replayed
  cases h : replayEntriesFrom emptyAuthorityReplay ∅ none entries with
  | error e => simp [Functor.map, Except.map]
  | ok r => simp [Functor.map, Except.map, Prod.ext_iff]

theorem replayed_append {l' : List MctObservationLedgerEntry} (h : Replayed (l ++ l') replay' usedEpochs') :
    ∃ replay usedEpochs, Replayed l replay usedEpochs ∧
      replayEntriesFrom replay usedEpochs (linkAfter none l) l' = .ok (replay', usedEpochs') := by
  unfold Replayed at h
  rw [replayEntriesFrom_append, bind_ok] at h
  obtain ⟨⟨r, u⟩, hr, h⟩ := h
  exact ⟨r, u, hr, h⟩

theorem replayed_snoc (h : Replayed (l ++ [entry]) replay' usedEpochs') :
    ∃ replay usedEpochs, Replayed l replay usedEpochs ∧
      foldAuthorityEntry replay usedEpochs (linkAfter none l) entry = .ok (replay', usedEpochs') := by
  obtain ⟨r, u, hr, h⟩ := replayed_append h
  refine ⟨r, u, hr, ?_⟩
  simp only [replayEntriesFrom, bind_ok, Prod.exists] at h
  obtain ⟨r', u', hf, h⟩ := h
  cases h
  exact hf

theorem Replayed.snoc (hl : Replayed l replay usedEpochs)
    (hf : foldAuthorityEntry replay usedEpochs (linkAfter none l) entry = .ok (replay', usedEpochs')) :
    Replayed (l ++ [entry]) replay' usedEpochs' := by
  unfold Replayed at hl ⊢
  rw [replayEntriesFrom_append, hl]
  show replayEntriesFrom replay usedEpochs (linkAfter none l) [entry] = _
  simp only [replayEntriesFrom, hf, bind, Except.bind]

theorem Replayed.unique {replay₂ : AuthorityReplayV1} {usedEpochs₂ : TextSet} (h : Replayed l replay usedEpochs)
    (h₂ : Replayed l replay₂ usedEpochs₂) : replay = replay₂ ∧ usedEpochs = usedEpochs₂ := by
  unfold Replayed at h h₂
  rw [h] at h₂
  cases h₂
  exact ⟨rfl, rfl⟩

/-- **Induction along a replayed ledger**: what holds of the empty replay and is kept by every accepted entry. -/
theorem Replayed.induction (P : List MctObservationLedgerEntry → AuthorityReplayV1 → TextSet → Prop)
    (init : P [] emptyAuthorityReplay ∅)
    (keep : ∀ l entry replay usedEpochs replay' usedEpochs', Replayed l replay usedEpochs → P l replay usedEpochs →
      foldAuthorityEntry replay usedEpochs (linkAfter none l) entry = .ok (replay', usedEpochs') →
      P (l ++ [entry]) replay' usedEpochs')
    (h : Replayed entries replay usedEpochs) : P entries replay usedEpochs := by
  induction entries using List.reverseRecOn generalizing replay usedEpochs with
  | nil =>
    cases h
    exact init
  | append_singleton l e ih =>
    obtain ⟨r, u, hr, hf⟩ := replayed_snoc h
    exact keep l e r u _ _ hr (ih hr) hf

end Mct
