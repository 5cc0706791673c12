import PatinaMct.AuthorityFold
/-!
# Facts — the observations that carry the writer's facts

Strict genesis and passkey facts rebuild their observation on replay and have it in `AuthorityFold`; the other three
kinds are built here, with the fresh epoch that a tenure starts with.
-/
namespace Mct

open Checked
open Recovery (TextSet)

variable [LedgerHost]

def hexText (bytes : List UInt8) : String :=
  String.ofList (bytes.flatMap fun byte => [Nat.digitChar (byte.toNat / 16), Nat.digitChar (byte.toNat % 16)])

def freshAuthorityEpoch (entropy : Vector UInt8 32) : String := authorityEpochStart ++ hexText entropy.toList

def EpochEstablishedFactV1.factId (fact : EpochEstablishedFactV1) : String :=
  "obs:authority-epoch:" ++ fact.authorityEpoch

def EpochEstablishedFactV1.observation (fact : EpochEstablishedFactV1) (startedAt : Timestamp) : MctObservation where
  observationId := .tagged _ "obs:authority-epoch:" fact.authorityEpoch (by decide)
  observedAt := startedAt
  kind := .lifecycleTransitionRecorded
  sourcePlane := .storage
  trace := .root (.tagged _ "trace:authority-epoch:" fact.authorityEpoch (by decide))
  callId := none
  decisionId := none
  subjectId := some fact.motherNodeId
  resourceId := some fact.ledgerId
  policyRevision := none
  grantsRevision := some fact.generationBaseline
  outcome := .completed
  visibility := .nodeOperator
  safeMessage := "authority writer tenure established"
  detailRef := some
    (encodeAuthorityFact "epoch_established" fact.factId (LedgerHost.epochEstablished.encode fact))

/-- The observation of a mutation or an import: an operator action at a new generation. -/
def operatorActionObservation (idTag traceTag name : String) (hid : trimmedEmpty idTag = false)
    (htrace : trimmedEmpty traceTag = false) (observedAt : Timestamp) (plane : SourcePlane)
    (motherNodeId ledgerId : String) (generation : Nat) (safeMessage detail : String) : MctObservation where
  observationId := .tagged _ idTag name hid
  observedAt := observedAt
  kind := .operatorActionRecorded
  sourcePlane := plane
  trace := .root (.tagged _ traceTag name htrace)
  callId := none
  decisionId := none
  subjectId := some motherNodeId
  resourceId := some ledgerId
  policyRevision := none
  grantsRevision := some generation
  outcome := .allowed
  visibility := .nodeOperator
  safeMessage := safeMessage
  detailRef := some detail

def AuthorityMutationFactV1.factId (fact : AuthorityMutationFactV1) : String :=
  "obs:authority-mutation:" ++ fact.mutationId

/-- `authority_mutation_observation`; the time is the parsed `decided_at`. -/
def AuthorityMutationFactV1.observation (fact : AuthorityMutationFactV1) (observedAt : Timestamp) : MctObservation :=
  operatorActionObservation "obs:authority-mutation:" "trace:authority-mutation:" fact.mutationId (by decide)
    (by decide) observedAt .kernel fact.motherNodeId fact.ledgerId fact.resultingState.grantsAuthority.generation
    "canonical authority mutation committed"
    (encodeAuthorityFact "authority_mutation" fact.factId (LedgerHost.authorityMutation.encode fact))

def LegacyAuthorityImportFactV1.factId (fact : LegacyAuthorityImportFactV1) : String :=
  "obs:legacy-authority-import:" ++ fact.importId

/-- `legacy_import_observation`; the time is the parsed `decided_at` of the operator's decision. -/
def LegacyAuthorityImportFactV1.observation (fact : LegacyAuthorityImportFactV1) (observedAt : Timestamp) :
    MctObservation :=
  operatorActionObservation "obs:legacy-authority-import:" "trace:legacy-authority-import:" fact.importId (by decide)
    (by decide) observedAt .operator fact.motherNodeId fact.ledgerId fact.resultingState.grantsAuthority.generation
    "legacy Toy authority imported as canonical"
    (encodeAuthorityFact "legacy_authority_import" fact.factId (LedgerHost.legacyAuthorityImport.encode fact))

/-! ## A written fact folds as its kind does -/

variable {r r' : AuthorityReplayV1} {u u' : TextSet} {prev : Option (Nat × String)}
  {e : MctObservationLedgerEntry}

/-- **The fold of an entry that carries an encoded fact** is the fold of that fact, with its record. -/
theorem foldAuthorityEntry_fact (serde : SerdeRoundTrip) {kind id : String} {body : Json}
    (hdetail : e.observation.detailRef = some (encodeAuthorityFact kind id body))
    (hid : e.observation.observationId.value = id)
    (hf : foldFact r u prev e kind body = .ok (r', u')) :
    foldAuthorityEntry r u prev e =
      .ok ((r'.record e ⟨authorityFactSchema, kind, id, body⟩
        (LedgerHost.envelope.encode ⟨authorityFactSchema, kind, id, body⟩)).note e, u') := by
  have hp : authorityPayload e = some (LedgerHost.envelope.encode ⟨authorityFactSchema, kind, id, body⟩) := by
    unfold authorityPayload encodeAuthorityFact at *
    rw [hdetail, Option.bind_some, stripStart_append]
  refine foldAuthorityEntry_ok.mpr ⟨_, ?_, rfl⟩
  unfold foldAuthorityEntryBody
  rw [hp]
  exact foldCanonicalFact_ok.mpr ⟨_, r', serde.envelope _, rfl, hid.symm, hf, rfl⟩

omit [LedgerHost] in
theorem decodeBody_encode {α : Type} {codec : Codec α Json} (h : codec.Lawful) (fact : α) :
    decodeBody codec e (codec.encode fact) = .ok fact := by
  unfold decodeBody
  rw [h fact]
  rfl

theorem foldFact_epoch (serde : SerdeRoundTrip) (fact : EpochEstablishedFactV1) :
    foldFact r u prev e FactKind.epochEstablished.text (LedgerHost.epochEstablished.encode fact) =
      replayEpochFact r u prev e fact := by
  simp only [foldFact, FactKind.text, String.reduceEq, reduceIte, decodeBody_encode serde.epochEstablished, ok_bind]

theorem foldFact_mutation (serde : SerdeRoundTrip) (fact : AuthorityMutationFactV1) :
    foldFact r u prev e FactKind.authorityMutation.text
        (LedgerHost.authorityMutation.encode fact) =
      (replayMutationFact r e fact >>= fun r => pure (r, u)) := by
  simp only [foldFact, FactKind.text, String.reduceEq, reduceIte, decodeBody_encode serde.authorityMutation, ok_bind]

theorem foldFact_import (serde : SerdeRoundTrip) (fact : LegacyAuthorityImportFactV1) :
    foldFact r u prev e FactKind.legacyAuthorityImport.text
        (LedgerHost.legacyAuthorityImport.encode fact) =
      (replayImportFact r e fact >>= fun r => pure (r, u)) := by
  simp only [foldFact, FactKind.text, String.reduceEq, reduceIte, decodeBody_encode serde.legacyAuthorityImport, ok_bind]

theorem foldFact_genesis (serde : SerdeRoundTrip) (fact : AdminGenesisFactV1) :
    foldFact r u prev e FactKind.adminGenesis.text (LedgerHost.adminGenesis.encode fact) =
      replayGenesis r u prev e fact := by
  simp only [foldFact, FactKind.text, String.reduceEq, reduceIte, decodeBody_encode serde.adminGenesis, ok_bind]

theorem foldFact_passkey (serde : SerdeRoundTrip) (fact : PasskeyAdminFactV1) :
    foldFact r u prev e FactKind.passkeyAdmin.text (LedgerHost.passkeyAdmin.encode fact) =
      replayPasskeyFact r u prev e fact := by
  simp only [foldFact, FactKind.text, String.reduceEq, reduceIte, decodeBody_encode serde.passkeyAdmin, ok_bind]

end Mct
