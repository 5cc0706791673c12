import PatinaMct.Codec
import PatinaMct.ToyWatch
/-!
# AuthorityRecords — the canonical authority facts and the state they build

The records of `mct-observation`: the five kinds of canonical facts with everything they carry, the authority state,
its replay, and the host of the ledger (`LedgerHost`), which is the third-party code that this crate calls: the JSON
codecs, the canonical JSON of every hashed or signed value, and the WebAuthn and day-key verifiers.
-/
namespace Mct

open Recovery (GuardianRecoveryCommandV1 GuardianRecoveryStateV1 RecoveryClockV1 TextSet)

abbrev TextMap (V : Type) := Std.ExtTreeMap String V compare

theorem TextMap.toList_injective {V : Type} : Function.Injective (fun m : TextMap V => m.toList) := by
  intro a b h
  apply Std.ExtTreeMap.ext_getElem?
  intro key
  apply Option.ext
  intro v
  have h : a.toList = b.toList := h
  rw [← Std.ExtTreeMap.mem_toList_iff_getElem?_eq_some, h, Std.ExtTreeMap.mem_toList_iff_getElem?_eq_some]

instance {V : Type} [DecidableEq V] : DecidableEq (TextMap V) := fun a b =>
  decidable_of_iff (a.toList = b.toList) ⟨fun h => TextMap.toList_injective h, fun h => h ▸ rfl⟩

/-! ## Identity and epochs -/

/-- **The stamp of an authority state.** -/
structure GrantsAuthorityIdentityV1 where
  motherNodeId : String
  authorityEpoch : String
  generation : Nat
  sourceAuthorityObservationId : String
  deriving DecidableEq, Repr

inductive AuthorityEpochPredecessorV1
  | noneForVirgin
  | noneAfterOperatorReinitialization
  | validatedHead (sequence : Nat) (entryHash : String)
  deriving DecidableEq, Repr

inductive AuthorityStartupClassV1
  | virgin
  | ordinaryReopen
  | legacyLedgerUpgrade
  | operatorGatedNonvirgin
  deriving DecidableEq, Repr

structure AuthorityTenureStartupEvidenceV1 where
  startupClass : AuthorityStartupClassV1
  expectedPredecessor : AuthorityEpochPredecessorV1
  expectedPriorAuthority : Option GrantsAuthorityIdentityV1
  expectedAuthorityStateHash : String
  inventoryHash : String
  operatorGateDecisionId : Option String
  authenticatedPrincipalRef : Option String
  deriving DecidableEq, Repr

structure WriterTenureEstablishmentV1 where
  startedAt : String
  startupClass : AuthorityStartupClassV1
  operatorGateDecisionId : Option String
  authenticatedPrincipalRef : Option String
  deriving DecidableEq, Repr

structure EpochEstablishedFactV1 where
  motherNodeId : String
  ledgerId : String
  authorityEpoch : String
  predecessor : AuthorityEpochPredecessorV1
  generationBaseline : Nat
  priorAuthority : Option GrantsAuthorityIdentityV1
  resultingAuthority : GrantsAuthorityIdentityV1
  grantStateHash : String
  establishment : WriterTenureEstablishmentV1
  deriving DecidableEq, Repr

/-! ## Changes and mutations -/

inductive GrantShapingCommandKindV1
  | authorizeSlate
  | authorizeSecret
  | catalogChange
  | grantChange
  deriving DecidableEq, Repr

inductive GrantShapingSourceV1
  | operatorDecision (decisionId authenticatedPrincipalRef : String) (commandKind : GrantShapingCommandKindV1)
  | childApproval (childName artifactId artifactVersion authorityObservationId : String)
  | childAssignment (assignmentId authorityObservationId : String)
  | adminKey (publicHalf : AdminKeyPublicHalf)
  deriving DecidableEq, Repr

inductive PairingTicketStateV1
  | issued
  | consumed
  deriving DecidableEq, Repr

structure PairingTicketV1 where
  ticketHash : String
  state : PairingTicketStateV1
  peerEndpointId : Option String
  windowStartsAt : Option Timestamp
  windowExpiresAt : Option Timestamp
  deriving DecidableEq, BEq, ReflBEq, Repr

structure PairingTicketAdmissionV1 where
  authenticatedPeerEndpointId : String
  admittedAt : Timestamp
  deriving DecidableEq, BEq, ReflBEq, Repr

structure AuthorityStateReferenceV1 where
  grantsAuthority : GrantsAuthorityIdentityV1
  authorityStateHash : String
  deriving DecidableEq, Repr

structure AdminKeyIssueIntentV1 where
  issuanceId : String
  ledgerId : String
  expectedAuthority : AuthorityStateReferenceV1
  issuerGrantId : String
  grant : AdminKeyGrantV1
  deriving DecidableEq, BEq, ReflBEq, Repr

structure AdminKeyIssueRequestV1 where
  intent : AdminKeyIssueIntentV1
  signature : AdminSignatureV1
  deriving DecidableEq, BEq, ReflBEq, Repr

/-- Reconstructable provenance, not a source of present issuer authority. -/
structure AdminKeyIssuanceRecordV1 where
  intent : AdminKeyIssueIntentV1
  issuerAtAcceptance : AdminKeyGrantV1
  decidedAt : Timestamp
  deriving DecidableEq, BEq, ReflBEq, Repr

structure AdminGenesisIntentV1 where
  bootstrapId : String
  motherNodeId : String
  ledgerId : String
  birthEpoch : String
  inventoryHash : String
  root : AdminKeyGrantV1
  deriving DecidableEq, BEq, ReflBEq, Repr

structure AdminGenesisRequestV1 where
  intent : AdminGenesisIntentV1
  signature : AdminSignatureV1
  deriving DecidableEq, BEq, ReflBEq, Repr

structure AdminGenesisFactV1 where
  request : AdminGenesisRequestV1
  decidedAt : Timestamp
  deriving DecidableEq, BEq, ReflBEq, Repr

inductive AuthorityChangeV1
  | adminKeyIssue (request : AdminKeyIssueRequestV1) (decidedAt : Timestamp)
  | guardianRecovery (command : GuardianRecoveryCommandV1) (clock : RecoveryClockV1)
  | toyCatalogPut (toyId : String) (contract : ToyContractIdentity) (authorityBearing : Bool) (catalogRevision : Nat)
      (admittedByObservationId : String)
  | toyCatalogRemove (toyId : String)
  | toyGrantPut (grantId toyId : String) (subject : ToyGrantSubject) (scope : ToyGrantScope)
      (constraints : ToyGrantConstraints) (grantState : ToyGrantState) (issuerId : String) (policyRevision : Nat)
      (sourceGrantsRevision : Nat) (authorityObservationId : String)
  | toyGrantRemove (grantId : String)
  | watchScopePut (scope : WatchObservationScope)
  | adminKeyGrantPut (grant : AdminKeyGrantV1) (signature : Option AdminSignatureV1)
  | adminKeyGrantRevoke (grantId : String) (signature : Option AdminSignatureV1)
  | pairingTicketIssued (ticketHash : String) (peerEndpointId : Option String)
      (windowStartsAt windowExpiresAt : Option Timestamp) (signature : Option AdminSignatureV1)
  | pairingTicketConsumed (ticketHash : String) (admission : Option PairingTicketAdmissionV1)
      (signature : Option AdminSignatureV1)
  deriving DecidableEq, BEq, ReflBEq

structure AuthorityMutationFactV1 where
  mutationId : String
  mutationIntentHash : String
  motherNodeId : String
  ledgerId : String
  authorityEpoch : String
  priorState : AuthorityStateReferenceV1
  changes : List AuthorityChangeV1
  grantShapingSources : List GrantShapingSourceV1
  resultingState : AuthorityStateReferenceV1
  decidedAt : String
  deriving DecidableEq, BEq, ReflBEq

structure CommittedAuthorityMutationV1 where
  fact : AuthorityMutationFactV1
  entrySequence : Nat
  entryHash : String
  deriving DecidableEq, BEq, ReflBEq

structure AuthorityMutationRequestV1 where
  mutationId : String
  changes : List AuthorityChangeV1
  grantShapingSources : List GrantShapingSourceV1
  decidedAt : String
  deriving DecidableEq, BEq, ReflBEq

/-! ## Passkey administration -/

/-- `passkey administration denied: …`. -/
structure DayKeyAdminError where
  reason : String
  deriving DecidableEq, Repr

def DayKeyAdminError.text (e : DayKeyAdminError) : String := "passkey administration denied: " ++ e.reason

structure WebAuthnP256DayKeyV1 where
  credentialId : String
  publicKeySec1 : String
  rpId : String
  origin : String
  deriving DecidableEq, Repr

structure Ed25519DayKeyV1 where
  motherNodeId : String
  ledgerId : String
  issuedAt : Timestamp
  grant : AdminKeyGrantV1
  deriving DecidableEq, BEq, ReflBEq, Repr

inductive PasskeyAdminActionV1
  | bootstrap (root : WebAuthnP256DayKeyV1) (inventoryHash : String)
  | issueDayKey (grantId : String) (publicHalf : AdminKeyPublicHalf) (scopes : List AdminKeyScopeV1)
      (expiresAt : Timestamp)
  | revokeDayKey (grantId : String)
  | command (scope : AdminKeyScopeV1) (route body : String)
  deriving DecidableEq, BEq, ReflBEq, Repr

structure PasskeyAdminIntentV1 where
  motherNodeId : String
  ledgerId : String
  epoch : String
  generation : Nat
  authorityObservationId : String
  nonce : String
  issuedAt : Timestamp
  expiresAt : Timestamp
  action : PasskeyAdminActionV1
  deriving DecidableEq, BEq, ReflBEq, Repr

inductive DayKeyAdminProofV1
  | webAuthnP256DayKeyV1 (credentialId authenticatorData clientDataJson signature : String)
  | ed25519DayKeyV1 (grantId signature : String)
  deriving DecidableEq, Repr

def DayKeyAdminProofV1.signerRef : DayKeyAdminProofV1 → String
  | .webAuthnP256DayKeyV1 credentialId _ _ _ => "webauthn:" ++ credentialId
  | .ed25519DayKeyV1 grantId _ => "ed25519:" ++ grantId

structure PasskeyAdminRequestV1 where
  intent : PasskeyAdminIntentV1
  proof : DayKeyAdminProofV1
  deriving DecidableEq, BEq, ReflBEq, Repr

structure PasskeyAdminStateV1 where
  motherNodeId : String
  ledgerId : String
  root : WebAuthnP256DayKeyV1
  dayKeys : TextMap Ed25519DayKeyV1
  usedNonces : Finset (String × String)
  lastDecidedAt : Timestamp
  deriving DecidableEq

structure PasskeyAdminFactV1 where
  request : PasskeyAdminRequestV1
  decidedAt : Timestamp
  deriving DecidableEq, BEq, ReflBEq, Repr

structure PasskeyAdminCanonicalV1 where
  genesis : PasskeyAdminFactV1
  state : PasskeyAdminStateV1
  deriving DecidableEq

/-! ## The authority state -/

structure AuthorityStateV1 where
  toyCatalog : TextMap CanonicalToyContract
  toyGrants : TextMap ToyGrant
  watchScopes : TextMap WatchObservationScope
  adminKeyGrants : TextMap AdminKeyGrantV1
  pairingTickets : TextMap PairingTicketV1
  guardianRecovery : Option GuardianRecoveryStateV1
  adminIssuance : TextMap AdminKeyIssuanceRecordV1
  adminGenesis : Option AdminGenesisFactV1
  passkeyAdmin : Option PasskeyAdminCanonicalV1
  deriving DecidableEq

/-- `AuthorityStateV1::default()`. -/
def AuthorityStateV1.empty : AuthorityStateV1 := ⟨∅, ∅, ∅, ∅, ∅, none, ∅, none, none⟩

structure LegacyImportOperatorDecisionV1 where
  decisionId : String
  authenticatedPrincipalRef : String
  confirmation : String
  decidedAt : String
  deriving DecidableEq, Repr

structure LegacyImportSourceEvidenceV1 where
  configAuthorityHash : String
  sqliteAuthorityHash : String
  deriving DecidableEq, Repr

structure LegacyAuthorityImportFactV1 where
  importId : String
  motherNodeId : String
  ledgerId : String
  authorityEpoch : String
  operatorDecision : LegacyImportOperatorDecisionV1
  sourceEvidence : LegacyImportSourceEvidenceV1
  importedState : AuthorityStateV1
  priorState : AuthorityStateReferenceV1
  resultingState : AuthorityStateReferenceV1
  deriving DecidableEq

structure CommittedLegacyAuthorityImportV1 where
  fact : LegacyAuthorityImportFactV1
  entrySequence : Nat
  entryHash : String
  deriving DecidableEq

structure AuthorityCanonicalFactRecordV1 where
  factId : String
  factKind : String
  sourceSequence : Nat
  sourceEntryHash : String
  canonicalPayload : String
  deriving DecidableEq, Repr

structure AuthorityReplayV1 where
  state : AuthorityStateV1
  currentAuthority : Option GrantsAuthorityIdentityV1
  imported : Bool
  «import» : Option CommittedLegacyAuthorityImportV1
  mutations : TextMap CommittedAuthorityMutationV1
  facts : List AuthorityCanonicalFactRecordV1
  canonicalFactCount : Nat
  /-- Committed `(signer_grant_id, nonce)` pairs, across all epochs. -/
  adminSignatureNonces : Finset (String × Nat)
  /-- Every administrative grant id that was ever in the state. -/
  adminGrantIds : TextSet
  /-- Every replayed entry so far is a valid tail-recovery fact. -/
  tailRecoveryOnly : Bool
  deriving DecidableEq

def emptyAuthorityReplay : AuthorityReplayV1 := ⟨.empty, none, false, none, ∅, [], 0, ∅, ∅, true⟩

inductive AuthorityReplayError
  | malformed (sequence : Nat) (detail : String)
  | unknownSchema (sequence : Nat) (schema : String)
  | unknownFactKind (sequence : Nat) (factKind : String)
  | incoherent (sequence : Nat) (detail : String)
  deriving DecidableEq, Repr

def AuthorityReplayError.text : AuthorityReplayError → String
  | .malformed sequence detail => s!"canonical authority fact JSON is malformed at sequence {sequence}: {detail}"
  | .unknownSchema sequence schema => s!"unknown canonical authority fact schema '{schema}' at sequence {sequence}"
  | .unknownFactKind sequence factKind => s!"unknown canonical authority fact kind '{factKind}' at sequence {sequence}"
  | .incoherent sequence detail => s!"canonical authority fact is incoherent at sequence {sequence}: {detail}"

structure AuthorityReplayFailure where
  detail : String
  deriving DecidableEq, Repr

def AuthorityReplayFailure.text (e : AuthorityReplayFailure) : String := "canonical authority replay failed: " ++ e.detail

/-! ## What is serialised -/

/-- A `serde_json::Value`, by its compact text. -/
structure Json where
  text : String
  deriving DecidableEq, Repr

structure CanonicalAuthorityEnvelopeV1 where
  schema : String
  factKind : String
  factId : String
  body : Json
  deriving DecidableEq, Repr

/-- The maps of an authority state as the lists of their values. -/
structure HashableAuthorityState where
  toyCatalog : List CanonicalToyContract
  toyGrants : List ToyGrant
  watchScopes : List WatchObservationScope
  adminKeyGrants : List AdminKeyGrantV1
  pairingTickets : List PairingTicketV1

/-- **Every value whose canonical JSON is hashed or signed**, one constructor for each shape. -/
inductive CanonicalRecord
  | mutationIntent (changes : List AuthorityChangeV1) (grantShapingSources : List GrantShapingSourceV1)
  | state (state : HashableAuthorityState)
  | guardianState (state : HashableAuthorityState) (recovery : GuardianRecoveryStateV1)
  | issuanceState (state : HashableAuthorityState) (recovery : Option GuardianRecoveryStateV1)
      (issuance : TextMap AdminKeyIssuanceRecordV1)
  | strictState (state : HashableAuthorityState) (recovery : Option GuardianRecoveryStateV1)
      (issuance : TextMap AdminKeyIssuanceRecordV1) (genesis : Option AdminGenesisFactV1)
  | passkeyState (state : AuthorityStateV1)
  | grant (grant : AdminKeyGrantV1)
  | change (change : AuthorityChangeV1)
  | adminKeyIssue (intent : AdminKeyIssueIntentV1)
  | adminGenesis (intent : AdminGenesisIntentV1)
  | passkeyRequest (request : PasskeyAdminRequestV1)
  | writerChallenge (authorityStateHash authorityEpoch : String) (random : Vector UInt8 32)

/-- **The third-party code that the ledger calls.**  `canonicalJson` is total: no record has a map with other than text
keys, so serialisation cannot fail.  The three verifiers stand for the WebAuthn, P-256 and Ed25519 code. -/
class LedgerHost extends KernelHost where
  entry : Codec MctObservationLedgerEntry (List UInt8)
  envelope : Codec CanonicalAuthorityEnvelopeV1 String
  epochEstablished : Codec EpochEstablishedFactV1 Json
  authorityMutation : Codec AuthorityMutationFactV1 Json
  legacyAuthorityImport : Codec LegacyAuthorityImportFactV1 Json
  adminGenesis : Codec AdminGenesisFactV1 Json
  passkeyAdmin : Codec PasskeyAdminFactV1 Json
  canonicalJson : CanonicalRecord → List UInt8
  /-- The JSON of a watch scope without its digest. -/
  watchScopeMaterial : WatchObservationScope → List UInt8
  validateWebAuthnKey : WebAuthnP256DayKeyV1 → Except DayKeyAdminError Unit
  verifyWebAuthnAssertion : WebAuthnP256DayKeyV1 → PasskeyAdminIntentV1 →
    (authenticatorData clientDataJson signature : String) → Except DayKeyAdminError Unit
  verifyDayKeySignature : AdminKeyPublicHalf → PasskeyAdminIntentV1 → (signerRef signature : String) →
    Except DayKeyAdminError Unit

/-- **What the ledger needs of its serialiser**: every line and every fact reads back as it was written, and the line of
an entry has no newline of its own.  Numbers and times of the model hold more values than the source's types: a host
writes the source's values as serde does, and the others in any way that keeps them apart (`Codec.partWriter`). -/
structure SerdeRoundTrip [LedgerHost] : Prop where
  entry : LedgerHost.entry.Lawful
  entry_line : ∀ entry, 10 ∉ LedgerHost.entry.encode entry
  envelope : LedgerHost.envelope.Lawful
  epochEstablished : LedgerHost.epochEstablished.Lawful
  authorityMutation : LedgerHost.authorityMutation.Lawful
  legacyAuthorityImport : LedgerHost.legacyAuthorityImport.Lawful
  adminGenesis : LedgerHost.adminGenesis.Lawful
  passkeyAdmin : LedgerHost.passkeyAdmin.Lawful

end Mct
