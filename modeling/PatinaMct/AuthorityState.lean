import PatinaMct.Passkey
import PatinaMct.RecoveryLifecycle
/-!
# AuthorityState — what an authority state must satisfy

The state half of `mct-observation`: the checks that every stored authority state passes (`StateChecked`) and its hash
(`authorityStateHash`).  The errors keep the texts of the source.
-/
namespace Mct

open Checked

variable [LedgerHost]

def blake3 (bytes : List UInt8) : String := KernelHost.blake3 bytes

def canonicalHash (record : CanonicalRecord) : String := blake3 (LedgerHost.canonicalJson record)

def authorityIncoherent (detail : String) : AuthorityReplayError := .incoherent 0 detail

/-! ## Watch scopes -/

def WatchObservationScope.expectedRecordDigest (scope : WatchObservationScope) : String :=
  "blake3:" ++ blake3 (LedgerHost.watchScopeMaterial scope)

def WatchObservationScope.validate (scope : WatchObservationScope) : Except MctKernelError Unit := do
  ensureNonBlank "WatchObserverRef" "child_name" scope.observerRef.childName
  ensureNonBlank "WatchObserverRef" "artifact_version" scope.observerRef.artifactVersion
  validateCanonicalFileRoot scope.canonicalRootRef.value
  deny scope.eventClasses.classes.isEmpty (invalidWatchScope "event_classes" "empty set")
  deny (!eventClassesAscending scope.eventClasses.classes)
    (invalidWatchScope "event_classes" "not unique canonical order")
  deny (!(decide (1 ≤ scope.maxEventsPerBatch) && decide (scope.maxEventsPerBatch ≤ mctWatchMaxEventsPerBatch)))
    (invalidWatchScope "max_events_per_batch" "outside named ceiling")
  deny (decide (scope.expiresAt ≤ scope.startsAt)) (invalidWatchScope "expires_at" "not after starts_at")
  deny (scope.policyRevision == 0) (invalidWatchScope "policy_revision" "must be non-zero")
  deny (scope.canonicalRecordDigest ≠ scope.expectedRecordDigest)
    (invalidWatchScope "canonical_record_digest" "digest mismatch")

def validateWatchScopeState (state : AuthorityStateV1) : Except String Unit :=
  forM state.watchScopes.toList fun (scopeId, scope) => do
    deny (scopeId ≠ scope.watchScopeId.value) "Watch scope map key does not match complete value identity"
    mapErr (fun error => "invalid Watch scope authority value: " ++ error.text) scope.validate

/-! ## Administrative grants and tickets -/

def pairingTicketHashOk (value : String) : Bool :=
  !value.isEmpty && value.toList.all isLowerHex

def validateAdminKeyGrantShape (grant : AdminKeyGrantV1) : Except String Unit :=
  match adminKeyGrantShapeError grant with
  | some detail => .error detail
  | none => .ok ()

def validateAdminAuthorityState (state : AuthorityStateV1) : Except String Unit := do
  forM state.adminKeyGrants.toList fun (grantId, grant) => do
    deny (grantId ≠ grant.grantId) "admin key grant map key does not match grant id"
    validateAdminKeyGrantShape grant
    deny (grant.class_ == .recovery && grant.grantState ≠ .active) "recovery grant cannot be revoked"
  deny (decide (1 < state.adminKeyGrants.values.countP fun grant => grant.class_ == .recovery))
    "a second recovery grant is not admitted"
  forM state.pairingTickets.toList fun (ticketHash, ticket) =>
    deny (ticketHash ≠ ticket.ticketHash || !pairingTicketHashOk ticketHash)
      "pairing ticket map key does not match its hash"

/-! ## Guardian recovery in the state -/

def AdminKeyGrantV1.carriesRoot (grant : AdminKeyGrantV1) (key : Recovery.RecoveryPublicKeyV1) : Bool :=
  grant.class_ == .recovery && grant.grantState == .active && grant.publicHalf == key.ed25519 &&
    grant.mlDsa65PublicKey == some key.mlDsa65

variable (state : AuthorityStateV1)

def validateGuardianState : Except String Unit :=
  match state.guardianRecovery with
  | none => .ok ()
  | some recovery => do
    mapErr Recovery.RecoveryError.text (Recovery.validatePolicy recovery.policy)
    mapErr Recovery.RecoveryError.text (Recovery.guardianPolicyStateIsConsistent recovery)
    deny (recovery.binding ≠ recovery.policy.target ||
        recovery.binding.rootGeneration ≠ recovery.retiredRootKeys.length + 1 ||
        (recovery.pending.isSome && !recovery.maintenance) ||
        !state.adminKeyGrants.values.any fun grant => grant.carriesRoot recovery.binding.rootKey)
      "recovery projection disagrees with canonical root/policy"

/-! ## Issuance records -/

def validateIssuanceRecord (id : String) (record : AdminKeyIssuanceRecordV1) :
    Except String Unit := do
  deny (id ≠ record.intent.grant.grantId || record.intent.issuerGrantId ≠ record.issuerAtAcceptance.grantId)
    "issuance provenance identity mismatch"
  let current ← okOr state.adminKeyGrants[id]? "issued grant missing from canonical state"
  deny ({ current with grantState := .active } != record.intent.grant) "issued grant disagrees with provenance"
  mapErr AdminIssuanceError.text
    (evaluateAdminKeyIssuance record.issuerAtAcceptance record.intent.grant record.decidedAt)

def validateIssuanceState : Except String Unit := do
  forM state.adminIssuance.toList fun (id, record) => validateIssuanceRecord state id record
  forM state.adminKeyGrants.values fun grant =>
    deny (grant.issuanceCeiling.isSome && !state.adminIssuance.contains grant.grantId)
      "ceiling lacks a canonical issuance fact"

/-! ## Strict genesis -/

/-- The replacement roots that the writer names start so; no caller may. -/
def recoveredRootGrantStart : String := "recovered:"

def authorityEpochStart : String := "mct-authority-epoch-v1:"

/-- At most 128 ASCII letters, digits and `-_.:`. -/
def validId (value : String) : Bool :=
  !value.isEmpty && value.utf8ByteSize ≤ 128 && value.toList.all Recovery.idByte

def AdminGenesisRequestV1.signingMessage (request : AdminGenesisRequestV1) : List UInt8 :=
  adminSignedMessage
    { scheme := .ed25519MlDsa65V1, motherNodeId := request.intent.motherNodeId, ledgerId := request.intent.ledgerId,
      nonce := 0, signerGrantCanonical := LedgerHost.canonicalJson (.grant request.intent.root),
      commandCanonical := LedgerHost.canonicalJson (.adminGenesis request.intent) }

def AdminGenesisRequestV1.malformed (request : AdminGenesisRequestV1) : Bool :=
  let i := request.intent
  !validId i.bootstrapId || !validId i.root.grantId || startsWith i.root.grantId recoveredRootGrantStart ||
    trimmedEmpty i.motherNodeId || trimmedEmpty i.ledgerId ||
    !(stripStart i.birthEpoch authorityEpochStart).any isDigestText || !isDigestText i.inventoryHash ||
    (adminKeyGrantShapeError i.root).isSome || i.root.class_ ≠ .recovery || i.root.grantState ≠ .active ||
    i.root.publicHalf.isWeak || request.signature.signerGrantId ≠ i.root.grantId || request.signature.nonce ≠ 0 ||
    request.signature.scheme ≠ .ed25519MlDsa65V1 ||
    request.signature.signature.utf8ByteSize ≠ adminHybridSignatureLen * 2

def AdminGenesisRequestV1.validate (request : AdminGenesisRequestV1) : Except AuthorityReplayFailure Unit := do
  deny request.malformed ⟨"malformed strict administrative genesis"⟩
  let pq ← okOr request.intent.root.mlDsa65PublicKey ⟨"genesis requires both public keys"⟩
  mapErr (fun _ => ⟨"genesis hybrid signature denied"⟩)
    (KernelHost.verifyAdminHybridSignature request.intent.root.publicHalf pq request.signingMessage
      request.signature.signature)

def validateGenesisState : Except AuthorityReplayFailure Unit :=
  match state.adminGenesis with
  | none => .ok ()
  | some genesis => do
    genesis.request.validate
    let current ← okOr (state.adminKeyGrants.values.find? fun grant =>
      grant.class_ == .recovery && grant.grantState == .active) ⟨"strict profile has no active root"⟩
    deny (!(state.guardianRecovery.any fun recovery => decide (1 < recovery.binding.rootGeneration)) &&
        current != genesis.request.intent.root)
      ⟨"strict root differs from genesis without guardian replacement"⟩
    deny (state.guardianRecovery.any fun recovery =>
        recovery.binding.motherNodeId.value ≠ genesis.request.intent.motherNodeId ||
          recovery.binding.ledgerId ≠ genesis.request.intent.ledgerId)
      ⟨"guardian binding and strict origin target disagree"⟩

/-! ## The hash of a state -/

def AuthorityStateV1.hashable : HashableAuthorityState :=
  ⟨state.toyCatalog.values, state.toyGrants.values, state.watchScopes.values, state.adminKeyGrants.values,
    state.pairingTickets.values⟩

/-- The record that a valid state hashes; each profile has its own shape. -/
def AuthorityStateV1.canonicalRecord : CanonicalRecord :=
  if state.passkeyAdmin.isSome then .passkeyState state
  else if state.adminGenesis.isSome then
    .strictState state.hashable state.guardianRecovery state.adminIssuance state.adminGenesis
  else if !state.adminIssuance.isEmpty then
    .issuanceState state.hashable state.guardianRecovery state.adminIssuance
  else
    match state.guardianRecovery with
    | none => .state state.hashable
    | some recovery => .guardianState state.hashable recovery

def authorityStateHash : Except AuthorityReplayFailure String := do
  mapErr AuthorityReplayFailure.mk (validateWatchScopeState state)
  mapErr AuthorityReplayFailure.mk (validateAdminAuthorityState state)
  mapErr AuthorityReplayFailure.mk (validateGuardianState state)
  mapErr AuthorityReplayFailure.mk (validateIssuanceState state)
  validateGenesisState state
  deny (state.passkeyAdmin.isSome &&
      (state.adminGenesis.isSome || state.guardianRecovery.isSome || !state.adminIssuance.isEmpty ||
        !state.adminKeyGrants.isEmpty))
    ⟨"mixed passkey/legacy authority"⟩
  return canonicalHash state.canonicalRecord

/-- **What a hash was checked for.** -/
structure StateChecked (state : AuthorityStateV1) : Prop where
  watch : validateWatchScopeState state = .ok ()
  admin : validateAdminAuthorityState state = .ok ()
  guardian : validateGuardianState state = .ok ()
  issuance : validateIssuanceState state = .ok ()
  genesis : validateGenesisState state = .ok ()
  unmixed : state.passkeyAdmin.isSome = true → state.adminGenesis = none ∧ state.guardianRecovery = none ∧
    state.adminIssuance.isEmpty = true ∧ state.adminKeyGrants.isEmpty = true

theorem authorityStateHash_ok {s : AuthorityStateV1} {hash : String} :
    authorityStateHash s = .ok hash ↔ StateChecked s ∧ canonicalHash s.canonicalRecord = hash := by
  simp only [authorityStateHash, bind_ok, exists_unit, mapErr_ok, deny_ok, pure_ok, Bool.and_eq_false_iff,
    Bool.or_eq_false_iff, Bool.not_eq_eq_eq_not, Bool.not_false, Option.isSome_eq_false_iff, Option.isNone_iff_eq_none,
    and_assoc]
  constructor
  · rintro ⟨hw, ha, hg, hi, hgen, hmix, hhash⟩
    refine ⟨⟨hw, ha, hg, hi, hgen, ?_⟩, hhash⟩
    intro hsome
    rcases hmix with hnone | hempty
    · rw [hnone] at hsome
      cases hsome
    · exact hempty
  · rintro ⟨⟨hw, ha, hg, hi, hgen, hmix⟩, hhash⟩
    refine ⟨hw, ha, hg, hi, hgen, ?_, hhash⟩
    cases hp : s.passkeyAdmin with
    | none => exact .inl rfl
    | some passkey => exact .inr (hmix (by rw [hp]; rfl))

end Mct
