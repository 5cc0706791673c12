import PatinaMct.Blake3
import PatinaMct.RecoveryConsistent
import PatinaMct.SampleJson
/-!
# SampleHost — a concrete host for concrete ledgers

A host that writes every entry and the given facts as `serde_json` does, hashes with BLAKE3 and parses RFC 3339.
It is lawful: the readers are the inverses of the writers, with the white space that JSON allows after a value, and a
value whose spelled time is not its instant, which no Rust value holds, is written by a number.  Hybrid signatures are
accepted, since no run of this development holds a signing key.  The witnesses of the development run on it.
-/
namespace Mct.Sample

open Checked
open Recovery
open Recovery.Sample (second parseRfc3339)

/-! ## The JSON of facts and states

`canonical_json_bytes` puts the keys of an object in order.  The records that are also written in the order of their
fields take the writer of their objects. -/

def canonicalObject (members : Members) : List Char :=
  jsonObject (members.insertionSort fun member member' => member.1 ≤ member'.1)

def mapJson {V : Type} (write : V → List Char) (map : TextMap V) : List Char :=
  jsonObject (map.toList.map fun row => (row.1, write row.2))

def listJson {α : Type} (write : α → List Char) (values : List α) : List Char := jsonArray (values.map write)

section Records

variable (object : Members → List Char)

def identityJson (identity : GrantsAuthorityIdentityV1) : List Char :=
  object [("mother_node_id", jsonString identity.motherNodeId), ("authority_epoch", jsonString identity.authorityEpoch),
    ("generation", jsonNat identity.generation),
    ("source_authority_observation_id", jsonString identity.sourceAuthorityObservationId)]

def contractJson (contract : ToyContractIdentity) : List Char :=
  object [("namespace", jsonString contract.namespace), ("interface_name", jsonString contract.interfaceName),
    ("version", jsonString contract.version), ("function_name", jsonOption jsonString contract.functionName),
    ("resource_name", jsonOption jsonString contract.resourceName)]

def toyJson (toy : CanonicalToyContract) : List Char :=
  object [("toy_id", idJson toy.toyId), ("contract", contractJson object toy.contract),
    ("authority_bearing", jsonBool toy.authorityBearing), ("catalog_revision", jsonNat toy.catalogRevision),
    ("admitted_by_observation_id", idJson toy.admittedByObservationId)]

def subjectJson (subject : ToyGrantSubject) : List Char :=
  object [("child_name", jsonString subject.childName), ("artifact_id", jsonString subject.artifactId),
    ("artifact_version", jsonString subject.artifactVersion), ("assignment_id", jsonOption idJson subject.assignmentId),
    ("caller_node_id", jsonOption idJson subject.callerNodeId)]

def toyScopeJson (scope : ToyGrantScope) : List Char :=
  object [("vision_id", idJson scope.visionId), ("node_id", jsonOption idJson scope.nodeId),
    ("project_id", jsonOption idJson scope.projectId),
    ("data_classification", jsonOption jsonString scope.dataClassification),
    ("resource_id", jsonOption jsonString scope.resourceId),
    ("allowed_actions", listJson jsonString scope.allowedActions)]

def constraintsJson (constraints : ToyGrantConstraints) : List Char :=
  object [("starts_at", jsonOption timeJson constraints.startsAt), ("expires_at", jsonOption timeJson constraints.expiresAt),
    ("max_uses", jsonOption jsonNat constraints.maxUses), ("max_duration_ms", jsonOption jsonNat constraints.maxDurationMs),
    ("locality_required", jsonBool constraints.localityRequired)]

def toyGrantStateJson (state : ToyGrantState) : List Char :=
  nameOf ["requested", "active", "expired", "revoked", "superseded", "denied"] state.ctorIdx

def toyGrantJson (grant : ToyGrant) : List Char :=
  object [("grant_id", idJson grant.grantId), ("toy_id", idJson grant.toyId), ("subject", subjectJson object grant.subject),
    ("scope", toyScopeJson object grant.scope), ("constraints", constraintsJson object grant.constraints),
    ("grant_state", toyGrantStateJson grant.grantState), ("issuer_id", jsonString grant.issuerId),
    ("policy_revision", jsonNat grant.policyRevision), ("grants_revision", jsonNat grant.grantsRevision),
    ("authority_observation_id", idJson grant.authorityObservationId)]

def observerJson (observer : WatchObserverRef) : List Char :=
  object [("child_name", jsonString observer.childName), ("artifact_id", idJson observer.artifactId),
    ("artifact_version", jsonString observer.artifactVersion), ("assignment_id", idJson observer.assignmentId)]

/-- The fields of a watch scope before its digest. -/
def watchScopeMembers (scope : WatchObservationScope) : Members :=
  [("watch_scope_id", idJson scope.watchScopeId), ("observer_shape", nameOf ["child_toy"] scope.observerShape.ctorIdx),
    ("observer_ref", observerJson object scope.observerRef),
    ("scope_mode", nameOf ["constrained", "explicit_broad"] scope.scopeMode.ctorIdx),
    ("canonical_root_ref", jsonString scope.canonicalRootRef.value),
    ("traversal_scope", nameOf ["root_only", "recursive"] scope.traversalScope.ctorIdx),
    ("event_classes", listJson (fun c : WatchEventClass => nameOf ["created", "modified", "deleted"] c.ctorIdx)
      scope.eventClasses.classes),
    ("max_events_per_batch", jsonNat scope.maxEventsPerBatch),
    ("coalescing_policy", nameOf ["none", "last_per_path"] scope.coalescingPolicy.ctorIdx),
    ("starts_at", timeJson scope.startsAt), ("expires_at", timeJson scope.expiresAt),
    ("scope_revision", jsonNat scope.scopeRevision), ("policy_revision", jsonNat scope.policyRevision),
    ("authority_state", nameOf ["active", "revoked", "superseded"] scope.authorityState.ctorIdx),
    ("authority_observation_id", idJson scope.authorityObservationId)]

def watchScopeJson (scope : WatchObservationScope) : List Char :=
  object (watchScopeMembers object scope ++ [("canonical_record_digest", jsonString scope.canonicalRecordDigest)])

end Records

def predecessorJson : AuthorityEpochPredecessorV1 → List Char
  | .noneForVirgin => jsonObject [("kind", jsonString "none_for_virgin")]
  | .noneAfterOperatorReinitialization => jsonObject [("kind", jsonString "none_after_operator_reinitialization")]
  | .validatedHead sequence entryHash =>
    jsonObject [("entry_hash", jsonString entryHash), ("kind", jsonString "validated_head"),
      ("sequence", jsonNat sequence)]

def startupJson (startup : AuthorityStartupClassV1) : List Char :=
  nameOf ["virgin", "ordinary_reopen", "legacy_ledger_upgrade", "operator_gated_nonvirgin"] startup.ctorIdx

def epochJson (fact : EpochEstablishedFactV1) : List Char :=
  jsonObject ([("authority_epoch", jsonString fact.authorityEpoch),
    ("establishment", jsonObject (
      present "authenticated_principal_ref" jsonString fact.establishment.authenticatedPrincipalRef ++
      present "operator_gate_decision_id" jsonString fact.establishment.operatorGateDecisionId ++
      [("started_at", jsonString fact.establishment.startedAt),
        ("startup_class", startupJson fact.establishment.startupClass)])),
    ("generation_baseline", jsonNat fact.generationBaseline), ("grant_state_hash", jsonString fact.grantStateHash),
    ("ledger_id", jsonString fact.ledgerId), ("mother_node_id", jsonString fact.motherNodeId),
    ("predecessor", predecessorJson fact.predecessor)] ++
    present "prior_authority" (identityJson canonicalObject) fact.priorAuthority ++
    [("resulting_authority", identityJson canonicalObject fact.resultingAuthority)])

def ticketJson (ticket : PairingTicketV1) : List Char :=
  jsonObject (present "peer_endpoint_id" jsonString ticket.peerEndpointId ++
    [("state", nameOf ["issued", "consumed"] ticket.state.ctorIdx), ("ticket_hash", jsonString ticket.ticketHash)] ++
    present "window_expires_at" timeJson ticket.windowExpiresAt ++ present "window_starts_at" timeJson ticket.windowStartsAt)

def admissionJson (admission : PairingTicketAdmissionV1) : List Char :=
  jsonObject [("admitted_at", timeJson admission.admittedAt),
    ("authenticated_peer_endpoint_id", jsonString admission.authenticatedPeerEndpointId)]

def referenceJson (reference : AuthorityStateReferenceV1) : List Char :=
  jsonObject [("authority_state_hash", jsonString reference.authorityStateHash),
    ("grants_authority", identityJson canonicalObject reference.grantsAuthority)]

/-! ### Administrative grants -/

def halfJson : AdminKeyPublicHalf → List Char
  | .ed25519 key => jsonObject [("public_key", jsonString key.hex), ("scheme", jsonString "ed25519")]

def adminScopeJson (scope : AdminKeyScopeV1) : List Char :=
  nameOf ["approve_child", "artifact", "authority_import", "authorize_secret", "authorize_slate", "blob", "key_manage",
    "lifecycle", "pando_record", "peer_add", "peer_proof", "peer_remove", "peer_revoke", "registry", "revoke_child",
    "startup_gate", "status", "trigger", "watch_grant", "watch_revoke"] scope.ctorIdx

def adminGrantJson (grant : AdminKeyGrantV1) : List Char :=
  jsonObject ([("class", nameOf ["day_to_day", "recovery"] grant.class_.ctorIdx)] ++
    present "expires_at" timeJson grant.expiresAt ++
    [("grant_id", jsonString grant.grantId), ("grant_state", nameOf ["active", "revoked"] grant.grantState.ctorIdx)] ++
    present "issuance_ceiling"
      (fun ceiling : AdminIssuanceCeilingV1 => jsonObject [("scopes", listJson adminScopeJson ceiling.scopes)])
      grant.issuanceCeiling ++
    present "ml_dsa65_public_key" (fun key : MlDsa65PublicKey => jsonString key.hex) grant.mlDsa65PublicKey ++
    [("public_half", halfJson grant.publicHalf), ("scopes", listJson adminScopeJson grant.scopes)])

def schemeJson (scheme : AdminSignatureSchemeV1) : List Char :=
  nameOf ["ed25519+mldsa65/v1", "webauthn-p256-day-key/v1", "ed25519-day-key/v1"] scheme.ctorIdx

def signatureJson (signature : AdminSignatureV1) : List Char :=
  jsonObject [("nonce", jsonNat signature.nonce), ("scheme", schemeJson signature.scheme),
    ("signature", jsonString signature.signature), ("signer_grant_id", jsonString signature.signerGrantId)]

def issueIntentJson (intent : AdminKeyIssueIntentV1) : List Char :=
  jsonObject [("expected_authority", referenceJson intent.expectedAuthority), ("grant", adminGrantJson intent.grant),
    ("issuance_id", jsonString intent.issuanceId), ("issuer_grant_id", jsonString intent.issuerGrantId),
    ("ledger_id", jsonString intent.ledgerId)]

def issuanceJson (record : AdminKeyIssuanceRecordV1) : List Char :=
  jsonObject [("decided_at", timeJson record.decidedAt), ("intent", issueIntentJson record.intent),
    ("issuer_at_acceptance", adminGrantJson record.issuerAtAcceptance)]

def genesisIntentJson (intent : AdminGenesisIntentV1) : List Char :=
  jsonObject [("birth_epoch", jsonString intent.birthEpoch), ("bootstrap_id", jsonString intent.bootstrapId),
    ("inventory_hash", jsonString intent.inventoryHash), ("ledger_id", jsonString intent.ledgerId),
    ("mother_node_id", jsonString intent.motherNodeId), ("root", adminGrantJson intent.root)]

def genesisJson (fact : AdminGenesisFactV1) : List Char :=
  jsonObject [("decided_at", timeJson fact.decidedAt), ("request", jsonObject [
    ("intent", genesisIntentJson fact.request.intent), ("signature", signatureJson fact.request.signature)])]

/-! ### Guardian recovery -/

def keyJson (key : RecoveryPublicKeyV1) : List Char :=
  jsonObject [("ed25519", halfJson key.ed25519), ("ml_dsa65", jsonString key.mlDsa65.hex)]

def recoverySignatureJson (signature : RecoverySignatureV1) : List Char := jsonString signature.text

def bindingJson (binding : OwnerBindingV1) : List Char :=
  jsonObject [("binding_id", jsonString binding.bindingId), ("epoch_id", jsonString binding.epochId),
    ("ledger_id", jsonString binding.ledgerId), ("mother_node_id", idJson binding.motherNodeId),
    ("root_generation", jsonNat binding.rootGeneration), ("root_key", keyJson binding.rootKey),
    ("voice_id", jsonString binding.voiceId.hex)]

def guardianJson (guardian : RecoveryGuardianV1) : List Char :=
  jsonObject [("mother_node_id", idJson guardian.motherNodeId),
    ("owner_binding_generation", jsonNat guardian.ownerBindingGeneration),
    ("owner_binding_id", jsonString guardian.ownerBindingId), ("signing_key", keyJson guardian.signingKey),
    ("voice_id", jsonString guardian.voiceId.hex)]

def policyJson (policy : GuardianRecoveryPolicyV1) : List Char :=
  jsonObject [("generation", jsonNat policy.generation), ("guardians", listJson guardianJson policy.guardians.toList),
    ("target", bindingJson policy.target)]

def enrollmentJson (enrollment : GuardianEnrollmentV1) : List Char :=
  jsonObject [("genesis", jsonObject [("possession", recoverySignatureJson enrollment.genesis.possession),
      ("public_key", keyJson enrollment.genesis.publicKey)]),
    ("genesis_authorization", recoverySignatureJson enrollment.genesisAuthorization),
    ("guardian_acceptances", listJson recoverySignatureJson enrollment.guardianAcceptances.toList),
    ("guardian_bindings", listJson bindingJson enrollment.guardianBindings.toList),
    ("guardian_owner_acceptances", listJson recoverySignatureJson enrollment.guardianOwnerAcceptances.toList),
    ("owner_authorization", recoverySignatureJson enrollment.ownerAuthorization),
    ("policy", policyJson enrollment.policy)]

def recoveryRequestJson (request : RecoveryRequestV1) : List Char :=
  jsonObject [("intent", jsonObject [("expires_at", timeJson request.intent.expiresAt),
      ("not_before", timeJson request.intent.notBefore), ("policy_digest", jsonString request.intent.policyDigest.hex),
      ("policy_generation", jsonNat request.intent.policyGeneration),
      ("replacement_key", keyJson request.intent.replacementKey), ("request_id", jsonString request.intent.requestId),
      ("target", bindingJson request.intent.target)]),
    ("replacement_possession", recoverySignatureJson request.replacementPossession)]

def approvalJson (approval : GuardianRecoveryApprovalV1) : List Char :=
  jsonObject [("expires_at", timeJson approval.expiresAt), ("guardian_node_id", idJson approval.guardianNodeId),
    ("issued_at", timeJson approval.issuedAt), ("signature", recoverySignatureJson approval.signature)]

def clockJson (clock : RecoveryClockV1) : List Char :=
  jsonObject [("monotonic_ms", jsonNat clock.monotonicMs), ("wall_time", timeJson clock.wallTime),
    ("writer_epoch", jsonString clock.writerEpoch)]

def pendingJson (pending : PendingGuardianRecoveryV1) : List Char :=
  jsonObject [("challenge", jsonOption (fun challenge : RecoveryChallengeV1 =>
      jsonObject [("expires_at", timeJson challenge.expiresAt), ("issued_at", timeJson challenge.issuedAt),
        ("value", jsonString challenge.value)]) pending.challenge),
    ("deadline", timeJson pending.deadline), ("request", recoveryRequestJson pending.request),
    ("wait_origin", clockJson pending.waitOrigin)]

def recoveryJson (recovery : GuardianRecoveryStateV1) : List Char :=
  jsonObject [("binding", bindingJson recovery.binding), ("clock", clockJson recovery.clock),
    ("consumed_challenges", listJson jsonString recovery.consumedChallenges.toList),
    ("consumed_request_ids", listJson jsonString recovery.consumedRequestIds.toList),
    ("enrollment", enrollmentJson recovery.enrollment), ("maintenance", jsonBool recovery.maintenance),
    ("pending", jsonOption pendingJson recovery.pending), ("policy", policyJson recovery.policy),
    ("retired_root_keys", listJson keyJson recovery.retiredRootKeys), ("revision", jsonNat recovery.revision)]

def actionJson : GuardianRecoveryActionV1 → List Char
  | .enroll enrollment => jsonObject [("action", jsonString "enroll"), ("enrollment", enrollmentJson enrollment)]
  | .initiate request approvals =>
    jsonObject [("action", jsonString "initiate"), ("approvals", listJson approvalJson approvals),
      ("request", recoveryRequestJson request)]
  | .issueChallenge challenge =>
    jsonObject [("action", jsonString "issue_challenge"), ("challenge", jsonString challenge)]
  | .complete approvals =>
    jsonObject [("action", jsonString "complete"), ("approvals", listJson approvalJson approvals)]
  | _ => []

def commandJson (command : GuardianRecoveryCommandV1) : List Char :=
  jsonObject [("action", actionJson command.action),
    ("expected_state", jsonOption (fun digest : RecoveryDigestV1 => jsonString digest.hex) command.expectedState)]

/-! ### Changes, facts and states -/

def changeJson : AuthorityChangeV1 → List Char
  | .adminKeyIssue request decidedAt =>
    jsonObject [("change_kind", jsonString "admin_key_issue"), ("decided_at", timeJson decidedAt),
      ("request", jsonObject [("intent", issueIntentJson request.intent), ("signature", signatureJson request.signature)])]
  | .guardianRecovery command clock =>
    jsonObject [("change_kind", jsonString "guardian_recovery"), ("clock", clockJson clock),
      ("command", commandJson command)]
  | .toyCatalogPut toyId contract authorityBearing catalogRevision admittedBy =>
    jsonObject [("admitted_by_observation_id", jsonString admittedBy), ("authority_bearing", jsonBool authorityBearing),
      ("catalog_revision", jsonNat catalogRevision), ("change_kind", jsonString "toy_catalog_put"),
      ("contract", contractJson canonicalObject contract), ("toy_id", jsonString toyId)]
  | .toyCatalogRemove toyId =>
    jsonObject [("change_kind", jsonString "toy_catalog_remove"), ("toy_id", jsonString toyId)]
  | .toyGrantPut grantId toyId subject scope constraints grantState issuerId policyRevision revision observationId =>
    jsonObject [("authority_observation_id", jsonString observationId),
      ("change_kind", jsonString "toy_grant_put"), ("constraints", constraintsJson canonicalObject constraints),
      ("grant_id", jsonString grantId), ("grant_state", toyGrantStateJson grantState),
      ("issuer_id", jsonString issuerId), ("policy_revision", jsonNat policyRevision),
      ("scope", toyScopeJson canonicalObject scope), ("source_grants_revision", jsonNat revision),
      ("subject", subjectJson canonicalObject subject), ("toy_id", jsonString toyId)]
  | .toyGrantRemove grantId =>
    jsonObject [("change_kind", jsonString "toy_grant_remove"), ("grant_id", jsonString grantId)]
  | .watchScopePut scope =>
    jsonObject [("change_kind", jsonString "watch_scope_put"), ("scope", watchScopeJson canonicalObject scope)]
  | .adminKeyGrantPut grant signature =>
    jsonObject ([("change_kind", jsonString "admin_key_grant_put"), ("grant", adminGrantJson grant)] ++
      present "signature" signatureJson signature)
  | .adminKeyGrantRevoke grantId signature =>
    jsonObject ([("change_kind", jsonString "admin_key_grant_revoke"), ("grant_id", jsonString grantId)] ++
      present "signature" signatureJson signature)
  | .pairingTicketIssued ticketHash endpoint startsAt expiresAt signature =>
    jsonObject ([("change_kind", jsonString "pairing_ticket_issued")] ++ present "peer_endpoint_id" jsonString endpoint ++
      present "signature" signatureJson signature ++ [("ticket_hash", jsonString ticketHash)] ++
      present "window_expires_at" timeJson expiresAt ++ present "window_starts_at" timeJson startsAt)
  | .pairingTicketConsumed ticketHash admission signature =>
    jsonObject (present "admission" admissionJson admission ++ [("change_kind", jsonString "pairing_ticket_consumed")] ++
      present "signature" signatureJson signature ++ [("ticket_hash", jsonString ticketHash)])

def commandKindJson (kind : GrantShapingCommandKindV1) : List Char :=
  nameOf ["authorize_slate", "authorize_secret", "catalog_change", "grant_change"] kind.ctorIdx

def sourceJson : GrantShapingSourceV1 → List Char
  | .operatorDecision decisionId principal commandKind =>
    jsonObject [("authenticated_principal_ref", jsonString principal), ("command_kind", commandKindJson commandKind),
      ("decision_id", jsonString decisionId), ("source_kind", jsonString "operator_decision")]
  | .childApproval childName artifactId artifactVersion observationId =>
    jsonObject [("artifact_id", jsonString artifactId), ("artifact_version", jsonString artifactVersion),
      ("authority_observation_id", jsonString observationId), ("child_name", jsonString childName),
      ("source_kind", jsonString "child_approval")]
  | .childAssignment assignmentId observationId =>
    jsonObject [("assignment_id", jsonString assignmentId), ("authority_observation_id", jsonString observationId),
      ("source_kind", jsonString "child_assignment")]
  | .adminKey publicHalf =>
    jsonObject [("public_half", halfJson publicHalf), ("source_kind", jsonString "admin_key")]

def intentJson (changes : List AuthorityChangeV1) (sources : List GrantShapingSourceV1) : List Char :=
  jsonObject [("changes", listJson changeJson changes), ("grant_shaping_sources", listJson sourceJson sources)]

def mutationJson (fact : AuthorityMutationFactV1) : List Char :=
  jsonObject [("authority_epoch", jsonString fact.authorityEpoch),
    ("changes", listJson changeJson fact.changes), ("decided_at", jsonString fact.decidedAt),
    ("grant_shaping_sources", listJson sourceJson fact.grantShapingSources),
    ("ledger_id", jsonString fact.ledgerId), ("mother_node_id", jsonString fact.motherNodeId),
    ("mutation_id", jsonString fact.mutationId), ("mutation_intent_hash", jsonString fact.mutationIntentHash),
    ("prior_state", referenceJson fact.priorState), ("resulting_state", referenceJson fact.resultingState)]

/-- An imported state, which has no passkey record. -/
def stateJson (state : AuthorityStateV1) : List Char :=
  jsonObject (present "admin_genesis" genesisJson state.adminGenesis ++
    (if state.adminIssuance.isEmpty then [] else [("admin_issuance", mapJson issuanceJson state.adminIssuance)]) ++
    [("admin_key_grants", mapJson adminGrantJson state.adminKeyGrants)] ++
    present "guardian_recovery" recoveryJson state.guardianRecovery ++
    [("pairing_tickets", mapJson ticketJson state.pairingTickets),
      ("toy_catalog", mapJson (toyJson canonicalObject) state.toyCatalog),
      ("toy_grants", mapJson (toyGrantJson canonicalObject) state.toyGrants),
      ("watch_scopes", mapJson (watchScopeJson canonicalObject) state.watchScopes)])

def importJson (fact : LegacyAuthorityImportFactV1) : List Char :=
  jsonObject [("authority_epoch", jsonString fact.authorityEpoch), ("import_id", jsonString fact.importId),
    ("imported_state", stateJson fact.importedState), ("ledger_id", jsonString fact.ledgerId),
    ("mother_node_id", jsonString fact.motherNodeId),
    ("operator_decision", jsonObject [
      ("authenticated_principal_ref", jsonString fact.operatorDecision.authenticatedPrincipalRef),
      ("confirmation", jsonString fact.operatorDecision.confirmation),
      ("decided_at", jsonString fact.operatorDecision.decidedAt),
      ("decision_id", jsonString fact.operatorDecision.decisionId)]),
    ("prior_state", referenceJson fact.priorState), ("resulting_state", referenceJson fact.resultingState),
    ("source_evidence", jsonObject [
      ("config_authority_hash", jsonString fact.sourceEvidence.configAuthorityHash),
      ("sqlite_authority_hash", jsonString fact.sourceEvidence.sqliteAuthorityHash)])]

/-- A list that is left out when it is empty. -/
def filled {α : Type} (name : String) (write : α → List Char) (values : List α) : Members :=
  if values.isEmpty then [] else [(name, listJson write values)]

def hashableJson (state : HashableAuthorityState) : List Char :=
  jsonObject (filled "admin_key_grants" adminGrantJson state.adminKeyGrants ++
    filled "pairing_tickets" ticketJson state.pairingTickets ++
    [("toy_catalog", listJson (toyJson canonicalObject) state.toyCatalog),
      ("toy_grants", listJson (toyGrantJson canonicalObject) state.toyGrants)] ++
    filled "watch_scopes" (watchScopeJson canonicalObject) state.watchScopes)

/-- The records of strict administration and of guardian recovery; the runs here hash no passkey record. -/
def canonicalJson : CanonicalRecord → List UInt8
  | .mutationIntent changes sources => bytes (intentJson changes sources)
  | .state state => bytes (hashableJson state)
  | .guardianState state recovery =>
    bytes (jsonArray [jsonString "mct-guardian-authority-state/v1", hashableJson state, recoveryJson recovery])
  | .issuanceState state recovery issuance =>
    bytes (jsonArray [jsonString "mct-admin-issuance-authority-state/v1", hashableJson state,
      jsonOption recoveryJson recovery, mapJson issuanceJson issuance])
  | .strictState state recovery issuance genesis =>
    bytes (jsonArray [jsonString "mct-strict-admin-authority-state/v1", hashableJson state,
      jsonOption recoveryJson recovery, mapJson issuanceJson issuance, jsonOption genesisJson genesis])
  | .grant grant => bytes (adminGrantJson grant)
  | .change change => bytes (changeJson change)
  | .adminKeyIssue intent => bytes (jsonArray [jsonString "mct-admin-key-issue/v1", issueIntentJson intent])
  | .adminGenesis intent => bytes (jsonArray [jsonString "mct-admin-genesis/v1", genesisIntentJson intent])
  | _ => []

def envelopeText (body : List Char) (kind : FactKind) (factId : String) : List Char :=
  jsonObject [("body", body), ("fact_id", jsonString factId), ("fact_kind", jsonString kind.text),
    ("schema", jsonString authorityFactSchema)]

def envelopeJson (envelope : CanonicalAuthorityEnvelopeV1) : List Char :=
  jsonObject [("body", envelope.body.text.toList), ("fact_id", jsonString envelope.factId),
    ("fact_kind", jsonString envelope.factKind), ("schema", jsonString envelope.schema)]

/-! ## Serialisers -/

def text (cs : List Char) : String := String.ofList cs

theorem text_injective : Function.Injective text := fun _ _ h => by simpa [text] using congrArg String.toList h

theorem bytes_injective : Function.Injective bytes := by
  intro cs cs' h
  apply text_injective
  apply String.toByteArray_inj.mp
  simp only [text, String.toByteArray_ofList, List.utf8Encode]
  rw [show cs.flatMap String.utf8EncodeChar = cs'.flatMap String.utf8EncodeChar from h]

theorem json_injective : Function.Injective fun cs => Json.mk (text cs) := fun _ _ h =>
  text_injective (Json.mk.inj h)

def numeralChars (n : ℕ) : List Char := 'x' :: (List.replicate n 'x' ++ ['x'])

theorem numeralChars_injective : Function.Injective numeralChars := by
  intro a b h
  have := congrArg List.length h
  simpa [numeralChars] using this

section Codecs

variable {α β : Type} [Countable α]

variable (wrap : List Char → β) (json : α → List Char) (part : α → Prop) [DecidablePred part]

/-- The codec that writes the values of a part as JSON. -/
noncomputable def jsonCodec : Codec α β :=
  .ofInjective (Codec.partWriter part (fun n => wrap (numeralChars n)) fun a => wrap (json a))

theorem jsonCodec_cases (a : α) :
    (∃ n, (jsonCodec wrap json part).encode a = wrap (numeralChars n)) ∨
      (jsonCodec wrap json part).encode a = wrap (json a) := by
  rw [jsonCodec, Codec.ofInjective_encode]
  exact Codec.partWriter_cases a

variable {wrap json part}

theorem jsonCodec_lawful (hwrap : Function.Injective wrap) (hobject : ∀ a, ∃ members, json a = jsonObject members)
    (hjson : ∀ a a', part a → part a' → json a = json a' → a = a') : (jsonCodec wrap json part).Lawful := by
  apply Codec.ofInjective_lawful
  refine Codec.partWriter_injective (hwrap.comp numeralChars_injective) ?_ fun a a' ha ha' h => hjson a a' ha ha' (hwrap h)
  intro a n h
  obtain ⟨members, hmembers⟩ := hobject a
  have hnumeral := (hwrap h).trans hmembers
  simp [numeralChars, jsonObject] at hnumeral

theorem jsonCodec_encode {a : α} (h : part a) : (jsonCodec wrap json part).encode a = wrap (json a) := by
  rw [jsonCodec, Codec.ofInjective_encode, Codec.partWriter_of h]

variable [DecidableEq α]

noncomputable def sampled (wrap : List Char → β) (json : α → List Char) (values : List α) : Codec α β :=
  jsonCodec wrap json (· ∈ values)

theorem sampled_nodup {values : List α} (hwrap : Function.Injective wrap)
    (hobject : ∀ a, ∃ members, json a = jsonObject members) (h : (values.map json).Nodup) :
    (sampled wrap json values).Lawful :=
  jsonCodec_lawful hwrap hobject fun _ _ ha ha' heq => List.inj_on_of_nodup_map h ha ha' heq

end Codecs

/-! ### Entries -/

/-- The spelling of a time names its instant, as in every value of the Rust type. -/
def Spelled (time : Timestamp) : Prop := (parseRfc3339 time.value).toOption = some time.epochNanoseconds

instance (time : Timestamp) : Decidable (Spelled time) := inferInstanceAs (Decidable (_ = _))

theorem Spelled.eq {t t' : Timestamp} (h : Spelled t) (h' : Spelled t') (hvalue : t.value = t'.value) : t = t' := by
  unfold Spelled at h h'
  rw [hvalue, h', Option.some.injEq] at h
  cases t
  cases t'
  cases hvalue
  cases h
  rfl

noncomputable def writtenEntry : Codec MctObservationLedgerEntry (List UInt8) :=
  jsonCodec bytes entryJson fun e => Spelled e.observation.observedAt

theorem writtenEntry_lawful : writtenEntry.Lawful :=
  jsonCodec_lawful bytes_injective (fun _ => ⟨_, rfl⟩) fun _ _ he he' h => entryJson_inj (he.eq he') h

def jsonBlank (byte : UInt8) : Bool := byte == 32 || byte == 9 || byte == 10 || byte == 13

/-- **The codec of the entries**: JSON, but for times that are misspelled; white space may follow what is read. -/
noncomputable def entryCodec : Codec MctObservationLedgerEntry (List UInt8) :=
  writtenEntry.preparing (List.rdropWhile jsonBlank)

theorem entryCodec_writes : entryCodec.encode = writtenEntry.encode := by rw [entryCodec, Codec.preparing_encode]

theorem entryCodec_reads (line : List UInt8) :
    entryCodec.decode line = writtenEntry.decode (line.rdropWhile jsonBlank) := by
  rw [entryCodec, Codec.preparing_decode]

theorem writtenEntry_decode {line : List UInt8} {e : MctObservationLedgerEntry} (h : writtenEntry.decode line = .ok e) :
    writtenEntry.encode e = line := by
  rw [writtenEntry, jsonCodec] at h
  rw [writtenEntry, jsonCodec, Codec.ofInjective_encode]
  exact Codec.ofInjective_decode h

theorem entryCodec_encode {e : MctObservationLedgerEntry} (h : Spelled e.observation.observedAt) :
    entryCodec.encode e = bytes (entryJson e) := by
  rw [entryCodec_writes]
  exact jsonCodec_encode h

theorem entryCodec_cases (e : MctObservationLedgerEntry) :
    (∃ n, entryCodec.encode e = bytes (numeralChars n)) ∨ entryCodec.encode e = bytes (entryJson e) := by
  rw [entryCodec_writes]
  exact jsonCodec_cases _ _ _ e

theorem bytes_ends (first last : Char) (middle : List Char) (hf : String.utf8EncodeChar first = [UInt8.ofNat first.toNat])
    (hl : String.utf8EncodeChar last = [UInt8.ofNat last.toNat]) :
    bytes (first :: (middle ++ [last])) = UInt8.ofNat first.toNat :: (bytes middle ++ [UInt8.ofNat last.toNat]) := by
  simp [bytes, hf, hl]

theorem entryCodec_ends (e : MctObservationLedgerEntry) :
    ∃ first middle last, entryCodec.encode e = first :: (middle ++ [last]) ∧ (first = 120 ∨ first = 123) ∧
      jsonBlank last = false := by
  rcases entryCodec_cases e with ⟨n, h⟩ | h
  · exact ⟨_, _, _, h.trans (bytes_ends 'x' 'x' (List.replicate n 'x') (by decide) (by decide)), .inl rfl, by decide⟩
  · exact ⟨_, _, _, h.trans (bytes_ends '\x7b' '\x7d' _ (by decide) (by decide)), .inr rfl, by decide⟩

theorem entryCodec_line (e : MctObservationLedgerEntry) : 10 ∉ entryCodec.encode e := by
  rcases entryCodec_cases e with ⟨n, h⟩ | h
  · rw [h]
    apply bytes_line
    simp [numeralChars, List.mem_replicate]
  · rw [h]
    exact bytes_line (entryJson_line e)

theorem entryCodec_lawful : entryCodec.Lawful := by
  refine writtenEntry_lawful.preparing fun e => ?_
  obtain ⟨first, middle, last, hends, -, hlast⟩ := entryCodec_ends e
  rw [← entryCodec_writes, hends, ← List.cons_append]
  exact List.rdropWhile_concat_neg _ _ _ (by rw [hlast]; decide)

attribute [irreducible] writtenEntry entryCodec

/-! ## The host -/

/-- The facts that a host writes as JSON. -/
structure Contents where
  births : List AdminGenesisFactV1 := []
  epochs : List EpochEstablishedFactV1 := []
  mutations : List AuthorityMutationFactV1 := []
  imports : List LegacyAuthorityImportFactV1 := []

namespace Contents

variable (c : Contents)

def envelopes : List CanonicalAuthorityEnvelopeV1 :=
  let envelope (kind : FactKind) (factId : String) (body : List Char) : CanonicalAuthorityEnvelopeV1 :=
    ⟨authorityFactSchema, kind.text, factId, ⟨text body⟩⟩
  (c.births.map fun fact => envelope .adminGenesis fact.factId (genesisJson fact)) ++
    (c.epochs.map fun fact => envelope .epochEstablished fact.factId (epochJson fact)) ++
    (c.mutations.map fun fact => envelope .authorityMutation fact.factId (mutationJson fact)) ++
    c.imports.map fun fact => envelope .legacyAuthorityImport fact.factId (importJson fact)

def envelopeTexts : List (List Char) :=
  (c.births.map fun fact => envelopeText (genesisJson fact) .adminGenesis fact.factId) ++
    (c.epochs.map fun fact => envelopeText (epochJson fact) .epochEstablished fact.factId) ++
    (c.mutations.map fun fact => envelopeText (mutationJson fact) .authorityMutation fact.factId) ++
    c.imports.map fun fact => envelopeText (importJson fact) .legacyAuthorityImport fact.factId

theorem envelopes_json : c.envelopes.map envelopeJson = c.envelopeTexts := by
  simp only [envelopes, envelopeTexts, envelopeText, envelopeJson, text, List.map_append, List.map_map,
    Function.comp_def, String.toList_ofList]

/-- The texts of the facts and of their envelopes are different. -/
def Distinct : Prop :=
  (c.births.map genesisJson).Nodup ∧ (c.epochs.map epochJson).Nodup ∧ (c.mutations.map mutationJson).Nodup ∧
    (c.imports.map importJson).Nodup ∧ c.envelopeTexts.Nodup

instance : Decidable c.Distinct := inferInstanceAs (Decidable (_ ∧ _))

end Contents

@[reducible] noncomputable def hostOf (c : Contents) : LedgerHost where
  toKernelHost := { Recovery.Sample.host with blake3 := Blake3.hash }
  entry := entryCodec
  envelope := sampled text envelopeJson c.envelopes
  epochEstablished := sampled (fun cs => ⟨text cs⟩) epochJson c.epochs
  authorityMutation := sampled (fun cs => ⟨text cs⟩) mutationJson c.mutations
  legacyAuthorityImport := sampled (fun cs => ⟨text cs⟩) importJson c.imports
  adminGenesis := sampled (fun cs => ⟨text cs⟩) genesisJson c.births
  passkeyAdmin := sampled (fun cs => ⟨text cs⟩) (fun _ => jsonObject []) []
  canonicalJson := canonicalJson
  watchScopeMaterial scope := bytes (jsonObject (watchScopeMembers jsonObject scope))
  validateWebAuthnKey _ := .error ⟨"no passkey here"⟩
  verifyWebAuthnAssertion _ _ _ _ _ := .error ⟨"no passkey here"⟩
  verifyDayKeySignature _ _ _ _ := .error ⟨"no day key here"⟩

variable {c : Contents}

theorem hostOf_serde (h : c.Distinct) : @SerdeRoundTrip (hostOf c) := by
  obtain ⟨hbirths, hepochs, hmutations, himports, henvelopes⟩ := h
  rw [← c.envelopes_json] at henvelopes
  refine @SerdeRoundTrip.mk (hostOf c) entryCodec_lawful entryCodec_line ?_ ?_ ?_ ?_ ?_ ?_
  · exact sampled_nodup text_injective (fun _ => ⟨_, rfl⟩) henvelopes
  · exact sampled_nodup json_injective (fun _ => ⟨_, rfl⟩) hepochs
  · exact sampled_nodup json_injective (fun _ => ⟨_, rfl⟩) hmutations
  · exact sampled_nodup json_injective (fun _ => ⟨_, rfl⟩) himports
  · exact sampled_nodup json_injective (fun _ => ⟨_, rfl⟩) hbirths
  · exact sampled_nodup json_injective (fun _ => ⟨_, rfl⟩) (by simp)

def stateHash (state : AuthorityStateV1) : String := Blake3.hash (canonicalJson state.canonicalRecord)

theorem stateHash_of_checked {state : AuthorityStateV1} (h : @StateChecked (hostOf c) state) :
    @authorityStateHash (hostOf c) state = .ok (stateHash state) := by
  let _ := hostOf c
  exact authorityStateHash_ok.mpr ⟨h, rfl⟩

end Mct.Sample
