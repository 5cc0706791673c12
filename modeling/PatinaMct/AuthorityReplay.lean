import PatinaMct.AuthorityChanges
/-!
# AuthorityReplay — folding ledger entries into the authority state

`foldAuthorityEntry` reads one ledger entry.  An entry whose detail does not start with the authority mark leaves the
state as it is.  Every other entry is a canonical fact of one of five kinds, and each kind has its own validation
against the replay so far.  A refused entry ends the replay, so what a refusal may have written before it is not kept.
-/
namespace Mct

open Checked
open Recovery (GuardianRecoveryActionV1 TextSet)

variable [LedgerHost]

def authorityFactDetailStart : String := "mct-authority-fact-v1:"
def authorityFactSchema : String := "mct-authority-fact/v1"
def legacyAuthorityImportConfirmation : String := "import-existing-toy-authority-as-canonical-v1"

/-! ## The envelope -/

def encodeAuthorityFact (factKind factId : String) (body : Json) : String :=
  authorityFactDetailStart ++ LedgerHost.envelope.encode ⟨authorityFactSchema, factKind, factId, body⟩

/-! ## Mutation requests -/

def authorityChangeSortKey : AuthorityChangeV1 → String × String
  | .guardianRecovery _ _ => ("guardian_recovery", "")
  | .adminKeyIssue request _ => ("admin_key_issue", request.intent.grant.grantId)
  | .toyCatalogPut toyId _ _ _ _ => ("toy_catalog_put", toyId)
  | .toyCatalogRemove toyId => ("toy_catalog_remove", toyId)
  | .toyGrantPut grantId _ _ _ _ _ _ _ _ _ => ("toy_grant_put", grantId)
  | .toyGrantRemove grantId => ("toy_grant_remove", grantId)
  | .watchScopePut scope => ("watch_scope_put", scope.watchScopeId.value)
  | .adminKeyGrantPut grant _ => ("admin_key_grant_put", grant.grantId)
  | .adminKeyGrantRevoke grantId _ => ("admin_key_grant_revoke", grantId)
  | .pairingTicketIssued ticketHash _ _ _ _ => ("pairing_ticket_issued", ticketHash)
  | .pairingTicketConsumed ticketHash _ _ => ("pairing_ticket_consumed", ticketHash)

def sortKeyLt (a b : String × String) : Bool :=
  decide (a.1 < b.1) || (a.1 == b.1 && decide (a.2 < b.2))

def grantShapingSourceIsComplete : GrantShapingSourceV1 → Bool
  | .adminKey publicHalf => publicHalf.scheme == .ed25519
  | _ => true

/-- **The hash of what a mutation asks for**: its changes and their sources, not its id or its time. -/
def authorityMutationIntentHash (request : AuthorityMutationRequestV1) : Except AuthorityReplayFailure String := do
  deny (trimmedEmpty request.mutationId || request.changes.isEmpty || request.grantShapingSources.isEmpty ||
      !(Timestamp.new request.decidedAt).isOk ||
      request.grantShapingSources.any fun source => !grantShapingSourceIsComplete source)
    ⟨"authority mutation request is incomplete"⟩
  deny (!ascending sortKeyLt (request.changes.map authorityChangeSortKey))
    ⟨"authority changes are not strictly canonically ordered"⟩
  return canonicalHash (.mutationIntent request.changes request.grantShapingSources)

def validateIssuanceContext (usedGrantIds : TextSet) (changes : List AuthorityChangeV1)
    (authority : GrantsAuthorityIdentityV1) (ledgerId mutationId decisionTime : String) : Except String Unit :=
  forM changes fun change =>
    match change with
    | .adminKeyIssue request decidedAt =>
      deny (usedGrantIds.contains request.intent.grant.grantId ||
          request.intent.expectedAuthority.grantsAuthority ≠ authority || request.intent.ledgerId ≠ ledgerId ||
          request.intent.issuanceId ≠ mutationId || decidedAt.value ≠ decisionTime)
        "issuance does not name the current target, epoch, generation and command"
    | _ => .ok ()

def recoveryBinding (state : AuthorityStateV1) : GuardianRecoveryActionV1 → Except String Recovery.OwnerBindingV1
  | .enroll enrollment => .ok enrollment.policy.target
  | _ => okOr (state.guardianRecovery.map (·.binding)) "recovery is not enrolled"

def enrollsRecovery : GuardianRecoveryActionV1 → Bool
  | .enroll _ => true
  | _ => false

def validateGuardianContext (state : AuthorityStateV1) (changes : List AuthorityChangeV1)
    (authority : GrantsAuthorityIdentityV1) (ledgerId decidedAt : String) : Except String Unit :=
  forM changes fun change =>
    match change with
    | .guardianRecovery command clock => do
      deny (clock.writerEpoch ≠ authority.authorityEpoch || clock.wallTime.value ≠ decidedAt)
        "recovery clock is not this canonical writer tenure/time"
      let binding ← recoveryBinding state command.action
      deny (binding.motherNodeId.value ≠ authority.motherNodeId || binding.ledgerId ≠ ledgerId ||
          (enrollsRecovery command.action && binding.epochId ≠ authority.authorityEpoch))
        "recovery targets a different Mother, ledger or enrollment epoch"
    | _ => .ok ()

/-! ## Epoch facts -/

def completeOperatorEvidence (decisionId principalRef : Option String) : Bool :=
  (decisionId.any fun value => !trimmedEmpty value) && principalRef.any fun value => !trimmedEmpty value

def noOperatorEvidence (decisionId principalRef : Option String) : Bool :=
  decisionId.isNone && principalRef.isNone

/-- The startup class fits the head and the authority before it. -/
def epochStartupRelation (previous : Option (Nat × String)) (replay : AuthorityReplayV1)
    (fact : EpochEstablishedFactV1) : Bool :=
  let est := fact.establishment
  let ungated := noOperatorEvidence est.operatorGateDecisionId est.authenticatedPrincipalRef
  let complete := completeOperatorEvidence est.operatorGateDecisionId est.authenticatedPrincipalRef
  match replay.currentAuthority, previous, est.startupClass with
  | none, none, .virgin => fact.predecessor == .noneForVirgin && ungated
  | none, none, .operatorGatedNonvirgin => fact.predecessor == .noneAfterOperatorReinitialization && complete
  | none, some _, .operatorGatedNonvirgin =>
    replay.tailRecoveryOnly && (fact.predecessor == .noneAfterOperatorReinitialization && complete)
  | none, some (sequence, hash), .legacyLedgerUpgrade => fact.predecessor == .validatedHead sequence hash && ungated
  | some _, some (sequence, hash), .ordinaryReopen => fact.predecessor == .validatedHead sequence hash && ungated
  | _, _, _ => false

def AuthorityReplayV1.generation (replay : AuthorityReplayV1) : Nat :=
  (replay.currentAuthority.map (·.generation)).getD 0

def validateEpochFact (previous : Option (Nat × String)) (entry : MctObservationLedgerEntry)
    (replay : AuthorityReplayV1) (usedEpochs : TextSet) (fact : EpochEstablishedFactV1) :
    Except AuthorityReplayError Unit := do
  let incoherent := AuthorityReplayError.incoherent entry.localSequence
  let expectedHash ← mapErr (fun e => incoherent e.text) (authorityStateHash replay.state)
  deny (entry.observation.kind ≠ .lifecycleTransitionRecorded || entry.observation.sourcePlane ≠ .storage ||
      entry.durabilityClass ≠ .beforeEffect || entry.observation.visibility ≠ .nodeOperator ||
      entry.observation.subjectId ≠ some entry.motherNodeId || entry.observation.resourceId ≠ some entry.ledgerId ||
      entry.observation.grantsRevision ≠ some fact.generationBaseline)
    (incoherent "epoch observation carrier fields do not match schema")
  deny (fact.motherNodeId ≠ entry.motherNodeId || fact.ledgerId ≠ entry.ledgerId ||
      !epochStartupRelation previous replay fact || !(Timestamp.new fact.establishment.startedAt).isOk ||
      fact.generationBaseline ≠ replay.generation || fact.priorAuthority ≠ replay.currentAuthority ||
      fact.grantStateHash ≠ expectedHash || usedEpochs.contains fact.authorityEpoch ||
      !startsWith fact.authorityEpoch authorityEpochStart ||
      fact.authorityEpoch.utf8ByteSize ≠ authorityEpochStart.utf8ByteSize + 64)
    (incoherent "epoch body does not match replayed predecessor state")
  deny (fact.resultingAuthority ≠
      ⟨entry.motherNodeId, fact.authorityEpoch, fact.generationBaseline, entry.observation.observationId.value⟩)
    (incoherent "epoch resulting authority identity is invalid")

/-! ## Mutations and the legacy import -/

/-- The carrier fields that both kinds of operator facts share. -/
def operatorCarrierMismatch (entry : MctObservationLedgerEntry) (plane : SourcePlane) (generation : Nat) : Bool :=
  entry.observation.kind ≠ .operatorActionRecorded || entry.observation.sourcePlane ≠ plane ||
    entry.durabilityClass ≠ .beforeEffect || entry.observation.visibility ≠ .nodeOperator ||
    entry.observation.subjectId ≠ some entry.motherNodeId || entry.observation.resourceId ≠ some entry.ledgerId ||
    entry.observation.grantsRevision ≠ some generation

def AuthorityStateV1.typedAuthority (state : AuthorityStateV1) : Bool :=
  state.passkeyAdmin.isSome || state.adminGenesis.isSome || state.guardianRecovery.isSome ||
    !state.adminIssuance.isEmpty

def validateLegacyImportFact (entry : MctObservationLedgerEntry) (replay : AuthorityReplayV1)
    (fact : LegacyAuthorityImportFactV1) : Except AuthorityReplayError Unit := do
  let incoherent := AuthorityReplayError.incoherent entry.localSequence
  deny (replay.state.typedAuthority || fact.importedState.typedAuthority)
    (incoherent "legacy import cannot introduce or overwrite recovery authority")
  let prior ← okOr replay.currentAuthority (incoherent "legacy import precedes epoch establishment")
  let priorHash ← mapErr (fun e => incoherent e.text) (authorityStateHash replay.state)
  mapErr incoherent (validateWatchScopeState fact.importedState)
  let importedHash ← mapErr (fun e => incoherent e.text) (authorityStateHash fact.importedState)
  let generation ← okOr (checkedAdd prior.generation 1) (incoherent "authority generation overflow")
  deny (operatorCarrierMismatch entry .operator generation || fact.motherNodeId ≠ entry.motherNodeId ||
      fact.ledgerId ≠ entry.ledgerId || fact.authorityEpoch ≠ prior.authorityEpoch ||
      fact.operatorDecision.confirmation ≠ legacyAuthorityImportConfirmation ||
      fact.priorState.grantsAuthority ≠ prior || fact.priorState.authorityStateHash ≠ priorHash ||
      fact.resultingState.grantsAuthority ≠
        ⟨entry.motherNodeId, prior.authorityEpoch, generation, entry.observation.observationId.value⟩ ||
      fact.resultingState.authorityStateHash ≠ importedHash ||
      fact.sourceEvidence.sqliteAuthorityHash ≠ importedHash)
    (incoherent "legacy import does not match replayed prior/imported state")

def AuthorityMutationFactV1.request (fact : AuthorityMutationFactV1) : AuthorityMutationRequestV1 :=
  ⟨fact.mutationId, fact.changes, fact.grantShapingSources, fact.decidedAt⟩

def validateAuthorityMutationFact (entry : MctObservationLedgerEntry) (replay : AuthorityReplayV1)
    (fact : AuthorityMutationFactV1) : Except AuthorityReplayError AuthorityStateV1 := do
  let incoherent := AuthorityReplayError.incoherent entry.localSequence
  let prior ← okOr replay.currentAuthority (incoherent "authority mutation precedes epoch establishment")
  let expectedIntent ← mapErr (fun e => incoherent e.text) (authorityMutationIntentHash fact.request)
  let priorHash ← mapErr (fun e => incoherent e.text) (authorityStateHash replay.state)
  mapErr incoherent (verifyAdminChangeSignatures replay.state replay.adminSignatureNonces fact.motherNodeId
    fact.ledgerId fact.changes)
  mapErr incoherent (validateIssuanceContext replay.adminGrantIds fact.changes prior entry.ledgerId fact.mutationId
    fact.decidedAt)
  mapErr incoherent (validateGuardianContext replay.state fact.changes prior entry.ledgerId fact.decidedAt)
  let resulting ← mapErr (fun e => incoherent e.text) (applyAuthorityChanges replay.state fact.changes)
  let resultingHash ← mapErr (fun e => incoherent e.text) (authorityStateHash resulting)
  let generation ← okOr (checkedAdd prior.generation 1) (incoherent "authority generation overflow")
  deny (operatorCarrierMismatch entry .kernel generation || fact.motherNodeId ≠ entry.motherNodeId ||
      fact.ledgerId ≠ entry.ledgerId || fact.authorityEpoch ≠ prior.authorityEpoch ||
      fact.mutationIntentHash ≠ expectedIntent || fact.priorState.grantsAuthority ≠ prior ||
      fact.priorState.authorityStateHash ≠ priorHash ||
      fact.resultingState.grantsAuthority ≠
        ⟨entry.motherNodeId, prior.authorityEpoch, generation, entry.observation.observationId.value⟩ ||
      fact.resultingState.authorityStateHash ≠ resultingHash)
    (incoherent "authority mutation does not match replayed prior/resulting state")
  return resulting

end Mct
