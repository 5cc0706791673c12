import PatinaMct.AuthorityState
/-!
# AuthorityChanges — signed changes and what they do to the state

`applyAuthorityChanges` with everything it calls.  Issuance and guardian recovery are exclusive transitions: a change
list that holds one of them holds nothing else.  The other changes are applied one after the other and stop at the
first that does not fit.
-/
namespace Mct

open Checked
open Recovery (GuardianRecoveryActionV1 GuardianRecoveryCommandV1 GuardianRecoveryStateV1 RecoveryClockV1)

variable [LedgerHost]

/-! ## Signatures of changes -/

def changeSignature : AuthorityChangeV1 → Option AdminSignatureV1
  | .adminKeyIssue request _ => some request.signature
  | .adminKeyGrantPut _ signature => signature
  | .adminKeyGrantRevoke _ signature => signature
  | .pairingTicketIssued _ _ _ _ signature => signature
  | .pairingTicketConsumed _ _ signature => signature
  | _ => none

def commandWithoutSignature : AuthorityChangeV1 → AuthorityChangeV1
  | .adminKeyGrantPut grant _ => .adminKeyGrantPut grant none
  | .adminKeyGrantRevoke grantId _ => .adminKeyGrantRevoke grantId none
  | .pairingTicketIssued ticketHash endpoint starts expires _ =>
    .pairingTicketIssued ticketHash endpoint starts expires none
  | .pairingTicketConsumed ticketHash admission _ => .pairingTicketConsumed ticketHash admission none
  | change => change

def unsignedAdminCommandBytes : AuthorityChangeV1 → List UInt8
  | .adminKeyIssue request _ => LedgerHost.canonicalJson (.adminKeyIssue request.intent)
  | change => LedgerHost.canonicalJson (.change (commandWithoutSignature change))

def ownGrant (change : AuthorityChangeV1) (signerGrantId : String) : Option AdminKeyGrantV1 :=
  match change with
  | .adminKeyGrantPut grant _ => if grant.grantId = signerGrantId then some grant else none
  | _ => none

/-- A put may be signed by the grant it introduces; every other signer is an active grant of the prior state. -/
def signerGrant (prior : AuthorityStateV1) (change : AuthorityChangeV1) (signerGrantId : String) :
    Except String AdminKeyGrantV1 :=
  match ownGrant change signerGrantId, prior.adminKeyGrants[signerGrantId]? with
  | some grant, _ => .ok grant
  | none, some grant =>
    if grant.grantState = .active then .ok grant
    else .error s!"admin signature signer grant '{signerGrantId}' is not active"
  | none, none => .error s!"admin signature signer grant '{signerGrantId}' is not in the ledger"

def AuthorityChangeV1.isAdminKeyIssue : AuthorityChangeV1 → Bool
  | .adminKeyIssue _ _ => true
  | _ => false

def AuthorityChangeV1.isGuardianRecovery : AuthorityChangeV1 → Bool
  | .guardianRecovery _ _ => true
  | _ => false

def AuthorityChangeV1.isPairingTicketConsumed : AuthorityChangeV1 → Bool
  | .pairingTicketConsumed _ _ _ => true
  | _ => false

def verifyAdminChangeSignature (prior : AuthorityStateV1) (usedNonces seen : Finset (String × Nat))
    (motherNodeId ledgerId : String) (change : AuthorityChangeV1) (signature : AdminSignatureV1) :
    Except String Unit := do
  deny (signature.scheme ≠ .ed25519MlDsa65V1) "legacy commands require their original hybrid scheme"
  deny (change.isAdminKeyIssue && signature.signature.utf8ByteSize ≠ adminHybridSignatureLen * 2)
    "issuance signature has invalid encoded length"
  let nonceKey := (signature.signerGrantId, signature.nonce)
  deny (decide (nonceKey ∈ usedNonces) || decide (nonceKey ∈ seen))
    s!"admin signature nonce {signature.nonce} was already used for grant '{signature.signerGrantId}'"
  let grant ← signerGrant prior change signature.signerGrantId
  let mlDsa ← okOr grant.mlDsa65PublicKey
    "scheme v1 signature requires the ML-DSA-65 public key on the signer grant"
  let message := adminSignedMessage
    { scheme := signature.scheme, motherNodeId, ledgerId, nonce := signature.nonce,
      signerGrantCanonical := LedgerHost.canonicalJson (.grant grant),
      commandCanonical := unsignedAdminCommandBytes change }
  mapErr AdminSignatureError.text
    (KernelHost.verifyAdminHybridSignature grant.publicHalf mlDsa message signature.signature)

/-- The loop over the changes; `seen` are the nonces of the changes before. -/
def verifyAdminChangeSignaturesFrom (prior : AuthorityStateV1) (usedNonces : Finset (String × Nat))
    (motherNodeId ledgerId : String) : Finset (String × Nat) → List AuthorityChangeV1 → Except String Unit
  | _, [] => .ok ()
  | seen, change :: changes =>
    match changeSignature change with
    | none => verifyAdminChangeSignaturesFrom prior usedNonces motherNodeId ledgerId seen changes
    | some signature => do
      verifyAdminChangeSignature prior usedNonces seen motherNodeId ledgerId change signature
      verifyAdminChangeSignaturesFrom prior usedNonces motherNodeId ledgerId
        (insert (signature.signerGrantId, signature.nonce) seen) changes

def verifyAdminChangeSignatures (prior : AuthorityStateV1) (usedNonces : Finset (String × Nat))
    (motherNodeId ledgerId : String) (changes : List AuthorityChangeV1) : Except String Unit :=
  verifyAdminChangeSignaturesFrom prior usedNonces motherNodeId ledgerId ∅ changes

def recordAdminSignatureNonces (used : Finset (String × Nat)) (changes : List AuthorityChangeV1) :
    Finset (String × Nat) :=
  changes.foldl (fun used change =>
    match changeSignature change with
    | some signature => insert (signature.signerGrantId, signature.nonce) used
    | none => used) used

def changeNonces (changes : List AuthorityChangeV1) : List (String × Nat) :=
  (changes.filterMap changeSignature).map fun signature => (signature.signerGrantId, signature.nonce)

omit [LedgerHost] in
theorem mem_recordAdminSignatureNonces {changes : List AuthorityChangeV1} {used : Finset (String × Nat)}
    {nonce : String × Nat} :
    nonce ∈ recordAdminSignatureNonces used changes ↔ nonce ∈ used ∨ nonce ∈ changeNonces changes := by
  unfold recordAdminSignatureNonces changeNonces
  induction changes generalizing used with
  | nil => simp
  | cons change changes ih =>
    rw [List.foldl_cons, ih]
    cases hsig : changeSignature change with
    | none => rw [List.filterMap_cons_none hsig]
    | some sig =>
      rw [List.filterMap_cons_some hsig, List.map_cons, List.mem_cons, Finset.mem_insert]
      tauto

/-! ## Grants and tickets -/

variable (state : AuthorityStateV1)

def applyAdminKeyGrantPut (grant : AdminKeyGrantV1) :
    Except AuthorityReplayError AuthorityStateV1 := do
  mapErr authorityIncoherent (validateAdminKeyGrantShape grant)
  deny (grant.grantState ≠ .active)
    (authorityIncoherent "admin key grant put must be active; a revoke is not a put")
  match state.adminKeyGrants[grant.grantId]? with
  | some existing =>
    if existing.class_ = .recovery ∨ grant.class_ = .recovery then
      .error (authorityIncoherent "recovery grant cannot be revoked or replaced")
    else .error (authorityIncoherent "admin key grant id cannot be put again")
  | none => do
    deny (grant.class_ == .recovery && state.adminKeyGrants.values.any fun existing => existing.class_ == .recovery)
      (authorityIncoherent "a second recovery grant is not admitted")
    return { state with adminKeyGrants := state.adminKeyGrants.insert grant.grantId grant }

omit [LedgerHost] in
theorem applyAdminKeyGrantPut_ok {s s' : AuthorityStateV1} {g : AdminKeyGrantV1} :
    applyAdminKeyGrantPut s g = .ok s' ↔
      adminKeyGrantShapeError g = none ∧ g.grantState = .active ∧
        (s.adminKeyGrants[g.grantId]? = none ∧ (g.class_ = .recovery →
          ∀ existing ∈ s.adminKeyGrants.values, existing.class_ ≠ .recovery)) ∧
        s' = { s with adminKeyGrants := s.adminKeyGrants.insert g.grantId g } := by
  simp only [applyAdminKeyGrantPut, validateAdminKeyGrantShape, bind_ok, exists_unit, mapErr_ok, deny_ok,
    decide_eq_false_iff_not, not_not]
  cases hs : adminKeyGrantShapeError g with
  | some detail => simp
  | none =>
    cases hg : s.adminKeyGrants[g.grantId]? with
    | some existing =>
      simp only [true_and, reduceCtorEq, false_and, and_false, iff_false, not_and]
      intro _ h
      split at h <;> cases h
    | none =>
      simp only [bind_ok, exists_unit, deny_ok, pure_ok, true_and, Bool.and_eq_false_iff, beq_eq_false_iff_ne, ne_eq,
        List.any_eq_false, beq_iff_eq, ← imp_iff_not_or, @eq_comm _ s']

def applyAdminKeyGrantRevoke (grantId : String) :
    Except AuthorityReplayError AuthorityStateV1 := do
  deny (!nonEmptyToken grantId) (authorityIncoherent "admin key grant id is empty")
  let existing ← okOr state.adminKeyGrants[grantId]?
    (authorityIncoherent s!"cannot revoke missing admin key grant '{grantId}'")
  deny (existing.class_ == .recovery) (authorityIncoherent "recovery grant cannot be revoked")
  deny (existing.grantState ≠ .active) (authorityIncoherent "revoked admin key grant cannot be revoked again")
  return { state with adminKeyGrants := state.adminKeyGrants.insert grantId { existing with grantState := .revoked } }

/-- A signed ticket names its endpoint and a window that ends after it starts. -/
def checkSignedTicket (signed : Bool) (peerEndpointId : Option String)
    (windowStartsAt windowExpiresAt : Option Timestamp) : Except AuthorityReplayError Unit := do
  deny (signed && !nonEmptyToken (peerEndpointId.getD ""))
    (authorityIncoherent "pairing ticket carries the peer endpoint id")
  match signed, windowStartsAt, windowExpiresAt with
  | false, _, _ => .ok ()
  | true, some starts, some expires =>
    deny (!decide (starts < expires)) (authorityIncoherent "pairing ticket carries an expiry window")
  | true, _, _ => .error (authorityIncoherent "pairing ticket carries an expiry window")

def applyPairingTicketIssued (ticketHash : String) (peerEndpointId : Option String)
    (windowStartsAt windowExpiresAt : Option Timestamp) (signed : Bool) :
    Except AuthorityReplayError AuthorityStateV1 := do
  deny (!pairingTicketHashOk ticketHash) (authorityIncoherent "pairing ticket fact stores a hash only")
  checkSignedTicket signed peerEndpointId windowStartsAt windowExpiresAt
  deny (state.pairingTickets.contains ticketHash) (authorityIncoherent "pairing ticket hash is already recorded")
  return { state with
    pairingTickets := state.pairingTickets.insert ticketHash
      ⟨ticketHash, .issued, peerEndpointId, windowStartsAt, windowExpiresAt⟩ }

/-- The ticket is issued to this peer and its window is open at the admission, compared as instants. -/
def PairingTicketV1.admits (ticket : PairingTicketV1) (admission : PairingTicketAdmissionV1) : Bool :=
  ticket.state == .issued && ticket.peerEndpointId == some admission.authenticatedPeerEndpointId &&
    match ticket.windowStartsAt, ticket.windowExpiresAt with
    | some start, some stop =>
      match KernelHost.parseTimestamp start.value, KernelHost.parseTimestamp stop.value,
        KernelHost.parseTimestamp admission.admittedAt.value with
      | .ok start, .ok stop, .ok now => decide (start ≤ now) && decide (now < stop)
      | _, _, _ => false
    | _, _ => false

def validatePairingAdmission (ticketHash : String) (admission : PairingTicketAdmissionV1) :
    Except AuthorityReplayError Unit :=
  deny (!(state.pairingTickets[ticketHash]?.any fun ticket => ticket.admits admission))
    (authorityIncoherent "pairing ticket is unavailable for this authenticated peer and Mother time")

def applyPairingTicketConsumed (ticketHash : String) (admission : Option PairingTicketAdmissionV1) :
    Except AuthorityReplayError AuthorityStateV1 := do
  deny (!pairingTicketHashOk ticketHash) (authorityIncoherent "pairing ticket fact stores a hash only")
  forM admission.toList fun admission => validatePairingAdmission state ticketHash admission
  let ticket ← okOr state.pairingTickets[ticketHash]? (authorityIncoherent "pairing ticket hash was not issued")
  deny (ticket.state == .consumed) (authorityIncoherent "pairing ticket hash was already consumed")
  return { state with pairingTickets := state.pairingTickets.insert ticketHash { ticket with state := .consumed } }

/-! ## Toys and watch scopes -/

def coherentId {α : Type} (x : Except MctKernelError α) : Except AuthorityReplayError α :=
  mapErr (fun error => authorityIncoherent error.text) x

def applyToyCatalogPut (toyId : String) (contract : ToyContractIdentity) (authorityBearing : Bool)
    (catalogRevision : Nat) (admittedByObservationId : String) :
    Except AuthorityReplayError AuthorityStateV1 := do
  let toyIdValue ← coherentId (StringId.new "ToyId" toyId)
  let observationId ← coherentId (StringId.new "ObservationId" admittedByObservationId)
  return { state with
    toyCatalog := state.toyCatalog.insert toyId
      ⟨toyIdValue, contract, authorityBearing, catalogRevision, observationId⟩ }

def applyToyGrantPut (grantId toyId : String) (subject : ToyGrantSubject) (scope : ToyGrantScope)
    (constraints : ToyGrantConstraints) (grantState : ToyGrantState) (issuerId : String)
    (policyRevision sourceGrantsRevision : Nat) (authorityObservationId : String) :
    Except AuthorityReplayError AuthorityStateV1 := do
  deny (!state.toyCatalog.contains toyId || scope.allowedActions.isEmpty ||
      !ascending (fun a b => decide (a < b)) scope.allowedActions)
    (authorityIncoherent "Toy grant references missing catalog or noncanonical actions")
  let grantIdValue ← coherentId (StringId.new "ToyGrantId" grantId)
  let toyIdValue ← coherentId (StringId.new "ToyId" toyId)
  let observationId ← coherentId (StringId.new "ObservationId" authorityObservationId)
  return { state with
    toyGrants := state.toyGrants.insert grantId
      ⟨grantIdValue, toyIdValue, subject, scope, constraints, grantState, issuerId, policyRevision,
        sourceGrantsRevision, observationId⟩ }

/-- A scope starts active at revision one and is revised one step at a time while it is active. -/
def checkWatchRevision (current : Option WatchObservationScope) (scope : WatchObservationScope) :
    Except AuthorityReplayError Unit :=
  match current with
  | none =>
    deny ((scope.scopeRevision : Nat) ≠ 1 || scope.authorityState ≠ .active)
      (authorityIncoherent "first Watch scope put must be active revision one")
  | some current => do
    deny (current.authorityState ≠ .active)
      (authorityIncoherent "terminal Watch scope cannot be revised or resurrected")
    deny (checkedAdd current.scopeRevision 1 ≠ some (scope.scopeRevision : Nat))
      (authorityIncoherent "Watch scope revision is not exactly prior plus one")

def applyWatchScopePut (scope : WatchObservationScope) :
    Except AuthorityReplayError AuthorityStateV1 := do
  mapErr (fun error => authorityIncoherent ("invalid Watch scope: " ++ error.text)) scope.validate
  checkWatchRevision state.watchScopes[scope.watchScopeId.value]? scope
  return { state with watchScopes := state.watchScopes.insert scope.watchScopeId.value scope }

/-! ## Issuance -/

/-- `Iterator::max`: the last of the latest instants. -/
def latest : List Timestamp → Option Timestamp
  | [] => none
  | t :: ts => some (ts.foldl (fun m t => if t < m then m else t) t)

def AdminKeyGrantV1.sharesRootKey (grant : AdminKeyGrantV1) (key : Recovery.RecoveryPublicKeyV1) : Bool :=
  key.ed25519 == grant.publicHalf || some key.mlDsa65 == grant.mlDsa65PublicKey

def reusesRootCredential (recipient : AdminKeyGrantV1) : Bool :=
  (state.adminKeyGrants.values.any fun grant => grant.class_ == .recovery &&
    (grant.publicHalf == recipient.publicHalf ||
      grant.mlDsa65PublicKey.any fun key => some key == recipient.mlDsa65PublicKey)) ||
  state.guardianRecovery.any fun recovery => recovery.retiredRootKeys.any recipient.sharesRootKey

def applyAdminKeyIssue (request : AdminKeyIssueRequestV1) (decidedAt : Timestamp) :
    Except AuthorityReplayError AuthorityStateV1 := do
  let intent := request.intent
  let priorTime := latest (state.adminIssuance.values.map (·.decidedAt) ++
    (state.adminGenesis.map (·.decidedAt)).toList ++ (state.guardianRecovery.map (·.clock.wallTime)).toList)
  deny (priorTime.any fun floor => decide (decidedAt < floor))
    (authorityIncoherent "issuance decision clock regressed behind canonical authority")
  deny (!validId intent.issuanceId || !validId intent.grant.grantId ||
      startsWith intent.grant.grantId recoveredRootGrantStart ||
      request.signature.signerGrantId ≠ intent.issuerGrantId ||
      state.adminKeyGrants.contains intent.grant.grantId || state.adminIssuance.contains intent.grant.grantId ||
      state.guardianRecovery.any fun recovery => recovery.maintenance)
    (authorityIncoherent "invalid issuance identity, existing grant, signer mismatch or recovery maintenance")
  let hash ← mapErr (fun e => authorityIncoherent e.text) (authorityStateHash state)
  deny (hash ≠ intent.expectedAuthority.authorityStateHash)
    (authorityIncoherent "issuance expected authority snapshot is stale")
  let issuer ← okOr state.adminKeyGrants[intent.issuerGrantId]? (authorityIncoherent "issuer is not canonical")
  mapErr (fun e => authorityIncoherent e.text) (evaluateAdminKeyIssuance issuer intent.grant decidedAt)
  deny (issuer.mlDsa65PublicKey.isNone || intent.grant.mlDsa65PublicKey.isNone ||
      request.signature.signature.utf8ByteSize ≠ adminHybridSignatureLen * 2)
    (authorityIncoherent "new issuance requires complete hybrid credentials and signature")
  deny (reusesRootCredential state intent.grant)
    (authorityIncoherent "root credentials cannot be issued as day keys")
  mapErr authorityIncoherent
    (verifyAdminChangeSignatures state ∅ intent.expectedAuthority.grantsAuthority.motherNodeId intent.ledgerId
      [.adminKeyIssue request decidedAt])
  let proposed ← applyAdminKeyGrantPut state intent.grant
  let proposed := { proposed with
    adminIssuance := proposed.adminIssuance.insert intent.grant.grantId ⟨intent, issuer, decidedAt⟩ }
  let _ ← mapErr (fun e => authorityIncoherent e.text) (authorityStateHash proposed)
  return proposed

/-! ## Guardian recovery -/

/-- The clock of a recovery on a strict ledger does not run behind its birth or its issuances. -/
def checkRecoveryClock (clock : RecoveryClockV1) : Except AuthorityReplayError Unit :=
  match state.adminGenesis with
  | none => .ok ()
  | some birth =>
    deny ((latest (state.adminIssuance.values.map (·.decidedAt) ++ [birth.decidedAt])).any fun floor =>
        decide (clock.wallTime < floor))
      (authorityIncoherent "strict recovery clock regressed behind canonical authority")

def checkRecoveryCredentials (root : AdminKeyGrantV1) :
    GuardianRecoveryActionV1 → Except AuthorityReplayError Unit
  | .enroll enrollment =>
    deny (root.publicHalf ≠ enrollment.policy.target.rootKey.ed25519 ||
        root.mlDsa65PublicKey ≠ some enrollment.policy.target.rootKey.mlDsa65)
      (authorityIncoherent "enrollment is not authorized by the canonical hybrid root")
  | .initiate request _ =>
    deny (state.adminKeyGrants.values.any fun grant =>
        grant.publicHalf == request.intent.replacementKey.ed25519 ||
          grant.mlDsa65PublicKey == some request.intent.replacementKey.mlDsa65)
      (authorityIncoherent "replacement reuses an existing administrative credential")
  | _ => .ok ()

/-- The grants after a completed recovery: the old root gone, every other grant revoked, the new root active. -/
def replaceRootGrant (root : AdminKeyGrantV1) (next : GuardianRecoveryStateV1) :
    Except AuthorityReplayError AuthorityStateV1 := do
  let grantId := recoveredRootGrantStart ++ next.binding.bindingId ++ ":" ++ toString next.binding.rootGeneration
  deny (state.adminKeyGrants.contains grantId)
    (authorityIncoherent "replacement root grant identity already exists")
  return { state with
    adminKeyGrants :=
      ((state.adminKeyGrants.erase root.grantId).map fun _ grant => { grant with grantState := .revoked }).insert grantId
        ⟨grantId, next.binding.rootKey.ed25519, some next.binding.rootKey.mlDsa65, .recovery, recoveryGrantScopes, none,
          .active, none⟩
    pairingTickets := state.pairingTickets.map fun _ ticket => { ticket with state := .consumed } }

def completesRecovery : GuardianRecoveryActionV1 → Bool
  | .complete _ => true
  | _ => false

def applyGuardianRecovery (command : GuardianRecoveryCommandV1) (clock : RecoveryClockV1) :
    Except AuthorityReplayError AuthorityStateV1 := do
  let beforeHash ← mapErr (fun e => authorityIncoherent e.text) (authorityStateHash state)
  checkRecoveryClock state clock
  let root ← okOr (state.adminKeyGrants.values.find? fun grant => grant.class_ == .recovery)
    (authorityIncoherent "recovery enrollment requires an existing canonical root")
  checkRecoveryCredentials state root command.action
  let next ← mapErr (fun e => authorityIncoherent e.text)
    (Recovery.evaluateGuardianRecovery state.guardianRecovery command clock beforeHash)
  let proposed ← if completesRecovery command.action then replaceRootGrant state root next else .ok state
  let proposed := { proposed with guardianRecovery := some next }
  let _ ← mapErr (fun e => authorityIncoherent e.text) (authorityStateHash proposed)
  return proposed

/-! ## Change lists -/

/-- One change of an ordinary list.  The exclusive transitions never come here. -/
def applyOrdinaryChange : AuthorityChangeV1 → Except AuthorityReplayError AuthorityStateV1
  | .guardianRecovery _ _ => .ok state
  | .adminKeyIssue _ _ => .ok state
  | .toyCatalogPut toyId contract authorityBearing catalogRevision admittedBy =>
    applyToyCatalogPut state toyId contract authorityBearing catalogRevision admittedBy
  | .toyCatalogRemove toyId => do
    deny (!state.toyCatalog.contains toyId)
      (authorityIncoherent s!"cannot remove missing Toy catalog value '{toyId}'")
    return { state with toyCatalog := state.toyCatalog.erase toyId }
  | .toyGrantPut grantId toyId subject scope constraints grantState issuerId policyRevision revision observationId =>
    applyToyGrantPut state grantId toyId subject scope constraints grantState issuerId policyRevision revision
      observationId
  | .toyGrantRemove grantId => do
    deny (!state.toyGrants.contains grantId) (authorityIncoherent s!"cannot remove missing Toy grant '{grantId}'")
    return { state with toyGrants := state.toyGrants.erase grantId }
  | .watchScopePut scope => applyWatchScopePut state scope
  | .adminKeyGrantPut grant signature => do
    deny grant.issuanceCeiling.isSome (authorityIncoherent "legacy put cannot introduce an issuance ceiling")
    deny (signature.isSome && grant.mlDsa65PublicKey.isNone)
      (authorityIncoherent "scheme v1 grant put records the ML-DSA-65 public key beside Ed25519")
    applyAdminKeyGrantPut state grant
  | .adminKeyGrantRevoke grantId _ => applyAdminKeyGrantRevoke state grantId
  | .pairingTicketIssued ticketHash peerEndpointId windowStartsAt windowExpiresAt signature =>
    applyPairingTicketIssued state ticketHash peerEndpointId windowStartsAt windowExpiresAt signature.isSome
  | .pairingTicketConsumed ticketHash admission _ => applyPairingTicketConsumed state ticketHash admission

def applyAuthorityChanges (changes : List AuthorityChangeV1) :
    Except AuthorityReplayError AuthorityStateV1 := do
  deny state.passkeyAdmin.isSome (authorityIncoherent "legacy/hybrid changes cannot mutate passkey authority")
  if changes.any AuthorityChangeV1.isAdminKeyIssue then
    match changes with
    | [.adminKeyIssue request decidedAt] => applyAdminKeyIssue state request decidedAt
    | _ => .error (authorityIncoherent "issuance must be an exclusive authority transition")
  else if changes.any AuthorityChangeV1.isGuardianRecovery then
    match changes with
    | [.guardianRecovery command clock] => applyGuardianRecovery state command clock
    | _ => .error (authorityIncoherent "recovery must be an exclusive authority transition")
  else do
    deny (state.guardianRecovery.isSome || !state.adminIssuance.isEmpty || state.adminGenesis.isSome)
      (authorityIncoherent "enrolled recovery authority requires the new runtime path")
    changes.foldlM applyOrdinaryChange state

end Mct
