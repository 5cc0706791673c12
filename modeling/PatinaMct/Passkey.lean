import PatinaMct.AuthorityRecords
/-!
# Passkey — administration rooted in a passkey

`admin_key/passkey.rs` and `admin_sig/day_key.rs`: the lease of a day key, the signed intent with its five-minute
window, the two proofs, and the transition that a proved intent makes (`evaluatePasskeyAdminTransition`).  What the
WebAuthn, P-256 and Ed25519 libraries decide is the host's.
-/
namespace Mct

open Checked

variable [LedgerHost]

def dayKeyLifetimeSeconds : Nat := 24 * 60 * 60
def adminIntentLifetimeSeconds : Nat := 5 * 60

/-- At most 128 ASCII letters, digits and `-_.:`. -/
def validAdminId (id : String) : Bool :=
  !id.isEmpty && id.utf8ByteSize ≤ 128 && id.toList.all Recovery.idByte

def instant (time : Timestamp) : Except DayKeyAdminError Int :=
  match KernelHost.parseTimestamp time.value with
  | .ok n => .ok n
  | .error _ => .error ⟨"invalid time"⟩

/-- `jiff::Timestamp::checked_add` of whole seconds. -/
def checkedAddSeconds (start : Int) (seconds : Nat) : Option Int :=
  let stop := start + seconds * 1000000000
  if stop ≤ maxTimestamp then some stop else none

def Ed25519DayKeyV1.validate (key : Ed25519DayKeyV1) : Except DayKeyAdminError Unit := do
  let issued ← instant key.issuedAt
  let expiresAt ← okOr key.grant.expiresAt ⟨"missing lease expiry"⟩
  let expires ← instant expiresAt
  let maximum ← okOr (checkedAddSeconds issued dayKeyLifetimeSeconds) ⟨"lease time overflow"⟩
  deny (!validAdminId key.grant.grantId || !validAdminId key.motherNodeId || !validAdminId key.ledgerId ||
      key.grant.class_ ≠ .dayToDay || key.grant.mlDsa65PublicKey.isSome || key.grant.issuanceCeiling.isSome ||
      (adminKeyGrantShapeError key.grant).isSome || key.grant.publicHalf.isWeak || decide (expires ≤ issued) ||
      decide (maximum < expires))
    ⟨"invalid 24-hour day-key lease"⟩

def Ed25519DayKeyV1.openAt (key : Ed25519DayKeyV1) (now : Timestamp) : Bool :=
  match instant now, instant key.issuedAt, key.grant.expiresAt.map instant with
  | .ok now, .ok start, some (.ok stop) => decide (start ≤ now) && decide (now < stop)
  | _, _, _ => false

def Ed25519DayKeyV1.authorizes (key : Ed25519DayKeyV1) (scope : AdminKeyScopeV1) (now : Timestamp) : Bool :=
  key.validate.isOk && key.grant.grantState == .active && key.grant.scopes.contains scope && key.openAt now

def PasskeyAdminActionV1.exceedsBounds : PasskeyAdminActionV1 → Bool
  | .command _ route body => decide (256 < route.utf8ByteSize) || !startsWith route "/" ||
      decide (64 * 1024 < body.utf8ByteSize)
  | _ => false

def PasskeyAdminIntentV1.validate (intent : PasskeyAdminIntentV1) (now : Timestamp) :
    Except DayKeyAdminError Unit := do
  let start ← instant intent.issuedAt
  let stop ← instant intent.expiresAt
  let now ← instant now
  deny (!validAdminId intent.motherNodeId || !validAdminId intent.ledgerId || decide (128 < intent.epoch.utf8ByteSize) ||
      decide (256 < intent.authorityObservationId.utf8ByteSize) || !isDigestText intent.nonce || decide (now < start) ||
      decide (stop ≤ now))
    ⟨"invalid target, nonce or intent window"⟩
  let limit ← okOr (checkedAddSeconds start adminIntentLifetimeSeconds) ⟨"intent time overflow"⟩
  deny (decide (limit < stop)) ⟨"invalid target, nonce or intent window"⟩
  deny intent.action.exceedsBounds ⟨"admin command exceeds bounds"⟩

def verifyWebauthnAdminSignature (root : WebAuthnP256DayKeyV1) (request : PasskeyAdminRequestV1) :
    Except DayKeyAdminError Unit := do
  LedgerHost.validateWebAuthnKey root
  match request.proof with
  | .ed25519DayKeyV1 _ _ => .error ⟨"passkey proof required"⟩
  | .webAuthnP256DayKeyV1 credentialId authenticatorData clientDataJson signature => do
    deny (credentialId ≠ root.credentialId) ⟨"unregistered credential"⟩
    LedgerHost.verifyWebAuthnAssertion root request.intent authenticatorData clientDataJson signature

def verifyEd25519DayKeySignature (key : Ed25519DayKeyV1) (request : PasskeyAdminRequestV1) :
    Except DayKeyAdminError Unit :=
  match request.proof with
  | .webAuthnP256DayKeyV1 _ _ _ _ => .error ⟨"day-key proof required"⟩
  | .ed25519DayKeyV1 grantId signature => do
    deny (grantId ≠ key.grant.grantId || signature.utf8ByteSize ≠ 128) ⟨"wrong signer or signature size"⟩
    LedgerHost.verifyDayKeySignature key.grant.publicHalf request.intent request.proof.signerRef signature

def PasskeyAdminActionV1.requiredScope : PasskeyAdminActionV1 → Except DayKeyAdminError AdminKeyScopeV1
  | .bootstrap _ _ => .error ⟨"genesis is immutable"⟩
  | .issueDayKey _ _ _ _ => .ok .keyManage
  | .revokeDayKey _ => .ok .keyManage
  | .command scope _ _ => .ok scope

def PasskeyAdminActionV1.issues : PasskeyAdminActionV1 → Bool
  | .issueDayKey _ _ _ _ => true
  | _ => false

def verifyPasskeyProof (state : PasskeyAdminStateV1) (request : PasskeyAdminRequestV1) (scope : AdminKeyScopeV1)
    (now : Timestamp) : Except DayKeyAdminError Unit :=
  match request.proof with
  | .webAuthnP256DayKeyV1 _ _ _ _ => verifyWebauthnAdminSignature state.root request
  | .ed25519DayKeyV1 grantId _ => do
    deny request.intent.action.issues ⟨"only the passkey root may issue leases"⟩
    let key ← okOr state.dayKeys[grantId]? ⟨"unknown day key"⟩
    deny (key.motherNodeId ≠ request.intent.motherNodeId || key.ledgerId ≠ request.intent.ledgerId ||
        !key.authorizes scope now)
      ⟨"expired, revoked or wrong-scope day key"⟩
    verifyEd25519DayKeySignature key request

def applyPasskeyAction (state : PasskeyAdminStateV1) (intent : PasskeyAdminIntentV1) (now : Timestamp) :
    Except DayKeyAdminError (TextMap Ed25519DayKeyV1) :=
  match intent.action with
  | .issueDayKey grantId publicHalf scopes expiresAt => do
    deny (state.dayKeys.contains grantId) ⟨"grant ids cannot be replaced or resurrected"⟩
    let lease : Ed25519DayKeyV1 :=
      ⟨intent.motherNodeId, intent.ledgerId, now,
        ⟨grantId, publicHalf, none, .dayToDay, scopes, some expiresAt, .active, none⟩⟩
    lease.validate
    return state.dayKeys.insert grantId lease
  | .revokeDayKey grantId => do
    let key ← okOr state.dayKeys[grantId]? ⟨"revocation target is not a day key"⟩
    return state.dayKeys.insert grantId { key with grant := { key.grant with grantState := .revoked } }
  | .command _ _ _ => .ok state.dayKeys
  | .bootstrap _ _ => .ok state.dayKeys

def passkeyBirth (request : PasskeyAdminRequestV1) (now : Timestamp) :
    Except DayKeyAdminError PasskeyAdminStateV1 :=
  match request.intent.action with
  | .bootstrap root _ => do
    verifyWebauthnAdminSignature root request
    return ⟨request.intent.motherNodeId, request.intent.ledgerId, root, ∅,
      {(request.proof.signerRef, request.intent.nonce)}, now⟩
  | _ => .error ⟨"missing passkey genesis"⟩

/-- **One step of passkey administration.** -/
def evaluatePasskeyAdminTransition (state : Option PasskeyAdminStateV1) (request : PasskeyAdminRequestV1)
    (now : Timestamp) : Except DayKeyAdminError PasskeyAdminStateV1 := do
  request.intent.validate now
  match state with
  | none => passkeyBirth request now
  | some state => do
    let nonce := (request.proof.signerRef, request.intent.nonce)
    deny (state.motherNodeId ≠ request.intent.motherNodeId || state.ledgerId ≠ request.intent.ledgerId ||
        decide (nonce ∈ state.usedNonces))
      ⟨"wrong target, consumed nonce or clock rollback"⟩
    let decided ← instant now
    let last ← instant state.lastDecidedAt
    deny (decide (decided < last)) ⟨"wrong target, consumed nonce or clock rollback"⟩
    let scope ← request.intent.action.requiredScope
    verifyPasskeyProof state request scope now
    let dayKeys ← applyPasskeyAction state request.intent now
    return { state with dayKeys, usedNonces := insert nonce state.usedNonces, lastDecidedAt := now }

end Mct
