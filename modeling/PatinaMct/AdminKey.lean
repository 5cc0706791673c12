import PatinaMct.RecoveryQuorum
/-!
# AdminKey — administrative grants, their shape and their issuance

`admin_key.rs`, `admin_issuance.rs` and the envelope of `admin_sig.rs`: what an administrative grant is, when its
shape is admissible (`adminKeyGrantShapeError`), what one issuer may hand to one recipient
(`evaluateAdminKeyIssuance`), and the bytes an administrator signs (`adminSignedMessage`).
-/
namespace Mct

open Checked

/-- Route scopes, in the order of the declaration; a grant lists them strictly ascending. -/
inductive AdminKeyScopeV1
  | approveChild | artifact | authorityImport | authorizeSecret | authorizeSlate | blob | keyManage | lifecycle
  | pandoRecord | peerAdd | peerProof | peerRemove | peerRevoke | registry | revokeChild | startupGate | status
  | trigger | watchGrant | watchRevoke
  deriving DecidableEq, Repr

instance : LT AdminKeyScopeV1 := ⟨fun a b => a.ctorIdx < b.ctorIdx⟩
instance (a b : AdminKeyScopeV1) : Decidable (a < b) := inferInstanceAs (Decidable (a.ctorIdx < b.ctorIdx))

def recoveryGrantScopes : List AdminKeyScopeV1 := [.keyManage, .startupGate]

inductive AdminKeyGrantClassV1
  | dayToDay
  | recovery
  deriving DecidableEq, Repr

inductive AdminKeyGrantStateV1
  | active
  | revoked
  deriving DecidableEq, Repr

inductive AdminKeySchemeV1
  | ed25519
  deriving DecidableEq, Repr

def AdminKeyPublicHalf.scheme : AdminKeyPublicHalf → AdminKeySchemeV1
  | .ed25519 _ => .ed25519

/-- Permission to request issuance, not to execute these scopes; empty is a revoke-only manager. -/
structure AdminIssuanceCeilingV1 where
  scopes : List AdminKeyScopeV1
  deriving DecidableEq, Repr

/-- `windows(2).all(|p| p[0] < p[1])`. -/
def scopesAscending (scopes : List AdminKeyScopeV1) : Bool :=
  ascending (fun a b => decide (a < b)) scopes

def AdminIssuanceCeilingV1.isCanonical (ceiling : AdminIssuanceCeilingV1) : Bool :=
  !ceiling.scopes.contains .startupGate && scopesAscending ceiling.scopes

/-- **The ledger fact of one admin key**; the public halves only. -/
structure AdminKeyGrantV1 where
  grantId : String
  publicHalf : AdminKeyPublicHalf
  mlDsa65PublicKey : Option MlDsa65PublicKey
  class_ : AdminKeyGrantClassV1
  scopes : List AdminKeyScopeV1
  expiresAt : Option Timestamp
  grantState : AdminKeyGrantStateV1
  issuanceCeiling : Option AdminIssuanceCeilingV1
  deriving DecidableEq, BEq, ReflBEq, Repr

def adminKeyScopesAreCanonical (scopes : List AdminKeyScopeV1) : Bool :=
  !scopes.isEmpty && scopesAscending scopes

def adminKeyClassShapeError (grant : AdminKeyGrantV1) : Option String :=
  match grant.class_ with
  | .dayToDay =>
    if grant.expiresAt.isNone then some "day-to-day admin key grant requires expiry"
    else if grant.scopes.contains .startupGate then
      some "day-to-day admin key grant cannot carry the startup gate"
    else none
  | .recovery =>
    if grant.expiresAt.isSome then some "recovery grant is not a day-to-day key and does not carry an expiry"
    else if grant.scopes ≠ recoveryGrantScopes then some "recovery grant is the startup gate plus key-manage"
    else none

/-- **Why a grant is not admissible**; `none` is the shape that the ledger and the check accept. -/
def adminKeyGrantShapeError (grant : AdminKeyGrantV1) : Option String :=
  if !nonEmptyToken grant.grantId then some "admin key grant id is empty"
  else if grant.publicHalf.scheme ≠ .ed25519 then some "admin key public half scheme is not ed25519"
  else if !adminKeyScopesAreCanonical grant.scopes then some "admin key scopes are empty or not strictly ordered"
  else if grant.issuanceCeiling.any fun ceiling =>
      grant.class_ ≠ .dayToDay || !grant.scopes.contains .keyManage || !ceiling.isCanonical then
    some "issuance ceiling requires day key-manage, ordered unique non-startup scopes"
  else adminKeyClassShapeError grant

inductive AdminIssuanceError
  | malformed
  | inactiveIssuer
  | expiredIssuer
  | notKeyManager
  | missingCeiling
  | ceilingExceeded
  | expiryExceeded
  | recoveryGrantLocked
  | recoveryCredentialReuse
  deriving DecidableEq, Repr

def AdminIssuanceError.text : AdminIssuanceError → String
  | .malformed => "malformed issuance grant or weak key"
  | .inactiveIssuer => "issuer is not active"
  | .expiredIssuer => "issuer is expired"
  | .notKeyManager => "issuer lacks key-manage"
  | .missingCeiling => "day key issuance ceiling is absent"
  | .ceilingExceeded => "recipient execution or delegation exceeds issuer ceiling"
  | .expiryExceeded => "recipient expiry is invalid or exceeds issuer expiry"
  | .recoveryGrantLocked => "ordinary issuance cannot create a recovery grant"
  | .recoveryCredentialReuse => "recovery credentials cannot be reused as a day key"

section Issuance

variable [KernelHost]

def AdminKeyPublicHalf.isWeak : AdminKeyPublicHalf → Bool
  | .ed25519 key => KernelHost.isWeak key

/-- What an issuer of either class may hand on, once both grants are in order. -/
def issuanceWithinAuthority (issuer recipient : AdminKeyGrantV1) : Except AdminIssuanceError Unit :=
  if issuer.class_ = .recovery then
    deny (issuer.publicHalf == recipient.publicHalf ||
        issuer.mlDsa65PublicKey.any fun pq => recipient.mlDsa65PublicKey == some pq)
      .recoveryCredentialReuse
  else do
    let ceiling ← okOr issuer.issuanceCeiling .missingCeiling
    deny (recipient.scopes.any (fun scope => !ceiling.scopes.contains scope) ||
        recipient.issuanceCeiling.any fun delegated =>
          delegated.scopes.any fun scope => !ceiling.scopes.contains scope)
      .ceilingExceeded

/-- **One exact canonical issuer hands out one grant.** -/
def evaluateAdminKeyIssuance (issuer recipient : AdminKeyGrantV1) (now : Timestamp) :
    Except AdminIssuanceError Unit := do
  deny ((adminKeyGrantShapeError issuer).isSome || (adminKeyGrantShapeError recipient).isSome ||
      [issuer, recipient].any (fun grant => grant.publicHalf.isWeak) || recipient.grantState ≠ .active)
    .malformed
  deny (issuer.grantState ≠ .active) .inactiveIssuer
  deny (issuer.expiresAt.any fun expires => decide (expires ≤ now)) .expiredIssuer
  deny (!issuer.scopes.contains .keyManage) .notKeyManager
  deny (recipient.class_ ≠ .dayToDay) .recoveryGrantLocked
  let expires ← okOr recipient.expiresAt .expiryExceeded
  deny (decide (expires ≤ now) || issuer.expiresAt.any fun limit => decide (limit < expires)) .expiryExceeded
  deny (recipient.scopes.contains .keyManage && recipient.issuanceCeiling.isNone) .missingCeiling
  issuanceWithinAuthority issuer recipient

end Issuance

/-! ## Signed commands -/

inductive AdminSignatureSchemeV1
  | ed25519MlDsa65V1
  | webAuthnP256DayKeyV1
  | ed25519DayKeyV1
  deriving DecidableEq, Repr

def AdminSignatureSchemeV1.version : AdminSignatureSchemeV1 → String
  | .ed25519MlDsa65V1 => "v1"
  | .webAuthnP256DayKeyV1 => "webauthn-p256-day-key/v1"
  | .ed25519DayKeyV1 => "ed25519-day-key/v1"

/-- The signature of one administrative change; `nonce` is unique for the signer grant over the whole history. -/
structure AdminSignatureV1 where
  scheme : AdminSignatureSchemeV1
  signerGrantId : String
  nonce : Nat
  signature : String
  deriving DecidableEq, Repr

/-- One tag byte, the Ed25519 signature and the ML-DSA-65 signature. -/
def adminHybridSignatureLen : Nat := 1 + 64 + 3309

structure AdminSignedMessageParts where
  scheme : AdminSignatureSchemeV1
  motherNodeId : String
  ledgerId : String
  nonce : Nat
  signerGrantCanonical : List UInt8
  commandCanonical : List UInt8

/-- **The bytes an administrator signs**: every part with its length in front. -/
def adminSignedMessage (parts : AdminSignedMessageParts) : List UInt8 :=
  [Recovery.utf8 "mct-admin-signed-change", Recovery.utf8 parts.scheme.version, Recovery.utf8 parts.motherNodeId,
    Recovery.utf8 parts.ledgerId, Recovery.u64BeBytes parts.nonce, parts.signerGrantCanonical,
    parts.commandCanonical].flatMap Recovery.lengthPrefixed

end Mct
