import PatinaMct.Ids
/-!
# RecoveryRecords — the records of guardian recovery

The wire records of `recovery/mod.rs`, `recovery/lifecycle.rs` and `recovery/policy.rs`, field by field.  `[T; 3]` is
`Vector T 3`, `BTreeSet<String>` is the ordered set of the standard library, and a digest or Voice id stands for the
hex of its 32 bytes.  `RecoveryRecord` collects every value that the recovery code serialises before it hashes or
signs it, and `KernelHost` is the third-party code the kernel calls.
-/
namespace Mct
namespace Recovery

abbrev TextSet := Std.ExtTreeSet String compare

def approvalMaxMs : Nat := 600000
def delayMs : Nat := 86400000
def completionWindowMs : Nat := 604800000

inductive RecoveryError
  | malformed
  | signatureInvalid
  | policyInvalid
  | voiceMismatch
  | duplicatePrincipal
  | staleAuthority
  | replacementNotFresh
  | timeInvalid
  | quorumInvalid
  | unappointedGuardian
  deriving DecidableEq, Repr

def RecoveryError.text : RecoveryError → String
  | .malformed => "malformed recovery record"
  | .signatureInvalid => "invalid hybrid recovery signature"
  | .policyInvalid => "invalid recovery policy"
  | .voiceMismatch => "recovery Voice does not match"
  | .duplicatePrincipal => "duplicate recovery principal or key"
  | .staleAuthority => "recovery binding or policy is stale"
  | .replacementNotFresh => "replacement key is not fresh"
  | .timeInvalid => "recovery evidence is outside its validity interval"
  | .quorumInvalid => "recovery quorum is insufficient or oversized"
  | .unappointedGuardian => "recovery signer is not appointed"

structure RecoveryPublicKeyV1 where
  ed25519 : AdminKeyPublicHalf
  mlDsa65 : MlDsa65PublicKey
  deriving DecidableEq, Repr

/-- A checked hybrid signature, by its lowercase wire text. -/
structure RecoverySignatureV1 where
  text : String
  deriving DecidableEq, Repr

structure VoiceIdV1 where
  hex : String
  deriving DecidableEq, Repr

structure RecoveryDigestV1 where
  hex : String
  deriving DecidableEq, Repr

structure VoiceGenesisV1 where
  publicKey : RecoveryPublicKeyV1
  possession : RecoverySignatureV1
  deriving DecidableEq, Repr

/-- **One Mother-wide administrative owner binding.** -/
structure OwnerBindingV1 where
  motherNodeId : MctNodeId
  ledgerId : String
  epochId : String
  bindingId : String
  voiceId : VoiceIdV1
  rootGeneration : Nat
  rootKey : RecoveryPublicKeyV1
  deriving DecidableEq, Repr

structure RecoveryGuardianV1 where
  motherNodeId : MctNodeId
  ownerBindingId : String
  ownerBindingGeneration : Nat
  voiceId : VoiceIdV1
  signingKey : RecoveryPublicKeyV1
  deriving DecidableEq, Repr

/-- **The fixed 2-of-3 roster over one owner binding.** -/
structure GuardianRecoveryPolicyV1 where
  generation : Nat
  target : OwnerBindingV1
  guardians : Vector RecoveryGuardianV1 3
  deriving DecidableEq, Repr

structure RecoveryIntentV1 where
  requestId : String
  target : OwnerBindingV1
  policyGeneration : Nat
  policyDigest : RecoveryDigestV1
  replacementKey : RecoveryPublicKeyV1
  notBefore : Timestamp
  expiresAt : Timestamp
  deriving DecidableEq, BEq, ReflBEq, Repr

structure RecoveryRequestV1 where
  intent : RecoveryIntentV1
  replacementPossession : RecoverySignatureV1
  deriving DecidableEq, BEq, ReflBEq, Repr

inductive RecoveryApprovalPurposeV1
  | initiate
  | cancel
  | complete (challenge : String)
  deriving DecidableEq, Repr

structure GuardianRecoveryApprovalV1 where
  guardianNodeId : MctNodeId
  issuedAt : Timestamp
  expiresAt : Timestamp
  signature : RecoverySignatureV1
  deriving DecidableEq, BEq, ReflBEq, Repr

structure GuardianEnrollmentV1 where
  genesis : VoiceGenesisV1
  policy : GuardianRecoveryPolicyV1
  guardianBindings : Vector OwnerBindingV1 3
  genesisAuthorization : RecoverySignatureV1
  ownerAuthorization : RecoverySignatureV1
  guardianOwnerAcceptances : Vector RecoverySignatureV1 3
  guardianAcceptances : Vector RecoverySignatureV1 3
  deriving DecidableEq, Repr

/-- **A Mother clock sample**; the epoch is the writer's tenure. -/
structure RecoveryClockV1 where
  writerEpoch : String
  wallTime : Timestamp
  monotonicMs : Nat
  deriving DecidableEq, BEq, ReflBEq, Repr

structure RecoveryChallengeV1 where
  value : String
  issuedAt : Timestamp
  expiresAt : Timestamp
  deriving DecidableEq, BEq, ReflBEq, Repr

structure PendingGuardianRecoveryV1 where
  request : RecoveryRequestV1
  waitOrigin : RecoveryClockV1
  deadline : Timestamp
  challenge : Option RecoveryChallengeV1
  deriving DecidableEq, BEq, ReflBEq, Repr

structure GuardianPolicyEditV1 where
  editId : String
  policy : GuardianRecoveryPolicyV1
  guardianBindings : Vector OwnerBindingV1 3
  /-- False ends the former roster's authority at activation. -/
  enabled : Bool
  issuedAt : Timestamp
  expiresAt : Timestamp
  deriving DecidableEq, BEq, ReflBEq, Repr

structure GuardianPolicyAcceptanceV1 where
  guardianNodeId : MctNodeId
  ownerSignature : RecoverySignatureV1
  guardianSignature : RecoverySignatureV1
  deriving DecidableEq, Repr

structure GuardianPolicyProposalV1 where
  edit : GuardianPolicyEditV1
  ownerSignature : RecoverySignatureV1
  acceptances : List GuardianPolicyAcceptanceV1
  approvals : List GuardianRecoveryApprovalV1
  deriving DecidableEq, BEq, ReflBEq, Repr

inductive GuardianPolicyApprovalPurposeV1
  | propose
  | cancel
  deriving DecidableEq, Repr

structure PendingGuardianPolicyV1 where
  edit : GuardianPolicyEditV1
  waitOrigin : RecoveryClockV1
  deriving DecidableEq, BEq, ReflBEq, Repr

/-- Present from the first policy edit on; never discarded when recovery is disabled. -/
structure GuardianPolicyStateV1 where
  enabled : Bool
  guardianBindings : Vector OwnerBindingV1 3
  pending : Option PendingGuardianPolicyV1
  consumedEditIds : TextSet
  retiredGuardianKeys : List RecoveryPublicKeyV1
  deriving DecidableEq, BEq, ReflBEq

structure GuardianRecoveryStateV1 where
  enrollment : GuardianEnrollmentV1
  binding : OwnerBindingV1
  policy : GuardianRecoveryPolicyV1
  revision : Nat
  clock : RecoveryClockV1
  pending : Option PendingGuardianRecoveryV1
  consumedRequestIds : TextSet
  consumedChallenges : TextSet
  retiredRootKeys : List RecoveryPublicKeyV1
  maintenance : Bool
  policyEdits : Option GuardianPolicyStateV1
  deriving DecidableEq, BEq, ReflBEq

inductive GuardianRecoveryActionV1
  | proposePolicy (proposal : GuardianPolicyProposalV1)
  | cancelPolicy (ownerSignature : Option RecoverySignatureV1) (approvals : List GuardianRecoveryApprovalV1)
  | activatePolicy
  | enroll (enrollment : GuardianEnrollmentV1)
  | initiate (request : RecoveryRequestV1) (approvals : List GuardianRecoveryApprovalV1)
  | rebaseWait
  | issueChallenge (challenge : String)
  | cancel (approvals : List GuardianRecoveryApprovalV1)
  | expire
  | complete (approvals : List GuardianRecoveryApprovalV1)
  | resume (authoritySnapshot : String) (signature : RecoverySignatureV1)
  deriving DecidableEq, BEq, ReflBEq, Repr

structure GuardianRecoveryCommandV1 where
  expectedState : Option RecoveryDigestV1
  action : GuardianRecoveryActionV1
  deriving DecidableEq, BEq, ReflBEq, Repr

/-! ## What is serialised -/

/-- **Every value the recovery code serialises**, one constructor per transcript. -/
inductive RecoveryRecord
  | genesisKey (key : RecoveryPublicKeyV1)
  | policy (policy : GuardianRecoveryPolicyV1)
  | intent (intent : RecoveryIntentV1)
  | approval (policyDigest intentDigest : RecoveryDigestV1) (guardian : RecoveryGuardianV1)
      (purpose : RecoveryApprovalPurposeV1) (issuedAt expiresAt : Timestamp)
  | enrollment (genesis : VoiceGenesisV1) (policy : GuardianRecoveryPolicyV1) (bindings : Vector OwnerBindingV1 3)
  | state (state : GuardianRecoveryStateV1)
  | resume (state : RecoveryDigestV1) (snapshot : String)
  | ownerCancel (state : RecoveryDigestV1) (edit : GuardianPolicyEditV1)
  | ownerProposal (state : RecoveryDigestV1) (edit : GuardianPolicyEditV1)
  | acceptance (state : RecoveryDigestV1) (edit : GuardianPolicyEditV1) (guardian : MctNodeId)
  | policyVote (state : RecoveryDigestV1) (edit : GuardianPolicyEditV1) (purpose : GuardianPolicyApprovalPurposeV1)
      (member : RecoveryGuardianV1) (issuedAt expiresAt : Timestamp)

end Recovery

/-- **The third-party code the kernel calls**: BLAKE3 (as hex), `serde_json::to_vec` on the recovery records, the weak
key test, hybrid signature verification, and parsing and printing of RFC 3339 instants. -/
class KernelHost where
  blake3 : List UInt8 → String
  toVec : Recovery.RecoveryRecord → List UInt8
  isWeak : Ed25519VerifyingKey → Bool
  verifyAdminHybridSignature : AdminKeyPublicHalf → MlDsa65PublicKey → List UInt8 → String →
    Except AdminSignatureError Unit
  parseTimestamp : String → Except String Int
  displayTimestamp : Int → String

variable [KernelHost]

def Timestamp.new (value : String) : Except MctKernelError Timestamp :=
  match KernelHost.parseTimestamp value with
  | .ok n => .ok ⟨value, n⟩
  | .error reason => .error (.invalidTimestamp value reason)

/-- The sum has to be a `jiff::Timestamp`; printing it and parsing it back gives the same instant. -/
def Timestamp.checkedAddMilliseconds (t : Timestamp) (milliseconds : Nat) : Option Timestamp :=
  let instant := t.epochNanoseconds + milliseconds * 1000000
  if minTimestamp ≤ instant ∧ instant ≤ maxTimestamp then some ⟨KernelHost.displayTimestamp instant, instant⟩
  else none

theorem Timestamp.checkedAddMilliseconds_some {t u : Timestamp} {ms : Nat}
    (h : t.checkedAddMilliseconds ms = some u) : u.epochNanoseconds = t.epochNanoseconds + ms * 1000000 := by
  unfold checkedAddMilliseconds at h
  simp only at h
  split at h
  · cases h; rfl
  · cases h

end Mct
