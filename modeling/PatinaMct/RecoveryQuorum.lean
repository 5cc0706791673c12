import PatinaMct.RecoveryRecords
/-!
# RecoveryQuorum — transcripts, shape checks and the guardian quorum

`recovery/internal.rs` with the methods of `recovery/mod.rs` and `GuardianEnrollmentV1::verify`.  Every signed or
hashed value goes through `transcript`, which prefixes the domain and the JSON with their lengths.  The second half
reads the successful runs of the loop over the approvals and of the quorum back as plain conditions
(`verifyApprovals_ok`, `verifyRecoveryQuorum_ok`).
-/
namespace Mct
namespace Recovery

open Checked

variable [KernelHost]

/-! ## Transcripts -/

def utf8 (s : String) : List UInt8 := s.toList.flatMap String.utf8EncodeChar

def u64BeBytes (n : Nat) : List UInt8 :=
  [56, 48, 40, 32, 24, 16, 8, 0].map fun s => UInt8.ofNat (n >>> s)

def lengthPrefixed (part : List UInt8) : List UInt8 := u64BeBytes part.length ++ part

def transcript (domain : String) (record : RecoveryRecord) : List UInt8 :=
  lengthPrefixed (utf8 domain) ++ lengthPrefixed (KernelHost.toVec record)

def digest (domain : String) (record : RecoveryRecord) : RecoveryDigestV1 :=
  ⟨KernelHost.blake3 (transcript domain record)⟩

/-! ## Shape checks -/

def validateKey (key : RecoveryPublicKeyV1) : Except RecoveryError Unit :=
  match key.ed25519 with
  | .ed25519 ed => deny (KernelHost.isWeak ed) .malformed

def verifySignature (key : RecoveryPublicKeyV1) (message : List UInt8) (signature : RecoverySignatureV1) :
    Except RecoveryError Unit := do
  validateKey key
  match KernelHost.verifyAdminHybridSignature key.ed25519 key.mlDsa65 message signature.text with
  | .ok _ => .ok ()
  | .error _ => .error .signatureInvalid

def genesisMessage (key : RecoveryPublicKeyV1) : Except RecoveryError (List UInt8) := do
  validateKey key
  return transcript "mct-voice-genesis/v1" (.genesisKey key)

def VoiceGenesisV1.verify (genesis : VoiceGenesisV1) : Except RecoveryError VoiceIdV1 := do
  let message ← genesisMessage genesis.publicKey
  verifySignature genesis.publicKey message genesis.possession
  return ⟨KernelHost.blake3 message⟩

/-- ASCII letters, digits and `-_.:`. -/
def idByte (c : Char) : Bool := c.isAlphanum || c == '-' || c == '_' || c == '.' || c == ':'

def validateId (id : String) : Except RecoveryError Unit :=
  deny (id.isEmpty || 128 < id.utf8ByteSize || !id.toList.all idByte) .malformed

def validateBinding (binding : OwnerBindingV1) : Except RecoveryError Unit := do
  forM [binding.motherNodeId.value, binding.ledgerId, binding.epochId, binding.bindingId] validateId
  deny (binding.rootGeneration = 0) .malformed
  validateKey binding.rootKey

def sharesKeyHalf (a b : RecoveryPublicKeyV1) : Bool :=
  a.ed25519 = b.ed25519 || a.mlDsa65 = b.mlDsa65

def validateGuardian (target : OwnerBindingV1) (prior : List RecoveryGuardianV1) (guardian : RecoveryGuardianV1) :
    Except RecoveryError Unit := do
  validateId guardian.motherNodeId.value
  validateId guardian.ownerBindingId
  validateKey guardian.signingKey
  deny (guardian.ownerBindingGeneration = 0) .policyInvalid
  deny (guardian.voiceId ≠ target.voiceId) .voiceMismatch
  deny (guardian.motherNodeId = target.motherNodeId || sharesKeyHalf guardian.signingKey target.rootKey ||
    prior.any fun p => p.motherNodeId = guardian.motherNodeId || sharesKeyHalf p.signingKey guardian.signingKey)
    .duplicatePrincipal
  deny (prior.getLast?.any fun p => decide (¬ p.motherNodeId.value < guardian.motherNodeId.value)) .policyInvalid

variable (policy : GuardianRecoveryPolicyV1) (intent : RecoveryIntentV1)

def validatePolicy : Except RecoveryError Unit := do
  validateBinding policy.target
  deny (policy.generation = 0) .policyInvalid
  eachWithPrior (validateGuardian policy.target) [] policy.guardians.toList

def GuardianRecoveryPolicyV1.digest : Except RecoveryError RecoveryDigestV1 := do
  validatePolicy policy
  return Recovery.digest "mct-guardian-policy/v1" (.policy policy)

def validateInterval (start finish : Timestamp) (maxMs : Nat) : Except RecoveryError Unit := do
  let upper ← okOr (start.checkedAddMilliseconds maxMs) .timeInvalid
  deny (finish ≤ start ∨ upper < finish) .timeInvalid

def validateIntentShape : Except RecoveryError Unit := do
  validateId intent.requestId
  validateBinding intent.target
  validateKey intent.replacementKey
  deny (intent.policyGeneration = 0) .policyInvalid
  validateInterval intent.notBefore intent.expiresAt (delayMs + completionWindowMs)

def RecoveryIntentV1.signingMessage : Except RecoveryError (List UInt8) := do
  validateIntentShape intent
  return transcript "mct-recovery-replacement-possession/v1" (.intent intent)

def RecoveryIntentV1.digest : Except RecoveryError RecoveryDigestV1 := do
  validateIntentShape intent
  return Recovery.digest "mct-recovery-intent/v1" (.intent intent)

def validateIntentPolicy (policy : GuardianRecoveryPolicyV1) :
    Except RecoveryError Unit := do
  validateIntentShape intent
  deny (intent.target ≠ policy.target ∨ intent.policyGeneration ≠ policy.generation) .staleAuthority
  let policyDigest ← policy.digest
  deny (intent.policyDigest ≠ policyDigest) .staleAuthority
  deny (sharesKeyHalf intent.replacementKey policy.target.rootKey ||
    policy.guardians.toList.any fun guardian => sharesKeyHalf intent.replacementKey guardian.signingKey)
    .replacementNotFresh

def validatePurpose : RecoveryApprovalPurposeV1 → Except RecoveryError Unit
  | .complete challenge => validateId challenge
  | _ => .ok ()

/-! ## The quorum -/

structure GuardianApprovalMessageV1 where
  policy : GuardianRecoveryPolicyV1
  intent : RecoveryIntentV1
  purpose : RecoveryApprovalPurposeV1
  guardianNodeId : MctNodeId
  issuedAt : Timestamp
  expiresAt : Timestamp

def GuardianRecoveryPolicyV1.guardian? (node : MctNodeId) :
    Option RecoveryGuardianV1 :=
  policy.guardians.toList.find? fun g => g.motherNodeId = node

def approvalMessage (parts : GuardianApprovalMessageV1) : Except RecoveryError (List UInt8) := do
  validateIntentPolicy parts.intent parts.policy
  validatePurpose parts.purpose
  validateInterval parts.issuedAt parts.expiresAt approvalMaxMs
  deny (parts.issuedAt < parts.intent.notBefore ∨ parts.intent.expiresAt < parts.expiresAt) .timeInvalid
  let guardian ← okOr (parts.policy.guardian? parts.guardianNodeId) .unappointedGuardian
  let policyDigest ← parts.policy.digest
  let intentDigest ← parts.intent.digest
  return transcript "mct-guardian-recovery-approval/v1"
    (.approval policyDigest intentDigest guardian parts.purpose parts.issuedAt parts.expiresAt)

structure RecoveryQuorumEvidenceV1 where
  intentDigest : RecoveryDigestV1
  policyDigest : RecoveryDigestV1
  purpose : RecoveryApprovalPurposeV1
  guardians : List MctNodeId
  validUntil : Timestamp

/-- The approval loop of `verify_recovery_quorum`, with its two accumulators. -/
def verifyApprovals (policy : GuardianRecoveryPolicyV1) (intent : RecoveryIntentV1)
    (purpose : RecoveryApprovalPurposeV1) (now : Timestamp) :
    List MctNodeId → Timestamp → List GuardianRecoveryApprovalV1 → Except RecoveryError (List MctNodeId × Timestamp)
  | guardians, validUntil, [] => .ok (guardians, validUntil)
  | guardians, validUntil, approval :: rest => do
    deny (guardians.contains approval.guardianNodeId) .duplicatePrincipal
    deny (now < approval.issuedAt ∨ approval.expiresAt ≤ now) .timeInvalid
    let message ← approvalMessage
      ⟨policy, intent, purpose, approval.guardianNodeId, approval.issuedAt, approval.expiresAt⟩
    let guardian ← okOr (policy.guardian? approval.guardianNodeId) .unappointedGuardian
    verifySignature guardian.signingKey message approval.signature
    verifyApprovals policy intent purpose now (guardians ++ [approval.guardianNodeId])
      (validUntil.min approval.expiresAt) rest

def verifyRecoveryQuorum (currentBinding : OwnerBindingV1) (policy : GuardianRecoveryPolicyV1)
    (request : RecoveryRequestV1) (purpose : RecoveryApprovalPurposeV1)
    (approvals : List GuardianRecoveryApprovalV1) (now : Timestamp) :
    Except RecoveryError RecoveryQuorumEvidenceV1 := do
  validatePolicy policy
  deny (currentBinding ≠ policy.target) .staleAuthority
  validateIntentPolicy request.intent policy
  validatePurpose purpose
  deny (now < request.intent.notBefore ∨ request.intent.expiresAt ≤ now) .timeInvalid
  deny (¬ (2 ≤ approvals.length ∧ approvals.length ≤ 3)) .quorumInvalid
  let possession ← request.intent.signingMessage
  verifySignature request.intent.replacementKey possession request.replacementPossession
  let (guardians, validUntil) ← verifyApprovals policy request.intent purpose now [] request.intent.expiresAt approvals
  let intentDigest ← request.intent.digest
  let policyDigest ← policy.digest
  return ⟨intentDigest, policyDigest, purpose, guardians.insertionSort (fun a b => a.value ≤ b.value), validUntil⟩

/-! ## Enrollment -/

def enrollmentSigningMessage (genesis : VoiceGenesisV1) (policy : GuardianRecoveryPolicyV1)
    (bindings : Vector OwnerBindingV1 3) : List UInt8 :=
  transcript "mct-guardian-enrollment/v1" (.enrollment genesis policy bindings)

def verifyAcceptance (message : List UInt8)
    (item : RecoveryGuardianV1 × OwnerBindingV1 × RecoverySignatureV1 × RecoverySignatureV1) :
    Except RecoveryError Unit := do
  let (guardian, binding, ownerAcceptance, acceptance) := item
  validateBinding binding
  deny (binding.motherNodeId ≠ guardian.motherNodeId ∨ binding.bindingId ≠ guardian.ownerBindingId ∨
    binding.rootGeneration ≠ guardian.ownerBindingGeneration ∨ binding.voiceId ≠ policy.target.voiceId)
    .staleAuthority
  verifySignature binding.rootKey message ownerAcceptance
  verifySignature guardian.signingKey message acceptance

def GuardianEnrollmentV1.verify (enrollment : GuardianEnrollmentV1) : Except RecoveryError Unit := do
  validatePolicy enrollment.policy
  let voice ← enrollment.genesis.verify
  deny (voice ≠ enrollment.policy.target.voiceId) .voiceMismatch
  deny (enrollment.policy.generation ≠ 1 ∨ enrollment.policy.target.rootGeneration ≠ 1) .staleAuthority
  let message := enrollmentSigningMessage enrollment.genesis enrollment.policy enrollment.guardianBindings
  verifySignature enrollment.genesis.publicKey message enrollment.genesisAuthorization
  verifySignature enrollment.policy.target.rootKey message enrollment.ownerAuthorization
  let guardians := enrollment.policy.guardians.toList
  let bindings := enrollment.guardianBindings.toList
  forM (guardians.zip (bindings.zip
    (enrollment.guardianOwnerAcceptances.toList.zip enrollment.guardianAcceptances.toList)))
    (verifyAcceptance enrollment.policy message)
  denyClash sharesKeyHalf .duplicatePrincipal (enrollment.genesis.publicKey :: enrollment.policy.target.rootKey ::
    (guardians.zip bindings).flatMap fun (guardian, binding) => [binding.rootKey, guardian.signingKey])

/-! ## What acceptance says -/

omit [KernelHost] in
theorem sharesKeyHalf_comm (a b : RecoveryPublicKeyV1) : sharesKeyHalf a b = sharesKeyHalf b a := by
  simp only [sharesKeyHalf, eq_comm]

variable {pol : GuardianRecoveryPolicyV1}

omit [KernelHost] in
theorem mem_of_guardian? {node : MctNodeId} {g : RecoveryGuardianV1}
    (h : pol.guardian? node = some g) : g ∈ pol.guardians.toList ∧ g.motherNodeId = node :=
  ⟨List.mem_of_find?_eq_some h, by simpa using List.find?_some h⟩

/-- **One approval is signed by an appointed guardian over this policy, intent and purpose.** -/
def SignedBy (policy : GuardianRecoveryPolicyV1) (intent : RecoveryIntentV1) (purpose : RecoveryApprovalPurposeV1)
    (guardian : RecoveryGuardianV1) (approval : GuardianRecoveryApprovalV1) : Prop :=
  approval.guardianNodeId = guardian.motherNodeId ∧ ∃ message,
    approvalMessage ⟨policy, intent, purpose, guardian.motherNodeId, approval.issuedAt, approval.expiresAt⟩ =
      .ok message ∧
    verifySignature guardian.signingKey message approval.signature = .ok ()

/-- **At least two distinct guardians of the roster signed this policy, intent and purpose.** -/
def QuorumApproved (policy : GuardianRecoveryPolicyV1) (intent : RecoveryIntentV1)
    (purpose : RecoveryApprovalPurposeV1) (approvals : List GuardianRecoveryApprovalV1) : Prop :=
  ∃ g₁ ∈ policy.guardians.toList, ∃ g₂ ∈ policy.guardians.toList, g₁.motherNodeId ≠ g₂.motherNodeId ∧
    (∃ approval ∈ approvals, SignedBy policy intent purpose g₁ approval) ∧
    ∃ approval ∈ approvals, SignedBy policy intent purpose g₂ approval

variable {intent : RecoveryIntentV1} {purpose : RecoveryApprovalPurposeV1} {now : Timestamp}

theorem verifyApprovals_ok :
    ∀ {aps : List GuardianRecoveryApprovalV1} {guardians : List MctNodeId} {validUntil : Timestamp}
      {r : List MctNodeId × Timestamp}, verifyApprovals pol intent purpose now guardians validUntil aps = .ok r →
      (∀ approval ∈ aps, approval.guardianNodeId ∉ guardians ∧
        ∃ g ∈ pol.guardians.toList, SignedBy pol intent purpose g approval) ∧
      (aps.map (·.guardianNodeId)).Nodup
  | [], _, _, _, _ => by simp
  | approval :: rest, guardians, validUntil, r, h => by
    simp only [verifyApprovals, bind_ok, exists_unit, deny_ok, okOr_ok, List.contains_eq_mem,
      decide_eq_false_iff_not] at h
    obtain ⟨hfresh, _, message, hm, g, hg, hs, hrest⟩ := h
    obtain ⟨hall, hnodup⟩ := verifyApprovals_ok hrest
    obtain ⟨hmem, hnode⟩ := mem_of_guardian? hg
    refine ⟨?_, ?_⟩
    · intro a ha
      rcases List.mem_cons.mp ha with rfl | ha
      · exact ⟨hfresh, g, hmem, hnode.symm, message, by rw [hnode]; exact hm, hs⟩
      · obtain ⟨hn, hg⟩ := hall a ha
        exact ⟨fun hc => hn (by simp [hc]), hg⟩
    · rw [List.map_cons, List.nodup_cons]
      refine ⟨fun hc => ?_, hnodup⟩
      obtain ⟨a, ha, hnode⟩ := List.mem_map.mp hc
      exact (hall a ha).1 (by simp [hnode])

omit [KernelHost] in
theorem exists_two {α : Type} {l : List α} (h : 2 ≤ l.length) : ∃ a b rest, l = a :: b :: rest := by
  rcases l with _ | ⟨a, _ | ⟨b, rest⟩⟩
  · simp at h
  · simp at h
  · exact ⟨a, b, rest, rfl⟩

/-- **A verified quorum is a quorum**, of the policy over the current binding. -/
theorem verifyRecoveryQuorum_ok {binding : OwnerBindingV1}
    {req : RecoveryRequestV1} {approvals : List GuardianRecoveryApprovalV1}
    {evidence : RecoveryQuorumEvidenceV1}
    (h : verifyRecoveryQuorum binding pol req purpose approvals now = .ok evidence) :
    binding = pol.target ∧ validateIntentPolicy req.intent pol = .ok () ∧
      QuorumApproved pol req.intent purpose approvals := by
  simp only [verifyRecoveryQuorum, bind_ok, exists_unit, deny_ok, decide_eq_false_iff_not, not_not] at h
  obtain ⟨_, hb, hi, _, _, hlen, _, _, _, r, hr, _⟩ := h
  refine ⟨hb, hi, ?_⟩
  obtain ⟨hall, hnodup⟩ := verifyApprovals_ok hr
  obtain ⟨a, b, rest, rfl⟩ := exists_two hlen.1
  obtain ⟨_, g₁, hg₁, hs₁⟩ := hall a (by simp)
  obtain ⟨_, g₂, hg₂, hs₂⟩ := hall b (by simp)
  refine ⟨g₁, hg₁, g₂, hg₂, ?_, ⟨a, by simp, hs₁⟩, ⟨b, by simp, hs₂⟩⟩
  rw [← hs₁.1, ← hs₂.1]
  simp only [List.map_cons, List.nodup_cons, List.mem_cons, not_or] at hnodup
  exact hnodup.1.1

/-- **An intent that fits its policy names a usable key that is neither the root nor a guardian's.** -/
theorem validateIntentPolicy_ok (h : validateIntentPolicy intent pol = .ok ()) :
    validateKey intent.replacementKey = .ok () ∧ intent.target = pol.target ∧
      sharesKeyHalf intent.replacementKey pol.target.rootKey = false ∧
      ∀ g ∈ pol.guardians.toList, sharesKeyHalf intent.replacementKey g.signingKey = false := by
  simp only [validateIntentPolicy, validateIntentShape, bind_ok, exists_unit, deny_ok, Bool.or_eq_false_iff,
    List.any_eq_false, Bool.not_eq_true, decide_eq_false_iff_not, not_or, not_not] at h
  obtain ⟨⟨_, _, hk, _, _⟩, ⟨ht, _⟩, _, _, _, hr, hg⟩ := h
  exact ⟨hk, ht, hr, hg⟩

end Recovery
end Mct
