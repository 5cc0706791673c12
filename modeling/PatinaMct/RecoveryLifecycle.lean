import PatinaMct.RecoveryQuorum
import PatinaMct.Trace
/-!
# RecoveryLifecycle — roster edits and the transition evaluator

`recovery/policy.rs` and `recovery/lifecycle.rs`.  `evaluateGuardianRecovery` takes the canonical state (none before
enrollment), a command, the Mother's clock sample and the authority snapshot, and either refuses or proposes the next
state.  The source mutates a clone `next` of the current state whose revision is already raised; each arm below is a
function from that clone to its successor.
-/
namespace Mct
namespace Recovery

open Checked

variable [KernelHost]

/-! ## The roster in force -/

namespace GuardianRecoveryStateV1

variable (state : GuardianRecoveryStateV1)

def recoveryEnabled : Bool :=
  state.policyEdits.all fun edits => edits.enabled

def guardianBindings : Vector OwnerBindingV1 3 :=
  match state.policyEdits with
  | some edits => edits.guardianBindings
  | none => state.enrollment.guardianBindings

def pendingPolicyEdit : Option PendingGuardianPolicyV1 :=
  state.policyEdits.bind fun edits => edits.pending

def digest : RecoveryDigestV1 :=
  Recovery.digest "mct-guardian-recovery-state/v1" (.state state)

def resumeSigningMessage (snapshot : String) :
    Except RecoveryError (List UInt8) := do
  deny (snapshot.utf8ByteSize ≠ 64 || !snapshot.toList.all isLowerHex) .malformed
  return transcript "mct-guardian-recovery-resume/v1" (.resume state.digest snapshot)

def policyCancelSigningMessage : Except RecoveryError (List UInt8) := do
  deny state.recoveryEnabled .policyInvalid
  let pending ← okOr state.pendingPolicyEdit .staleAuthority
  return transcript "mct-guardian-policy-owner-cancel/v1" (.ownerCancel state.digest pending.edit)

end GuardianRecoveryStateV1

/-! ## Roster edits -/

def validateGuardianBinding (voice : VoiceIdV1) (item : RecoveryGuardianV1 × OwnerBindingV1) :
    Except RecoveryError Unit := do
  let (guardian, binding) := item
  validateBinding binding
  deny (guardian.motherNodeId ≠ binding.motherNodeId ∨ guardian.ownerBindingId ≠ binding.bindingId ∨
    guardian.ownerBindingGeneration ≠ binding.rootGeneration ∨ binding.voiceId ≠ voice) .staleAuthority

def validateBindings (state : GuardianRecoveryStateV1) (policy : GuardianRecoveryPolicyV1)
    (bindings : Vector OwnerBindingV1 3) : Except RecoveryError Unit := do
  validatePolicy policy
  let pairs := policy.guardians.toList.zip bindings.toList
  forM pairs (validateGuardianBinding state.binding.voiceId)
  denyClash (fun key prior => sharesKeyHalf prior key) .duplicatePrincipal
    (state.enrollment.genesis.publicKey :: state.binding.rootKey ::
      pairs.flatMap fun (guardian, binding) => [guardian.signingKey, binding.rootKey])

namespace GuardianPolicyEditV1

def validate (edit : GuardianPolicyEditV1) (current : GuardianRecoveryStateV1) : Except RecoveryError Unit := do
  validateId edit.editId
  validateInterval edit.issuedAt edit.expiresAt approvalMaxMs
  deny (edit.policy.target ≠ current.binding ∨ checkedAdd current.policy.generation 1 ≠ some edit.policy.generation)
    .staleAuthority
  validateBindings current edit.policy edit.guardianBindings
  deny (edit.enabled = current.recoveryEnabled ∧ edit.policy.guardians = current.policy.guardians ∧
    edit.guardianBindings = current.guardianBindings) .policyInvalid
  deny (edit.enabled = false ∧ (current.recoveryEnabled = false ∨ edit.policy.guardians ≠ current.policy.guardians ∨
    edit.guardianBindings ≠ current.guardianBindings)) .policyInvalid

def ownerSigningMessage (edit : GuardianPolicyEditV1) (current : GuardianRecoveryStateV1) :
    Except RecoveryError (List UInt8) := do
  edit.validate current
  return transcript "mct-guardian-policy-owner-proposal/v1" (.ownerProposal current.digest edit)

def acceptanceSigningMessage (edit : GuardianPolicyEditV1) (current : GuardianRecoveryStateV1)
    (guardian : MctNodeId) : Except RecoveryError (List UInt8) := do
  edit.validate current
  deny (!edit.policy.guardians.toList.any fun g => g.motherNodeId = guardian) .unappointedGuardian
  return transcript "mct-guardian-policy-acceptance/v1" (.acceptance current.digest edit guardian)

end GuardianPolicyEditV1

variable (current : GuardianRecoveryStateV1) (edit : GuardianPolicyEditV1) (purpose : GuardianPolicyApprovalPurposeV1)

def guardianPolicyApprovalMessage (guardian : MctNodeId) (issuedAt expiresAt : Timestamp) :
    Except RecoveryError (List UInt8) := do
  deny (!current.recoveryEnabled) .policyInvalid
  edit.validate current
  validateInterval issuedAt expiresAt approvalMaxMs
  deny (purpose = .propose ∧ (issuedAt < edit.issuedAt ∨ edit.expiresAt < expiresAt)) .timeInvalid
  let member ← okOr (current.policy.guardian? guardian) .unappointedGuardian
  return transcript "mct-guardian-policy-quorum/v1"
    (.policyVote current.digest edit purpose member issuedAt expiresAt)

def verifyVoteLoop (current : GuardianRecoveryStateV1) (edit : GuardianPolicyEditV1)
    (purpose : GuardianPolicyApprovalPurposeV1) (now : Timestamp) :
    List MctNodeId → List GuardianRecoveryApprovalV1 → Except RecoveryError Unit
  | _, [] => .ok ()
  | seen, approval :: rest => do
    deny (seen.contains approval.guardianNodeId) .duplicatePrincipal
    deny (now < approval.issuedAt ∨ approval.expiresAt ≤ now) .timeInvalid
    let message ← guardianPolicyApprovalMessage current edit purpose approval.guardianNodeId approval.issuedAt
      approval.expiresAt
    let guardian ← okOr (current.policy.guardian? approval.guardianNodeId) .unappointedGuardian
    verifySignature guardian.signingKey message approval.signature
    verifyVoteLoop current edit purpose now (approval.guardianNodeId :: seen) rest

def verifyVotes (approvals : List GuardianRecoveryApprovalV1) (now : Timestamp) :
    Except RecoveryError Unit := do
  deny (¬ (2 ≤ approvals.length ∧ approvals.length ≤ 3)) .quorumInvalid
  verifyVoteLoop current edit purpose now [] approvals

def verifyAcceptances (current : GuardianRecoveryStateV1) (edit : GuardianPolicyEditV1) :
    List MctNodeId → List GuardianPolicyAcceptanceV1 → Except RecoveryError (List MctNodeId)
  | accepted, [] => .ok accepted
  | accepted, acceptance :: rest => do
    deny (accepted.contains acceptance.guardianNodeId) .duplicatePrincipal
    let (guardian, binding) ← okOr ((edit.policy.guardians.toList.zip edit.guardianBindings.toList).find? fun item =>
      item.1.motherNodeId = acceptance.guardianNodeId) .unappointedGuardian
    let bytes ← edit.acceptanceSigningMessage current acceptance.guardianNodeId
    verifySignature binding.rootKey bytes acceptance.ownerSignature
    verifySignature guardian.signingKey bytes acceptance.guardianSignature
    verifyAcceptances current edit (acceptance.guardianNodeId :: accepted) rest

/-- A newly appointed guardian, or any guardian while recovery is disabled, has to have accepted. -/
def requireAcceptance (accepted : List MctNodeId) (item : RecoveryGuardianV1 × OwnerBindingV1) :
    Except RecoveryError Unit :=
  let unchanged := current.recoveryEnabled &&
    (current.policy.guardians.toList.zip current.guardianBindings.toList).any fun old => decide (old = item)
  deny (!unchanged && !accepted.contains item.1.motherNodeId) .quorumInvalid

/-- The roster votes while recovery is enabled; disabled guardians have no vote, not even a redundant one. -/
def verifyProposalVotes (proposal : GuardianPolicyProposalV1) (clock : RecoveryClockV1) : Except RecoveryError Unit :=
  if current.recoveryEnabled then verifyVotes current proposal.edit .propose proposal.approvals clock.wallTime
  else deny (!proposal.approvals.isEmpty) .quorumInvalid

def requireAcceptances (accepted : List MctNodeId) :
    Except RecoveryError Unit :=
  if edit.enabled then
    forM (edit.policy.guardians.toList.zip edit.guardianBindings.toList) (requireAcceptance current accepted)
  else .ok ()

variable (current next : GuardianRecoveryStateV1) (approvals : List GuardianRecoveryApprovalV1)
  (clock : RecoveryClockV1)

def policyEditsOrFresh : GuardianPolicyStateV1 :=
  match next.policyEdits with
  | some edits => edits
  | none =>
    { enabled := true, guardianBindings := current.guardianBindings, pending := none, consumedEditIds := ∅,
      retiredGuardianKeys := [] }

def propose (proposal : GuardianPolicyProposalV1) (clock : RecoveryClockV1) :
    Except RecoveryError GuardianRecoveryStateV1 := do
  deny (current.maintenance || current.pending.isSome || current.pendingPolicyEdit.isSome ||
    current.policyEdits.any fun s => s.consumedEditIds.contains proposal.edit.editId) .staleAuthority
  let edit := proposal.edit
  edit.validate current
  deny (clock.wallTime < edit.issuedAt ∨ edit.expiresAt ≤ clock.wallTime) .timeInvalid
  let message ← edit.ownerSigningMessage current
  verifySignature current.binding.rootKey message proposal.ownerSignature
  verifyProposalVotes current proposal clock
  deny (3 < proposal.acceptances.length) .quorumInvalid
  let accepted ← verifyAcceptances current edit [] proposal.acceptances
  requireAcceptances current edit accepted
  let edits := policyEditsOrFresh current next
  return { next with policyEdits := some { edits with
    consumedEditIds := edits.consumedEditIds.insert edit.editId
    pending := some ⟨edit, clock⟩ } }

/-- Who may withdraw an edit: the roster while recovery is enabled, the owner alone otherwise. -/
def verifyPolicyCancel (edit : GuardianPolicyEditV1) (ownerSignature : Option RecoverySignatureV1)
    (approvals : List GuardianRecoveryApprovalV1) (clock : RecoveryClockV1) : Except RecoveryError Unit :=
  if current.recoveryEnabled then do
    deny ownerSignature.isSome .policyInvalid
    verifyVotes current edit .cancel approvals clock.wallTime
  else do
    deny (!approvals.isEmpty) .quorumInvalid
    let message ← current.policyCancelSigningMessage
    let signature ← okOr ownerSignature .signatureInvalid
    verifySignature current.binding.rootKey message signature

def cancelPolicy (ownerSignature : Option RecoverySignatureV1) (approvals : List GuardianRecoveryApprovalV1)
    (clock : RecoveryClockV1) :
    Except RecoveryError GuardianRecoveryStateV1 := do
  let pending ← okOr current.pendingPolicyEdit .staleAuthority
  verifyPolicyCancel current pending.edit ownerSignature approvals clock
  let edits ← okOr next.policyEdits .staleAuthority
  return { next with policyEdits := some { edits with pending := none } }

def retireKeys (retired keys : List RecoveryPublicKeyV1) : List RecoveryPublicKeyV1 :=
  keys.foldl (fun acc key => if acc.contains key then acc else acc ++ [key]) retired

/-- The wait of both recoveries and roster edits: same tenure, and the delay has passed on both clocks. -/
def delayElapsed (origin clock : RecoveryClockV1) : Except RecoveryError Unit := do
  deny (origin.writerEpoch ≠ clock.writerEpoch ∨ clock.monotonicMs < origin.monotonicMs ∨
    clock.monotonicMs - origin.monotonicMs < delayMs) .timeInvalid
  let earliest ← okOr (origin.wallTime.checkedAddMilliseconds delayMs) .timeInvalid
  deny (clock.wallTime < earliest) .timeInvalid

def activate :
    Except RecoveryError GuardianRecoveryStateV1 := do
  let pending ← okOr next.pendingPolicyEdit .staleAuthority
  delayElapsed pending.waitOrigin clock
  let edit := pending.edit
  let oldBindings := next.guardianBindings
  let extension ← okOr next.policyEdits .staleAuthority
  let keys := next.policy.guardians.toList.map (·.signingKey) ++ oldBindings.toList.map (·.rootKey)
  return { next with
    policyEdits := some { extension with
      retiredGuardianKeys := retireKeys extension.retiredGuardianKeys keys
      enabled := edit.enabled
      guardianBindings := edit.guardianBindings
      pending := none }
    policy := edit.policy }

/-- **The shape the ledger accepts**, checked without the history. -/
def guardianPolicyStateIsConsistent (state : GuardianRecoveryStateV1) : Except RecoveryError Unit := do
  deny (state.policy.generation < state.binding.rootGeneration) .staleAuthority
  validateBindings state state.policy state.guardianBindings
  deny (state.policyEdits.any fun s => s.consumedEditIds.isEmpty) .malformed
  deny (!state.recoveryEnabled && (state.pending.isSome || state.maintenance)) .policyInvalid
  match state.pendingPolicyEdit with
  | none => return ()
  | some pending =>
    deny (state.maintenance || state.pending.isSome ||
      !state.policyEdits.any fun s => s.consumedEditIds.contains pending.edit.editId) .policyInvalid
    pending.edit.validate state

/-! ## The evaluator -/

def checkedDeadline (time : Timestamp) (ms : Nat) : Except RecoveryError Timestamp :=
  okOr (time.checkedAddMilliseconds ms) .timeInvalid

def waitFinished (pending : PendingGuardianRecoveryV1) (clock : RecoveryClockV1) : Except RecoveryError Unit := do
  delayElapsed pending.waitOrigin clock
  deny (pending.deadline ≤ clock.wallTime) .timeInvalid

/-- A replacement key may not share a half with any key that ever had authority here. -/
def replacementReused (state : GuardianRecoveryStateV1) (key : RecoveryPublicKeyV1) : Bool :=
  state.retiredRootKeys.any (sharesKeyHalf · key) || sharesKeyHalf state.enrollment.genesis.publicKey key ||
    state.guardianBindings.toList.any (fun b => sharesKeyHalf b.rootKey key) ||
    state.policyEdits.any fun edits => edits.retiredGuardianKeys.any (sharesKeyHalf · key)

def initiate (request : RecoveryRequestV1) (approvals : List GuardianRecoveryApprovalV1) (clock : RecoveryClockV1) :
    Except RecoveryError GuardianRecoveryStateV1 := do
  deny (!next.recoveryEnabled || next.pendingPolicyEdit.isSome || next.pending.isSome ||
    next.consumedRequestIds.contains request.intent.requestId) .staleAuthority
  deny (replacementReused next request.intent.replacementKey) .replacementNotFresh
  let _ ← verifyRecoveryQuorum next.binding next.policy request .initiate approvals clock.wallTime
  let earliest ← checkedDeadline clock.wallTime delayMs
  let window ← checkedDeadline earliest completionWindowMs
  let deadline := window.min request.intent.expiresAt
  deny (deadline ≤ earliest) .timeInvalid
  return { next with
    consumedRequestIds := next.consumedRequestIds.insert request.intent.requestId
    pending := some ⟨request, clock, deadline, none⟩
    maintenance := true }

/-- Both waits restart at `clock`; a challenge of the old tenure is dropped and the hard deadline stays. -/
def rebased (state : GuardianRecoveryStateV1) (clock : RecoveryClockV1) : GuardianRecoveryStateV1 :=
  { state with
    pending := state.pending.map fun pending => { pending with waitOrigin := clock, challenge := none }
    policyEdits := state.policyEdits.map fun edits =>
      { edits with pending := edits.pending.map fun pending => { pending with waitOrigin := clock } } }

def rebaseWait (newTenure : Bool) :
    Except RecoveryError GuardianRecoveryStateV1 := do
  deny (!newTenure) .timeInvalid
  return rebased next clock

def issueChallenge (challenge : String) (clock : RecoveryClockV1) :
    Except RecoveryError GuardianRecoveryStateV1 := do
  validateId challenge
  let pending ← okOr next.pending .staleAuthority
  waitFinished pending clock
  deny (pending.challenge.any (fun old => decide (clock.wallTime < old.expiresAt)) ||
    next.consumedChallenges.contains challenge) .staleAuthority
  let until_ ← checkedDeadline clock.wallTime approvalMaxMs
  return { next with
    consumedChallenges := next.consumedChallenges.insert challenge
    pending := some { pending with
      challenge := some ⟨challenge, clock.wallTime, until_.min pending.deadline⟩ } }

/-- Cancellation is not an approval of the authority snapshot: maintenance stays. -/
def cancel :
    Except RecoveryError GuardianRecoveryStateV1 := do
  let pending ← okOr next.pending .staleAuthority
  let _ ← verifyRecoveryQuorum next.binding next.policy pending.request .cancel approvals clock.wallTime
  return { next with pending := none }

def expire :
    Except RecoveryError GuardianRecoveryStateV1 := do
  let pending ← okOr next.pending .staleAuthority
  deny (clock.wallTime < pending.deadline) .timeInvalid
  return { next with pending := none }

def OwnerBindingV1.withRoot (binding : OwnerBindingV1) (rootGeneration : Nat) (rootKey : RecoveryPublicKeyV1) :
    OwnerBindingV1 :=
  { binding with rootGeneration, rootKey }

/-- The old root retires and the replacement becomes the target; maintenance stays until the new root resumes. -/
def complete : Except RecoveryError GuardianRecoveryStateV1 := do
  let pending ← okOr next.pending .staleAuthority
  waitFinished pending clock
  let challenge ← okOr pending.challenge .staleAuthority
  deny (challenge.expiresAt ≤ clock.wallTime || approvals.any fun approval =>
    decide (approval.issuedAt < challenge.issuedAt ∨ challenge.expiresAt < approval.expiresAt)) .timeInvalid
  let _ ← verifyRecoveryQuorum next.binding next.policy pending.request (.complete challenge.value) approvals
    clock.wallTime
  let rootGeneration ← okOr (checkedAdd next.binding.rootGeneration 1) .malformed
  let binding := next.binding.withRoot rootGeneration pending.request.intent.replacementKey
  let generation ← okOr (checkedAdd next.policy.generation 1) .malformed
  return { next with
    retiredRootKeys := next.retiredRootKeys ++ [next.binding.rootKey]
    binding
    policy := { next.policy with target := binding, generation }
    pending := none }

def resume (expected : String) (signature : RecoverySignatureV1) (authoritySnapshot : String) :
    Except RecoveryError GuardianRecoveryStateV1 := do
  deny (next.pending.isSome || !next.maintenance || expected ≠ authoritySnapshot) .staleAuthority
  let message ← current.resumeSigningMessage expected
  verifySignature current.binding.rootKey message signature
  return { next with maintenance := false }

def applyAction (authoritySnapshot : String) (newTenure : Bool) :
    GuardianRecoveryActionV1 → Except RecoveryError GuardianRecoveryStateV1
  | .proposePolicy proposal => propose current next proposal clock
  | .cancelPolicy ownerSignature approvals => cancelPolicy current next ownerSignature approvals clock
  | .activatePolicy => activate next clock
  | .enroll _ => .error .staleAuthority
  | .initiate request approvals => initiate next request approvals clock
  | .rebaseWait => rebaseWait next clock newTenure
  | .issueChallenge challenge => issueChallenge next challenge clock
  | .cancel approvals => cancel next approvals clock
  | .expire => expire next clock
  | .complete approvals => complete next approvals clock
  | .resume expected signature => resume current next expected signature authoritySnapshot

def enrolledState (enrollment : GuardianEnrollmentV1) (clock : RecoveryClockV1) : GuardianRecoveryStateV1 where
  enrollment
  binding := enrollment.policy.target
  policy := enrollment.policy
  revision := 1
  clock
  pending := none
  consumedRequestIds := ∅
  consumedChallenges := ∅
  retiredRootKeys := []
  maintenance := false
  policyEdits := none

def evaluateGuardianRecovery (current : Option GuardianRecoveryStateV1) (command : GuardianRecoveryCommandV1)
    (clock : RecoveryClockV1) (authoritySnapshot : String) : Except RecoveryError GuardianRecoveryStateV1 := do
  validateId clock.writerEpoch
  deny (command.expectedState ≠ current.map (·.digest)) .staleAuthority
  match current with
  | none =>
    match command.action with
    | .enroll enrollment =>
      enrollment.verify
      return enrolledState enrollment clock
    | _ => .error .staleAuthority
  | some current =>
    let newTenure : Bool := clock.writerEpoch ≠ current.clock.writerEpoch
    deny (clock.wallTime < current.clock.wallTime || (!newTenure && clock.monotonicMs < current.clock.monotonicMs) ||
      (newTenure && command.action ≠ .rebaseWait)) .timeInvalid
    let revision ← okOr (checkedAdd current.revision 1) .malformed
    let next ← applyAction current { current with revision } clock authoritySnapshot newTenure command.action
    return { next with clock }

end Recovery
end Mct
