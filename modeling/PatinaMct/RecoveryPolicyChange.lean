import PatinaMct.RecoveryReplacement
/-!
# RecoveryPolicyChange — how the roster can change

The guardian policy change law: in every run the guardians, their owner bindings and the enabled flag change only in an
`activatePolicy`.  That step checks nothing but the clock; everything else was checked when the edit was proposed
(`Proposed`), and `EditHistory` carries it over: while an edit waits, only `rebaseWait` is accepted, so neither the root
nor the roster nor maintenance can change before the edit is activated or withdrawn.
-/
namespace Mct
namespace Recovery

open Checked

section

variable [KernelHost]

/-! ## What a proposal was checked for -/

abbrev Appointment := RecoveryGuardianV1 × OwnerBindingV1

def GuardianPolicyEditV1.appointments (edit : GuardianPolicyEditV1) : List Appointment :=
  edit.policy.guardians.toList.zip edit.guardianBindings.toList

def GuardianRecoveryStateV1.appointments (state : GuardianRecoveryStateV1) : List Appointment :=
  state.policy.guardians.toList.zip state.guardianBindings.toList

variable (current : GuardianRecoveryStateV1) (edit : GuardianPolicyEditV1)

variable {cur : GuardianRecoveryStateV1} {edit : GuardianPolicyEditV1} {node : MctNodeId} {message : List UInt8}

variable {now : Timestamp} {approvals : List GuardianRecoveryApprovalV1}

variable {s : GuardianRecoveryStateV1}

variable {next : GuardianRecoveryStateV1}

/-- **The same roster is in force**: guardians, owner bindings and the enabled flag. -/
structure SameRoster (s s' : GuardianRecoveryStateV1) : Prop where
  guardians : s'.policy.guardians = s.policy.guardians
  bindings : s'.guardianBindings = s.guardianBindings
  enabled : s'.recoveryEnabled = s.recoveryEnabled

def GuardianRecoveryStateV1.retiredGuardianKeys (state : GuardianRecoveryStateV1) : List RecoveryPublicKeyV1 :=
  (state.policyEdits.map (·.retiredGuardianKeys)).getD []

variable {revision : Nat} {snap : String} {newTenure : Bool} {act : GuardianRecoveryActionV1}

/-- **Only `activatePolicy` touches the roster**, or retires a guardian's key. -/
theorem roster_of_applyAction {now : RecoveryClockV1}
    (h : applyAction s { s with revision } now snap newTenure act = .ok next) :
    act = .activatePolicy ∨ SameRoster s next ∧ next.retiredGuardianKeys = s.retiredGuardianKeys := by
  cases act with
  | proposePolicy proposal =>
    obtain ⟨_, _, _, _, rfl⟩ := propose_ok h
    refine .inr ⟨⟨rfl, policyEditsOrFresh_guardianBindings, policyEditsOrFresh_enabled⟩, ?_⟩
    simp only [GuardianRecoveryStateV1.retiredGuardianKeys, policyEditsOrFresh]
    cases s.policyEdits <;> rfl
  | cancelPolicy ownerSignature approvals =>
    obtain ⟨_, edits, he, rfl⟩ := cancelPolicy_ok h
    have he : s.policyEdits = some edits := he
    refine .inr ⟨⟨rfl, ?_, ?_⟩, ?_⟩
    · simp [GuardianRecoveryStateV1.guardianBindings, he]
    · simp [GuardianRecoveryStateV1.recoveryEnabled, he]
    · simp [GuardianRecoveryStateV1.retiredGuardianKeys, he]
  | activatePolicy => exact .inl rfl
  | enroll enrollment => cases h
  | initiate req approvals => obtain ⟨_, _, _, _, _, _, rfl⟩ := initiate_ok h; exact .inr ⟨⟨rfl, rfl, rfl⟩, rfl⟩
  | rebaseWait =>
    obtain ⟨_, rfl⟩ := rebaseWait_ok h
    refine .inr ⟨⟨rfl, rebased_guardianBindings, rebased_recoveryEnabled⟩, ?_⟩
    simp only [GuardianRecoveryStateV1.retiredGuardianKeys, rebased]
    cases s.policyEdits <;> rfl
  | issueChallenge ch => obtain ⟨_, _, _, _, _, _, rfl⟩ := issueChallenge_ok h; exact .inr ⟨⟨rfl, rfl, rfl⟩, rfl⟩
  | cancel approvals => obtain ⟨_, rfl⟩ := cancel_ok h; exact .inr ⟨⟨rfl, rfl, rfl⟩, rfl⟩
  | expire => obtain ⟨_, _, _, rfl⟩ := expire_ok h; exact .inr ⟨⟨rfl, rfl, rfl⟩, rfl⟩
  | complete approvals => obtain ⟨_, _, _, _, _, _, _, _, rfl⟩ := complete_ok h; exact .inr ⟨⟨rfl, rfl, rfl⟩, rfl⟩
  | resume expected sig => obtain ⟨_, _, _, rfl⟩ := resume_ok h; exact .inr ⟨⟨rfl, rfl, rfl⟩, rfl⟩

omit [KernelHost] in
theorem SameRoster.stamp {s' : GuardianRecoveryStateV1} (h : SameRoster s s') (clock : RecoveryClockV1) :
    SameRoster s { s' with clock } :=
  ⟨h.guardians, h.bindings, h.enabled⟩

omit [KernelHost] in
theorem SameRoster.trans {a b c : GuardianRecoveryStateV1} (hab : SameRoster a b) (hbc : SameRoster b c) : SameRoster a c :=
  ⟨hbc.guardians.trans hab.guardians, hbc.bindings.trans hab.bindings, hbc.enabled.trans hab.enabled⟩

end

/-! ## A concrete change -/

namespace Sample

def rekeyed (policy : GuardianRecoveryPolicyV1) (signingKey : RecoveryPublicKeyV1) : GuardianRecoveryPolicyV1 :=
  { policy with
    generation := policy.generation + 1
    guardians := policy.guardians.map fun g => if g.motherNodeId = node 3 then { g with signingKey } else g }

/-- The third guardian takes a new key at second `n`; it accepts and the other two vote. -/
def proposal (s : GuardianRecoveryStateV1) (n : Nat) (signingKey : RecoveryPublicKeyV1) : GuardianPolicyProposalV1 :=
  ⟨⟨"p", rekeyed s.policy signingKey, s.guardianBindings, true, second n, second (n + 300)⟩, signature,
    [⟨node 3, signature, signature⟩], approvals n⟩

def proposed : Step := taken enrolled.post 10 (.proposePolicy (proposal (stateAfter enrolled) 10 (key 33)))

end Sample

end Recovery
end Mct
