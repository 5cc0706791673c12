import PatinaMct.RecoveryLifecycle
/-!
# RecoverySteps — what an accepted recovery command says

One inversion lemma for each arm of the evaluator: the guards that held and the state that came out.  Later proofs
take an accepted step apart with these and never unfold the evaluator again.
-/
namespace Mct
namespace Recovery

open Checked

variable [KernelHost]

variable {clock : RecoveryClockV1}

theorem delayElapsed_ok {org : RecoveryClockV1} (h : delayElapsed org clock = .ok ()) :
    clock.writerEpoch = org.writerEpoch ∧ org.monotonicMs + delayMs ≤ clock.monotonicMs ∧
      org.wallTime.epochNanoseconds + delayMs * 1000000 ≤ clock.wallTime.epochNanoseconds := by
  simp only [delayElapsed, bind_ok, exists_unit, deny_ok, okOr_ok, decide_eq_false_iff_not] at h
  obtain ⟨hm, t, ht, hw⟩ := h
  have := Timestamp.checkedAddMilliseconds_some ht
  rw [Timestamp.lt_def] at hw
  refine ⟨?_, ?_, ?_⟩
  · by_contra hc; exact hm (.inl (Ne.symm hc))
  · omega
  · omega

theorem waitFinished_ok {pending : PendingGuardianRecoveryV1} (h : waitFinished pending clock = .ok ()) :
    delayElapsed pending.waitOrigin clock = .ok () ∧ clock.wallTime < pending.deadline := by
  simp only [waitFinished, bind_ok, exists_unit, deny_ok, decide_eq_false_iff_not] at h
  obtain ⟨hd, hw⟩ := h
  exact ⟨hd, by rw [Timestamp.le_def] at hw; rw [Timestamp.lt_def]; omega⟩

variable {next s : GuardianRecoveryStateV1} {aps : List GuardianRecoveryApprovalV1}

theorem initiate_ok {req : RecoveryRequestV1} (h : initiate next req aps clock = .ok s) :
    next.recoveryEnabled = true ∧ next.pendingPolicyEdit = none ∧ next.pending = none ∧
      replacementReused next req.intent.replacementKey = false ∧
      (∃ evidence, verifyRecoveryQuorum next.binding next.policy req .initiate aps clock.wallTime =
        .ok evidence) ∧
      ∃ deadline, s = { next with
        consumedRequestIds := next.consumedRequestIds.insert req.intent.requestId
        pending := some ⟨req, clock, deadline, none⟩
        maintenance := true } := by
  simp only [initiate, bind_ok, exists_unit, deny_ok, pure_ok, Bool.or_eq_false_iff, Bool.not_eq_false',
    Option.isSome_eq_false_iff, Option.isNone_iff_eq_none] at h
  obtain ⟨⟨⟨⟨he, hp⟩, hn⟩, _⟩, hr, ev, hq, _, _, _, _, _, rfl⟩ := h
  exact ⟨he, hp, hn, hr, ⟨ev, hq⟩, _, rfl⟩

omit [KernelHost] in
theorem rebaseWait_ok {newTenure : Bool}
    (h : rebaseWait next clock newTenure = .ok s) : newTenure = true ∧ s = rebased next clock := by
  simp only [rebaseWait, bind_ok, exists_unit, deny_ok, pure_ok, Bool.not_eq_false'] at h
  exact ⟨h.1, h.2.symm⟩

/-- A challenge is issued once the wait is over, was never issued before, and lives ten minutes at most. -/
theorem issueChallenge_ok {ch : String} (h : issueChallenge next ch clock = .ok s) :
    ∃ pending exp, next.pending = some pending ∧ waitFinished pending clock = .ok () ∧
      ch ∉ next.consumedChallenges ∧
      exp.epochNanoseconds ≤ clock.wallTime.epochNanoseconds + approvalMaxMs * 1000000 ∧ s = { next with
        consumedChallenges := next.consumedChallenges.insert ch
        pending := some { pending with challenge := some ⟨ch, clock.wallTime, exp⟩ } } := by
  simp only [issueChallenge, checkedDeadline, bind_ok, exists_unit, deny_ok, okOr_ok, pure_ok,
    Bool.or_eq_false_iff] at h
  obtain ⟨_, pending, hp, hw, ⟨_, hc⟩, window, hwindow, rfl⟩ := h
  refine ⟨pending, _, hp, hw, ?_, ?_, rfl⟩
  · simpa [← Std.ExtTreeSet.contains_iff_mem] using hc
  · rw [← Timestamp.checkedAddMilliseconds_some hwindow]
    exact window.min_le_left pending.deadline

theorem cancel_ok (h : cancel next aps clock = .ok s) :
    next.pending.isSome ∧ s = { next with pending := none } := by
  simp only [cancel, bind_ok, okOr_ok, pure_ok] at h
  obtain ⟨pending, hp, _, _, rfl⟩ := h
  exact ⟨by simp [hp], rfl⟩

omit [KernelHost] in
theorem expire_ok (h : expire next clock = .ok s) :
    ∃ pending, next.pending = some pending ∧ pending.deadline ≤ clock.wallTime ∧ s = { next with pending := none } := by
  simp only [expire, bind_ok, exists_unit, deny_ok, okOr_ok, pure_ok, decide_eq_false_iff_not] at h
  obtain ⟨pending, hp, hw, rfl⟩ := h
  exact ⟨pending, hp, by rw [Timestamp.lt_def] at hw; rw [Timestamp.le_def]; omega, rfl⟩

theorem complete_ok (h : complete next aps clock = .ok s) :
    ∃ pending ch, next.pending = some pending ∧ pending.challenge = some ch ∧
      waitFinished pending clock = .ok () ∧ clock.wallTime < ch.expiresAt ∧
      (∀ approval ∈ aps, ch.issuedAt ≤ approval.issuedAt ∧ approval.expiresAt ≤ ch.expiresAt) ∧
      (∃ evidence, verifyRecoveryQuorum next.binding next.policy pending.request (.complete ch.value) aps
        clock.wallTime = .ok evidence) ∧
      s = { next with
        retiredRootKeys := next.retiredRootKeys ++ [next.binding.rootKey]
        binding := next.binding.withRoot (next.binding.rootGeneration + 1) pending.request.intent.replacementKey
        policy := { next.policy with
          target := next.binding.withRoot (next.binding.rootGeneration + 1) pending.request.intent.replacementKey
          generation := next.policy.generation + 1 }
        pending := none } := by
  simp only [complete, bind_ok, exists_unit, deny_ok, okOr_ok, pure_ok, checkedAdd_some, Bool.or_eq_false_iff,
    decide_eq_false_iff_not, List.any_eq_false, decide_eq_true_eq] at h
  obtain ⟨pending, hp, hw, ch, hc, ⟨ht, ha⟩, evidence, hq, _, ⟨_, rfl⟩, _, ⟨_, rfl⟩, rfl⟩ := h
  refine ⟨pending, ch, hp, hc, hw, ?_, fun approval hm => ?_, ⟨evidence, hq⟩, rfl⟩
  · rw [Timestamp.le_def] at ht; rw [Timestamp.lt_def]; omega
  · have := ha approval hm
    rw [Timestamp.lt_def, Timestamp.lt_def] at this
    rw [Timestamp.le_def, Timestamp.le_def]
    omega

variable {cur : GuardianRecoveryStateV1} {snap : String}

theorem resume_ok {expected : String}
    {sig : RecoverySignatureV1} (h : resume cur next expected sig snap = .ok s) :
    next.pending = none ∧ next.maintenance = true ∧ expected = snap ∧ s = { next with maintenance := false } := by
  simp only [resume, bind_ok, exists_unit, deny_ok, pure_ok, Bool.or_eq_false_iff, Bool.not_eq_false',
    Option.isSome_eq_false_iff, Option.isNone_iff_eq_none, decide_eq_false_iff_not, not_not] at h
  obtain ⟨⟨⟨hp, hm⟩, he⟩, _, _, _, rfl⟩ := h
  exact ⟨hp, hm, he, rfl⟩

theorem propose_ok {proposal : GuardianPolicyProposalV1} (h : propose cur next proposal clock = .ok s) :
    cur.maintenance = false ∧ cur.pending = none ∧ cur.pendingPolicyEdit = none ∧
      proposal.edit.validate cur = .ok () ∧
      s = { next with policyEdits := some { policyEditsOrFresh cur next with
        consumedEditIds := (policyEditsOrFresh cur next).consumedEditIds.insert proposal.edit.editId
        pending := some ⟨proposal.edit, clock⟩ } } := by
  simp only [propose, bind_ok, exists_unit, deny_ok, pure_ok, Bool.or_eq_false_iff, Option.isSome_eq_false_iff,
    Option.isNone_iff_eq_none] at h
  obtain ⟨⟨⟨⟨hm, hp⟩, he⟩, _⟩, hv, _, _, _, _, _, _, _, _, _, rfl⟩ := h
  exact ⟨hm, hp, he, hv, rfl⟩

theorem cancelPolicy_ok {ownerSignature : Option RecoverySignatureV1}
    (h : cancelPolicy cur next ownerSignature aps clock = .ok s) :
    cur.pendingPolicyEdit.isSome ∧ ∃ edits, next.policyEdits = some edits ∧
      s = { next with policyEdits := some { edits with pending := none } } := by
  simp only [cancelPolicy, bind_ok, exists_unit, okOr_ok, pure_ok] at h
  obtain ⟨pending, hp, _, edits, he, rfl⟩ := h
  exact ⟨by simp [hp], edits, he, rfl⟩

theorem activate_ok (h : activate next clock = .ok s) :
    ∃ pending edits, next.pendingPolicyEdit = some pending ∧ delayElapsed pending.waitOrigin clock = .ok () ∧
      next.policyEdits = some edits ∧
      s = { next with
        policyEdits := some { edits with
          retiredGuardianKeys := retireKeys edits.retiredGuardianKeys
            (next.policy.guardians.toList.map (·.signingKey) ++ next.guardianBindings.toList.map (·.rootKey))
          enabled := pending.edit.enabled
          guardianBindings := pending.edit.guardianBindings
          pending := none }
        policy := pending.edit.policy } := by
  simp only [activate, bind_ok, exists_unit, okOr_ok, pure_ok] at h
  obtain ⟨pending, hp, hd, edits, he, rfl⟩ := h
  exact ⟨pending, edits, hp, hd, he, rfl⟩

variable {revision : Nat} {newTenure : Bool} {act : GuardianRecoveryActionV1}

/-- **What an action leaves alone**: it takes the revision it is given, only `complete` touches the root, and only
`initiate` and `resume` touch maintenance. -/
structure ActionFrame (s next : GuardianRecoveryStateV1) (revision : Nat) (act : GuardianRecoveryActionV1) : Prop where
  revision : next.revision = revision
  root : (∃ approvals, act = .complete approvals) ∨
    next.binding = s.binding ∧ next.retiredRootKeys = s.retiredRootKeys
  maintenance : (∃ request approvals, act = .initiate request approvals) ∨
    (∃ expected signature, act = .resume expected signature) ∨ next.maintenance = s.maintenance

theorem applyAction_frame (h : applyAction s { s with revision } clock snap newTenure act = .ok next) :
    ActionFrame s next revision act := by
  have hquiet : ∀ {next : GuardianRecoveryStateV1}, next.revision = revision → next.binding = s.binding →
      next.retiredRootKeys = s.retiredRootKeys → next.maintenance = s.maintenance → ActionFrame s next revision act :=
    fun hrev hbin hretains hmain => ⟨hrev, .inr ⟨hbin, hretains⟩, .inr (.inr hmain)⟩
  cases act with
  | proposePolicy proposal => obtain ⟨_, _, _, _, rfl⟩ := propose_ok h; exact hquiet rfl rfl rfl rfl
  | cancelPolicy ownerSignature aps => obtain ⟨_, _, _, rfl⟩ := cancelPolicy_ok h; exact hquiet rfl rfl rfl rfl
  | activatePolicy => obtain ⟨_, _, _, _, _, rfl⟩ := activate_ok h; exact hquiet rfl rfl rfl rfl
  | enroll enrollment => cases h
  | initiate req aps =>
    obtain ⟨_, _, _, _, _, _, rfl⟩ := initiate_ok h
    exact ⟨rfl, .inr ⟨rfl, rfl⟩, .inl ⟨req, aps, rfl⟩⟩
  | rebaseWait => obtain ⟨_, rfl⟩ := rebaseWait_ok h; exact hquiet rfl rfl rfl rfl
  | issueChallenge ch => obtain ⟨_, _, _, _, _, _, rfl⟩ := issueChallenge_ok h; exact hquiet rfl rfl rfl rfl
  | cancel aps => obtain ⟨_, rfl⟩ := cancel_ok h; exact hquiet rfl rfl rfl rfl
  | expire => obtain ⟨_, _, _, rfl⟩ := expire_ok h; exact hquiet rfl rfl rfl rfl
  | complete aps =>
    obtain ⟨_, _, _, _, _, _, _, _, rfl⟩ := complete_ok h
    exact ⟨rfl, .inl ⟨aps, rfl⟩, .inr (.inr rfl)⟩
  | resume expected sig =>
    obtain ⟨_, _, _, rfl⟩ := resume_ok h
    exact ⟨rfl, .inr ⟨rfl, rfl⟩, .inr (.inl ⟨expected, sig, rfl⟩)⟩

/-! ## The evaluator -/

variable {command : GuardianRecoveryCommandV1}

theorem evaluate_none_ok (h : evaluateGuardianRecovery none command clock snap = .ok s) :
    ∃ enrollment, command.action = .enroll enrollment ∧ enrollment.verify = .ok () ∧
      s = enrolledState enrollment clock := by
  simp only [evaluateGuardianRecovery, bind_ok, exists_unit, deny_ok] at h
  obtain ⟨_, _, h⟩ := h
  split at h
  · rename_i enrollment ha
    simp only [bind_ok, exists_unit, pure_ok] at h
    exact ⟨enrollment, ha, h.1, h.2.symm⟩
  · cases h

/-- **A later command moves the clock forward, names the current state and applies its arm**; only `rebaseWait` enters
a new tenure. -/
theorem evaluate_some_ok (h : evaluateGuardianRecovery (some cur) command clock snap = .ok s) :
    command.expectedState = some cur.digest ∧ cur.clock.wallTime ≤ clock.wallTime ∧
      (clock.writerEpoch = cur.clock.writerEpoch → cur.clock.monotonicMs ≤ clock.monotonicMs) ∧
      (clock.writerEpoch ≠ cur.clock.writerEpoch → command.action = .rebaseWait) ∧
      ∃ next, applyAction cur { cur with revision := cur.revision + 1 } clock snap
          (decide (clock.writerEpoch ≠ cur.clock.writerEpoch)) command.action = .ok next ∧
        s = { next with clock } := by
  simp only [evaluateGuardianRecovery, bind_ok, exists_unit, deny_ok, okOr_ok, pure_ok, checkedAdd_some,
    Option.map_some, decide_eq_false_iff_not, not_not, Bool.or_eq_false_iff, Bool.and_eq_false_imp,
    Bool.not_eq_true', decide_eq_true_eq] at h
  obtain ⟨_, he, ⟨⟨hw, hm⟩, ht⟩, _, ⟨_, rfl⟩, next, hn, rfl⟩ := h
  refine ⟨he, ?_, fun h => ?_, ht, next, hn, rfl⟩
  · rw [Timestamp.lt_def] at hw; rw [Timestamp.le_def]; omega
  · have := hm h
    omega

/-! ## Runs -/

/-- One attempt: a command with the clock sample and the snapshot the writer supplies. -/
structure Attempt where
  command : GuardianRecoveryCommandV1
  clock : RecoveryClockV1
  authoritySnapshot : String

/-- **The machine of guardian recovery**: each accepted output state is the input of the next command. -/
def recoveryStep (current : Option GuardianRecoveryStateV1) (attempt : Attempt) :
    Except RecoveryError (Option GuardianRecoveryStateV1) :=
  some <$> evaluateGuardianRecovery current attempt.command attempt.clock attempt.authoritySnapshot

theorem recoveryStep_ok {cur next : Option GuardianRecoveryStateV1} {att : Attempt}
    (h : recoveryStep cur att = .ok next) :
    ∃ s, next = some s ∧
      evaluateGuardianRecovery cur att.command att.clock att.authoritySnapshot = .ok s := by
  unfold recoveryStep at h
  cases he : evaluateGuardianRecovery cur att.command att.clock att.authoritySnapshot with
  | error e => rw [he] at h; cases h
  | ok s => rw [he] at h; cases h; exact ⟨s, rfl, rfl⟩

abbrev Step := Taken (Option GuardianRecoveryStateV1) Attempt

/-- The accepted histories of a Mother that starts without guardian recovery. -/
abbrev RecoveryRun := Trace recoveryStep (none : Option GuardianRecoveryStateV1)

end Recovery
end Mct
