import PatinaMct.RecoveryConsistent
/-!
# RecoveryReplacement — how a root key can change

The root replacement law: in every run a root key changes only in a `complete`, and that step closes one recovery that
two guardians opened, that waited the full delay on both clocks under one writer, and that two guardians confirmed
over a challenge issued after the wait.  The state alone does not remember its past, so the proof carries a history
invariant (`PendingHistory`): the pending record names the steps it comes from.
-/
namespace Mct
namespace Recovery

/-! ## Steps of a history -/

def action (x : Step) : GuardianRecoveryActionV1 := x.input.command.action

def clock (x : Step) : RecoveryClockV1 := x.input.clock

def opensOrCloses : GuardianRecoveryActionV1 → Bool
  | .initiate _ _ | .cancel _ | .expire | .complete _ => true
  | _ => false

def startsWait : GuardianRecoveryActionV1 → Bool
  | .initiate _ _ | .rebaseWait => true
  | _ => false

def issuesChallenge : GuardianRecoveryActionV1 → Bool
  | .issueChallenge _ => true
  | _ => false

/-- **`x` happened under the writer of `w`, at least 24 hours later on both clocks.** -/
def Waited (w x : Step) : Prop :=
  (clock x).writerEpoch = (clock w).writerEpoch ∧ (clock w).monotonicMs + delayMs ≤ (clock x).monotonicMs ∧
    (clock w).wallTime.epochNanoseconds + delayMs * 1000000 ≤ (clock x).wallTime.epochNanoseconds

/-- **A challenge was issued after `w`**, in `rest`, once the wait was over, for the first time in the run and as the
last challenge of `rest`; its window starts at the issuing clock and lasts ten minutes at most. -/
def IssuedAfter (before : List Step) (w : Step) (rest : List Step) (challenge : RecoveryChallengeV1) : Prop :=
  ∃ l x r, rest = l ++ x :: r ∧ action x = .issueChallenge challenge.value ∧ Waited w x ∧
    (∀ y ∈ r, issuesChallenge (action y) = false) ∧
    (∀ y ∈ before ++ w :: l, action y ≠ .issueChallenge challenge.value) ∧
    challenge.issuedAt = (clock x).wallTime ∧
    challenge.expiresAt.epochNanoseconds ≤ (clock x).wallTime.epochNanoseconds + approvalMaxMs * 1000000

theorem IssuedAfter.extend {before rest : List Step} {c : RecoveryChallengeV1} {w x : Step}
    (hi : IssuedAfter before w rest c) (hx : issuesChallenge (action x) = false) :
    IssuedAfter before w (rest ++ [x]) c := by
  obtain ⟨l, y, r, rfl, ha, hw, hr, hl, ht⟩ := hi
  exact ⟨l, y, r ++ [x], by simp, ha, hw, List.forall_mem_append.mpr ⟨hr, List.forall_mem_singleton.mpr hx⟩, hl, ht⟩

structure PendingHistory (h : List Step) (p : PendingGuardianRecoveryV1) : Prop where
  initiated : ∃ l i m approvals, h = l ++ i :: m ∧ action i = .initiate p.request approvals ∧
    ∀ x ∈ m, opensOrCloses (action x) = false
  waited : ∃ l w m, h = l ++ w :: m ∧ startsWait (action w) = true ∧ (∀ x ∈ m, startsWait (action x) = false) ∧
    clock w = p.waitOrigin ∧ ∀ c, p.challenge = some c → IssuedAfter l w m c

namespace PendingHistory

variable {h : List Step} {x : Step} {p : PendingGuardianRecoveryV1}

theorem initiated_extend {req : RecoveryRequestV1}
    (hi : ∃ l i m approvals, h = l ++ i :: m ∧ action i = .initiate req approvals ∧
      ∀ y ∈ m, opensOrCloses (action y) = false) (hx : opensOrCloses (action x) = false) :
    ∃ l i m approvals, h ++ [x] = l ++ i :: m ∧ action i = .initiate req approvals ∧
      ∀ y ∈ m, opensOrCloses (action y) = false := by
  obtain ⟨l, i, m, approvals, rfl, ha, hm⟩ := hi
  exact ⟨l, i, m ++ [x], approvals, by simp, ha,
    List.forall_mem_append.mpr ⟨hm, List.forall_mem_singleton.mpr hx⟩⟩

theorem extend (hp : PendingHistory h p) (ho : opensOrCloses (action x) = false)
    (hw : startsWait (action x) = false) (hc : issuesChallenge (action x) = false) : PendingHistory (h ++ [x]) p := by
  refine ⟨initiated_extend hp.initiated ho, ?_⟩
  obtain ⟨l, w, m, rfl, hs, hm, hclock, hissued⟩ := hp.waited
  exact ⟨l, w, m ++ [x], by simp, hs, List.forall_mem_append.mpr ⟨hm, List.forall_mem_singleton.mpr hw⟩, hclock,
    fun c hch => (hissued c hch).extend hc⟩

theorem of_initiate {req : RecoveryRequestV1} {approvals : List GuardianRecoveryApprovalV1}
    (ha : action x = .initiate req approvals) (deadline : Timestamp) :
    PendingHistory (h ++ [x]) ⟨req, clock x, deadline, none⟩ :=
  ⟨⟨h, x, [], approvals, rfl, ha, by simp⟩, h, x, [], rfl, by rw [ha]; rfl, by simp, rfl, by simp⟩

theorem of_rebaseWait (hp : PendingHistory h p) (ha : action x = .rebaseWait) :
    PendingHistory (h ++ [x]) { p with waitOrigin := clock x, challenge := none } :=
  ⟨initiated_extend hp.initiated (by rw [ha]; rfl), h, x, [], rfl, by rw [ha]; rfl, by simp, rfl, by simp⟩

theorem of_issueChallenge [KernelHost] {challenge : String} {exp : Timestamp} (hp : PendingHistory h p)
    (ha : action x = .issueChallenge challenge) (hwait : delayElapsed p.waitOrigin (clock x) = .ok ())
    (hfresh : ∀ y ∈ h, action y ≠ .issueChallenge challenge)
    (hexp : exp.epochNanoseconds ≤ (clock x).wallTime.epochNanoseconds + approvalMaxMs * 1000000) :
    PendingHistory (h ++ [x]) { p with challenge := some ⟨challenge, (clock x).wallTime, exp⟩ } := by
  refine ⟨initiated_extend hp.initiated (by rw [ha]; rfl), ?_⟩
  obtain ⟨l, w, m, rfl, hs, hm, hclock, _⟩ := hp.waited
  refine ⟨l, w, m ++ [x], by simp, hs, ?_, hclock, ?_⟩
  · exact List.forall_mem_append.mpr ⟨hm, List.forall_mem_singleton.mpr (by rw [ha]; rfl)⟩
  · rintro _ ⟨⟩
    rw [← hclock] at hwait
    exact ⟨m, x, [], rfl, ha, delayElapsed_ok hwait, by simp, hfresh, rfl, hexp⟩

end PendingHistory

/-! ## The history invariant -/

/-- **What the state remembers of its history**: where a pending recovery comes from, and every challenge issued. -/
structure Remembers (h : List Step) (s : GuardianRecoveryStateV1) : Prop where
  pending : ∀ p, s.pending = some p → PendingHistory h p
  challenges : ∀ x ∈ h, ∀ v, action x = .issueChallenge v → v ∈ s.consumedChallenges

namespace Remembers

variable {h : List Step} {s s' : GuardianRecoveryStateV1} {x : Step}

theorem extend (r : Remembers h s) (hp : s'.pending = s.pending) (hc : s'.consumedChallenges = s.consumedChallenges)
    (ho : opensOrCloses (action x) = false) (hw : startsWait (action x) = false)
    (hi : issuesChallenge (action x) = false) : Remembers (h ++ [x]) s' := by
  refine ⟨fun p h => (r.pending p (hp ▸ h)).extend ho hw hi, ?_⟩
  rw [hc]
  refine List.forall_mem_append.mpr ⟨r.challenges, List.forall_mem_singleton.mpr fun v hv => ?_⟩
  rw [hv] at hi
  cases hi

theorem close (r : Remembers h s) (hp : s'.pending = none) (hc : s'.consumedChallenges = s.consumedChallenges)
    (hi : issuesChallenge (action x) = false) : Remembers (h ++ [x]) s' := by
  refine ⟨fun p h => absurd (hp.symm.trans h) (by simp), ?_⟩
  rw [hc]
  refine List.forall_mem_append.mpr ⟨r.challenges, List.forall_mem_singleton.mpr fun v hv => ?_⟩
  rw [hv] at hi
  cases hi

theorem of_applyAction [KernelHost] {revision : Nat} {snap : String} {newTenure : Bool} (r : Remembers h s)
    (hstep : applyAction s { s with revision } (clock x) snap newTenure (action x) = .ok s') :
    Remembers (h ++ [x]) s' := by
  cases ha : action x with
  | proposePolicy proposal =>
    rw [ha] at hstep
    obtain ⟨_, _, _, _, rfl⟩ := propose_ok hstep
    exact r.extend rfl rfl (by rw [ha]; rfl) (by rw [ha]; rfl) (by rw [ha]; rfl)
  | cancelPolicy ownerSignature approvals =>
    rw [ha] at hstep
    obtain ⟨_, _, _, rfl⟩ := cancelPolicy_ok hstep
    exact r.extend rfl rfl (by rw [ha]; rfl) (by rw [ha]; rfl) (by rw [ha]; rfl)
  | activatePolicy =>
    rw [ha] at hstep
    obtain ⟨_, _, _, _, _, rfl⟩ := activate_ok hstep
    exact r.extend rfl rfl (by rw [ha]; rfl) (by rw [ha]; rfl) (by rw [ha]; rfl)
  | enroll enrollment => rw [ha] at hstep; cases hstep
  | initiate req approvals =>
    rw [ha] at hstep
    obtain ⟨_, _, _, _, _, deadline, rfl⟩ := initiate_ok hstep
    refine ⟨?_, (r.close rfl rfl (by rw [ha]; rfl) : Remembers (h ++ [x]) { s with pending := none }).challenges⟩
    rintro p ⟨⟩
    exact .of_initiate ha deadline
  | rebaseWait =>
    rw [ha] at hstep
    obtain ⟨_, rfl⟩ := rebaseWait_ok hstep
    refine ⟨?_, (r.close rfl rfl (by rw [ha]; rfl) : Remembers (h ++ [x]) { s with pending := none }).challenges⟩
    intro p hp
    obtain ⟨old, hold, rfl⟩ := Option.map_eq_some_iff.mp hp
    exact (r.pending old hold).of_rebaseWait ha
  | issueChallenge challenge =>
    rw [ha] at hstep
    obtain ⟨old, expiresAt, hold, hwait, hfresh, hexp, rfl⟩ := issueChallenge_ok hstep
    refine ⟨?_, List.forall_mem_append.mpr ⟨fun y hy v hv => ?_, List.forall_mem_singleton.mpr fun v hv => ?_⟩⟩
    · rintro p ⟨⟩
      exact (r.pending old hold).of_issueChallenge ha (waitFinished_ok hwait).1
        (fun y hy hv => hfresh (r.challenges y hy challenge hv)) hexp
    · exact Std.ExtTreeSet.mem_insert.mpr (.inr (r.challenges y hy v hv))
    · rw [ha] at hv
      cases hv
      exact Std.ExtTreeSet.mem_insert_self
  | cancel approvals =>
    rw [ha] at hstep
    obtain ⟨_, rfl⟩ := cancel_ok hstep
    exact r.close rfl rfl (by rw [ha]; rfl)
  | expire =>
    rw [ha] at hstep
    obtain ⟨_, _, _, rfl⟩ := expire_ok hstep
    exact r.close rfl rfl (by rw [ha]; rfl)
  | complete approvals =>
    rw [ha] at hstep
    obtain ⟨_, _, _, _, _, _, _, _, rfl⟩ := complete_ok hstep
    exact r.close rfl rfl (by rw [ha]; rfl)
  | resume expected sig =>
    rw [ha] at hstep
    obtain ⟨_, _, _, rfl⟩ := resume_ok hstep
    exact r.extend rfl rfl (by rw [ha]; rfl) (by rw [ha]; rfl) (by rw [ha]; rfl)

end Remembers

section

variable [KernelHost]

theorem remembers_of_run {h : List Step} {o : Option GuardianRecoveryStateV1} (run : RecoveryRun h o) :
    (o = none → h = []) ∧ ∀ s, o = some s → Remembers h s := by
  refine run.history (fun h o => (o = none → h = []) ∧ ∀ s, o = some s → Remembers h s) (by simp) ?_
  intro h o att o' _ ih hstep
  obtain ⟨s', rfl, heval⟩ := recoveryStep_ok hstep
  refine ⟨by simp, ?_⟩
  rintro _ ⟨⟩
  cases o with
  | none =>
    obtain ⟨enrollment, ha, _, rfl⟩ := evaluate_none_ok heval
    rw [ih.1 rfl]
    refine ⟨?_, List.forall_mem_singleton.mpr fun v hv => ?_⟩
    · rintro p ⟨⟩
    · exact absurd (ha.symm.trans hv) (by simp)
  | some cur =>
    obtain ⟨_, _, _, _, next, hnext, rfl⟩ := evaluate_some_ok heval
    have r : Remembers (h ++ [⟨some cur, att, some { next with clock := att.clock }⟩]) next :=
      (ih.2 cur rfl).of_applyAction hnext
    exact ⟨r.pending, r.challenges⟩

/-! ## The law -/

/-- **The root and the retired roots are as they were.** -/
structure RootKept (s s' : GuardianRecoveryStateV1) : Prop where
  binding : s'.binding = s.binding
  retired : s'.retiredRootKeys = s.retiredRootKeys

theorem root_of_applyAction {s next : GuardianRecoveryStateV1} {revision : Nat} {now : RecoveryClockV1}
    {snap : String} {newTenure : Bool} {act : GuardianRecoveryActionV1}
    (h : applyAction s { s with revision } now snap newTenure act = .ok next) :
    (∃ aps, act = .complete aps) ∨ RootKept s next :=
  (applyAction_frame h).root.imp_right fun hkept => ⟨hkept.1, hkept.2⟩

theorem initiate_approved {pre post : Option GuardianRecoveryStateV1} {attempt : Attempt}
    {req : RecoveryRequestV1} {approvals : List GuardianRecoveryApprovalV1}
    (h : recoveryStep pre attempt = .ok post) (ha : attempt.command.action = .initiate req approvals) :
    ∃ s, pre = some s ∧ s.recoveryEnabled = true ∧ QuorumApproved s.policy req.intent .initiate approvals := by
  obtain ⟨s', _, heval⟩ := recoveryStep_ok h
  cases pre with
  | none =>
    obtain ⟨_, he, _⟩ := evaluate_none_ok heval
    exact absurd (he.symm.trans ha) (by simp)
  | some s =>
    obtain ⟨_, _, _, _, next, hnext, _⟩ := evaluate_some_ok heval
    rw [ha] at hnext
    obtain ⟨hen, _, _, _, ⟨_, hq⟩, _⟩ := initiate_ok hnext
    exact ⟨s, rfl, hen, (verifyRecoveryQuorum_ok hq).2.2⟩

/-- **The root replacement law.**  In every run, a step that changes the root key is a `complete` of the pending
request, and
- an earlier `initiate` of exactly that request opened the recovery, with no `initiate`, `cancel`, `expire` or
  `complete` in between;
- at both ends at least two distinct guardians of the roster then in force signed that policy, intent and purpose;
- the last `initiate` or `rebaseWait` before it has the same writer epoch and lies at least the delay of 24 hours
  behind on both clocks;
- the challenge the final approvals sign was issued after that step and after the wait, by the last `issueChallenge`
  before the `complete` and by no earlier one of the run, and it was still open, as were the approvals inside it. -/
theorem root_replacement_law {h l r : List Step} {t : Step} {o : Option GuardianRecoveryStateV1}
    {s s' : GuardianRecoveryStateV1} (run : RecoveryRun h o) (ht : h = l ++ t :: r) (hpre : t.pre = some s)
    (hpost : t.post = some s') (hroot : s'.binding.rootKey ≠ s.binding.rootKey) :
    ∃ approvals pending challenge, action t = .complete approvals ∧ s.pending = some pending ∧
      pending.challenge = some challenge ∧ s'.binding.rootKey = pending.request.intent.replacementKey ∧
      (∃ l₁ i m sᵢ approvalsᵢ, l = l₁ ++ i :: m ∧ action i = .initiate pending.request approvalsᵢ ∧
        (∀ x ∈ m, opensOrCloses (action x) = false) ∧ i.pre = some sᵢ ∧ sᵢ.recoveryEnabled = true ∧
        QuorumApproved sᵢ.policy pending.request.intent .initiate approvalsᵢ) ∧
      s.recoveryEnabled = true ∧
      QuorumApproved s.policy pending.request.intent (.complete challenge.value) approvals ∧
      ∃ l₂ w m, l = l₂ ++ w :: m ∧ startsWait (action w) = true ∧ (∀ x ∈ m, startsWait (action x) = false) ∧
        Waited w t ∧ IssuedAfter l₂ w m challenge ∧ (clock t).wallTime < challenge.expiresAt ∧
        ∀ approval ∈ approvals, challenge.issuedAt ≤ approval.issuedAt ∧ approval.expiresAt ≤ challenge.expiresAt := by
  obtain ⟨runₗ, hstep⟩ := run.split ht
  rw [hpre] at runₗ hstep
  obtain ⟨_, hs', heval⟩ := recoveryStep_ok hstep
  rw [hpost] at hs'
  cases hs'
  obtain ⟨_, _, _, _, next, hnext, rfl⟩ := evaluate_some_ok heval
  obtain ⟨approvals, ha⟩ := (root_of_applyAction hnext).resolve_right fun hkept =>
    hroot (congrArg (·.rootKey) hkept.binding)
  rw [ha] at hnext
  obtain ⟨pending, challenge, hp, hc, hwait, hopen, hin, ⟨_, hq⟩, rfl⟩ := complete_ok hnext
  have hp : s.pending = some pending := hp
  have hist := ((remembers_of_run runₗ).2 s rfl).pending pending hp
  obtain ⟨l₁, i, m, approvalsᵢ, hl, hai, hm⟩ := hist.initiated
  obtain ⟨l₂, w, m₂, hl₂, hw, hm₂, hclock, hissued⟩ := hist.waited
  have hwaited := (waitFinished_ok hwait).1
  obtain ⟨sᵢ, hsᵢ, henᵢ, hqᵢ⟩ := initiate_approved (runₗ.split hl).2 hai
  have hen : s.recoveryEnabled = true := by
    by_contra hd
    have := (consistent_of_run runₗ s rfl).disabled (by simpa using hd)
    exact absurd (hp.symm.trans this.1) (by simp)
  rw [← hclock] at hwaited
  exact ⟨approvals, pending, challenge, ha, hp, hc, rfl, ⟨l₁, i, m, sᵢ, approvalsᵢ, hl, hai, hm, hsᵢ, henᵢ, hqᵢ⟩, hen,
    (verifyRecoveryQuorum_ok hq).2.2, l₂, w, m₂, hl₂, hw, hm₂, delayElapsed_ok hwaited, hissued challenge hc, hopen, hin⟩

end

/-! ## A concrete replacement -/

namespace Sample

def challenged : Step := taken initiated.post 86500 (.issueChallenge "challenge")

def completed : Step := taken challenged.post 86510 (.complete (approvals 86505))

theorem completed_run : @RecoveryRun host ([enrolled, initiated, challenged] ++ [completed]) completed.post := by
  refine Trace.extend ?_ (taken_accepted (by decide +kernel))
  rw [completed, taken_pre]
  show @RecoveryRun host ([enrolled, initiated] ++ [challenged]) challenged.post
  refine Trace.extend ?_ (taken_accepted (by decide +kernel))
  rw [challenged, taken_pre]
  exact initiated_run

theorem root_replacement_law_applies :
    (stateAfter completed).binding.rootKey = key 20 ∧
    ∃ approvals pending challenge, action completed = .complete approvals ∧
      (stateAfter challenged).pending = some pending ∧ pending.challenge = some challenge ∧
      (∃ l₁ i m sᵢ approvalsᵢ, [enrolled, initiated, challenged] = l₁ ++ i :: m ∧
        action i = .initiate pending.request approvalsᵢ ∧ (∀ x ∈ m, opensOrCloses (action x) = false) ∧
        i.pre = some sᵢ ∧ @QuorumApproved host sᵢ.policy pending.request.intent .initiate approvalsᵢ) ∧
      @QuorumApproved host (stateAfter challenged).policy pending.request.intent (.complete challenge.value)
        approvals := by
  obtain ⟨approvals, pending, challenge, ha, hp, hc, _, ⟨l₁, i, m, sᵢ, approvalsᵢ, hl, hai, hm, hsᵢ, _, hqᵢ⟩, _, hq, _⟩ :=
    @root_replacement_law host _ _ [] completed _ (stateAfter challenged) (stateAfter completed) completed_run rfl
      (by decide +kernel) (by decide +kernel) (by decide +kernel)
  exact ⟨by decide +kernel, approvals, pending, challenge, ha, hp, hc,
    ⟨l₁, i, m, sᵢ, approvalsᵢ, hl, hai, hm, hsᵢ, hqᵢ⟩, hq⟩

end Sample

end Recovery
end Mct
