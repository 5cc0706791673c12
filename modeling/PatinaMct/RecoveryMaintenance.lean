import PatinaMct.RecoveryRetired
/-!
# RecoveryMaintenance — how maintenance begins and ends

Maintenance begins in an `initiate` and ends in a `resume` that the root in force signed over the digest of the state and
the authority snapshot; nothing else touches it.  No state is a dead end: the holder of the root can always settle it
with two commands more (`CanSettle`), as long as the counter of revisions has room for two.
-/
namespace Mct
namespace Recovery

open Checked

section

variable [KernelHost]

/-! ## The two commands that touch maintenance -/

/-- **A resume as it was signed**: with no recovery pending, by the root in force, over this state and the snapshot the
writer passed. -/
structure Resumed (s : GuardianRecoveryStateV1) (snapshot : String) (act : GuardianRecoveryActionV1) : Prop where
  pending : s.pending = none
  signed : ∃ signature, act = .resume snapshot signature ∧ verifySignature s.binding.rootKey
    (transcript "mct-guardian-recovery-resume/v1" (.resume s.digest snapshot)) signature = .ok ()

variable {next s : GuardianRecoveryStateV1} {snapshot : String}

theorem resume_signed {cur : GuardianRecoveryStateV1} {expected : String}
    {sig : RecoverySignatureV1} (h : resume cur next expected sig snapshot = .ok s) :
    verifySignature cur.binding.rootKey
      (transcript "mct-guardian-recovery-resume/v1" (.resume cur.digest expected)) sig = .ok () := by
  simp only [resume, GuardianRecoveryStateV1.resumeSigningMessage, bind_ok, exists_unit, deny_ok, pure_ok] at h
  obtain ⟨_, _, ⟨_, rfl⟩, hsigned, _⟩ := h
  exact hsigned

variable {revision : Nat} {now : RecoveryClockV1} {newTenure : Bool} {act : GuardianRecoveryActionV1}

/-- **Only `initiate` and `resume` touch maintenance.** -/
theorem maintenance_of_applyAction (h : applyAction s { s with revision } now snapshot newTenure act = .ok next) :
    next.maintenance = s.maintenance ∨
      (∃ req aps, act = .initiate req aps) ∧ next.maintenance = true ∨
      Resumed s snapshot act ∧ next.maintenance = false := by
  obtain ⟨req, aps, rfl⟩ | ⟨expected, sig, rfl⟩ | hsame := (applyAction_frame h).maintenance
  · obtain ⟨_, _, _, _, _, _, rfl⟩ := initiate_ok h
    exact .inr (.inl ⟨⟨req, aps, rfl⟩, rfl⟩)
  · have hsigned := resume_signed h
    obtain ⟨hpend, _, rfl, rfl⟩ := resume_ok h
    exact .inr (.inr ⟨⟨hpend, sig, rfl, hsigned⟩, rfl⟩)
  · exact .inl hsame

/-- **What a step may do to maintenance**: it begins in an `initiate` and ends in a signed `resume`. -/
structure MaintenanceStep (t : Step) : Prop where
  begins : ∀ s', t.post = some s' → s'.maintenance = true → (∀ s, t.pre = some s → s.maintenance = false) →
    ∃ request approvals, action t = .initiate request approvals
  ends : ∀ s s', t.pre = some s → t.post = some s' → s.maintenance = true → s'.maintenance = false →
    Resumed s t.input.authoritySnapshot (action t)

theorem maintenanceStep_of_step {t : Step} (h : recoveryStep t.pre t.input = .ok t.post) : MaintenanceStep t := by
  obtain ⟨s', hs', heval⟩ := recoveryStep_ok h
  cases hpre : t.pre with
  | none =>
    rw [hpre] at heval
    obtain ⟨enrollment, _, _, rfl⟩ := evaluate_none_ok heval
    constructor
    · intro q hq hmaint _
      cases hs'.symm.trans hq
      cases hmaint
    · intro s q hs
      cases hpre.symm.trans hs
  | some s =>
    rw [hpre] at heval
    obtain ⟨_, _, _, _, next, hnext, rfl⟩ := evaluate_some_ok heval
    have hcases := maintenance_of_applyAction hnext
    constructor
    · intro q hq hbegun hbefore
      cases hs'.symm.trans hq
      have hbegun : next.maintenance = true := hbegun
      have hquiet : s.maintenance = false := hbefore s hpre
      rcases hcases with hsame | ⟨hact, _⟩ | ⟨_, hended⟩
      · cases hbegun.symm.trans (hsame.trans hquiet)
      · exact hact
      · cases hbegun.symm.trans hended
    · intro p q hp hq hbefore hended
      cases hpre.symm.trans hp
      cases hs'.symm.trans hq
      have hended : next.maintenance = false := hended
      rcases hcases with hsame | ⟨_, hbegun⟩ | ⟨hres, _⟩
      · cases hended.symm.trans (hsame.trans hbefore)
      · cases hended.symm.trans hbegun
      · exact hres

/-! ## Commands that will be accepted -/

/-- **A command is accepted when its arm is**: it names the state, and the clock moves on. -/
theorem step_accepted (hepoch : validateId now.writerEpoch = .ok ()) (hwall : s.clock.wallTime ≤ now.wallTime)
    (htenure : now.writerEpoch = s.clock.writerEpoch ∧ s.clock.monotonicMs ≤ now.monotonicMs ∨
      now.writerEpoch ≠ s.clock.writerEpoch ∧ act = .rebaseWait)
    (hrev : s.revision + 1 < 2 ^ 64)
    (h : applyAction s { s with revision := s.revision + 1 } now snapshot
      (decide (now.writerEpoch ≠ s.clock.writerEpoch)) act = .ok next) :
    recoveryStep (some s) ⟨⟨some s.digest, act⟩, now, snapshot⟩ = .ok (some { next with clock := now }) := by
  have heval : evaluateGuardianRecovery (some s) ⟨some s.digest, act⟩ now snapshot = .ok { next with clock := now } := by
    simp only [evaluateGuardianRecovery, bind_ok, exists_unit, deny_ok, okOr_ok, pure_ok, checkedAdd_some,
      Option.map_some, decide_eq_false_iff_not, not_not, Bool.or_eq_false_iff, Bool.and_eq_false_imp,
      Bool.not_eq_true', decide_eq_true_eq]
    refine ⟨hepoch, trivial, ⟨⟨Timestamp.not_lt.2 hwall, fun hsame => ?_⟩, fun hnew => ?_⟩, _, ⟨hrev, rfl⟩, next, h, rfl⟩
    · rcases htenure with ⟨_, hmon⟩ | ⟨hne, _⟩
      · exact Nat.not_lt.2 hmon
      · exact absurd hsame hne
    · rcases htenure with ⟨heq, _⟩ | ⟨_, hact⟩
      · exact absurd heq hnew
      · exact hact
  rw [recoveryStep, heval]
  rfl

theorem epoch_of_run {h : List Step} {o : Option GuardianRecoveryStateV1} (run : RecoveryRun h o) :
    ∀ s, o = some s → validateId s.clock.writerEpoch = .ok () := by
  refine run.invariant (fun o => ∀ s, o = some s → validateId s.clock.writerEpoch = .ok ()) (by simp) ?_
  rintro o att o' - hstep s' rfl
  obtain ⟨s, hs, heval⟩ := recoveryStep_ok hstep
  cases hs
  have hepoch : validateId att.clock.writerEpoch = .ok () := by
    unfold evaluateGuardianRecovery at heval
    simp only [bind_ok, exists_unit] at heval
    exact heval.1
  cases o with
  | none =>
    obtain ⟨enrollment, _, _, rfl⟩ := evaluate_none_ok heval
    exact hepoch
  | some s =>
    obtain ⟨_, _, _, _, next, _, rfl⟩ := evaluate_some_ok heval
    exact hepoch

/-! ## No dead ends -/

structure Settled (s : GuardianRecoveryStateV1) : Prop where
  pending : s.pending = none
  edit : s.pendingPolicyEdit = none
  maintenance : s.maintenance = false

def settles : GuardianRecoveryActionV1 → Bool
  | .rebaseWait | .expire | .activatePolicy | .resume _ _ => true
  | _ => false

/-- A command of that kind with the writer's snapshot and a reading of the monotonic clock that a `u64` holds. -/
structure Settling (snapshot : String) (attempt : Attempt) : Prop where
  command : settles attempt.command.action = true
  snapshot : attempt.authoritySnapshot = snapshot
  monotonic : attempt.clock.monotonicMs < 2 ^ 64

/-- **The state can be settled** by at most `n` such commands, all accepted. -/
def CanSettle (s : GuardianRecoveryStateV1) (snapshot : String) (n : Nat) : Prop :=
  ∃ h s', Trace recoveryStep (some s) h (some s') ∧ h.length ≤ n ∧ (∀ x ∈ h, Settling snapshot x.input) ∧ Settled s'

variable {n : Nat}

theorem canSettle_now (h : Settled s) : CanSettle s snapshot n :=
  ⟨[], s, .nil, Nat.zero_le n, by simp, h⟩

variable {s₁ : GuardianRecoveryStateV1}

theorem canSettle_one {a : Attempt}
    (ha : recoveryStep (some s) a = .ok (some s₁)) (hset : Settling snapshot a) (h : Settled s₁) :
    CanSettle s snapshot (n + 1) :=
  ⟨[⟨_, a, _⟩], s₁, Trace.snoc .nil ha, by simp, List.forall_mem_singleton.2 hset, h⟩

theorem canSettle_two {s₂ : GuardianRecoveryStateV1} {a b : Attempt}
    (ha : recoveryStep (some s) a = .ok (some s₁)) (hb : recoveryStep (some s₁) b = .ok (some s₂))
    (hset : Settling snapshot a) (hset' : Settling snapshot b) (h : Settled s₂) :
    CanSettle s snapshot (n + 2) :=
  ⟨[⟨_, a, _⟩, ⟨_, b, _⟩], s₂, Trace.snoc (Trace.snoc .nil ha) hb, by simp,
    List.forall_mem_cons.2 ⟨hset, List.forall_mem_singleton.2 hset'⟩, h⟩

/-- A text of 64 lower-case hex digits, as every authority snapshot is. -/
def SnapshotShaped (snapshot : String) : Prop :=
  snapshot.utf8ByteSize = 64 ∧ snapshot.toList.all isLowerHex = true

/-- **The holder of the root can sign**: for every message some signature of the root key verifies. -/
def RootSigns (s : GuardianRecoveryStateV1) : Prop :=
  ∀ message, ∃ signature : RecoverySignatureV1,
    KernelHost.verifyAdminHybridSignature s.binding.rootKey.ed25519 s.binding.rootKey.mlDsa65 message signature.text = .ok ()

theorem Consistent.validRoot (c : Consistent s) : validateKey s.binding.rootKey = .ok () := by
  have hpol := (validateBindings_ok.1 c.bindings).1
  simp only [validatePolicy, validateBinding, bind_ok, exists_unit] at hpol
  rw [c.target]
  exact hpol.1.2.2

theorem resume_accepted (hkey : validateKey s.binding.rootKey = .ok ())
    (hsigns : RootSigns s) (hshape : SnapshotShaped snapshot) (hepoch : validateId s.clock.writerEpoch = .ok ())
    (hrev : s.revision + 1 < 2 ^ 64) (hpend : s.pending = none) (hmaint : s.maintenance = true) :
    ∃ sig, recoveryStep (some s) ⟨⟨some s.digest, .resume snapshot sig⟩, s.clock, snapshot⟩ =
      .ok (some { s with revision := s.revision + 1, maintenance := false }) := by
  obtain ⟨sig, hver⟩ := hsigns (transcript "mct-guardian-recovery-resume/v1" (.resume s.digest snapshot))
  have hsigned : verifySignature s.binding.rootKey
      (transcript "mct-guardian-recovery-resume/v1" (.resume s.digest snapshot)) sig = .ok () := by
    simp only [verifySignature, hkey, hver, ok_bind]
  have harm : applyAction s { s with revision := s.revision + 1 } s.clock snapshot
      (decide (s.clock.writerEpoch ≠ s.clock.writerEpoch)) (.resume snapshot sig) =
        .ok { s with revision := s.revision + 1, maintenance := false } := by
    simp only [applyAction, resume, GuardianRecoveryStateV1.resumeSigningMessage, bind_ok, exists_unit, deny_ok, pure_ok]
    refine ⟨?_, _, ⟨?_, rfl⟩, hsigned, trivial⟩
    · simp [hpend, hmaint]
    · simp [hshape.1, hshape.2]
  exact ⟨sig, step_accepted hepoch (Timestamp.le_def.2 le_rfl) (.inl ⟨rfl, le_rfl⟩) hrev harm⟩

variable {p : PendingGuardianRecoveryV1}

theorem expire_accepted (hepoch : validateId now.writerEpoch = .ok ()) (hrev : s.revision + 1 < 2 ^ 64)
    (hp : s.pending = some p) (hdead : p.deadline ≤ now.wallTime) (hwall : s.clock.wallTime ≤ now.wallTime)
    (hsame : now.writerEpoch = s.clock.writerEpoch) (hmon : s.clock.monotonicMs ≤ now.monotonicMs) :
    recoveryStep (some s) ⟨⟨some s.digest, .expire⟩, now, snapshot⟩ =
      .ok (some { s with revision := s.revision + 1, pending := none, clock := now }) := by
  have harm : applyAction s { s with revision := s.revision + 1 } now snapshot
      (decide (now.writerEpoch ≠ s.clock.writerEpoch)) .expire =
        .ok { s with revision := s.revision + 1, pending := none } := by
    simp only [applyAction, expire, bind_ok, exists_unit, deny_ok, okOr_ok, pure_ok, decide_eq_false_iff_not]
    exact ⟨p, hp, Timestamp.not_lt.2 hdead, trivial⟩
  exact step_accepted hepoch hwall (.inl ⟨hsame, hmon⟩) hrev harm

theorem rebase_accepted (hepoch : validateId now.writerEpoch = .ok ()) (hnew : now.writerEpoch ≠ s.clock.writerEpoch)
    (hwall : s.clock.wallTime ≤ now.wallTime) (hrev : s.revision + 1 < 2 ^ 64) :
    ∃ s₁, recoveryStep (some s) ⟨⟨some s.digest, .rebaseWait⟩, now, snapshot⟩ = .ok (some s₁) ∧
      s₁.clock = now ∧ s₁.revision = s.revision + 1 ∧ s₁.maintenance = s.maintenance ∧ s₁.binding = s.binding ∧
      s₁.policy = s.policy ∧ s₁.pending.isSome = s.pending.isSome ∧
      s₁.pendingPolicyEdit = s.pendingPolicyEdit.map fun p => { p with waitOrigin := now } := by
  have harm : applyAction s { s with revision := s.revision + 1 } now snapshot
      (decide (now.writerEpoch ≠ s.clock.writerEpoch)) .rebaseWait =
        .ok (rebased { s with revision := s.revision + 1 } now) := by
    rw [decide_eq_true hnew]
    rfl
  exact ⟨_, step_accepted hepoch hwall (.inr ⟨hnew, rfl⟩) hrev harm, rfl, rfl, rfl, rfl, rfl, Option.isSome_map,
    rebased_pendingPolicyEdit⟩

/-- **A pending edit is activated once the wait is over.** -/
theorem activate_accepted {p : PendingGuardianPolicyV1}
    (hepoch : validateId now.writerEpoch = .ok ()) (hrev : s.revision + 1 < 2 ^ 64)
    (hp : s.pendingPolicyEdit = some p) (hwait : delayElapsed p.waitOrigin now = .ok ())
    (hwall : s.clock.wallTime ≤ now.wallTime) (hsame : now.writerEpoch = s.clock.writerEpoch)
    (hmon : s.clock.monotonicMs ≤ now.monotonicMs) :
    ∃ s', recoveryStep (some s) ⟨⟨some s.digest, .activatePolicy⟩, now, snapshot⟩ = .ok (some s') ∧
      s'.pending = s.pending ∧ s'.pendingPolicyEdit = none ∧ s'.maintenance = s.maintenance := by
  obtain ⟨edits, hedits, hpend⟩ := Option.bind_eq_some_iff.1 hp
  obtain ⟨next, harm⟩ : ∃ next, activate { s with revision := s.revision + 1 } now = .ok next := by
    simp only [activate, bind_ok, exists_unit, okOr_ok, pure_ok]
    exact ⟨_, p, hp, hwait, edits, hedits, rfl⟩
  refine ⟨_, step_accepted hepoch hwall (.inl ⟨hsame, hmon⟩) hrev harm, ?_⟩
  obtain ⟨_, _, _, _, _, rfl⟩ := activate_ok harm
  exact ⟨rfl, rfl, rfl⟩

def otherEpoch (epoch : String) : String := if epoch = "a" then "b" else "a"

variable (epoch : String)

omit [KernelHost] in
theorem otherEpoch_ne : otherEpoch epoch ≠ epoch := by
  unfold otherEpoch
  split
  · rename_i h
    rw [h]
    decide
  · rename_i h
    exact Ne.symm h

omit [KernelHost] in
theorem otherEpoch_valid : validateId (otherEpoch epoch) = .ok () := by
  unfold otherEpoch
  split <;> rfl

variable {later : Timestamp}

theorem delayElapsed_of {org : RecoveryClockV1} (hepoch : now.writerEpoch = org.writerEpoch)
    (hmon : org.monotonicMs + delayMs ≤ now.monotonicMs)
    (hlater : org.wallTime.checkedAddMilliseconds delayMs = some later) (hwall : later ≤ now.wallTime) :
    delayElapsed org now = .ok () := by
  simp only [delayElapsed, bind_ok, exists_unit, deny_ok, okOr_ok, decide_eq_false_iff_not]
  refine ⟨?_, later, hlater, Timestamp.not_lt.2 hwall⟩
  rintro (hne | hlt | hlt)
  · exact hne hepoch.symm
  · omega
  · omega

theorem canSettle_edit {p : PendingGuardianPolicyV1}
    (c : Consistent s) (hp : s.pendingPolicyEdit = some p) (hrev : s.revision + 2 < 2 ^ 64)
    (hlater : s.clock.wallTime.checkedAddMilliseconds delayMs = some later) : CanSettle s snapshot 2 := by
  obtain ⟨hmaint, hpend, -⟩ := c.edit p hp
  have hwall : s.clock.wallTime ≤ later := by
    have := Timestamp.checkedAddMilliseconds_some hlater
    rw [Timestamp.le_def]
    omega
  have hdelay : delayMs < 2 ^ 64 := by decide
  let began : RecoveryClockV1 := ⟨otherEpoch s.clock.writerEpoch, s.clock.wallTime, 0⟩
  let ended : RecoveryClockV1 := ⟨otherEpoch s.clock.writerEpoch, later, delayMs⟩
  obtain ⟨s₁, hreb, hclock, hrev₁, hmaint₁, -, -, hpend₁, hedit₁⟩ :
      ∃ s₁, recoveryStep (some s) ⟨⟨some s.digest, .rebaseWait⟩, began, snapshot⟩ = .ok (some s₁) ∧ _ :=
    rebase_accepted (otherEpoch_valid _) (otherEpoch_ne _) (Timestamp.le_def.2 le_rfl) (by omega)
  have hwait : delayElapsed began ended = .ok () :=
    delayElapsed_of rfl (Nat.zero_add delayMs).le hlater (Timestamp.le_def.2 le_rfl)
  rw [hp, Option.map_some] at hedit₁
  obtain ⟨s₂, hactivated, hpend₂, hedit₂, hmaint₂⟩ :
      ∃ s₂, recoveryStep (some s₁) ⟨⟨some s₁.digest, .activatePolicy⟩, ended, snapshot⟩ = .ok (some s₂) ∧ _ :=
    activate_accepted (otherEpoch_valid _) (by omega) hedit₁ hwait (hclock ▸ hwall) (hclock ▸ rfl)
      (hclock ▸ Nat.zero_le delayMs)
  refine canSettle_two (n := 0) hreb hactivated ⟨rfl, rfl, Nat.two_pow_pos 64⟩ ⟨rfl, rfl, hdelay⟩ ⟨?_, hedit₂, ?_⟩
  · rw [hpend₂, ← Option.isNone_iff_eq_none, ← Option.not_isSome, hpend₁, hpend]
    rfl
  · rw [hmaint₂, hmaint₁, hmaint]

theorem canSettle_recovery
    (c : Consistent s) (hp : s.pending = some p) (hepoch : validateId s.clock.writerEpoch = .ok ())
    (hrev : s.revision + 2 < 2 ^ 64) (hmon : s.clock.monotonicMs < 2 ^ 64) (hsigns : RootSigns s)
    (hshape : SnapshotShaped snapshot) : CanSettle s snapshot 2 := by
  have hmaint : s.maintenance = true := c.maintenance p hp
  have hedit : s.pendingPolicyEdit = none := by
    cases hedit : s.pendingPolicyEdit with
    | none => rfl
    | some edit => cases hp.symm.trans (c.edit edit hedit).2.1
  obtain ⟨wall, hdead, hwall⟩ : ∃ wall : Timestamp, p.deadline ≤ wall ∧ s.clock.wallTime ≤ wall := by
    rcases Int.le_total p.deadline.epochNanoseconds s.clock.wallTime.epochNanoseconds with h | h
    · exact ⟨s.clock.wallTime, h, Timestamp.le_def.2 le_rfl⟩
    · exact ⟨p.deadline, Timestamp.le_def.2 le_rfl, h⟩
  have hexpire : recoveryStep (some s) ⟨⟨some s.digest, .expire⟩, { s.clock with wallTime := wall }, snapshot⟩ =
      .ok (some { s with revision := s.revision + 1, pending := none, clock := { s.clock with wallTime := wall } }) :=
    expire_accepted hepoch (by omega) hp hdead hwall rfl le_rfl
  obtain ⟨sig, hresume⟩ := resume_accepted
    (s := { s with revision := s.revision + 1, pending := none, clock := { s.clock with wallTime := wall } })
    c.validRoot hsigns hshape hepoch hrev rfl hmaint
  exact canSettle_two (n := 0) hexpire hresume ⟨rfl, rfl, hmon⟩ ⟨rfl, rfl, hmon⟩ ⟨rfl, hedit, rfl⟩

/-- **No dead ends**: while two more revisions fit and a day more can be told, every state of a run can be settled. -/
theorem canSettle_of_run {h : List Step}
    (run : RecoveryRun h (some s)) (hrev : s.revision + 2 < 2 ^ 64) (hmon : s.clock.monotonicMs < 2 ^ 64)
    (hlater : s.clock.wallTime.checkedAddMilliseconds delayMs = some later) (hsigns : RootSigns s)
    (hshape : SnapshotShaped snapshot) : CanSettle s snapshot 2 := by
  have c : Consistent s := consistent_of_run run s rfl
  have hepoch : validateId s.clock.writerEpoch = .ok () := epoch_of_run run s rfl
  cases hedit : s.pendingPolicyEdit with
  | some p => exact canSettle_edit c hedit hrev hlater
  | none =>
    cases hpend : s.pending with
    | some p => exact canSettle_recovery c hpend hepoch hrev hmon hsigns hshape
    | none =>
      cases hmaint : s.maintenance with
      | false => exact canSettle_now ⟨hpend, hedit, hmaint⟩
      | true =>
        obtain ⟨sig, hresume⟩ := resume_accepted c.validRoot hsigns hshape hepoch (by omega) hpend hmaint
        exact canSettle_one (n := 1) hresume ⟨rfl, rfl, hmon⟩ ⟨hpend, hedit, rfl⟩

/-! ## The last revision -/

/-- **Every accepted command takes one revision**, and there has to be one left. -/
theorem revision_of_step {s' : GuardianRecoveryStateV1} {attempt : Attempt}
    (h : recoveryStep (some s) attempt = .ok (some s')) : s'.revision = s.revision + 1 ∧ s.revision + 1 < 2 ^ 64 := by
  obtain ⟨_, hs', heval⟩ := recoveryStep_ok h
  cases hs'
  have hroom : s.revision + 1 < 2 ^ 64 := by
    simp only [evaluateGuardianRecovery, bind_ok, exists_unit, okOr_ok, checkedAdd_some] at heval
    obtain ⟨_, _, _, _, ⟨hroom, _⟩, _⟩ := heval
    exact hroom
  obtain ⟨_, _, _, _, next, hnext, rfl⟩ := evaluate_some_ok heval
  have hrev : next.revision = s.revision + 1 := (applyAction_frame hnext).revision
  exact ⟨hrev, hroom⟩

/-- **With one revision left a pending recovery is a dead end**: the one command still accepted does not end
maintenance, and none is accepted after it. -/
theorem last_revision_step {attempt : Attempt}
    (hrev : s.revision + 2 = 2 ^ 64) (hpend : s.pending.isSome) (hmaint : s.maintenance = true)
    (hstep : recoveryStep (some s) attempt = .ok (some s₁)) :
    s₁.maintenance = true ∧ ∀ later o, recoveryStep (some s₁) later ≠ .ok o := by
  refine ⟨?_, fun later o hlater => ?_⟩
  · have hmain := maintenanceStep_of_step (t := ⟨some s, attempt, some s₁⟩) hstep
    by_contra hended
    have hres := hmain.ends s s₁ rfl rfl hmaint (Bool.eq_false_iff.2 hended)
    rw [hres.pending] at hpend
    cases hpend
  · obtain ⟨s₂, rfl, -⟩ := recoveryStep_ok hlater
    have := (revision_of_step hstep).1
    have := (revision_of_step hlater).2
    omega

theorem last_revision_not_settled
    (hrev : s.revision + 2 = 2 ^ 64) (hpend : s.pending.isSome) (hmaint : s.maintenance = true) :
    ¬ CanSettle s snapshot n := by
  rintro ⟨h, s', trace, -, -, settled⟩
  have hstuck : some s' = some s ∨ ∃ a s₁, some s' = some s₁ ∧ recoveryStep (some s) a = .ok (some s₁) := by
    refine trace.invariant (fun o => o = some s ∨ ∃ a s₁, o = some s₁ ∧ recoveryStep (some s) a = .ok (some s₁))
      (.inl rfl) ?_
    rintro o a o' hbefore hstep
    obtain ⟨s₂, rfl, -⟩ := recoveryStep_ok hstep
    rcases hbefore with rfl | ⟨b, s₁, rfl, hlast⟩
    · exact .inr ⟨a, s₂, rfl, hstep⟩
    · cases (last_revision_step hrev hpend hmaint hlast).2 a _ hstep
  rcases hstuck with hsame | ⟨a, s₁, hsame, hlast⟩
  · cases hsame
    cases hmaint.symm.trans settled.maintenance
  · cases hsame
    cases (last_revision_step hrev hpend hmaint hlast).1.symm.trans settled.maintenance

/-! ## The lifecycle -/

/-- **The maintenance lifecycle.**  In every run, maintenance begins only in an `initiate` and ends only in a `resume`
without a pending recovery that the root in force signed over this state and the writer's snapshot; `cancel`, `expire`,
`complete` and `rebaseWait` never end it.  A state that is reached with room for two more revisions and a day that its
clock can still tell can be settled by at most two commands, rebases, expiries, activations and root-signed resumes.  One
with a pending recovery and room for one revision cannot be settled at all. -/
theorem maintenance_lifecycle {h : List Step} {o : Option GuardianRecoveryStateV1} (run : RecoveryRun h o) :
    (∀ t ∈ h, MaintenanceStep t) ∧
      (∀ s, o = some s → s.revision + 2 < 2 ^ 64 → s.clock.monotonicMs < 2 ^ 64 →
        (s.clock.wallTime.checkedAddMilliseconds delayMs).isSome → RootSigns s →
        ∀ snapshot, SnapshotShaped snapshot → CanSettle s snapshot 2) ∧
      ∀ s, o = some s → s.revision + 2 = 2 ^ 64 → s.pending.isSome →
        (∀ a s₁, recoveryStep (some s) a = .ok (some s₁) →
          s₁.maintenance = true ∧ ∀ later o₂, recoveryStep (some s₁) later ≠ .ok o₂) ∧
        ∀ snapshot n, ¬ CanSettle s snapshot n := by
  refine ⟨fun t ht => ?_, ?_, ?_⟩
  · obtain ⟨l, r, hsplit⟩ := List.append_of_mem ht
    exact maintenanceStep_of_step (run.split hsplit).2
  · rintro s rfl hrev hmon hday hsigns snapshot hshape
    obtain ⟨later, hlater⟩ := Option.isSome_iff_exists.1 hday
    exact canSettle_of_run run hrev hmon hlater hsigns hshape
  · rintro s rfl hrev hpend
    obtain ⟨p, hp⟩ := Option.isSome_iff_exists.1 hpend
    have hmaint : s.maintenance = true := (consistent_of_run run s rfl).maintenance p hp
    exact ⟨fun a s₁ => last_revision_step hrev hpend hmaint, fun snapshot n =>
      last_revision_not_settled hrev hpend hmaint⟩

end

/-! ## A concrete Mother that runs out of revisions -/

namespace Sample

/-- A pending recovery of the same Mother at every revision: each writer that takes over spends one. -/
theorem pending_at_revision (n : Nat) (hn : n + 3 ≤ 2 ^ 64) :
    ∃ h s, @RecoveryRun host h (some s) ∧ s.revision = n + 2 ∧ s.clock.wallTime = second 10 ∧ s.clock.monotonicMs < 2 ^ 64 ∧
      s.binding = binding 0 ∧ s.policy = policy ∧ s.pending.isSome ∧ s.maintenance = true := by
  induction n with
  | zero =>
    have hstate : (stateAfter initiated).revision = 2 ∧ (stateAfter initiated).clock.wallTime = second 10 ∧
        (stateAfter initiated).clock.monotonicMs < 2 ^ 64 ∧ (stateAfter initiated).binding = binding 0 ∧
        (stateAfter initiated).policy = policy ∧ (stateAfter initiated).pending.isSome ∧
        (stateAfter initiated).maintenance = true := by decide +kernel
    have hpost : initiated.post = some (stateAfter initiated) := by decide +kernel
    exact ⟨_, stateAfter initiated, hpost ▸ initiated_run, hstate⟩
  | succ n ih =>
    obtain ⟨h, s, run, hrev, hwall, -, hbin, hpol, hpend, hmaint⟩ := ih (by omega)
    obtain ⟨s₁, hstep, hclock, hrev₁, hmaint₁, hbin₁, hpol₁, hpend₁, -⟩ :
        ∃ s₁, @recoveryStep host (some s) ⟨⟨some (@GuardianRecoveryStateV1.digest host s), .rebaseWait⟩,
          ⟨otherEpoch s.clock.writerEpoch, second 10, 0⟩, ""⟩ = .ok (some s₁) ∧ _ :=
      @rebase_accepted host s _ _ (otherEpoch_valid _) (otherEpoch_ne _) (hwall ▸ Timestamp.le_def.2 le_rfl) (by omega)
    refine ⟨_, s₁, run.snoc hstep, by omega, by rw [hclock], ?_, hbin₁.trans hbin, hpol₁.trans hpol,
      hpend₁.trans hpend, hmaint₁.trans hmaint⟩
    rw [hclock]
    exact Nat.two_pow_pos 64

/-- **The last revision but one is a dead end.**  A Mother whose revision and generations are below the `u64` maximum, with
a day the clock can still tell, has a pending recovery that no sequence of commands settles. -/
theorem last_revision_stuck :
    ∃ h s, @RecoveryRun host h (some s) ∧ s.revision < 2 ^ 64 - 1 ∧ s.binding.rootGeneration < 2 ^ 64 - 1 ∧
      s.policy.generation < 2 ^ 64 - 1 ∧ s.clock.monotonicMs < 2 ^ 64 ∧
      (@Timestamp.checkedAddMilliseconds host s.clock.wallTime delayMs).isSome ∧ @RootSigns host s ∧
      ∀ snapshot n, ¬ @CanSettle host s snapshot n := by
  obtain ⟨h, s, run, hrev, hwall, hmon, hbin, hpol, hpend, hmaint⟩ :=
    pending_at_revision (2 ^ 64 - 4) (by omega)
  refine ⟨h, s, run, by omega, ?_, ?_, hmon, ?_, fun _ => ⟨signature, rfl⟩, fun snapshot n =>
    @last_revision_not_settled host s snapshot n (by omega) hpend hmaint⟩
  · rw [hbin]
    decide
  · rw [hpol]
    decide
  · rw [hwall]
    decide +kernel

/-- A pending recovery with room for two commands. -/
theorem pending_recovery_settles :
    (stateAfter initiated).pending.isSome ∧ @MaintenanceStep host initiated ∧
      @CanSettle host (stateAfter initiated) snapshot 2 := by
  have hpost : initiated.post = some (stateAfter initiated) := by decide +kernel
  have law := @maintenance_lifecycle host _ _ (hpost ▸ initiated_run)
  refine ⟨by decide +kernel, law.1 initiated (List.mem_append_right _ List.mem_cons_self), ?_⟩
  refine law.2.1 (stateAfter initiated) rfl (by decide +kernel) (by decide +kernel) (by decide +kernel)
    (fun _ => ⟨signature, rfl⟩) snapshot ?_
  exact ⟨by decide +kernel, by decide +kernel⟩

end Sample

end Recovery
end Mct
