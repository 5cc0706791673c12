import PatinaMct.RecoverySteps
/-!
# RecoveryConsistent — the evaluator only proposes states the ledger accepts

The ledger checks a proposed recovery state with `guardianPolicyStateIsConsistent`, written apart from the evaluator.
`Consistent` is the inductive invariant that links the two: the roster's bindings and keys validate against the
current root, a pending edit still validates, and a pending replacement key is disjoint from the keys that `complete`
will place it next to.  Each arm keeps it, so every state of a run has it, and it implies the ledger's check.
-/
namespace Mct
namespace Recovery

open Checked

section

variable [KernelHost]

/-! ## Policies and bindings under a new root key -/

variable (n : Nat) {key : RecoveryPublicKeyV1}

theorem validateBinding_newRoot {bd : OwnerBindingV1}
    (h : validateBinding bd = .ok ()) (hk : validateKey key = .ok ()) :
    validateBinding (bd.withRoot (n + 1) key) = .ok () := by
  simp only [validateBinding, bind_ok, exists_unit, deny_ok] at h ⊢
  exact ⟨h.1, by simp [OwnerBindingV1.withRoot], hk⟩

/-- A guardian stays valid under a target that keeps its Voice and node and does not take the guardian's key. -/
theorem validateGuardian_newRoot {target target' : OwnerBindingV1} {prior : List RecoveryGuardianV1}
    {g : RecoveryGuardianV1} (hv : target'.voiceId = target.voiceId)
    (hn : target'.motherNodeId = target.motherNodeId) (hk : sharesKeyHalf g.signingKey target'.rootKey = false)
    (h : validateGuardian target prior g = .ok ()) : validateGuardian target' prior g = .ok () := by
  simp only [validateGuardian, bind_ok, exists_unit, deny_ok, Bool.or_eq_false_iff] at h ⊢
  obtain ⟨h₁, h₂, h₃, h₄, h₅, ⟨⟨h₆, _⟩, h₇⟩, h₈⟩ := h
  exact ⟨h₁, h₂, h₃, h₄, by rw [hv]; exact h₅, ⟨⟨by rw [hn]; exact h₆, hk⟩, h₇⟩, h₈⟩

variable {pol : GuardianRecoveryPolicyV1}

theorem validatePolicy_newRoot (m : Nat) (h : validatePolicy pol = .ok ()) (hk : validateKey key = .ok ())
    (hg : ∀ g ∈ pol.guardians.toList, sharesKeyHalf key g.signingKey = false) :
    validatePolicy { pol with
      target := pol.target.withRoot (n + 1) key, generation := m + 1 } = .ok () := by
  simp only [validatePolicy, bind_ok, exists_unit, deny_ok, eachWithPrior_ok, List.nil_append] at h ⊢
  refine ⟨validateBinding_newRoot n h.1 hk, by simp, fun l g r hl => ?_⟩
  refine validateGuardian_newRoot ?_ ?_ ?_ (h.2.2 l g r hl)
  · rfl
  · rfl
  · rw [sharesKeyHalf_comm]
    exact hg g (by rw [hl]; simp)

def rosterKeys (pairs : List (RecoveryGuardianV1 × OwnerBindingV1)) : List RecoveryPublicKeyV1 :=
  pairs.flatMap fun (guardian, binding) => [guardian.signingKey, binding.rootKey]

theorem validateBindings_ok {s : GuardianRecoveryStateV1} {bindings : Vector OwnerBindingV1 3} :
    validateBindings s pol bindings = .ok () ↔ validatePolicy pol = .ok () ∧
      (∀ item ∈ pol.guardians.toList.zip bindings.toList,
        validateGuardianBinding s.binding.voiceId item = .ok ()) ∧
      (s.enrollment.genesis.publicKey :: s.binding.rootKey ::
        rosterKeys (pol.guardians.toList.zip bindings.toList)).Pairwise fun a b => sharesKeyHalf a b = false := by
  simp only [validateBindings, bind_ok, exists_unit, forM_ok, denyClash_ok, rosterKeys]

omit [KernelHost] in
theorem mem_rosterKeys {pairs : List (RecoveryGuardianV1 × OwnerBindingV1)}
    (h : key ∈ rosterKeys pairs) : ∃ item ∈ pairs, key = item.1.signingKey ∨ key = item.2.rootKey := by
  obtain ⟨item, hi, hk⟩ := List.mem_flatMap.mp h
  exact ⟨item, hi, by simpa using hk⟩

variable {s s' : GuardianRecoveryStateV1}

/-- **A replacement that is disjoint from every roster key and from the genesis key keeps the bindings valid.** -/
theorem validateBindings_newRoot (m : Nat) (he : s'.enrollment = s.enrollment)
    (hb : s'.binding = s.policy.target.withRoot (n + 1) key)
    (ht : s.binding = s.policy.target) (h : validateBindings s s.policy s.guardianBindings = .ok ())
    (hk : validateKey key = .ok ()) (hg : ∀ g ∈ s.policy.guardians.toList, sharesKeyHalf key g.signingKey = false)
    (hgen : sharesKeyHalf s.enrollment.genesis.publicKey key = false)
    (hbs : ∀ b ∈ s.guardianBindings.toList, sharesKeyHalf b.rootKey key = false) :
    validateBindings s' { s.policy with
      target := s.policy.target.withRoot (n + 1) key, generation := m + 1 }
      s.guardianBindings = .ok () := by
  rw [validateBindings_ok] at h ⊢
  obtain ⟨hp, hv, hd⟩ := h
  refine ⟨validatePolicy_newRoot n m hp hk hg, ?_, ?_⟩
  · rw [hb]
    rw [ht] at hv
    exact hv
  · rw [he, hb]
    rw [List.pairwise_cons, List.pairwise_cons] at hd ⊢
    obtain ⟨hgenesis, _, hroster⟩ := hd
    refine ⟨fun k hk => ?_, fun k hk => ?_, hroster⟩
    · rcases List.mem_cons.mp hk with rfl | hk
      · exact hgen
      · exact hgenesis k (List.mem_cons_of_mem _ hk)
    · obtain ⟨item, hi, rfl | rfl⟩ := mem_rosterKeys hk
      · exact hg _ (List.of_mem_zip hi).1
      · rw [sharesKeyHalf_comm]
        exact hbs _ (List.of_mem_zip hi).2

variable {clock : RecoveryClockV1}

omit [KernelHost] in
theorem rebased_recoveryEnabled :
    (rebased s clock).recoveryEnabled = s.recoveryEnabled := by
  simp only [rebased, GuardianRecoveryStateV1.recoveryEnabled]; cases s.policyEdits <;> rfl

omit [KernelHost] in
theorem rebased_guardianBindings :
    (rebased s clock).guardianBindings = s.guardianBindings := by
  simp only [rebased, GuardianRecoveryStateV1.guardianBindings]; cases s.policyEdits <;> rfl

omit [KernelHost] in
theorem rebased_pendingPolicyEdit :
    (rebased s clock).pendingPolicyEdit = s.pendingPolicyEdit.map fun p => { p with waitOrigin := clock } := by
  simp only [rebased, GuardianRecoveryStateV1.pendingPolicyEdit]; cases s.policyEdits <;> rfl

variable {revision : Nat}

omit [KernelHost] in
theorem policyEditsOrFresh_enabled :
    (policyEditsOrFresh s { s with revision }).enabled = s.recoveryEnabled := by
  simp only [policyEditsOrFresh, GuardianRecoveryStateV1.recoveryEnabled]; cases s.policyEdits <;> rfl

omit [KernelHost] in
theorem policyEditsOrFresh_guardianBindings :
    (policyEditsOrFresh s { s with revision }).guardianBindings = s.guardianBindings := by
  simp only [policyEditsOrFresh, GuardianRecoveryStateV1.guardianBindings]; cases s.policyEdits <;> rfl

variable {edit : GuardianPolicyEditV1}

theorem validate_congr (he : s'.enrollment = s.enrollment) (hb : s'.binding = s.binding) (hp : s'.policy = s.policy)
    (hr : s'.recoveryEnabled = s.recoveryEnabled) (hg : s'.guardianBindings = s.guardianBindings) :
    edit.validate s' = edit.validate s := by
  simp only [GuardianPolicyEditV1.validate, validateBindings, he, hb, hp, hr, hg]

theorem validate_ok (h : edit.validate s = .ok ()) :
    edit.policy.target = s.binding ∧ edit.policy.generation = s.policy.generation + 1 ∧
      validateBindings s edit.policy edit.guardianBindings = .ok () := by
  simp only [GuardianPolicyEditV1.validate, bind_ok, exists_unit, deny_ok, decide_eq_false_iff_not, not_or, not_not,
    checkedAdd_some] at h
  exact ⟨h.2.2.1.1, h.2.2.1.2.2, h.2.2.2.1⟩

/-! ## The invariant -/

/-- **What every state of a run satisfies.** -/
structure Consistent (s : GuardianRecoveryStateV1) : Prop where
  target : s.binding = s.policy.target
  bindings : validateBindings s s.policy s.guardianBindings = .ok ()
  rootGeneration : s.binding.rootGeneration = s.retiredRootKeys.length + 1
  generation : s.binding.rootGeneration ≤ s.policy.generation
  editIds : ∀ edits, s.policyEdits = some edits → edits.consumedEditIds.isEmpty = false
  disabled : s.recoveryEnabled = false → s.pending = none ∧ s.maintenance = false
  maintenance : ∀ p, s.pending = some p → s.maintenance = true
  replacement : ∀ p, s.pending = some p →
    sharesKeyHalf s.enrollment.genesis.publicKey p.request.intent.replacementKey = false ∧
      ∀ b ∈ s.guardianBindings.toList, sharesKeyHalf b.rootKey p.request.intent.replacementKey = false
  edit : ∀ p, s.pendingPolicyEdit = some p → s.maintenance = false ∧ s.pending = none ∧
    (∃ edits, s.policyEdits = some edits ∧ p.edit.editId ∈ edits.consumedEditIds) ∧ p.edit.validate s = .ok ()

namespace Consistent

variable {s s' : GuardianRecoveryStateV1}

theorem stamp (c : Consistent s) (revision : Nat) (clock : RecoveryClockV1) :
    Consistent { s with revision, clock } :=
  ⟨c.target, c.bindings, c.rootGeneration, c.generation, c.editIds, c.disabled, c.maintenance, c.replacement, c.edit⟩

variable {clock : RecoveryClockV1} {aps : List GuardianRecoveryApprovalV1}

theorem of_initiate {req : RecoveryRequestV1}
    (c : Consistent s) (h : initiate s req aps clock = .ok s') :
    Consistent s' := by
  obtain ⟨he, hpe, _, hr, _, deadline, rfl⟩ := initiate_ok h
  simp only [replacementReused, Bool.or_eq_false_iff, List.any_eq_false, Bool.not_eq_true] at hr
  refine ⟨c.target, c.bindings, c.rootGeneration, c.generation, c.editIds, fun hd => ?_, fun _ _ => rfl, ?_, ?_⟩
  · exact absurd (hd.symm.trans he) (by decide)
  · rintro p ⟨⟩
    exact ⟨hr.1.1.2, hr.1.2⟩
  · intro p hp
    exact absurd (hpe.symm.trans hp) (by simp)

theorem of_drop (c : Consistent s) : Consistent { s with pending := none } := by
  refine ⟨c.target, c.bindings, c.rootGeneration, c.generation, c.editIds, fun hd => ⟨rfl, (c.disabled hd).2⟩, ?_, ?_,
    fun p hp => ⟨(c.edit p hp).1, rfl, (c.edit p hp).2.2⟩⟩
  · rintro p ⟨⟩
  · rintro p ⟨⟩

theorem of_issueChallenge {ch : String} (c : Consistent s)
    (h : issueChallenge s ch clock = .ok s') : Consistent s' := by
  obtain ⟨pending, exp, hp, _, _, _, rfl⟩ := issueChallenge_ok h
  refine ⟨c.target, c.bindings, c.rootGeneration, c.generation, c.editIds, fun hd => ?_, fun _ _ => ?_, ?_, ?_⟩
  · exact absurd (hp.symm.trans (c.disabled hd).1) (by simp)
  · exact c.maintenance pending hp
  · rintro p ⟨⟩
    exact c.replacement pending hp
  · intro p he
    exact absurd (hp.symm.trans (c.edit p he).2.1) (by simp)

variable {newTenure : Bool}

theorem of_rebaseWait (c : Consistent s) (h : rebaseWait s clock newTenure = .ok s') : Consistent s' := by
  obtain ⟨_, rfl⟩ := rebaseWait_ok h
  refine ⟨c.target, ?_, c.rootGeneration, c.generation, fun edits he => ?_, fun hd => ?_, fun p hp => ?_,
    fun p hp => ?_, fun p hp => ?_⟩
  · rw [rebased_guardianBindings]
    exact c.bindings
  · obtain ⟨old, hold, rfl⟩ := Option.map_eq_some_iff.mp he
    exact c.editIds old hold
  · rw [rebased_recoveryEnabled] at hd
    exact ⟨by simp [rebased, (c.disabled hd).1], (c.disabled hd).2⟩
  · obtain ⟨old, hold, _⟩ := Option.map_eq_some_iff.mp hp
    exact c.maintenance old hold
  · obtain ⟨old, hold, rfl⟩ := Option.map_eq_some_iff.mp hp
    rw [rebased_guardianBindings]
    exact c.replacement old hold
  · rw [rebased_pendingPolicyEdit] at hp
    obtain ⟨old, hold, rfl⟩ := Option.map_eq_some_iff.mp hp
    obtain ⟨hm, hn, ⟨edits, hedits, hid⟩, hval⟩ := c.edit old hold
    refine ⟨hm, by simp [rebased, hn], ?_, ?_⟩
    · exact ⟨_, Option.map_eq_some_iff.mpr ⟨edits, hedits, rfl⟩, hid⟩
    · refine Eq.trans (validate_congr ?_ ?_ ?_ rebased_recoveryEnabled rebased_guardianBindings) hval <;> rfl

variable {revision : Nat}

theorem of_propose {proposal : GuardianPolicyProposalV1}
    (c : Consistent s) (h : propose s { s with revision } proposal clock = .ok s') : Consistent s' := by
  obtain ⟨hm, hp, _, hv, rfl⟩ := propose_ok h
  refine ⟨c.target, ?_, c.rootGeneration, c.generation, ?_, fun _ => ⟨hp, hm⟩, fun p h => ?_, fun p h => ?_, ?_⟩
  · have := c.bindings
    rw [← policyEditsOrFresh_guardianBindings] at this
    exact this
  · rintro edits ⟨⟩
    simp
  · exact absurd (hp.symm.trans h) (by simp)
  · exact absurd (hp.symm.trans h) (by simp)
  · rintro p ⟨⟩
    refine ⟨hm, hp, ⟨_, rfl, by simp⟩, ?_⟩
    refine Eq.trans (validate_congr ?_ ?_ ?_ policyEditsOrFresh_enabled policyEditsOrFresh_guardianBindings) hv <;> rfl

theorem of_cancelPolicy {ownerSignature : Option RecoverySignatureV1} (c : Consistent s)
    (h : cancelPolicy s { s with revision } ownerSignature aps clock = .ok s') : Consistent s' := by
  obtain ⟨_, edits, he, rfl⟩ := cancelPolicy_ok h
  have he : s.policyEdits = some edits := he
  have hbs : s.guardianBindings = edits.guardianBindings := by simp [GuardianRecoveryStateV1.guardianBindings, he]
  have hen : s.recoveryEnabled = edits.enabled := by simp [GuardianRecoveryStateV1.recoveryEnabled, he]
  refine ⟨c.target, ?_, c.rootGeneration, c.generation, ?_, fun hd => c.disabled (hen.trans hd), c.maintenance,
    fun p hp => ?_, ?_⟩
  · have := c.bindings
    rw [hbs] at this
    exact this
  · rintro _ ⟨⟩
    exact c.editIds edits he
  · have := c.replacement p hp
    rw [hbs] at this
    exact this
  · rintro p ⟨⟩

theorem of_activate (c : Consistent s) (h : activate s clock = .ok s') :
    Consistent s' := by
  obtain ⟨pending, edits, hp, _, he, rfl⟩ := activate_ok h
  obtain ⟨hm, hn, _, hval⟩ := c.edit pending hp
  obtain ⟨ht, hg, hb⟩ := validate_ok hval
  refine ⟨ht.symm, hb, c.rootGeneration, ?_, ?_, fun _ => ⟨hn, hm⟩, fun p h => ?_, fun p h => ?_, ?_⟩
  · have := c.generation
    simp only [hg]
    omega
  · rintro _ ⟨⟩
    exact c.editIds edits he
  · exact absurd (hn.symm.trans h) (by simp)
  · exact absurd (hn.symm.trans h) (by simp)
  · rintro p ⟨⟩

theorem of_complete (c : Consistent s) (h : complete s aps clock = .ok s') : Consistent s' := by
  obtain ⟨pending, ch, hp, _, _, _, _, ⟨_, hq⟩, rfl⟩ := complete_ok h
  obtain ⟨_, hi, _⟩ := verifyRecoveryQuorum_ok hq
  obtain ⟨hk, _, _, hg⟩ := validateIntentPolicy_ok hi
  obtain ⟨hgen, hbs⟩ := c.replacement pending hp
  have hmain := c.maintenance pending hp
  refine ⟨rfl, ?_, ?_, ?_, c.editIds, fun hd => ?_, ?_, ?_, fun p he => ?_⟩
  · rw [c.target]
    exact validateBindings_newRoot _ _ rfl rfl c.target c.bindings hk hg hgen hbs
  · have := c.rootGeneration
    simp only [OwnerBindingV1.withRoot, List.length_append, List.length_singleton]
    omega
  · have := c.generation
    simp only [OwnerBindingV1.withRoot]
    omega
  · exact absurd (hp.symm.trans (c.disabled hd).1) (by simp)
  · rintro p ⟨⟩
  · rintro p ⟨⟩
  · exact absurd (hmain.symm.trans (c.edit p he).1) (by decide)

variable {snap : String}

theorem of_resume {cur : GuardianRecoveryStateV1} {expected : String} {sig : RecoverySignatureV1}
    (c : Consistent s) (h : resume cur s expected sig snap = .ok s') : Consistent s' := by
  obtain ⟨hp, _, _, rfl⟩ := resume_ok h
  refine ⟨c.target, c.bindings, c.rootGeneration, c.generation, c.editIds, fun _ => ⟨hp, rfl⟩, fun p h => ?_,
    c.replacement, fun p he => ⟨rfl, hp, (c.edit p he).2.2⟩⟩
  exact absurd (hp.symm.trans h) (by simp)

theorem of_applyAction {act : GuardianRecoveryActionV1} (c : Consistent s)
    (h : applyAction s { s with revision } clock snap newTenure act = .ok s') : Consistent s' := by
  have c' : Consistent { s with revision } := c.stamp revision s.clock
  cases act with
  | proposePolicy proposal => exact c.of_propose h
  | cancelPolicy ownerSignature aps => exact c.of_cancelPolicy h
  | activatePolicy => exact c'.of_activate h
  | enroll enrollment => cases h
  | initiate req aps => exact c'.of_initiate h
  | rebaseWait => exact c'.of_rebaseWait h
  | issueChallenge ch => exact c'.of_issueChallenge h
  | cancel aps =>
    obtain ⟨_, rfl⟩ := cancel_ok h
    exact c'.of_drop
  | expire =>
    obtain ⟨_, _, _, rfl⟩ := expire_ok h
    exact c'.of_drop
  | complete aps => exact c'.of_complete h
  | resume expected sig => exact c'.of_resume h

end Consistent

/-! ## Enrollment -/

omit [KernelHost] in
theorem zip_acceptances {α β γ : Type} {n : Nat} (gs : List α) (bs : Vector β n) (cs : Vector γ n) :
    gs.zip bs.toList = (gs.zip (bs.toList.zip cs.toList)).map fun item => (item.1, item.2.1) := by
  have h : bs.toList = (bs.toList.zip cs.toList).map Prod.fst := by
    rw [List.map_fst_zip]
    simp
  conv_lhs => rw [h, List.zip_map_right]
  simp [Prod.map]

omit [KernelHost] in
theorem rosterKeys_perm (pairs : List (RecoveryGuardianV1 × OwnerBindingV1)) :
    (pairs.flatMap fun (guardian, bd) => [bd.rootKey, guardian.signingKey]).Perm (rosterKeys pairs) :=
  List.Perm.flatMap_left pairs fun item _ => List.Perm.swap item.1.signingKey item.2.rootKey []

theorem enrolledState_consistent {enrollment : GuardianEnrollmentV1} (clock : RecoveryClockV1)
    (h : enrollment.verify = .ok ()) : Consistent (enrolledState enrollment clock) := by
  simp only [GuardianEnrollmentV1.verify, bind_ok, exists_unit, deny_ok, forM_ok, denyClash_ok,
    decide_eq_false_iff_not, not_or, not_not] at h
  obtain ⟨hp, _, _, _, ⟨hgen, hroot⟩, _, _, haccepted, hclash⟩ := h
  refine ⟨rfl, validateBindings_ok.mpr ⟨hp, fun item hi => ?_, ?_⟩, hroot, ?_, ?_, ?_, ?_, ?_, ?_⟩
  · have hi : item ∈ enrollment.policy.guardians.toList.zip enrollment.guardianBindings.toList := hi
    rw [zip_acceptances _ _ (Vector.zip enrollment.guardianOwnerAcceptances enrollment.guardianAcceptances)] at hi
    obtain ⟨⟨guardian, bd, sigs⟩, hmem, rfl⟩ := List.mem_map.mp hi
    have := haccepted (guardian, bd, sigs) (by simpa using hmem)
    simp only [verifyAcceptance, validateGuardianBinding, bind_ok, exists_unit, deny_ok, decide_eq_false_iff_not,
      not_or, not_not] at this ⊢
    obtain ⟨hb, ⟨h₁, h₂, h₃, h₄⟩, _⟩ := this
    exact ⟨hb, h₁.symm, h₂.symm, h₃.symm, h₄⟩
  · have hsymm : ∀ {a b : RecoveryPublicKeyV1}, sharesKeyHalf b a = false → sharesKeyHalf a b = false :=
      fun h => by rw [sharesKeyHalf_comm]; exact h
    exact ((((rosterKeys_perm _).cons _).cons _).pairwise_iff hsymm |>.mp hclash).imp hsymm
  · show enrollment.policy.target.rootGeneration ≤ enrollment.policy.generation
    omega
  · rintro edits ⟨⟩
  · rintro ⟨⟩
  · rintro p ⟨⟩
  · rintro p ⟨⟩
  · rintro p ⟨⟩

/-! ## Runs -/

variable {o : Option GuardianRecoveryStateV1}

/-- **What the evaluator accepts is consistent**, if the state before was. -/
theorem consistent_of_evaluate {command : GuardianRecoveryCommandV1} {snap : String}
    (hbefore : ∀ current, o = some current → Consistent current)
    (h : evaluateGuardianRecovery o command clock snap = .ok s) : Consistent s := by
  cases o with
  | none =>
    obtain ⟨enrollment, _, hv, rfl⟩ := evaluate_none_ok h
    exact enrolledState_consistent _ hv
  | some current =>
    obtain ⟨_, _, _, _, next, hnext, rfl⟩ := evaluate_some_ok h
    exact ((hbefore current rfl).of_applyAction hnext).stamp next.revision _

theorem consistent_of_run {h : List Step} (run : RecoveryRun h o) : ∀ s, o = some s → Consistent s := by
  refine run.invariant (fun o => ∀ s, o = some s → Consistent s) (by simp) ?_
  rintro o att o' ih hstep s' rfl
  obtain ⟨s, hs, heval⟩ := recoveryStep_ok hstep
  cases hs
  exact consistent_of_evaluate ih heval

theorem Consistent.accepted (c : Consistent s) :
    guardianPolicyStateIsConsistent s = .ok () := by
  simp only [guardianPolicyStateIsConsistent, bind_ok, exists_unit, deny_ok, decide_eq_false_iff_not, not_lt,
    Bool.and_eq_false_imp, Bool.or_eq_false_iff]
  refine ⟨c.generation, c.bindings, ?_, ?_, ?_⟩
  · cases he : s.policyEdits with
    | none => rfl
    | some edits => exact c.editIds edits he
  · intro hd
    obtain ⟨hp, hm⟩ := c.disabled (by simpa using hd)
    simp [hp, hm]
  · split
    · rfl
    · rename_i p hp
      obtain ⟨hm, hn, ⟨edits, he, hid⟩, hv⟩ := c.edit p hp
      simp only [bind_ok, exists_unit, deny_ok]
      exact ⟨by simpa [hm, hn, he] using hid, hv⟩

/-- **The ledger's check never rejects what the evaluator proposed.**  In every state of every run the shape check
accepts, a still pending roster edit included, the policy validates and targets the current binding, the root
generation counts the retired roots, the policy generation is not behind it, and the two kinds of pending change
exclude each other. -/
theorem reachable_state_accepted {h : List Step} {s : GuardianRecoveryStateV1} (run : RecoveryRun h (some s)) :
    guardianPolicyStateIsConsistent s = .ok () ∧ validatePolicy s.policy = .ok () ∧ s.binding = s.policy.target ∧
      s.binding.rootGeneration = s.retiredRootKeys.length + 1 ∧ s.binding.rootGeneration ≤ s.policy.generation ∧
      (s.pending.isSome → s.maintenance = true) ∧ ¬ (s.pending.isSome ∧ s.pendingPolicyEdit.isSome) := by
  have c := consistent_of_run run s rfl
  refine ⟨c.accepted, (validateBindings_ok.mp c.bindings).1, c.target, c.rootGeneration, c.generation, ?_, ?_⟩
  · intro hp
    obtain ⟨p, hp⟩ := Option.isSome_iff_exists.mp hp
    exact c.maintenance p hp
  · rintro ⟨hp, he⟩
    obtain ⟨p, hp⟩ := Option.isSome_iff_exists.mp hp
    obtain ⟨e, he⟩ := Option.isSome_iff_exists.mp he
    exact absurd (hp.symm.trans (c.edit e he).2.1) (by simp)

end

/-! ## A concrete Mother

A Mother with three guardians on a host where no key is weak and every hybrid signature verifies; a short checksum
stands for the digest.  All instants are whole seconds from 2026-11-15T00:00:00Z on. -/

namespace Sample

/-- A decimal number of at least `width` digits. -/
def padded (width n : Nat) : String :=
  String.ofList (List.replicate (width - (toString n).length) '0') ++ toString n

/-- The RFC 3339 text of a second after 1970, by the proleptic Gregorian calendar. -/
def rfc3339 (seconds : Nat) : String :=
  let days := seconds / 86400 + 719468
  let era := days / 146097
  let dayOfEra := days % 146097
  let yearOfEra := (dayOfEra - dayOfEra / 1460 + dayOfEra / 36524 - dayOfEra / 146096) / 365
  let dayOfYear := dayOfEra - (365 * yearOfEra + yearOfEra / 4 - yearOfEra / 100)
  let shifted := (5 * dayOfYear + 2) / 153
  let day := dayOfYear - (153 * shifted + 2) / 5 + 1
  let month := if shifted < 10 then shifted + 3 else shifted - 9
  let year := yearOfEra + era * 400 + (if month ≤ 2 then 1 else 0)
  let clock := seconds % 86400
  padded 4 year ++ "-" ++ padded 2 month ++ "-" ++ padded 2 day ++ "T" ++ padded 2 (clock / 3600) ++ ":" ++
    padded 2 (clock / 60 % 60) ++ ":" ++ padded 2 (clock % 60) ++ "Z"

example : rfc3339 1794700800 = "2026-11-15T00:00:00Z" := by decide

/-- The instant of a text of that form. -/
def parseRfc3339 (value : String) : Except String Int :=
  let number (start size : Nat) := Nat.ofDigitChars 10 ((value.toList.drop start).take size) 0
  let month := number 5 2
  let year := number 0 4 - (if month ≤ 2 then 1 else 0)
  let yearOfEra := year % 400
  let dayOfYear := (153 * ((month + 9) % 12) + 2) / 5 + number 8 2 - 1
  let days := year / 400 * 146097 + yearOfEra * 365 + yearOfEra / 4 - yearOfEra / 100 + dayOfYear - 719468
  let seconds := days * 86400 + number 11 2 * 3600 + number 14 2 * 60 + number 17 2
  if rfc3339 seconds = value then .ok (seconds * 1000000000) else .error "not a time of this form"

def checksum (bytes : List UInt8) : String :=
  String.ofList (Nat.toDigits 16 (bytes.foldl (fun h b => (h * 31 + b.toNat) % 65521) 0))

def recordText : RecoveryRecord → String
  | .genesisKey key => "genesis " ++ key.mlDsa65.hex
  | .policy policy => "policy " ++ toString policy.generation
  | .intent intent => "intent " ++ intent.requestId
  | .approval _ _ guardian _ _ _ => "approval " ++ guardian.motherNodeId.value
  | .enrollment _ _ _ => "enrollment"
  | .state state => "state " ++ toString state.revision
  | .resume _ snapshot => "resume " ++ snapshot
  | .ownerCancel _ edit => "cancel " ++ edit.editId
  | .ownerProposal _ edit => "proposal " ++ edit.editId
  | .acceptance _ edit guardian => "acceptance " ++ edit.editId ++ guardian.value
  | .policyVote _ edit _ member _ _ => "vote " ++ edit.editId ++ member.motherNodeId.value

@[reducible] def host : KernelHost where
  blake3 := checksum
  toVec record := utf8 (recordText record)
  isWeak _ := false
  verifyAdminHybridSignature _ _ _ _ := .ok ()
  parseTimestamp := parseRfc3339
  displayTimestamp n := rfc3339 (n / 1000000000).toNat

def key (n : Nat) : RecoveryPublicKeyV1 := ⟨.ed25519 ⟨"ed" ++ toString n⟩, ⟨"ml" ++ toString n⟩⟩

def signature : RecoverySignatureV1 := ⟨"48"⟩

def voice : VoiceIdV1 := ⟨checksum (@transcript host "mct-voice-genesis/v1" (.genesisKey (key 0)))⟩

def node : Nat → MctNodeId
  | 0 => ⟨"m", by decide⟩
  | 1 => ⟨"a", by decide⟩
  | 2 => ⟨"b", by decide⟩
  | _ => ⟨"c", by decide⟩

def binding (n : Nat) : OwnerBindingV1 := ⟨node n, "l", "e", "o", voice, 1, key (n + 1)⟩

def guardian (n : Nat) : RecoveryGuardianV1 := ⟨node n, "o", 1, voice, key (n + 10)⟩

def policy : GuardianRecoveryPolicyV1 := ⟨1, binding 0, #v[guardian 1, guardian 2, guardian 3]⟩

def enrollment : GuardianEnrollmentV1 :=
  ⟨⟨key 0, signature⟩, policy, #v[binding 1, binding 2, binding 3], signature, signature,
    #v[signature, signature, signature], #v[signature, signature, signature]⟩

def second (n : Nat) : Timestamp := ⟨rfc3339 (1794700800 + n), (1794700800 + n : Nat) * 1000000000⟩

def request : RecoveryRequestV1 :=
  ⟨⟨"r", binding 0, 1, @digest host "mct-guardian-policy/v1" (.policy policy), key 20, second 0, second 172800⟩,
    signature⟩

def approvals (n : Nat) : List GuardianRecoveryApprovalV1 :=
  [1, 2].map fun g => ⟨node g, second n, second (n + 300), signature⟩

def taken (s : Option GuardianRecoveryStateV1) (n : Nat) (action : GuardianRecoveryActionV1) : Step :=
  let attempt : Attempt :=
    ⟨⟨s.map (@GuardianRecoveryStateV1.digest host), action⟩, ⟨"t", second n, n * 1000⟩, ""⟩
  ⟨s, attempt, ((@recoveryStep host s attempt).toOption).getD s⟩

def enrolled : Step := taken none 0 (.enroll enrollment)

def initiated : Step := taken enrolled.post 10 (.initiate request (approvals 10))

def stateAfter (x : Step) : GuardianRecoveryStateV1 :=
  x.post.getD (enrolledState enrollment ⟨"t", second 0, 0⟩)

def ran (s : Option GuardianRecoveryStateV1) (attempt : Attempt) : Step :=
  ⟨s, attempt, ((@recoveryStep host s attempt).toOption).getD s⟩

theorem ran_accepted {s : Option GuardianRecoveryStateV1} {att : Attempt}
    (h : (@recoveryStep host s att).isOk = true) :
    @recoveryStep host (ran s att).pre (ran s att).input = .ok (ran s att).post := by
  have hpost : (ran s att).post = ((@recoveryStep host s att).toOption).getD s := rfl
  rw [hpost]
  show @recoveryStep host s att = _
  cases hstep : @recoveryStep host s att with
  | error e => rw [hstep] at h; cases h
  | ok s' => rfl

theorem taken_accepted {s : Option GuardianRecoveryStateV1} {n : Nat} {act : GuardianRecoveryActionV1}
    (h : (@recoveryStep host s (taken s n act).input).isOk = true) :
    @recoveryStep host (taken s n act).pre (taken s n act).input = .ok (taken s n act).post :=
  ran_accepted h

@[simp] theorem taken_pre (s : Option GuardianRecoveryStateV1) (n : Nat) (act : GuardianRecoveryActionV1) :
    (taken s n act).pre = s := rfl

theorem initiated_run : @RecoveryRun host ([enrolled] ++ [initiated]) initiated.post := by
  refine Trace.extend ?_ (taken_accepted (by decide +kernel))
  rw [initiated, taken_pre]
  exact Trace.extend .nil (taken_accepted (by decide +kernel))

theorem reachable_state_accepted_pending :
    (stateAfter initiated).pending.isSome ∧
      @guardianPolicyStateIsConsistent host (stateAfter initiated) = .ok () ∧
      @validatePolicy host (stateAfter initiated).policy = .ok () ∧ (stateAfter initiated).maintenance = true := by
  have run : @RecoveryRun host ([enrolled] ++ [initiated]) (some (stateAfter initiated)) := by
    have hpost : initiated.post = some (stateAfter initiated) := by decide +kernel
    exact hpost ▸ initiated_run
  have hpend : (stateAfter initiated).pending.isSome := by decide +kernel
  obtain ⟨hacc, hpol, _, _, _, hmaint, _⟩ := @reachable_state_accepted host _ _ run
  exact ⟨hpend, hacc, hpol, hmaint hpend⟩

end Sample

end Recovery
end Mct
