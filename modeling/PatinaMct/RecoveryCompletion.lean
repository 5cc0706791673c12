import PatinaMct.RootSeparation
/-!
# RecoveryCompletion — when the ledger lets a recovery finish

`evaluateGuardianRecovery` decides whether a recovery may complete; `applyGuardianRecovery` adds checks of its own.  A
replayed state passes all of them but one: the id of the new root is made from the binding id and the generation, and a
legacy put may have taken it before the enrollment.  `recovery_completes_iff` says that nothing else can stand in the way.
-/
namespace Mct

open Checked
open Recovery (Consistent GuardianRecoveryApprovalV1 GuardianRecoveryCommandV1 GuardianRecoveryStateV1 OwnerBindingV1
  PendingGuardianRecoveryV1 RecoveryClockV1 RecoveryPublicKeyV1 TextSet)

variable [LedgerHost]

variable {state state' : AuthorityStateV1} {entries l : List MctObservationLedgerEntry} {replay : AuthorityReplayV1}
  {usedEpochs : TextSet} {root : AdminKeyGrantV1} {binding : OwnerBindingV1} {recovery next : GuardianRecoveryStateV1}
  {command : GuardianRecoveryCommandV1} {clock : RecoveryClockV1}

/-! ## The checks of a state, by its maps -/

variable {g : AdminKeyGrantV1}

omit [LedgerHost] in
theorem validateAdminKeyGrantShape_ok :
    validateAdminKeyGrantShape g = .ok () ↔ adminKeyGrantShapeError g = none := by
  unfold validateAdminKeyGrantShape
  cases adminKeyGrantShapeError g <;> simp

omit [LedgerHost] in
theorem validateAdminAuthorityState_ok : validateAdminAuthorityState state = .ok () ↔
    (∀ (id : String) (g : AdminKeyGrantV1), state.adminKeyGrants[id]? = some g →
      id = g.grantId ∧ adminKeyGrantShapeError g = none ∧
        (g.class_ = .recovery → g.grantState = .active)) ∧
    (∀ (id id' : String) (g g' : AdminKeyGrantV1), state.adminKeyGrants[id]? = some g →
      state.adminKeyGrants[id']? = some g' → g.class_ = .recovery → g'.class_ = .recovery → id = id') ∧
    (∀ (hash : String) (ticket : PairingTicketV1), state.pairingTickets[hash]? = some ticket →
      hash = ticket.ticketHash ∧ pairingTicketHashOk hash = true) := by
  have hcount : (decide (1 < state.adminKeyGrants.values.countP fun g => g.class_ == .recovery)) = false ↔
      ∀ (id id' : String) (g g' : AdminKeyGrantV1), state.adminKeyGrants[id]? = some g →
        state.adminKeyGrants[id']? = some g' → g.class_ = .recovery → g'.class_ = .recovery → id = id' := by
    rw [decide_eq_false_iff_not, Nat.not_lt, Maps.countP_values_le_one]
    simp only [beq_iff_eq]
  simp only [validateAdminAuthorityState, bind_ok, exists_unit, forM_ok, deny_ok, hcount, Prod.forall,
    Std.ExtTreeMap.mem_toList_iff_getElem?_eq_some, decide_eq_false_iff_not, not_not, validateAdminKeyGrantShape_ok,
    Bool.and_eq_false_imp, beq_iff_eq, Bool.or_eq_false_iff, Bool.not_eq_eq_eq_not, Bool.not_false]

theorem validateIssuanceState_ok : validateIssuanceState state = .ok () ↔
    (∀ (id : String) (record : AdminKeyIssuanceRecordV1), state.adminIssuance[id]? = some record →
      validateIssuanceRecord state id record = .ok ()) ∧
    ∀ (id : String) (g : AdminKeyGrantV1), state.adminKeyGrants[id]? = some g →
      g.issuanceCeiling.isSome = true → state.adminIssuance.contains g.grantId = true := by
  simp only [validateIssuanceState, bind_ok, exists_unit, forM_ok, deny_ok, Prod.forall,
    Std.ExtTreeMap.mem_toList_iff_getElem?_eq_some, Maps.mem_values, Bool.and_eq_false_imp, Bool.not_eq_eq_eq_not,
    Bool.not_false, forall_exists_index]
  exact and_congr_right fun _ => forall_comm

variable {id : String} {record : AdminKeyIssuanceRecordV1}

theorem validateIssuanceRecord_ok :
    validateIssuanceRecord state id record = .ok () ↔
      id = record.intent.grant.grantId ∧ record.intent.issuerGrantId = record.issuerAtAcceptance.grantId ∧
        ∃ cur, state.adminKeyGrants[id]? = some cur ∧
          ({ cur with grantState := .active } != record.intent.grant) = false ∧
          evaluateAdminKeyIssuance record.issuerAtAcceptance record.intent.grant record.decidedAt = .ok () := by
  simp only [validateIssuanceRecord, bind_ok, exists_unit, deny_ok, okOr_ok, mapErr_ok, Bool.or_eq_false_iff,
    decide_eq_false_iff_not, not_not, and_assoc]

/-! ## What a completed recovery leaves -/

omit [LedgerHost] in
theorem withRecoveredRoot_tickets {hash : String} {ticket : PairingTicketV1}
    (h : (state.withRecoveredRoot root binding).pairingTickets[hash]? = some ticket) :
    ∃ old, state.pairingTickets[hash]? = some old ∧ ticket = { old with state := .consumed } := by
  have hmap : (state.pairingTickets.map fun _ ticket => { ticket with state := .consumed })[hash]? = some ticket := h
  rw [Std.ExtTreeMap.getElem?_map] at hmap
  obtain ⟨old, hold, heq⟩ := Option.map_eq_some_iff.mp hmap
  exact ⟨old, hold, heq.symm⟩

/-- **The authority after a completed recovery**: one root, which is active and holds the key, every other grant is
revoked and every pairing ticket consumed. -/
structure RootReplaced (state : AuthorityStateV1) (key : RecoveryPublicKeyV1) : Prop where
  root : ∃ (id : String) (grant : AdminKeyGrantV1), state.adminKeyGrants[id]? = some grant ∧ grant.class_ = .recovery ∧
    grant.grantState = .active ∧ grant.publicHalf = key.ed25519 ∧ grant.mlDsa65PublicKey = some key.mlDsa65 ∧
    ∀ (id' : String) (other : AdminKeyGrantV1), state.adminKeyGrants[id']? = some other → id' ≠ id →
      other.class_ ≠ .recovery ∧ other.grantState = .revoked
  tickets : ∀ (hash : String) (ticket : PairingTicketV1), state.pairingTickets[hash]? = some ticket →
    ticket.state = .consumed

theorem StateChecked.onlyRoot (h : StateChecked state) (hroot : state.adminKeyGrants[root.grantId]? = some root)
    (hclass : root.class_ = .recovery)
    (hgrant : state.adminKeyGrants[id]? = some g) (hne : id ≠ root.grantId) : g.class_ ≠ .recovery := by
  intro hrecovery
  obtain ⟨-, hunique, -⟩ := validateAdminAuthorityState_ok.mp h.admin
  exact hne (hunique id root.grantId g root hgrant hroot hrecovery hclass)

theorem RecoveryChecked.replaces (h : RecoveryChecked state command clock root next) :
    RootReplaced { state.withRecoveredRoot root binding with guardianRecovery := some next } binding.rootKey := by
  obtain ⟨hash, hhash, -⟩ := h.evaluated
  obtain ⟨hchk, -⟩ := authorityStateHash_ok.mp hhash
  obtain ⟨hstored, hclass⟩ := h.stored
  refine ⟨⟨recoveredRootId binding, recoveredRoot binding, ?_, rfl, rfl, rfl, rfl, ?_⟩, ?_⟩
  · show (state.withRecoveredRoot root binding).adminKeyGrants[recoveredRootId binding]? = _
    rw [withRecoveredRoot_get, if_pos rfl]
  · intro id other hother hne
    have hother : (state.withRecoveredRoot root binding).adminKeyGrants[id]? = some other := hother
    rcases withRecoveredRoot_cases hother with ⟨hid, -⟩ | ⟨old, hold, hroot, -, rfl⟩
    · exact absurd hid hne
    · have hday : old.class_ ≠ .recovery := hchk.onlyRoot hstored hclass hold hroot
      exact ⟨hday, rfl⟩
  · intro hash ticket hticket
    have hticket : (state.withRecoveredRoot root binding).pairingTickets[hash]? = some ticket := hticket
    obtain ⟨old, -, rfl⟩ := withRecoveredRoot_tickets hticket
    rfl

/-! ## The state after a completed recovery passes its checks -/

omit [LedgerHost] in
theorem idByte_not_whitespace {c : Char} (h : Recovery.idByte c = true) : isWhitespace c = false := by
  have hbounds : 45 ≤ c.toNat ∧ c.toNat ≤ 122 := by
    show 45 ≤ c.val.toNat ∧ c.val.toNat ≤ 122
    simp only [Recovery.idByte, Char.isAlphanum, Char.isAlpha, Char.isUpper, Char.isLower, Char.isDigit, Bool.or_eq_true,
      Bool.and_eq_true, decide_eq_true_eq, beq_iff_eq, UInt32.le_iff_toNat_le, ge_iff_le] at h
    rcases h with (((((⟨hlow, hhigh⟩ | ⟨hlow, hhigh⟩) | ⟨hlow, hhigh⟩) | rfl) | rfl) | rfl) | rfl
    · exact ⟨Nat.le_trans (by decide) hlow, Nat.le_trans hhigh (by decide)⟩
    · exact ⟨Nat.le_trans (by decide) hlow, Nat.le_trans hhigh (by decide)⟩
    · exact ⟨Nat.le_trans (by decide) hlow, Nat.le_trans hhigh (by decide)⟩
    · decide
    · decide
    · decide
    · decide
  simp only [isWhitespace, Bool.or_eq_false_iff, Bool.and_eq_false_imp, decide_eq_true_eq, decide_eq_false_iff_not,
    beq_eq_false_iff_ne, ne_eq]
  omega

omit [LedgerHost] in
theorem recoveredRootId_token (h : Recovery.validateId binding.bindingId = .ok ()) :
    nonEmptyToken (recoveredRootId binding) = true := by
  have hbin : ∀ c ∈ binding.bindingId.toList, Recovery.idByte c = true := by
    simp only [Recovery.validateId, deny_ok, Bool.or_eq_false_iff, Bool.not_eq_eq_eq_not, Bool.not_false,
      List.all_eq_true] at h
    exact h.2
  have hgen : ∀ c ∈ (toString binding.rootGeneration).toList, Recovery.idByte c = true := by
    intro c hc
    have hdig : (toString binding.rootGeneration).toList = Nat.toDigits 10 binding.rootGeneration :=
      String.toList_ofList
    rw [hdig] at hc
    have hdigit := Nat.isDigit_of_mem_toDigits (by decide) (by decide) hc
    simp [Recovery.idByte, Char.isAlphanum, hdigit]
  have hlist : (recoveredRootId binding).toList =
      "recovered:".toList ++ binding.bindingId.toList ++ ":".toList ++ (toString binding.rootGeneration).toList := by
    unfold recoveredRootId recoveredRootGrantStart
    rw [String.toList_append, String.toList_append, String.toList_append]
  have hbytes : ∀ c ∈ (recoveredRootId binding).toList, Recovery.idByte c = true := by
    intro c hc
    rw [hlist, List.mem_append, List.mem_append, List.mem_append] at hc
    rcases hc with ((hc | hc) | hc) | hc
    · exact List.all_eq_true.mp (by decide : "recovered:".toList.all Recovery.idByte = true) c hc
    · exact hbin c hc
    · exact List.all_eq_true.mp (by decide : ":".toList.all Recovery.idByte = true) c hc
    · exact hgen c hc
  have hnonempty : (recoveredRootId binding).isEmpty = false := by
    rw [String.isEmpty_eq_false_iff]
    intro hempty
    rw [hempty] at hlist
    simp at hlist
  unfold nonEmptyToken
  rw [hnonempty, Bool.not_false, Bool.true_and, Bool.not_eq_eq_eq_not, Bool.not_true, List.any_eq_false]
  intro c hc
  rw [idByte_not_whitespace (hbytes c hc)]
  decide

omit [LedgerHost] in
theorem recoveredRoot_shape (h : Recovery.validateId binding.bindingId = .ok ()) :
    adminKeyGrantShapeError (recoveredRoot binding) = none := by
  unfold adminKeyGrantShapeError
  rw [show (recoveredRoot binding).grantId = recoveredRootId binding from rfl, recoveredRootId_token h]
  rfl

theorem withRecoveredRoot_admin (h : StateChecked state) (hroot : state.adminKeyGrants[root.grantId]? = some root)
    (hclass : root.class_ = .recovery) (hid : Recovery.validateId binding.bindingId = .ok ())
    (hadmin : state'.adminKeyGrants = (state.withRecoveredRoot root binding).adminKeyGrants)
    (hpair : state'.pairingTickets = (state.withRecoveredRoot root binding).pairingTickets) :
    validateAdminAuthorityState state' = .ok () := by
  have hday : ∀ (id : String) (old : AdminKeyGrantV1), state.adminKeyGrants[id]? = some old → id ≠ root.grantId →
      old.class_ ≠ .recovery := fun id old hold hne => h.onlyRoot hroot hclass hold hne
  obtain ⟨hgrants, -, htick⟩ := validateAdminAuthorityState_ok.mp h.admin
  rw [validateAdminAuthorityState_ok, hadmin, hpair]
  refine ⟨?_, ?_, ?_⟩
  · intro id g hgrant
    rcases withRecoveredRoot_cases hgrant with ⟨rfl, rfl⟩ | ⟨old, hold, hne, -, rfl⟩
    · exact ⟨rfl, recoveredRoot_shape hid, fun _ => rfl⟩
    · obtain ⟨hid, hshape, -⟩ := hgrants id old hold
      exact ⟨hid, hshape, fun hrecovery => absurd hrecovery (hday id old hold hne)⟩
  · -- only the new root is of the recovery class
    have honly : ∀ (id : String) (g : AdminKeyGrantV1),
        (state.withRecoveredRoot root binding).adminKeyGrants[id]? = some g → g.class_ = .recovery →
          id = recoveredRootId binding := by
      intro id g hgrant hrecovery
      rcases withRecoveredRoot_cases hgrant with ⟨hid, -⟩ | ⟨old, hold, hne, -, rfl⟩
      · exact hid
      · exact absurd hrecovery (hday id old hold hne)
    intro id id' g g' hgrant hgrant' hrecovery hrecovery'
    rw [honly id g hgrant hrecovery, honly id' g' hgrant' hrecovery']
  · intro hash ticket hticket
    obtain ⟨old, hold, rfl⟩ := withRecoveredRoot_tickets hticket
    exact htick hash old hold

omit [LedgerHost] in
theorem sameGrant_class {g' : AdminKeyGrantV1} (h : (g != g') = false) :
    g.class_ = g'.class_ := by
  rw [bne, Bool.not_eq_eq_eq_not, Bool.not_false] at h
  cases g
  cases g'
  have hfields : instBEqAdminKeyGrantV1.beq _ _ = true := h
  simp only [instBEqAdminKeyGrantV1.beq, Bool.and_eq_true, beq_iff_eq] at hfields
  exact hfields.2.2.2.1

theorem issuedGrant_day (h : validateIssuanceRecord state id record = .ok ()) :
    ∃ cur, state.adminKeyGrants[id]? = some cur ∧ cur.class_ = .dayToDay := by
  obtain ⟨-, -, cur, hcur, hsame, heval⟩ := validateIssuanceRecord_ok.mp h
  have hclass : { cur with grantState := .active }.class_ = record.intent.grant.class_ := sameGrant_class hsame
  exact ⟨cur, hcur, hclass.trans (evaluateAdminKeyIssuance_ok heval).dayToDay⟩

theorem withRecoveredRoot_issuance (h : StateChecked state) (hroot : state.adminKeyGrants[root.grantId]? = some root)
    (hclass : root.class_ = .recovery) (hfree : state.adminKeyGrants[recoveredRootId binding]? = none)
    (hadmin : state'.adminKeyGrants = (state.withRecoveredRoot root binding).adminKeyGrants)
    (hissued : state'.adminIssuance = state.adminIssuance) : validateIssuanceState state' = .ok () := by
  obtain ⟨hrec, hceilings⟩ := validateIssuanceState_ok.mp h.issuance
  rw [validateIssuanceState_ok, hadmin, hissued]
  refine ⟨?_, ?_⟩
  · intro id record hrecord
    obtain ⟨cur, hcur, hday⟩ := issuedGrant_day (hrec id record hrecord)
    have hne : root.grantId ≠ id := by
      rintro rfl
      cases hroot.symm.trans hcur
      rw [hclass] at hday
      cases hday
    have hnew : recoveredRootId binding ≠ id := by
      rintro rfl
      cases hfree.symm.trans hcur
    obtain ⟨hid, hissue, cur', hcur', hsame, heval⟩ := validateIssuanceRecord_ok.mp (hrec id record hrecord)
    cases hcur.symm.trans hcur'
    refine validateIssuanceRecord_ok.mpr ⟨hid, hissue, { cur with grantState := .revoked }, ?_, hsame, heval⟩
    rw [hadmin, withRecoveredRoot_get, if_neg hnew, if_neg hne, hcur]
    rfl
  · intro id g hgrant hceiling
    rcases withRecoveredRoot_cases hgrant with ⟨rfl, rfl⟩ | ⟨old, hold, -, -, rfl⟩
    · cases hceiling
    · exact hceilings id old hold hceiling

omit [LedgerHost] in
theorem recoveredRoot_mem (state : AuthorityStateV1) (root : AdminKeyGrantV1) (binding : OwnerBindingV1) :
    recoveredRoot binding ∈ (state.withRecoveredRoot root binding).adminKeyGrants.values := by
  refine Maps.mem_values.mpr ⟨recoveredRootId binding, ?_⟩
  rw [withRecoveredRoot_get, if_pos rfl]

theorem validateGuardianState_of_consistent (hcon : Consistent next)
    (hguardian : state'.guardianRecovery = some next)
    (hcarries : (state'.adminKeyGrants.values.any fun g => g.carriesRoot next.binding.rootKey) = true) :
    validateGuardianState state' = .ok () := by
  have hmaint : (next.pending.isSome && !next.maintenance) = false := by
    cases hpending : next.pending with
    | none => rfl
    | some pending =>
      rw [hcon.maintenance pending hpending]
      rfl
  unfold validateGuardianState
  rw [hguardian]
  simp only [bind_ok, exists_unit, mapErr_ok, deny_ok]
  refine ⟨(Recovery.validateBindings_ok.mp hcon.bindings).1, hcon.accepted, ?_⟩
  rw [hcarries, ← hcon.target, hcon.rootGeneration, hmaint]
  simp

theorem withRecoveredRoot_guardian (hcon : Consistent next) (hguardian : state'.guardianRecovery = some next)
    (hadmin : state'.adminKeyGrants = (state.withRecoveredRoot root next.binding).adminKeyGrants) :
    validateGuardianState state' = .ok () := by
  refine validateGuardianState_of_consistent hcon hguardian ?_
  rw [hadmin]
  refine List.any_eq_true.mpr ⟨recoveredRoot next.binding, recoveredRoot_mem _ _ _, ?_⟩
  simp [AdminKeyGrantV1.carriesRoot, recoveredRoot]

theorem withRecoveredRoot_genesis (h : StateChecked state) (hcur : state.guardianRecovery = some recovery)
    (hgen : 1 < next.binding.rootGeneration)
    (hmother : next.binding.motherNodeId = recovery.binding.motherNodeId)
    (hledger : next.binding.ledgerId = recovery.binding.ledgerId) (hguardian : state'.guardianRecovery = some next)
    (hadmin : state'.adminKeyGrants = (state.withRecoveredRoot root next.binding).adminKeyGrants)
    (hbirth : state'.adminGenesis = state.adminGenesis) : validateGenesisState state' = .ok () := by
  have hgenesis := h.genesis
  unfold validateGenesisState at hgenesis ⊢
  rw [hbirth, hguardian, hadmin]
  cases hborn : state.adminGenesis with
  | none => rfl
  | some genesis =>
    rw [hborn, hcur] at hgenesis
    simp only [bind_ok, exists_unit, okOr_ok, deny_ok, Option.any_some] at hgenesis ⊢
    obtain ⟨hvalid, -, -, -, htarget⟩ := hgenesis
    have hfound : ((state.withRecoveredRoot root next.binding).adminKeyGrants.values.find? fun g =>
        g.class_ == .recovery && g.grantState == .active).isSome = true :=
      List.find?_isSome.mpr ⟨recoveredRoot next.binding, recoveredRoot_mem _ _ _, rfl⟩
    obtain ⟨cur, hfound⟩ := Option.isSome_iff_exists.mp hfound
    refine ⟨hvalid, cur, hfound, ?_, ?_⟩
    · rw [decide_eq_true hgen]
      rfl
    · rw [hmother, hledger]
      exact htarget

theorem RecoveryChecked.completes (h : RecoveryChecked state command clock root next)
    {aps : List GuardianRecoveryApprovalV1} (hcur : state.guardianRecovery = some recovery)
    (hcon : Consistent recovery) (hcommand : command.action = .complete aps)
    (hfree : state.adminKeyGrants[recoveredRootId next.binding]? = none) :
    StateChecked { state.withRecoveredRoot root next.binding with guardianRecovery := some next } := by
  obtain ⟨hash, hhash, heval⟩ := h.evaluated
  obtain ⟨hchk, -⟩ := authorityStateHash_ok.mp hhash
  obtain ⟨hstored, hclass⟩ := h.stored
  rw [hcur] at heval
  have hnext : Consistent next :=
    Recovery.consistent_of_evaluate (fun s hs => (Option.some.inj hs) ▸ hcon) heval
  have heff := RootEffect.of_evaluate heval
  rw [hcommand] at heff
  obtain ⟨⟩ | ⟨_, pending, -, hbin, -, -⟩ | ⟨hinc⟩ := heff
  · have hpol := (Recovery.validateBindings_ok.mp hnext.bindings).1
    rw [Recovery.validatePolicy, ← hnext.target] at hpol
    have hid : Recovery.validateId next.binding.bindingId = .ok () := by
      simp only [Recovery.validateBinding, bind_ok, exists_unit, forM_ok] at hpol
      exact hpol.1.1 _ (by simp)
    have hgen : 1 < next.binding.rootGeneration := by
      have hcount := hcon.rootGeneration
      rw [hbin]
      show 1 < recovery.binding.rootGeneration + 1
      omega
    have hmother : next.binding.motherNodeId = recovery.binding.motherNodeId := by
      rw [hbin]
      rfl
    have hledger : next.binding.ledgerId = recovery.binding.ledgerId := by
      rw [hbin]
      rfl
    have hunmanaged : state.passkeyAdmin.isSome = true → False := by
      intro hpasskey
      have hnone := (hchk.unmixed hpasskey).2.1
      rw [hcur] at hnone
      cases hnone
    exact ⟨hchk.watch, withRecoveredRoot_admin hchk hstored hclass hid rfl rfl,
      withRecoveredRoot_guardian hnext rfl rfl, withRecoveredRoot_issuance hchk hstored hclass hfree rfl rfl,
      withRecoveredRoot_genesis hchk hcur hgen hmother hledger rfl rfl rfl,
      fun hpasskey => (hunmanaged hpasskey).elim⟩
  · cases hinc

/-! ## Replayed states -/

variable {chs : List AuthorityChangeV1}

theorem foldChanges_guardian
    (h : chs.foldlM applyOrdinaryChange state = .ok state') : state'.guardianRecovery = state.guardianRecovery := by
  induction chs generalizing state with
  | nil =>
    cases h
    rfl
  | cons ch chs ih =>
    rw [List.foldlM_cons] at h
    obtain ⟨middle, hstep, hrest⟩ := bind_ok.mp h
    rw [ih hrest, (applyOrdinaryChange_step hstep).2]

structure EnrolledWell (state : AuthorityStateV1) (recovery : GuardianRecoveryStateV1) : Prop where
  consistent : Consistent recovery
  checked : StateChecked state

theorem applyAuthorityChanges_consistent (h : applyAuthorityChanges state chs = .ok state')
    (hbefore : ∀ recovery, state.guardianRecovery = some recovery → Consistent recovery) :
    ∀ recovery, state'.guardianRecovery = some recovery → Consistent recovery := by
  intro recovery hrecovery
  obtain ⟨-, ⟨req, t, -, hissue⟩ | ⟨command, clock, -, hcommand⟩ | ⟨-, hnone, -, -, hfold⟩⟩ :=
    applyAuthorityChanges_ok h
  · obtain ⟨issuer, -, rfl⟩ := applyAdminKeyIssue_ok hissue
    exact hbefore recovery hrecovery
  · obtain ⟨root, next, _, hchk, -, -, rfl⟩ := applyGuardianRecovery_ok.mp hcommand
    obtain ⟨hash, -, heval⟩ := hchk.evaluated
    have hnext : next = recovery := Option.some.inj hrecovery
    exact hnext ▸ Recovery.consistent_of_evaluate hbefore heval
  · rw [foldChanges_guardian hfold, hnone] at hrecovery
    cases hrecovery

/-- **An enrolled state of a replayed ledger is consistent and passes every check.** -/
theorem Replayed.enrolledWell (h : Replayed entries replay usedEpochs) :
    ∀ recovery, replay.state.guardianRecovery = some recovery → EnrolledWell replay.state recovery := by
  refine h.stateInduction (fun s => ∀ recovery, s.guardianRecovery = some recovery → EnrolledWell s recovery) ?_ ?_
  · intro recovery hrecovery
    cases hrecovery
  intro l r u e s fact hr ih hstep
  cases hstep with
  | plain hstate => exact hstate ▸ ih
  | passkey fact next htransition hstate =>
    rw [hstate]
    intro recovery hrecovery
    have hrecovery : r.state.guardianRecovery = some recovery := hrecovery
    -- a passkey ledger has no guardian recovery
    exfalso
    unfold passkeyTransition at htransition
    cases hpasskey : r.state.passkeyAdmin with
    | some prior =>
      have hnone := ((ih recovery hrecovery).checked.unmixed (by rw [hpasskey]; rfl)).2.1
      rw [hrecovery] at hnone
      cases hnone
    | none =>
      rw [hpasskey] at htransition
      obtain ⟨_, -, hempty, -⟩ := passkeyOrigin_ok.mp htransition
      rw [hempty] at hrecovery
      cases hrecovery
  | genesis fact _ hempty _ hstate =>
    intro recovery hrecovery
    rw [hstate] at hrecovery
    have hrecovery : r.state.guardianRecovery = some recovery := hrecovery
    rw [hempty] at hrecovery
    cases hrecovery
  | epoch fact hash _ hstate => exact hstate ▸ ih
  | mutation fact hvalid =>
    obtain ⟨_, _, _, _, -, -, -, -, -, -, happ, hres, -⟩ := validateAuthorityMutationFact_ok.mp hvalid
    intro recovery hrecovery
    exact ⟨applyAuthorityChanges_consistent happ (fun cur hc => (ih cur hc).consistent) recovery hrecovery,
      (authorityStateHash_ok.mp hres).1⟩
  | «import» fact hvalid _ _ hstate =>
    intro recovery hrecovery
    obtain ⟨_, _, _, -, huntyped, -⟩ := validateLegacyImportFact_ok.mp hvalid
    rw [hstate] at hrecovery
    simp [AuthorityStateV1.typedAuthority, hrecovery] at huntyped

theorem StateChecked.rooted (h : StateChecked state) (hrecovery : state.guardianRecovery = some recovery) :
    ∃ root, state.adminKeyGrants.values.find? (fun g => g.class_ == .recovery) = some root := by
  have hguardian := h.guardian
  simp only [validateGuardianState, hrecovery, bind_ok, exists_unit, deny_ok, Bool.or_eq_false_iff,
    Bool.not_eq_eq_eq_not, Bool.not_false, List.any_eq_true] at hguardian
  obtain ⟨-, -, -, g, hmem, hcarries⟩ := hguardian
  simp only [AdminKeyGrantV1.carriesRoot, Bool.and_eq_true] at hcarries
  exact Option.isSome_iff_exists.mp (List.find?_isSome.mpr ⟨g, hmem, hcarries.1.1.1⟩)

/-- **The only obstacle to a completed recovery is a grant under the id of its root.**  In an enrolled state with a
pending recovery, a `complete` that the evaluator accepts with the current hash, at a time not behind the ledger, is
applied and leaves the replaced authority exactly when that id is free. -/
theorem recovery_completes_iff {pending : PendingGuardianRecoveryV1} (h : replayAuthorityEntries entries = .ok replay)
    (hrecovery : replay.state.guardianRecovery = some recovery) (hpending : recovery.pending = some pending) :
    ∃ hash, authorityStateHash replay.state = .ok hash ∧ ∀ command clock approvals next,
      command.action = .complete approvals → checkRecoveryClock replay.state clock = .ok () →
      Recovery.evaluateGuardianRecovery replay.state.guardianRecovery command clock hash = .ok next →
      ((∃ state', applyGuardianRecovery replay.state command clock = .ok state' ∧
          RootReplaced state' pending.request.intent.replacementKey) ↔
        replay.state.adminKeyGrants[recoveredRootId next.binding]? = none) := by
  obtain ⟨used, h⟩ := replayAuthorityEntries_ok.mp h
  obtain ⟨hcon, hchk⟩ := h.enrolledWell recovery hrecovery
  have hhash : authorityStateHash replay.state = .ok _ := authorityStateHash_ok.mpr ⟨hchk, rfl⟩
  refine ⟨_, hhash, ?_⟩
  intro command clock approvals next hcommand hclock heval
  have hcomp : completesRecovery command.action = true := by
    rw [hcommand]
    rfl
  constructor
  · rintro ⟨state', happ, -⟩
    obtain ⟨root, next', _, ⟨-, -, -, hash', hhash', heval'⟩, hfree, -, -⟩ := applyGuardianRecovery_ok.mp happ
    cases hhash.symm.trans hhash'
    cases heval.symm.trans heval'
    exact hfree hcomp
  · intro hfree
    obtain ⟨root, hroot⟩ := hchk.rooted hrecovery
    have hcredential : checkRecoveryCredentials replay.state root command.action = .ok () := by
      rw [hcommand]
      rfl
    have hcommand' : RecoveryChecked replay.state command clock root next :=
      ⟨hclock, hroot, hcredential, _, hhash, heval⟩
    have hstate : replay.state.recovered command root next =
        { replay.state.withRecoveredRoot root next.binding with guardianRecovery := some next } := by
      unfold AuthorityStateV1.recovered
      rw [if_pos hcomp]
    have hafter := hcommand'.completes hrecovery hcon hcommand hfree
    refine ⟨replay.state.recovered command root next, applyGuardianRecovery_ok.mpr ⟨root, next, _, hcommand',
      fun _ => hfree, authorityStateHash_ok.mpr ⟨hstate ▸ hafter, rfl⟩, rfl⟩, ?_⟩
    rw [hrecovery] at heval
    have heff := RootEffect.of_evaluate heval
    rw [hcommand] at heff
    obtain ⟨⟩ | ⟨_, pending', hpending', hbin, -, -⟩ | ⟨hinc⟩ := heff
    · cases hpending.symm.trans hpending'
      have hkey : next.binding.rootKey = pending.request.intent.replacementKey := by
        rw [hbin]
        rfl
      rw [hstate, ← hkey]
      exact hcommand'.replaces
    · cases hinc

end Mct

namespace Mct.RecoverySample

open Checked
open Recovery
open Recovery.Sample (key node second signature)

/-! The enrollment, the request and the commands of one recovery, with the digests of the host at hand.  Nothing is computed
from a digest, so the run holds for BLAKE3. -/

variable [KernelHost]

/-- A host that finds no key weak and accepts every hybrid signature. -/
structure Permissive : Prop where
  strong : ∀ ed, KernelHost.isWeak ed = false
  signed : ∀ half pq message signature, KernelHost.verifyAdminHybridSignature half pq message signature = .ok ()

/-! ### Records -/

def voice : VoiceIdV1 := ⟨KernelHost.blake3 (transcript "mct-voice-genesis/v1" (.genesisKey (key 0)))⟩

def ownerBinding (epoch : String) (n : Nat) : OwnerBindingV1 := ⟨node n, "l", epoch, "owner", voice, 1, key (n + 1)⟩

def guardian (n : Nat) : RecoveryGuardianV1 := ⟨node n, "owner", 1, voice, key (n + 10)⟩

def policy (epoch : String) : GuardianRecoveryPolicyV1 :=
  ⟨1, ownerBinding epoch 0, #v[guardian 1, guardian 2, guardian 3]⟩

def enrollment (epoch : String) : GuardianEnrollmentV1 :=
  ⟨⟨key 0, signature⟩, policy epoch, #v[ownerBinding epoch 1, ownerBinding epoch 2, ownerBinding epoch 3], signature,
    signature, .replicate 3 signature, .replicate 3 signature⟩

def request (epoch : String) : RecoveryRequestV1 :=
  ⟨⟨"r", ownerBinding epoch 0, 1, digest "mct-guardian-policy/v1" (.policy (policy epoch)), key 20, second 0,
    second 172800⟩, signature⟩

def approvals (n : Nat) : List GuardianRecoveryApprovalV1 :=
  [⟨node 1, second n, second (n + 300), signature⟩, ⟨node 2, second n, second (n + 300), signature⟩]

def clockAt (epoch : String) (n : Nat) : RecoveryClockV1 := ⟨epoch, second n, n * 1000⟩

structure Permits (epoch : String) : Prop extends Permissive where
  named : validateId epoch = .ok ()

variable {epoch : String}

/-! ### Checks -/

theorem key_valid (h : Permits epoch) (k : RecoveryPublicKeyV1) : validateKey k = .ok () := by
  obtain ⟨⟨ed⟩, pq⟩ := k
  exact deny_ok.mpr (h.strong ed)

theorem signature_valid (h : Permits epoch) (k : RecoveryPublicKeyV1) (message : List UInt8) (s : RecoverySignatureV1) :
    verifySignature k message s = .ok () := by
  unfold verifySignature
  rw [key_valid h, ok_bind, h.signed]

omit [KernelHost] in
theorem ids_valid : validateId "l" = .ok () ∧ validateId "owner" = .ok () ∧ validateId "r" = .ok () ∧
    validateId "challenge" = .ok () ∧ ∀ n < 4, validateId (node n).value = .ok () := by
  refine ⟨by decide, by decide, by decide, by decide, ?_⟩
  intro n hn
  interval_cases n <;> decide

theorem binding_valid (h : Permits epoch) {n : Nat} (hn : n < 4) :
    validateBinding (ownerBinding epoch n) = .ok () := by
  simp only [validateBinding, bind_ok, exists_unit, forM_ok, deny_ok, List.forall_mem_cons]
  exact ⟨⟨ids_valid.2.2.2.2 n hn, ids_valid.1, h.named, ids_valid.2.1, by simp⟩, rfl, key_valid h _⟩

theorem guardian_valid (h : Permits epoch) {prior : List RecoveryGuardianV1} {n : Nat} (hn : n < 4)
    (hclash : (((guardian n).motherNodeId = (ownerBinding epoch 0).motherNodeId ||
      sharesKeyHalf (guardian n).signingKey (ownerBinding epoch 0).rootKey ||
      prior.any fun p => p.motherNodeId = (guardian n).motherNodeId ||
        sharesKeyHalf p.signingKey (guardian n).signingKey)) = false)
    (horder : (prior.getLast?.any fun p => decide (¬ p.motherNodeId.value < (guardian n).motherNodeId.value)) = false) :
    validateGuardian (ownerBinding epoch 0) prior (guardian n) = .ok () := by
  simp only [validateGuardian, bind_ok, exists_unit, deny_ok]
  refine ⟨ids_valid.2.2.2.2 n hn, ids_valid.2.1, key_valid h _, rfl, ?_, hclash, horder⟩
  simp [guardian, ownerBinding]

theorem policy_valid (h : Permits epoch) : validatePolicy (policy epoch) = .ok () := by
  simp only [validatePolicy, bind_ok, exists_unit, deny_ok]
  refine ⟨binding_valid h (by decide), rfl, ?_⟩
  show eachWithPrior (validateGuardian (ownerBinding epoch 0)) [] [guardian 1, guardian 2, guardian 3] = _
  simp only [eachWithPrior, bind_ok, exists_unit]
  have hsecond : (node 1).value < (node 2).value := by decide
  have hthird : (node 2).value < (node 3).value := by decide
  refine ⟨guardian_valid h (by decide) rfl rfl, guardian_valid h (by decide) rfl ?_,
    guardian_valid h (by decide) rfl ?_, trivial⟩
  · simpa [guardian] using hsecond
  · simpa [guardian] using hthird

theorem acceptance_valid (h : Permits epoch) {message : List UInt8}
    {s s' : RecoverySignatureV1} {n : Nat} (hn : n < 4) :
    verifyAcceptance (policy epoch) message (guardian n, ownerBinding epoch n, s, s') = .ok () := by
  simp only [verifyAcceptance, bind_ok, exists_unit, deny_ok, decide_eq_false_iff_not, not_or, not_not]
  exact ⟨binding_valid h hn, ⟨rfl, rfl, rfl, rfl⟩, signature_valid h _ _ _, signature_valid h _ _ _⟩

theorem enrollment_valid (h : Permits epoch) : (enrollment epoch).verify = .ok () := by
  simp only [GuardianEnrollmentV1.verify, VoiceGenesisV1.verify, genesisMessage, bind_ok, exists_unit, deny_ok, pure_ok,
    decide_eq_false_iff_not, not_or, not_not, forM_ok]
  refine ⟨policy_valid h, voice, ⟨_, ⟨key_valid h _, rfl⟩, signature_valid h _ _ _, rfl⟩, rfl, ⟨rfl, rfl⟩,
    signature_valid h _ _ _, signature_valid h _ _ _, ?_, ?_⟩
  · intro item hitem
    have hitem : item ∈ [(guardian 1, ownerBinding epoch 1, signature, signature),
      (guardian 2, ownerBinding epoch 2, signature, signature),
      (guardian 3, ownerBinding epoch 3, signature, signature)] := hitem
    simp only [List.mem_cons, List.not_mem_nil, or_false] at hitem
    rcases hitem with rfl | rfl | rfl
    · exact acceptance_valid h (by decide)
    · exact acceptance_valid h (by decide)
    · exact acceptance_valid h (by decide)
  · show denyClash sharesKeyHalf .duplicatePrincipal [key 0, key 1, key 2, key 11, key 3, key 12, key 4, key 13] = _
    decide

theorem request_valid (h : Permits epoch) :
    validateIntentShape (request epoch).intent = .ok () := by
  simp only [validateIntentShape, validateInterval, bind_ok, exists_unit, deny_ok, okOr_ok]
  exact ⟨ids_valid.2.2.1, binding_valid h (by decide), key_valid h _, rfl, _, rfl, rfl⟩

theorem intent_valid (h : Permits epoch) :
    validateIntentPolicy (request epoch).intent (policy epoch) = .ok () := by
  simp only [validateIntentPolicy, GuardianRecoveryPolicyV1.digest, bind_ok, exists_unit, deny_ok, pure_ok,
    decide_eq_false_iff_not, not_or, not_not]
  exact ⟨request_valid h, ⟨rfl, rfl⟩, _, ⟨policy_valid h, rfl⟩, rfl, rfl⟩

/-! ### The quorum -/

structure Timely (n t : Nat) : Prop where
  interval : validateInterval (second n) (second (n + 300)) approvalMaxMs = .ok ()
  within : decide (second n < second 0 ∨ second 172800 < second (n + 300)) = false
  now : decide (second t < second n ∨ second (n + 300) ≤ second t) = false
  open_ : decide (second t < second 0 ∨ second 172800 ≤ second t) = false

theorem approval_message (h : Permits epoch) {purpose : RecoveryApprovalPurposeV1}
    (hpurpose : validatePurpose purpose = .ok ()) {n t g : Nat} (htime : Timely n t)
    (hg : (policy epoch).guardian? (node g) = some (guardian g)) :
    ∃ message, approvalMessage ⟨policy epoch, (request epoch).intent, purpose, node g, second n, second (n + 300)⟩ =
      .ok message := by
  simp only [approvalMessage, GuardianRecoveryPolicyV1.digest, RecoveryIntentV1.digest, bind_ok, exists_unit, deny_ok,
    okOr_ok, pure_ok]
  exact ⟨_, intent_valid h, hpurpose, htime.interval, htime.within, guardian g, hg, _,
    ⟨policy_valid h, rfl⟩, _, ⟨request_valid h, rfl⟩, rfl⟩

theorem quorum_verified (h : Permits epoch) (purpose : RecoveryApprovalPurposeV1)
    (hpurpose : validatePurpose purpose = .ok ()) {n t : Nat} (htime : Timely n t) :
    ∃ evidence, verifyRecoveryQuorum (ownerBinding epoch 0) (policy epoch) (request epoch) purpose (approvals n)
      (second t) = .ok evidence := by
  have hfirst : (policy epoch).guardian? (node 1) = some (guardian 1) := rfl
  have hsecond : (policy epoch).guardian? (node 2) = some (guardian 2) := rfl
  obtain ⟨message₁, hmessage₁⟩ := approval_message h hpurpose htime hfirst
  obtain ⟨message₂, hmessage₂⟩ := approval_message h hpurpose htime hsecond
  have hloop : ∃ result, verifyApprovals (policy epoch) (request epoch).intent purpose (second t) []
      (request epoch).intent.expiresAt (approvals n) = .ok result := by
    unfold approvals
    simp only [verifyApprovals, bind_ok, exists_unit, deny_ok, okOr_ok]
    exact ⟨_, rfl, htime.now, message₁, hmessage₁, guardian 1, hfirst, signature_valid h _ _ _, rfl, htime.now, message₂,
      hmessage₂, guardian 2, hsecond, signature_valid h _ _ _, rfl⟩
  obtain ⟨result, hres⟩ := hloop
  simp only [verifyRecoveryQuorum, RecoveryIntentV1.signingMessage, GuardianRecoveryPolicyV1.digest,
    RecoveryIntentV1.digest, bind_ok, exists_unit, deny_ok, pure_ok, decide_eq_false_iff_not, not_not]
  exact ⟨_, policy_valid h, rfl, intent_valid h, hpurpose, of_decide_eq_false htime.open_, by simp [approvals], _,
    ⟨request_valid h, rfl⟩, signature_valid h _ _ _, result, hres, _, ⟨request_valid h, rfl⟩, _,
    ⟨policy_valid h, rfl⟩, rfl⟩

/-! ### The run -/

def enrolled (epoch : String) : GuardianRecoveryStateV1 := enrolledState (enrollment epoch) (clockAt epoch 3)

def initiated (epoch : String) : GuardianRecoveryStateV1 :=
  { enrolled epoch with
    revision := 2
    clock := clockAt epoch 10
    consumedRequestIds := (∅ : TextSet).insert "r"
    pending := some ⟨request epoch, clockAt epoch 10, second 172800, none⟩
    maintenance := true }

def challenge : RecoveryChallengeV1 :=
  ⟨"challenge", second 86500, ⟨KernelHost.displayTimestamp (second 87100).epochNanoseconds, (second 87100).epochNanoseconds⟩⟩

def challenged (epoch : String) : GuardianRecoveryStateV1 :=
  { initiated epoch with
    revision := 3
    clock := clockAt epoch 86500
    consumedChallenges := (∅ : TextSet).insert "challenge"
    pending := some ⟨request epoch, clockAt epoch 10, second 172800, some challenge⟩ }

def recovered (epoch : String) : GuardianRecoveryStateV1 :=
  { challenged epoch with
    revision := 4
    clock := clockAt epoch 86510
    retiredRootKeys := [key 1]
    binding := (ownerBinding epoch 0).withRoot 2 (key 20)
    policy := { policy epoch with target := (ownerBinding epoch 0).withRoot 2 (key 20), generation := 2 }
    pending := none }

theorem evaluate_enroll (h : Permits epoch) (snap : String) :
    evaluateGuardianRecovery none ⟨none, .enroll (enrollment epoch)⟩ (clockAt epoch 3) snap =
      .ok (enrolled epoch) := by
  simp only [evaluateGuardianRecovery, bind_ok, exists_unit, deny_ok, pure_ok, decide_eq_false_iff_not, not_not]
  exact ⟨h.named, rfl, enrollment_valid h, rfl⟩

omit [KernelHost] in
theorem waited {n m : Nat} (h : n * 1000 + delayMs ≤ m * 1000) :
    decide ((clockAt epoch n).writerEpoch ≠ (clockAt epoch m).writerEpoch ∨
      (clockAt epoch m).monotonicMs < (clockAt epoch n).monotonicMs ∨
      (clockAt epoch m).monotonicMs - (clockAt epoch n).monotonicMs < delayMs) = false := by
  rw [decide_eq_false_iff_not]
  rintro (hne | hlt | hshort)
  · exact hne rfl
  · have hlt : m * 1000 < n * 1000 := hlt
    omega
  · have hshort : m * 1000 - n * 1000 < delayMs := hshort
    omega

theorem evaluate_same (cur next : GuardianRecoveryStateV1) {act : GuardianRecoveryActionV1} {n : Nat}
    {snap : String} (hepoch : validateId epoch = .ok ()) (hsame : cur.clock.writerEpoch = epoch)
    (hwall : decide (second n < cur.clock.wallTime) = false)
    (hmon : cur.clock.monotonicMs ≤ n * 1000) (hrev : cur.revision + 1 < 2 ^ 64)
    (happ : applyAction cur { cur with revision := cur.revision + 1 } (clockAt epoch n) snap false
      act = .ok next) :
    evaluateGuardianRecovery (some cur) ⟨some cur.digest, act⟩ (clockAt epoch n) snap =
      .ok { next with clock := clockAt epoch n } := by
  have htenure : decide ((clockAt epoch n).writerEpoch ≠ cur.clock.writerEpoch) = false := by
    rw [hsame]
    simp [clockAt]
  simp only [evaluateGuardianRecovery, bind_ok, exists_unit, deny_ok, okOr_ok, pure_ok, checkedAdd_some, htenure,
    Option.map_some]
  refine ⟨hepoch, by simp, ?_, _, ⟨hrev, rfl⟩, next, happ, rfl⟩
  show (decide (second n < cur.clock.wallTime) || (!false && decide (n * 1000 < cur.clock.monotonicMs)) ||
    (false && _)) = false
  rw [hwall, decide_eq_false (Nat.not_lt.mpr hmon)]
  rfl

theorem evaluate_initiate (h : Permits epoch) (snapshot : String) :
    evaluateGuardianRecovery (some (enrolled epoch))
        ⟨some (enrolled epoch).digest, .initiate (request epoch) (approvals 10)⟩ (clockAt epoch 10) snapshot =
      .ok (initiated epoch) := by
  obtain ⟨evidence, hquorum⟩ := quorum_verified h .initiate rfl (⟨rfl, rfl, rfl, rfl⟩ : Timely 10 10)
  refine evaluate_same (enrolled epoch) { initiated epoch with clock := clockAt epoch 3 } h.named rfl rfl
    (by norm_num : 3 * 1000 ≤ 10 * 1000) (by norm_num : 1 + 1 < 2 ^ 64) ?_
  show initiate _ _ _ _ = _
  simp only [initiate, checkedDeadline, bind_ok, exists_unit, deny_ok, okOr_ok, pure_ok]
  exact ⟨rfl, rfl, evidence, hquorum, _, rfl, _, rfl, rfl, rfl⟩

theorem evaluate_challenge (h : Permits epoch) (snap : String) :
    evaluateGuardianRecovery (some (initiated epoch)) ⟨some (initiated epoch).digest, .issueChallenge "challenge"⟩
        (clockAt epoch 86500) snap = .ok (challenged epoch) := by
  refine evaluate_same (initiated epoch) { challenged epoch with clock := clockAt epoch 10 } h.named rfl rfl
    (by norm_num : 10 * 1000 ≤ 86500 * 1000) (by norm_num : 2 + 1 < 2 ^ 64) ?_
  show issueChallenge _ _ _ = _
  simp only [issueChallenge, waitFinished, delayElapsed, checkedDeadline, bind_ok, exists_unit, deny_ok, okOr_ok, pure_ok]
  exact ⟨ids_valid.2.2.2.1, _, rfl, ⟨⟨waited (by norm_num [delayMs]), _, rfl, rfl⟩, rfl⟩, rfl, _, rfl, rfl⟩

theorem evaluate_complete (h : Permits epoch) (snapshot : String) :
    evaluateGuardianRecovery (some (challenged epoch)) ⟨some (challenged epoch).digest, .complete (approvals 86505)⟩
        (clockAt epoch 86510) snapshot = .ok (recovered epoch) := by
  obtain ⟨evidence, hquorum⟩ := quorum_verified h (.complete "challenge") ids_valid.2.2.2.1
    (⟨rfl, rfl, rfl, rfl⟩ : Timely 86505 86510)
  refine evaluate_same (challenged epoch) { recovered epoch with clock := clockAt epoch 86500 } h.named rfl rfl
    (by norm_num : 86500 * 1000 ≤ 86510 * 1000) (by norm_num : 3 + 1 < 2 ^ 64) ?_
  show complete _ _ _ = _
  simp only [complete, waitFinished, delayElapsed, bind_ok, exists_unit, deny_ok, okOr_ok, pure_ok, checkedAdd_some]
  exact ⟨_, rfl, ⟨⟨waited (by norm_num [delayMs]), _, rfl, rfl⟩, rfl⟩, challenge, rfl, rfl, evidence, hquorum, _,
    ⟨(by norm_num : 1 + 1 < 2 ^ 64), rfl⟩, _, ⟨(by norm_num : 1 + 1 < 2 ^ 64), rfl⟩, rfl⟩

end Mct.RecoverySample

namespace Mct.HeldSample

open Recovery (GuardianRecoveryStateV1 GuardianRecoveryCommandV1 validateId)
open Recovery.Sample (second key)
open AdminSample (strictRoot)
open Sample (Ledger nextEntry hostOf hostOf_serde stateHash stateHash_of_checked writtenFact epoch epochFact epochIdentity
  epoch_ledger epoch_admitted mutation_ledger)
open RecoverySample

/-! ## A ledger in which the id of the recovered root is taken -/

section Records

local instance : KernelHost := { Recovery.Sample.host with blake3 := Blake3.hash }

/-- A day key under the id that the completed recovery of `owner` gives its root. -/
def squatter : AdminKeyGrantV1 :=
  ⟨"recovered:owner:2", (key 30).ed25519, none, .dayToDay, [.status], some (second 9), .active, none⟩

def putRequest : AuthorityMutationRequestV1 where
  mutationId := "put-grants"
  changes := [.adminKeyGrantPut squatter none, .adminKeyGrantPut strictRoot none]
  grantShapingSources := [.operatorDecision "d" "p" .grantChange]
  decidedAt := (second 1).value

def recoveryRequest (id : String) (command : GuardianRecoveryCommandV1) (n : Nat) : AuthorityMutationRequestV1 where
  mutationId := id
  changes := [.guardianRecovery command (clockAt epoch n)]
  grantShapingSources := [.operatorDecision "d" "p" .grantChange]
  decidedAt := (second n).value

def rootedState : AuthorityStateV1 :=
  { AuthorityStateV1.empty with
    adminKeyGrants := ((∅ : TextMap AdminKeyGrantV1).insert "recovered:owner:2" squatter).insert "root" strictRoot }

def guardedState (recovery : GuardianRecoveryStateV1) : AuthorityStateV1 :=
  { rootedState with guardianRecovery := some recovery }

def enroll : AuthorityMutationRequestV1 := recoveryRequest "enroll" ⟨none, .enroll (enrollment epoch)⟩ 3

def initiate : AuthorityMutationRequestV1 :=
  recoveryRequest "initiate" ⟨some (enrolled epoch).digest, .initiate (request epoch) (approvals 10)⟩ 10

def issueChallenge : AuthorityMutationRequestV1 :=
  recoveryRequest "challenge" ⟨some (initiated epoch).digest, .issueChallenge "challenge"⟩ 86500

def complete : GuardianRecoveryCommandV1 := ⟨some (challenged epoch).digest, .complete (approvals 86505)⟩

def putFact : AuthorityMutationFactV1 := writtenFact epochIdentity putRequest .empty rootedState

def enrollFact : AuthorityMutationFactV1 :=
  writtenFact putFact.resultingState.grantsAuthority enroll rootedState (guardedState (enrolled epoch))

def initiateFact : AuthorityMutationFactV1 :=
  writtenFact enrollFact.resultingState.grantsAuthority initiate (guardedState (enrolled epoch))
    (guardedState (initiated epoch))

def challengeFact : AuthorityMutationFactV1 :=
  writtenFact initiateFact.resultingState.grantsAuthority issueChallenge (guardedState (initiated epoch))
    (guardedState (challenged epoch))

end Records

noncomputable scoped instance : LedgerHost :=
  hostOf { epochs := [epochFact], mutations := [putFact, enrollFact, initiateFact, challengeFact] }

theorem serde : SerdeRoundTrip := hostOf_serde (by decide +kernel)

theorem epoch_valid : validateId epoch = .ok () := by decide +kernel

theorem host_permits : Permits epoch := ⟨⟨fun _ => rfl, fun _ _ _ _ => rfl⟩, epoch_valid⟩

theorem recoveries_consistent : Recovery.Consistent (enrolled epoch) ∧ Recovery.Consistent (initiated epoch) ∧
    Recovery.Consistent (challenged epoch) := by
  have henrolled : Recovery.Consistent (enrolled epoch) := by
    refine Recovery.consistent_of_evaluate ?_ (evaluate_enroll host_permits "")
    intro current hnone
    cases hnone
  have hinit := Recovery.consistent_of_evaluate (fun current h => Option.some.inj h ▸ henrolled)
    (evaluate_initiate host_permits "")
  exact ⟨henrolled, hinit, Recovery.consistent_of_evaluate (fun current h => Option.some.inj h ▸ hinit)
    (evaluate_challenge host_permits "")⟩

theorem rootedState_checked : StateChecked rootedState := ⟨rfl, rfl, rfl, rfl, rfl, nofun⟩

theorem guardedState_checked {recovery : GuardianRecoveryStateV1} (h : Recovery.Consistent recovery)
    (hroot : recovery.binding.rootKey = key 1) : StateChecked (guardedState recovery) := by
  refine ⟨rfl, rfl, validateGuardianState_of_consistent h rfl ?_, rfl, rfl, nofun⟩
  rw [hroot]
  rfl

theorem recovery_applies {s : AuthorityStateV1} {cmd : GuardianRecoveryCommandV1} {n : Nat}
    (next : GuardianRecoveryStateV1) (hstate : s = { rootedState with guardianRecovery := s.guardianRecovery })
    (hchk : StateChecked s) (hcredential : checkRecoveryCredentials s strictRoot cmd.action = .ok ())
    (hinc : completesRecovery cmd.action = false)
    (heval : ∀ snap, Recovery.evaluateGuardianRecovery s.guardianRecovery cmd (clockAt ep n) snap =
      .ok next) (hres : StateChecked (guardedState next)) :
    applyAuthorityChanges s [.guardianRecovery cmd (clockAt ep n)] = .ok (guardedState next) := by
  have happ : applyAuthorityChanges s [.guardianRecovery cmd (clockAt ep n)] =
      applyGuardianRecovery s cmd (clockAt ep n) := by
    rw [hstate]
    rfl
  have hclock : checkRecoveryClock s (clockAt ep n) = .ok () := by
    rw [hstate]
    rfl
  have hroot : s.adminKeyGrants.values.find? (fun g => g.class_ == .recovery) = some strictRoot := by
    rw [hstate]
    rfl
  have hafter : s.recovered cmd strictRoot next = guardedState next := by
    unfold AuthorityStateV1.recovered
    rw [hinc, hstate]
    rfl
  have hhash : authorityStateHash (s.recovered cmd strictRoot next) = .ok (stateHash (guardedState next)) := by
    rw [hafter]
    exact stateHash_of_checked hres
  rw [happ, ← hafter]
  refine applyGuardianRecovery_ok.mpr ⟨strictRoot, next, _, ⟨hclock, hroot, hcredential, _, stateHash_of_checked hchk,
    heval _⟩, ?_, hhash, rfl⟩
  intro hcomp
  rw [hinc] at hcomp
  cases hcomp

noncomputable def epochLedger : List MctObservationLedgerEntry := [nextEntry [] (epochFact.observation (second 0)) (second 0)]

noncomputable def rootedLedger : List MctObservationLedgerEntry :=
  epochLedger ++ [nextEntry epochLedger (putFact.observation (second 1)) (second 1)]

noncomputable def enrolledLedger : List MctObservationLedgerEntry :=
  rootedLedger ++ [nextEntry rootedLedger (enrollFact.observation (second 3)) (second 3)]

noncomputable def initiatedLedger : List MctObservationLedgerEntry :=
  enrolledLedger ++ [nextEntry enrolledLedger (initiateFact.observation (second 10)) (second 10)]

noncomputable def challengedLedger : List MctObservationLedgerEntry :=
  initiatedLedger ++ [nextEntry initiatedLedger (challengeFact.observation (second 86500)) (second 86500)]

theorem rootedLedger_replays : ∃ r nonces grants,
    Ledger rootedLedger r putFact.resultingState.grantsAuthority rootedState ["put-grants"] nonces grants := by
  obtain ⟨r, h, -⟩ := epoch_ledger serde (second 0) epoch_admitted
  obtain ⟨r', h'⟩ := mutation_ledger serde putRequest (second 1) h rfl (fun _ _ => rfl) rfl (fun _ _ => rfl) rfl
    rootedState_checked (by simp) (by decide)
  exact ⟨r', _, _, h'⟩

theorem enrolledLedger_replays : ∃ r nonces grants,
    Ledger enrolledLedger r enrollFact.resultingState.grantsAuthority (guardedState (enrolled epoch))
      ["enroll", "put-grants"] nonces grants := by
  obtain ⟨r, nonces, grants, h⟩ := rootedLedger_replays
  have hnext := guardedState_checked recoveries_consistent.1 rfl
  obtain ⟨r', h'⟩ := mutation_ledger serde enroll (second 3) h rfl (fun _ _ => rfl) rfl (fun _ _ => rfl)
    (recovery_applies (enrolled epoch) rfl rootedState_checked rfl rfl (evaluate_enroll host_permits) hnext) hnext
    (by decide) (by decide)
  exact ⟨r', _, _, h'⟩

theorem initiatedLedger_replays : ∃ r nonces grants,
    Ledger initiatedLedger r initiateFact.resultingState.grantsAuthority (guardedState (initiated epoch))
      ["initiate", "enroll", "put-grants"] nonces grants := by
  obtain ⟨r, nonces, grants, h⟩ := enrolledLedger_replays
  have hnext := guardedState_checked recoveries_consistent.2.1 rfl
  obtain ⟨r', h'⟩ := mutation_ledger serde initiate (second 10) h rfl (fun _ _ => rfl) rfl (fun _ _ => rfl)
    (recovery_applies (initiated epoch) rfl h.checked rfl rfl (evaluate_initiate host_permits) hnext) hnext
    (by decide) (by decide)
  exact ⟨r', _, _, h'⟩

theorem challengedLedger_replays : ∃ r nonces grants,
    Ledger challengedLedger r challengeFact.resultingState.grantsAuthority (guardedState (challenged epoch))
      ["challenge", "initiate", "enroll", "put-grants"] nonces grants := by
  obtain ⟨r, nonces, grants, h⟩ := initiatedLedger_replays
  have hnext := guardedState_checked recoveries_consistent.2.2 rfl
  obtain ⟨r', h'⟩ := mutation_ledger serde issueChallenge (second 86500) h rfl (fun _ _ => rfl) rfl (fun _ _ => rfl)
    (recovery_applies (challenged epoch) rfl h.checked rfl rfl (evaluate_challenge host_permits) hnext) hnext
    (by decide) (by decide)
  exact ⟨r', _, _, h'⟩

/-- **A day key under the id of the recovered root blocks the recovery.**  The evaluator accepts the `complete` with the
hash of the state, at a time not behind the ledger, and no state is left. -/
theorem squatted_root_blocks_recovery : ∃ replay hash, replayAuthorityEntries challengedLedger = .ok replay ∧
    (replay.state.guardianRecovery.bind (·.pending)).isSome = true ∧ authorityStateHash replay.state = .ok hash ∧
    checkRecoveryClock replay.state (clockAt epoch 86510) = .ok () ∧
    Recovery.evaluateGuardianRecovery replay.state.guardianRecovery complete (clockAt epoch 86510) hash =
      .ok (recovered epoch) ∧
    ∀ state', applyGuardianRecovery replay.state complete (clockAt epoch 86510) ≠ .ok state' := by
  obtain ⟨replay, _, _, h⟩ := challengedLedger_replays
  have hhash := stateHash_of_checked (guardedState_checked recoveries_consistent.2.2 rfl)
  refine ⟨replay, stateHash (guardedState (challenged epoch)), h.accepted, ?_⟩
  rw [h.state]
  refine ⟨rfl, hhash, rfl, evaluate_complete host_permits _, ?_⟩
  intro state' happ
  obtain ⟨root, next, _, ⟨-, -, -, hash', -, heval⟩, hfree, -, -⟩ := applyGuardianRecovery_ok.mp happ
  cases (evaluate_complete host_permits hash').symm.trans heval
  have htaken : (guardedState (challenged epoch)).adminKeyGrants["recovered:owner:2"]? = some squatter := rfl
  cases htaken.symm.trans (hfree rfl)

/-- **The condition decides this recovery.** -/
theorem recovery_completes_iff_held : ∃ replay, replayAuthorityEntries challengedLedger = .ok replay ∧
    ((∃ state', applyGuardianRecovery replay.state complete (clockAt epoch 86510) = .ok state' ∧
        RootReplaced state' (key 20)) ↔
      replay.state.adminKeyGrants[recoveredRootId (recovered epoch).binding]? = none) := by
  obtain ⟨replay, _, _, h⟩ := challengedLedger_replays
  have hrecovery : replay.state.guardianRecovery = some (challenged epoch) := by
    rw [h.state]
    rfl
  have hclock : checkRecoveryClock replay.state (clockAt epoch 86510) = .ok () := by
    rw [h.state]
    rfl
  obtain ⟨hash, -, hiff⟩ := recovery_completes_iff h.accepted hrecovery rfl
  refine ⟨replay, h.accepted, hiff complete (clockAt epoch 86510) (approvals 86505) (recovered epoch) rfl hclock ?_⟩
  rw [hrecovery]
  exact evaluate_complete host_permits hash

end Mct.HeldSample
