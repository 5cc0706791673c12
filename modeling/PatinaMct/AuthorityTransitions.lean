import PatinaMct.AuthorityChanges
/-!
# AuthorityTransitions — what an accepted list of changes was checked for

The inversions of `applyAuthorityChanges` and of its two exclusive transitions.  `IssueChecked` and `RecoveryChecked`
name the checks of an issuance and of a recovery command; every proof about a mutation starts from
`applyAuthorityChanges_ok` and takes one of three ways.
-/
namespace Mct

open Checked
open Recovery (GuardianRecoveryCommandV1 GuardianRecoveryStateV1 RecoveryClockV1)

/-! ## The latest time -/

theorem foldl_latest (m : Timestamp) (times : List Timestamp) :
    m ≤ times.foldl (fun m t => if t < m then m else t) m ∧
      (∀ t ∈ times, t ≤ times.foldl (fun m t => if t < m then m else t) m) ∧
      times.foldl (fun m t => if t < m then m else t) m ∈ m :: times := by
  induction times generalizing m with
  | nil => exact ⟨Timestamp.le_def.mpr le_rfl, by simp, by simp⟩
  | cons time times ih =>
    rw [List.foldl_cons]
    by_cases hlt : time < m
    · rw [if_pos hlt]
      obtain ⟨hm, hall, hmem⟩ := ih m
      refine ⟨hm, List.forall_mem_cons.mpr ⟨?_, hall⟩, ?_⟩
      · rw [Timestamp.lt_def] at hlt
        rw [Timestamp.le_def] at hm ⊢
        omega
      · rw [List.mem_cons] at hmem ⊢
        exact hmem.imp_right (List.mem_cons_of_mem _)
    · rw [if_neg hlt]
      obtain ⟨hm, hall, hmem⟩ := ih time
      rw [Timestamp.not_lt] at hlt
      refine ⟨?_, List.forall_mem_cons.mpr ⟨hm, hall⟩, List.mem_cons_of_mem _ hmem⟩
      rw [Timestamp.le_def] at hlt hm ⊢
      omega

theorem latest_any_false {times : List Timestamp} {now : Timestamp} :
    ((latest times).any fun floor => decide (now < floor)) = false ↔ ∀ t ∈ times, t ≤ now := by
  cases times with
  | nil => simp [latest]
  | cons time times =>
    obtain ⟨hm, hall, hmem⟩ := foldl_latest time times
    simp only [latest, Option.any_some, decide_eq_false_iff_not, Timestamp.not_lt]
    constructor
    · intro hle t ht
      have ht : t ≤ times.foldl (fun m t => if t < m then m else t) time := by
        rcases List.mem_cons.mp ht with rfl | ht
        · exact hm
        · exact hall t ht
      rw [Timestamp.le_def] at hle ht ⊢
      omega
    · exact fun hle => hle _ hmem

variable [LedgerHost] {s s' : AuthorityStateV1}

/-! ## Issuance -/

structure IssueChecked (state : AuthorityStateV1) (request : AdminKeyIssueRequestV1) (decidedAt : Timestamp)
    (issuer : AdminKeyGrantV1) : Prop where
  notBefore : ∀ record ∈ state.adminIssuance.values, record.decidedAt ≤ decidedAt
  notRecovered : startsWith request.intent.grant.grantId recoveredRootGrantStart = false
  signer : request.signature.signerGrantId = request.intent.issuerGrantId
  newGrant : state.adminKeyGrants[request.intent.grant.grantId]? = none
  newRecord : state.adminIssuance.contains request.intent.grant.grantId = false
  unlocked : ∀ recovery ∈ state.guardianRecovery, recovery.maintenance = false
  issued : state.adminKeyGrants[request.intent.issuerGrantId]? = some issuer
  evaluated : evaluateAdminKeyIssuance issuer request.intent.grant decidedAt = .ok ()
  hybrid : request.intent.grant.mlDsa65PublicKey.isSome = true
  distinct : reusesRootCredential state request.intent.grant = false
  active : request.intent.grant.grantState = .active
  signed : verifyAdminChangeSignatures state ∅ request.intent.expectedAuthority.grantsAuthority.motherNodeId
    request.intent.ledgerId [.adminKeyIssue request decidedAt] = .ok ()

theorem applyAdminKeyIssue_ok {req : AdminKeyIssueRequestV1} {t : Timestamp}
    (h : applyAdminKeyIssue s req t = .ok s') :
    ∃ issuer, IssueChecked s req t issuer ∧
      s' = { s with
        adminKeyGrants := s.adminKeyGrants.insert req.intent.grant.grantId req.intent.grant
        adminIssuance :=
          s.adminIssuance.insert req.intent.grant.grantId ⟨req.intent, issuer, t⟩ } := by
  simp only [applyAdminKeyIssue, bind_ok, exists_unit, deny_ok, mapErr_ok, okOr_ok, pure_ok, applyAdminKeyGrantPut_ok,
    Bool.or_eq_false_iff, decide_eq_false_iff_not, not_not, and_assoc, Bool.not_eq_eq_eq_not, Bool.not_false,
    Option.isNone_eq_false_iff, latest_any_false] at h
  obtain ⟨htime, -, -, hstart, hsig, -, hrec, hloc, _, -, -, issuer, hissued, heval, -, hhybrid, -, hroot,
    hsigned, _, -, hact, hnew, -, rfl, _, -, rfl⟩ := h
  refine ⟨issuer, ⟨?_, hstart, hsig, hnew, hrec, ?_, hissued, heval, hhybrid, hroot, hact, hsigned⟩, rfl⟩
  · intro record hmem
    refine htime _ (List.mem_append_left _ (List.mem_append_left _ ?_))
    exact List.mem_map.mpr ⟨record, hmem, rfl⟩
  · intro recovery hmem
    rw [Option.mem_def.mp hmem] at hloc
    exact hloc

/-! ## Guardian recovery -/

def recoveredRootId (binding : Recovery.OwnerBindingV1) : String :=
  recoveredRootGrantStart ++ binding.bindingId ++ ":" ++ toString binding.rootGeneration

def recoveredRoot (binding : Recovery.OwnerBindingV1) : AdminKeyGrantV1 :=
  ⟨recoveredRootId binding, binding.rootKey.ed25519, some binding.rootKey.mlDsa65, .recovery, recoveryGrantScopes, none,
    .active, none⟩

/-- The state that a completed recovery proposes, but for the recovery itself. -/
def AuthorityStateV1.withRecoveredRoot (state : AuthorityStateV1) (root : AdminKeyGrantV1)
    (binding : Recovery.OwnerBindingV1) : AuthorityStateV1 :=
  { state with
    adminKeyGrants :=
      ((state.adminKeyGrants.erase root.grantId).map fun _ grant => { grant with grantState := .revoked }).insert
        (recoveredRootId binding) (recoveredRoot binding)
    pairingTickets := state.pairingTickets.map fun _ ticket => { ticket with state := .consumed } }

omit [LedgerHost] in
theorem withRecoveredRoot_get (state : AuthorityStateV1) (root : AdminKeyGrantV1)
    (binding : Recovery.OwnerBindingV1) (id : String) :
    (state.withRecoveredRoot root binding).adminKeyGrants[id]? =
      if recoveredRootId binding = id then some (recoveredRoot binding)
      else if root.grantId = id then none
      else state.adminKeyGrants[id]?.map fun g => { g with grantState := .revoked } := by
  show (((state.adminKeyGrants.erase root.grantId).map _).insert (recoveredRootId binding) _)[id]? = _
  rw [Std.ExtTreeMap.getElem?_insert]
  by_cases hnew : recoveredRootId binding = id
  · rw [if_pos (compare_eq_iff_eq.mpr hnew), if_pos hnew]
  rw [if_neg fun h => hnew (compare_eq_iff_eq.mp h), if_neg hnew, Std.ExtTreeMap.getElem?_map,
    Std.ExtTreeMap.getElem?_erase]
  by_cases hroot : root.grantId = id
  · rw [if_pos (compare_eq_iff_eq.mpr hroot), if_pos hroot]
    rfl
  · rw [if_neg fun h => hroot (compare_eq_iff_eq.mp h), if_neg hroot]

omit [LedgerHost] in
theorem withRecoveredRoot_cases {root g : AdminKeyGrantV1} {binding : Recovery.OwnerBindingV1} {id : String}
    (h : (s.withRecoveredRoot root binding).adminKeyGrants[id]? = some g) :
    (id = recoveredRootId binding ∧ g = recoveredRoot binding) ∨
      ∃ old, s.adminKeyGrants[id]? = some old ∧ id ≠ root.grantId ∧ id ≠ recoveredRootId binding ∧
        g = { old with grantState := .revoked } := by
  rw [withRecoveredRoot_get] at h
  by_cases hnew : recoveredRootId binding = id
  · rw [if_pos hnew] at h
    exact .inl ⟨hnew.symm, (Option.some.inj h).symm⟩
  rw [if_neg hnew] at h
  by_cases hroot : root.grantId = id
  · rw [if_pos hroot] at h
    cases h
  rw [if_neg hroot] at h
  obtain ⟨old, hold, rfl⟩ := Option.map_eq_some_iff.mp h
  exact .inr ⟨old, hold, fun h => hroot h.symm, fun h => hnew h.symm, rfl⟩

omit [LedgerHost] in
theorem replaceRootGrant_ok {root : AdminKeyGrantV1} {next : GuardianRecoveryStateV1} :
    replaceRootGrant s root next = .ok s' ↔
      s.adminKeyGrants[recoveredRootId next.binding]? = none ∧
        s' = s.withRecoveredRoot root next.binding := by
  simp only [replaceRootGrant, bind_ok, exists_unit, deny_ok, pure_ok, Std.ExtTreeMap.contains_eq_isSome_getElem?,
    Option.isSome_eq_false_iff, Option.isNone_iff_eq_none, @eq_comm _ s']
  rfl

structure RecoveryChecked (state : AuthorityStateV1) (command : GuardianRecoveryCommandV1) (clock : RecoveryClockV1)
    (root : AdminKeyGrantV1) (next : GuardianRecoveryStateV1) : Prop where
  time : checkRecoveryClock state clock = .ok ()
  rooted : state.adminKeyGrants.values.find? (fun grant => grant.class_ == .recovery) = some root
  credentials : checkRecoveryCredentials state root command.action = .ok ()
  evaluated : ∃ hash, authorityStateHash state = .ok hash ∧
    Recovery.evaluateGuardianRecovery state.guardianRecovery command clock hash = .ok next

def AuthorityStateV1.recovered (state : AuthorityStateV1) (command : GuardianRecoveryCommandV1)
    (root : AdminKeyGrantV1) (next : GuardianRecoveryStateV1) : AuthorityStateV1 :=
  { (if completesRecovery command.action then state.withRecoveredRoot root next.binding else state) with
    guardianRecovery := some next }

theorem applyGuardianRecovery_ok {cmd : GuardianRecoveryCommandV1} {clock : RecoveryClockV1} :
    applyGuardianRecovery s cmd clock = .ok s' ↔
      ∃ root next hash', RecoveryChecked s cmd clock root next ∧
        (completesRecovery cmd.action = true → s.adminKeyGrants[recoveredRootId next.binding]? = none) ∧
        authorityStateHash (s.recovered cmd root next) = .ok hash' ∧
        s' = s.recovered cmd root next := by
  simp only [applyGuardianRecovery, bind_ok, exists_unit, mapErr_ok, okOr_ok]
  unfold AuthorityStateV1.recovered
  cases completesRecovery cmd.action with
  | true =>
    simp only [if_true, bind_ok, pure_ok, replaceRootGrant_ok, mapErr_ok, forall_true_left, and_assoc]
    constructor
    · rintro ⟨hash, hhash, htime, root, hroot, hcredential, next, hnext, _, hnew, rfl, hash', hhash', rfl⟩
      exact ⟨root, next, hash', ⟨htime, hroot, hcredential, hash, hhash, hnext⟩, hnew, hhash', rfl⟩
    · rintro ⟨root, next, hash', ⟨htime, hroot, hcredential, hash, hhash, hnext⟩, hnew, hhash', rfl⟩
      exact ⟨hash, hhash, htime, root, hroot, hcredential, next, hnext, _, hnew, rfl, hash', hhash', rfl⟩
  | false =>
    simp only [Bool.false_eq_true, if_false, ok_bind, bind_ok, pure_ok, mapErr_ok, IsEmpty.forall_iff, true_and]
    constructor
    · rintro ⟨hash, hhash, htime, root, hroot, hcredential, next, hnext, hash', hhash', rfl⟩
      exact ⟨root, next, hash', ⟨htime, hroot, hcredential, hash, hhash, hnext⟩, hhash', rfl⟩
    · rintro ⟨root, next, hash', ⟨htime, hroot, hcredential, hash, hhash, hnext⟩, hhash', rfl⟩
      exact ⟨hash, hhash, htime, root, hroot, hcredential, next, hnext, hash', hhash', rfl⟩

/-! ## Change lists -/

/-- **An accepted list is one issuance, one recovery command, or a list of ordinary changes on an untyped state.** -/
theorem applyAuthorityChanges_ok {chs : List AuthorityChangeV1}
    (h : applyAuthorityChanges s chs = .ok s') :
    s.passkeyAdmin = none ∧
      ((∃ req t, chs = [.adminKeyIssue req t] ∧
          applyAdminKeyIssue s req t = .ok s') ∨
        (∃ cmd clock, chs = [.guardianRecovery cmd clock] ∧
          applyGuardianRecovery s cmd clock = .ok s') ∨
        ((∀ ch ∈ chs, ch.isAdminKeyIssue = false ∧ ch.isGuardianRecovery = false) ∧
          s.guardianRecovery = none ∧ s.adminIssuance.isEmpty = true ∧ s.adminGenesis = none ∧
          chs.foldlM applyOrdinaryChange s = .ok s')) := by
  simp only [applyAuthorityChanges, bind_ok, exists_unit, deny_ok, Option.isSome_eq_false_iff,
    Option.isNone_iff_eq_none] at h
  obtain ⟨hpasskey, h⟩ := h
  refine ⟨hpasskey, ?_⟩
  split at h
  · split at h
    · exact .inl ⟨_, _, rfl, h⟩
    · cases h
  rename_i hissue
  split at h
  · split at h
    · exact .inr (.inl ⟨_, _, rfl, h⟩)
    · cases h
  rename_i hguardian
  simp only [bind_ok, exists_unit, deny_ok, Bool.or_eq_false_iff, Option.isSome_eq_false_iff, Option.isNone_iff_eq_none,
    Bool.not_eq_eq_eq_not, Bool.not_false] at h
  obtain ⟨⟨⟨hnone, hempty⟩, hgen⟩, hfold⟩ := h
  simp only [Bool.not_eq_true, List.any_eq_false] at hissue hguardian
  exact .inr (.inr ⟨fun c hc => ⟨hissue c hc, hguardian c hc⟩, hnone, hempty, hgen, hfold⟩)

end Mct
