import PatinaMct.AuthoritySteps
import PatinaMct.AuthorityTransitions
/-!
# ToyReferences — toy grants and the catalog they refer to

Only the put of a toy grant looks at the catalog.  The removal of a catalog value looks at no grant, and a legacy
snapshot is not looked at, so a grant can outlive its contract.  `toyReferences_iff` says for which ledgers every grant
keeps referring to a catalogued toy: those whose imports do and whose catalog removals come with the removal, or the
replacement, of every grant of the toy.
-/
namespace Mct

open Checked
open Recovery (TextSet)

/-- **Every toy grant refers to a catalogued toy and names its actions in order.** -/
structure ToyReferences (state : AuthorityStateV1) : Prop where
  catalogued : ∀ (grantId : String) (grant : ToyGrant), state.toyGrants[grantId]? = some grant →
    grant.toyId.value ∈ state.toyCatalog
  actions : ∀ (grantId : String) (grant : ToyGrant), state.toyGrants[grantId]? = some grant →
    grant.scope.allowedActions ≠ [] ∧ grant.scope.allowedActions.Pairwise (· < ·)

/-! ## What a change does to the two maps -/

def AuthorityChangeV1.catalogs (toyId : String) : AuthorityChangeV1 → Bool
  | .toyCatalogPut id _ _ _ _ => id == toyId
  | _ => false

def AuthorityChangeV1.uncatalogs (toyId : String) : AuthorityChangeV1 → Bool
  | .toyCatalogRemove id => id == toyId
  | _ => false

def AuthorityChangeV1.touchesGrant (grantId : String) : AuthorityChangeV1 → Bool
  | .toyGrantPut id _ _ _ _ _ _ _ _ _ => id == grantId
  | .toyGrantRemove id => id == grantId
  | _ => false

/-- The kinds of changes, in the order in which a list has them. -/
def AuthorityChangeV1.rank (change : AuthorityChangeV1) : String := (authorityChangeSortKey change).1

inductive ToyStep (state state' : AuthorityStateV1) : AuthorityChangeV1 → Prop
  | catalogPut {toyId : String} {contract : ToyContractIdentity} {authorityBearing : Bool} {catalogRevision : Nat}
      {admittedBy : String} (value : CanonicalToyContract) : value.toyId.value = toyId →
      state'.toyCatalog = state.toyCatalog.insert toyId value →
      state'.toyGrants = state.toyGrants →
      ToyStep state state' (.toyCatalogPut toyId contract authorityBearing catalogRevision admittedBy)
  | catalogRemove {toyId : String} : state'.toyCatalog = state.toyCatalog.erase toyId →
      state'.toyGrants = state.toyGrants → ToyStep state state' (.toyCatalogRemove toyId)
  | grantPut {grantId toyId : String} {subject : ToyGrantSubject} {scope : ToyGrantScope}
      {constraints : ToyGrantConstraints} {grantState : ToyGrantState} {issuerId : String}
      {policyRevision revision : Nat} {observationId : String} (grant : ToyGrant) :
      grant.grantId.value = grantId → grant.toyId.value ∈ state.toyCatalog → grant.scope.allowedActions ≠ [] →
      grant.scope.allowedActions.Pairwise (· < ·) → state'.toyCatalog = state.toyCatalog →
      state'.toyGrants = state.toyGrants.insert grantId grant →
      ToyStep state state' (.toyGrantPut grantId toyId subject scope constraints grantState issuerId policyRevision
        revision observationId)
  | grantRemove {grantId : String} : state'.toyCatalog = state.toyCatalog →
      state'.toyGrants = state.toyGrants.erase grantId → ToyStep state state' (.toyGrantRemove grantId)
  | other {change : AuthorityChangeV1} : (∀ id, change.catalogs id = false) → (∀ id, change.uncatalogs id = false) →
      (∀ id, change.touchesGrant id = false) → state'.toyCatalog = state.toyCatalog →
      state'.toyGrants = state.toyGrants → ToyStep state state' change

variable {state state' : AuthorityStateV1} {change : AuthorityChangeV1} {changes : List AuthorityChangeV1}

theorem coherentId_new {record value : String} {id : StringId record}
    (h : coherentId (StringId.new record value) = .ok id) : id.value = value :=
  StringId.new_ok.mp (mapErr_ok.mp h)

theorem applyToyCatalogPut_ok {toyId : String} {contract : ToyContractIdentity} {authorityBearing : Bool}
    {catalogRevision : Nat} {admittedBy : String}
    (h : applyToyCatalogPut state toyId contract authorityBearing catalogRevision admittedBy = .ok state') :
    ToyStep state state' (.toyCatalogPut toyId contract authorityBearing catalogRevision admittedBy) ∧
      state'.guardianRecovery = state.guardianRecovery := by
  simp only [applyToyCatalogPut, bind_ok, pure_ok] at h
  obtain ⟨toyIdValue, htoy, observationId, -, rfl⟩ := h
  exact ⟨.catalogPut _ (coherentId_new htoy) rfl rfl, rfl⟩

theorem applyToyGrantPut_ok {gid toyId : String} {subject : ToyGrantSubject} {scope : ToyGrantScope}
    {constraints : ToyGrantConstraints} {grantState : ToyGrantState} {issuerId : String} {rev revision : Nat}
    {observationId : String}
    (h : applyToyGrantPut state gid toyId subject scope constraints grantState issuerId rev revision
      observationId = .ok state') :
    ToyStep state state' (.toyGrantPut gid toyId subject scope constraints grantState issuerId rev revision observationId) ∧
      state'.guardianRecovery = state.guardianRecovery := by
  simp only [applyToyGrantPut, bind_ok, exists_unit, deny_ok, pure_ok, Bool.or_eq_false_iff, Bool.not_eq_eq_eq_not,
    Bool.not_false] at h
  obtain ⟨⟨⟨hcatalog, hne⟩, hascending⟩, grantIdValue, hgrant, toyIdValue, htoy, observationIdValue, -, rfl⟩ := h
  refine ⟨.grantPut ⟨grantIdValue, toyIdValue, subject, scope, constraints, grantState, issuerId, rev, revision,
    observationIdValue⟩ (coherentId_new hgrant) ?_ ?_ ?_ rfl rfl, rfl⟩
  · show toyIdValue.value ∈ state.toyCatalog
    rw [coherentId_new htoy, ← Std.ExtTreeMap.contains_iff_mem]
    exact hcatalog
  · intro hnil
    rw [show scope.allowedActions = [] from hnil] at hne
    cases hne
  · exact ascending_pairwise (fun a b c => lt_trans) (fun a b => of_decide_eq_true) hascending

variable [LedgerHost]

/-- **Every change is a step of the two maps** and leaves the guardians' recovery alone. -/
theorem applyOrdinaryChange_step (h : applyOrdinaryChange state change = .ok state') :
    ToyStep state state' change ∧ state'.guardianRecovery = state.guardianRecovery := by
  cases change with
  | guardianRecovery cmd clock =>
    cases h
    exact ⟨.other (fun _ => rfl) (fun _ => rfl) (fun _ => rfl) rfl rfl, rfl⟩
  | adminKeyIssue req t =>
    cases h
    exact ⟨.other (fun _ => rfl) (fun _ => rfl) (fun _ => rfl) rfl rfl, rfl⟩
  | toyCatalogPut toyId contract authorityBearing catalogRevision admittedBy => exact applyToyCatalogPut_ok h
  | toyCatalogRemove toyId =>
    simp only [applyOrdinaryChange, bind_ok, exists_unit, pure_ok] at h
    obtain ⟨-, rfl⟩ := h
    exact ⟨.catalogRemove rfl rfl, rfl⟩
  | toyGrantPut gid toyId subject scope constraints grantState issuerId rev revision observationId =>
    exact applyToyGrantPut_ok h
  | toyGrantRemove gid =>
    simp only [applyOrdinaryChange, bind_ok, exists_unit, pure_ok] at h
    obtain ⟨-, rfl⟩ := h
    exact ⟨.grantRemove rfl rfl, rfl⟩
  | watchScopePut scope =>
    simp only [applyOrdinaryChange, applyWatchScopePut, bind_ok, exists_unit, pure_ok] at h
    obtain ⟨-, -, rfl⟩ := h
    exact ⟨.other (fun _ => rfl) (fun _ => rfl) (fun _ => rfl) rfl rfl, rfl⟩
  | adminKeyGrantPut g sig =>
    simp only [applyOrdinaryChange, bind_ok, exists_unit] at h
    obtain ⟨-, -, h⟩ := h
    obtain ⟨-, -, -, rfl⟩ := applyAdminKeyGrantPut_ok.mp h
    exact ⟨.other (fun _ => rfl) (fun _ => rfl) (fun _ => rfl) rfl rfl, rfl⟩
  | adminKeyGrantRevoke gid sig =>
    simp only [applyOrdinaryChange, applyAdminKeyGrantRevoke, bind_ok, exists_unit, pure_ok] at h
    obtain ⟨-, _, -, -, -, rfl⟩ := h
    exact ⟨.other (fun _ => rfl) (fun _ => rfl) (fun _ => rfl) rfl rfl, rfl⟩
  | pairingTicketIssued ticketHash peerEndpointId windowStartsAt windowExpiresAt sig =>
    simp only [applyOrdinaryChange, applyPairingTicketIssued, bind_ok, exists_unit, pure_ok] at h
    obtain ⟨-, -, -, rfl⟩ := h
    exact ⟨.other (fun _ => rfl) (fun _ => rfl) (fun _ => rfl) rfl rfl, rfl⟩
  | pairingTicketConsumed ticketHash admission sig =>
    simp only [applyOrdinaryChange, applyPairingTicketConsumed, bind_ok, exists_unit, pure_ok] at h
    obtain ⟨-, -, _, -, -, rfl⟩ := h
    exact ⟨.other (fun _ => rfl) (fun _ => rfl) (fun _ => rfl) rfl rfl, rfl⟩

/-! ## Change lists -/

omit [LedgerHost] in
theorem ToyStep.catalog_iff (h : ToyStep state state' change) (toyId : String) :
    toyId ∈ state'.toyCatalog ↔
      change.catalogs toyId = true ∨ (toyId ∈ state.toyCatalog ∧ change.uncatalogs toyId = false) := by
  cases h with
  | catalogPut v _ hc _ =>
    rw [hc, Std.ExtTreeMap.mem_insert, compare_eq_iff_eq]
    simp [AuthorityChangeV1.catalogs, AuthorityChangeV1.uncatalogs]
  | catalogRemove hc _ =>
    rw [hc, Std.ExtTreeMap.mem_erase]
    simp [AuthorityChangeV1.catalogs, AuthorityChangeV1.uncatalogs, and_comm]
  | grantPut g _ _ _ _ hc _ => simp [hc, AuthorityChangeV1.catalogs, AuthorityChangeV1.uncatalogs]
  | grantRemove hc _ => simp [hc, AuthorityChangeV1.catalogs, AuthorityChangeV1.uncatalogs]
  | other h₁ h₂ _ hc _ => simp [hc, h₁, h₂]

omit [LedgerHost] in
theorem ToyStep.untouched (h : ToyStep state state' change) {gid : String}
    (hgrant : change.touchesGrant gid = false) : state'.toyGrants[gid]? = state.toyGrants[gid]? := by
  cases h with
  | catalogPut v _ _ hg => rw [hg]
  | catalogRemove _ hg => rw [hg]
  | grantPut g _ _ _ _ _ hg =>
    rw [hg, Std.ExtTreeMap.getElem?_insert, if_neg]
    simpa [AuthorityChangeV1.touchesGrant] using hgrant
  | grantRemove _ hg =>
    rw [hg, Std.ExtTreeMap.getElem?_erase, if_neg]
    simpa [AuthorityChangeV1.touchesGrant] using hgrant
  | other _ _ _ _ hg => rw [hg]

omit [LedgerHost] in
theorem ToyStep.touched (h : ToyStep state state' change) {gid : String} {g : ToyGrant}
    (htouches : change.touchesGrant gid = true) (hgrant : state'.toyGrants[gid]? = some g) :
    change.rank = "toy_grant_put" ∧ g.toyId.value ∈ state'.toyCatalog ∧ g.scope.allowedActions ≠ [] ∧
      g.scope.allowedActions.Pairwise (· < ·) := by
  cases h with
  | catalogPut v _ _ _ => cases htouches
  | catalogRemove _ _ => cases htouches
  | grantPut put _ hmem hne hascending hc hg =>
    have hid := beq_iff_eq.mp (show (_ == gid) = true from htouches)
    subst hid
    rw [hg, Std.ExtTreeMap.getElem?_insert_self] at hgrant
    cases hgrant
    exact ⟨rfl, by rw [hc]; exact hmem, hne, hascending⟩
  | grantRemove _ hg =>
    have hid := beq_iff_eq.mp (show (_ == gid) = true from htouches)
    subst hid
    rw [hg, Std.ExtTreeMap.getElem?_erase_self] at hgrant
    cases hgrant
  | other _ _ h₃ _ _ =>
    rw [h₃] at htouches
    cases htouches

omit [LedgerHost] in
theorem ranks_ordered (h : ascending sortKeyLt (changes.map authorityChangeSortKey) = true) :
    changes.Pairwise fun a b => a.rank ≤ b.rank := by
  have hkeys := ascending_pairwise (R := fun a b : String × String => a.1 ≤ b.1) (fun a b c => le_trans) ?_ h
  · rw [List.pairwise_map] at hkeys
    exact hkeys
  · intro a b hlt
    simp only [sortKeyLt, Bool.or_eq_true, decide_eq_true_eq, Bool.and_eq_true, beq_iff_eq] at hlt
    rcases hlt with hlt | ⟨heq, -⟩
    · exact le_of_lt hlt
    · exact le_of_eq heq

omit [LedgerHost] in
theorem catalogs_rank {toyId : String} (h : change.catalogs toyId = true) : change.rank = "toy_catalog_put" := by
  cases change with
  | toyCatalogPut => rfl
  | _ => cases h

omit [LedgerHost] in
theorem uncatalogs_rank {toyId : String} (h : change.uncatalogs toyId = true) : change.rank = "toy_catalog_remove" := by
  cases change with
  | toyCatalogRemove => rfl
  | _ => cases h

/-- **Which toys are catalogued after a list**: put or kept, and not removed. -/
theorem foldChanges_catalog_iff (hranks : changes.Pairwise fun a b => a.rank ≤ b.rank)
    (h : changes.foldlM applyOrdinaryChange state = .ok state') (toyId : String) :
    toyId ∈ state'.toyCatalog ↔
      ((∃ change ∈ changes, change.catalogs toyId = true) ∨ toyId ∈ state.toyCatalog) ∧
        ∀ change ∈ changes, change.uncatalogs toyId = false := by
  induction changes generalizing state with
  | nil =>
    cases h
    simp
  | cons change changes ih =>
    rw [List.foldlM_cons, bind_ok] at h
    obtain ⟨middle, hstep, hrest⟩ := h
    rw [List.pairwise_cons] at hranks
    have hone := (applyOrdinaryChange_step hstep).1.catalog_iff toyId
    rw [ih hranks.2 hrest, hone, List.exists_mem_cons_iff, List.forall_mem_cons]
    cases hrem : change.uncatalogs toyId with
    | false =>
      simp only [and_true, true_and]
      rw [or_left_comm, or_assoc]
    | true =>
      -- the puts of a list stand before its removals
      have hnone : ¬ ∃ c ∈ changes, c.catalogs toyId = true := by
        rintro ⟨c, hc, hput⟩
        have hle := hranks.1 c hc
        rw [uncatalogs_rank hrem, catalogs_rank hput] at hle
        exact absurd hle (by decide)
      have hput : change.catalogs toyId = false := by
        by_contra hc
        rw [Bool.not_eq_false] at hc
        have := (uncatalogs_rank hrem).symm.trans (catalogs_rank hc)
        exact absurd this (by decide)
      simp [hnone, hput]

theorem foldChanges_untouched (h : changes.foldlM applyOrdinaryChange state = .ok state') {gid : String}
    (hgrant : ∀ change ∈ changes, change.touchesGrant gid = false) :
    state'.toyGrants[gid]? = state.toyGrants[gid]? := by
  induction changes generalizing state with
  | nil =>
    cases h
    rfl
  | cons change changes ih =>
    rw [List.foldlM_cons, bind_ok] at h
    obtain ⟨middle, hstep, hrest⟩ := h
    rw [List.forall_mem_cons] at hgrant
    rw [ih hrest hgrant.2, (applyOrdinaryChange_step hstep).1.untouched hgrant.1]

/-- **Every grant after a list was put by it for a catalogued toy, or was there and is untouched.** -/
theorem foldChanges_grant (hranks : changes.Pairwise fun a b => a.rank ≤ b.rank)
    (h : changes.foldlM applyOrdinaryChange state = .ok state') {gid : String} {g : ToyGrant}
    (hgrant : state'.toyGrants[gid]? = some g) :
    (∀ change ∈ changes, change.touchesGrant gid = false) ∨
      (g.toyId.value ∈ state'.toyCatalog ∧ g.scope.allowedActions ≠ [] ∧
        g.scope.allowedActions.Pairwise (· < ·)) := by
  induction changes generalizing state with
  | nil => simp
  | cons change changes ih =>
    rw [List.foldlM_cons, bind_ok] at h
    obtain ⟨middle, hstep, hrest⟩ := h
    rw [List.pairwise_cons] at hranks
    rcases ih hranks.2 hrest with hlater | hput
    · cases htouches : change.touchesGrant gid with
      | false => exact .inl (List.forall_mem_cons.mpr ⟨htouches, hlater⟩)
      | true =>
        rw [foldChanges_untouched hrest hlater] at hgrant
        obtain ⟨hrank, hmem, hne, hascending⟩ := (applyOrdinaryChange_step hstep).1.touched htouches hgrant
        refine .inr ⟨(foldChanges_catalog_iff hranks.2 hrest _).mpr ⟨.inr hmem, ?_⟩, hne, hascending⟩
        -- no catalog value is removed after the first put of a grant
        intro c hc
        by_contra hrem
        rw [Bool.not_eq_false] at hrem
        have hle := hranks.1 c hc
        rw [hrank, uncatalogs_rank hrem] at hle
        exact absurd hle (by decide)
    · exact .inr hput

/-- **Whoever removes a catalog value removes or replaces its grants in the same list.** -/
def RemovalsCovered (state : AuthorityStateV1) (changes : List AuthorityChangeV1) : Prop :=
  ∀ (grantId : String) (grant : ToyGrant), state.toyGrants[grantId]? = some grant →
    (∃ change ∈ changes, change.uncatalogs grant.toyId.value = true) →
    ∃ change ∈ changes, change.touchesGrant grantId = true

theorem foldChanges_references (hranks : changes.Pairwise fun a b => a.rank ≤ b.rank)
    (h : changes.foldlM applyOrdinaryChange state = .ok state') (href : ToyReferences state) :
    ToyReferences state' ↔ RemovalsCovered state changes := by
  constructor
  · intro href' gid g hgrant ⟨change, hchange, hrem⟩
    by_contra hnone
    have huntouched : ∀ change ∈ changes, change.touchesGrant gid = false := by
      intro c hc
      by_contra htouches
      exact hnone ⟨c, hc, by simpa using htouches⟩
    have hkept := (foldChanges_untouched h huntouched).trans hgrant
    have hmem := href'.catalogued gid g hkept
    have hgone := ((foldChanges_catalog_iff hranks h _).mp hmem).2 change hchange
    rw [hrem] at hgone
    cases hgone
  · intro hcov
    have hall : ∀ (gid : String) (g : ToyGrant), state'.toyGrants[gid]? = some g →
        g.toyId.value ∈ state'.toyCatalog ∧ g.scope.allowedActions ≠ [] ∧
          g.scope.allowedActions.Pairwise (· < ·) := by
      intro gid g hgrant
      rcases foldChanges_grant hranks h hgrant with huntouched | hput
      · rw [foldChanges_untouched h huntouched] at hgrant
        obtain ⟨hne, hascending⟩ := href.actions gid g hgrant
        refine ⟨(foldChanges_catalog_iff hranks h _).mpr ⟨.inr (href.catalogued gid g hgrant), ?_⟩, hne, hascending⟩
        intro c hc
        by_contra hrem
        obtain ⟨t, ht, htouches⟩ := hcov gid g hgrant ⟨c, hc, by simpa using hrem⟩
        rw [huntouched t ht] at htouches
        cases htouches
      · exact hput
    exact ⟨fun gid g hgrant => (hall gid g hgrant).1,
      fun gid g hgrant => (hall gid g hgrant).2⟩

/-! ## Ledgers -/

omit [LedgerHost] in
theorem ToyReferences.of_eq (href : ToyReferences state) (hcatalog : state'.toyCatalog = state.toyCatalog)
    (hgrants : state'.toyGrants = state.toyGrants) : ToyReferences state' := by
  constructor
  · rw [hcatalog, hgrants]
    exact href.catalogued
  · rw [hgrants]
    exact href.actions

theorem applyAuthorityChanges_toys (h : applyAuthorityChanges state changes = .ok state') :
    (state'.toyCatalog = state.toyCatalog ∧ state'.toyGrants = state.toyGrants ∧
        ∀ change ∈ changes, ∀ toyId, change.uncatalogs toyId = false) ∨
      changes.foldlM applyOrdinaryChange state = .ok state' := by
  obtain ⟨-, ⟨req, t, rfl, hissue⟩ | ⟨cmd, clock, rfl, hrecovery⟩ | ⟨-, -, -, -, hfold⟩⟩ :=
    applyAuthorityChanges_ok h
  · obtain ⟨issuer, -, rfl⟩ := applyAdminKeyIssue_ok hissue
    refine .inl ⟨rfl, rfl, ?_⟩
    intro change hchange toyId
    rw [List.mem_singleton.mp hchange]
    rfl
  · obtain ⟨root, next, _, -, -, -, rfl⟩ := applyGuardianRecovery_ok.mp hrecovery
    refine .inl ⟨?_, ?_, ?_⟩
    · unfold AuthorityStateV1.recovered
      split <;> rfl
    · unfold AuthorityStateV1.recovered
      split <;> rfl
    · intro change hchange toyId
      rw [List.mem_singleton.mp hchange]
      rfl
  · exact .inr hfold

theorem applyAuthorityChanges_references (hranks : changes.Pairwise fun a b => a.rank ≤ b.rank)
    (h : applyAuthorityChanges state changes = .ok state') (href : ToyReferences state) :
    ToyReferences state' ↔ RemovalsCovered state changes := by
  obtain ⟨hcatalog, hgrants, hnone⟩ | hfold := applyAuthorityChanges_toys h
  · refine iff_of_true (href.of_eq hcatalog hgrants) ?_
    intro gid g _ ⟨change, hchange, hrem⟩
    rw [hnone change hchange] at hrem
    cases hrem
  · exact foldChanges_references hranks hfold href

theorem intentHash_ordered {req : AuthorityMutationRequestV1} {hash : String}
    (h : authorityMutationIntentHash req = .ok hash) : req.changes.Pairwise fun a b => a.rank ≤ b.rank := by
  simp only [authorityMutationIntentHash, bind_ok, exists_unit, deny_ok, pure_ok, Bool.not_eq_eq_eq_not,
    Bool.not_false] at h
  exact ranks_ordered h.2.1

/-- **The fact keeps the references**: it imports them, or its catalog removals are covered. -/
def KeepsReferences (state : AuthorityStateV1) : Option CanonicalFact → Prop
  | some (.authorityMutation fact) => RemovalsCovered state fact.changes
  | some (.legacyAuthorityImport fact) => ToyReferences fact.importedState
  | _ => True

variable {replay : AuthorityReplayV1} {u : TextSet} {entry : MctObservationLedgerEntry}
  {entries : List MctObservationLedgerEntry}

theorem AuthorityStep.references {fact : Option CanonicalFact} (h : AuthorityStep replay entry state' fact)
    (href : ToyReferences replay.state) : ToyReferences state' ↔ KeepsReferences replay.state fact := by
  cases h with
  | plain hstate => exact iff_of_true (hstate ▸ href) trivial
  | passkey fact next _ hstate =>
    subst hstate
    exact iff_of_true (href.of_eq rfl rfl) trivial
  | genesis fact _ _ _ hstate =>
    subst hstate
    exact iff_of_true (href.of_eq rfl rfl) trivial
  | epoch fact _ _ hstate => exact iff_of_true (hstate ▸ href) trivial
  | mutation fact hvalid =>
    obtain ⟨_, _, _, _, -, hintent, -, -, -, -, happ, -⟩ := validateAuthorityMutationFact_ok.mp hvalid
    exact applyAuthorityChanges_references (intentHash_ordered hintent) happ href
  | «import» fact _ _ _ hstate =>
    rw [hstate]
    rfl

omit [LedgerHost] in
theorem toyReferences_empty : ToyReferences .empty := by
  constructor
  · intro gid g hgrant
    exact absurd hgrant (by simp [AuthorityStateV1.empty])
  · intro gid g hgrant
    exact absurd hgrant (by simp [AuthorityStateV1.empty])

/-- **The references hold all along a ledger exactly when every fact of it keeps them.** -/
theorem toyReferences_iff (h : replayAuthorityEntries entries = .ok replay) :
    (∀ p r, p <+: entries → replayAuthorityEntries p = .ok r → ToyReferences r.state) ↔
      ∀ l entry rest r, entries = l ++ entry :: rest → replayAuthorityEntries l = .ok r →
        KeepsReferences r.state (factOf entry) := by
  obtain ⟨u, h⟩ := replayAuthorityEntries_ok.mp h
  constructor
  · intro hall l entry rest r heq hr
    obtain ⟨v, hr⟩ := replayAuthorityEntries_ok.mp hr
    subst heq
    have h : Replayed ((l ++ [entry]) ++ rest) replay u := by
      rw [List.append_assoc, List.singleton_append]
      exact h
    obtain ⟨r', v', hr', -⟩ := replayed_append h
    obtain ⟨_, _, hl, hfold⟩ := replayed_snoc hr'
    obtain ⟨rfl, rfl⟩ := hr.unique hl
    have hbefore := hall l r ⟨entry :: rest, rfl⟩ (replayAuthorityEntries_ok.mpr ⟨v, hr⟩)
    have hafter := hall (l ++ [entry]) r' ⟨rest, by simp⟩ (replayAuthorityEntries_ok.mpr ⟨v', hr'⟩)
    exact ((foldAuthorityEntry_step hfold).1.references hbefore).mp hafter
  · intro hkeeps p r hp hr
    obtain ⟨v, hr⟩ := replayAuthorityEntries_ok.mp hr
    -- induction on the prefix, whose entries are entries of the ledger
    refine hr.induction (fun l r _ => l <+: entries → ToyReferences r.state) (fun _ => toyReferences_empty) ?_ hp
    intro l entry r v r' v' hl ih hfold hp'
    have href := ih ((List.prefix_append l [entry]).trans hp')
    obtain ⟨rest, hrest⟩ := hp'
    refine ((foldAuthorityEntry_step hfold).1.references href).mpr (hkeeps l entry rest r ?_ ?_)
    · rw [← hrest, List.append_assoc, List.singleton_append]
    · exact replayAuthorityEntries_ok.mpr ⟨v, hl⟩

end Mct

namespace Mct.ToySample

open Recovery.Sample (second)
open Sample (Ledger nextEntry hostOf hostOf_serde stateHash writtenFact epochFact epochIdentity epoch_ledger epoch_admitted
  mutation_ledger)

/-! A toy with a grant loses its contract and gets another one; the grant outlives both. -/

def contractAt (version : String) : ToyContractIdentity := ⟨"files", "reader", version, none, none⟩

def toyAt (version : String) (revision : Nat) : CanonicalToyContract :=
  ⟨⟨"reader-toy", by decide⟩, contractAt version, true, revision, ⟨"reader-admitted", by decide⟩⟩

def readerScope : ToyGrantScope := ⟨⟨"reader-vision", by decide⟩, none, none, none, none, ["read"]⟩

def readerGrant : ToyGrant :=
  ⟨⟨"reader-grant", by decide⟩, ⟨"reader-toy", by decide⟩, ⟨"reader", "reader", "1", none, none⟩, readerScope,
    ⟨none, none, none, none, false⟩, .active, "p", 1, 1, ⟨"reader-granted", by decide⟩⟩

def requestOf (mutationId : String) (changes : List AuthorityChangeV1) (n : Nat) : AuthorityMutationRequestV1 :=
  ⟨mutationId, changes, [.operatorDecision "d" "p" .catalogChange], (second n).value⟩

def grantRequest : AuthorityMutationRequestV1 :=
  requestOf "grant-reader"
    [.toyCatalogPut "reader-toy" (contractAt "1") true 1 "reader-admitted",
      .toyGrantPut "reader-grant" "reader-toy" readerGrant.subject readerScope readerGrant.constraints .active "p" 1 1
        "reader-granted"] 1

def withdrawRequest : AuthorityMutationRequestV1 := requestOf "withdraw-reader" [.toyCatalogRemove "reader-toy"] 2

def replaceRequest : AuthorityMutationRequestV1 :=
  requestOf "replace-reader" [.toyCatalogPut "reader-toy" (contractAt "2") true 2 "reader-admitted"] 3

def toysState (toys : TextMap CanonicalToyContract) : AuthorityStateV1 :=
  { AuthorityStateV1.empty with
    toyCatalog := toys
    toyGrants := (∅ : TextMap ToyGrant).insert "reader-grant" readerGrant }

def stateWith (toy : CanonicalToyContract) : AuthorityStateV1 :=
  toysState ((∅ : TextMap CanonicalToyContract).insert "reader-toy" toy)

def grantFact : AuthorityMutationFactV1 := writtenFact epochIdentity grantRequest .empty (stateWith (toyAt "1" 1))

def withdrawFact : AuthorityMutationFactV1 :=
  writtenFact grantFact.resultingState.grantsAuthority withdrawRequest (stateWith (toyAt "1" 1)) (toysState ∅)

def replaceFact : AuthorityMutationFactV1 :=
  writtenFact withdrawFact.resultingState.grantsAuthority replaceRequest (toysState ∅) (stateWith (toyAt "2" 2))

noncomputable scoped instance readerHost : LedgerHost :=
  hostOf { epochs := [epochFact], mutations := [grantFact, withdrawFact, replaceFact] }

theorem readerHost_serde : SerdeRoundTrip := hostOf_serde (by decide +kernel)

noncomputable def epochStart : MctObservationLedgerEntry := nextEntry [] (epochFact.observation (second 0)) (second 0)

noncomputable def grantedLedger : List MctObservationLedgerEntry :=
  [epochStart, nextEntry [epochStart] (grantFact.observation (second 1)) (second 1)]

noncomputable def withdrawnLedger : List MctObservationLedgerEntry :=
  grantedLedger ++ [nextEntry grantedLedger (withdrawFact.observation (second 2)) (second 2)]

noncomputable def replacedLedger : List MctObservationLedgerEntry :=
  withdrawnLedger ++ [nextEntry withdrawnLedger (replaceFact.observation (second 3)) (second 3)]

theorem grantedLedger_replays : ∃ r nonces grants, Ledger grantedLedger r grantFact.resultingState.grantsAuthority
    (stateWith (toyAt "1" 1)) ["grant-reader"] nonces grants := by
  obtain ⟨r, h, -⟩ := epoch_ledger readerHost_serde (second 0) epoch_admitted
  obtain ⟨r', h'⟩ := mutation_ledger readerHost_serde grantRequest (second 1) h rfl (fun _ _ => rfl) rfl (fun _ _ => rfl)
    rfl ⟨rfl, rfl, rfl, rfl, rfl, nofun⟩ (by decide) (by decide)
  exact ⟨r', _, _, h'⟩

theorem withdrawnLedger_replays : ∃ r nonces grants, Ledger withdrawnLedger r
    withdrawFact.resultingState.grantsAuthority (toysState ∅) ["withdraw-reader", "grant-reader"] nonces grants := by
  obtain ⟨r, _, _, h⟩ := grantedLedger_replays
  obtain ⟨r', h'⟩ := mutation_ledger readerHost_serde withdrawRequest (second 2) h rfl (fun _ _ => rfl) rfl
    (fun _ _ => rfl) rfl ⟨rfl, rfl, rfl, rfl, rfl, nofun⟩ (by decide) (by decide)
  exact ⟨r', _, _, h'⟩

theorem replacedLedger_replays : ∃ r nonces grants, Ledger replacedLedger r
    replaceFact.resultingState.grantsAuthority (stateWith (toyAt "2" 2))
    ["replace-reader", "withdraw-reader", "grant-reader"] nonces grants := by
  obtain ⟨r, _, _, h⟩ := withdrawnLedger_replays
  obtain ⟨r', h'⟩ := mutation_ledger readerHost_serde replaceRequest (second 3) h rfl (fun _ _ => rfl) rfl
    (fun _ _ => rfl) rfl ⟨rfl, rfl, rfl, rfl, rfl, nofun⟩ (by decide) (by decide)
  exact ⟨r', _, _, h'⟩

/-- **A grant outlives its contract, and the next contract of the toy revives it.** -/
theorem grant_outlives_contract : ∃ replay replay',
    replayAuthorityEntries withdrawnLedger = .ok replay ∧ ¬ ToyReferences replay.state ∧
      replayAuthorityEntries replacedLedger = .ok replay' ∧
      replay'.state.toyGrants["reader-grant"]? = some readerGrant ∧
      replay'.state.toyCatalog["reader-toy"]?.map (·.contract) = some (contractAt "2") := by
  obtain ⟨replay, _, _, h⟩ := withdrawnLedger_replays
  obtain ⟨replay', _, _, h'⟩ := replacedLedger_replays
  refine ⟨replay, replay', h.accepted, ?_, h'.accepted, ?_, ?_⟩
  · rw [h.state]
    intro href
    have hmem := href.catalogued "reader-grant" readerGrant rfl
    exact absurd hmem Std.ExtTreeMap.not_mem_empty
  · rw [h'.state]
    rfl
  · rw [h'.state]
    rfl

theorem toyReferences_iff_granted : ∃ replay, replayAuthorityEntries grantedLedger = .ok replay ∧
    ((∀ p r, p <+: grantedLedger → replayAuthorityEntries p = .ok r → ToyReferences r.state) ↔
      ∀ l entry rest r, grantedLedger = l ++ entry :: rest → replayAuthorityEntries l = .ok r →
        KeepsReferences r.state (factOf entry)) := by
  obtain ⟨replay, _, _, h⟩ := grantedLedger_replays
  exact ⟨replay, h.accepted, toyReferences_iff h.accepted⟩

end Mct.ToySample
