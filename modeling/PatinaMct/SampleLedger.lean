import PatinaMct.SampleHost
import PatinaMct.WrittenFacts
/-!
# SampleLedger — concrete ledgers, one entry at a time

A ledger together with what its replay knows (`Ledger`), and one lemma for each kind of fact: the entry that the writer
builds extends the ledger.  The facts are those of `WrittenFacts`, so these are the ledgers that the writer leaves.  The
first of them, an epoch and a toy, is at the end.
-/
namespace Mct.Sample

open Checked
open Recovery (TextSet)
open Recovery.Sample (second)

def ledgerIdentity : LedgerIdentity := ⟨"l", "m"⟩

section Run

variable [LedgerHost]

def nextEntry (l : List MctObservationLedgerEntry) (observation : MctObservation) (at_ : Timestamp) :
    MctObservationLedgerEntry :=
  sealedEntry ledgerIdentity l.length (l.getLast?.map (·.entryHash)) observation at_.value .beforeEffect .notRequired

/-- **An accepted ledger**, with its head and bounds on the ids and nonces that it has used. -/
structure Ledger (l : List MctObservationLedgerEntry) (replay : AuthorityReplayV1) (head : GrantsAuthorityIdentityV1)
    (state : AuthorityStateV1) (ids : List String) (nonces : List (String × Nat)) (grants : List String) : Prop where
  replayed : ∃ usedEpochs, Replayed l replay usedEpochs
  checked : StateChecked state
  state : replay.state = state
  authority : replay.currentAuthority = some head
  mutations : ∀ id, replay.mutations.contains id = true → id ∈ ids
  nonces : ∀ nonce ∈ replay.adminSignatureNonces, nonce ∈ nonces
  grants : ∀ id ∈ replay.adminGrantIds, id ∈ grants

variable {l : List MctObservationLedgerEntry} {replay : AuthorityReplayV1} {head : GrantsAuthorityIdentityV1}
  {s s' : AuthorityStateV1} {ids grants : List String} {nonces : List (String × Nat)}

theorem Ledger.accepted (h : Ledger l replay head s ids nonces grants) : replayAuthorityEntries l = .ok replay := by
  obtain ⟨used, hreplayed⟩ := h.replayed
  exact replayAuthorityEntries_ok.mpr ⟨used, hreplayed⟩

theorem hashes_checked (h : StateChecked s) : authorityStateHash s = .ok (canonicalHash s.canonicalRecord) :=
  authorityStateHash_ok.mpr ⟨h, rfl⟩

theorem empty_checked : StateChecked .empty := ⟨rfl, rfl, rfl, rfl, rfl, nofun⟩

omit [LedgerHost] in
theorem no_mutation {id : String} (h : (∅ : TextMap CommittedAuthorityMutationV1).contains id = true) : id ∈ ids := by
  simp at h

theorem genesis_ledger (serde : SerdeRoundTrip) {fact : AdminGenesisFactV1}
    (h : GenesisAdmitted ledgerIdentity fact.request)
    (hchecked : StateChecked (emptyAuthorityReplay.afterGenesis fact).state) :
    ∃ replay, Ledger [nextEntry [] fact.observation fact.decidedAt] replay fact.identity
      (emptyAuthorityReplay.afterGenesis fact).state [] [(fact.request.intent.root.grantId, 0)]
      [fact.request.intent.root.grantId] := by
  have hfold : foldAuthorityEntry emptyAuthorityReplay ∅ (linkAfter none []) (nextEntry [] fact.observation fact.decidedAt) =
      .ok (_, _) := h.folds serde
  have hempty : Replayed [] emptyAuthorityReplay ∅ := rfl
  refine ⟨_, ⟨_, hempty.snoc hfold⟩, hchecked, rfl, rfl, fun id => no_mutation, ?_, ?_⟩
  · intro nonce hnonce
    have hone : nonce ∈ insert (fact.request.intent.root.grantId, 0) (∅ : Finset (String × Nat)) := hnonce
    simpa using hone
  · intro id hid
    rcases mem_adminGrantIds_note.mp hid with hold | hnew
    · have hnone : id ∈ (∅ : TextSet) := hold
      simp at hnone
    · have hone : id ∈ (∅ : TextMap AdminKeyGrantV1).insert fact.request.intent.root.grantId fact.request.intent.root :=
        hnew
      rw [Std.ExtTreeMap.mem_insert, compare_eq_iff_eq] at hone
      rcases hone with rfl | hnone
      · exact List.mem_singleton_self _
      · simp at hnone

theorem epoch_ledger (serde : SerdeRoundTrip) {startup : AuthorityTenureStartupEvidenceV1} {epoch hash : String}
    (at_ : Timestamp) (h : EpochAdmitted ledgerIdentity none emptyAuthorityReplay ∅ startup epoch at_.value hash) :
    ∃ replay, Ledger [nextEntry [] ((epochFactOf ledgerIdentity emptyAuthorityReplay startup epoch at_.value
        hash).observation at_) at_] replay ⟨"m", epoch, 0, "obs:authority-epoch:" ++ epoch⟩ .empty [] [] [] ∧
      replay.mutations = ∅ ∧ replay.imported = false := by
  have hfold : foldAuthorityEntry emptyAuthorityReplay ∅ (linkAfter none []) (nextEntry [] ((epochFactOf ledgerIdentity
      emptyAuthorityReplay startup epoch at_.value hash).observation at_) at_) = .ok (_, _) :=
    h.folds serde sealedEntry_carrier rfl
  have hempty : Replayed [] emptyAuthorityReplay ∅ := rfl
  refine ⟨_, ⟨⟨_, hempty.snoc hfold⟩, empty_checked, rfl, rfl, fun id => no_mutation, ?_, ?_⟩, rfl, rfl⟩
  · intro nonce hnonce
    have hnone : nonce ∈ (∅ : Finset (String × Nat)) := hnonce
    simp at hnone
  · intro id hid
    rcases mem_adminGrantIds_note.mp hid with hold | hnew
    · have hnone : id ∈ (∅ : TextSet) := hold
      simp at hnone
    · have hnone : id ∈ (∅ : TextMap AdminKeyGrantV1) := hnew
      simp at hnone

/-- The fact that the writer builds for a mutation from one state to another. -/
def factBetween (head : GrantsAuthorityIdentityV1) (request : AuthorityMutationRequestV1) (intentHash : String)
    (state state' : AuthorityStateV1) : AuthorityMutationFactV1 :=
  mutationFactOf ledgerIdentity head request intentHash (canonicalHash state.canonicalRecord)
    (canonicalHash state'.canonicalRecord)

/-- **A mutation that the writer admits extends the ledger.** -/
theorem mutation_ledger (serde : SerdeRoundTrip) {intentHash : String} (request : AuthorityMutationRequestV1)
    (at_ : Timestamp) (h : Ledger l replay head s ids nonces grants)
    (hintent : authorityMutationIntentHash request = .ok intentHash)
    (hissuance : ∀ used : TextSet, (∀ id ∈ used, id ∈ grants) →
      validateIssuanceContext used request.changes head "l" request.mutationId request.decidedAt = .ok ())
    (hguardian : validateGuardianContext s request.changes head "l" request.decidedAt = .ok ())
    (hsigned : ∀ used : Finset (String × Nat), (∀ nonce ∈ used, nonce ∈ nonces) →
      verifyAdminChangeSignatures s used "m" "l" request.changes = .ok ())
    (happlied : applyAuthorityChanges s request.changes = .ok s') (hchecked : StateChecked s')
    (hfresh : request.mutationId ∉ ids) (hgen : head.generation + 1 < 2 ^ 64) :
    ∃ replay', Ledger (l ++ [nextEntry l ((factBetween head request intentHash s s').observation at_) at_]) replay'
      (factBetween head request intentHash s s').resultingState.grantsAuthority s'
      (request.mutationId :: ids) (nonces ++ changeNonces request.changes) (grants ++ s'.adminKeyGrants.keys) := by
  obtain ⟨used, hreplayed⟩ := h.replayed
  have hadmitted : MutationAdmitted ledgerIdentity replay request head s' intentHash (canonicalHash s.canonicalRecord)
      (canonicalHash s'.canonicalRecord) := by
    refine ⟨h.authority, hintent, ?_, hissuance _ h.grants, ?_, ?_, ?_, ?_, hashes_checked hchecked, hgen⟩
    · by_contra hused
      rw [Bool.not_eq_false] at hused
      exact hfresh (h.mutations _ hused)
    · rw [h.state]
      exact hguardian
    · rw [h.state]
      exact hsigned _ h.nonces
    · rw [h.state]
      exact happlied
    · rw [h.state]
      exact hashes_checked h.checked
  have hfold : foldAuthorityEntry replay used (linkAfter none l)
      (nextEntry l ((factBetween head request intentHash s s').observation at_) at_) = .ok (_, _) :=
    hadmitted.folds serde sealedEntry_carrier rfl
  refine ⟨_, ⟨used, hreplayed.snoc hfold⟩, hchecked, rfl, rfl, ?_, ?_, ?_⟩
  · intro id hid
    have hinsert : (replay.mutations.insert request.mutationId _).contains id = true := hid
    rw [Std.ExtTreeMap.contains_insert, Bool.or_eq_true, beq_iff_eq, compare_eq_iff_eq] at hinsert
    rcases hinsert with rfl | hold
    · exact List.mem_cons_self
    · exact List.mem_cons_of_mem _ (h.mutations _ hold)
  · intro nonce hnonce
    rcases mem_recordAdminSignatureNonces.mp hnonce with hold | hnew
    · exact List.mem_append_left _ (h.nonces _ hold)
    · exact List.mem_append_right _ hnew
  · intro id hid
    rcases mem_adminGrantIds_note.mp hid with hold | hnew
    · exact List.mem_append_left _ (h.grants _ hold)
    · exact List.mem_append_right _ (Std.ExtTreeMap.mem_keys.mpr hnew)

/-- The fact that the writer builds for the import of a state. -/
def importBetween (head : GrantsAuthorityIdentityV1) (request : LegacyAuthorityImportRequestV1) (principal : String)
    (at_ : Timestamp) (state imported : AuthorityStateV1) : LegacyAuthorityImportFactV1 :=
  importFactOf ledgerIdentity head request principal imported at_.value (canonicalHash state.canonicalRecord)
    (canonicalHash imported.canonicalRecord)

/-- **An import extends a ledger that has only its epoch.** -/
theorem import_ledger (serde : SerdeRoundTrip) (request : LegacyAuthorityImportRequestV1) (principal : String)
    (at_ : Timestamp) (h : Ledger l replay head s ids nonces grants) (hmutations : replay.mutations = ∅)
    (himported : replay.imported = false) (huntyped : s.typedAuthority = false) (huntyped' : s'.typedAuthority = false)
    (hconfirmed : request.confirmation = legacyAuthorityImportConfirmation) (hchecked : StateChecked s')
    (hsnapshot : request.expectedSqliteAuthorityHash = canonicalHash s'.canonicalRecord)
    (hgen : head.generation + 1 < 2 ^ 64) :
    ∃ replay', replayAuthorityEntries (l ++ [nextEntry l
        ((importBetween head request principal at_ s s').observation at_) at_]) = .ok replay' ∧ replay'.state = s' := by
  obtain ⟨used, hreplayed⟩ := h.replayed
  have hadmitted : ImportAdmitted replay request head s' (canonicalHash s.canonicalRecord)
      (canonicalHash s'.canonicalRecord) := by
    refine ⟨h.authority, hconfirmed, himported, ?_, ?_, huntyped', hashes_checked hchecked, hsnapshot, ?_, hgen⟩
    · rw [hmutations]
      rfl
    · rw [h.state]
      exact huntyped
    · rw [h.state]
      exact hashes_checked h.checked
  have hfold : foldAuthorityEntry replay used (linkAfter none l)
      (nextEntry l ((importBetween head request principal at_ s s').observation at_) at_) = .ok (_, _) :=
    hadmitted.folds serde sealedEntry_carrier rfl
  exact ⟨_, replayAuthorityEntries_ok.mpr ⟨used, hreplayed.snoc hfold⟩, rfl⟩

end Run

/-! ## An epoch and a toy -/

def epoch : String := freshAuthorityEpoch (Vector.replicate 32 0)

def epochIdentity : GrantsAuthorityIdentityV1 := ⟨"m", epoch, 0, "obs:authority-epoch:" ++ epoch⟩

def virginStartup : AuthorityTenureStartupEvidenceV1 where
  startupClass := .virgin
  expectedPredecessor := .noneForVirgin
  expectedPriorAuthority := none
  expectedAuthorityStateHash := stateHash .empty
  inventoryHash := "legacy-inferred-startup-evidence"
  operatorGateDecisionId := none
  authenticatedPrincipalRef := none

def epochFact : EpochEstablishedFactV1 :=
  epochFactOf ledgerIdentity emptyAuthorityReplay virginStartup epoch (second 0).value (stateHash .empty)

/-- The mutation fact that the writer builds on these hosts. -/
def writtenFact (head : GrantsAuthorityIdentityV1) (request : AuthorityMutationRequestV1)
    (state state' : AuthorityStateV1) : AuthorityMutationFactV1 :=
  mutationFactOf ledgerIdentity head request
    (Blake3.hash (bytes (intentJson request.changes request.grantShapingSources))) (stateHash state) (stateHash state')

def toyContract : ToyContractIdentity := ⟨"n", "i", "1", none, none⟩

def toy : CanonicalToyContract := ⟨⟨"t", by decide⟩, toyContract, true, 1, ⟨"o", by decide⟩⟩

def request : AuthorityMutationRequestV1 where
  mutationId := "u"
  changes := [.toyCatalogPut "t" toyContract true 1 "o"]
  grantShapingSources := [.operatorDecision "d" "p" .catalogChange]
  decidedAt := (second 1).value

def toyState : AuthorityStateV1 :=
  { AuthorityStateV1.empty with toyCatalog := (∅ : TextMap CanonicalToyContract).insert "t" toy }

def mutationFact : AuthorityMutationFactV1 := writtenFact epochIdentity request .empty toyState

@[reducible] noncomputable def host : LedgerHost := hostOf { epochs := [epochFact], mutations := [mutationFact] }

noncomputable scoped instance : LedgerHost := host

theorem serde : SerdeRoundTrip := hostOf_serde (by decide +kernel)

theorem epoch_admitted {c : Contents} : @EpochAdmitted (hostOf c) ledgerIdentity none emptyAuthorityReplay ∅ virginStartup
    epoch (second 0).value (stateHash .empty) := by
  let _ := hostOf c
  refine ⟨rfl, hashes_checked empty_checked, rfl, ?_, ?_, rfl⟩
  · decide +kernel
  · decide +kernel

noncomputable def epochEntry : MctObservationLedgerEntry := nextEntry [] (epochFact.observation (second 0)) (second 0)

noncomputable def mutationEntry : MctObservationLedgerEntry :=
  nextEntry [epochEntry] (mutationFact.observation (second 1)) (second 1)

theorem epochLedger : ∃ replay, Ledger [epochEntry] replay epochIdentity .empty [] [] [] := by
  obtain ⟨replay, h, -⟩ := epoch_ledger serde (second 0) epoch_admitted
  exact ⟨replay, h⟩

theorem toyLedger : ∃ replay nonces grants, Ledger [epochEntry, mutationEntry] replay
    mutationFact.resultingState.grantsAuthority toyState ["u"] nonces grants := by
  obtain ⟨replay, h⟩ := epochLedger
  obtain ⟨replay', h'⟩ := mutation_ledger serde request (second 1) h rfl (fun _ _ => rfl) rfl (fun _ _ => rfl) rfl
    ⟨rfl, rfl, rfl, rfl, rfl, nofun⟩ (by decide) (by decide)
  exact ⟨replay', _, _, h'⟩

end Mct.Sample
