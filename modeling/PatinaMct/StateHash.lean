import PatinaMct.Maps
import PatinaMct.ToyReferences
/-!
# StateHash — what the hash of an authority state tells about the state

The hash of a state is taken of the values of its maps, in one of five shapes.  A watch scope, an administrative grant
and a pairing ticket carry the key they are stored under, and the hash refuses a state where they do not.  A toy and a
toy grant carry their id too, but nothing compares it with the key: a mutation always stores them under their id, a
legacy import stores them as it finds them.  So the hash identifies a state up to the keys of its two toy maps, and
fully where every import stores its toys under their ids (`state_hash_identifies_iff`).
-/
namespace Mct

open Checked
open Recovery (TextSet)

def SameToyKeys (s s' : AuthorityStateV1) : Prop :=
  s.toyCatalog.keys = s'.toyCatalog.keys ∧ s.toyGrants.keys = s'.toyGrants.keys

/-- **Toys and toy grants are stored under their own ids.** -/
structure ToysKeyed (state : AuthorityStateV1) : Prop where
  catalog : ∀ (key : String) (toy : CanonicalToyContract), state.toyCatalog[key]? = some toy → key = toy.toyId.value
  grants : ∀ (key : String) (grant : ToyGrant), state.toyGrants[key]? = some grant → key = grant.grantId.value

theorem ToysKeyed.of_eq {s s' : AuthorityStateV1} (h : ToysKeyed s) (hcatalog : s'.toyCatalog = s.toyCatalog)
    (hgrants : s'.toyGrants = s.toyGrants) : ToysKeyed s' := by
  constructor
  · rw [hcatalog]
    exact h.catalog
  · rw [hgrants]
    exact h.grants

variable [LedgerHost] {s s' : AuthorityStateV1} {hash : String}

/-! ## One shape -/

theorem StateChecked.watchKeys (h : StateChecked s) : ∀ row ∈ s.watchScopes.toList, row.1 = row.2.watchScopeId.value := by
  intro row hrow
  have hcheck := forM_ok.mp h.watch row hrow
  simp only [bind_ok, exists_unit, deny_ok, decide_eq_false_iff_not, not_not] at hcheck
  exact hcheck.1

theorem StateChecked.adminKeys (h : StateChecked s) : ∀ row ∈ s.adminKeyGrants.toList, row.1 = row.2.grantId := by
  intro row hrow
  have hadmin := h.admin
  simp only [validateAdminAuthorityState, bind_ok, exists_unit] at hadmin
  have hcheck := forM_ok.mp hadmin.1 row hrow
  simp only [bind_ok, exists_unit, deny_ok, decide_eq_false_iff_not, not_not] at hcheck
  exact hcheck.1

theorem StateChecked.ticketKeys (h : StateChecked s) : ∀ row ∈ s.pairingTickets.toList, row.1 = row.2.ticketHash := by
  intro row hrow
  have hadmin := h.admin
  simp only [validateAdminAuthorityState, bind_ok, exists_unit] at hadmin
  have hcheck := forM_ok.mp hadmin.2.2 row hrow
  simp only [deny_ok, Bool.or_eq_false_iff, decide_eq_false_iff_not, not_not] at hcheck
  exact hcheck.1

/-- What is read back from the record of a state without a passkey. -/
def CanonicalRecord.parts : CanonicalRecord → Option (HashableAuthorityState × Option Recovery.GuardianRecoveryStateV1 ×
    TextMap AdminKeyIssuanceRecordV1 × Option AdminGenesisFactV1)
  | .state hashable => some (hashable, none, ∅, none)
  | .guardianState hashable recovery => some (hashable, some recovery, ∅, none)
  | .issuanceState hashable recovery issuance => some (hashable, recovery, issuance, none)
  | .strictState hashable recovery issuance genesis => some (hashable, recovery, issuance, genesis)
  | _ => none

omit [LedgerHost] in
theorem canonicalRecord_passkey (h : s.passkeyAdmin.isSome = true) : s.canonicalRecord = .passkeyState s := by
  unfold AuthorityStateV1.canonicalRecord
  rw [if_pos h]

omit [LedgerHost] in
theorem canonicalRecord_parts (h : s.passkeyAdmin = none) :
    s.canonicalRecord.parts = some (s.hashable, s.guardianRecovery, s.adminIssuance, s.adminGenesis) := by
  unfold AuthorityStateV1.canonicalRecord
  rw [h, if_neg (by decide)]
  cases hgenesis : s.adminGenesis with
  | some genesis => rfl
  | none =>
    rw [if_neg (by decide)]
    by_cases hissued : s.adminIssuance.isEmpty = true
    · rw [hissued, if_neg (by decide), Std.ExtTreeMap.isEmpty_iff.mp hissued]
      cases s.guardianRecovery <;> rfl
    · rw [Bool.not_eq_true] at hissued
      rw [hissued, if_pos (by decide)]
      rfl

omit [LedgerHost] in
/-- Two states with one record are the same, or have no passkey and agree in what the record says. -/
theorem record_cases (hrec : s.canonicalRecord = s'.canonicalRecord) :
    s = s' ∨ (s.passkeyAdmin = none ∧ s'.passkeyAdmin = none ∧ s.hashable = s'.hashable ∧
      s.guardianRecovery = s'.guardianRecovery ∧ s.adminIssuance = s'.adminIssuance ∧
      s.adminGenesis = s'.adminGenesis) := by
  cases hp : s.passkeyAdmin with
  | some passkey =>
    have hsome : s.passkeyAdmin.isSome = true := by rw [hp]; rfl
    cases hp' : s'.passkeyAdmin with
    | some passkey' =>
      have hsome' : s'.passkeyAdmin.isSome = true := by rw [hp']; rfl
      rw [canonicalRecord_passkey hsome, canonicalRecord_passkey hsome'] at hrec
      exact .inl (CanonicalRecord.passkeyState.inj hrec)
    | none =>
      have hparts := canonicalRecord_parts hp'
      rw [← hrec, canonicalRecord_passkey hsome] at hparts
      cases hparts
  | none =>
    have hparts := canonicalRecord_parts hp
    cases hp' : s'.passkeyAdmin with
    | some passkey' =>
      have hsome' : s'.passkeyAdmin.isSome = true := by rw [hp']; rfl
      rw [hrec, canonicalRecord_passkey hsome'] at hparts
      cases hparts
    | none =>
      rw [hrec, canonicalRecord_parts hp', Option.some.injEq, Prod.mk.injEq, Prod.mk.injEq, Prod.mk.injEq] at hparts
      obtain ⟨hhas, hguardian, hissued, hgenesis⟩ := hparts
      exact .inr ⟨rfl, rfl, hhas.symm, hguardian.symm, hissued.symm, hgenesis.symm⟩

/-- **The record of a state tells everything but the keys of its toys.** -/
theorem state_eq_of_record (h : StateChecked s) (h' : StateChecked s')
    (hrec : s.canonicalRecord = s'.canonicalRecord) (hkeys : SameToyKeys s s') : s = s' := by
  obtain heq | ⟨hp, hp', hhas, hguardian, hissued, hgenesis⟩ := record_cases hrec
  · exact heq
  simp only [AuthorityStateV1.hashable, HashableAuthorityState.mk.injEq] at hhas
  obtain ⟨hcatalog, hgrants, hwatch, hadmin, hticket⟩ := hhas
  have hcatalog := Maps.eq_of_keys_values hkeys.1 hcatalog
  have hgrants := Maps.eq_of_keys_values hkeys.2 hgrants
  have hwatch := Maps.eq_of_named (fun scope => scope.watchScopeId.value) h.watchKeys h'.watchKeys hwatch
  have hadmin := Maps.eq_of_named AdminKeyGrantV1.grantId h.adminKeys h'.adminKeys hadmin
  have hticket := Maps.eq_of_named PairingTicketV1.ticketHash h.ticketKeys h'.ticketKeys hticket
  obtain ⟨⟩ := s
  obtain ⟨⟩ := s'
  rw [AuthorityStateV1.mk.injEq]
  exact ⟨hcatalog, hgrants, hwatch, hadmin, hticket, hguardian, hissued, hgenesis, hp.trans hp'.symm⟩

/-! ## Ledgers -/

/-- Every import of the ledger stores its toys under their ids. -/
def ImportsKeyed (entries : List MctObservationLedgerEntry) : Prop :=
  ∀ entry ∈ entries, ∀ fact, factOf entry = some (.legacyAuthorityImport fact) → ToysKeyed fact.importedState

variable {replay replay' : AuthorityReplayV1} {u : TextSet} {entry : MctObservationLedgerEntry}
  {entries entries' : List MctObservationLedgerEntry} {ch : AuthorityChangeV1} {chs : List AuthorityChangeV1}

omit [LedgerHost] in
theorem ToyStep.keyed (h : ToyStep s s' ch) (hkeyed : ToysKeyed s) : ToysKeyed s' := by
  cases h with
  | catalogPut v hid hc hg =>
    refine ⟨?_, hg ▸ hkeyed.grants⟩
    intro key toy htoy
    rw [hc, Std.ExtTreeMap.getElem?_insert] at htoy
    split at htoy
    · rename_i hkey
      cases htoy
      rw [hid]
      exact (compare_eq_iff_eq.mp hkey).symm
    · exact hkeyed.catalog key toy htoy
  | catalogRemove hc hg =>
    refine ⟨?_, hg ▸ hkeyed.grants⟩
    intro key toy htoy
    rw [hc, Std.ExtTreeMap.getElem?_erase] at htoy
    split at htoy
    · cases htoy
    · exact hkeyed.catalog key toy htoy
  | grantPut g hid _ _ _ hc hg =>
    refine ⟨hc ▸ hkeyed.catalog, ?_⟩
    intro key g hgrant
    rw [hg, Std.ExtTreeMap.getElem?_insert] at hgrant
    split at hgrant
    · rename_i hkey
      cases hgrant
      rw [hid]
      exact (compare_eq_iff_eq.mp hkey).symm
    · exact hkeyed.grants key g hgrant
  | grantRemove hc hg =>
    refine ⟨hc ▸ hkeyed.catalog, ?_⟩
    intro key g hgrant
    rw [hg, Std.ExtTreeMap.getElem?_erase] at hgrant
    split at hgrant
    · cases hgrant
    · exact hkeyed.grants key g hgrant
  | other _ _ _ hc hg => exact hkeyed.of_eq hc hg

theorem foldChanges_keyed (h : chs.foldlM applyOrdinaryChange s = .ok s') (hkeyed : ToysKeyed s) : ToysKeyed s' := by
  induction chs generalizing s with
  | nil =>
    cases h
    exact hkeyed
  | cons ch chs ih =>
    rw [List.foldlM_cons, bind_ok] at h
    obtain ⟨middle, hstep, hrest⟩ := h
    exact ih hrest ((applyOrdinaryChange_step hstep).1.keyed hkeyed)

theorem AuthorityStep.keyed {fact : Option CanonicalFact} (h : AuthorityStep replay entry s fact)
    (himports : ∀ fact', fact = some (.legacyAuthorityImport fact') → ToysKeyed fact'.importedState)
    (hkeyed : ToysKeyed replay.state) : ToysKeyed s := by
  cases h with
  | plain hstate => exact hstate ▸ hkeyed
  | passkey fact next _ hstate =>
    subst hstate
    exact hkeyed.of_eq rfl rfl
  | genesis fact _ _ _ hstate =>
    subst hstate
    exact hkeyed.of_eq rfl rfl
  | epoch fact _ _ hstate => exact hstate ▸ hkeyed
  | mutation fact hvalid =>
    obtain ⟨_, _, _, _, -, -, -, -, -, -, happ, -⟩ := validateAuthorityMutationFact_ok.mp hvalid
    obtain ⟨hcatalog, hgrants, -⟩ | hfold := applyAuthorityChanges_toys happ
    · exact hkeyed.of_eq hcatalog hgrants
    · exact foldChanges_keyed hfold hkeyed
  | «import» fact _ _ _ hstate =>
    rw [hstate]
    exact himports fact rfl

theorem Replayed.toysKeyed (h : Replayed entries replay u) (himp : ImportsKeyed entries) :
    ToysKeyed replay.state := by
  refine h.induction (fun l r _ => ImportsKeyed l → ToysKeyed r.state) ?_ ?_ himp
  · intro _
    constructor
    · intro key toy htoy
      exact absurd htoy (by simp [emptyAuthorityReplay, AuthorityStateV1.empty])
    · intro key g hgrant
      exact absurd hgrant (by simp [emptyAuthorityReplay, AuthorityStateV1.empty])
  · intro l entry r v r' v' hl ih hfold hkeyed
    refine (foldAuthorityEntry_step hfold).1.keyed (hkeyed entry (by simp)) (ih ?_)
    intro e he
    exact hkeyed e (List.mem_append_left _ he)

/-! ## Accepted states -/

theorem AdminGenesisRequestV1.validate_root {request : AdminGenesisRequestV1} (h : request.validate = .ok ()) :
    adminKeyGrantShapeError request.intent.root = none ∧ request.intent.root.class_ = .recovery ∧
      request.intent.root.grantState = .active := by
  simp only [AdminGenesisRequestV1.validate, bind_ok, exists_unit, deny_ok, malformed, Bool.or_eq_false_iff,
    decide_eq_false_iff_not, not_not, Option.isSome_eq_false_iff, Option.isNone_iff_eq_none] at h
  tauto

theorem genesis_checked {fact : AdminGenesisFactV1} {root : AdminKeyGrantV1} (hroot : fact.request.intent.root = root)
    (h : fact.request.validate = .ok ()) : StateChecked { AuthorityStateV1.empty with
      adminKeyGrants := (∅ : TextMap AdminKeyGrantV1).insert root.grantId root
      adminGenesis := some fact } := by
  obtain ⟨hshape, hclass, hact⟩ := hroot ▸ AdminGenesisRequestV1.validate_root h
  have hceiling : root.issuanceCeiling = none := by
    unfold adminKeyGrantShapeError at hshape
    split_ifs at hshape with _ _ _ hany
    cases hc : root.issuanceCeiling with
    | none => rfl
    | some ceiling => simp [hc, hclass] at hany
  have hrows : ((∅ : TextMap AdminKeyGrantV1).insert root.grantId root).toList = [(root.grantId, root)] := rfl
  have hvalues : ((∅ : TextMap AdminKeyGrantV1).insert root.grantId root).values = [root] := rfl
  refine ⟨rfl, ?_, rfl, ?_, ?_, nofun⟩
  · simp [validateAdminAuthorityState, hrows, hvalues, validateAdminKeyGrantShape, hshape, hclass, hact, deny]
    rfl
  · simp [validateIssuanceState, hvalues, hceiling, deny]
    rfl
  · simp only [validateGenesisState, bind_ok, exists_unit, deny_ok, okOr_ok, hvalues]
    exact ⟨h, root, by simp [hclass, hact], by simp [bne, hroot], rfl⟩

/-- **Every state of an accepted ledger passes the ledger's own checks**, so it can be hashed. -/
theorem accepted_state_hashes (h : replayAuthorityEntries entries = .ok replay) :
    StateChecked replay.state ∧ authorityStateHash replay.state = .ok (canonicalHash replay.state.canonicalRecord) := by
  obtain ⟨u, h⟩ := replayAuthorityEntries_ok.mp h
  suffices hchk : StateChecked replay.state from ⟨hchk, authorityStateHash_ok.mpr ⟨hchk, rfl⟩⟩
  refine h.stateInduction StateChecked ⟨rfl, rfl, rfl, rfl, rfl, nofun⟩ ?_
  intro l r v entry s fact _ ih step
  cases step with
  | plain hstate | epoch _ _ _ hstate => exact hstate ▸ ih
  | passkey fact next htrans hstate =>
    subst hstate
    refine ⟨ih.watch, ih.admin, ih.guardian, ih.issuance, ih.genesis, fun _ => ?_⟩
    unfold passkeyTransition at htrans
    split at htrans
    · rename_i prior hprior
      exact ih.unmixed (by rw [hprior]; rfl)
    · obtain ⟨_, -, hempty, -⟩ := passkeyOrigin_ok.mp htrans
      rw [hempty]
      exact ⟨rfl, rfl, rfl, rfl⟩
  | genesis fact hvalid hempty _ hstate =>
    rw [hstate, AuthorityReplayV1.afterGenesis, hempty]
    exact genesis_checked rfl hvalid
  | mutation fact hvalid =>
    obtain ⟨_, _, _, _, -, -, -, -, -, -, -, hhash, -⟩ := validateAuthorityMutationFact_ok.mp hvalid
    exact (authorityStateHash_ok.mp hhash).1
  | «import» fact hvalid _ _ hstate =>
    obtain ⟨_, _, _, -, -, -, -, -, hhash, -⟩ := validateLegacyImportFact_ok.mp hvalid
    exact hstate ▸ (authorityStateHash_ok.mp hhash).1

omit [LedgerHost] in
theorem ToysKeyed.sameKeys (h : ToysKeyed s) (h' : ToysKeyed s') (hrec : s.canonicalRecord = s'.canonicalRecord) :
    SameToyKeys s s' := by
  obtain rfl | ⟨-, -, hhas, -⟩ := record_cases hrec
  · exact ⟨rfl, rfl⟩
  simp only [AuthorityStateV1.hashable, HashableAuthorityState.mk.injEq] at hhas
  have rows : ∀ {V : Type} {m : TextMap V} {row : String × V}, row ∈ m.toList → m[row.1]? = some row.2 :=
    fun hrow => Std.ExtTreeMap.mem_toList_iff_getElem?_eq_some.mp hrow
  constructor
  · rw [Maps.eq_of_named (fun toy => toy.toyId.value) (fun row hrow => h.catalog _ _ (rows hrow))
      (fun row hrow => h'.catalog _ _ (rows hrow)) hhas.1]
  · rw [Maps.eq_of_named (fun g => g.grantId.value) (fun row hrow => h.grants _ _ (rows hrow))
      (fun row hrow => h'.grants _ _ (rows hrow)) hhas.2.1]

/-- **Two accepted ledgers whose states have one hash have one state exactly when their toys have the same keys**, and
they do when every import stores its toys under their ids. -/
theorem state_hash_identifies_iff (h : replayAuthorityEntries entries = .ok replay)
    (h' : replayAuthorityEntries entries' = .ok replay')
    (collisionFree : blake3 (LedgerHost.canonicalJson replay.state.canonicalRecord) =
        blake3 (LedgerHost.canonicalJson replay'.state.canonicalRecord) →
      LedgerHost.canonicalJson replay.state.canonicalRecord = LedgerHost.canonicalJson replay'.state.canonicalRecord)
    (injective : LedgerHost.canonicalJson replay.state.canonicalRecord =
        LedgerHost.canonicalJson replay'.state.canonicalRecord →
      replay.state.canonicalRecord = replay'.state.canonicalRecord) :
    (∀ hash, authorityStateHash replay.state = .ok hash → authorityStateHash replay'.state = .ok hash →
      (replay.state = replay'.state ↔ SameToyKeys replay.state replay'.state)) ∧
    (ImportsKeyed entries → ImportsKeyed entries' → ∀ hash, authorityStateHash replay.state = .ok hash →
      authorityStateHash replay'.state = .ok hash → replay.state = replay'.state) := by
  have hidentity : ∀ hash, authorityStateHash replay.state = .ok hash → authorityStateHash replay'.state = .ok hash →
      replay.state.canonicalRecord = replay'.state.canonicalRecord ∧
        (SameToyKeys replay.state replay'.state → replay.state = replay'.state) := by
    intro hash hhash hhash'
    obtain ⟨hchk, hhash⟩ := authorityStateHash_ok.mp hhash
    obtain ⟨hchk', hhash'⟩ := authorityStateHash_ok.mp hhash'
    have hrec := injective (collisionFree (hhash.trans hhash'.symm))
    exact ⟨hrec, state_eq_of_record hchk hchk' hrec⟩
  constructor
  · intro hash hhash hhash'
    refine ⟨?_, (hidentity hash hhash hhash').2⟩
    intro heq
    rw [heq]
    exact ⟨rfl, rfl⟩
  · intro himp himp' hash hhash hhash'
    obtain ⟨u, h⟩ := replayAuthorityEntries_ok.mp h
    obtain ⟨u', h'⟩ := replayAuthorityEntries_ok.mp h'
    obtain ⟨hrec, hstate⟩ := hidentity hash hhash hhash'
    exact hstate ((h.toysKeyed himp).sameKeys (h'.toysKeyed himp') hrec)

end Mct

namespace Mct.ToySample

open Recovery.Sample (second)
open Sample (nextEntry hostOf hostOf_serde stateHash stateHash_of_checked epochFact epochIdentity epoch_ledger
  epoch_admitted importBetween import_ledger ledgerIdentity)

/-! Two imports of one toy, stored under two keys. -/

def writerToy : CanonicalToyContract :=
  ⟨⟨"writer-toy", by decide⟩, ⟨"files", "writer", "1", none, none⟩, true, 1, ⟨"writer-admitted", by decide⟩⟩

def storedUnder (key : String) : AuthorityStateV1 :=
  { AuthorityStateV1.empty with toyCatalog := (∅ : TextMap CanonicalToyContract).insert key writerToy }

def importRequest (importId key : String) : LegacyAuthorityImportRequestV1 :=
  ⟨"mct-legacy-authority-import-request/v1", importId, "m", "l", stateHash .empty, stateHash (storedUnder key),
    legacyAuthorityImportConfirmation⟩

def importFact (importId key : String) : LegacyAuthorityImportFactV1 :=
  importFactOf ledgerIdentity epochIdentity (importRequest importId key) "p" (storedUnder key) (second 1).value
    (stateHash .empty) (stateHash (storedUnder key))

@[reducible] noncomputable def importHost : LedgerHost :=
  hostOf { epochs := [epochFact], imports := [importFact "keyed" "writer-toy", importFact "misplaced" "elsewhere"] }

theorem imports_serde : @SerdeRoundTrip importHost := hostOf_serde (by decide +kernel)

noncomputable def importedLedger (importId key : String) : List MctObservationLedgerEntry :=
  let l := [@nextEntry importHost [] (@EpochEstablishedFactV1.observation importHost epochFact (second 0)) (second 0)]
  l ++ [@nextEntry importHost l
    (@LegacyAuthorityImportFactV1.observation importHost (importFact importId key) (second 1)) (second 1)]

theorem storedUnder_checked (key : String) : @StateChecked importHost (storedUnder key) :=
  @StateChecked.mk importHost _ rfl rfl rfl rfl rfl nofun

theorem importedLedger_replays (importId key : String) :
    ∃ r, @replayAuthorityEntries importHost (importedLedger importId key) = .ok r ∧ r.state = storedUnder key := by
  obtain ⟨r, h, hmutations, himported⟩ := @epoch_ledger importHost imports_serde _ _ _ (second 0) epoch_admitted
  exact @import_ledger importHost _ _ _ _ _ _ _ _ imports_serde (importRequest importId key) "p" (second 1) h hmutations
    himported rfl rfl rfl (storedUnder_checked key) rfl (by decide)

def writerHash : String := stateHash (storedUnder "writer-toy")

theorem storedUnder_hash (key : String) : @authorityStateHash importHost (storedUnder key) = .ok writerHash :=
  stateHash_of_checked (storedUnder_checked key)

theorem storedUnder_ne : storedUnder "writer-toy" ≠ storedUnder "elsewhere" := by
  intro heq
  have hget := congrArg (fun s : AuthorityStateV1 => (s.toyCatalog["elsewhere"]?).isSome) heq
  exact absurd hget (by decide)

/-- **Two accepted ledgers have different states with one hash.** -/
theorem one_hash_two_states : ∃ replay replay' hash,
    @replayAuthorityEntries importHost (importedLedger "keyed" "writer-toy") = .ok replay ∧
      @replayAuthorityEntries importHost (importedLedger "misplaced" "elsewhere") = .ok replay' ∧
      @authorityStateHash importHost replay.state = .ok hash ∧
      @authorityStateHash importHost replay'.state = .ok hash ∧ replay.state ≠ replay'.state := by
  obtain ⟨replay, h, hstate⟩ := importedLedger_replays "keyed" "writer-toy"
  obtain ⟨replay', h', hstate'⟩ := importedLedger_replays "misplaced" "elsewhere"
  refine ⟨replay, replay', writerHash, h, h', ?_, ?_, ?_⟩
  · rw [hstate]
    exact storedUnder_hash "writer-toy"
  · rw [hstate']
    exact storedUnder_hash "elsewhere"
  · rw [hstate, hstate']
    exact storedUnder_ne

theorem state_hash_identifies_imports : ∃ replay replay' hash,
    @replayAuthorityEntries importHost (importedLedger "keyed" "writer-toy") = .ok replay ∧
      @replayAuthorityEntries importHost (importedLedger "misplaced" "elsewhere") = .ok replay' ∧
      @authorityStateHash importHost replay.state = .ok hash ∧
      @authorityStateHash importHost replay'.state = .ok hash ∧
      (replay.state = replay'.state ↔ SameToyKeys replay.state replay'.state) := by
  obtain ⟨replay, h, hstate⟩ := importedLedger_replays "keyed" "writer-toy"
  obtain ⟨replay', h', hstate'⟩ := importedLedger_replays "misplaced" "elsewhere"
  have hhash : @authorityStateHash importHost replay.state = .ok writerHash := hstate ▸ storedUnder_hash "writer-toy"
  have hhash' : @authorityStateHash importHost replay'.state = .ok writerHash := hstate' ▸ storedUnder_hash "elsewhere"
  have hrecord : replay.state.canonicalRecord = replay'.state.canonicalRecord := by
    rw [hstate, hstate']
    rfl
  have hident := @state_hash_identifies_iff importHost _ _ _ _ h h' (fun _ => by rw [hrecord]) fun _ => hrecord
  exact ⟨replay, replay', writerHash, h, h', hhash, hhash', hident.1 _ hhash hhash'⟩

end Mct.ToySample
