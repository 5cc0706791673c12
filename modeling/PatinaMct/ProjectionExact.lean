import PatinaMct.Delegation
import PatinaMct.Projection
/-!
# ProjectionExact — when a published projection is the authority state

A publication writes the toys, the toy grants and the watch scopes of the authority state, each row under the id of its
value, and nothing else of the state.  So what is read back is the state exactly when the state has nothing else and its
maps are keyed by those ids (`projection_exact_iff`); then the proof for the published head is usable.  The shortcut for
an unchanged state changes nothing of this, because an identity never stands for two states of one ledger.
-/
namespace Mct

open Checked
open Recovery (TextSet)

/-! ## Integers of a row -/

theorem getU64_asI64 {n : Nat} (hbound : n < 2 ^ 64) (hcheck : 0 ≤ asI64 n) :
    getU64 (asI64 n) = .ok n ∧ asI64 n = n := by
  unfold asI64 at hcheck ⊢
  split
  · exact ⟨by simp [getU64], rfl⟩
  · rename_i hbig
    rw [if_neg hbig] at hcheck
    omega

variable [ProjectionHost]

/-! ## Cells -/

section Cells

variable {V : Type} {codec : Codec V String} {table : Table CellRow.sameId} {id : V → String} {values : List V}

omit [ProjectionHost] in
theorem mem_cellRows (lawful : codec.Lawful) (values : List V) {v : V} :
    (⟨id v, codec.encode v⟩ : CellRow) ∈ cellRows codec id values ↔ v ∈ values := by
  unfold cellRows
  constructor
  · intro h
    obtain ⟨stored, hstored, heq⟩ := List.mem_map.mp h
    rw [CellRow.mk.injEq] at heq
    rwa [← lawful.encode_injective heq.2]
  · exact List.mem_map_of_mem

omit [ProjectionHost] in
/-- **A table of cells reads back as the values under their own ids.** -/
theorem readCells_cellRows (lawful : codec.Lawful) (hrows : table.rows = cellRows codec id values) :
    ∃ map, readCells codec table = .ok map ∧
      ∀ (key : String) (value : V), map[key]? = some value ↔ value ∈ values ∧ key = id value := by
  have hperm : (table.select fun a b => a.id ≤ b.id).Perm (cellRows codec id values) :=
    hrows ▸ List.perm_insertionSort _ _
  -- the rows come back in the order of their ids: the cells of the same values in another order
  obtain ⟨ordered, hord⟩ : ∃ ordered, cellRows codec id ordered = table.select fun a b => a.id ≤ b.id := by
    have hrange : (table.select fun a b => a.id ≤ b.id) ∈
        Set.range (List.map fun value => (⟨id value, codec.encode value⟩ : CellRow)) := by
      rw [Set.range_list_map]
      intro row hrow
      obtain ⟨value, -, hvalue⟩ := List.mem_map.mp (hperm.subset hrow)
      exact ⟨value, hvalue⟩
    exact hrange
  have hmem : ∀ value, value ∈ ordered ↔ value ∈ values := by
    intro value
    rw [← mem_cellRows lawful ordered, hord, hperm.mem_iff, mem_cellRows lawful values]
  have hdistinct : (ordered.map fun value => (id value, value)).Pairwise fun a b => a.1 ≠ b.1 := by
    have hrows : (cellRows codec id ordered).Pairwise fun a b => CellRow.sameId a b = false := by
      rw [hord]
      refine (List.Perm.pairwise_iff ?_ (List.perm_insertionSort _ _)).mpr table.distinct
      intro a b hab
      rw [← hab, CellRow.sameId, CellRow.sameId, Bool.eq_iff_iff, beq_iff_eq, beq_iff_eq, eq_comm]
    rw [cellRows, List.pairwise_map] at hrows
    rw [List.pairwise_map]
    exact hrows.imp fun h => by simpa [CellRow.sameId] using h
  refine ⟨Std.ExtTreeMap.ofList (ordered.map fun value => (id value, value)) compare, ?_, fun key value => ?_⟩
  · unfold readCells
    rw [← hord, cellRows, List.mapM_map, mapM_ok_of_forall (g := fun value => (id value, value))]
    · rfl
    · intro value _
      show (codec.decode (codec.encode value) >>= fun decoded => pure (id value, decoded)) = _
      rw [lawful value]
      rfl
  · rw [Maps.getElem?_ofList hdistinct, List.mem_map]
    constructor
    · rintro ⟨stored, hstored, heq⟩
      cases heq
      exact ⟨(hmem value).mp hstored, rfl⟩
    · rintro ⟨hvalue, rfl⟩
      exact ⟨value, (hmem value).mpr hvalue, rfl⟩

omit [ProjectionHost] in
/-- It reads back as the map that was written exactly when the map has each value under its own id. -/
theorem readCells_exact_iff (lawful : codec.Lawful) {written : TextMap V}
    (hrows : table.rows = cellRows codec id written.values) :
    ∃ map, readCells codec table = .ok map ∧
      (map = written ↔ ∀ (key : String) (value : V), written[key]? = some value → key = id value) := by
  obtain ⟨map, hread, hmap⟩ := readCells_cellRows lawful hrows
  refine ⟨map, hread, ?_⟩
  constructor
  · rintro rfl key value hget
    exact ((hmap key value).mp hget).2
  · intro hkeyed
    apply Std.ExtTreeMap.ext_getElem?
    intro key
    apply Option.ext
    intro value
    rw [hmap, Maps.mem_values]
    constructor
    · rintro ⟨⟨stored, hstored⟩, rfl⟩
      rwa [← hkeyed stored value hstored]
    · intro hget
      exact ⟨⟨key, hget⟩, hkeyed key value hget⟩

end Cells

/-! ## Facts and identities along a ledger -/

section Ledger

variable {replay replay' : AuthorityReplayV1} {usedEpochs usedEpochs' : TextSet} {prev : Option (Nat × String)}
  {e : MctObservationLedgerEntry} {entries : List MctObservationLedgerEntry} {ledger : LedgerIdentity}

theorem foldFact_named {text : String} {body : Json}
    (h : foldFact replay usedEpochs prev e text body = .ok (replay', usedEpochs')) :
    replay'.facts = replay.facts ∧ ∃ next, replay'.currentAuthority = some next ∧
      next.motherNodeId = e.motherNodeId := by
  rcases foldFact_cases h with ⟨fact, -, hr⟩ | ⟨fact, -, hr⟩ | ⟨fact, -, hr⟩ | ⟨fact, -, hr, -⟩ | ⟨fact, -, hr, -⟩
  · obtain ⟨_, next, identity, hmother, -, -, -, -, -, -, -, hidentity, rfl⟩ := replayPasskeyFact_ok.mp hr
    obtain ⟨-, rfl⟩ := PasskeyAdminFactV1.identity_ok.mp hidentity
    exact ⟨rfl, _, rfl, hmother.symm⟩
  · obtain ⟨-, -, -, -, -, -, -, -, hmother, -, -, -, -, rfl, -⟩ := replayGenesis_ok.mp hr
    exact ⟨rfl, _, rfl, hmother.symm⟩
  · obtain ⟨hvalid, rfl, -⟩ := replayEpochFact_ok.mp hr
    obtain ⟨_, -, -, -, -, -, -, -, -, -, -, -, -, -, -, -, -, -, -, hres⟩ := validateEpochFact_ok.mp hvalid
    refine ⟨rfl, _, rfl, ?_⟩
    rw [hres]
  · obtain ⟨resulting, hvalid, -, rfl⟩ := replayMutationFact_ok.mp hr
    obtain ⟨_, _, _, _, -, -, -, -, -, -, -, -, -, -, -, -, -, -, -, hres⟩ :=
      validateAuthorityMutationFact_ok.mp hvalid
    refine ⟨rfl, _, rfl, ?_⟩
    rw [hres]
  · obtain ⟨hvalid, -, -, rfl⟩ := replayImportFact_ok.mp hr
    obtain ⟨_, _, _, -, -, -, -, -, -, -, -, -, -, -, -, -, hres, -⟩ := validateLegacyImportFact_ok.mp hvalid
    refine ⟨rfl, _, rfl, ?_⟩
    rw [hres]

/-- **What an entry adds to the facts, and whose authority it leaves.** -/
theorem foldAuthorityEntry_named (h : foldAuthorityEntry replay usedEpochs prev e = .ok (replay', usedEpochs')) :
    (replay'.facts = replay.facts ∧ replay'.currentAuthority = replay.currentAuthority) ∨
      (∃ fact, fact.sourceSequence = e.localSequence ∧ fact.factId = e.observation.observationId.value ∧
          replay'.facts = replay.facts ++ [fact]) ∧
        ∃ next, replay'.currentAuthority = some next ∧ next.motherNodeId = e.motherNodeId := by
  cases hp : authorityPayload e with
  | none =>
    obtain ⟨rfl, -⟩ := foldAuthorityEntry_plain h hp
    exact .inl ⟨rfl, rfl⟩
  | some pl =>
    obtain ⟨middle, hb, rfl⟩ := foldAuthorityEntry_ok.mp h
    simp only [foldAuthorityEntryBody, hp] at hb
    obtain ⟨env, middle', -, -, hid, hf, rfl⟩ := foldCanonicalFact_ok.mp hb
    obtain ⟨hfacts, next, hnext, hmother⟩ := foldFact_named hf
    refine .inr ⟨⟨⟨env.factId, env.factKind, e.localSequence, e.entryHash, pl⟩, rfl, hid, ?_⟩,
      next, hnext, hmother⟩
    show middle'.facts ++ _ = replay.facts ++ _
    rw [hfacts]

/-- **What a chain says about its replay**: the facts are in the order of their sequences and have the ids of their
entries, and the authority is that of the Mother. -/
structure NamedReplay (ledger : LedgerIdentity) (entries : List MctObservationLedgerEntry) (replay : AuthorityReplayV1) :
    Prop where
  ascending : replay.facts.Pairwise fun a b => a.sourceSequence < b.sourceSequence
  below : ∀ fact ∈ replay.facts, fact.sourceSequence < entries.length
  ids : (replay.facts.map (·.factId)).Sublist (entries.map (·.observation.observationId.value))
  mother : ∀ authority, replay.currentAuthority = some authority → authority.motherNodeId = ledger.motherNodeId

theorem NamedReplay.step (h : NamedReplay ledger entries replay)
    (hf : foldAuthorityEntry replay usedEpochs prev e = .ok (replay', usedEpochs'))
    (hseq : e.localSequence = entries.length) (hmother : e.motherNodeId = ledger.motherNodeId) :
    NamedReplay ledger (entries ++ [e]) replay' := by
  rcases foldAuthorityEntry_named hf with ⟨hfacts, hauth⟩ | ⟨⟨fact, hfact, hid, hfacts⟩, next, hnext, hname⟩
  · refine ⟨hfacts ▸ h.ascending, ?_, ?_, hauth ▸ h.mother⟩
    · rw [hfacts, List.length_append]
      exact fun fact hfact => Nat.lt_succ_of_lt (h.below fact hfact)
    · rw [hfacts, List.map_append]
      exact h.ids.trans (List.sublist_append_left _ _)
  · refine ⟨?_, ?_, ?_, ?_⟩
    · rw [hfacts, List.pairwise_append]
      refine ⟨h.ascending, List.pairwise_singleton _ _, fun earlier hearlier later hlater => ?_⟩
      rw [List.mem_singleton.mp hlater, hfact, hseq]
      exact h.below earlier hearlier
    · intro stored hstored
      rw [hfacts, List.mem_append, List.mem_singleton] at hstored
      rw [List.length_append, List.length_singleton]
      rcases hstored with hstored | rfl
      · exact Nat.lt_succ_of_lt (h.below stored hstored)
      · omega
    · rw [hfacts, List.map_append, List.map_append, List.map_singleton, List.map_singleton, hid]
      exact h.ids.append (List.Sublist.refl _)
    · intro au hauth
      rw [hnext, Option.some.injEq] at hauth
      rw [← hauth, hname, hmother]

theorem Replayed.named (h : Replayed entries replay usedEpochs) (hlinked : linked ledger 0 none entries = true) :
    NamedReplay ledger entries replay := by
  induction entries using List.reverseRecOn generalizing replay usedEpochs with
  | nil =>
    cases h
    exact ⟨.nil, fun fact hfact => (by cases hfact), .slnil, fun au hauth => (by cases hauth)⟩
  | append_singleton front e ih =>
    obtain ⟨r, u, hl, hf⟩ := replayed_snoc h
    rw [linked_append, Bool.and_eq_true, Nat.zero_add] at hlinked
    have hfollows := follows_iff.mp (Bool.and_eq_true_iff.mp hlinked.2).1
    exact (ih hl hlinked.1).step hf hfollows.1 hfollows.2.1.2

end Ledger

/-! ## One publication -/

section Publish

variable {store store' : AuthorityProjectionTables} {head : LedgerVerifiedHead} {replay : AuthorityReplayV1}
  {cursor : AuthorityProjectionCursorV1} {row : CursorRow} {updatedAt : String} {commit : Except String Unit}
  {ledger : LedgerIdentity} {entries : List MctObservationLedgerEntry}

/-- **The tables hold a replay**, under the cursor `row`. -/
structure HoldsReplay (store : AuthorityProjectionTables) (replay : AuthorityReplayV1) (row : CursorRow) : Prop where
  toyCatalog : store.toyCatalog.rows =
    cellRows ProjectionHost.toyContractCell (·.toyId.value) replay.state.toyCatalog.values
  toyGrants : store.toyGrants.rows =
    cellRows ProjectionHost.toyGrantCell (·.grantId.value) replay.state.toyGrants.values
  watchScopes : store.watchScopes.rows =
    cellRows ProjectionHost.watchScopeCell (·.watchScopeId.value) replay.state.watchScopes.values
  facts : store.facts.rows = replay.facts.map factRow
  sequences : ∀ fact ∈ replay.facts, 0 ≤ asI64 fact.sourceSequence
  cursor : store.cursor = some row

theorem writeProjection_holds (h : writeProjection replay row = .ok store) : HoldsReplay store replay row := by
  simp only [writeProjection, bind_ok, exists_unit, okOr_ok, deny_ok, pure_ok, Table.insertAll_some] at h
  obtain ⟨toyCatalog, ⟨-, hcatalog⟩, toyGrants, ⟨-, hgrants⟩, watchScopes, ⟨-, hscopes⟩, hcheck, facts, ⟨-, hfacts⟩,
    rfl⟩ := h
  refine ⟨hcatalog, hgrants, hscopes, hfacts, fun fact hfact => ?_, rfl⟩
  have hrow := List.any_eq_false.mp hcheck (factRow fact) (List.mem_map_of_mem hfact)
  rw [decide_eq_true_eq, not_lt] at hrow
  exact hrow

theorem authorityCursorFromRow_cursorRow (cells : CellRoundTrip) {au : GrantsAuthorityIdentityV1}
    {sh : String} (hcur : cursor = publishedCursor head au sh updatedAt)
    (hbound : head.localSequence < 2 ^ 64) (hcheck : 0 ≤ asI64 head.localSequence) :
    authorityCursorFromRow (cursorRow cursor) = .ok cursor := by
  subst hcur
  have hseq := (getU64_asI64 hbound hcheck).1
  have hver : getU64 (asI64 1) = .ok 1 := rfl
  simp only [authorityCursorFromRow, cursorRow, publishedCursor, hseq, hver, cells.grantsAuthority au,
    ok_bind, pure, Except.pure]

/-- **What an accepted publication checked, and what it wrote.** -/
theorem publishReplay_ok (h : publishReplay store head replay updatedAt commit = (.ok cursor, store')) :
    ∃ au sh, replay.state.passkeyAdmin = none ∧ replay.currentAuthority = some au ∧
      authorityStateHash replay.state = .ok sh ∧ cursor = publishedCursor head au sh updatedAt ∧
      0 ≤ asI64 head.localSequence ∧
      ((projectionCursorMatchesUnchangedState store head au sh = true ∧
          store' = { store with cursor := some (advanceCursor store.cursor (cursorRow cursor)) }) ∨
        (projectionCursorMatchesUnchangedState store head au sh = false ∧
          writeProjection replay (cursorRow cursor) = .ok store')) := by
  unfold publishReplay at h
  split at h
  · rename_i published written hpub
    cases h
    simp only [publishTransaction, bind_ok, exists_unit, deny_ok, okOr_ok, mapErr_ok, pure_ok, Prod.mk.injEq,
      Option.isSome_eq_false_iff, Option.isNone_iff_eq_none] at hpub
    obtain ⟨hpasskey, au, hauth, sh, hhash, written, hwritten, hcheck, -, rfl, rfl⟩ := hpub
    have hseq : 0 ≤ asI64 head.localSequence := by
      rw [decide_eq_false_iff_not, not_lt] at hcheck
      exact hcheck
    refine ⟨au, sh, hpasskey, hauth, hhash, rfl, hseq, ?_⟩
    unfold writeTables at hwritten
    split at hwritten
    · rename_i hsame
      cases hwritten
      exact .inl ⟨hsame, rfl⟩
    · rename_i hsame
      exact .inr ⟨Bool.not_eq_true _ ▸ hsame, hwritten⟩
  · cases h

/-! ## What is read back -/

def AuthorityStateV1.projected (state : AuthorityStateV1) : AuthorityStateV1 :=
  { AuthorityStateV1.empty with
    toyCatalog := state.toyCatalog
    toyGrants := state.toyGrants
    watchScopes := state.watchScopes }

theorem factRows_read (named : NamedReplay ledger entries replay) (hbound : entries.length ≤ 2 ^ 64)
    (holds : HoldsReplay store replay row) :
    (store.facts.select fun a b => a.sourceSequence ≤ b.sourceSequence).mapM factFromRow = .ok replay.facts := by
  have hseq : ∀ fact ∈ replay.facts, getU64 (asI64 fact.sourceSequence) = .ok fact.sourceSequence ∧
      asI64 fact.sourceSequence = fact.sourceSequence := fun fact hfact =>
    getU64_asI64 (Nat.lt_of_lt_of_le (named.below fact hfact) hbound) (holds.sequences fact hfact)
  have hsorted : store.facts.rows.Pairwise fun a b => a.sourceSequence ≤ b.sourceSequence := by
    rw [holds.facts, List.pairwise_map]
    refine named.ascending.imp_of_mem fun ha hb hlt => ?_
    show asI64 _ ≤ asI64 _
    rw [(hseq _ ha).2, (hseq _ hb).2]
    omega
  rw [Table.select_of_sorted hsorted, holds.facts, List.mapM_map, mapM_ok_of_forall (g := id), List.map_id]
  intro fact hfact
  show (getU64 (asI64 fact.sourceSequence) >>= fun seq => pure _) = _
  rw [(hseq fact hfact).1]
  rfl

/-- **What is read back**: the facts, and the three stored maps, which are the state's own exactly when each value
stands under its id. -/
theorem HoldsReplay.snapshot (cells : CellRoundTrip) (named : NamedReplay ledger entries replay)
    (hbound : entries.length ≤ 2 ^ 64)
    (holds : HoldsReplay store replay row) (hcur : authorityCursorFromRow row = .ok cursor)
    (hchk : StateChecked replay.state) :
    ∃ s, authorityProjectionSnapshot store = .ok (some ⟨cursor, s, replay.facts⟩) ∧ s = s.projected ∧
      (s = replay.state.projected ↔ ToysKeyed replay.state) := by
  obtain ⟨catalog, hcatalog, hcatalogs⟩ := readCells_exact_iff cells.toyContract holds.toyCatalog
  obtain ⟨grants, hgrants, hgranted⟩ := readCells_exact_iff cells.toyGrant holds.toyGrants
  obtain ⟨scopes, hscopes, hscope⟩ := readCells_exact_iff cells.watchScope holds.watchScopes
  have hwatch : scopes = replay.state.watchScopes := hscope.mpr fun key scope hget =>
    hchk.watchKeys (key, scope) (Std.ExtTreeMap.mem_toList_iff_getElem?_eq_some.mpr hget)
  refine ⟨{ AuthorityStateV1.empty with toyCatalog := catalog, toyGrants := grants, watchScopes := scopes }, ?_, rfl, ?_⟩
  · simp only [authorityProjectionSnapshot, readProjectedAuthority, holds.cursor, hcur, hcatalog, hgrants, hscopes,
      factRows_read named hbound holds, ok_bind]
    rfl
  · constructor
    · intro heq
      exact ⟨hcatalogs.mp (congrArg AuthorityStateV1.toyCatalog heq),
        hgranted.mp (congrArg AuthorityStateV1.toyGrants heq)⟩
    · intro hkeyed
      rw [hcatalogs.mpr hkeyed.catalog, hgranted.mpr hkeyed.grants, hwatch]
      rfl

theorem HoldsReplay.same {row' : CursorRow} (holds : HoldsReplay store replay row) (holds' : HoldsReplay store' replay row') :
    readProjectedAuthority store = readProjectedAuthority store' := by
  unfold readProjectedAuthority
  rw [Table.ext (holds.toyCatalog.trans holds'.toyCatalog.symm), Table.ext (holds.toyGrants.trans holds'.toyGrants.symm),
    Table.ext (holds.watchScopes.trans holds'.watchScopes.symm), Table.ext (holds.facts.trans holds'.facts.symm)]

/-- **A snapshot of the expected state under the cursor of the expected head is usable.** -/
theorem proveSnapshot_published {au : GrantsAuthorityIdentityV1} {sh : String}
    {facts : List AuthorityCanonicalFactRecordV1} (hhash : authorityStateHash replay.state = .ok sh)
    (hmother : au.motherNodeId = head.motherNodeId) :
    proveSnapshot ⟨publishedCursor head au sh updatedAt, replay.state, facts⟩
        ⟨head.motherNodeId, head.ledgerId, head.localSequence, head.entryHash, au, sh⟩ =
      .ok (.usable (publishedCursor head au sh updatedAt)) := by
  simp only [proveSnapshot, publishedCursor, AuthorityProjectionCursorV1.hashInput, hhash, mapErr, ok_bind, hmother,
    ne_eq, not_true_eq_false, decide_false, Bool.or_self, Bool.false_eq_true, if_false]
  rfl

omit [ProjectionHost] in
theorem insertAll_cells {V : Type} (codec : Codec V String) {id : V → String} {written : TextMap V}
    (hkeyed : ∀ (key : String) (v : V), written[key]? = some v → key = id v) :
    ∃ table : Table CellRow.sameId, Table.empty.insertAll (cellRows codec id written.values) = some table := by
  have hkeys : written.values.map id = written.keys := by
    rw [← Std.ExtTreeMap.map_fst_toList_eq_keys, Maps.values_eq, List.map_map]
    refine List.map_congr_left fun row hrow => ?_
    exact (hkeyed row.1 row.2 (Std.ExtTreeMap.mem_toList_iff_getElem?_eq_some.mp hrow)).symm
  have hdistinct : (cellRows codec id written.values).Pairwise fun a b => CellRow.sameId a b = false := by
    have hnodup : (written.values.map id).Nodup := hkeys ▸ Std.ExtTreeMap.nodup_keys
    rw [cellRows, List.pairwise_map]
    rw [List.Nodup, List.pairwise_map] at hnodup
    exact hnodup.imp fun hne => by simpa [CellRow.sameId] using hne
  exact ⟨⟨_, hdistinct⟩, Table.insertAll_some.mpr ⟨hdistinct, rfl⟩⟩

/-- **A replay whose toys stand under their ids can be published**, if no two of its entries have the same observation
id. -/
theorem publishReplay_succeeds {au : GrantsAuthorityIdentityV1} {sh : String} (before : AuthorityProjectionTables)
    (named : NamedReplay ledger entries replay) (hbound : entries.length ≤ 2 ^ 63)
    (hids : (entries.map (·.observation.observationId.value)).Nodup) (hkeyed : ToysKeyed replay.state)
    (hlegacy : replay.state.passkeyAdmin = none) (hauth : replay.currentAuthority = some au)
    (hhash : authorityStateHash replay.state = .ok sh) (hhead : head.localSequence < 2 ^ 63) :
    ∃ store, publishReplay before head replay updatedAt (.ok ()) =
      (.ok (publishedCursor head au sh updatedAt), store) := by
  have hpos : ∀ n : Nat, n < 2 ^ 63 → asI64 n = n := fun n hn => if_pos hn
  have hbelow : ∀ fact ∈ replay.facts, asI64 fact.sourceSequence = fact.sourceSequence := fun fact hfact =>
    hpos _ (Nat.lt_of_lt_of_le (named.below fact hfact) hbound)
  obtain ⟨hchk, -⟩ := authorityStateHash_ok.mp hhash
  have hwatch : ∀ (key : String) (scope : WatchObservationScope), replay.state.watchScopes[key]? = some scope →
      key = scope.watchScopeId.value := fun key scope hget =>
    hchk.watchKeys (key, scope) (Std.ExtTreeMap.mem_toList_iff_getElem?_eq_some.mpr hget)
  obtain ⟨catalog, hcatalog⟩ := insertAll_cells ProjectionHost.toyContractCell hkeyed.catalog
  obtain ⟨grants, hgrants⟩ := insertAll_cells ProjectionHost.toyGrantCell hkeyed.grants
  obtain ⟨scopes, hscopes⟩ := insertAll_cells ProjectionHost.watchScopeCell hwatch
  have hfacts : (replay.facts.map factRow).Pairwise fun a b => FactRow.clash a b = false := by
    have hnodup := hids.sublist named.ids
    rw [List.Nodup, List.pairwise_map] at hnodup
    rw [List.pairwise_map]
    refine (named.ascending.and hnodup).imp_of_mem fun ha hb hab => ?_
    rw [FactRow.clash, Bool.or_eq_false_iff, beq_eq_false_iff_ne, beq_eq_false_iff_ne]
    refine ⟨?_, hab.2⟩
    show asI64 _ ≠ asI64 _
    rw [hbelow _ ha, hbelow _ hb]
    omega
  have hnatural : ((replay.facts.map factRow).any fun fact => decide (fact.sourceSequence < 0)) = false := by
    rw [List.any_eq_false]
    intro row hrow
    obtain ⟨fact, hfact, rfl⟩ := List.mem_map.mp hrow
    rw [decide_eq_true_eq, not_lt]
    show 0 ≤ asI64 fact.sourceSequence
    rw [hbelow fact hfact]
    omega
  have hcheck : decide ((cursorRow (publishedCursor head au sh updatedAt)).throughSequence < 0) = false := by
    rw [decide_eq_false_iff_not, not_lt]
    show 0 ≤ asI64 head.localSequence
    rw [hpos _ hhead]
    omega
  have hrows : Table.empty.insertAll (replay.facts.map factRow) = some (⟨_, hfacts⟩ : Table FactRow.clash) :=
    Table.insertAll_some.mpr ⟨hfacts, rfl⟩
  have hwrites : ∃ written, writeTables before replay (cursorRow (publishedCursor head au sh updatedAt))
      (projectionCursorMatchesUnchangedState before head au sh) = .ok written := by
    unfold writeTables
    split
    · exact ⟨_, rfl⟩
    · simp only [writeProjection, hcatalog, hgrants, hscopes, hnatural, hrows, okOr, deny, ok_bind, Bool.false_eq_true,
        if_false]
      exact ⟨_, rfl⟩
  obtain ⟨written, hwritten⟩ := hwrites
  refine ⟨written, ?_⟩
  simp only [publishReplay, publishTransaction, hlegacy, Option.isSome_none, deny, Bool.false_eq_true, if_false, ok_bind,
    hauth, okOr, hhash, mapErr, hwritten, hcheck, pure, Except.pure]

end Publish

/-! ## Publications of one ledger -/

section Run

variable {ledger : LedgerIdentity} {entries p : List MctObservationLedgerEntry} {last : MctObservationLedgerEntry}
  {store store' : AuthorityProjectionTables} {replay : AuthorityReplayV1} {cursor : AuthorityProjectionCursorV1}
  {updatedAt : String} {commit : Except String Unit}

/-- **A ledger that replay accepts**: a chain of one Mother's ledger, whose sequences are `u64`. -/
structure AcceptedLedger (ledger : LedgerIdentity) (entries : List MctObservationLedgerEntry) : Prop where
  linked : linked ledger 0 none entries = true
  sequences : entries.length ≤ 2 ^ 64
  replays : ∃ replay, replayAuthorityEntries entries = .ok replay

theorem AcceptedLedger.front (h : AcceptedLedger ledger entries) (hp : p <+: entries) : AcceptedLedger ledger p := by
  obtain ⟨rest, rfl⟩ := hp
  refine ⟨?_, ?_, ?_⟩
  · have hlinked := h.linked
    rw [linked_append, Bool.and_eq_true] at hlinked
    exact hlinked.1
  · have hlen := h.sequences
    rw [List.length_append] at hlen
    omega
  · obtain ⟨replay, hreplay⟩ := h.replays
    obtain ⟨used, hrep⟩ := replayAuthorityEntries_ok.mp hreplay
    obtain ⟨front, usedFront, hfront, -⟩ := replayed_append hrep
    exact ⟨front, replayAuthorityEntries_ok.mpr ⟨usedFront, hfront⟩⟩

theorem AcceptedLedger.lastEntry (h : AcceptedLedger ledger entries) (hlast : entries.getLast? = some last) :
    last.localSequence < 2 ^ 64 ∧ last.motherNodeId = ledger.motherNodeId ∧ last.ledgerId = ledger.ledgerId := by
  obtain ⟨front, rfl⟩ := List.getLast?_eq_some_iff.mp hlast
  have hlinked := h.linked
  rw [linked_append, Bool.and_eq_true, Nat.zero_add] at hlinked
  have hfollows := follows_iff.mp (Bool.and_eq_true_iff.mp hlinked.2).1
  have hlen := h.sequences
  rw [List.length_append, List.length_singleton] at hlen
  exact ⟨by omega, hfollows.2.1.2, hfollows.2.1.1⟩

/-- **What publications of a ledger leave**: nothing yet, or the replay of one of its prefixes. -/
inductive Published (entries : List MctObservationLedgerEntry) : AuthorityProjectionTables → Prop
  | none : Published entries .empty
  | through (p : List MctObservationLedgerEntry) (last : MctObservationLedgerEntry) (replay : AuthorityReplayV1)
      (authority : GrantsAuthorityIdentityV1) (stateHash updatedAt : String) (store : AuthorityProjectionTables) :
      p <+: entries → p.getLast? = some last → replayAuthorityEntries p = .ok replay →
      replay.currentAuthority = some authority → 0 ≤ asI64 last.localSequence →
      HoldsReplay store replay (cursorRow (publishedCursor last.head authority stateHash updatedAt)) → Published entries store

/-- **After a publication the tables hold what was published**, whatever was published of the ledger before. -/
theorem Published.holds (cells : CellRoundTrip) (accepted : AcceptedLedger ledger entries)
    (hstore : Published entries store) (hp : p <+: entries) (hreplay : replayAuthorityEntries p = .ok replay)
    (hpublish : publishReplay store last.head replay updatedAt commit = (.ok cursor, store')) :
    HoldsReplay store' replay (cursorRow cursor) := by
  obtain ⟨au, sh, -, hauth, -, hcur, -, hwritten⟩ := publishReplay_ok hpublish
  rcases hwritten with ⟨hsame, rfl⟩ | ⟨-, hwritten⟩
  · cases hstore with
    | none => cases hsame
    | through p₀ last₀ replay₀ au₀ sh₀ updatedAt₀ _ hp₀ hlast₀ hreplay₀ hauth₀ hcheck₀ holds₀ =>
      -- the stored cursor is current for this identity, so the stored rows are those of this replay
      have hread : authorityCursorFromRow (cursorRow (publishedCursor last₀.head au₀ sh₀ updatedAt₀)) =
          .ok (publishedCursor last₀.head au₀ sh₀ updatedAt₀) :=
        authorityCursorFromRow_cursorRow cells rfl ((accepted.front hp₀).lastEntry hlast₀).1 hcheck₀
      simp only [projectionCursorMatchesUnchangedState, holds₀.cursor, Option.map_some, hread, Bool.and_eq_true,
        beq_iff_eq] at hsame
      obtain ⟨⟨⟨⟨⟨-, hhash⟩, hidentity⟩, hmother⟩, hledger⟩, -⟩ := hsame
      simp only [publishedCursor] at hhash hidentity hmother hledger
      subst hhash hidentity
      obtain ⟨hstate, hfacts⟩ := same_of_stamp_eq hp₀ hp hreplay₀ hreplay (hauth₀.trans hauth.symm)
      refine ⟨hstate ▸ holds₀.toyCatalog, hstate ▸ holds₀.toyGrants, hstate ▸ holds₀.watchScopes,
        hfacts ▸ holds₀.facts, hfacts ▸ holds₀.sequences, ?_⟩
      rw [holds₀.cursor, hcur]
      simp only [advanceCursor, cursorRow, publishedCursor, hmother, hledger]
  · exact writeProjection_holds hwritten

structure Publication where
  entries : List MctObservationLedgerEntry
  updatedAt : String
  commit : Except String Unit

def AuthorityProjectionTables.publishAll (store : AuthorityProjectionTables) (publications : List Publication) :
    AuthorityProjectionTables :=
  publications.foldl (fun store publication =>
    (publishAuthorityProjection store publication.entries publication.updatedAt publication.commit).2) store

theorem publishAll_one : store.publishAll [⟨p, updatedAt, commit⟩] = (publishAuthorityProjection store p updatedAt commit).2 :=
  rfl

theorem publishAuthorityProjection_of {last : MctObservationLedgerEntry} (hreplay : replayAuthorityEntries p = .ok replay)
    (hlast : p.getLast? = some last) :
    publishAuthorityProjection store p updatedAt commit = publishReplay store last.head replay updatedAt commit := by
  simp only [publishAuthorityProjection, hreplay, hlast]

theorem Published.step (cells : CellRoundTrip) (accepted : AcceptedLedger ledger entries)
    (hstore : Published entries store) (hp : p <+: entries) :
    Published entries (publishAuthorityProjection store p updatedAt commit).2 := by
  obtain ⟨replay, hreplay⟩ := (accepted.front hp).replays
  cases hlast : p.getLast? with
  | none =>
    simp only [publishAuthorityProjection, hreplay, hlast]
    exact hstore
  | some last =>
    rw [publishAuthorityProjection_of hreplay hlast]
    cases hpublish : publishReplay store last.head replay updatedAt commit with
    | mk answer store' =>
      cases answer with
      | error e =>
        -- a failed publication leaves the tables
        have hkept : store' = store := by
          unfold publishReplay at hpublish
          split at hpublish
          · cases hpublish
          · cases hpublish
            rfl
        rw [hkept]
        exact hstore
      | ok cursor =>
        obtain ⟨au, sh, -, hauth, -, rfl, hcheck, -⟩ := publishReplay_ok hpublish
        exact .through p last replay au sh updatedAt store' hp hlast hreplay hauth hcheck
          (hstore.holds cells accepted hp hreplay hpublish)

theorem Published.run (cells : CellRoundTrip) (accepted : AcceptedLedger ledger entries)
    (publications : List Publication) (hstore : Published entries store)
    (hpref : ∀ publication ∈ publications, publication.entries <+: entries) :
    Published entries (store.publishAll publications) := by
  induction publications generalizing store with
  | nil => exact hstore
  | cons publication publications ih =>
    rw [List.forall_mem_cons] at hpref
    exact ih (hstore.step cells accepted hpref.1) hpref.2

/-! ## Exactness -/

/-- **The projection is provable for the head and reads back exactly.** -/
def ExactFor (store : AuthorityProjectionTables) (head : LedgerVerifiedHead) (replay : AuthorityReplayV1) : Prop :=
  (∃ expectation cursor, authorityProjectionExpectationFromVerified head replay = .ok expectation ∧
      usableAuthorityProjectionProof store (.validated expectation) = .ok (.usable cursor)) ∧
    ∃ snapshot, authorityProjectionSnapshot store = .ok (some snapshot) ∧ snapshot.state = replay.state ∧
      snapshot.facts = replay.facts

/-- **The tables can hold the whole state**: it has toys, toy grants and watch scopes only, the toys and their grants
under their own ids. -/
structure Projectable (state : AuthorityStateV1) : Prop where
  projected : state = state.projected
  keyed : ToysKeyed state

def readAuthority (store : AuthorityProjectionTables) :
    Except String (Option (AuthorityStateV1 × List AuthorityCanonicalFactRecordV1)) :=
  (authorityProjectionSnapshot store).map fun snapshot => snapshot.map fun stored => (stored.state, stored.facts)

/-- **When a publication is exact.**  After any publications of prefixes of an accepted ledger, a publication that
succeeds is provable and reads back as the replay exactly when the tables can hold its state; and it always reads back
as it does from a database where it is the only one. -/
theorem projection_exact_iff (cells : CellRoundTrip) (accepted : AcceptedLedger ledger entries)
    (earlier : List Publication) (hearlier : ∀ publication ∈ earlier, publication.entries <+: entries)
    (hp : p <+: entries) (hlast : p.getLast? = some last) (hreplay : replayAuthorityEntries p = .ok replay)
    (hpublish : publishReplay (AuthorityProjectionTables.empty.publishAll earlier) last.head replay updatedAt commit =
      (.ok cursor, store)) :
    (ExactFor store last.head replay ↔ Projectable replay.state) ∧
      ∀ cursor' store' updatedAt' commit',
        publishReplay .empty last.head replay updatedAt' commit' = (.ok cursor', store') →
        readAuthority store = readAuthority store' := by
  have hread : ∀ (before after : AuthorityProjectionTables) (cursor : AuthorityProjectionCursorV1) (updatedAt : String)
      (commit : Except String Unit), Published entries before →
      publishReplay before last.head replay updatedAt commit = (.ok cursor, after) →
      HoldsReplay after replay (cursorRow cursor) ∧ authorityCursorFromRow (cursorRow cursor) = .ok cursor := by
    intro before after cursor updatedAt commit hbefore hpublish
    obtain ⟨authority, stateHash, -, -, -, hcur, hcheck, -⟩ := publishReplay_ok hpublish
    exact ⟨hbefore.holds cells accepted hp hreplay hpublish,
      authorityCursorFromRow_cursorRow cells hcur ((accepted.front hp).lastEntry hlast).1 hcheck⟩
  obtain ⟨used, hrep⟩ := replayAuthorityEntries_ok.mp hreplay
  have named := hrep.named (accepted.front hp).linked
  have hbound := (accepted.front hp).sequences
  obtain ⟨authority, stateHash, -, hauth, hhash, hcur, -, -⟩ := publishReplay_ok hpublish
  obtain ⟨holds, hcursor⟩ := hread _ _ _ _ _ (Published.none.run cells accepted earlier hearlier) hpublish
  obtain ⟨hchk, -⟩ := authorityStateHash_ok.mp hhash
  obtain ⟨state, hsnapshot, hproj, hstate⟩ := holds.snapshot cells named hbound hcursor hchk
  refine ⟨⟨?_, ?_⟩, ?_⟩
  · rintro ⟨-, snapshot, hstored, hexact, -⟩
    rw [hsnapshot] at hstored
    cases hstored
    -- what is read back has nothing that the tables do not have
    have hwhole : replay.state = replay.state.projected := hexact ▸ hproj
    exact ⟨hwhole, hstate.mp (hexact.trans hwhole)⟩
  · rintro ⟨hwhole, hkeyed⟩
    have hexact : state = replay.state := (hstate.mpr hkeyed).trans hwhole.symm
    subst hexact
    refine ⟨⟨⟨last.head.motherNodeId, last.head.ledgerId, last.head.localSequence, last.head.entryHash, authority,
      stateHash⟩, cursor, ?_, ?_⟩, _, hsnapshot, rfl, rfl⟩
    · simp only [authorityProjectionExpectationFromVerified, hauth, hhash, okOr, mapErr, ok_bind]
      rfl
    · have hmother : authority.motherNodeId = last.head.motherNodeId :=
        (named.mother authority hauth).trans ((accepted.front hp).lastEntry hlast).2.1.symm
      simp only [usableAuthorityProjectionProof, hsnapshot, ok_bind]
      rw [hcur]
      exact proveSnapshot_published hhash hmother
  · intro cursor' store' updatedAt' commit' hpublish'
    obtain ⟨holds', hcursor'⟩ := hread _ _ _ _ _ .none hpublish'
    simp only [readAuthority, authorityProjectionSnapshot, holds.cursor, holds'.cursor, hcursor, hcursor',
      ok_bind, holds.same holds']
    cases readProjectedAuthority store' <;> rfl

end Run

end Mct

namespace Mct.ProjectionSample

open Sample (jsonObject jsonString jsonNat nameOf identityJson toyJson toyGrantJson watchScopeJson canonicalObject bytes text
  text_injective sampled sampled_nodup Ledger ledgerIdentity nextEntry hashes_checked)

/-! ## Cells

The JSON of a cell has its members in the order of the fields, that of a hash has them in the order of their names. -/

def statusJson (status : AuthorityProjectionStatusV1) : List Char :=
  nameOf ["rebuilding", "current", "stale", "quarantined"] status.ctorIdx

def hashInputJson (input : AuthorityProjectionHashInputV1) : List Char :=
  jsonObject [("input", jsonObject [("authority_state_hash", jsonString input.authorityStateHash),
      ("grants_authority", identityJson canonicalObject input.grantsAuthority),
      ("projection_status", statusJson input.projectionStatus),
      ("source_ledger_id", jsonString input.sourceLedgerId),
      ("source_mother_node_id", jsonString input.sourceMotherNodeId),
      ("through_entry_hash", jsonString input.throughEntryHash),
      ("through_observation_id", jsonString input.throughObservationId),
      ("through_sequence", jsonNat input.throughSequence)]),
    ("schema_version", jsonNat 1)]

@[reducible] noncomputable def cellHost (host : LedgerHost) (toys : List CanonicalToyContract) (grants : List ToyGrant)
    (identities : List GrantsAuthorityIdentityV1) : ProjectionHost :=
  { host with
    toyContractCell := sampled text (toyJson jsonObject) toys
    toyGrantCell := sampled text (toyGrantJson jsonObject) grants
    watchScopeCell := sampled text (watchScopeJson jsonObject) []
    grantsAuthorityCell := sampled text (identityJson jsonObject) identities
    projectionHashJson := fun input => bytes (hashInputJson input) }

theorem cellHost_cells {host : LedgerHost} {toys : List CanonicalToyContract} {grants : List ToyGrant}
    {identities : List GrantsAuthorityIdentityV1} (htoys : (toys.map (toyJson jsonObject)).Nodup)
    (hgrants : (grants.map (toyGrantJson jsonObject)).Nodup)
    (hidentities : (identities.map (identityJson jsonObject)).Nodup) :
    @CellRoundTrip (cellHost host toys grants identities) := by
  refine @CellRoundTrip.mk (cellHost host toys grants identities) ?_ ?_ ?_ ?_
  · exact sampled_nodup text_injective (fun _ => ⟨_, rfl⟩) htoys
  · exact sampled_nodup text_injective (fun _ => ⟨_, rfl⟩) hgrants
  · exact sampled_nodup text_injective (fun _ => ⟨_, rfl⟩) (by simp)
  · exact sampled_nodup text_injective (fun _ => ⟨_, rfl⟩) hidentities

theorem linked_snoc [LedgerHost] {l : List MctObservationLedgerEntry} (hl : linked ledgerIdentity 0 none l = true)
    (hhash : hashAfter none l = l.getLast?.map (·.entryHash)) (obs : MctObservation) (at_ : Timestamp) :
    linked ledgerIdentity 0 none (l ++ [nextEntry l obs at_]) = true := by
  rw [linked_append, hl, hhash, Nat.zero_add, Bool.true_and]
  exact Bool.and_eq_true_iff.mpr ⟨sealedEntry_follows, rfl⟩

/-- **A replayed ledger is published** over whatever was published before. -/
theorem ledger_publishes [ProjectionHost] {l : List MctObservationLedgerEntry} {replay : AuthorityReplayV1}
    {head : GrantsAuthorityIdentityV1} {s : AuthorityStateV1} {ids grants : List String} {nonces : List (String × Nat)}
    (before : AuthorityProjectionTables) (last : LedgerVerifiedHead) (updatedAt : String)
    (h : Ledger l replay head s ids nonces grants) (hlinked : linked ledgerIdentity 0 none l = true)
    (hlength : l.length ≤ 2 ^ 63) (hids : (l.map (·.observation.observationId.value)).Nodup) (hkeyed : ToysKeyed s)
    (hlegacy : s.passkeyAdmin = none) (hlast : last.localSequence < 2 ^ 63) :
    ∃ store, publishReplay before last replay updatedAt (.ok ()) =
      (.ok (publishedCursor last head (canonicalHash s.canonicalRecord) updatedAt), store) := by
  obtain ⟨used, hreplayed⟩ := h.replayed
  have hhash := hashes_checked h.checked
  rw [← h.state] at hkeyed hlegacy
  refine publishReplay_succeeds before (hreplayed.named hlinked) hlength hids hkeyed hlegacy h.authority ?_ hlast
  rw [h.state]
  exact hhash

end Mct.ProjectionSample

namespace Mct.ProjectionSample.Strict

open Recovery.Sample (second)
open Sample (ledgerIdentity nextEntry)
open AdminSample (strictHost strictRoot birth bornState bornState_checked bornLedger bornLedger_replays)

/-! ## A strict birth -/

noncomputable scoped instance : ProjectionHost := cellHost strictHost [] [] [birth.identity]

theorem cells : CellRoundTrip := cellHost_cells (by simp) (by simp) (by simp)

noncomputable def born : MctObservationLedgerEntry := nextEntry [] birth.observation (second 0)

theorem accepted : AcceptedLedger ledgerIdentity bornLedger := by
  obtain ⟨r, hreplay⟩ := bornLedger_replays
  exact ⟨linked_snoc (l := []) rfl rfl birth.observation (second 0), by decide, r, hreplay.accepted⟩

/-- **The projection of a strict birth is published without the root grant**, so what is read back is not the state. -/
theorem born_projection_loses_root :
    ∃ replay cursor store snapshot, replayAuthorityEntries bornLedger = .ok replay ∧
      bornLedger.getLast? = some born ∧
      publishReplay .empty born.head replay "t" (.ok ()) = (.ok cursor, store) ∧
      authorityProjectionSnapshot store = .ok (some snapshot) ∧
      replay.state.adminKeyGrants["root"]? = some strictRoot ∧ snapshot.state.adminKeyGrants["root"]? = none ∧
      ¬ ExactFor store born.head replay := by
  obtain ⟨replay, hreplay⟩ := bornLedger_replays
  obtain ⟨used, hrep⟩ := hreplay.replayed
  have named := hrep.named accepted.linked
  have hchecked : StateChecked replay.state := by
    rw [hreplay.state]
    exact bornState_checked
  have hroot : replay.state.adminKeyGrants["root"]? = some strictRoot := by
    rw [hreplay.state]
    rfl
  have hkeyed : ToysKeyed bornState := ⟨fun key toy hget => (by cases hget), fun key grant hget => (by cases hget)⟩
  have hlast : born.head.localSequence < 2 ^ 63 := by decide
  obtain ⟨store, hpublish⟩ :=
    ledger_publishes .empty born.head "t" hreplay accepted.linked (by decide) (List.nodup_singleton _) hkeyed rfl hlast
  have holds := Published.none.holds cells accepted List.prefix_rfl hreplay.accepted hpublish
  obtain ⟨state, hsnapshot, hproj, -⟩ := holds.snapshot cells named (by decide)
    (authorityCursorFromRow_cursorRow cells rfl (by decide) (by decide)) hchecked
  have hlost : state.adminKeyGrants["root"]? = none := by
    rw [hproj]
    rfl
  refine ⟨replay, _, store, _, hreplay.accepted, rfl, hpublish, hsnapshot, hroot, hlost, ?_⟩
  rintro ⟨-, snapshot, hstored, hexact, -⟩
  rw [hsnapshot] at hstored
  cases hstored
  rw [← hexact, hlost] at hroot
  cases hroot

end Mct.ProjectionSample.Strict

namespace Mct.ProjectionSample.Toys

open Recovery.Sample (second)
open Sample (Ledger ledgerIdentity nextEntry epochIdentity epochFact epoch_ledger epoch_admitted)
open ToySample (readerHost readerHost_serde readerGrant toyAt stateWith grantFact epochStart grantedLedger grantedLedger_replays)

/-! ## A toy and its grant, after the publication of the epoch -/

noncomputable scoped instance : ProjectionHost :=
  cellHost readerHost [toyAt "1" 1] [readerGrant] [epochIdentity, grantFact.resultingState.grantsAuthority]

theorem cells : CellRoundTrip := cellHost_cells (by simp) (by simp) (by decide +kernel)

noncomputable def granted : MctObservationLedgerEntry := nextEntry [epochStart] (grantFact.observation (second 1)) (second 1)

theorem started : ∃ r, Ledger [epochStart] r epochIdentity .empty [] [] [] := by
  obtain ⟨r, h, -⟩ := epoch_ledger readerHost_serde (second 0) epoch_admitted
  exact ⟨r, h⟩

theorem linked_start : linked ledgerIdentity 0 none [epochStart] = true := Bool.and_eq_true_iff.mpr ⟨sealedEntry_follows, rfl⟩

theorem accepted : AcceptedLedger ledgerIdentity grantedLedger := by
  obtain ⟨r, _, _, hreplay⟩ := grantedLedger_replays
  exact ⟨linked_snoc linked_start rfl (grantFact.observation (second 1)) (second 1), by decide, r, hreplay.accepted⟩

theorem single_row {V : Type} {stored value : V} {key name : String}
    (h : ((∅ : TextMap V).insert name stored)[key]? = some value) : name = key ∧ stored = value := by
  rw [Std.ExtTreeMap.getElem?_insert] at h
  split at h
  · rename_i heq
    cases h
    exact ⟨compare_eq_iff_eq.mp heq, rfl⟩
  · cases h

theorem start_published : ∃ cursor store,
    publishAuthorityProjection .empty [epochStart] "s" (.ok ()) = (.ok cursor, store) := by
  obtain ⟨replay, hreplay⟩ := started
  have hkeyed : ToysKeyed .empty := ⟨fun key toy hget => (by cases hget), fun key grant hget => (by cases hget)⟩
  have hlast : epochStart.head.localSequence < 2 ^ 63 := by decide
  obtain ⟨store, hpublish⟩ :=
    ledger_publishes .empty epochStart.head "s" hreplay linked_start (by decide) (List.nodup_singleton _) hkeyed rfl hlast
  exact ⟨_, store, (publishAuthorityProjection_of hreplay.accepted rfl).trans hpublish⟩

theorem grantedState_keyed : ToysKeyed (stateWith (toyAt "1" 1)) := by
  constructor
  · intro key toy hget
    obtain ⟨rfl, rfl⟩ := single_row hget
    rfl
  · intro key grant hget
    obtain ⟨rfl, rfl⟩ := single_row hget
    rfl

/-- **The publication of the grant replaces that of the epoch.** -/
theorem granted_projection_exact :
    ∃ replay first before cursor store,
      publishAuthorityProjection .empty [epochStart] "s" (.ok ()) = (.ok first, before) ∧
      replayAuthorityEntries grantedLedger = .ok replay ∧
      publishReplay before granted.head replay "t" (.ok ()) = (.ok cursor, store) ∧
      ExactFor store granted.head replay := by
  obtain ⟨first, before, hfirst⟩ := start_published
  obtain ⟨replay, _, _, hreplay⟩ := grantedLedger_replays
  have hids : (grantedLedger.map (·.observation.observationId.value)).Nodup := by
    have hdistinct : epochFact.factId ≠ grantFact.factId := by decide
    exact List.nodup_cons.mpr ⟨fun hmem => hdistinct (List.mem_singleton.mp hmem), List.nodup_singleton _⟩
  have hlast : granted.head.localSequence < 2 ^ 63 := by decide
  obtain ⟨store, hpublish⟩ :=
    ledger_publishes before granted.head "t" hreplay accepted.linked (by decide) hids grantedState_keyed rfl hlast
  refine ⟨replay, first, before, _, store, hfirst, hreplay.accepted, hpublish, ?_⟩
  have hearlier : before = AuthorityProjectionTables.empty.publishAll [⟨[epochStart], "s", .ok ()⟩] := by
    rw [publishAll_one, hfirst]
  rw [hearlier] at hpublish
  have hexact := projection_exact_iff cells accepted [⟨[epochStart], "s", .ok ()⟩]
    (List.forall_mem_singleton.mpr (List.prefix_append _ _)) List.prefix_rfl rfl hreplay.accepted hpublish
  refine hexact.1.mpr ⟨?_, ?_⟩
  · rw [hreplay.state]
    rfl
  · rw [hreplay.state]
    exact grantedState_keyed

end Mct.ProjectionSample.Toys
