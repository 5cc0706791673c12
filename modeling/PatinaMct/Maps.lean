import Mathlib
/-!
# Maps — the values of an ordered map

What the list of values says about an extensional tree map: which values there are, and when two maps with the same
values are the same map; and what becomes of the rows of a map (`Evolves`).
-/
namespace Maps

variable {K V : Type} {cmp : K → K → Ordering} [Std.TransCmp cmp] {m m' : Std.ExtTreeMap K V cmp}

theorem values_eq (m : Std.ExtTreeMap K V cmp) : m.values = m.toList.map Prod.snd := by
  obtain ⟨inner⟩ := m
  induction inner with
  | mk t =>
    show t.inner.values = (Std.DTreeMap.Internal.Impl.Const.toList t.inner).map Prod.snd
    rw [Std.DTreeMap.Internal.Impl.values_eq_map_snd, Std.DTreeMap.Internal.Impl.Const.toList_eq_toListModel_map,
      List.map_map]
    rfl

theorem mem_values [Std.LawfulEqCmp cmp] {value : V} : value ∈ m.values ↔ ∃ key : K, m[key]? = some value := by
  rw [values_eq, List.mem_map]
  constructor
  · rintro ⟨⟨key, _⟩, hmem, rfl⟩
    exact ⟨key, Std.ExtTreeMap.mem_toList_iff_getElem?_eq_some.mp hmem⟩
  · rintro ⟨key, hget⟩
    exact ⟨(key, value), Std.ExtTreeMap.mem_toList_iff_getElem?_eq_some.mpr hget, rfl⟩

theorem eq_of_toList [Std.LawfulEqCmp cmp] (h : m.toList = m'.toList) : m = m' := by
  apply Std.ExtTreeMap.ext_getElem?
  intro key
  apply Option.ext
  intro v
  rw [← Std.ExtTreeMap.mem_toList_iff_getElem?_eq_some, h, Std.ExtTreeMap.mem_toList_iff_getElem?_eq_some]

theorem countP_values_le_one [Std.LawfulEqCmp cmp] {p : V → Bool} :
    m.values.countP p ≤ 1 ↔ ∀ (key key' : K) (v v' : V), m[key]? = some v → m[key']? = some v' →
      p v = true → p v' = true → key = key' := by
  have hrow : ∀ (key : K) (v : V), (key, v) ∈ m.toList.filter (fun row => p row.2) ↔
      m[key]? = some v ∧ p v = true := by
    intro key v
    rw [List.mem_filter, Std.ExtTreeMap.mem_toList_iff_getElem?_eq_some]
  have hkeys : ((m.toList.filter fun row => p row.2).map Prod.fst).Nodup := by
    refine List.Nodup.sublist (List.Sublist.map _ List.filter_sublist) ?_
    rw [Std.ExtTreeMap.map_fst_toList_eq_keys]
    exact Std.ExtTreeMap.nodup_keys
  rw [values_eq, List.countP_map, List.countP_eq_length_filter]
  show (m.toList.filter fun row => p row.2).length ≤ 1 ↔ _
  generalize m.toList.filter (fun row => p row.2) = rows at hrow hkeys
  constructor
  · intro hlen key key' v v' hget hget' hp hp'
    have hmem := (hrow key v).mpr ⟨hget, hp⟩
    have hmem' := (hrow key' v').mpr ⟨hget', hp'⟩
    obtain ⟨row, hrows⟩ : ∃ row, rows = [row] := List.length_eq_one_iff.mp
      (Nat.le_antisymm hlen (List.length_pos_of_mem hmem))
    rw [hrows, List.mem_singleton] at hmem hmem'
    exact congrArg Prod.fst (hmem.trans hmem'.symm)
  · intro hunique
    cases rows with
    | nil => exact Nat.zero_le 1
    | cons row rest =>
      cases rest with
      | nil => exact Nat.le_refl 1
      | cons row' rest =>
        obtain ⟨hget, hp⟩ := (hrow row.1 row.2).mp List.mem_cons_self
        obtain ⟨hget', hp'⟩ := (hrow row'.1 row'.2).mp (List.mem_cons_of_mem _ List.mem_cons_self)
        have hsame := hunique _ _ _ _ hget hget' hp hp'
        rw [List.map_cons, List.map_cons, List.nodup_cons] at hkeys
        exact absurd (hsame ▸ List.mem_cons_self) hkeys.1

theorem eq_of_keys_values [Std.LawfulEqCmp cmp] (hkeys : m.keys = m'.keys) (hval : m.values = m'.values) :
    m = m' := by
  have hfst : m.toList.map Prod.fst = m'.toList.map Prod.fst := by
    rw [Std.ExtTreeMap.map_fst_toList_eq_keys, hkeys, Std.ExtTreeMap.map_fst_toList_eq_keys]
  have hsnd : m.toList.map Prod.snd = m'.toList.map Prod.snd := by
    rw [← values_eq, hval, values_eq]
  exact eq_of_toList ((List.zip_of_prod hfst hsnd).trans (List.zip_of_prod rfl rfl).symm)

/-- **A map whose keys are the names of its values is known by its values.** -/
theorem eq_of_named [Std.LawfulEqCmp cmp] (name : V → K) (h : ∀ row ∈ m.toList, row.1 = name row.2)
    (h' : ∀ row ∈ m'.toList, row.1 = name row.2) (hval : m.values = m'.values) : m = m' := by
  have hkeys : ∀ map : Std.ExtTreeMap K V cmp, (∀ row ∈ map.toList, row.1 = name row.2) →
      map.keys = map.values.map name := by
    intro map hmap
    rw [← Std.ExtTreeMap.map_fst_toList_eq_keys, values_eq, List.map_map]
    exact List.map_congr_left hmap
  refine eq_of_keys_values ?_ hval
  rw [hkeys m h, hkeys m' h', hval]

/-- **A map made of rows with distinct keys has exactly these rows.** -/
theorem getElem?_ofList [Std.LawfulEqCmp cmp] [BEq K] [LawfulBEq K] [Std.LawfulBEqCmp cmp] {rows : List (K × V)}
    {key : K} {v : V} (hdistinct : rows.Pairwise fun a b => a.1 ≠ b.1) :
    (Std.ExtTreeMap.ofList rows cmp)[key]? = some v ↔ (key, v) ∈ rows := by
  have hcmp : rows.Pairwise fun a b => ¬ cmp a.1 b.1 = .eq :=
    hdistinct.imp fun hne heq => hne (Std.LawfulEqCmp.eq_of_compare heq)
  constructor
  · intro hget
    have hkey : (rows.map Prod.fst).contains key = true := by
      by_contra hno
      rw [Bool.not_eq_true] at hno
      rw [Std.ExtTreeMap.getElem?_ofList_of_contains_eq_false hno] at hget
      cases hget
    rw [List.contains_iff_mem, List.mem_map] at hkey
    obtain ⟨⟨_, stored⟩, hmem, rfl⟩ := hkey
    rw [Std.ExtTreeMap.getElem?_ofList_of_mem Std.ReflCmp.compare_self hcmp hmem] at hget
    cases hget
    exact hmem
  · exact Std.ExtTreeMap.getElem?_ofList_of_mem Std.ReflCmp.compare_self hcmp

/-! ## Tables that only move on -/

/-- **What becomes of every row of a table**; a row may also be gone. -/
def Evolves (later : V → Option V → Prop) (m m' : Std.ExtTreeMap K V cmp) : Prop :=
  ∀ (key : K) (v : V), m[key]? = some v → later v m'[key]?

/-- A row may stay as it is, and what becomes of what it becomes may become of it. -/
structure Lifecycle (later : V → Option V → Prop) : Prop where
  refl : ∀ v, later v (some v)
  trans : ∀ v o o', later v o → (∀ w, o = some w → later w o') → later v o'

theorem lifecycle_kept : Lifecycle fun (v : V) o => o = some v where
  refl := fun _ => rfl
  trans := by
    rintro v _ o' rfl h
    exact h _ rfl

section Evolves

variable {later : V → Option V → Prop} {m'' : Std.ExtTreeMap K V cmp} (cycle : Lifecycle later)
include cycle

theorem Lifecycle.same (h : m' = m) : Evolves later m m' := by
  intro key v hget
  rw [h, hget]
  exact cycle.refl v

theorem Evolves.trans (h : Evolves later m m') (h' : Evolves later m' m'') : Evolves later m m'' :=
  fun key v hget => cycle.trans v _ _ (h key v hget) fun w hw => h' key w hw

theorem Lifecycle.insert [Std.LawfulEqCmp cmp] {key : K} {new : V} (h : ∀ v, m[key]? = some v → later v (some new)) :
    Evolves later m (m.insert key new) := by
  intro other v hget
  rw [Std.ExtTreeMap.getElem?_insert]
  split
  · rename_i hkey
    rw [Std.LawfulEqCmp.compare_eq_iff_eq] at hkey
    subst hkey
    exact h v hget
  · rw [hget]
    exact cycle.refl v

theorem Lifecycle.insert_new [Std.LawfulEqCmp cmp] {key : K} {new : V} (h : m[key]? = none) :
    Evolves later m (m.insert key new) :=
  cycle.insert fun v hv => by rw [h] at hv; cases hv

end Evolves

end Maps
