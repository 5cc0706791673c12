import Mathlib
/-!
# FirstDecision — loops that return at the first element that decides

A loop over a list that skips some elements and returns yes or no at the first one it does not skip is `findSome?` of
what each element decides.  Such a loop answers whether a good element exists, whatever the order of the list, only
when no element can say no before a good one says yes (`findSome?_orderFree_iff`).
-/
namespace FirstDecision

variable {α : Type} {decides : α → Option Bool} {l : List α}

theorem findSome?_true_iff (h : ∀ a ∈ l, decides a ≠ some false) :
    l.findSome? decides = some true ↔ ∃ a ∈ l, decides a = some true := by
  induction l with
  | nil => simp
  | cons a l ih =>
    rw [List.forall_mem_cons] at h
    rw [List.findSome?_cons]
    cases hd : decides a with
    | none => simpa [hd] using ih h.2
    | some verdict =>
      cases verdict with
      | false => exact absurd hd h.1
      | true => simp [hd]

/-- **Order does not matter exactly when nothing good is there, or nothing says no.** -/
theorem findSome?_orderFree_iff (decides : α → Option Bool) (good : α → Prop)
    (hgood : ∀ a, decides a = some true → good a) (hdec : ∀ a, good a → decides a ≠ none) :
    (∀ l' : List α, l'.Perm l → (l'.findSome? decides = some true ↔ ∃ a ∈ l', good a)) ↔
      (∀ a ∈ l, ¬ good a) ∨ ∀ a ∈ l, decides a ≠ some false := by
  constructor
  · intro h
    by_contra hc
    push Not at hc
    obtain ⟨⟨g, hg, hgg⟩, b, hb, hbb⟩ := hc
    -- with the refusing element in front the loop says no
    obtain ⟨front, back, rfl⟩ := List.append_of_mem hb
    have hperm : (b :: (front ++ back)).Perm (front ++ b :: back) := List.perm_middle.symm
    have hyes := (h _ hperm).mpr ⟨g, hperm.mem_iff.mpr hg, hgg⟩
    rw [List.findSome?_cons, hbb] at hyes
    cases hyes
  · rintro (hnone | hno) l' hperm
    · constructor
      · intro hyes
        obtain ⟨a, ha, hd⟩ := List.exists_of_findSome?_eq_some hyes
        exact absurd (hgood a hd) (hnone a (hperm.mem_iff.mp ha))
      · rintro ⟨a, ha, hg⟩
        exact absurd hg (hnone a (hperm.mem_iff.mp ha))
    · rw [findSome?_true_iff fun a ha => hno a (hperm.mem_iff.mp ha)]
      constructor
      · rintro ⟨a, ha, hd⟩
        exact ⟨a, ha, hgood a hd⟩
      · rintro ⟨a, ha, hg⟩
        refine ⟨a, ha, ?_⟩
        cases hd : decides a with
        | none => exact absurd hd (hdec a hg)
        | some verdict =>
          cases verdict with
          | false => exact absurd hd (hno a (hperm.mem_iff.mp ha))
          | true => rfl

/-- Whatever is found in place of a fitting element fits too. -/
theorem find?_exists {fits : α → Bool} {P : α → Prop} {a : α} (ha : a ∈ l) (hfits : fits a = true)
    (h : ∀ b, fits b = true → P b) : ∃ b, l.find? fits = some b ∧ P b := by
  obtain ⟨b, hfound⟩ := Option.isSome_iff_exists.mp (List.find?_isSome.mpr ⟨a, ha, hfits⟩)
  exact ⟨b, hfound, h b (List.find?_some hfound)⟩

theorem find?_key {κ : Type} [DecidableEq κ] {f : α → κ} {a : α} (hnodup : (l.map f).Nodup) (ha : a ∈ l) :
    l.find? (fun b => f b == f a) = some a := by
  induction l with
  | nil => cases ha
  | cons b l ih =>
    rw [List.map_cons, List.nodup_cons] at hnodup
    rw [List.find?_cons]
    rcases List.mem_cons.mp ha with rfl | hmem
    · rw [beq_self_eq_true]
    · have hne : f b ≠ f a := by
        intro heq
        exact hnodup.1 (heq ▸ List.mem_map_of_mem hmem)
      rw [beq_eq_false_iff_ne.mpr hne]
      exact ih hnodup.2 hmem

theorem exists_perm_cons (ha : a ∈ l) : ∃ rest, (a :: rest).Perm l := by
  obtain ⟨before, after, rfl⟩ := List.append_of_mem ha
  exact ⟨before ++ after, List.perm_middle.symm⟩

theorem exists_perm_cons_cons {b : α} (ha : a ∈ l) (hb : b ∈ l) (hne : b ≠ a) : ∃ rest, (a :: b :: rest).Perm l := by
  obtain ⟨rest, hperm⟩ := exists_perm_cons ha
  have hb' : b ∈ rest := (List.mem_cons.mp (hperm.mem_iff.mpr hb)).resolve_left hne
  obtain ⟨rest', hperm'⟩ := exists_perm_cons hb'
  exact ⟨rest', (hperm'.cons a).trans hperm⟩

end FirstDecision
