import Mathlib
/-!
# Rows — ordered queries over changing rows

A query sorts the rows that a condition keeps.  When fewer rows are kept the answer is the old answer without the
others (`filter_insertionSort`); when the rows that are gone are the first ones of the answer, it is the rest of the
answer (`filter_not_mem_take`).
-/
namespace Rows

variable {R : Type} {r : R → R → Prop} [DecidableRel r] {keep : R → Bool} {a : R} {l : List R}

theorem filter_orderedInsert_of_neg (ha : keep a = false) : (l.orderedInsert r a).filter keep = l.filter keep := by
  rw [List.orderedInsert_eq_take_drop, List.filter_append, List.filter_cons, ha]
  simp only [Bool.false_eq_true, if_false]
  rw [← List.filter_append, List.takeWhile_append_dropWhile]

theorem orderedInsert_of_forall (h : ∀ b ∈ l, r a b) : l.orderedInsert r a = a :: l := by
  cases l with
  | nil => rfl
  | cons b l => rw [List.orderedInsert, if_pos (h b List.mem_cons_self)]

theorem filter_orderedInsert_of_pos (htrans : ∀ {a b c}, r a b → r b c → r a c) (hsorted : l.Pairwise r)
    (ha : keep a = true) : (l.orderedInsert r a).filter keep = (l.filter keep).orderedInsert r a := by
  induction l with
  | nil => simp [ha]
  | cons b l ih =>
    obtain ⟨hb, hsorted⟩ := List.pairwise_cons.mp hsorted
    by_cases hab : r a b
    · -- everything after the place of `a` is above `a`, whether it is kept or not
      have hall : ∀ c ∈ (b :: l).filter keep, r a c := by
        intro c hc
        obtain rfl | hc := List.mem_cons.mp (List.mem_filter.mp hc).1
        · exact hab
        · exact htrans hab (hb c hc)
      rw [List.orderedInsert, if_pos hab, List.filter_cons, if_pos ha, orderedInsert_of_forall hall]
    · rw [List.orderedInsert, if_neg hab]
      cases hkeep : keep b with
      | false =>
        rw [List.filter_cons_of_neg (by simp [hkeep]), List.filter_cons_of_neg (by simp [hkeep]), ih hsorted]
      | true =>
        rw [List.filter_cons_of_pos hkeep, List.filter_cons_of_pos hkeep, ih hsorted, List.orderedInsert, if_neg hab]

/-- **Sorting commutes with keeping fewer rows.** -/
theorem filter_insertionSort [Std.Total r] [IsTrans R r] :
    (l.insertionSort r).filter keep = (l.filter keep).insertionSort r := by
  induction l with
  | nil => rfl
  | cons a l ih =>
    rw [List.insertionSort_cons]
    cases ha : keep a with
    | false => rw [filter_orderedInsert_of_neg ha, ih, List.filter_cons_of_neg (by simp [ha])]
    | true =>
      rw [filter_orderedInsert_of_pos (fun h h' => IsTrans.trans _ _ _ h h') (List.pairwise_insertionSort r l) ha, ih,
        List.filter_cons_of_pos ha, List.insertionSort_cons]

/-- **Without its first rows** an answer is its rest. -/
theorem filter_not_mem_take [DecidableEq R] (hnodup : l.Nodup) (n : Nat) :
    l.filter (fun row => decide (row ∉ l.take n)) = l.drop n := by
  have hsplit := List.take_append_drop n l
  have hapart : ∀ row ∈ l.drop n, row ∉ l.take n := by
    intro row hdrop htake
    rw [← hsplit] at hnodup
    exact List.disjoint_of_nodup_append hnodup htake hdrop
  calc l.filter (fun row => decide (row ∉ l.take n))
      = (l.take n ++ l.drop n).filter (fun row => decide (row ∉ l.take n)) := by rw [hsplit]
    _ = l.drop n := by
      rw [List.filter_append, List.filter_eq_nil_iff.mpr (by simp), List.filter_eq_self.mpr (by simpa using hapart),
        List.nil_append]

end Rows
