import Mathlib
/-!
# Prefixed — parts with their lengths in front

A list of parts is written as one list: each part after a header of fixed width that says how long it is.  As long as
the headers tell the lengths apart, the parts can be read back, so the writing is injective (`Header.flatMap_inj`): two
lists of parts with the same bytes have the same number of parts and the same parts.
-/
namespace Prefixed

variable {α : Type} {header : Nat → List α} {bound : Nat}

def framed (header : Nat → List α) (part : List α) : List α := header part.length ++ part

/-- **A length header**: of one width, not empty, and different for different lengths below the bound. -/
structure Header (header : Nat → List α) (bound : Nat) : Prop where
  width : ∀ m n, (header m).length = (header n).length
  nonempty : ∀ n, header n ≠ []
  injective : ∀ m n, m < bound → n < bound → header m = header n → m = n

theorem Header.append_inj (h : Header header bound) {part part' rest rest' : List α} (hpart : part.length < bound)
    (hpart' : part'.length < bound) (heq : framed header part ++ rest = framed header part' ++ rest') :
    part = part' ∧ rest = rest' := by
  unfold framed at heq
  rw [List.append_assoc, List.append_assoc] at heq
  obtain ⟨hhead, heq⟩ := List.append_inj heq (h.width _ _)
  exact List.append_inj heq (h.injective _ _ hpart hpart' hhead)

/-- **The parts can be read back.** -/
theorem Header.flatMap_inj (h : Header header bound) {parts parts' : List (List α)}
    (hparts : ∀ part ∈ parts, part.length < bound) (hparts' : ∀ part ∈ parts', part.length < bound)
    (heq : parts.flatMap (framed header) = parts'.flatMap (framed header)) : parts = parts' := by
  induction parts generalizing parts' with
  | nil =>
    cases parts' with
    | nil => rfl
    | cons part' parts' => simp [framed, h.nonempty] at heq
  | cons part parts ih =>
    cases parts' with
    | nil => simp [framed, h.nonempty] at heq
    | cons part' parts' =>
      rw [List.flatMap_cons, List.flatMap_cons] at heq
      obtain ⟨rfl, hrest⟩ := h.append_inj (hparts part List.mem_cons_self) (hparts' part' List.mem_cons_self) heq
      rw [ih (fun p hp => hparts p (List.mem_cons_of_mem _ hp)) (fun p hp => hparts' p (List.mem_cons_of_mem _ hp)) hrest]

end Prefixed
