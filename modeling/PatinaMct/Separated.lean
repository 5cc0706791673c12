import Mathlib
/-!
# Separated — parts joined by separators

Parts are written as one list with a separator between each two of them (`joined`).  Unlike the length headers of
`Prefixed` a separator may also stand inside a part, so a text can have several readings; `readings` lists them all, and
a text has one reading among the parts of a kind exactly when the joined text determines its parts.
-/
namespace Separated

variable {α : Type}

/-- **The parts with their separators between them.** -/
def joined : List α → List (List α) → List α
  | [], part :: _ => part
  | sep :: seps, part :: parts => part ++ sep :: joined seps parts
  | _, [] => []

theorem append_cons_inj {sep : α} {part part' rest rest' : List α} (h : sep ∉ part) (h' : sep ∉ part')
    (heq : part ++ sep :: rest = part' ++ sep :: rest') : part = part' ∧ rest = rest' := by
  induction part generalizing part' with
  | nil =>
    cases part' with
    | nil => exact ⟨rfl, (List.cons.inj heq).2⟩
    | cons a part' => exact absurd (List.mem_cons.mpr (Or.inl (List.cons.inj heq).1)) h'
  | cons a part ih =>
    cases part' with
    | nil => exact absurd (List.mem_cons.mpr (Or.inl (List.cons.inj heq).1.symm)) h
    | cons b part' =>
      obtain ⟨rfl, htail⟩ := List.cons.inj heq
      obtain ⟨rfl, hrest⟩ := ih (fun hm => h (List.mem_cons_of_mem _ hm)) (fun hm => h' (List.mem_cons_of_mem _ hm)) htail
      exact ⟨rfl, hrest⟩

section Readings

variable [DecidableEq α]

def cuts (sep : α) : List α → List (List α × List α)
  | [] => []
  | a :: rest =>
    let later := (cuts sep rest).map fun cut => (a :: cut.1, cut.2)
    if a = sep then ([], rest) :: later else later

theorem mem_cuts {sep : α} {text left right : List α} :
    (left, right) ∈ cuts sep text ↔ text = left ++ sep :: right := by
  induction text generalizing left with
  | nil => simp [cuts]
  | cons a rest ih =>
    have hlater : (left, right) ∈ (cuts sep rest).map (fun cut => (a :: cut.1, cut.2)) ↔
        ∃ tail, left = a :: tail ∧ rest = tail ++ sep :: right := by
      simp only [List.mem_map, Prod.mk.injEq, Prod.exists]
      constructor
      · rintro ⟨tail, right', hcut, rfl, rfl⟩
        exact ⟨tail, rfl, ih.mp hcut⟩
      · rintro ⟨tail, rfl, hrest⟩
        exact ⟨tail, right, ih.mpr hrest, rfl, rfl⟩
    unfold cuts
    cases left with
    | nil =>
      split
      · rename_i ha
        simp [ha, eq_comm]
      · rename_i ha
        simp [ha]
    | cons b left =>
      have hne : (b :: left, right) ≠ ([], rest) := by simp
      split
      · rw [List.mem_cons, or_iff_right hne, hlater]
        simp [and_comm, eq_comm]
      · rw [hlater]
        simp [and_comm, eq_comm]

/-- **All the readings of a text** as parts between the separators. -/
def readings : List α → List α → List (List (List α))
  | [], text => [[text]]
  | sep :: seps, text => (cuts sep text).flatMap fun cut => (readings seps cut.2).map fun parts => cut.1 :: parts

theorem mem_readings {seps text : List α} {parts : List (List α)} :
    parts ∈ readings seps text ↔ parts.length = seps.length + 1 ∧ joined seps parts = text := by
  induction seps generalizing text parts with
  | nil =>
    rcases parts with _ | ⟨part, _ | ⟨_, _⟩⟩ <;> simp [readings, joined]
  | cons sep seps ih =>
    simp only [readings, List.mem_flatMap, List.mem_map, Prod.exists]
    constructor
    · rintro ⟨left, right, hcut, tail, htail, rfl⟩
      obtain ⟨hlen, hjoin⟩ := ih.mp htail
      refine ⟨by simp [hlen], ?_⟩
      rw [joined, hjoin]
      exact (mem_cuts.mp hcut).symm
    · rintro ⟨hlen, hjoin⟩
      cases parts with
      | nil => simp at hlen
      | cons part parts =>
        refine ⟨part, joined seps parts, mem_cuts.mpr hjoin.symm, parts, ih.mpr ⟨?_, rfl⟩, rfl⟩
        simpa using hlen

/-- **The joined text has no other reading** with parts of the kind. -/
def SingleReading (kind : List α → Bool) (seps : List α) (parts : List (List α)) : Prop :=
  ∀ other ∈ readings seps (joined seps parts), other.all kind → other = parts

instance (kind : List α → Bool) (seps : List α) (parts : List (List α)) : Decidable (SingleReading kind seps parts) :=
  inferInstanceAs (Decidable (∀ other ∈ _, _))

theorem singleReading_iff {kind : List α → Bool} {seps : List α} {parts : List (List α)} :
    SingleReading kind seps parts ↔
      ∀ other, other.length = seps.length + 1 → (∀ part ∈ other, kind part) → joined seps other = joined seps parts →
        other = parts := by
  unfold SingleReading
  simp only [mem_readings, List.all_eq_true]
  constructor
  · intro h other hlen hkind hjoin
    exact h other ⟨hlen, hjoin⟩ hkind
  · rintro h other ⟨hlen, hjoin⟩ hkind
    exact h other hlen hkind hjoin

end Readings

end Separated
