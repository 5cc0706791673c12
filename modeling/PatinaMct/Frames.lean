import Mathlib
/-!
# Frames — reading a file up to a delimiter

`frames nl bs` is the list of chunks that repeated `read_until(nl)` calls return on the content `bs`: each chunk runs
through its first `nl`, and only the last one can lack it.  A *complete* frame ends in the delimiter and has none
before it.  The rules say that nothing is lost (`frames_flatten`), that complete frames come back one by one
(`frames_complete`), that reading is additive at a frame boundary (`frames_append`), and what a torn frame looks like
(`frames_torn`): a strict prefix of a complete frame has no delimiter at all, so it is read as one last chunk.
-/
namespace Frames

variable {α : Type} [DecidableEq α]

/-- The chunks that `read_until(nl)` returns, in order. -/
def frames (nl : α) : List α → List (List α)
  | [] => []
  | b :: bs =>
    if b = nl then [b] :: frames nl bs
    else
      match frames nl bs with
      | [] => [[b]]
      | f :: fs => (b :: f) :: fs

def terminated (nl : α) (frame : List α) : Bool :=
  frame.getLast? == some nl

/-- **A complete frame**: a body without the delimiter, then the delimiter. -/
def Complete (nl : α) (frame : List α) : Prop :=
  ∃ body, nl ∉ body ∧ frame = body ++ [nl]

variable {nl : α}

@[simp] theorem frames_nil : frames nl [] = [] := rfl

theorem frames_cons_of_ne {b : α} (hb : b ≠ nl) (bs : List α) :
    frames nl (b :: bs) = (b :: (frames nl bs).headD []) :: (frames nl bs).tail := by
  rw [frames, if_neg hb]
  cases frames nl bs with
  | nil => rfl
  | cons f fs => rfl

theorem frames_cons_self (bs : List α) : frames nl (nl :: bs) = [nl] :: frames nl bs := by
  rw [frames, if_pos rfl]

/-- **Nothing is lost**: the chunks in order are the content. -/
theorem frames_flatten (nl : α) (bs : List α) : (frames nl bs).flatten = bs := by
  induction bs with
  | nil => rfl
  | cons b bs ih =>
    by_cases hb : b = nl
    · rw [hb, frames_cons_self, List.flatten_cons, ih, List.singleton_append]
    · rw [frames_cons_of_ne hb, List.flatten_cons]
      cases hf : frames nl bs with
      | nil => rw [hf] at ih; simp [← ih]
      | cons f fs => rw [hf] at ih; simp [← ih]

theorem frames_eq_nil {bs : List α} : frames nl bs = [] ↔ bs = [] := by
  constructor
  · intro h
    rw [← frames_flatten nl bs, h]
    rfl
  · rintro rfl
    rfl

theorem Complete.terminated {f : List α} (h : Complete nl f) : terminated nl f = true := by
  obtain ⟨body, -, rfl⟩ := h
  simp [Frames.terminated]

/-- **A complete frame is read back first**, and the rest is read as it is. -/
theorem frames_complete {f : List α} (h : Complete nl f) (bs : List α) :
    frames nl (f ++ bs) = f :: frames nl bs := by
  obtain ⟨body, hbody, rfl⟩ := h
  induction body with
  | nil => simp [frames_cons_self]
  | cons b body ih =>
    have hb : b ≠ nl := fun h => hbody (by simp [h])
    have ht : nl ∉ body := fun h => hbody (by simp [h])
    rw [List.cons_append, List.cons_append, frames_cons_of_ne hb, ih ht]
    rfl

/-- **Complete frames are read back one by one.** -/
theorem frames_flatten_append {fs : List (List α)} (h : ∀ f ∈ fs, Complete nl f) (bs : List α) :
    frames nl (fs.flatten ++ bs) = fs ++ frames nl bs := by
  induction fs with
  | nil => rfl
  | cons f fs ih =>
    rw [List.flatten_cons, List.append_assoc, frames_complete (h f (by simp)), ih fun g hg => h g (by simp [hg])]
    rfl

theorem frames_flatten_complete {fs : List (List α)} (h : ∀ f ∈ fs, Complete nl f) : frames nl fs.flatten = fs := by
  have := frames_flatten_append h []
  simpa using this

/-- **A torn frame**: content without the delimiter is one unterminated chunk. -/
theorem frames_torn {bs : List α} (h : nl ∉ bs) (hne : bs ≠ []) : frames nl bs = [bs] := by
  induction bs with
  | nil => exact absurd rfl hne
  | cons b bs ih =>
    have hb : b ≠ nl := fun e => h (by simp [e])
    rw [frames_cons_of_ne hb]
    by_cases hbs : bs = []
    · subst hbs
      rfl
    · rw [ih (fun e => h (by simp [e])) hbs]
      rfl

theorem not_terminated {bs : List α} (h : nl ∉ bs) : terminated nl bs = false := by
  unfold terminated
  by_contra hc
  have hl : bs.getLast? = some nl := by simpa using hc
  exact h (List.mem_of_getLast? hl)

omit [DecidableEq α] in
/-- **Every content is complete frames and one torn rest.** -/
theorem exists_split (nl : α) (bs : List α) :
    ∃ (fs : List (List α)) (rest : List α), (∀ f ∈ fs, Complete nl f) ∧ nl ∉ rest ∧ bs = fs.flatten ++ rest := by
  induction bs with
  | nil => exact ⟨[], [], by simp, by simp, rfl⟩
  | cons b bs ih =>
    obtain ⟨fs, rest, hfs, hrest, rfl⟩ := ih
    by_cases hb : b = nl
    · subst hb
      refine ⟨[b] :: fs, rest, ?_, hrest, by simp⟩
      intro f hf
      rcases List.mem_cons.mp hf with rfl | hf
      · exact ⟨[], by simp, rfl⟩
      · exact hfs f hf
    · cases fs with
      | nil => exact ⟨[], b :: rest, by simp, by simp [hrest, Ne.symm hb], by simp⟩
      | cons f fs =>
        obtain ⟨body, hbody, rfl⟩ := hfs f (by simp)
        refine ⟨(b :: body ++ [nl]) :: fs, rest, ?_, hrest, by simp⟩
        intro g hg
        rcases List.mem_cons.mp hg with rfl | hg
        · exact ⟨b :: body, by simp [hbody, Ne.symm hb], rfl⟩
        · exact hfs g (by simp [hg])

theorem frames_split {fs : List (List α)} {rest : List α} (hfs : ∀ f ∈ fs, Complete nl f) (hrest : nl ∉ rest) :
    frames nl (fs.flatten ++ rest) = fs ++ if rest = [] then [] else [rest] := by
  rw [frames_flatten_append hfs]
  by_cases h : rest = []
  · rw [if_pos h, h, frames_nil]
  · rw [if_neg h, frames_torn hrest h]

theorem complete_of_mem {bs f : List α} (hf : f ∈ frames nl bs) (ht : terminated nl f = true) : Complete nl f := by
  obtain ⟨fs, rest, hfs, hrest, rfl⟩ := exists_split nl bs
  rw [frames_split hfs hrest] at hf
  rcases List.mem_append.mp hf with hf | hf
  · exact hfs f hf
  · split at hf
    · cases hf
    · obtain rfl : f = rest := by simpa using hf
      rw [not_terminated hrest] at ht
      cases ht

/-- **Reading is additive at a frame boundary.** -/
theorem frames_append {a : List α} (h : ∀ f ∈ frames nl a, terminated nl f = true) (b : List α) :
    frames nl (a ++ b) = frames nl a ++ frames nl b := by
  have hc : ∀ f ∈ frames nl a, Complete nl f := fun f hf => complete_of_mem hf (h f hf)
  have := frames_flatten_append hc b
  rwa [frames_flatten] at this

theorem frames_torn_last {bs torn : List α} {front back : List (List α)} (h : frames nl bs = front ++ torn :: back)
    (ht : terminated nl torn = false) : back = [] := by
  obtain ⟨fs, rest, hfs, hrest, rfl⟩ := exists_split nl bs
  rw [frames_split hfs hrest] at h
  have hone : ∀ a : List (List α), (if rest = [] then [] else [rest]) = a ++ torn :: back → back = [] := by
    intro a ha
    have hlen := congrArg List.length ha
    rw [List.length_append, List.length_cons] at hlen
    split at hlen
    · simp at hlen
    · rw [List.length_singleton] at hlen
      exact List.eq_nil_of_length_eq_zero (by omega)
  rcases List.append_eq_append_iff.mp h with ⟨a, -, ha⟩ | ⟨c, hc, ha⟩
  · exact hone a ha
  · cases c with
    | nil => exact hone [] ha.symm
    | cons f c =>
      obtain ⟨rfl, -⟩ := List.cons.inj ha
      have hmem : torn ∈ fs := by rw [hc]; simp
      rw [(hfs torn hmem).terminated] at ht
      cases ht

end Frames
