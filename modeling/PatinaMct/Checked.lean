import Mathlib
/-!
# Checked — early-return code in `Except`

Checked code reads as a list of guards, each of which returns its own error, around a few fallible calls.  Here are
the guard (`deny`), the conversions and tests such code uses (`okOr`, `mapErr`, `checkedAdd`, `ascending`), the loop that hands
every element together with the elements before it to a check (`eachWithPrior`), and what a successful run says.
The rules are stated on `= .ok _`, so that `simp only [bind_ok, exists_unit, deny_ok]` takes a successful run of a `do`
block apart into its guards and calls.
-/
namespace Checked

variable {ε α β : Type}

/-- **A guard**: return `e` when the refused condition holds. -/
def deny (refused : Bool) (e : ε) : Except ε Unit :=
  if refused then .error e else .ok ()

def okOr (o : Option α) (e : ε) : Except ε α :=
  match o with
  | some a => .ok a
  | none => .error e

def checkedAdd (a b : Nat) : Option Nat :=
  if a + b < 2 ^ 64 then some (a + b) else none

def mapErr {δ : Type} (f : ε → δ) : Except ε α → Except δ α
  | .ok a => .ok a
  | .error e => .error (f e)

/-- `windows(2).all(|pair| lt(pair[0], pair[1]))`. -/
def ascending (lt : α → α → Bool) : List α → Bool
  | a :: b :: rest => lt a b && ascending lt (b :: rest)
  | _ => true

@[simp] theorem deny_ok {b : Bool} {e : ε} {u : Unit} : deny b e = .ok u ↔ b = false := by
  cases b <;> simp [deny]

@[simp] theorem okOr_ok {o : Option α} {e : ε} {a : α} : okOr o e = .ok a ↔ o = some a := by
  cases o <;> simp [okOr]

@[simp] theorem mapErr_ok {δ : Type} {f : ε → δ} {x : Except ε α} {a : α} : mapErr f x = .ok a ↔ x = .ok a := by
  cases x <;> simp [mapErr]

@[simp] theorem checkedAdd_some {a b c : Nat} : checkedAdd a b = some c ↔ a + b < 2 ^ 64 ∧ c = a + b := by
  unfold checkedAdd
  split <;> simp_all [eq_comm]

/-- **A successful bind is a successful call followed by a successful rest.** -/
theorem bind_ok {x : Except ε α} {f : α → Except ε β} {r : β} :
    (x >>= f) = .ok r ↔ ∃ a, x = .ok a ∧ f a = .ok r := by
  cases x <;> simp [bind, Except.bind]

theorem bind_error {x : Except ε α} {f : α → Except ε β} {e : ε} :
    (x >>= f) = .error e ↔ x = .error e ∨ ∃ a, x = .ok a ∧ f a = .error e := by
  cases x <;> simp [bind, Except.bind]

theorem deny_error {b : Bool} {e e' : ε} : deny b e = .error e' ↔ b = true ∧ e = e' := by
  cases b <;> simp [deny]

theorem mapErr_error {δ : Type} {f : ε → δ} {x : Except ε α} {e : δ} :
    mapErr f x = .error e ↔ ∃ e', x = .error e' ∧ f e' = e := by
  cases x <;> simp [mapErr]

theorem ok_bind (a : α) (f : α → Except ε β) : (Except.ok a >>= f) = f a := rfl

@[simp] theorem pure_ok {a b : α} : (pure a : Except ε α) = .ok b ↔ a = b := by
  simp [pure, Except.pure]

theorem ascending_pairwise {lt : α → α → Bool} {R : α → α → Prop} {l : List α}
    (htrans : ∀ a b c, R a b → R b c → R a c) (hlt : ∀ a b, lt a b = true → R a b) (h : ascending lt l = true) :
    l.Pairwise R := by
  induction l with
  | nil => exact List.Pairwise.nil
  | cons a l ih =>
    cases l with
    | nil => exact List.pairwise_singleton R a
    | cons b l =>
      rw [ascending, Bool.and_eq_true] at h
      have hl := ih h.2
      refine List.Pairwise.cons ?_ hl
      intro c hc
      rcases List.mem_cons.mp hc with rfl | hc
      · exact hlt a c h.1
      · exact htrans a b c (hlt a b h.1) (List.rel_of_pairwise_cons hl hc)

@[simp] theorem exists_unit {p : Unit → Prop} : (∃ u, p u) ↔ p () :=
  ⟨fun ⟨_, h⟩ => h, fun h => ⟨(), h⟩⟩

theorem mapM_ok_of_forall {f : α → Except ε β} {g : α → β} {l : List α} (h : ∀ a ∈ l, f a = .ok (g a)) :
    l.mapM f = .ok (l.map g) := by
  induction l with
  | nil => rfl
  | cons a l ih =>
    rw [List.forall_mem_cons] at h
    rw [List.mapM_cons, h.1, ih h.2]
    rfl

/-- **A loop that returns at the first element whose check fails.** -/
theorem forM_ok {check : α → Except ε Unit} {xs : List α} :
    forM xs check = .ok () ↔ ∀ x ∈ xs, check x = .ok () := by
  induction xs with
  | nil => simp [pure, Except.pure]
  | cons x xs ih => simp only [List.forM_cons, bind_ok, exists_unit, List.mem_cons, forall_eq_or_imp, ih]

/-- **A loop whose check of an element also sees the elements before it.** -/
def eachWithPrior (check : List α → α → Except ε Unit) : List α → List α → Except ε Unit
  | _, [] => .ok ()
  | prior, x :: xs => do
    check prior x
    eachWithPrior check (prior ++ [x]) xs

theorem eachWithPrior_ok {check : List α → α → Except ε Unit} {xs prior : List α} :
    eachWithPrior check prior xs = .ok () ↔
      ∀ l x r, xs = l ++ x :: r → check (prior ++ l) x = .ok () := by
  induction xs generalizing prior with
  | nil => simp [eachWithPrior]
  | cons y ys ih =>
    simp only [eachWithPrior, bind_ok, exists_unit, ih]
    constructor
    · rintro ⟨hy, hys⟩ l x r h
      cases l with
      | nil =>
        obtain ⟨rfl, rfl⟩ : y = x ∧ ys = r := by simpa using h
        simpa using hy
      | cons z l =>
        obtain ⟨rfl, rfl⟩ : y = z ∧ ys = l ++ x :: r := by simpa using h
        simpa using hys l x r rfl
    · intro h
      refine ⟨by simpa using h [] y ys rfl, fun l x r hl => ?_⟩
      simpa using h (y :: l) x r (by simp [hl])

/-- **No element clashes with an earlier one.** -/
def denyClash (clash : α → α → Bool) (e : ε) (xs : List α) : Except ε Unit :=
  eachWithPrior (fun prior x => deny (prior.any (clash x)) e) [] xs

theorem denyClash_ok {clash : α → α → Bool} {e : ε} {xs : List α} :
    denyClash clash e xs = .ok () ↔ xs.Pairwise (fun a b => clash b a = false) := by
  simp only [denyClash, eachWithPrior_ok, deny_ok, List.nil_append, List.any_eq_false, Bool.not_eq_true]
  induction xs with
  | nil => simp
  | cons y ys ih =>
    rw [List.pairwise_cons, ← ih]
    constructor
    · intro h
      refine ⟨fun x hx => ?_, fun l x r hl a ha => h (y :: l) x r (by simp [hl]) a (by simp [ha])⟩
      obtain ⟨l, r, rfl⟩ := List.append_of_mem hx
      exact h (y :: l) x r rfl y (by simp)
    · rintro ⟨hy, h⟩ l x r hl a ha
      cases l with
      | nil => simp at ha
      | cons z l =>
        obtain ⟨rfl, rfl⟩ : y = z ∧ ys = l ++ x :: r := by simpa using hl
        rcases List.mem_cons.mp ha with rfl | ha
        · exact hy x (by simp)
        · exact h l x r rfl a ha

end Checked
