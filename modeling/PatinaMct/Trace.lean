import Mathlib
/-!
# Trace — the accepted steps of a fallible state machine

A machine is a function `step s a` that either refuses the input `a` or gives the next state.  A refused input leaves
the state as it is, so a run is known by its accepted steps: `Trace step s₀ h s` says that the history `h`, oldest
step first, leads from `s₀` to `s`.  The rules below are the induction over runs (`Trace.invariant`, `Trace.history`)
and the way to cut a history at a step (`Trace.split`).
-/

structure Taken (σ α : Type*) where
  pre : σ
  input : α
  post : σ

/-- **The accepted histories from `s₀`.** -/
inductive Trace {σ α ε : Type*} (step : σ → α → Except ε σ) (s₀ : σ) : List (Taken σ α) → σ → Prop
  | nil : Trace step s₀ [] s₀
  | snoc {h : List (Taken σ α)} {s s' : σ} {a : α} :
      Trace step s₀ h s → step s a = .ok s' → Trace step s₀ (h ++ [⟨s, a, s'⟩]) s'

namespace Trace

variable {σ α ε : Type*} {step : σ → α → Except ε σ} {s₀ s : σ} {h : List (Taken σ α)}

/-- **The run rule**: what holds at the start and is kept by each accepted step holds after every run. -/
theorem invariant (Inv : σ → Prop) (init : Inv s₀)
    (keep : ∀ s a s', Inv s → step s a = .ok s' → Inv s') (t : Trace step s₀ h s) : Inv s := by
  induction t with
  | nil => exact init
  | snoc _ hs ih => exact keep _ _ _ ih hs

/-- **The history rule**: the same for a property of the history together with the state it leads to. -/
theorem history (Inv : List (Taken σ α) → σ → Prop) (init : Inv [] s₀)
    (keep : ∀ h s a s', Trace step s₀ h s → Inv h s → step s a = .ok s' → Inv (h ++ [⟨s, a, s'⟩]) s')
    (t : Trace step s₀ h s) : Inv h s := by
  induction t with
  | nil => exact init
  | snoc t hs ih => exact keep _ _ _ _ t ih hs

theorem extend {x : Taken σ α} (t : Trace step s₀ h x.pre) (hx : step x.pre x.input = .ok x.post) :
    Trace step s₀ (h ++ [x]) x.post :=
  t.snoc hx

/-- **A step of a history was accepted in a state reached by the steps before it.** -/
theorem split {l r : List (Taken σ α)} {x : Taken σ α} (t : Trace step s₀ h s) (hx : h = l ++ x :: r) :
    Trace step s₀ l x.pre ∧ step x.pre x.input = .ok x.post := by
  induction t generalizing r with
  | nil => simp at hx
  | @snoc h s s' a t hs ih =>
    rcases List.eq_nil_or_concat r with rfl | ⟨r, y, rfl⟩
    · obtain ⟨rfl, rfl⟩ : h = l ∧ ⟨s, a, s'⟩ = x := by simpa using hx
      exact ⟨t, hs⟩
    · have : h ++ [⟨s, a, s'⟩] = (l ++ x :: r) ++ [y] := by simpa using hx
      exact ih (List.append_inj_left' this rfl)

end Trace
