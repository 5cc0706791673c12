import Mathlib
/-!
# Keyring — one root credential that rotates above subordinate ones

An abstract machine.  A ring has a root, the roots retired before it, subordinate credentials, and possibly a
credential that waits to become the root.  Subordinates are added only while nothing waits and only apart from every
root; a waiting credential is apart from everything on the ring when it starts to wait.  What "apart" means is a
parameter.  `Separated.step` is the invariant: roots stay apart from each other and from all subordinates.
-/

structure Keyring (G : Type) where
  root : G
  retired : List G
  subordinates : List G
  waiting : Option G

namespace Keyring

variable {G : Type}

def roots (ring : Keyring G) : List G := ring.root :: ring.retired

variable (apart : G → G → Prop)

inductive Step (ring : Keyring G) : Keyring G → Prop
  | stay : Step ring ring
  | add (g : G) : ring.waiting = none → (∀ root ∈ ring.roots, apart root g) →
      Step ring { ring with subordinates := g :: ring.subordinates }
  | wait (g : G) : ring.waiting = none → (∀ root ∈ ring.roots, apart root g) →
      (∀ subordinate ∈ ring.subordinates, apart g subordinate) → Step ring { ring with waiting := some g }
  | drop : Step ring { ring with waiting := none }
  | rotate (g : G) : ring.waiting = some g →
      Step ring { ring with root := g, retired := ring.root :: ring.retired, waiting := none }

/-- **Roots are apart from each other and from every subordinate**, and a waiting credential is apart from both. -/
structure Separated (ring : Keyring G) : Prop where
  roots : ring.roots.Pairwise fun newer older => apart older newer
  subordinates : ∀ root ∈ ring.roots, ∀ subordinate ∈ ring.subordinates, apart root subordinate
  waiting : ∀ g, ring.waiting = some g →
    (∀ root ∈ ring.roots, apart root g) ∧ ∀ subordinate ∈ ring.subordinates, apart g subordinate

variable {apart} {ring ring' : Keyring G}

theorem separated_root (root : G) : Separated apart ⟨root, [], [], none⟩ := by
  refine ⟨List.pairwise_singleton _ _, ?_, ?_⟩
  · intro _ _ subordinate hmem
    cases hmem
  · intro g hg
    cases hg

theorem Separated.step (h : Separated apart ring) (hstep : Step apart ring ring') : Separated apart ring' := by
  cases hstep with
  | stay => exact h
  | add g hnone hroots =>
    refine ⟨h.roots, ?_, ?_⟩
    · intro root hroot
      rw [List.forall_mem_cons]
      exact ⟨hroots root hroot, h.subordinates root hroot⟩
    · intro g' hg'
      rw [hnone] at hg'
      cases hg'
  | wait g _ hroots hsub =>
    refine ⟨h.roots, h.subordinates, ?_⟩
    rintro g' ⟨⟩
    exact ⟨hroots, hsub⟩
  | drop =>
    refine ⟨h.roots, h.subordinates, ?_⟩
    intro g hg
    cases hg
  | rotate g hwait =>
    obtain ⟨hroots, hsub⟩ := h.waiting g hwait
    refine ⟨List.pairwise_cons.mpr ⟨hroots, h.roots⟩, ?_, ?_⟩
    · unfold Keyring.roots
      rw [List.forall_mem_cons]
      exact ⟨hsub, h.subordinates⟩
    · intro g' hg'
      cases hg'

theorem Separated.roots_apart [Std.Symm apart] (h : Separated apart ring) {a b : G} (ha : a ∈ ring.roots)
    (hb : b ∈ ring.roots) (hne : a ≠ b) : apart a b := by
  have hpairs : ring.roots.Pairwise apart := h.roots.imp fun hab => Std.Symm.symm _ _ hab
  exact hpairs.forall ha hb hne

end Keyring
