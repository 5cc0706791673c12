import Mathlib
/-!
# Codec — a serialiser with its parser

A codec writes every value and reads a text back or says why it cannot.  It is lawful when reading what was written
gives the value again; then writing is injective.  Every injective writer has a lawful reader (`Codec.ofInjective`), so
every countable type has a lawful codec, and one that writes a part of its values in a given way (`Codec.partWriter`).
-/

/-- **A writer and its reader.** -/
structure Codec (α β : Type) where
  encode : α → β
  decode : β → Except String α

namespace Codec

variable {α β : Type}

/-- **The round trip**: what was written is read back. -/
def Lawful (c : Codec α β) : Prop := ∀ a, c.decode (c.encode a) = .ok a

theorem Lawful.encode_injective {c : Codec α β} (h : c.Lawful) : Function.Injective c.encode := by
  intro a b hab
  have ha := h a
  rw [hab, h b] at ha
  cases ha
  rfl

/-- The codec that prepares what it reads. -/
def preparing (c : Codec α β) (prepare : β → β) : Codec α β := ⟨c.encode, fun b => c.decode (prepare b)⟩

@[simp] theorem preparing_encode (c : Codec α β) (prepare : β → β) : (c.preparing prepare).encode = c.encode := rfl

@[simp] theorem preparing_decode (c : Codec α β) (prepare : β → β) (b : β) :
    (c.preparing prepare).decode b = c.decode (prepare b) := rfl

theorem Lawful.preparing {c : Codec α β} (h : c.Lawful) {prepare : β → β}
    (hkeep : ∀ a, prepare (c.encode a) = c.encode a) : (c.preparing prepare).Lawful := by
  intro a
  rw [preparing_decode, preparing_encode, hkeep]
  exact h a

open Classical in
noncomputable def ofInjective (encode : α → β) : Codec α β where
  encode := encode
  decode b := if h : ∃ a, encode a = b then .ok h.choose else .error "no value is written so"

@[simp] theorem ofInjective_encode (encode : α → β) : (ofInjective encode).encode = encode := rfl

theorem ofInjective_lawful {encode : α → β} (h : Function.Injective encode) : (ofInjective encode).Lawful := by
  intro a
  have hex : ∃ a', encode a' = encode a := ⟨a, rfl⟩
  simp only [ofInjective]
  rw [dif_pos hex, h hex.choose_spec]

theorem ofInjective_decode {encode : α → β} {a : α} {b : β} (h : (ofInjective encode).decode b = .ok a) :
    encode a = b := by
  simp only [ofInjective] at h
  split at h
  · rename_i hex
    cases h
    exact hex.choose_spec
  · cases h

/-! ## Writers on a part of a type -/

section Part

variable [Countable α] (part : α → Prop) [DecidablePred part] (numeral : ℕ → β) (write : α → β)

/-- The values of the part as `write` says, the others by their numbers. -/
noncomputable def partWriter (a : α) : β :=
  if part a then write a else numeral ((Countable.exists_injective_nat α).choose a)

variable {part numeral write}

/-- **A part writer is injective** when `write` is on the part and writes no numeral. -/
theorem partWriter_injective (hnum : Function.Injective numeral) (hapart : ∀ a n, numeral n ≠ write a)
    (hwrite : ∀ a a', part a → part a' → write a = write a' → a = a') :
    Function.Injective (partWriter part numeral write) := by
  intro a a' h
  unfold partWriter at h
  split_ifs at h with ha ha' ha'
  · exact hwrite a a' ha ha' h
  · exact absurd h.symm (hapart a _)
  · exact absurd h (hapart a' _)
  · exact (Countable.exists_injective_nat α).choose_spec (hnum h)

theorem partWriter_of {a : α} (h : part a) : partWriter part numeral write a = write a := if_pos h

theorem partWriter_cases (a : α) : (∃ n, partWriter part numeral write a = numeral n) ∨
    partWriter part numeral write a = write a := by
  unfold partWriter
  split_ifs
  · exact .inr rfl
  · exact .inl ⟨_, rfl⟩

end Part

end Codec
