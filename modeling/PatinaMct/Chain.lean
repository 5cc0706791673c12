import PatinaMct.Facts
import PatinaMct.Frames
/-!
# Chain — the ledger that a list of lines is

What every reader of a ledger is for, without any of their bookkeeping: a list of lines is a ledger when each line
reads as an entry of this ledger, the sequences count up, every entry names the hash of the one before it and carries
its own (`readChain`).  The readers of the following modules are compared with it, and through it with one another.
-/
namespace Mct

open Frames

variable [LedgerHost]

abbrev newline : UInt8 := 10

/-- `entry_hash`: the hash of the entry's line with the hash field cleared. -/
def entryHash (entry : MctObservationLedgerEntry) : String :=
  blake3 (LedgerHost.entry.encode { entry with entryHash := "" })

/-- Whose ledger a file is expected to be. -/
structure LedgerIdentity where
  ledgerId : String
  motherNodeId : String
  deriving DecidableEq, Repr

/-- **The next link**: the entry stands at this sequence of this ledger, after the entry with this hash. -/
def follows (id : LedgerIdentity) (sequence : Nat) (previous : Option String) (entry : MctObservationLedgerEntry) :
    Bool :=
  entry.localSequence == sequence && (entry.ledgerId == id.ledgerId && entry.motherNodeId == id.motherNodeId) &&
    entry.previousEntryHash == previous && entry.entryHash == entryHash entry

theorem follows_iff {id : LedgerIdentity} {seq : Nat} {prev : Option String}
    {entry : MctObservationLedgerEntry} :
    follows id seq prev entry = true ↔
      entry.localSequence = seq ∧ (entry.ledgerId = id.ledgerId ∧ entry.motherNodeId = id.motherNodeId) ∧
        entry.previousEntryHash = prev ∧ entry.entryHash = entryHash entry := by
  simp only [follows, Bool.and_eq_true, beq_iff_eq, and_assoc]

/-- **The entries of a list of lines**, from a given head on, when they are a chain. -/
def readChain (id : LedgerIdentity) : Nat → Option String → List (List UInt8) → Option (List MctObservationLedgerEntry)
  | _, _, [] => some []
  | sequence, previous, line :: lines =>
    match LedgerHost.entry.decode line with
    | .error _ => none
    | .ok entry =>
      if follows id sequence previous entry then
        (readChain id (sequence + 1) (some entry.entryHash) lines).map (entry :: ·)
      else none

def hashAfter (previous : Option String) : List MctObservationLedgerEntry → Option String
  | [] => previous
  | entry :: entries => hashAfter (some entry.entryHash) entries

omit [LedgerHost] in
theorem hashAfter_append (prev : Option String) (l l' : List MctObservationLedgerEntry) :
    hashAfter prev (l ++ l') = hashAfter (hashAfter prev l) l' := by
  induction l generalizing prev with
  | nil => rfl
  | cons e l ih => exact ih (some e.entryHash)

omit [LedgerHost] in
@[simp] theorem hashAfter_concat (prev : Option String) (l : List MctObservationLedgerEntry)
    (e : MctObservationLedgerEntry) : hashAfter prev (l ++ [e]) = some e.entryHash := by
  rw [hashAfter_append]
  rfl

variable {id : LedgerIdentity} {seq : Nat} {previous : Option String} {line : List UInt8}
  {lines lines' : List (List UInt8)} {entries : List MctObservationLedgerEntry}

theorem readChain_cons :
    readChain id seq previous (line :: lines) = some entries ↔
      ∃ entry rest, LedgerHost.entry.decode line = .ok entry ∧ follows id seq previous entry = true ∧
        readChain id (seq + 1) (some entry.entryHash) lines = some rest ∧ entries = entry :: rest := by
  constructor
  · intro h
    rw [readChain] at h
    cases hd : LedgerHost.entry.decode line with
    | error e => simp [hd] at h
    | ok entry =>
      simp only [hd] at h
      split at h
      · rename_i hf
        obtain ⟨rest, hr, rfl⟩ := Option.map_eq_some_iff.mp h
        exact ⟨entry, rest, rfl, hf, hr, rfl⟩
      · cases h
  · rintro ⟨entry, rest, hd, hf, hr, rfl⟩
    rw [readChain, hd]
    simp only
    rw [if_pos hf, hr]
    rfl

theorem readChain_length (h : readChain id seq previous lines = some entries) :
    entries.length = lines.length := by
  induction lines generalizing seq previous entries with
  | nil =>
    cases h
    rfl
  | cons line lines ih =>
    obtain ⟨e, rest, -, -, hr, rfl⟩ := readChain_cons.mp h
    rw [List.length_cons, List.length_cons, ih hr]

theorem readChain_decode (h : readChain id seq previous lines = some entries) :
    ∀ line ∈ lines, ∃ entry, LedgerHost.entry.decode line = .ok entry := by
  induction lines generalizing seq previous entries with
  | nil => simp
  | cons line lines ih =>
    obtain ⟨entry, rest, hd, -, hr, -⟩ := readChain_cons.mp h
    rw [List.forall_mem_cons]
    exact ⟨⟨entry, hd⟩, ih hr⟩

theorem readChain_congr {f g : List UInt8 → List UInt8}
    (h : ∀ line ∈ lines, (LedgerHost.entry.decode (f line)).toOption = (LedgerHost.entry.decode (g line)).toOption) :
    readChain id seq previous (lines.map f) = readChain id seq previous (lines.map g) := by
  induction lines generalizing seq previous with
  | nil => rfl
  | cons line lines ih =>
    rw [List.forall_mem_cons] at h
    obtain ⟨hline, hlines⟩ := h
    rw [List.map_cons, List.map_cons, readChain, readChain]
    cases hf : LedgerHost.entry.decode (f line) with
    | error e =>
      cases hg : LedgerHost.entry.decode (g line) with
      | error e' => rfl
      | ok entry => rw [hf, hg] at hline; cases hline
    | ok entry =>
      cases hg : LedgerHost.entry.decode (g line) with
      | error e' => rw [hf, hg] at hline; cases hline
      | ok entry' =>
        rw [hf, hg] at hline
        cases hline
        simp only
        rw [ih hlines]

/-- **A chain is cut at any line.** -/
theorem readChain_append :
    readChain id seq previous (lines ++ lines') = some entries ↔
      ∃ front back, readChain id seq previous lines = some front ∧
        readChain id (seq + lines.length) (hashAfter previous front) lines' = some back ∧
        entries = front ++ back := by
  induction lines generalizing seq previous entries with
  | nil =>
    constructor
    · intro h
      exact ⟨[], entries, rfl, h, rfl⟩
    · rintro ⟨front, back, hf, hb, rfl⟩
      cases hf
      exact hb
  | cons line lines ih =>
    rw [List.cons_append, readChain_cons]
    constructor
    · rintro ⟨e, rest, hd, hf, hr, rfl⟩
      obtain ⟨front, back, hfront, hback, rfl⟩ := ih.mp hr
      refine ⟨e :: front, back, readChain_cons.mpr ⟨e, front, hd, hf, hfront, rfl⟩, ?_, rfl⟩
      rw [List.length_cons, show seq + (lines.length + 1) = seq + 1 + lines.length by omega]
      exact hback
    · rintro ⟨front, back, hfront, hback, rfl⟩
      obtain ⟨e, rest, hd, hf, hr, rfl⟩ := readChain_cons.mp hfront
      refine ⟨e, rest ++ back, hd, hf, ih.mpr ⟨rest, back, hr, ?_, rfl⟩, rfl⟩
      rw [List.length_cons, show seq + (lines.length + 1) = seq + 1 + lines.length by omega] at hback
      exact hback

theorem readChain_concat :
    readChain id seq previous (lines ++ [line]) = some entries ↔
      ∃ body last, readChain id seq previous lines = some body ∧ LedgerHost.entry.decode line = .ok last ∧
        follows id (seq + lines.length) (hashAfter previous body) last = true ∧ entries = body ++ [last] := by
  rw [readChain_append]
  constructor
  · rintro ⟨body, back, hbody, hback, rfl⟩
    obtain ⟨last, rest, hd, hf, hr, rfl⟩ := readChain_cons.mp hback
    cases hr
    exact ⟨body, last, hbody, hd, hf, rfl⟩
  · rintro ⟨body, last, hbody, hd, hf, rfl⟩
    exact ⟨body, [last], hbody, readChain_cons.mpr ⟨last, [], hd, hf, rfl, rfl⟩, rfl⟩

theorem readChain_sequence_lt (h : readChain id seq previous lines = some entries) :
    ∀ entry ∈ entries, entry.localSequence < seq + entries.length := by
  induction lines generalizing seq previous entries with
  | nil =>
    cases h
    simp
  | cons line lines ih =>
    obtain ⟨entry, rest, -, hf, hr, rfl⟩ := readChain_cons.mp h
    rw [List.forall_mem_cons, List.length_cons]
    have hs := (follows_iff.mp hf).1
    refine ⟨by omega, fun e he => ?_⟩
    have := ih hr e he
    omega

/-! ## Written entries -/

def frameOf (entry : MctObservationLedgerEntry) : List UInt8 := LedgerHost.entry.encode entry ++ [newline]

theorem frameOf_complete (serde : SerdeRoundTrip) (e : MctObservationLedgerEntry) :
    Complete newline (frameOf e) := ⟨_, serde.entry_line e, rfl⟩

end Mct
