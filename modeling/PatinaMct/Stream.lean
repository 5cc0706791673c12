import PatinaMct.Scan
/-!
# Stream — reading one file of a segmented ledger

`stream_chain` reads a file frame by frame, but keeps every frame back until the next one is read, because the last
frame of a segment is no part of what its checkpoint commits to; and it can adopt the first sequence and link of a file
from the file itself.  `stream_run` is the loop's invariant, with the frame that was kept back; `streamChain_some` and
`streamChain_none` say which files are accepted, and with what summary, in terms of the chain that their lines are.
-/
namespace Mct

open Checked
open Frames

variable [LedgerHost]

/-! ## The loop -/

structure StreamedChain where
  entryCount : Nat
  firstSequence : Nat
  firstPreviousEntryHash : Option String
  lastSequence : Nat
  lastEntryHash : String
  lastEntry : Option MctObservationLedgerEntry
  bodyLastSequence : Nat
  bodyLastHash : String
  prefixBlake3 : String
  fileBlake3 : String
  deriving DecidableEq

/-- The variables of the loop.  `first` holds `first_sequence` and `first_previous`; a hasher is the bytes it was fed. -/
structure StreamState where
  hasher : List UInt8
  fileHasher : List UInt8
  pending : Option (List UInt8)
  entryCount : Nat
  adoptFirst : Bool
  expectedSequence : Nat
  previousHash : Option String
  first : Option (Nat × Option String)
  bodyLastSequence : Nat
  bodyLastHash : String
  deriving DecidableEq

variable (path : String) (id : LedgerIdentity) (state : StreamState)

def parseAndCheck (frame : List UInt8) (expectedSequence : Nat) (previousHash : Option String) (adoptFirst : Bool) :
    Except ObservationLedgerError MctObservationLedgerEntry := do
  let entry ← mapErr (ObservationLedgerError.json path) (LedgerHost.entry.decode frame.dropLast)
  let expected := if adoptFirst then (entry.localSequence, entry.previousEntryHash) else (expectedSequence, previousHash)
  deny (entry.localSequence ≠ expected.1) (.sequenceMismatch expected.1 entry.localSequence)
  deny (entry.ledgerId ≠ id.ledgerId || entry.motherNodeId ≠ id.motherNodeId)
    (.ledgerIdentityMismatch entry.localSequence id ⟨entry.ledgerId, entry.motherNodeId⟩)
  deny (entry.previousEntryHash ≠ expected.2) (.brokenHashChain entry.localSequence)
  deny (entry.entryHash ≠ entryHash entry) (.brokenHashChain entry.localSequence)
  return entry

def StreamState.push (entry : MctObservationLedgerEntry) (frame : List UInt8) : StreamState :=
  { state with
    hasher := state.hasher ++ frame
    entryCount := state.entryCount + 1
    adoptFirst := false
    expectedSequence := entry.localSequence + 1
    previousHash := some entry.entryHash
    first := state.first.or (some (entry.localSequence, entry.previousEntryHash))
    bodyLastSequence := entry.localSequence
    bodyLastHash := entry.entryHash }

/-- The frame that was kept back has another one after it. -/
def takeBody (frame : List UInt8) :
    Except ObservationLedgerError StreamState := do
  let entry ← parseAndCheck path id frame state.expectedSequence state.previousHash state.adoptFirst
  let _ ← okOr (checkedAdd entry.localSequence 1) (.segmentRejected "segment sequence overflow")
  return state.push entry frame

def streamFrame (frame : List UInt8) :
    Except ObservationLedgerError StreamState := do
  deny (!terminated newline frame) (.unterminatedTail path state.entryCount frame.length (blake3 frame))
  let state := { state with fileHasher := state.fileHasher ++ frame }
  let state ← match state.pending with
    | none => .ok state
    | some previous => takeBody path id state previous
  return { state with pending := some frame }

def StreamState.summary (last : MctObservationLedgerEntry) : StreamedChain :=
  let first := state.first.getD (last.localSequence, last.previousEntryHash)
  { entryCount := state.entryCount + 1
    firstSequence := first.1
    firstPreviousEntryHash := first.2
    lastSequence := last.localSequence
    lastEntryHash := last.entryHash
    lastEntry := some last
    bodyLastSequence := state.bodyLastSequence
    bodyLastHash := state.bodyLastHash
    prefixBlake3 := blake3 state.hasher
    fileBlake3 := blake3 state.fileHasher }

def finishStream :
    Except ObservationLedgerError StreamedChain :=
  match state.pending with
  | some last => do
    let entry ← parseAndCheck path id last state.expectedSequence state.previousHash state.adoptFirst
    return state.summary entry
  | none => .ok ⟨0, state.expectedSequence, state.previousHash, 0, "", none, 0, "", blake3 [], blake3 state.fileHasher⟩

def startStream (expectedStart : Option (Nat × Option String)) : StreamState where
  hasher := []
  fileHasher := []
  pending := none
  entryCount := 0
  adoptFirst := expectedStart.isNone
  expectedSequence := (expectedStart.map (·.1)).getD 0
  previousHash := expectedStart.bind (·.2)
  first := none
  bodyLastSequence := 0
  bodyLastHash := ""

def streamChain (expectedStart : Option (Nat × Option String)) (bytes : List UInt8) :
    Except ObservationLedgerError StreamedChain := do
  let state ← (frames newline bytes).foldlM (streamFrame path id) (startStream expectedStart)
  finishStream path id state

/-! ### What a file reads as -/

variable {path : String} {id : LedgerIdentity} {frame f : List UInt8} {fs : List (List UInt8)} {s : StreamState}
  {seq : Nat} {prev : Option String} {streamed : StreamedChain} {bytes : List UInt8}
  {entry last : MctObservationLedgerEntry} {body es : List MctObservationLedgerEntry}

theorem parseAndCheck_ok :
    parseAndCheck path id frame seq prev false = .ok entry ↔
      LedgerHost.entry.decode frame.dropLast = .ok entry ∧ follows id seq prev entry = true := by
  rw [follows_iff]
  simp only [parseAndCheck, bind_ok, exists_unit, deny_ok, mapErr_ok, pure_ok, Bool.or_eq_false_iff,
    decide_eq_false_iff_not, not_not, and_assoc, Bool.false_eq_true, if_false]
  constructor
  · rintro ⟨e, hd, h₁, h₂, h₃, h₄, h₅, rfl⟩
    exact ⟨hd, h₁, h₂, h₃, h₄, h₅⟩
  · rintro ⟨hd, h₁, h₂, h₃, h₄, h₅⟩
    exact ⟨entry, hd, h₁, h₂, h₃, h₄, h₅, rfl⟩

theorem parseAndCheck_adopt (hd : LedgerHost.entry.decode frame.dropLast = .ok entry) :
    parseAndCheck path id frame seq prev true =
      parseAndCheck path id frame entry.localSequence entry.previousEntryHash false := by
  simp only [parseAndCheck, hd, mapErr, ok_bind, if_true, Bool.false_eq_true, if_false]

/-- **One turn of the loop**, when a frame has been kept back and the link is known. -/
theorem streamFrame_ok {s' : StreamState} (hp : s.pending = some f) (ha : s.adoptFirst = false) :
    streamFrame path id s frame = .ok s' ↔ terminated newline frame = true ∧
      ∃ entry, LedgerHost.entry.decode f.dropLast = .ok entry ∧
        follows id s.expectedSequence s.previousHash entry = true ∧ entry.localSequence + 1 < 2 ^ 64 ∧
        s' = { s.push entry f with fileHasher := s.fileHasher ++ frame, pending := some frame } := by
  unfold streamFrame takeBody
  rw [hp, ha]
  simp only [bind_ok, exists_unit, deny_ok, Bool.not_eq_eq_eq_not, Bool.not_false, parseAndCheck_ok, okOr_ok,
    checkedAdd_some, pure_ok, and_assoc]
  constructor
  · rintro ⟨ht, _, ⟨entry, hd, hf, _, hlt, -, rfl⟩, rfl⟩
    exact ⟨ht, entry, hd, hf, hlt, rfl⟩
  · rintro ⟨ht, entry, hd, hf, hlt, rfl⟩
    exact ⟨ht, _, ⟨entry, hd, hf, _, hlt, rfl, rfl⟩, rfl⟩

theorem streamFrame_first {start : Option (Nat × Option String)} {s' : StreamState} :
    streamFrame path id (startStream start) frame = .ok s' ↔ terminated newline frame = true ∧
      s' = { startStream start with fileHasher := frame, pending := some frame } := by
  simp only [streamFrame, startStream, bind_ok, exists_unit, deny_ok, Bool.not_eq_eq_eq_not, Bool.not_false, pure_ok]
  constructor
  · rintro ⟨ht, s, hs, rfl⟩
    cases hs
    exact ⟨ht, rfl⟩
  · rintro ⟨ht, rfl⟩
    exact ⟨ht, _, rfl, rfl⟩

def StreamState.summaryOf (state : StreamState) (body : List MctObservationLedgerEntry)
    (last : MctObservationLedgerEntry) (bodyFrames : List (List UInt8)) (file : List UInt8) : StreamedChain :=
  let link (entry : MctObservationLedgerEntry) := (entry.localSequence, entry.previousEntryHash)
  let first := (state.first.or (body.head?.map link)).getD (link last)
  { entryCount := state.entryCount + body.length + 1
    firstSequence := first.1
    firstPreviousEntryHash := first.2
    lastSequence := last.localSequence
    lastEntryHash := last.entryHash
    lastEntry := some last
    bodyLastSequence := (body.getLast?.map (·.localSequence)).getD state.bodyLastSequence
    bodyLastHash := (body.getLast?.map (·.entryHash)).getD state.bodyLastHash
    prefixBlake3 := blake3 (state.hasher ++ bodyFrames.flatten)
    fileBlake3 := blake3 file }

theorem StreamState.summaryOf_push {bfs : List (List UInt8)} {file read : List UInt8}
    {pending : Option (List UInt8)} :
    ({ s.push entry f with fileHasher := read, pending := pending }).summaryOf body last bfs file =
      s.summaryOf (entry :: body) last (f :: bfs) file := by
  simp only [summaryOf, push, StreamedChain.mk.injEq, List.length_cons, List.head?_cons, Option.map_some,
    List.getLast?_cons, List.flatten_cons, List.append_assoc, true_and, and_true]
  refine ⟨by omega, ?_, ?_, ?_, ?_⟩
  · cases s.first <;> rfl
  · cases s.first <;> rfl
  · cases body.getLast? <;> rfl
  · cases body.getLast? <;> rfl

/-- **The loop and what follows it read a chain**, the frame that was kept back included. -/
theorem stream_run (hp : s.pending = some f) (ha : s.adoptFirst = false) :
    (fs.foldlM (streamFrame path id) s >>= finishStream path id) = .ok streamed ↔
      (∀ g ∈ fs, terminated newline g = true) ∧
        ∃ body last, readChain id s.expectedSequence s.previousHash ((f :: fs).map List.dropLast) =
            some (body ++ [last]) ∧
          (∀ e ∈ body, e.localSequence + 1 < 2 ^ 64) ∧
          streamed = s.summaryOf body last (f :: fs).dropLast (s.fileHasher ++ fs.flatten) := by
  induction fs generalizing s f with
  | nil =>
    rw [List.foldlM_nil, pure_bind, finishStream, hp]
    simp only [ha, bind_ok, parseAndCheck_ok, pure_ok]
    constructor
    · rintro ⟨entry, ⟨hd, hf⟩, rfl⟩
      refine ⟨by simp, [], entry, readChain_cons.mpr ⟨entry, [], hd, hf, rfl, rfl⟩, by simp, ?_⟩
      simp [StreamState.summary, StreamState.summaryOf]
    · rintro ⟨-, body, last, hc, -, rfl⟩
      obtain ⟨entry, rest, hd, hf, hr, he⟩ := readChain_cons.mp hc
      cases hr
      have hone : body ++ [last] = [] ++ [entry] := he
      obtain ⟨rfl, hlast⟩ := List.append_inj' hone rfl
      cases hlast
      refine ⟨last, ⟨hd, hf⟩, ?_⟩
      simp [StreamState.summary, StreamState.summaryOf]
  | cons g fs ih =>
    rw [List.foldlM_cons, bind_assoc, bind_ok, List.forall_mem_cons]
    simp only [streamFrame_ok hp ha]
    constructor
    · rintro ⟨_, ⟨ht, entry, hd, hf, hlt, rfl⟩, hrun⟩
      obtain ⟨hfs, body, last, hc, hb, rfl⟩ := (ih rfl rfl).mp hrun
      have hs := (follows_iff.mp hf).1
      refine ⟨⟨ht, hfs⟩, entry :: body, last, ?_, List.forall_mem_cons.mpr ⟨hlt, hb⟩, ?_⟩
      · refine readChain_cons.mpr ⟨entry, body ++ [last], hd, hf, ?_, rfl⟩
        rw [← hs]
        exact hc
      · rw [StreamState.summaryOf_push]
        simp
    · rintro ⟨⟨ht, hfs⟩, body, last, hc, hb, rfl⟩
      obtain ⟨entry, rest, hd, hf, hr, he⟩ := readChain_cons.mp hc
      have hlen := readChain_length hr
      have hs := (follows_iff.mp hf).1
      cases body with
      | nil =>
        obtain ⟨-, rfl⟩ := List.cons.inj he
        simp at hlen
      | cons entry' body =>
        obtain ⟨rfl, rfl⟩ := List.cons.inj he
        rw [List.forall_mem_cons] at hb
        refine ⟨_, ⟨ht, entry', hd, hf, hb.1, rfl⟩, (ih rfl rfl).mpr ⟨hfs, body, last, ?_, hb.2, ?_⟩⟩
        · rw [← hs] at hr
          exact hr
        · rw [StreamState.summaryOf_push]
          simp

def StreamState.expecting (state : StreamState) (sequence : Nat) (previous : Option String) : StreamState :=
  { state with adoptFirst := false, expectedSequence := sequence, previousHash := previous }

theorem stream_adopt (hp : s.pending = some f) (ha : s.adoptFirst = true)
    (hd : LedgerHost.entry.decode f.dropLast = .ok entry) :
    (fs.foldlM (streamFrame path id) s >>= finishStream path id) =
      (fs.foldlM (streamFrame path id) (s.expecting entry.localSequence entry.previousEntryHash) >>=
        finishStream path id) := by
  have hp' : (s.expecting entry.localSequence entry.previousEntryHash).pending = some f := hp
  cases fs with
  | nil =>
    rw [List.foldlM_nil, List.foldlM_nil, pure_bind, pure_bind, finishStream, finishStream, hp, hp']
    simp only [ha]
    rw [parseAndCheck_adopt hd]
    rfl
  | cons g fs =>
    rw [List.foldlM_cons, List.foldlM_cons]
    congr 2
    unfold streamFrame takeBody
    simp only [hp, hp', ha]
    rw [parseAndCheck_adopt hd]
    rfl

/-- A summary of these frames and entries, whose first link is given. -/
def Summarises (id : LedgerIdentity) (streamed : StreamedChain) (fs : List (List UInt8)) (link : Nat × Option String)
    (body : List MctObservationLedgerEntry) (last : MctObservationLedgerEntry) : Prop :=
  readChain id link.1 link.2 (fs.map List.dropLast) = some (body ++ [last]) ∧
    (∀ e ∈ body, e.localSequence + 1 < 2 ^ 64) ∧
    streamed = (startStream none).summaryOf body last fs.dropLast fs.flatten

/-- **What `stream_chain` accepts**, from a given link. -/
theorem streamChain_some :
    streamChain path id (some (seq, prev)) bytes = .ok streamed ↔
      (∀ g ∈ frames newline bytes, terminated newline g = true) ∧
        (bytes = [] ∧ streamed = ⟨0, seq, prev, 0, "", none, 0, "", blake3 [], blake3 []⟩ ∨
          ∃ body last, Summarises id streamed (frames newline bytes) (seq, prev) body last) := by
  unfold streamChain Summarises
  cases hfs : frames newline bytes with
  | nil =>
    have hnil := frames_eq_nil.mp hfs
    rw [List.foldlM_nil, pure_bind]
    simp only [finishStream, startStream, Except.ok.injEq, hnil, true_and, List.map_nil, readChain, Option.some.injEq,
      List.not_mem_nil, IsEmpty.forall_iff, implies_true]
    constructor
    · rintro rfl
      exact .inl rfl
    · rintro (rfl | ⟨body, last, h, -⟩)
      · rfl
      · simp at h
  | cons f fs =>
    have hne : bytes ≠ [] := fun h => by rw [h] at hfs; cases hfs
    rw [List.foldlM_cons, bind_assoc, bind_ok, List.forall_mem_cons]
    simp only [hne, false_and, false_or, streamFrame_first]
    constructor
    · rintro ⟨_, ⟨ht, rfl⟩, hrun⟩
      obtain ⟨hfs, body, last, hc, hb, rfl⟩ := (stream_run rfl rfl).mp hrun
      exact ⟨⟨ht, hfs⟩, body, last, hc, hb, rfl⟩
    · rintro ⟨⟨ht, hfs⟩, body, last, hc, hb, rfl⟩
      exact ⟨_, ⟨ht, rfl⟩, (stream_run rfl rfl).mpr ⟨hfs, body, last, hc, hb, rfl⟩⟩

theorem parseAndCheck_decode {adoptFirst : Bool}
    (h : parseAndCheck path id frame seq prev adoptFirst = .ok entry) :
    LedgerHost.entry.decode frame.dropLast = .ok entry := by
  simp only [parseAndCheck, bind_ok, exists_unit, mapErr_ok, pure_ok] at h
  obtain ⟨e, hd, -, -, -, -, rfl⟩ := h
  exact hd

theorem stream_decode (hp : s.pending = some f)
    (h : (fs.foldlM (streamFrame path id) s >>= finishStream path id) = .ok streamed) :
    ∃ entry, LedgerHost.entry.decode f.dropLast = .ok entry := by
  cases fs with
  | nil =>
    rw [List.foldlM_nil, pure_bind, finishStream, hp] at h
    obtain ⟨entry, he, -⟩ := bind_ok.mp h
    exact ⟨entry, parseAndCheck_decode he⟩
  | cons g fs =>
    rw [List.foldlM_cons, bind_assoc] at h
    obtain ⟨s', hs, -⟩ := bind_ok.mp h
    simp only [streamFrame, takeBody, hp, bind_ok, exists_unit] at hs
    obtain ⟨-, _, ⟨entry, he, -⟩, -⟩ := hs
    exact ⟨entry, parseAndCheck_decode he⟩

theorem summaryOf_first (bfs : List (List UInt8)) (file : List UInt8) (he : body ++ [last] = entry :: es) :
    ((startStream none).summaryOf body last bfs file).firstSequence = entry.localSequence ∧
      ((startStream none).summaryOf body last bfs file).firstPreviousEntryHash = entry.previousEntryHash := by
  cases body with
  | nil =>
    cases he
    exact ⟨rfl, rfl⟩
  | cons e body =>
    cases he
    exact ⟨rfl, rfl⟩

/-- **What `stream_chain` accepts** when it adopts the first link. -/
theorem streamChain_none (hne : bytes ≠ []) :
    streamChain path id none bytes = .ok streamed ↔
      (∀ g ∈ frames newline bytes, terminated newline g = true) ∧
        ∃ body last, Summarises id streamed (frames newline bytes)
          (streamed.firstSequence, streamed.firstPreviousEntryHash) body last := by
  unfold streamChain Summarises
  cases hfs : frames newline bytes with
  | nil => exact absurd (frames_eq_nil.mp hfs) hne
  | cons f fs =>
    rw [List.foldlM_cons, bind_assoc, bind_ok, List.forall_mem_cons]
    simp only [streamFrame_first]
    constructor
    · rintro ⟨_, ⟨ht, rfl⟩, hrun⟩
      obtain ⟨entry, hd⟩ := stream_decode rfl hrun
      rw [stream_adopt rfl rfl hd] at hrun
      obtain ⟨hfs, body, last, hc, hb, rfl⟩ := (stream_run rfl rfl).mp hrun
      obtain ⟨entry', rest, hd', -, -, he⟩ := readChain_cons.mp hc
      obtain rfl : entry = entry' := by rw [hd] at hd'; cases hd'; rfl
      have hlink := summaryOf_first (f :: fs).dropLast (f ++ fs.flatten) he
      refine ⟨⟨ht, hfs⟩, body, last, ?_, hb, rfl⟩
      show readChain id ((startStream none).summaryOf body last (f :: fs).dropLast (f ++ fs.flatten)).firstSequence
        ((startStream none).summaryOf body last (f :: fs).dropLast (f ++ fs.flatten)).firstPreviousEntryHash _ = _
      rw [hlink.1, hlink.2]
      exact hc
    · rintro ⟨⟨ht, hfs⟩, body, last, hc, hb, rfl⟩
      obtain ⟨entry, rest, hd, hf, -, he⟩ := readChain_cons.mp hc
      have hlink := summaryOf_first (f :: fs).dropLast (f :: fs).flatten he
      rw [hlink.1, hlink.2] at hc
      refine ⟨_, ⟨ht, rfl⟩, ?_⟩
      rw [stream_adopt rfl rfl hd]
      exact (stream_run rfl rfl).mpr ⟨hfs, body, last, hc, hb, rfl⟩

end Mct
