import PatinaMct.Iter
import PatinaMct.Stream
/-!
# Segment — segments that are closed by their checkpoints

A sealed segment is a file whose last entry commits to the frames before it: how many they are, the head they lead to and
the hash of their bytes.  Every segment is read with its own first link adopted; the links between the files are checked
afterwards.  `verifySegments_ok` and `verifySegments_of_closed` say that the loop over the segments accepts exactly the
closed segments that are one chain.
-/
namespace Mct

open Checked
open Frames

/-- Commitment to the bytes that precede a segment's checkpoint observation. -/
structure SegmentCheckpointV1 where
  schema : String
  segmentId : String
  entryCount : Nat
  lastSequence : Nat
  lastEntryHash : String
  segmentBlake3 : String
  deriving DecidableEq, Repr

class SegmentHost extends LedgerHost where
  segmentCheckpoint : Codec SegmentCheckpointV1 String

variable [SegmentHost]

def segmentCheckpointStart : String := "mct-ledger-segment-checkpoint-v1:"

def segmentCheckpointSchema : String := "mct-ledger-segment-checkpoint/v1"

structure SealedSegment where
  path : String
  checkpoint : SegmentCheckpointV1
  checkpointSequence : Nat
  checkpointEntryHash : String
  firstSequence : Nat
  firstPreviousEntryHash : Option String
  deriving DecidableEq, Repr

structure SegmentedLedgerReport where
  segments : List SealedSegment
  openEntries : Nat
  openHeadSequence : Option Nat
  openHeadHash : Option String
  deriving DecidableEq, Repr

variable {path : String} {id : LedgerIdentity} {seq : Nat} {previous : Option String} {bytes : List UInt8}
  {entries : List MctObservationLedgerEntry}

/-! ## Segments -/

def decodeCheckpoint (entry : MctObservationLedgerEntry) : Except ObservationLedgerError SegmentCheckpointV1 := do
  deny (entry.observation.kind ≠ .storageAppendSucceeded)
    (.segmentRejected "segment checkpoint observation has the wrong kind")
  let detail ← okOr entry.observation.detailRef (.segmentRejected "segment checkpoint observation has no detail")
  let json ← okOr (stripStart detail segmentCheckpointStart)
    (.segmentRejected "segment checkpoint detail prefix is missing")
  let checkpoint ← mapErr (ObservationLedgerError.json "<segment-checkpoint>")
    (SegmentHost.segmentCheckpoint.decode json)
  deny (checkpoint.schema ≠ segmentCheckpointSchema) (.segmentRejected "segment checkpoint schema is not v1")
  return checkpoint

def verifySealedSegment (path : String) (id : LedgerIdentity) (bytes : List UInt8) :
    Except ObservationLedgerError SealedSegment := do
  let streamed ← streamChain path id none bytes
  deny (decide (streamed.entryCount < 2)) (.segmentRejected "sealed segment is missing its checkpoint observation")
  let checkpointEntry ← okOr streamed.lastEntry (.segmentRejected "sealed segment has no checkpoint frame")
  let checkpoint ← decodeCheckpoint checkpointEntry
  deny (checkpoint.entryCount ≠ streamed.entryCount - 1)
    (.segmentRejected "checkpoint entry count does not match the prefix")
  deny (checkpoint.lastSequence ≠ streamed.bodyLastSequence || checkpoint.lastEntryHash ≠ streamed.bodyLastHash)
    (.segmentRejected "checkpoint does not bind the prefix head")
  deny (checkpoint.segmentBlake3 ≠ streamed.prefixBlake3)
    (.segmentRejected "checkpoint digest does not match the prefix bytes")
  let expected ← okOr (checkedAdd checkpoint.lastSequence 1) (.segmentRejected "segment sequence overflow")
  deny (checkpointEntry.localSequence ≠ expected) (.sequenceMismatch expected checkpointEntry.localSequence)
  deny (checkpointEntry.previousEntryHash ≠ some checkpoint.lastEntryHash)
    (.brokenHashChain checkpointEntry.localSequence)
  return ⟨path, checkpoint, checkpointEntry.localSequence, checkpointEntry.entryHash, streamed.firstSequence,
    streamed.firstPreviousEntryHash⟩

def expectLink (actualSequence : Nat) (actualPrevious : Option String) (expectedSequence : Nat)
    (expectedPrevious : Option String) : Except ObservationLedgerError Unit := do
  deny (actualSequence ≠ expectedSequence) (.sequenceMismatch expectedSequence actualSequence)
  deny (actualPrevious ≠ expectedPrevious) (.brokenHashChain actualSequence)

def verifySegments (id : LedgerIdentity) : Nat → Option String → List (String × List UInt8) →
    Except ObservationLedgerError (List SealedSegment × Nat × Option String)
  | expectedSequence, expectedPrevious, [] => .ok ([], expectedSequence, expectedPrevious)
  | expectedSequence, expectedPrevious, (path, bytes) :: rest => do
    let sealed ← verifySealedSegment path id bytes
    expectLink sealed.firstSequence sealed.firstPreviousEntryHash expectedSequence expectedPrevious
    let next ← okOr (checkedAdd sealed.checkpointSequence 1) (.segmentRejected "segment sequence overflow")
    let (segments, link) ← verifySegments id next (some sealed.checkpointEntryHash) rest
    return (sealed :: segments, link)

/-- **A segment that is closed**: at least two frames, of which the last carries a checkpoint (an observation of the
right kind, with a readable detail of the right schema) of the frames before it. -/
def ClosedByCheckpoint (bytes : List UInt8) : Prop :=
  ∃ (body : List (List UInt8)) (headFrame lastFrame : List UInt8) (head last : MctObservationLedgerEntry)
    (checkpoint : SegmentCheckpointV1),
    frames newline bytes = body ++ [headFrame, lastFrame] ∧
      (∀ f ∈ frames newline bytes, terminated newline f = true) ∧
      LedgerHost.entry.decode headFrame.dropLast = .ok head ∧ LedgerHost.entry.decode lastFrame.dropLast = .ok last ∧
      decodeCheckpoint last = .ok checkpoint ∧
      checkpoint.entryCount = (body ++ [headFrame]).length ∧ checkpoint.lastSequence = head.localSequence ∧
      checkpoint.lastEntryHash = head.entryHash ∧ checkpoint.segmentBlake3 = blake3 (body ++ [headFrame]).flatten

theorem readChain_two {bfs : List (List UInt8)} {headFrame lastFrame : List UInt8} :
    readChain id seq previous ((bfs ++ [headFrame, lastFrame]).map List.dropLast) = some entries ↔
      ∃ body head last, readChain id seq previous (bfs.map List.dropLast) = some body ∧
        LedgerHost.entry.decode headFrame.dropLast = .ok head ∧
        follows id (seq + bfs.length) (hashAfter previous body) head = true ∧
        LedgerHost.entry.decode lastFrame.dropLast = .ok last ∧
        follows id (seq + bfs.length + 1) (some head.entryHash) last = true ∧
        entries = body ++ [head] ++ [last] := by
  have hsplit : (bfs ++ [headFrame, lastFrame]).map List.dropLast =
      bfs.map List.dropLast ++ [headFrame.dropLast] ++ [lastFrame.dropLast] := by simp
  rw [hsplit, readChain_concat]
  simp only [readChain_concat, List.length_append, List.length_map, List.length_singleton]
  constructor
  · rintro ⟨_, last, ⟨body, head, hbody, hdh, hfh, rfl⟩, hdl, hfl, rfl⟩
    rw [hashAfter_concat, ← Nat.add_assoc] at hfl
    exact ⟨body, head, last, hbody, hdh, hfh, hdl, hfl, rfl⟩
  · rintro ⟨body, head, last, hbody, hdh, hfh, hdl, hfl, rfl⟩
    refine ⟨body ++ [head], last, ⟨body, head, hbody, hdh, hfh, rfl⟩, hdl, ?_, rfl⟩
    rw [hashAfter_concat, ← Nat.add_assoc]
    exact hfl

variable {sealed : SealedSegment}

/-- **A verified segment is closed, and is a chain from its own first link.** -/
theorem verifySealedSegment_ok (h : verifySealedSegment path id bytes = .ok sealed) :
    ClosedByCheckpoint bytes ∧ ∃ body last,
      readChain id sealed.firstSequence sealed.firstPreviousEntryHash ((frames newline bytes).map List.dropLast) =
        some (body ++ [last]) ∧
      sealed.checkpointSequence = last.localSequence ∧ sealed.checkpointEntryHash = last.entryHash := by
  simp only [verifySealedSegment, bind_ok, exists_unit, deny_ok, okOr_ok, pure_ok, checkedAdd_some,
    Bool.or_eq_false_iff, decide_eq_false_iff_not, not_not, and_assoc] at h
  obtain ⟨streamed, hs, htwo, checkpointEntry, hlast, checkpoint, hck, hcount, hseq, hhash, hdigest, _, -, -, -, -,
    rfl⟩ := h
  have hne : bytes ≠ [] := by
    rintro rfl
    cases hs
    exact htwo (show 0 < 2 by omega)
  obtain ⟨ht, body, last, hc, -, hsum⟩ := (streamChain_none hne).mp hs
  have hlen := readChain_length hc
  rw [List.length_append, List.length_singleton, List.length_map] at hlen
  -- the body is not empty, so that the frames end in a head and a checkpoint
  obtain ⟨bodyFrames, headFrame, lastFrame, hfs⟩ : ∃ B h l, frames newline bytes = B ++ [h, l] := by
    have hcount₂ : 2 ≤ (frames newline bytes).length := by
      rw [hsum] at htwo
      simp only [StreamState.summaryOf, startStream] at htwo
      omega
    rcases List.eq_nil_or_concat' (frames newline bytes) with h | ⟨B, l, h⟩
    · rw [h] at hcount₂
      simp at hcount₂
    rcases List.eq_nil_or_concat' B with rfl | ⟨B, h', rfl⟩
    · rw [h] at hcount₂
      simp at hcount₂
    exact ⟨B, h', l, by rw [h]; simp⟩
  have hc' := hc
  rw [hfs] at hc'
  obtain ⟨body', head, last', -, hdh, -, hdl, -, hents⟩ := readChain_two.mp hc'
  obtain ⟨rfl, hll⟩ := List.append_inj' hents rfl
  cases hll
  have hdrop : (frames newline bytes).dropLast = bodyFrames ++ [headFrame] := by
    rw [hfs, show bodyFrames ++ [headFrame, lastFrame] = bodyFrames ++ [headFrame] ++ [lastFrame] by simp,
      List.dropLast_concat]
  rw [hdrop] at hsum
  subst hsum
  cases hlast
  refine ⟨⟨bodyFrames, headFrame, lastFrame, head, checkpointEntry, checkpoint, hfs, ht, hdh, hdl, hck, ?_, ?_, ?_,
    hdigest⟩, body' ++ [head], checkpointEntry, hc, rfl, rfl⟩
  · rw [hcount]
    simp only [StreamState.summaryOf, startStream]
    rw [hfs] at hlen
    simp only [List.length_append, List.length_cons, List.length_nil] at hlen ⊢
    omega
  · rw [hseq]
    simp [StreamState.summaryOf]
  · rw [hhash]
    simp [StreamState.summaryOf]

/-- **A closed segment that is a chain is verified**, with that chain's first link. -/
theorem verifySealedSegment_of_closed (path : String) (hclosed : ClosedByCheckpoint bytes)
    (hc : readChain id seq previous ((frames newline bytes).map List.dropLast) = some entries)
    (hfit : seq + entries.length < 2 ^ 64) :
    ∃ sealed, verifySealedSegment path id bytes = .ok sealed ∧ sealed.firstSequence = seq ∧
      sealed.firstPreviousEntryHash = previous ∧ sealed.checkpointSequence + 1 = seq + entries.length ∧
      some sealed.checkpointEntryHash = hashAfter previous entries := by
  obtain ⟨bodyFrames, headFrame, lastFrame, head, last, checkpoint, hfs, ht, hdh, hdl, hck, hcount, hseq, hhash,
    hdigest⟩ := hclosed
  have hc' := hc
  rw [hfs] at hc'
  obtain ⟨body, head', last', hbody, hdh', hfh, hdl', hfl, rfl⟩ := readChain_two.mp hc'
  obtain rfl : head = head' := by rw [hdh] at hdh'; cases hdh'; rfl
  obtain rfl : last = last' := by rw [hdl] at hdl'; cases hdl'; rfl
  have hlen := readChain_length hbody
  rw [List.length_map] at hlen
  have hheads := (follows_iff.mp hfh).1
  obtain ⟨hlasts, -, hlastp, -⟩ := follows_iff.mp hfl
  simp only [List.length_append, List.length_singleton] at hfit hcount
  have hne : bytes ≠ [] := by
    rintro rfl
    simp at hfs
  have hdrop : (frames newline bytes).dropLast = bodyFrames ++ [headFrame] := by
    rw [hfs, show bodyFrames ++ [headFrame, lastFrame] = bodyFrames ++ [headFrame] ++ [lastFrame] by simp,
      List.dropLast_concat]
  -- the first link is that of the first entry, which is the given one
  obtain ⟨first, rest, hents, hfirst⟩ : ∃ first rest, body ++ [head] ++ [last] = first :: rest ∧
      follows id seq previous first = true := by
    cases hcons : (frames newline bytes).map List.dropLast with
    | nil =>
      rw [List.map_eq_nil_iff.mp hcons] at hfs
      simp at hfs
    | cons line lines =>
      rw [hcons] at hc
      obtain ⟨first, rest, -, hf, -, he⟩ := readChain_cons.mp hc
      exact ⟨first, rest, he, hf⟩
  have hlink := summaryOf_first (frames newline bytes).dropLast (frames newline bytes).flatten hents
  obtain ⟨hfs₁, -, hfp₁, -⟩ := follows_iff.mp hfirst
  rw [hfs₁, hfp₁] at hlink
  have hstr : streamChain path id none bytes = .ok ((startStream none).summaryOf (body ++ [head]) last
      (frames newline bytes).dropLast (frames newline bytes).flatten) := by
    refine (streamChain_none hne).mpr ⟨ht, body ++ [head], last, ?_, ?_, rfl⟩
    · rw [hlink.1, hlink.2]
      exact hc
    · intro e he
      have := readChain_sequence_lt hc e (List.mem_append_left _ he)
      rw [List.length_append, List.length_append, List.length_singleton, List.length_singleton] at this
      omega
  refine ⟨⟨path, checkpoint, last.localSequence, last.entryHash, seq, previous⟩, ?_, rfl, rfl, ?_, ?_⟩
  · simp only [verifySealedSegment, bind_ok, exists_unit, deny_ok, okOr_ok, pure_ok, checkedAdd_some,
      Bool.or_eq_false_iff, decide_eq_false_iff_not, not_not, and_assoc]
    refine ⟨_, hstr, ?_, last, rfl, checkpoint, hck, ?_, ?_, ?_, ?_, _, ?_, rfl, ?_, ?_, ?_⟩
    · simp only [StreamState.summaryOf, startStream, List.length_append, List.length_singleton]
      omega
    · simp only [StreamState.summaryOf, startStream, List.length_append, List.length_singleton]
      omega
    · simpa [StreamState.summaryOf] using hseq
    · simpa [StreamState.summaryOf] using hhash
    · rw [hdigest, hdrop]
      rfl
    · omega
    · omega
    · rw [hlastp, hhash]
    · rw [hlink.1, hlink.2]
  · simp only [List.length_append, List.length_singleton]
    omega
  · rw [hashAfter_concat]

variable {segs : List (String × List UInt8)}

theorem verifySegments_ok {result : List SealedSegment × Nat × Option String}
    (h : verifySegments id seq previous segs = .ok result) :
    (∀ segment ∈ segs, ClosedByCheckpoint segment.2) ∧ ∃ entries,
      readChain id seq previous ((segs.flatMap fun segment => frames newline segment.2).map List.dropLast) =
        some entries ∧
      result.2 = (seq + entries.length, hashAfter previous entries) := by
  induction segs generalizing seq previous result with
  | nil =>
    cases h
    exact ⟨by simp, [], rfl, rfl⟩
  | cons segment segs ih =>
    obtain ⟨path, bytes⟩ := segment
    simp only [verifySegments, expectLink, bind_ok, exists_unit, deny_ok, okOr_ok, pure_ok, checkedAdd_some,
      decide_eq_false_iff_not, not_not, and_assoc] at h
    obtain ⟨sealed, hs, hfirst, hprev, next, -, rfl, ⟨rest, link⟩, hrest, rfl⟩ := h
    obtain ⟨hclosed, body, last, hc, hseq, hhash⟩ := verifySealedSegment_ok hs
    rw [hfirst, hprev] at hc
    obtain ⟨hall, entries, hchain, hlink⟩ := ih hrest
    have hlen := readChain_length hc
    -- the checkpoint is the last link of this file, and the next file goes on from it
    have hnext : sealed.checkpointSequence + 1 = seq + (body ++ [last]).length := by
      rcases List.eq_nil_or_concat' ((frames newline bytes).map List.dropLast) with hnil | ⟨lines, line, hl⟩
      · rw [hnil] at hlen
        simp at hlen
      · rw [hl] at hc
        obtain ⟨body', last', hb', -, hf', he'⟩ := readChain_concat.mp hc
        obtain ⟨rfl, hll⟩ := List.append_inj' he' rfl
        cases hll
        have := readChain_length hb'
        have := (follows_iff.mp hf').1
        rw [hseq, List.length_append, List.length_singleton]
        omega
    rw [hnext, hhash] at hchain
    refine ⟨List.forall_mem_cons.mpr ⟨hclosed, hall⟩, (body ++ [last]) ++ entries, ?_, ?_⟩
    · rw [List.flatMap_cons, List.map_append, readChain_append]
      refine ⟨body ++ [last], entries, hc, ?_, rfl⟩
      rw [← hlen, hashAfter_concat]
      exact hchain
    · refine hlink.trans ?_
      have hsum : (body ++ [last] ++ entries).length = (body ++ [last]).length + entries.length := List.length_append
      rw [hnext, hhash, hashAfter_append previous (body ++ [last]), hashAfter_concat, hsum, Nat.add_assoc]

theorem verifySegments_of_closed (hclosed : ∀ segment ∈ segs, ClosedByCheckpoint segment.2)
    (hc : readChain id seq previous
      ((segs.flatMap fun segment => frames newline segment.2).map List.dropLast) = some entries)
    (hfit : seq + entries.length < 2 ^ 64) :
    ∃ verified, verifySegments id seq previous segs =
      .ok (verified, seq + entries.length, hashAfter previous entries) := by
  induction segs generalizing seq previous entries with
  | nil =>
    cases hc
    exact ⟨[], rfl⟩
  | cons segment segs ih =>
    obtain ⟨path, bytes⟩ := segment
    rw [List.forall_mem_cons] at hclosed
    rw [List.flatMap_cons, List.map_append, readChain_append] at hc
    obtain ⟨front, back, hfront, hback, rfl⟩ := hc
    rw [List.length_append] at hfit
    obtain ⟨sealed, hs, hfirst, hprev, hseq, hhash⟩ :=
      verifySealedSegment_of_closed path hclosed.1 hfront (by omega)
    rw [← readChain_length hfront, ← hseq, ← hhash] at hback
    obtain ⟨verified, hv⟩ := ih hclosed.2 hback (by omega)
    refine ⟨sealed :: verified, ?_⟩
    simp only [verifySegments, expectLink, bind_ok, exists_unit, deny_ok, okOr_ok, pure_ok, checkedAdd_some,
      decide_eq_false_iff_not, not_not, and_assoc]
    refine ⟨sealed, hs, hfirst, hprev, _, by omega, rfl, _, hv, ?_⟩
    rw [hashAfter_append, ← hhash, List.length_append, hseq, Nat.add_assoc]

end Mct
