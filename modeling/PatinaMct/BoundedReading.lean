import Mathlib
/-!
# BoundedReading — reading a stream up to a limit

`release.rs`: `HardByteBudget` passes on the reads of an inner reader until a limit; at the limit it probes for one more
byte, and a byte that is there makes this and every later read an error.  `read_bounded_bytes` collects what it delivers.
The inner reader is any sequence of deliveries: chunks, which one read takes as a whole or in parts, the end of the
stream, and errors, of which an interruption is one.

Addresses have 64 bits and the allocator grants what it is asked for, so that neither `usize::try_from` of a limit nor
`try_reserve_exact` fails.
-/
namespace Mct

inductive IoError
  | interrupted
  | other (message : String)
  deriving DecidableEq

/-- **An inner reader**: its deliveries, an empty one being the end of the stream, and what a short read has left over. -/
structure InnerReader where
  deliveries : Nat → Except IoError (List UInt8)
  next : Nat := 0
  pending : List UInt8 := []

def InnerReader.read (reader : InnerReader) (length : Nat) : Except IoError (List UInt8) × InnerReader :=
  match reader.pending with
  | [] =>
    match reader.deliveries reader.next with
    | .error error => (.error error, { reader with next := reader.next + 1 })
    | .ok chunk => (.ok (chunk.take length), ⟨reader.deliveries, reader.next + 1, chunk.drop length⟩)
  | pending => (.ok (pending.take length), { reader with pending := pending.drop length })

structure HardByteBudget where
  inner : InnerReader
  remaining : Nat
  exceeded : Bool
  message : String

namespace HardByteBudget

def new (inner : InnerReader) (limit : Nat) (message : String) : HardByteBudget := ⟨inner, limit, false, message⟩

def read (reader : HardByteBudget) (length : Nat) : Except IoError (List UInt8) × HardByteBudget :=
  if length = 0 then (.ok [], reader)
  else if reader.exceeded then (.error (.other reader.message), reader)
  else if reader.remaining = 0 then
    match reader.inner.read 1 with
    | (.error error, inner) => (.error error, { reader with inner := inner })
    | (.ok [], inner) => (.ok [], { reader with inner := inner })
    | (.ok (_ :: _), inner) => (.error (.other reader.message), { reader with inner := inner, exceeded := true })
  else
    match reader.inner.read (min length reader.remaining) with
    | (.error error, inner) => (.error error, { reader with inner := inner })
    | (.ok bytes, inner) => (.ok bytes, { reader with inner := inner, remaining := reader.remaining - bytes.length })

def reads (reader : HardByteBudget) : List Nat → List (Except IoError (List UInt8)) × HardByteBudget
  | [] => ([], reader)
  | length :: lengths =>
    let (result, reader) := reader.read length
    let (results, reader) := reader.reads lengths
    (result :: results, reader)

end HardByteBudget

structure SnapshotBuffer where
  bytes : List UInt8
  capacity : Nat

/-- `try_reserve_exact` when there is not enough room, and `extend_from_slice`. -/
def SnapshotBuffer.extend (buffer : SnapshotBuffer) (maxCapacity : Nat) (chunk : List UInt8) : SnapshotBuffer :=
  let needed := buffer.bytes.length + chunk.length
  ⟨buffer.bytes ++ chunk,
    if buffer.capacity < needed then min (max needed (buffer.capacity * 2)) maxCapacity else buffer.capacity⟩

/-! ## Streams -/

inductive InnerReader.EndsFrom (deliveries : Nat → Except IoError (List UInt8)) : Nat → List UInt8 → Prop
  | done {n : Nat} (h : deliveries n = .ok []) : EndsFrom deliveries n []
  | chunk {n : Nat} {byte : UInt8} {bytes rest : List UInt8} (h : deliveries n = .ok (byte :: bytes))
      (hrest : EndsFrom deliveries (n + 1) rest) : EndsFrom deliveries n (byte :: bytes ++ rest)

/-- **The stream that is still to come ends without an error.** -/
def InnerReader.Streams (reader : InnerReader) (stream : List UInt8) : Prop :=
  ∃ rest, EndsFrom reader.deliveries reader.next rest ∧ stream = reader.pending ++ rest

/-- **What a read says of the streams possible before it and after it**: an error, that there is none; the end, that it is
the empty one; bytes, that they are its first ones. -/
def Narrows (before after : List UInt8 → Prop) : Except IoError (List UInt8) → Prop
  | .error _ => ∀ stream, ¬ before stream
  | .ok [] => ∀ stream, before stream ↔ stream = []
  | .ok (byte :: bytes) => ∀ stream, before stream ↔ ∃ rest, stream = byte :: bytes ++ rest ∧ after rest

theorem InnerReader.read_narrows (reader : InnerReader) {length : Nat} (h : 0 < length) :
    Narrows reader.Streams (reader.read length).2.Streams (reader.read length).1 := by
  obtain ⟨deliveries, next, pending⟩ := reader
  obtain ⟨length, rfl⟩ := Nat.exists_eq_succ_of_ne_zero h.ne'
  -- a chunk, or what is left of one, is taken in part
  have htake : ∀ at' (chunk stream : List UInt8), Streams ⟨deliveries, at', chunk⟩ stream ↔
      ∃ rest, stream = chunk.take (length + 1) ++ rest ∧ Streams ⟨deliveries, at', chunk.drop (length + 1)⟩ rest := by
    intro at' chunk stream
    constructor
    · rintro ⟨rest, hrest, rfl⟩
      exact ⟨_, by rw [← List.append_assoc, List.take_append_drop], rest, hrest, rfl⟩
    · rintro ⟨_, rfl, rest, hrest, rfl⟩
      exact ⟨rest, hrest, by rw [← List.append_assoc, List.take_append_drop]⟩
  unfold read
  cases pending with
  | cons byte bytes => exact htake next (byte :: bytes)
  | nil =>
    cases hnext : deliveries next with
    | error error =>
      simp only [hnext]
      rintro stream ⟨rest, hrest, -⟩
      cases hrest <;> simp_all
    | ok chunk =>
      simp only [hnext]
      cases chunk with
      | nil =>
        intro stream
        constructor
        · rintro ⟨rest, hrest, rfl⟩
          cases hrest <;> simp_all
        · rintro rfl
          exact ⟨[], .done hnext, rfl⟩
      | cons byte bytes =>
        refine fun stream => Iff.trans ?_ (htake (next + 1) (byte :: bytes) stream)
        constructor
        · rintro ⟨rest, hrest, rfl⟩
          cases hrest with
          | done h => simp_all
          | chunk h hrest =>
            obtain ⟨rfl, rfl⟩ : _ = byte ∧ _ = bytes := by simpa using h.symm.trans hnext
            exact ⟨_, hrest, rfl⟩
        · rintro ⟨rest, hrest, rfl⟩
          exact ⟨_, .chunk hnext hrest, rfl⟩

theorem InnerReader.read_length_le (reader : InnerReader) (length : Nat) :
    ∀ bytes, (reader.read length).1 = .ok bytes → bytes.length ≤ length := by
  rintro bytes h
  unfold read at h
  split at h
  · split at h
    · exact absurd h nofun
    · obtain rfl := Except.ok.inj h
      exact List.length_take_le _ _
  · obtain rfl := Except.ok.inj h
    exact List.length_take_le _ _

def exposed : Except IoError (List UInt8) → List UInt8
  | .ok bytes => bytes
  | .error _ => []

def InnerReader.delivered (reader : InnerReader) : List UInt8 :=
  (List.range reader.next).flatMap fun n => exposed (reader.deliveries n)

theorem InnerReader.read_delivered (reader : InnerReader) (length : Nat) {seen : List UInt8}
    (h : seen ++ reader.pending = reader.delivered) :
    seen ++ exposed (reader.read length).1 ++ (reader.read length).2.pending = (reader.read length).2.delivered := by
  obtain ⟨deliveries, next, pending⟩ := reader
  unfold read
  cases pending with
  | cons byte bytes =>
    simp only [exposed]
    rw [List.append_assoc, List.take_append_drop]
    exact h
  | nil =>
    have hnext : ∀ pending, delivered ⟨deliveries, next + 1, pending⟩ = seen ++ exposed (deliveries next) := by
      intro pending
      rw [delivered, List.range_succ, List.flatMap_append, List.flatMap_singleton]
      exact congrArg (· ++ _) (h.symm.trans (List.append_nil _))
    cases hchunk : deliveries next with
    | error error =>
      simp only [hnext, hchunk, List.append_nil]
    | ok chunk =>
      simp only [hnext, hchunk, exposed]
      rw [List.append_assoc, List.take_append_drop]

/-! ## The budget -/

namespace HardByteBudget

variable {reader : HardByteBudget}

def Fits (reader : HardByteBudget) (stream : List UInt8) : Prop :=
  reader.inner.Streams stream ∧ stream.length ≤ reader.remaining

/-- **What one read says of the streams that fit.** -/
theorem read_narrows {length : Nat} (h : 0 < length) (hopen : reader.exceeded = false) :
    Narrows reader.Fits (reader.read length).2.Fits (reader.read length).1 := by
  have hlength := reader.inner.read_length_le (min length reader.remaining)
  unfold read
  rw [if_neg h.ne', hopen, if_neg Bool.false_ne_true]
  split
  · rename_i hzero
    have hinner := reader.inner.read_narrows Nat.one_pos
    split
    all_goals
      rename_i hread
      rw [hread] at hinner
    · exact fun stream hfits => hinner stream hfits.1
    · refine fun stream => ⟨fun hfits => (hinner stream).mp hfits.1, ?_⟩
      rintro rfl
      exact ⟨(hinner []).mpr rfl, Nat.zero_le _⟩
    · -- the probe found a byte
      rintro stream ⟨hstream, hfits⟩
      obtain ⟨rest, rfl, -⟩ := (hinner stream).mp hstream
      simp [hzero] at hfits
  · rename_i hzero
    have hinner := reader.inner.read_narrows (Nat.lt_min.mpr ⟨h, Nat.pos_of_ne_zero hzero⟩)
    split
    all_goals
      rename_i hread
      rw [hread] at hinner hlength
    · exact fun stream hfits => hinner stream hfits.1
    · rename_i bytes inner
      have hle := (hlength bytes rfl).trans (Nat.min_le_right _ _)
      cases bytes with
      | nil =>
        refine fun stream => ⟨fun hfits => (hinner stream).mp hfits.1, ?_⟩
        rintro rfl
        exact ⟨(hinner []).mpr rfl, Nat.zero_le _⟩
      | cons byte bytes =>
        intro stream
        constructor
        · rintro ⟨hstream, hfits⟩
          obtain ⟨rest, rfl, hrest⟩ := (hinner stream).mp hstream
          rw [List.length_append] at hfits
          exact ⟨rest, rfl, hrest, Nat.le_sub_of_add_le' hfits⟩
        · rintro ⟨rest, rfl, hrest, hfits⟩
          refine ⟨(hinner _).mpr ⟨rest, rfl, hrest⟩, ?_⟩
          rw [List.length_append]
          exact Nat.add_le_of_le_sub' hle hfits

/-- A read takes from what remains exactly what it hands out. -/
theorem read_remaining (reader : HardByteBudget) (length : Nat) :
    (reader.read length).2.remaining + (exposed (reader.read length).1).length = reader.remaining := by
  unfold read
  split
  · rfl
  · split
    · rfl
    · split
      · split <;> rfl
      · have hle := reader.inner.read_length_le (min length reader.remaining)
        split
        · rfl
        · rename_i bytes inner hread
          rw [hread] at hle
          exact Nat.sub_add_cancel ((hle bytes rfl).trans (Nat.min_le_right _ _))

theorem read_message (reader : HardByteBudget) (length : Nat) : (reader.read length).2.message = reader.message := by
  unfold read
  repeat' split
  all_goals rfl

theorem read_open {length : Nat} {bytes : List UInt8} (h : (reader.read length).1 = .ok bytes) :
    (reader.read length).2.exceeded = reader.exceeded := by
  unfold read at h ⊢
  repeat' split
  all_goals simp_all

/-- The bytes handed out so far are the first ones delivered; the probe drops one only as the budget is exceeded. -/
def Sound (seen : List UInt8) (reader : HardByteBudget) : Prop :=
  if reader.exceeded then seen <+: reader.inner.delivered else seen ++ reader.inner.pending = reader.inner.delivered

theorem read_sound {seen : List UInt8} (hsound : Sound seen reader) (length : Nat) :
    Sound (seen ++ exposed (reader.read length).1) (reader.read length).2 := by
  unfold read
  split
  · rwa [exposed, List.append_nil]
  · split
    · rwa [exposed, List.append_nil]
    · rename_i hopen
      unfold Sound at hsound
      rw [if_neg hopen] at hsound
      have hstep := fun length => reader.inner.read_delivered length hsound
      split
      · have hstep := hstep 1
        split
        all_goals
          rename_i hread
          rw [hread] at hstep
        · rwa [exposed, Sound, if_neg hopen]
        · rwa [exposed, Sound, if_neg hopen]
        · rw [exposed, List.append_nil, Sound, if_pos rfl, ← hstep, List.append_assoc]
          exact List.prefix_append _ _
      · have hstep := hstep (min length reader.remaining)
        split
        all_goals
          rename_i hread
          rw [hread] at hstep
          rwa [exposed, Sound, if_neg hopen]

/-- **Whatever a consumer reads, it gets the first bytes delivered and no more than the limit.** -/
theorem reads_sound (lengths : List Nat) : ∀ {reader : HardByteBudget} {seen : List UInt8}, Sound seen reader →
    Sound (seen ++ (reader.reads lengths).1.flatMap exposed) (reader.reads lengths).2 ∧
      (reader.reads lengths).2.remaining + ((reader.reads lengths).1.flatMap exposed).length = reader.remaining ∧
      (reader.reads lengths).2.message = reader.message := by
  induction lengths with
  | nil =>
    intro reader seen hsound
    exact ⟨by rwa [reads, List.flatMap_nil, List.append_nil], rfl, rfl⟩
  | cons length lengths ih =>
    intro reader seen hsound
    obtain ⟨hafter, hcount, hmessage⟩ := ih (read_sound hsound length)
    have hread := reader.read_remaining length
    rw [List.append_assoc] at hafter
    refine ⟨by rwa [reads, List.flatMap_cons], ?_, hmessage.trans (reader.read_message length)⟩
    rw [reads, List.flatMap_cons, List.length_append]
    dsimp only
    omega

/-- An exceeded budget reads nothing more. -/
theorem reads_exceeded (hexceeded : reader.exceeded) (lengths : List Nat) :
    reader.reads lengths =
      (lengths.map fun length => if length = 0 then .ok [] else .error (.other reader.message), reader) := by
  induction lengths with
  | nil => rfl
  | cons length lengths ih =>
    have hread : reader.read length = (if length = 0 then .ok [] else .error (.other reader.message), reader) := by
      unfold read
      rw [if_pos hexceeded]
      split <;> rfl
    rw [reads, hread]
    dsimp only
    rw [ih, List.map_cons]

end HardByteBudget

def readLoop (maxCapacity : Nat) (reader : HardByteBudget) (buffer : SnapshotBuffer) :
    Except IoError (List UInt8) × List SnapshotBuffer :=
  match _h : reader.read (64 * 1024) with
  | (.error error, _) => (.error error, [buffer])
  | (.ok [], _) => (.ok buffer.bytes, [buffer])
  | (.ok (byte :: bytes), after) =>
    let (result, buffers) := readLoop maxCapacity after (buffer.extend maxCapacity (byte :: bytes))
    (result, buffer :: buffers)
termination_by reader.remaining
decreasing_by
  have hcount := reader.read_remaining (64 * 1024)
  simp only [_h, exposed, List.length_cons] at hcount
  omega

def readBoundedBytes (inner : InnerReader) (limit : Nat) (message : String) :
    Except IoError (List UInt8) × List SnapshotBuffer :=
  readLoop limit (.new inner limit message) ⟨[], 0⟩

def SnapshotBuffer.Within (buffer : SnapshotBuffer) (maxCapacity : Nat) : Prop :=
  buffer.bytes.length ≤ buffer.capacity ∧ buffer.capacity ≤ maxCapacity

theorem SnapshotBuffer.extend_within {buffer : SnapshotBuffer} {maxCapacity : Nat} {chunk : List UInt8}
    (h : buffer.Within maxCapacity) (hroom : buffer.bytes.length + chunk.length ≤ maxCapacity) :
    (buffer.extend maxCapacity chunk).Within maxCapacity := by
  obtain ⟨hlength, hcapacity⟩ := h
  unfold extend Within
  simp only [List.length_append]
  split <;> omega

/-- **The loop**: it ends well exactly when the rest of the stream fits, and its buffers stay within the limit. -/
theorem readLoop_spec (maxCapacity : Nat) (reader : HardByteBudget) (buffer : SnapshotBuffer)
    (hopen : reader.exceeded = false) (hsize : buffer.bytes.length + reader.remaining ≤ maxCapacity)
    (hwithin : buffer.Within maxCapacity) :
    (∀ bytes, (readLoop maxCapacity reader buffer).1 = .ok bytes ↔
        ∃ rest, reader.Fits rest ∧ buffer.bytes ++ rest = bytes) ∧
      ∀ used ∈ (readLoop maxCapacity reader buffer).2, used.Within maxCapacity := by
  have hcount := reader.read_remaining (64 * 1024)
  have hafter := @HardByteBudget.read_open reader (64 * 1024)
  have hnarrow := HardByteBudget.read_narrows (show 0 < 64 * 1024 by omega) hopen
  rw [readLoop]
  split
  all_goals
    rename_i hread
    rw [hread] at hcount hafter hnarrow
  · exact ⟨fun bytes => ⟨nofun, fun ⟨rest, hfits, _⟩ => absurd hfits (hnarrow rest)⟩, by simpa using hwithin⟩
  · have hnil : ∀ stream, reader.Fits stream ↔ stream = [] := hnarrow
    simp only [hnil, exists_eq_left, List.append_nil, Except.ok.injEq]
    exact ⟨fun bytes => trivial, by simpa using hwithin⟩
  · rename_i byte bytes after
    have hcons : ∀ stream, reader.Fits stream ↔ ∃ rest, stream = byte :: bytes ++ rest ∧ after.Fits rest := hnarrow
    have hcount : after.remaining + (bytes.length + 1) = reader.remaining := hcount
    have hroom : buffer.bytes.length + (byte :: bytes).length + after.remaining ≤ maxCapacity := by
      rw [List.length_cons]
      omega
    obtain ⟨hresult, hbuffers⟩ := readLoop_spec maxCapacity after (buffer.extend maxCapacity (byte :: bytes))
      ((hafter rfl).trans hopen) (by rwa [SnapshotBuffer.extend, List.length_append])
      (SnapshotBuffer.extend_within hwithin (Nat.le_of_add_right_le hroom))
    refine ⟨fun whole => (hresult whole).trans ?_, by simpa using ⟨hwithin, hbuffers⟩⟩
    simp only [hcons, SnapshotBuffer.extend]
    constructor
    · rintro ⟨rest, hrest, rfl⟩
      exact ⟨_, ⟨rest, rfl, hrest⟩, by rw [List.append_assoc]⟩
    · rintro ⟨_, ⟨rest, rfl, hrest⟩, rfl⟩
      exact ⟨rest, hrest, by rw [List.append_assoc]⟩
termination_by reader.remaining
decreasing_by omega

/-- **Bounded reading is exact**, an interruption being an error like any other and a read into an empty buffer no read:
the stream is returned exactly when it ends within the limit, the buffer stays within the limit, a consumer of any reads
gets the first bytes delivered and no more of them than the limit, and after the limit is exceeded nothing but the error. -/
theorem readBoundedBytes_exact (deliveries : Nat → Except IoError (List UInt8)) (limit : Nat) (message : String) :
    (∀ bytes, (readBoundedBytes { deliveries } limit message).1 = .ok bytes ↔
        InnerReader.Streams { deliveries } bytes ∧ bytes.length ≤ limit) ∧
      (∀ buffer ∈ (readBoundedBytes { deliveries } limit message).2,
        buffer.bytes.length ≤ buffer.capacity ∧ buffer.capacity ≤ limit) ∧
      ∀ lengths results after, (HardByteBudget.new { deliveries } limit message).reads lengths = (results, after) →
        results.flatMap exposed <+: after.inner.delivered ∧
          (results.flatMap exposed).length ≤ limit ∧
          (after.exceeded → ∀ later, (after.reads later).1 =
            later.map fun length => if length = 0 then .ok [] else .error (.other message)) := by
  obtain ⟨hresult, hbuffers⟩ := readLoop_spec limit (.new { deliveries } limit message) ⟨[], 0⟩ rfl
    (Nat.le_of_eq (Nat.zero_add _)) ⟨Nat.le_refl 0, Nat.zero_le _⟩
  refine ⟨fun bytes => (hresult bytes).trans ?_, hbuffers, ?_⟩
  · simp only [List.nil_append, exists_eq_right]
    rfl
  · intro lengths results after hreads
    have hstart : HardByteBudget.Sound [] (.new { deliveries } limit message) := rfl
    obtain ⟨hsound, hcount, hmessage⟩ := HardByteBudget.reads_sound lengths hstart
    rw [hreads, List.nil_append] at hsound
    rw [hreads] at hcount hmessage
    refine ⟨?_, Nat.le.intro ((Nat.add_comm _ _).trans hcount), fun hexceeded later => ?_⟩
    · unfold HardByteBudget.Sound at hsound
      split at hsound
      · exact hsound
      · rw [← hsound]
        exact List.prefix_append _ _
    · rw [HardByteBudget.reads_exceeded hexceeded, hmessage]
      rfl

namespace ReadingSample

def interruptedOnce : InnerReader where
  deliveries
    | 0 => .error .interrupted
    | 1 => .ok [7]
    | _ => .ok []

/-- Within the limit, a stream of one byte is not returned if its reader is interrupted once before it; and after the limit
of zero is exceeded, a read into an empty buffer is still well. -/
theorem interrupted_read_fails :
    (readBoundedBytes interruptedOnce 1 "bound").1 = .error .interrupted ∧
      (interruptedOnce.read 1).2.Streams [7] ∧
      ((HardByteBudget.new interruptedOnce 0 "bound").reads [1, 1]).2.exceeded = true ∧
      ((HardByteBudget.new interruptedOnce 0 "bound").reads [1, 1]).2.read 0 =
        (.ok [], ((HardByteBudget.new interruptedOnce 0 "bound").reads [1, 1]).2) := by
  refine ⟨?_, ⟨_, @InnerReader.EndsFrom.chunk _ _ 7 [] _ rfl (.done rfl), rfl⟩, rfl, rfl⟩
  rw [readBoundedBytes, readLoop]
  rfl

end ReadingSample

end Mct
