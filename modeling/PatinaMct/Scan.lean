import PatinaMct.Chain
/-!
# Scan — classifying a ledger file

`scanExisting` reads a file frame by frame and folds the authority replay as it goes.  It ends in one of four ways: the
file is a ledger (`ready`), it is a ledger and an unterminated last frame (`residue`), a terminated frame breaks the
chain (`quarantine`), or an entry belongs to another ledger (`foreignLineage`).  `scanFrames_ready` and
`scanFrames_residue` say what the first two mean, in terms of the chain that the lines are.
-/
namespace Mct

open Checked
open Frames
open Recovery (TextSet)

variable [LedgerHost]

/-! ## The state of a scan -/

/-- What a scan knows after the frames it has committed to.  A hasher is the bytes it was fed. -/
structure LedgerScanState where
  nextSequence : Nat
  previousHash : Option String
  committedLen : Nat
  recoveryObservationIds : TextSet
  authorityReplay : Except String AuthorityReplayV1
  usedEpochs : TextSet
  prefixHasher : List UInt8
  lastObservationId : Option String
  lastFrameLen : Nat
  deriving DecidableEq

def emptyScanState : LedgerScanState := ⟨0, none, 0, ∅, .ok emptyAuthorityReplay, ∅, [], none, 0⟩

/-- The head before the next entry: `next_sequence.checked_sub(1).zip(previous_hash)`. -/
def previousLink (nextSequence : Nat) (previousHash : Option String) : Option (Nat × String) :=
  if nextSequence = 0 then none else previousHash.map fun hash => (nextSequence - 1, hash)

/-- Folding an entry into a cached replay.  A refused entry leaves its error for good, and then no fold reads the epochs:
that the source has noted the one of a refused passkey birth is left out. -/
def foldCached (replay : Except String AuthorityReplayV1) (usedEpochs : TextSet) (previous : Option (Nat × String))
    (entry : MctObservationLedgerEntry) : Except String AuthorityReplayV1 × TextSet :=
  match replay with
  | .error e => (.error e, usedEpochs)
  | .ok replay =>
    match foldAuthorityEntry replay usedEpochs previous entry with
    | .ok (replay, usedEpochs) => (.ok replay, usedEpochs)
    | .error e => (.error e.text, usedEpochs)

def LedgerScanState.remember (state : LedgerScanState) (entry : MctObservationLedgerEntry) (frame : List UInt8) :
    LedgerScanState :=
  let folded := foldCached state.authorityReplay state.usedEpochs (previousLink state.nextSequence state.previousHash)
    entry
  let observationId := entry.observation.observationId.value
  { nextSequence := state.nextSequence + 1
    previousHash := some entry.entryHash
    committedLen := state.committedLen + frame.length
    recoveryObservationIds :=
      if startsWith observationId "ledger-tail-recovery-" then state.recoveryObservationIds.insert observationId
      else state.recoveryObservationIds
    authorityReplay := folded.1
    usedEpochs := folded.2
    prefixHasher := state.prefixHasher ++ frame
    lastObservationId := some observationId
    lastFrameLen := frame.length }

/-! ## The four endings -/

inductive LedgerFailureClass
  | terminatedMalformedFrame | entryHashMismatch | previousHashMismatch | sequenceDiscontinuity | foreignLineage
  deriving DecidableEq, Repr

structure LedgerQuarantineStatus where
  ledgerPath : String
  failureClass : LedgerFailureClass
  firstBadSequence : Option Nat
  firstBadOffset : Nat
  expected : Option String
  observed : Option String
  preservedLedgerPath : Option String
  diagnosticRecordPath : Option String
  deriving DecidableEq, Repr

/-- An unterminated last frame, with the state before it. -/
structure LedgerTailResidue where
  offset : Nat
  bytes : List UInt8
  digest : String
  state : LedgerScanState
  deriving DecidableEq

inductive LedgerScan
  | ready (state : LedgerScanState)
  | residue (residue : LedgerTailResidue)
  | quarantine (status : LedgerQuarantineStatus)
  | foreignLineage (status : LedgerQuarantineStatus)
  deriving DecidableEq

/-- `ObservationLedgerError::LedgerDiscontinuity`: the file does not extend the head this process has seen. -/
structure LedgerDiscontinuity where
  knownSequence : Nat
  deriving DecidableEq, Repr

inductive AppendFailureStage
  | write | durability | acknowledgement
  deriving DecidableEq, Repr

structure BatchPartialCommitOutcome where
  acknowledgedCommittedPrefix : List MctObservationLedgerEntry
  failedIndex : Nat
  commitUnknown : Bool
  failure : String
  deriving DecidableEq

inductive ObservationLedgerError
  | reservedAuthorityDetail
  | io (path source : String)
  | json (path source : String)
  | brokenHashChain (sequence : Nat)
  | ledgerIdentityMismatch (sequence : Nat) (expected actual : LedgerIdentity)
  | ledgerDiscontinuity (error : LedgerDiscontinuity)
  | sequenceMismatch (expected actual : Nat)
  | unterminatedTail (path : String) (offset length : Nat) (digest : String)
  | quarantined (status : LedgerQuarantineStatus)
  | foreignLineage (status : LedgerQuarantineStatus)
  | appendCommitUnknown (path : String) (stage : AppendFailureStage) (source : String)
  | writerPoisoned (path : String)
  | authorityReplay (detail : String)
  | batchPartiallyCommitted (outcome : BatchPartialCommitOutcome)
  | ledgerChanged (path : String) (expectedSequence actualSequence : Nat)
  | segmentRejected (detail : String)
  deriving DecidableEq

def quarantineStatus (path : String) (failureClass : LedgerFailureClass) (firstBadSequence : Option Nat)
    (firstBadOffset : Nat) (expected observed : Option String) : LedgerQuarantineStatus :=
  ⟨path, failureClass, firstBadSequence, firstBadOffset, expected, observed, none, none⟩

def scanEntry (path : String) (id : LedgerIdentity) (state : LedgerScanState) (frame : List UInt8) :
    Except LedgerScan MctObservationLedgerEntry := do
  let offset := state.committedLen
  let entry ← mapErr (fun source => LedgerScan.quarantine (quarantineStatus path .terminatedMalformedFrame
    (some state.nextSequence) offset (some "one complete JSON ledger entry") (some source)))
    (LedgerHost.entry.decode frame.dropLast)
  deny (entry.localSequence ≠ state.nextSequence) (.quarantine (quarantineStatus path .sequenceDiscontinuity
    (some state.nextSequence) offset (some (toString state.nextSequence)) (some (toString entry.localSequence))))
  deny (entry.ledgerId ≠ id.ledgerId || entry.motherNodeId ≠ id.motherNodeId) (.foreignLineage (quarantineStatus path
    .foreignLineage (some entry.localSequence) offset (some (id.ledgerId ++ "/" ++ id.motherNodeId))
    (some (entry.ledgerId ++ "/" ++ entry.motherNodeId))))
  deny (entry.previousEntryHash ≠ state.previousHash) (.quarantine (quarantineStatus path .previousHashMismatch
    (some entry.localSequence) offset state.previousHash entry.previousEntryHash))
  deny (entry.entryHash ≠ entryHash entry) (.quarantine (quarantineStatus path .entryHashMismatch
    (some entry.localSequence) offset (some (entryHash entry)) (some entry.entryHash)))
  return entry

/-- The head that this process has verified before is not beyond the frames read so far. -/
def checkReached (known : Option (Nat × String)) (state : LedgerScanState) : Except LedgerDiscontinuity Unit :=
  match known with
  | none => .ok ()
  | some (sequence, _) => deny (decide (state.nextSequence ≤ sequence)) ⟨sequence⟩

/-- The head that this process has verified before is the entry at its sequence. -/
def checkKnown (known : Option (Nat × String)) (entry : MctObservationLedgerEntry) : Except LedgerDiscontinuity Unit :=
  match known with
  | none => .ok ()
  | some (sequence, hash) => deny (entry.localSequence == sequence && entry.entryHash ≠ hash) ⟨sequence⟩

def scanFrames (path : String) (id : LedgerIdentity) (known : Option (Nat × String)) :
    LedgerScanState → List (List UInt8) → Except LedgerDiscontinuity LedgerScan
  | state, [] => do
    checkReached known state
    return .ready state
  | state, frame :: rest =>
    if terminated newline frame then
      match scanEntry path id state frame with
      | .error ending => .ok ending
      | .ok entry => do
        checkKnown known entry
        scanFrames path id known (state.remember entry frame) rest
    else do
      checkReached known state
      return .residue ⟨state.committedLen, frame, blake3 frame, state⟩

/-- **`scan_existing`** on the bytes of a file; `known` is the process-local head, if there is one. -/
def scanExisting (path : String) (id : LedgerIdentity) (known : Option (Nat × String)) (bytes : List UInt8) :
    Except LedgerDiscontinuity LedgerScan :=
  scanFrames path id known emptyScanState (frames newline bytes)

/-! ## What the endings mean -/

variable {path : String} {id : LedgerIdentity} {state state' : LedgerScanState} {fs : List (List UInt8)}
  {frame : List UInt8} {entry : MctObservationLedgerEntry} {entries : List MctObservationLedgerEntry}

theorem scanEntry_ok :
    scanEntry path id state frame = .ok entry ↔ LedgerHost.entry.decode frame.dropLast = .ok entry ∧
      follows id state.nextSequence state.previousHash entry = true := by
  rw [follows_iff]
  simp only [scanEntry, bind_ok, exists_unit, deny_ok, mapErr_ok, pure_ok, Bool.or_eq_false_iff,
    decide_eq_false_iff_not, not_not, and_assoc]
  constructor
  · rintro ⟨e, hd, h₁, h₂, h₃, h₄, h₅, rfl⟩
    exact ⟨hd, h₁, h₂, h₃, h₄, h₅⟩
  · rintro ⟨hd, h₁, h₂, h₃, h₄, h₅⟩
    exact ⟨entry, hd, h₁, h₂, h₃, h₄, h₅, rfl⟩

theorem scanEntry_error {ending : LedgerScan} (h : scanEntry path id state frame = .error ending) :
    ∃ status, ending = .quarantine status ∨ ending = .foreignLineage status := by
  simp only [scanEntry, bind_error, deny_error, mapErr_error, pure, Except.pure, reduceCtorEq, and_false, or_false,
    exists_false] at h
  rcases h with ⟨_, -, rfl⟩ | ⟨_, -, ⟨-, rfl⟩ | ⟨_, -, ⟨-, rfl⟩ | ⟨_, -, ⟨-, rfl⟩ | ⟨_, -, -, rfl⟩⟩⟩⟩
  · exact ⟨_, .inl rfl⟩
  · exact ⟨_, .inl rfl⟩
  · exact ⟨_, .inr rfl⟩
  · exact ⟨_, .inl rfl⟩
  · exact ⟨_, .inl rfl⟩

def LedgerScanState.rememberAll (state : LedgerScanState) :
    List MctObservationLedgerEntry → List (List UInt8) → LedgerScanState
  | entry :: entries, frame :: rest => (state.remember entry frame).rememberAll entries rest
  | _, _ => state

theorem LedgerScanState.rememberAll_counters (state : LedgerScanState) (h : entries.length = fs.length) :
    (state.rememberAll entries fs).nextSequence = state.nextSequence + fs.length ∧
      (state.rememberAll entries fs).previousHash = hashAfter state.previousHash entries ∧
      (state.rememberAll entries fs).committedLen = state.committedLen + fs.flatten.length ∧
      (state.rememberAll entries fs).prefixHasher = state.prefixHasher ++ fs.flatten := by
  induction entries generalizing state fs with
  | nil =>
    cases fs with
    | nil => simp [rememberAll, hashAfter]
    | cons f fs => cases h
  | cons entry entries ih =>
    cases fs with
    | nil => cases h
    | cons f fs =>
      obtain ⟨h₁, h₂, h₃, h₄⟩ := ih (state.remember entry f) (Nat.succ.inj h)
      rw [rememberAll, h₁, h₂, h₃, h₄]
      refine ⟨?_, rfl, ?_, ?_⟩
      · rw [List.length_cons]
        show state.nextSequence + 1 + fs.length = _
        omega
      · rw [List.flatten_cons, List.length_append]
        show state.committedLen + f.length + fs.flatten.length = _
        omega
      · rw [List.flatten_cons, ← List.append_assoc]
        rfl

theorem scanFrames_link {rest : List (List UInt8)} (ht : terminated newline frame = true)
    (hd : LedgerHost.entry.decode frame.dropLast = .ok entry)
    (hf : follows id state.nextSequence state.previousHash entry = true) :
    scanFrames path id none state (frame :: rest) = scanFrames path id none (state.remember entry frame) rest := by
  rw [scanFrames, if_pos ht, scanEntry_ok.mpr ⟨hd, hf⟩]
  rfl

theorem scanFrames_append {rest : List (List UInt8)} (ht : ∀ f ∈ fs, terminated newline f = true)
    (hc : readChain id state.nextSequence state.previousHash (fs.map List.dropLast) = some entries) :
    scanFrames path id none state (fs ++ rest) = scanFrames path id none (state.rememberAll entries fs) rest := by
  induction fs generalizing state entries with
  | nil =>
    cases hc
    rfl
  | cons frame fs ih =>
    rw [List.forall_mem_cons] at ht
    obtain ⟨entry, entries, hd, hf, hr, rfl⟩ := readChain_cons.mp hc
    rw [List.cons_append, scanFrames_link ht.1 hd hf]
    exact ih ht.2 hr

/-- **Where a scan stops**: after chained frames, at the end of the file, at an unterminated frame, or at a frame that is
not the next link. -/
theorem scanFrames_cases (path : String) (id : LedgerIdentity) (state : LedgerScanState) (fs : List (List UInt8)) :
    ∃ front rest entries, fs = front ++ rest ∧ (∀ f ∈ front, terminated newline f = true) ∧
      readChain id state.nextSequence state.previousHash (front.map List.dropLast) = some entries ∧
      (rest = [] ∧ scanFrames path id none state fs = .ok (.ready (state.rememberAll entries front)) ∨
        ∃ frame back, rest = frame :: back ∧
          (terminated newline frame = false ∧
            scanFrames path id none state fs = .ok (.residue ⟨(state.rememberAll entries front).committedLen, frame,
              blake3 frame, state.rememberAll entries front⟩) ∨
          terminated newline frame = true ∧
            (∀ entry, LedgerHost.entry.decode frame.dropLast = .ok entry →
              follows id (state.rememberAll entries front).nextSequence (state.rememberAll entries front).previousHash
                entry = false) ∧
            ∃ status, scanFrames path id none state fs = .ok (.quarantine status) ∨
              scanFrames path id none state fs = .ok (.foreignLineage status))) := by
  induction fs generalizing state with
  | nil => exact ⟨[], [], [], rfl, by simp, rfl, .inl ⟨rfl, rfl⟩⟩
  | cons frame fs ih =>
    by_cases ht : terminated newline frame = true
    · cases hs : scanEntry path id state frame with
      | error ending =>
        obtain ⟨status, hstat⟩ := scanEntry_error hs
        refine ⟨[], frame :: fs, [], rfl, by simp, rfl, .inr ⟨frame, fs, rfl, .inr ⟨ht, ?_, status, ?_⟩⟩⟩
        · intro entry hd
          by_contra hc
          rw [Bool.not_eq_false] at hc
          have hok : scanEntry path id state frame = .ok entry := scanEntry_ok.mpr ⟨hd, hc⟩
          rw [hok] at hs
          cases hs
        · rw [scanFrames, if_pos ht, hs]
          rcases hstat with rfl | rfl
          · exact .inl rfl
          · exact .inr rfl
      | ok entry =>
        obtain ⟨hd, hf⟩ := scanEntry_ok.mp hs
        obtain ⟨front, rest, entries, rfl, hfront, hc, h⟩ := ih (state.remember entry frame)
        refine ⟨frame :: front, rest, entry :: entries, rfl, by simpa [ht] using hfront,
          readChain_cons.mpr ⟨entry, entries, hd, hf, hc, rfl⟩, ?_⟩
        rw [scanFrames_link ht hd hf]
        exact h
    · rw [Bool.not_eq_true] at ht
      refine ⟨[], frame :: fs, [], rfl, by simp, rfl, .inr ⟨frame, fs, rfl, .inl ⟨ht, ?_⟩⟩⟩
      rw [scanFrames, if_neg (by rw [ht]; decide)]
      rfl

/-- **A file is ready exactly when it is a chain of terminated frames**, and then its entries were folded in order. -/
theorem scanFrames_ready :
    scanFrames path id none state fs = .ok (.ready state') ↔
      (∀ f ∈ fs, terminated newline f = true) ∧
        ∃ entries, readChain id state.nextSequence state.previousHash (fs.map List.dropLast) = some entries ∧
          state' = state.rememberAll entries fs := by
  constructor
  · intro h
    obtain ⟨front, rest, entries, rfl, ht, hc, ⟨rfl, hs⟩ | ⟨_, _, -, ⟨-, hs⟩ | ⟨-, -, _, hs | hs⟩⟩⟩ :=
      scanFrames_cases path id state fs
    · rw [hs] at h
      cases h
      rw [List.append_nil] at hs ⊢
      exact ⟨ht, entries, hc, rfl⟩
    all_goals rw [hs] at h; cases h
  · rintro ⟨ht, entries, hc, rfl⟩
    have := @scanFrames_append _ path _ _ _ _ [] ht hc
    rwa [List.append_nil] at this

/-- **A file has residue exactly when it is a chain of terminated frames and one unterminated frame.** -/
theorem scanFrames_residue {residue : LedgerTailResidue}
    (h : scanFrames path id none state fs = .ok (.residue residue)) :
    ∃ front back entries, fs = front ++ residue.bytes :: back ∧ (∀ f ∈ front, terminated newline f = true) ∧
      terminated newline residue.bytes = false ∧
      readChain id state.nextSequence state.previousHash (front.map List.dropLast) = some entries ∧
      residue.state = state.rememberAll entries front ∧ residue.offset = residue.state.committedLen ∧
      residue.digest = blake3 residue.bytes := by
  obtain ⟨front, rest, entries, rfl, ht, hc, ⟨rfl, hs⟩ | ⟨frame, back, rfl, ⟨htorn, hs⟩ | ⟨-, -, _, hs | hs⟩⟩⟩ :=
    scanFrames_cases path id state fs
  · rw [hs] at h
    cases h
  · rw [hs] at h
    cases h
    exact ⟨front, back, entries, rfl, ht, htorn, hc, rfl, rfl, rfl⟩
  all_goals rw [hs] at h; cases h

/-! ## A known head -/

variable {known : Option (Nat × String)}

/-- **A known head only refuses**: a scan that passes it ends as the scan without it. -/
theorem scanFrames_known {ending : LedgerScan} (h : scanFrames path id known state fs = .ok ending) :
    scanFrames path id none state fs = .ok ending := by
  induction fs generalizing state with
  | nil =>
    simp only [scanFrames, bind_ok, exists_unit, pure_ok] at h
    exact congrArg _ h.2
  | cons frame fs ih =>
    unfold scanFrames at h ⊢
    by_cases ht : terminated newline frame = true
    · rw [if_pos ht] at h ⊢
      cases hs : scanEntry path id state frame with
      | error ending =>
        rw [hs] at h
        exact h
      | ok entry =>
        simp only [hs, bind_ok, exists_unit] at h
        exact ih h.2
    · rw [if_neg ht] at h ⊢
      simp only [bind_ok, exists_unit, pure_ok] at h
      exact congrArg _ h.2

omit [LedgerHost] in
theorem checkReached_ok :
    checkReached known state = .ok () ↔ ∀ seq hash, known = some (seq, hash) → seq < state.nextSequence := by
  unfold checkReached
  cases known with
  | none => simp
  | some head =>
    obtain ⟨seq, hash⟩ := head
    simp [deny_ok]

/-- **One link more on a ready file.**  A head that was reached before the link is not the link itself. -/
theorem scanFrames_snoc (h : scanFrames path id known state fs = .ok (.ready state'))
    (ht : terminated newline frame = true) (hd : LedgerHost.entry.decode frame.dropLast = .ok entry)
    (hf : follows id state'.nextSequence state'.previousHash entry = true) :
    scanFrames path id known state (fs ++ [frame]) = .ok (.ready (state'.remember entry frame)) := by
  induction fs generalizing state with
  | nil =>
    simp only [scanFrames, bind_ok, exists_unit, pure_ok, LedgerScan.ready.injEq] at h
    obtain ⟨hreached, rfl⟩ := h
    have hbelow := checkReached_ok.mp hreached
    have hknown : checkKnown known entry = .ok () := by
      unfold checkKnown
      cases hk : known with
      | none => rfl
      | some head =>
        obtain ⟨seq, hash⟩ := head
        have hlt := hbelow seq hash hk
        have hne : (entry.localSequence == seq) = false := by
          rw [(follows_iff.mp hf).1, beq_eq_false_iff_ne]
          omega
        simp [hne, deny_ok]
    have hreached' : checkReached known (state.remember entry frame) = .ok () :=
      checkReached_ok.mpr fun seq hash hk => Nat.lt_succ_of_lt (hbelow seq hash hk)
    rw [List.nil_append, scanFrames, if_pos ht, scanEntry_ok.mpr ⟨hd, hf⟩]
    simp only [hknown, scanFrames, hreached']
    rfl
  | cons first fs ih =>
    rw [List.cons_append]
    unfold scanFrames at h ⊢
    by_cases hfirst : terminated newline first = true
    · rw [if_pos hfirst] at h ⊢
      cases hs : scanEntry path id state first with
      | error ending =>
        rw [hs] at h
        cases h
        obtain ⟨status, hstat | hstat⟩ := scanEntry_error hs <;> cases hstat
      | ok link =>
        simp only [hs, bind_ok, exists_unit] at h ⊢
        exact ⟨h.1, ih h.2⟩
    · rw [if_neg hfirst] at h
      simp only [bind_ok, exists_unit, pure_ok, reduceCtorEq, and_false] at h

/-- **Appending the next entry to a ready file** leaves it ready, with the entry remembered. -/
theorem scanExisting_snoc (serde : SerdeRoundTrip) {bs : List UInt8}
    (h : scanExisting path id known bs = .ok (.ready state'))
    (hf : follows id state'.nextSequence state'.previousHash entry = true) :
    scanExisting path id known (bs ++ frameOf entry) = .ok (.ready (state'.remember entry (frameOf entry))) := by
  have hended := (scanFrames_ready.mp (scanFrames_known h)).1
  have hcomp := frameOf_complete serde entry
  unfold scanExisting at h ⊢
  have hframe : frames newline (frameOf entry) = [frameOf entry] := by
    have := frames_complete hcomp []
    rwa [List.append_nil, frames_nil] at this
  rw [frames_append hended, hframe]
  refine scanFrames_snoc h hcomp.terminated ?_ hf
  rw [frameOf, List.dropLast_concat]
  exact serde.entry entry

theorem scanExisting_empty {bs : List UInt8} (h : scanExisting path id known bs = .ok (.ready state'))
    (hzero : state'.nextSequence = 0) : state' = emptyScanState := by
  obtain ⟨-, entries, hchain, rfl⟩ := scanFrames_ready.mp (scanFrames_known h)
  have hlen : entries.length = (frames newline bs).length := by
    rw [readChain_length hchain, List.length_map]
  rw [(emptyScanState.rememberAll_counters hlen).1] at hzero
  have hnone : frames newline bs = [] := List.length_eq_zero_iff.mp (by omega)
  rw [hnone] at hlen ⊢
  cases entries with
  | nil => rfl
  | cons entry entries => cases hlen

end Mct
