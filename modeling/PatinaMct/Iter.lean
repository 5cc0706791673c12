import PatinaMct.SampleLedger
import PatinaMct.Scan
/-!
# Iter — the line reader, compared with the scan

`LedgerEntryIter` reads a ledger with `BufRead::lines`.  It differs from the scan in what it forgives: a blank line is
skipped, a carriage return before the newline is dropped, and a last line without a newline is read like any other;
and in what it insists on, valid UTF-8 in every line.  `readersAgree_iff` says for which files the two readers agree
all the same: exactly when no line needs any of this, or when neither of them accepts the file.
-/
namespace Mct

open Checked
open Frames

variable [LedgerHost]

/-! ## Lines -/

def utf8Text (bytes : List UInt8) : Option String := String.fromUTF8? ⟨bytes.toArray⟩

/-- A line without its newline and without a carriage return before that. -/
def stripLineEnd (raw : List UInt8) : List UInt8 :=
  if terminated newline raw then
    if terminated 13 raw.dropLast then raw.dropLast.dropLast else raw.dropLast
  else raw

def readLine (raw : List UInt8) : Except String (List UInt8) :=
  if (utf8Text raw).isSome then .ok (stripLineEnd raw) else .error "stream did not contain valid UTF-8"

def blankLine (line : List UInt8) : Bool := (utf8Text line).any trimmedEmpty

/-! ## The iterator -/

structure LedgerEntryIter where
  path : String
  id : LedgerIdentity
  lines : Option (List (List UInt8))
  expectedSequence : Nat
  previousHash : Option String

def LedgerEntryIter.open (path : String) (id : LedgerIdentity) (bytes : List UInt8) : LedgerEntryIter :=
  ⟨path, id, some (frames newline bytes), 0, none⟩

variable (iter : LedgerEntryIter)

def LedgerEntryIter.validateEntry (entry : MctObservationLedgerEntry) :
    Except ObservationLedgerError Unit := do
  deny (entry.localSequence ≠ iter.expectedSequence) (.sequenceMismatch iter.expectedSequence entry.localSequence)
  deny (entry.ledgerId ≠ iter.id.ledgerId || entry.motherNodeId ≠ iter.id.motherNodeId)
    (.ledgerIdentityMismatch entry.localSequence iter.id ⟨entry.ledgerId, entry.motherNodeId⟩)
  deny (entry.previousEntryHash ≠ iter.previousHash) (.brokenHashChain entry.localSequence)
  deny (entry.entryHash ≠ entryHash entry) (.brokenHashChain entry.localSequence)

def LedgerEntryIter.readEntry (raw : List UInt8) :
    Except ObservationLedgerError (Option MctObservationLedgerEntry) := do
  let line ← mapErr (ObservationLedgerError.io iter.path) (readLine raw)
  if blankLine line then return none
  else do
    let entry ← mapErr (ObservationLedgerError.json iter.path) (LedgerHost.entry.decode line)
    iter.validateEntry entry
    return some entry

def LedgerEntryIter.advance (entry : MctObservationLedgerEntry) (rest : List (List UInt8)) :
    LedgerEntryIter :=
  { iter with lines := some rest, expectedSequence := iter.expectedSequence + 1, previousHash := some entry.entryHash }

def LedgerEntryIter.nextFrom (iter : LedgerEntryIter) :
    List (List UInt8) → Option (Except ObservationLedgerError MctObservationLedgerEntry) × LedgerEntryIter
  | [] => (none, { iter with lines := some [] })
  | raw :: rest =>
    match iter.readEntry raw with
    | .error e => (some (.error e), { iter with lines := none })
    | .ok none => iter.nextFrom rest
    | .ok (some entry) => (some (.ok entry), iter.advance entry rest)

def LedgerEntryIter.next :
    Option (Except ObservationLedgerError MctObservationLedgerEntry) × LedgerEntryIter :=
  match iter.lines with
  | none => (none, iter)
  | some lines => iter.nextFrom lines

/-- What is left for the iterator to read: nothing once it has met an error. -/
def LedgerEntryIter.remaining : Nat := iter.lines.elim 0 fun lines => lines.length + 1

theorem LedgerEntryIter.nextFrom_remaining {iter rest : LedgerEntryIter} {lines : List (List UInt8)}
    {item : Except ObservationLedgerError MctObservationLedgerEntry} (h : iter.nextFrom lines = (some item, rest)) :
    rest.remaining < lines.length + 1 := by
  induction lines with
  | nil => cases h
  | cons raw lines ih =>
    rw [nextFrom] at h
    cases hr : iter.readEntry raw with
    | error e =>
      simp only [hr, Prod.mk.injEq] at h
      rw [← h.2]
      exact Nat.succ_pos _
    | ok read =>
      cases read with
      | none =>
        simp only [hr] at h
        exact Nat.lt_succ_of_lt (ih h)
      | some entry =>
        simp only [hr, Prod.mk.injEq] at h
        rw [← h.2]
        exact Nat.lt_succ_self _

theorem LedgerEntryIter.next_remaining {iter rest : LedgerEntryIter}
    {item : Except ObservationLedgerError MctObservationLedgerEntry} (h : iter.next = (some item, rest)) :
    rest.remaining < iter.remaining := by
  unfold next at h
  unfold remaining
  cases hl : iter.lines with
  | none =>
    simp only [hl] at h
    cases h
  | some lines =>
    simp only [hl] at h
    exact nextFrom_remaining h

/-- **Everything the iterator yields**: `next` until it has nothing more. -/
def LedgerEntryIter.items (iter : LedgerEntryIter) :
    List (Except ObservationLedgerError MctObservationLedgerEntry) :=
  match _h : iter.next with
  | (none, _) => []
  | (some item, rest) => item :: rest.items
termination_by iter.remaining
decreasing_by exact next_remaining ‹_›

def LedgerEntryIter.itemsFrom (iter : LedgerEntryIter) :
    List (List UInt8) → List (Except ObservationLedgerError MctObservationLedgerEntry)
  | [] => []
  | raw :: rest =>
    match iter.readEntry raw with
    | .error e => [.error e]
    | .ok none => iter.itemsFrom rest
    | .ok (some entry) => .ok entry :: (iter.advance entry rest).itemsFrom rest

theorem LedgerEntryIter.items_stop {iter rest : LedgerEntryIter} (h : iter.next = (none, rest)) : iter.items = [] := by
  rw [items]
  split <;> simp_all

theorem LedgerEntryIter.items_step {iter rest : LedgerEntryIter}
    {item : Except ObservationLedgerError MctObservationLedgerEntry} (h : iter.next = (some item, rest)) :
    iter.items = item :: rest.items := by
  rw [items]
  split <;> simp_all

theorem LedgerEntryIter.items_eq {iter : LedgerEntryIter} {lines : List (List UInt8)}
    (h : iter.next = iter.nextFrom lines) : iter.items = iter.itemsFrom lines := by
  induction lines generalizing iter with
  | nil => exact items_stop h
  | cons raw rest ih =>
    rw [itemsFrom]
    rw [nextFrom] at h
    cases hr : iter.readEntry raw with
    | error e =>
      simp only [hr] at h
      rw [items_step h, items_stop rfl]
    | ok read =>
      cases read with
      | none =>
        simp only [hr] at h
        exact ih h
      | some entry =>
        simp only [hr] at h
        rw [items_step h, @ih (iter.advance entry rest) rfl]

def yielded (items : List (Except ObservationLedgerError MctObservationLedgerEntry)) : List MctObservationLedgerEntry :=
  items.filterMap Except.toOption

variable {path : String} {id : LedgerIdentity} {bytes line raw : List UInt8} {lines : List (List UInt8)}
  {entry : MctObservationLedgerEntry} {entries : List MctObservationLedgerEntry} {iter : LedgerEntryIter}

theorem LedgerEntryIter.validateEntry_ok :
    iter.validateEntry entry = .ok () ↔ follows iter.id iter.expectedSequence iter.previousHash entry = true := by
  rw [follows_iff]
  simp only [validateEntry, bind_ok, exists_unit, deny_ok, Bool.or_eq_false_iff, decide_eq_false_iff_not, not_not]

theorem LedgerEntryIter.readEntry_ok {item : Option MctObservationLedgerEntry} :
    iter.readEntry raw = .ok item ↔ (utf8Text raw).isSome = true ∧
      (blankLine (stripLineEnd raw) = true ∧ item = none ∨
        blankLine (stripLineEnd raw) = false ∧ ∃ entry, LedgerHost.entry.decode (stripLineEnd raw) = .ok entry ∧
          follows iter.id iter.expectedSequence iter.previousHash entry = true ∧ item = some entry) := by
  unfold readEntry readLine
  by_cases hu : (utf8Text raw).isSome = true
  · rw [if_pos hu]
    simp only [mapErr, ok_bind, hu, true_and]
    cases hb : blankLine (stripLineEnd raw) with
    | true => simp only [if_true, pure_ok, true_and, Bool.true_eq_false, false_and, or_false, @eq_comm _ none]
    | false =>
      simp only [Bool.false_eq_true, if_false, false_and, false_or, true_and, bind_ok, exists_unit, pure_ok,
        validateEntry_ok]
      constructor
      · rintro ⟨entry, hd, hf, rfl⟩
        exact ⟨entry, mapErr_ok.mp hd, hf, rfl⟩
      · rintro ⟨entry, hd, hf, rfl⟩
        exact ⟨entry, mapErr_ok.mpr hd, hf, rfl⟩
  · rw [if_neg hu]
    simp [mapErr, bind, Except.bind, hu]

def forgivenLines (lines : List (List UInt8)) : List (List UInt8) :=
  (lines.map stripLineEnd).filter fun line => !blankLine line

omit [LedgerHost] in
theorem forgivenLines_blank (h : blankLine (stripLineEnd raw) = true) :
    forgivenLines (raw :: lines) = forgivenLines lines := by
  simp [forgivenLines, h]

omit [LedgerHost] in
theorem forgivenLines_cons (h : blankLine (stripLineEnd raw) = false) :
    forgivenLines (raw :: lines) = stripLineEnd raw :: forgivenLines lines := by
  simp [forgivenLines, h]

/-- **The iterator runs to its end without error exactly when its lines, forgiven, are a chain.** -/
theorem LedgerEntryIter.itemsFrom_ok :
    iter.itemsFrom lines = entries.map .ok ↔ (∀ raw ∈ lines, (utf8Text raw).isSome = true) ∧
      readChain iter.id iter.expectedSequence iter.previousHash (forgivenLines lines) = some entries := by
  induction lines generalizing iter entries with
  | nil =>
    simp only [itemsFrom, List.not_mem_nil, IsEmpty.forall_iff, implies_true, true_and, forgivenLines, List.map_nil,
      List.filter_nil, readChain, Option.some.injEq]
    constructor
    · intro h
      exact (List.map_eq_nil_iff.mp h.symm).symm
    · rintro rfl
      rfl
  | cons raw rest ih =>
    rw [itemsFrom, List.forall_mem_cons]
    cases hr : iter.readEntry raw with
    | error e =>
      -- neither side holds: the one item is an error, and the line is no next link
      constructor
      · intro h
        cases entries with
        | nil => cases h
        | cons entry entries => simp at h
      · rintro ⟨⟨hu, -⟩, hc⟩
        exfalso
        cases hb : blankLine (stripLineEnd raw) with
        | true =>
          rw [readEntry_ok.mpr ⟨hu, .inl ⟨hb, rfl⟩⟩] at hr
          cases hr
        | false =>
          rw [forgivenLines_cons hb] at hc
          obtain ⟨entry, _, hd, hf, -, -⟩ := readChain_cons.mp hc
          rw [readEntry_ok.mpr ⟨hu, .inr ⟨hb, entry, hd, hf, rfl⟩⟩] at hr
          cases hr
    | ok item =>
      obtain ⟨hu, ⟨hb, rfl⟩ | ⟨hb, entry, hd, hf, rfl⟩⟩ := readEntry_ok.mp hr
      · simp only [hu, true_and]
        rw [forgivenLines_blank hb]
        exact ih
      · simp only [hu, true_and]
        rw [forgivenLines_cons hb, readChain_cons]
        constructor
        · intro h
          cases entries with
          | nil => cases h
          | cons entry' entries =>
            rw [List.map_cons, List.cons.injEq, Except.ok.injEq] at h
            obtain ⟨rfl, h⟩ := h
            obtain ⟨hrest, hc⟩ := ih.mp h
            exact ⟨hrest, entry, entries, hd, hf, hc, rfl⟩
        · rintro ⟨hrest, entry', entries, hd', hf', hc, rfl⟩
          obtain rfl : entry = entry' := by rw [hd] at hd'; cases hd'; rfl
          rw [List.map_cons, ih.mpr ⟨hrest, hc⟩]

theorem LedgerEntryIter.yielded_lt (h : ∀ entries : List MctObservationLedgerEntry, iter.itemsFrom lines ≠ entries.map .ok) :
    (yielded (iter.itemsFrom lines)).length < lines.length := by
  induction lines generalizing iter with
  | nil => exact absurd rfl (h [])
  | cons raw rest ih =>
    rw [itemsFrom] at h ⊢
    cases hr : iter.readEntry raw with
    | error e => exact Nat.succ_pos _
    | ok item =>
      simp only [hr] at h
      cases item with
      | none =>
        have := ih h
        simp only [List.length_cons]
        omega
      | some entry =>
        have := @ih (iter.advance entry rest) fun entries he => h (entry :: entries) (by simp [he])
        simpa [yielded, Except.toOption] using this

/-! ## When the readers agree -/

/-- **What JSON says of white space**: a carriage return after a value changes nothing, and a blank line is no value. -/
structure JsonWhitespace : Prop where
  carriageReturn : ∀ line, (LedgerHost.entry.decode (line ++ [13])).toOption = (LedgerHost.entry.decode line).toOption
  blank : ∀ line, blankLine line = true → (LedgerHost.entry.decode line).toOption = none

def iterItems (path : String) (id : LedgerIdentity) (bytes : List UInt8) :
    List (Except ObservationLedgerError MctObservationLedgerEntry) :=
  (LedgerEntryIter.open path id bytes).items

/-- **Two readers, one ledger**: the iterator ends without error exactly on the files that the scan accepts, yields what
the scan folded, and never goes beyond what the scan has committed to. -/
structure ReadersAgree (path : String) (id : LedgerIdentity) (bytes : List UInt8) : Prop where
  accept : (∃ entries : List MctObservationLedgerEntry, iterItems path id bytes = entries.map .ok) ↔
    ∃ state, scanExisting path id none bytes = .ok (.ready state)
  same : ∀ (entries : List MctObservationLedgerEntry) state, iterItems path id bytes = entries.map .ok →
    scanExisting path id none bytes = .ok (.ready state) →
    entries.length = (frames newline bytes).length ∧
      state = emptyScanState.rememberAll entries (frames newline bytes)
  committed : ∀ residue, scanExisting path id none bytes = .ok (.residue residue) →
    (yielded (iterItems path id bytes)).length ≤ residue.state.nextSequence

/-- No line needs to be forgiven anything, and all are UTF-8. -/
def PlainLines (bytes : List UInt8) : Prop :=
  ∀ raw ∈ frames newline bytes,
    terminated newline raw = true ∧ (utf8Text raw).isSome = true ∧ blankLine (stripLineEnd raw) = false

def StrictLedger (id : LedgerIdentity) (bytes : List UInt8) : Prop :=
  (∀ raw ∈ frames newline bytes, terminated newline raw = true) ∧
    (readChain id 0 none ((frames newline bytes).map List.dropLast)).isSome = true

/-- The file is UTF-8, and a ledger without its blank lines and with a newline at its end. -/
def ForgivenLedger (id : LedgerIdentity) (bytes : List UInt8) : Prop :=
  (∀ raw ∈ frames newline bytes, (utf8Text raw).isSome = true) ∧
    (readChain id 0 none (forgivenLines (frames newline bytes))).isSome = true

theorem iterItems_eq : iterItems path id bytes =
    (LedgerEntryIter.open path id bytes).itemsFrom (frames newline bytes) :=
  LedgerEntryIter.items_eq rfl

theorem iterItems_ok :
    iterItems path id bytes = entries.map .ok ↔ (∀ raw ∈ frames newline bytes, (utf8Text raw).isSome = true) ∧
      readChain id 0 none (forgivenLines (frames newline bytes)) = some entries := by
  rw [iterItems_eq]
  exact LedgerEntryIter.itemsFrom_ok

theorem iterItems_ok_iff :
    (∃ entries : List MctObservationLedgerEntry, iterItems path id bytes = entries.map .ok) ↔ ForgivenLedger id bytes := by
  simp only [iterItems_ok, ForgivenLedger, Option.isSome_iff_exists, exists_and_left]

theorem scanExisting_ready_iff :
    (∃ s, scanExisting path id none bytes = .ok (.ready s)) ↔ StrictLedger id bytes := by
  unfold scanExisting StrictLedger
  simp only [scanFrames_ready, Option.isSome_iff_exists, exists_and_left]
  constructor
  · rintro ⟨ht, _, entries, hc, -⟩
    exact ⟨ht, entries, hc⟩
  · rintro ⟨ht, entries, hc⟩
    exact ⟨ht, _, entries, hc, rfl⟩

theorem decode_stripLineEnd (ws : JsonWhitespace) (ht : terminated newline raw = true) :
    (LedgerHost.entry.decode (stripLineEnd raw)).toOption = (LedgerHost.entry.decode raw.dropLast).toOption := by
  unfold stripLineEnd
  rw [if_pos ht]
  by_cases hcr : terminated 13 raw.dropLast = true
  · rw [if_pos hcr]
    have hlast : raw.dropLast = raw.dropLast.dropLast ++ [13] := by
      unfold terminated at hcr
      rw [beq_iff_eq] at hcr
      exact (List.dropLast_append_getLast? 13 hcr).symm
    conv_rhs => rw [hlast]
    exact (ws.carriageReturn _).symm
  · rw [if_neg hcr]

theorem plainLines_of_accepted (ws : JsonWhitespace) (hs : StrictLedger id bytes) (hf : ForgivenLedger id bytes) :
    PlainLines bytes := by
  intro raw hraw
  obtain ⟨entries, hc⟩ := Option.isSome_iff_exists.mp hs.2
  obtain ⟨entry, hd⟩ := readChain_decode hc _ (List.mem_map_of_mem hraw)
  refine ⟨hs.1 raw hraw, hf.1 raw hraw, ?_⟩
  by_contra hb
  rw [Bool.not_eq_false] at hb
  have hnone := ws.blank _ hb
  rw [decode_stripLineEnd ws (hs.1 raw hraw), hd] at hnone
  cases hnone

theorem readChain_plain (ws : JsonWhitespace) (hp : PlainLines bytes) :
    readChain id 0 none (forgivenLines (frames newline bytes)) =
      readChain id 0 none ((frames newline bytes).map List.dropLast) := by
  have hall : forgivenLines (frames newline bytes) = (frames newline bytes).map stripLineEnd := by
    unfold forgivenLines
    rw [List.filter_eq_self]
    intro line hline
    obtain ⟨raw, hraw, rfl⟩ := List.mem_map.mp hline
    rw [(hp raw hraw).2.2]
    rfl
  rw [hall]
  exact readChain_congr fun raw hraw => decode_stripLineEnd ws (hp raw hraw).1

/-- **For which files the readers agree**: those whose lines are all terminated, UTF-8 and not blank.  For a file that
either of them accepts, `PlainLines` is the whole condition; the second disjunct adds the files that both refuse. -/
theorem readersAgree_iff (ws : JsonWhitespace) :
    ReadersAgree path id bytes ↔ PlainLines bytes ∨ ¬ StrictLedger id bytes ∧ ¬ ForgivenLedger id bytes := by
  constructor
  · intro h
    have hacc := h.accept
    rw [iterItems_ok_iff, scanExisting_ready_iff] at hacc
    by_cases hs : StrictLedger id bytes
    · exact .inl (plainLines_of_accepted ws hs (hacc.mpr hs))
    · exact .inr ⟨hs, fun hf => hs (hacc.mp hf)⟩
  · rintro (hp | ⟨hs, hf⟩)
    · have hchain : readChain id 0 none (forgivenLines (frames newline bytes)) =
          readChain id 0 none ((frames newline bytes).map List.dropLast) := readChain_plain ws hp
      refine ⟨?_, ?_, ?_⟩
      · rw [iterItems_ok_iff, scanExisting_ready_iff]
        unfold ForgivenLedger StrictLedger
        rw [hchain]
        exact ⟨fun h => ⟨fun raw hraw => (hp raw hraw).1, h.2⟩, fun h => ⟨fun raw hraw => (hp raw hraw).2.1, h.2⟩⟩
      · intro entries state hi hs
        obtain ⟨-, hc⟩ := iterItems_ok.mp hi
        obtain ⟨-, entries', hc', rfl⟩ := scanFrames_ready.mp hs
        rw [hchain] at hc
        obtain rfl : entries = entries' := Option.some.inj (hc.symm.trans hc')
        have hlen := readChain_length hc
        rw [List.length_map] at hlen
        exact ⟨hlen, rfl⟩
      · intro residue hr
        obtain ⟨front, back, _, hfs, -, htorn, -⟩ := scanFrames_residue hr
        have hmem : residue.bytes ∈ frames newline bytes := by rw [hfs]; simp
        rw [(hp _ hmem).1] at htorn
        cases htorn
    · have hs : ¬ ∃ state, scanExisting path id none bytes = .ok (.ready state) := by
        rwa [scanExisting_ready_iff]
      have hf : ¬ ∃ entries : List MctObservationLedgerEntry, iterItems path id bytes = entries.map .ok := by
        rwa [iterItems_ok_iff]
      refine ⟨⟨fun h => absurd h hf, fun h => absurd h hs⟩, fun entries state hi _ => absurd ⟨entries, hi⟩ hf, ?_⟩
      intro residue hr
      -- the iterator met an error, so it has not reached beyond the committed frames
      have hlt : (yielded (iterItems path id bytes)).length < (frames newline bytes).length := by
        rw [iterItems_eq] at hf ⊢
        exact LedgerEntryIter.yielded_lt fun entries hi => hf ⟨entries, hi⟩
      obtain ⟨front, back, entries, hfs, -, htorn, hc, hstate, -⟩ := scanFrames_residue hr
      obtain rfl := frames_torn_last hfs htorn
      have hlen := readChain_length hc
      rw [List.length_map] at hlen
      rw [hstate, (emptyScanState.rememberAll_counters hlen).1]
      rw [hfs, List.length_append, List.length_singleton] at hlt
      show _ ≤ 0 + front.length
      omega

end Mct

/-! ## A torn entry that the iterator yields -/

namespace Mct.Sample

open Frames

theorem utf8Text_bytes {b : List UInt8} {t : String} (h : utf8Text b = some t) : bytes t.toList = b := by
  unfold utf8Text String.fromUTF8? at h
  split at h
  · rename_i hv
    cases h
    have henc := String.utf8Encode_toList (b := String.fromUTF8 ⟨b.toArray⟩ hv)
    have hdata := congrArg (fun a : ByteArray => a.data.toList) henc
    simpa [List.utf8Encode, bytes, String.fromUTF8] using hdata
  · cases h

theorem utf8Text_of_bytes (cs : List Char) : (utf8Text (bytes cs)).isSome = true := by
  unfold utf8Text String.fromUTF8?
  have hv : ByteArray.IsValidUTF8 ⟨(bytes cs).toArray⟩ := ⟨cs, by ext1; simp [List.utf8Encode, bytes]⟩
  rw [dif_pos hv]
  rfl

theorem not_blankLine {first : UInt8} {rest : List UInt8} (hf : first = 120 ∨ first = 123) :
    blankLine (first :: rest) = false := by
  unfold blankLine
  cases ht : utf8Text (first :: rest) with
  | none => rfl
  | some t =>
    have hb := utf8Text_bytes ht
    cases hcs : t.toList with
    | nil =>
      rw [hcs] at hb
      cases hb
    | cons c cs =>
      have hc : c.toNat = first.toNat := by
        rw [hcs] at hb
        have hmem : first ∈ String.utf8EncodeChar c := by
          cases hu : String.utf8EncodeChar c with
          | nil => exact absurd hu String.utf8EncodeChar_ne_nil
          | cons b bs =>
            rw [bytes, List.flatMap_cons, hu, List.cons_append] at hb
            obtain ⟨rfl, -⟩ := List.cons.inj hb
            exact List.mem_cons_self
        exact toNat_of_mem_utf8EncodeChar hmem (by rcases hf with rfl | rfl <;> decide)
      have hcc : c = 'x' ∨ c = '\x7b' := by
        rcases hf with rfl | rfl
        · exact .inl (Char.toNat_inj.mp hc)
        · exact .inr (Char.toNat_inj.mp hc)
      simp only [Option.any_some, trimmedEmpty, hcs, List.all_cons]
      rcases hcc with rfl | rfl <;> rfl

theorem jsonWhitespace : JsonWhitespace where
  carriageReturn line := by
    show (entryCodec.decode (line ++ [13])).toOption = (entryCodec.decode line).toOption
    rw [entryCodec_reads, entryCodec_reads, List.rdropWhile_concat_pos _ _ _ (by decide)]
  blank line hb := by
    show (entryCodec.decode line).toOption = none
    rw [entryCodec_reads]
    cases hd : writtenEntry.decode (line.rdropWhile jsonBlank) with
    | error e => rfl
    | ok e =>
      have henc : entryCodec.encode e = line.rdropWhile jsonBlank := by
        rw [entryCodec_writes]
        exact writtenEntry_decode hd
      obtain ⟨first, middle, last, h, hf, -⟩ := entryCodec_ends e
      obtain ⟨rest, hrest⟩ := List.rdropWhile_prefix jsonBlank (l := line)
      rw [← hrest, ← henc, h, List.cons_append, not_blankLine hf] at hb
      cases hb

theorem epochEntry_encode : entryCodec.encode epochEntry = bytes (entryJson epochEntry) :=
  entryCodec_encode (by decide +kernel)

theorem epochEntry_follows : follows ledgerIdentity 0 none epochEntry = true := sealedEntry_follows

section Line

variable {e : MctObservationLedgerEntry}

theorem first_chain (hf : follows ledgerIdentity 0 none e = true) :
    readChain ledgerIdentity 0 none [entryCodec.encode e] = some [e] :=
  readChain_cons.mpr ⟨e, [], serde.entry e, hf, rfl, rfl⟩

theorem entry_not_blank (e : MctObservationLedgerEntry) : blankLine (entryCodec.encode e) = false := by
  obtain ⟨first, middle, last, h, hfirst, -⟩ := entryCodec_ends e
  rw [h]
  exact not_blankLine hfirst

theorem entry_ne_nil (e : MctObservationLedgerEntry) : entryCodec.encode e ≠ [] := by
  obtain ⟨first, middle, last, h, -, -⟩ := entryCodec_ends e
  rw [h]
  exact List.cons_ne_nil _ _

theorem stripLineEnd_torn (e : MctObservationLedgerEntry) :
    stripLineEnd (entryCodec.encode e) = entryCodec.encode e := by
  unfold stripLineEnd
  rw [not_terminated (entryCodec_line e), if_neg Bool.false_ne_true]

theorem stripLineEnd_frameOf (e : MctObservationLedgerEntry) : stripLineEnd (frameOf e) = entryCodec.encode e := by
  obtain ⟨first, middle, last, h, -, hlast⟩ := entryCodec_ends e
  have hcr : terminated 13 (entryCodec.encode e) = false := by
    rw [h, ← List.cons_append]
    unfold terminated
    rw [List.getLast?_concat]
    by_contra hc
    rw [Bool.not_eq_false, beq_iff_eq, Option.some.injEq] at hc
    rw [hc] at hlast
    cases hlast
  unfold stripLineEnd
  rw [if_pos (frameOf_complete serde e).terminated]
  show (if terminated 13 ((entryCodec.encode e ++ [10]).dropLast) = true then _ else
    (entryCodec.encode e ++ [10]).dropLast) = _
  rw [List.dropLast_concat, hcr, if_neg Bool.false_ne_true]

theorem torn_items (hc : entryCodec.encode e = bytes (entryJson e)) (hf : follows ledgerIdentity 0 none e = true) :
    iterItems "p" ledgerIdentity (entryCodec.encode e) = [e].map .ok := by
  refine iterItems_ok.mpr ⟨?_, ?_⟩
  · rw [frames_torn (entryCodec_line e) (entry_ne_nil e), List.forall_mem_singleton, hc]
    exact utf8Text_of_bytes _
  · rw [frames_torn (entryCodec_line e) (entry_ne_nil e),
      forgivenLines_cons (by rw [stripLineEnd_torn]; exact entry_not_blank e), stripLineEnd_torn]
    exact first_chain hf

theorem torn_scan (e : MctObservationLedgerEntry) :
    scanExisting "p" ledgerIdentity none (entryCodec.encode e) =
      .ok (.residue ⟨0, entryCodec.encode e, blake3 (entryCodec.encode e), emptyScanState⟩) := by
  unfold scanExisting
  rw [frames_torn (entryCodec_line e) (entry_ne_nil e), scanFrames, not_terminated (entryCodec_line e),
    if_neg Bool.false_ne_true]
  rfl

theorem frameOf_plain (hc : entryCodec.encode e = bytes (entryJson e)) : PlainLines (frameOf e) := by
  have hcomp := frameOf_complete serde e
  have hframes : frames newline (frameOf e) = [frameOf e] := by
    have := frames_complete hcomp []
    rwa [List.append_nil, frames_nil] at this
  unfold PlainLines
  rw [hframes, List.forall_mem_singleton, stripLineEnd_frameOf]
  refine ⟨hcomp.terminated, ?_, entry_not_blank e⟩
  have hnl : frameOf e = bytes (entryJson e ++ ['\n']) := by
    show entryCodec.encode e ++ [10] = _
    rw [hc, bytes, bytes, List.flatMap_append]
    rfl
  rw [hnl]
  exact utf8Text_of_bytes _

end Line

/-- An entry whose newline was lost is residue for the scan and an entry for the iterator. -/
theorem torn_entry_yielded :
    iterItems "p" ledgerIdentity (entryCodec.encode epochEntry) = [.ok epochEntry] ∧
      scanExisting "p" ledgerIdentity none (entryCodec.encode epochEntry) =
        .ok (.residue ⟨0, entryCodec.encode epochEntry, blake3 (entryCodec.encode epochEntry), emptyScanState⟩) ∧
      ¬ ReadersAgree "p" ledgerIdentity (entryCodec.encode epochEntry) := by
  have hiter := torn_items epochEntry_encode epochEntry_follows
  refine ⟨hiter, torn_scan epochEntry, fun hagree => ?_⟩
  obtain ⟨state, hready⟩ := hagree.accept.mp ⟨[epochEntry], hiter⟩
  rw [torn_scan] at hready
  cases hready

theorem readersAgree_iff_applies :
    JsonWhitespace ∧ PlainLines (frameOf epochEntry) ∧ ReadersAgree "p" ledgerIdentity (frameOf epochEntry) := by
  have hplain := frameOf_plain epochEntry_encode
  exact ⟨jsonWhitespace, hplain, (readersAgree_iff jsonWhitespace).mpr (.inl hplain)⟩

end Mct.Sample
