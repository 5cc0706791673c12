import PatinaMct.Segment
/-!
# SegmentDirectory — a ledger in several files

`verify_segmented_ledger` finds the segments `seg-000000.jsonl` and so on in a directory, verifies them in the order of
their indices, and reads `open.jsonl` from the link that they lead to.  `verifySegmentedLedger_iff` says that this is one
scan of the bytes of the files one after another, with every segment closed by its checkpoint.
-/
namespace Mct

open Checked
open Frames

variable [SegmentHost]

/-! ## The directory -/

/-- A directory of ledger files, with no more lines than a `u64` counts. -/
structure LedgerDirectory where
  path : String
  files : List (String × List UInt8)
  distinct : (files.map (·.1)).Nodup
  fits : (files.map fun file => (frames newline file.2).length).sum < 2 ^ 64

def openName : String := "open.jsonl"

def stripEnd (text ending : String) : Option String :=
  if ending.toList.isSuffixOf text.toList then some (String.ofList (text.toList.take (text.length - ending.length)))
  else none

def digitsValue (digits : List Char) : Nat := digits.foldl (fun value digit => 10 * value + (digit.toNat - 48)) 0

def segmentIndex (name : String) : Option Nat :=
  match (stripStart name "seg-").bind (stripEnd · ".jsonl") with
  | none => none
  | some rest =>
    if rest.length ≠ 6 || !rest.toList.all Char.isDigit then none else some (digitsValue rest.toList)

/-- The files that `segment_paths` does not pass over. -/
def isSegmentFile (name : String) : Bool :=
  name != openName && startsWith name "seg-" && ".jsonl".toList.isSuffixOf name.toList

variable (dir : LedgerDirectory)

def LedgerDirectory.join (name : String) : String := dir.path ++ "/" ++ name

def LedgerDirectory.indexed (file : String × List UInt8) :
    Except ObservationLedgerError (Nat × String × List UInt8) :=
  match segmentIndex file.1 with
  | none => .error (.segmentRejected ("segment file `" ++ file.1 ++ "` is not seg-NNNNNN.jsonl"))
  | some index => .ok (index, dir.join file.1, file.2)

/-- `segment_paths`, with the content of every file. -/
def LedgerDirectory.segmentPaths :
    Except ObservationLedgerError (List (String × List UInt8)) := do
  let indexed ← (dir.files.filter fun file => isSegmentFile file.1).mapM dir.indexed
  let sorted := indexed.mergeSort fun a b => decide (a.1 ≤ b.1)
  sorted.zipIdx.forM fun row => deny (row.1.1 ≠ row.2)
    (.segmentRejected ("segment index " ++ toString row.1.1 ++ " is not contiguous from 0"))
  return sorted.map (·.2)

def LedgerDirectory.read (name : String) : Except ObservationLedgerError (List UInt8) :=
  match dir.files.find? fun file => file.1 == name with
  | some file => .ok file.2
  | none => .error (.io (dir.join name) "No such file or directory (os error 2)")

def verifySegmentedLedger (id : LedgerIdentity) :
    Except ObservationLedgerError SegmentedLedgerReport := do
  let paths ← dir.segmentPaths
  let (segments, expectedSequence, expectedPrevious) ← verifySegments id 0 none paths
  let bytes ← dir.read openName
  let open_ ← streamChain (dir.join openName) id (some (expectedSequence, expectedPrevious)) bytes
  if open_.entryCount > 0 then
    expectLink open_.firstSequence open_.firstPreviousEntryHash expectedSequence expectedPrevious
  return { segments := segments
           openEntries := open_.entryCount
           openHeadSequence := if open_.entryCount > 0 then some open_.lastSequence else none
           openHeadHash := if open_.entryCount > 0 then some open_.lastEntryHash else none }

/-! ### Names -/

variable {path : String} {id : LedgerIdentity} {seq : Nat} {previous : Option String} {bytes : List UInt8}
  {entries : List MctObservationLedgerEntry}

def segmentName (index : Nat) : String :=
  "seg-" ++ (String.ofList (([100000, 10000, 1000, 100, 10, 1].map fun place =>
    Char.ofNat (48 + index / place % 10))) ++ ".jsonl")

variable {dir : LedgerDirectory} {contents : List (List UInt8)} {openBytes : List UInt8}

section Directory

omit [SegmentHost]

theorem stripEnd_append (text ending : String) : stripEnd (text ++ ending) ending = some text := by
  unfold stripEnd
  rw [if_pos (by simp)]
  simp [← String.length_toList]

theorem digit_facts : ∀ d < 10, (Char.ofNat (48 + d)).isDigit = true ∧ (Char.ofNat (48 + d)).toNat = 48 + d := by
  decide

theorem segmentIndex_segmentName {index : Nat} (h : index < 1000000) : segmentIndex (segmentName index) = some index := by
  have hplace : ∀ place, (Char.ofNat (48 + index / place % 10)).isDigit = true ∧
      (Char.ofNat (48 + index / place % 10)).toNat = 48 + index / place % 10 := fun place =>
    digit_facts _ (Nat.mod_lt _ (by decide))
  unfold segmentIndex segmentName
  rw [stripStart_append, Option.bind_some, stripEnd_append]
  simp only [← String.length_toList, String.toList_ofList, List.length_cons, List.length_nil,
    List.map_cons, List.map_nil, List.all_cons, List.all_nil, hplace, Bool.and_self, Bool.not_true, ne_eq,
    not_true_eq_false, decide_false, Bool.or_self, Bool.false_eq_true, if_false, digitsValue, List.foldl_cons,
    List.foldl_nil]
  congr 1
  omega

theorem isSegmentFile_segmentName (idx : Nat) : isSegmentFile (segmentName idx) = true := by
  have hstart : startsWith (segmentName idx) "seg-" = true := startsWith_append _ _
  have hne : segmentName idx ≠ openName := by
    intro h
    rw [h] at hstart
    exact absurd hstart (by decide)
  have hend : ".jsonl".toList.isSuffixOf (segmentName idx).toList = true := by
    rw [List.isSuffixOf_iff_suffix, segmentName, String.toList_append, String.toList_append, ← List.append_assoc]
    exact List.suffix_append _ _
  unfold isSegmentFile
  rw [hstart, hend, bne_iff_ne.mpr hne]
  rfl

/-! ### The files in order -/

/-- **A directory with these segments and this open file.**  It may hold other files, but none that is named like a
segment. -/
structure LedgerDirectory.Holds (dir : LedgerDirectory) (segments : List (List UInt8)) (openBytes : List UInt8) :
    Prop where
  count : segments.length ≤ 1000000
  segment : ∀ index bytes, segments[index]? = some bytes → (segmentName index, bytes) ∈ dir.files
  only : ∀ file ∈ dir.files, isSegmentFile file.1 = true → ∃ index < segments.length, file.1 = segmentName index
  openFile : (openName, openBytes) ∈ dir.files

def named (segments : List (List UInt8)) : List (String × List UInt8) :=
  segments.zipIdx.map fun segment => (segmentName segment.2, segment.1)

theorem mem_named {file : String × List UInt8} :
    file ∈ named contents ↔ ∃ index, contents[index]? = some file.2 ∧ file.1 = segmentName index := by
  unfold named
  simp only [List.mem_map, List.mem_zipIdx_iff_getElem?]
  constructor
  · rintro ⟨⟨bytes, index⟩, h, rfl⟩
    exact ⟨index, h, rfl⟩
  · rintro ⟨index, h, hname⟩
    exact ⟨(file.2, index), h, by rw [← hname]⟩

theorem named_nodup (h : contents.length ≤ 1000000) : (named contents).Nodup := by
  apply List.Nodup.of_map (fun file => segmentIndex file.1)
  have hindex : (named contents).map (fun file => segmentIndex file.1) = (List.range contents.length).map some := by
    unfold named
    rw [List.map_map]
    apply List.ext_getElem
    · simp
    · intro idx h₁ h₂
      simp only [List.length_map, List.length_zipIdx] at h₁
      simp only [List.getElem_map, List.getElem_zipIdx, Function.comp_apply, List.getElem_range, Nat.zero_add]
      exact segmentIndex_segmentName (by omega)
  rw [hindex]
  exact (List.nodup_range).map (Option.some_injective _)

theorem LedgerDirectory.file_unique {name : String} {b b' : List UInt8} (h : (name, b) ∈ dir.files)
    (h' : (name, b') ∈ dir.files) : b = b' := by
  have := List.inj_on_of_nodup_map dir.distinct h h' rfl
  cases this
  rfl

theorem LedgerDirectory.Holds.segmentFiles (h : dir.Holds contents openBytes) :
    (dir.files.filter fun file => isSegmentFile file.1).Perm (named contents) := by
  rw [List.perm_ext_iff_of_nodup (dir.distinct.of_map.filter _) (named_nodup h.count)]
  intro file
  rw [List.mem_filter, mem_named]
  constructor
  · rintro ⟨hmem, hname⟩
    obtain ⟨index, hlt, hindex⟩ := h.only file hmem hname
    have hfile := h.segment index _ (List.getElem?_eq_getElem hlt)
    refine ⟨index, ?_, hindex⟩
    rw [List.getElem?_eq_getElem hlt]
    have hpair : (segmentName index, file.2) ∈ dir.files := by
      rw [← hindex]
      exact hmem
    rw [file_unique hfile hpair]
  · rintro ⟨index, hcon, hname⟩
    refine ⟨?_, by rw [hname]; exact isSegmentFile_segmentName index⟩
    have := h.segment index _ hcon
    rwa [← hname] at this

theorem LedgerDirectory.Holds.read_open (h : dir.Holds contents openBytes) : dir.read openName = .ok openBytes := by
  unfold read
  cases hf : dir.files.find? fun file => file.1 == openName with
  | none =>
    have := List.find?_eq_none.mp hf _ h.openFile
    simp at this
  | some file =>
    have hname : file.1 = openName := by simpa using List.find?_some hf
    have hmem := List.mem_of_find?_eq_some hf
    have hpair : (openName, file.2) ∈ dir.files := by
      rw [← hname]
      exact hmem
    simp only
    rw [file_unique hpair h.openFile]

theorem mergeSort_eq_of_increasing {α : Type} (key : α → Nat) {l target : List α} (hp : l.Perm target)
    (ht : target.Pairwise fun a b => key a < key b) : l.mergeSort (fun a b => decide (key a ≤ key b)) = target := by
  have hperm := (List.mergeSort_perm l fun a b => decide (key a ≤ key b)).trans hp
  have hsorted : (l.mergeSort fun a b => decide (key a ≤ key b)).Pairwise
      fun a b => decide (key a ≤ key b) = true :=
    List.pairwise_mergeSort (by simp only [decide_eq_true_eq]; omega)
      (by simp only [Bool.or_eq_true, decide_eq_true_eq]; omega) _
  refine hperm.eq_of_pairwise ?_ hsorted (ht.imp fun hab => decide_eq_true (Nat.le_of_lt hab))
  intro a b ha hb hab hba
  simp only [decide_eq_true_eq] at hab hba
  have hkeys : (target.map key).Nodup := by
    rw [List.nodup_iff_pairwise_ne, List.pairwise_map]
    exact ht.imp fun hab => Nat.ne_of_lt hab
  exact List.inj_on_of_nodup_map hkeys (hperm.mem_iff.mp ha) hb (by omega)

def LedgerDirectory.row (dir : LedgerDirectory) (segment : List UInt8 × Nat) : Nat × String × List UInt8 :=
  (segment.2, dir.join (segmentName segment.2), segment.1)

theorem LedgerDirectory.Holds.indexed_ok (h : dir.Holds contents openBytes) :
    ∃ rows, (dir.files.filter fun file => isSegmentFile file.1).mapM dir.indexed = .ok rows ∧
      rows.Perm (contents.zipIdx.map dir.row) := by
  let g (file : String × List UInt8) := ((segmentIndex file.1).getD 0, dir.join file.1, file.2)
  have hindex : ∀ seg ∈ contents.zipIdx, segmentIndex (segmentName seg.2) = some seg.2 := by
    intro seg hs
    have hlt := List.snd_lt_of_mem_zipIdx hs
    have hcount := h.count
    exact segmentIndex_segmentName (by omega)
  refine ⟨(dir.files.filter fun file => isSegmentFile file.1).map g, mapM_ok_of_forall ?_, ?_⟩
  · intro file hfile
    obtain ⟨seg, hs, rfl⟩ := List.mem_map.mp (h.segmentFiles.mem_iff.mp hfile)
    simp only [indexed, g, hindex seg hs, Option.getD_some]
  · have hrows : (named contents).map g = contents.zipIdx.map dir.row := by
      unfold named
      rw [List.map_map]
      apply List.map_congr_left
      intro seg hs
      simp only [g, row, Function.comp_apply, hindex seg hs, Option.getD_some]
    rw [← hrows]
    exact h.segmentFiles.map g

/-- **The segments are read in the order of their indices.** -/
theorem LedgerDirectory.Holds.segmentPaths_ok (h : dir.Holds contents openBytes) :
    dir.segmentPaths = .ok (contents.zipIdx.map fun seg => (dir.join (segmentName seg.2), seg.1)) := by
  obtain ⟨rows, hrows, hperm⟩ := h.indexed_ok
  have hsorted : rows.mergeSort (fun a b => decide (a.1 ≤ b.1)) = contents.zipIdx.map dir.row := by
    apply mergeSort_eq_of_increasing (fun r : Nat × String × List UInt8 => r.1) hperm
    rw [List.pairwise_iff_getElem]
    intro i j hi hj hij
    simp only [List.getElem_map, List.getElem_zipIdx, row]
    omega
  simp only [segmentPaths, hrows, ok_bind]
  rw [hsorted, bind_ok]
  refine ⟨(), forM_ok.mpr ?_, ?_⟩
  · intro r hr
    rw [deny_ok, decide_eq_false_iff_not, not_not]
    rw [List.mem_zipIdx_iff_getElem?, List.getElem?_map, Option.map_eq_some_iff] at hr
    obtain ⟨s, hs, hrow⟩ := hr
    rw [List.getElem?_zipIdx, Option.map_eq_some_iff] at hs
    obtain ⟨b, -, rfl⟩ := hs
    rw [← hrow]
    exact Nat.zero_add _
  · rw [List.map_map]
    rfl

theorem LedgerDirectory.Holds.fits_u64 (h : dir.Holds contents openBytes) :
    (contents.flatMap (frames newline) ++ frames newline openBytes).length < 2 ^ 64 := by
  let lines (file : String × List UInt8) := (frames newline file.2).length
  have hnot : (openName, openBytes) ∉ named contents := by
    intro hmem
    obtain ⟨index, -, hname⟩ := mem_named.mp hmem
    have := isSegmentFile_segmentName index
    rw [← hname] at this
    exact absurd (show isSegmentFile openName = true from this) (by decide)
  have hnodup : ((openName, openBytes) :: named contents).Nodup :=
    List.nodup_cons.mpr ⟨hnot, named_nodup h.count⟩
  have hsub : (openName, openBytes) :: named contents ⊆ dir.files := by
    intro file hfile
    rcases List.mem_cons.mp hfile with rfl | hfile
    · exact h.openFile
    · exact (List.mem_filter.mp (h.segmentFiles.mem_iff.mpr hfile)).1
  obtain ⟨l, hl, hlsub⟩ := hnodup.subperm hsub
  have hsum : (((openName, openBytes) :: named contents).map lines).sum ≤ (dir.files.map lines).sum := by
    rw [← (hl.map _).sum_eq]
    exact (hlsub.map _).sum_le_sum fun _ _ => Nat.zero_le _
  have hlen : ((named contents).map lines).sum = (contents.flatMap (frames newline)).length := by
    rw [List.length_flatMap, named, List.map_map]
    have hfst := congrArg (List.map fun bytes => (frames newline bytes).length) (List.zipIdx_map_fst 0 contents)
    rw [List.map_map] at hfst
    exact congrArg List.sum hfst
  have hfits : (dir.files.map lines).sum < 2 ^ 64 := dir.fits
  rw [List.map_cons, List.sum_cons, hlen] at hsum
  have hopen : lines (openName, openBytes) = (frames newline openBytes).length := rfl
  rw [List.length_append]
  omega

def LedgerDirectory.paths (dir : LedgerDirectory) (contents : List (List UInt8)) : List (String × List UInt8) :=
  contents.zipIdx.map fun segment => (dir.join (segmentName segment.2), segment.1)

theorem LedgerDirectory.paths_contents (dir : LedgerDirectory) (contents : List (List UInt8)) :
    (dir.paths contents).map (·.2) = contents := by
  unfold paths
  rw [List.map_map]
  exact List.zipIdx_map_fst 0 contents

theorem LedgerDirectory.paths_frames (dir : LedgerDirectory) (contents : List (List UInt8)) :
    ((dir.paths contents).flatMap fun seg => frames nl seg.2) = contents.flatMap (frames nl) := by
  conv_rhs => rw [← dir.paths_contents contents, List.flatMap_map]

theorem LedgerDirectory.forall_paths {p : List UInt8 → Prop} :
    (∀ seg ∈ dir.paths contents, p seg.2) ↔ ∀ bytes ∈ contents, p bytes := by
  conv_rhs => rw [← dir.paths_contents contents, List.forall_mem_map]

theorem frames_concatenation (h : ∀ bytes ∈ contents, ∀ f ∈ frames nl bytes, terminated nl f = true)
    (rest : List UInt8) :
    frames nl (contents.flatten ++ rest) = contents.flatMap (frames nl) ++ frames nl rest := by
  induction contents with
  | nil => rfl
  | cons bytes contents ih =>
    rw [List.forall_mem_cons] at h
    rw [List.flatten_cons, List.append_assoc, frames_append h.1, ih h.2, List.flatMap_cons, List.append_assoc]

end Directory

/-! ## One ledger -/

theorem ClosedByCheckpoint.terminated (h : ClosedByCheckpoint bytes) :
    ∀ f ∈ frames newline bytes, terminated newline f = true := by
  obtain ⟨_, _, _, _, _, _, -, ht, -⟩ := h
  exact ht

theorem streamChain_open {open_ : StreamedChain}
    (h : streamChain path id (some (seq, previous)) bytes = .ok open_) :
    (∀ f ∈ frames newline bytes, terminated newline f = true) ∧
      ∃ entries, readChain id seq previous ((frames newline bytes).map List.dropLast) = some entries ∧
        open_.entryCount = entries.length ∧ (bytes ≠ [] → open_.lastSequence + 1 = seq + entries.length ∧
          some open_.lastEntryHash = hashAfter previous entries) := by
  obtain ⟨ht, ⟨rfl, rfl⟩ | ⟨body, last, hc, -, rfl⟩⟩ := streamChain_some.mp h
  · exact ⟨ht, [], rfl, rfl, fun hne => absurd rfl hne⟩
  · refine ⟨ht, body ++ [last], hc, by simp [StreamState.summaryOf, startStream], fun _ => ⟨?_, ?_⟩⟩
    · rcases List.eq_nil_or_concat' ((frames newline bytes).map List.dropLast) with hnil | ⟨lines, line, hl⟩
      · have := readChain_length hc
        rw [hnil] at this
        simp at this
      · rw [hl] at hc
        obtain ⟨body', last', hb', -, hf', he'⟩ := readChain_concat.mp hc
        obtain ⟨rfl, hll⟩ := List.append_inj' he' rfl
        cases hll
        have hlen := readChain_length hb'
        have hs := (follows_iff.mp hf').1
        show last.localSequence + 1 = _
        rw [List.length_append, List.length_singleton]
        omega
    · rw [hashAfter_concat]
      rfl

theorem streamChain_of_chain (path : String) (ht : ∀ f ∈ frames newline bytes, terminated newline f = true)
    (hc : readChain id seq previous ((frames newline bytes).map List.dropLast) = some entries)
    (hfit : seq + entries.length < 2 ^ 64) :
    ∃ open_, streamChain path id (some (seq, previous)) bytes = .ok open_ ∧
      expectLink open_.firstSequence open_.firstPreviousEntryHash seq previous = .ok () := by
  rcases List.eq_nil_or_concat' entries with rfl | ⟨body, last, rfl⟩
  · have hlen := readChain_length hc
    rw [List.length_nil, List.length_map] at hlen
    have hnil := frames_eq_nil.mp (List.eq_nil_of_length_eq_zero hlen.symm)
    refine ⟨_, streamChain_some.mpr ⟨ht, .inl ⟨hnil, rfl⟩⟩, ?_⟩
    simp [expectLink, deny, bind, Except.bind]
  · refine ⟨_, streamChain_some.mpr ⟨ht, .inr ⟨body, last, hc, ?_, rfl⟩⟩, ?_⟩
    · intro e he
      have := readChain_sequence_lt hc e (List.mem_append_left _ he)
      omega
    · cases hcons : (frames newline bytes).map List.dropLast with
      | nil =>
        rw [hcons] at hc
        simp [readChain] at hc
      | cons line lines =>
        rw [hcons] at hc
        obtain ⟨first, rest, -, hf, -, he⟩ := readChain_cons.mp hc
        obtain ⟨hs, -, hp, -⟩ := follows_iff.mp hf
        obtain ⟨h₁, h₂⟩ := summaryOf_first (frames newline bytes).dropLast
          (frames newline bytes).flatten he
        simp only [expectLink, bind_ok, exists_unit, deny_ok, decide_eq_false_iff_not, not_not]
        exact ⟨h₁.trans hs, h₂.trans hp⟩

theorem verifySegmentedLedger_ok {report : SegmentedLedgerReport} (h : dir.Holds contents openBytes)
    (hv : verifySegmentedLedger dir id = .ok report) :
    (∀ bytes ∈ contents, ClosedByCheckpoint bytes) ∧
      (∀ f ∈ frames newline openBytes, terminated newline f = true) ∧
      ∃ entries, readChain id 0 none ((contents.flatMap (frames newline) ++ frames newline openBytes).map List.dropLast) =
          some entries ∧
        (openBytes ≠ [] → report.openHeadSequence.map (· + 1) = some entries.length ∧
          report.openHeadHash = hashAfter none entries) := by
  simp only [verifySegmentedLedger, h.segmentPaths_ok, h.read_open, ok_bind, bind_ok] at hv
  obtain ⟨⟨verified, seq, previous⟩, hseg, open_, hopen, hrep⟩ := hv
  obtain ⟨hclosed, front, hfront, hlink⟩ := verifySegments_ok hseg
  obtain ⟨rfl, rfl⟩ := Prod.mk.inj hlink
  obtain ⟨ht, back, hback, hcount, hhead⟩ := streamChain_open hopen
  rw [show (contents.zipIdx.map fun seg => (dir.join (segmentName seg.2), seg.1)) = dir.paths contents
    from rfl] at hclosed hfront
  rw [dir.paths_frames] at hfront
  refine ⟨LedgerDirectory.forall_paths.mp hclosed, ht, front ++ back, ?_, ?_⟩
  · rw [List.map_append, readChain_append]
    refine ⟨front, back, hfront, ?_, rfl⟩
    rw [← readChain_length hfront]
    exact hback
  · intro hne
    obtain ⟨hseq, hhash⟩ := hhead hne
    have hpos : open_.entryCount > 0 := by
      have hlen := readChain_length hback
      rw [List.length_map] at hlen
      have : frames newline openBytes ≠ [] := fun hnil => hne (frames_eq_nil.mp hnil)
      have := List.length_pos_iff.mpr this
      omega
    simp only [if_pos hpos] at hrep
    obtain ⟨-, -, hrep⟩ := bind_ok.mp hrep
    cases hrep
    constructor
    · rw [List.length_append, Option.map_some, hseq, Nat.zero_add]
    · rw [hashAfter_append, ← hhash]

theorem verifySegmentedLedger_of_chain (h : dir.Holds contents openBytes)
    (hclosed : ∀ bytes ∈ contents, ClosedByCheckpoint bytes)
    (ht : ∀ f ∈ frames newline openBytes, terminated newline f = true)
    (hc : readChain id 0 none ((contents.flatMap (frames newline) ++ frames newline openBytes).map List.dropLast) =
      some entries) :
    ∃ report, verifySegmentedLedger dir id = .ok report := by
  have hfit : 0 + entries.length < 2 ^ 64 := by
    have hlen := readChain_length hc
    rw [List.length_map] at hlen
    have := h.fits_u64
    omega
  rw [List.map_append, readChain_append] at hc
  obtain ⟨front, back, hfront, hback, rfl⟩ := hc
  rw [List.length_append] at hfit
  rw [← readChain_length hfront] at hback
  rw [← dir.paths_frames] at hfront
  obtain ⟨verified, hseg⟩ := verifySegments_of_closed (LedgerDirectory.forall_paths.mpr hclosed) hfront (by omega)
  obtain ⟨open_, hopen, hlink⟩ := streamChain_of_chain (dir.join openName) ht hback (by omega)
  refine ⟨⟨verified, open_.entryCount, if open_.entryCount > 0 then some open_.lastSequence else none,
    if open_.entryCount > 0 then some open_.lastEntryHash else none⟩, ?_⟩
  simp only [verifySegmentedLedger, h.segmentPaths_ok, h.read_open, ok_bind, bind_ok]
  refine ⟨_, hseg, open_, hopen, ?_⟩
  rw [hlink]
  split
  · rfl
  · rfl

/-- **Verifying segments is verifying their concatenation**: it succeeds exactly when the bytes of the files, one after
another, are one ledger from sequence zero, and every segment is closed by its checkpoint; and then the head that it
reports for a non-empty open file is the head of that ledger. -/
theorem verifySegmentedLedger_iff (h : dir.Holds contents openBytes) :
    ((∃ report, verifySegmentedLedger dir id = .ok report) ↔
      (∃ state, scanExisting path id none (contents.flatten ++ openBytes) = .ok (.ready state)) ∧
        ∀ bytes ∈ contents, ClosedByCheckpoint bytes) ∧
    ∀ report state, verifySegmentedLedger dir id = .ok report →
      scanExisting path id none (contents.flatten ++ openBytes) = .ok (.ready state) → openBytes ≠ [] →
      report.openHeadSequence.map (· + 1) = some state.nextSequence ∧ report.openHeadHash = state.previousHash := by
  constructor
  · constructor
    · rintro ⟨report, hv⟩
      obtain ⟨hclosed, ht, entries, hc, -⟩ := verifySegmentedLedger_ok h hv
      refine ⟨⟨_, scanFrames_ready.mpr ⟨?_, entries, ?_, rfl⟩⟩, hclosed⟩
      · rw [frames_concatenation fun b hb => (hclosed b hb).terminated]
        intro f hf
        rcases List.mem_append.mp hf with hf | hf
        · obtain ⟨bytes, hb, hf⟩ := List.mem_flatMap.mp hf
          exact (hclosed bytes hb).terminated f hf
        · exact ht f hf
      · rw [frames_concatenation fun b hb => (hclosed b hb).terminated]
        exact hc
    · rintro ⟨⟨state, hs⟩, hclosed⟩
      obtain ⟨ht, entries, hc, -⟩ := scanFrames_ready.mp hs
      rw [frames_concatenation fun b hb => (hclosed b hb).terminated] at ht hc
      exact verifySegmentedLedger_of_chain h hclosed (fun f hf => ht f (List.mem_append_right _ hf)) hc
  · intro report state hv hs hne
    obtain ⟨hclosed, -, entries, hc, hhead⟩ := verifySegmentedLedger_ok h hv
    obtain ⟨-, entries', hc', rfl⟩ := scanFrames_ready.mp hs
    have hlen := readChain_length hc'
    rw [List.length_map] at hlen
    obtain ⟨hseq, hprev, -⟩ := emptyScanState.rememberAll_counters hlen
    rw [frames_concatenation fun b hb => (hclosed b hb).terminated] at hc'
    obtain rfl : entries = entries' := Option.some.inj (hc.symm.trans hc')
    rw [hseq, hprev, ← hlen]
    obtain ⟨h₁, h₂⟩ := hhead hne
    refine ⟨?_, h₂⟩
    rw [h₁]
    exact congrArg some (Nat.zero_add _).symm

end Mct

/-! ## A segment of two entries -/

namespace Mct.Sample

open Checked
open Frames
open Recovery.Sample (second)

/-! ## Two segments and an open file -/

def checkpointMembers (c : SegmentCheckpointV1) : Sample.Members :=
  [("schema", jsonString c.schema), ("segment_id", jsonString c.segmentId), ("entry_count", jsonNat c.entryCount),
    ("last_sequence", jsonNat c.lastSequence), ("last_entry_hash", jsonString c.lastEntryHash),
    ("segment_blake3", jsonString c.segmentBlake3)]

def checkpointJson (c : SegmentCheckpointV1) : List Char := jsonObject (checkpointMembers c)

theorem checkpoint_alike (c c' : SegmentCheckpointV1) :
    List.Forall₂ Alike (checkpointMembers c) (checkpointMembers c') := by
  simp [checkpointMembers]

theorem checkpointJson_injective : Function.Injective checkpointJson := by
  intro c c' h
  have hmembers := jsonObject_inj (checkpoint_alike c c') h
  simp only [checkpointMembers, List.cons.injEq, Prod.mk.injEq, true_and, and_true, jsonString_inj, jsonNat_inj] at hmembers
  cases c
  cases c'
  simp only [SegmentCheckpointV1.mk.injEq]
  exact hmembers

noncomputable def checkpointCodec : Codec SegmentCheckpointV1 String := .ofInjective fun c => text (checkpointJson c)

theorem checkpointCodec_decode (c : SegmentCheckpointV1) : checkpointCodec.decode (text (checkpointJson c)) = .ok c :=
  Codec.ofInjective_lawful (text_injective.comp checkpointJson_injective) c

@[reducible] noncomputable def segmentHost : SegmentHost := { host with segmentCheckpoint := checkpointCodec }

noncomputable def checkpointOf (segmentId : String) (last : MctObservationLedgerEntry) : SegmentCheckpointV1 where
  schema := segmentCheckpointSchema
  segmentId := segmentId
  entryCount := 1
  lastSequence := last.localSequence
  lastEntryHash := last.entryHash
  segmentBlake3 := blake3 (frameOf last)

def checkpointObservation (id : ObservationId) (trace : TraceId) (checkpoint : SegmentCheckpointV1) (at_ : Timestamp) :
    MctObservation where
  observationId := id
  observedAt := at_
  kind := .storageAppendSucceeded
  sourcePlane := .storage
  trace := .root trace
  callId := none
  decisionId := none
  subjectId := some "m"
  resourceId := some "l"
  policyRevision := none
  grantsRevision := none
  outcome := .completed
  visibility := .nodeOperator
  safeMessage := "observation ledger segment sealed"
  detailRef := some (segmentCheckpointStart ++ text (checkpointJson checkpoint))

theorem decodeCheckpoint_of {entry : MctObservationLedgerEntry} {id : ObservationId} {trace : TraceId}
    {checkpoint : SegmentCheckpointV1} {at_ : Timestamp}
    (h : entry.observation = checkpointObservation id trace checkpoint at_)
    (hschema : checkpoint.schema = segmentCheckpointSchema) :
    @decodeCheckpoint segmentHost entry = .ok checkpoint := by
  simp only [decodeCheckpoint, bind_ok, exists_unit, deny_ok, okOr_ok, mapErr_ok, pure_ok, h]
  exact ⟨rfl, _, rfl, _, stripStart_append _ _, checkpoint, checkpointCodec_decode checkpoint,
    decide_eq_false (not_not.mpr hschema), rfl⟩

theorem frameOf_decode (e : MctObservationLedgerEntry) : LedgerHost.entry.decode (frameOf e).dropLast = .ok e := by
  rw [frameOf, List.dropLast_concat]
  exact serde.entry e

theorem frames_written (l : List MctObservationLedgerEntry) : frames newline (l.map frameOf).flatten = l.map frameOf :=
  frames_flatten_complete (List.forall_mem_map.mpr fun e _ => frameOf_complete serde e)

theorem frames_length (l : List MctObservationLedgerEntry) : (frames newline (l.map frameOf).flatten).length = l.length := by
  rw [frames_written, List.length_map]

/-- A segment of one entry and its checkpoint is closed. -/
theorem closedByCheckpoint_of {head last : MctObservationLedgerEntry} {id : ObservationId} {trace : TraceId}
    {segmentId : String} {at_ : Timestamp}
    (h : last.observation = checkpointObservation id trace (checkpointOf segmentId head) at_) :
    @ClosedByCheckpoint segmentHost ([head, last].map frameOf).flatten := by
  refine ⟨[], frameOf head, frameOf last, head, last, checkpointOf segmentId head, frames_written [head, last], ?_,
    frameOf_decode head, frameOf_decode last, decodeCheckpoint_of h rfl, rfl, rfl, rfl, ?_⟩
  · rw [frames_written]
    exact List.forall_mem_map.mpr fun e _ => (frameOf_complete serde e).terminated
  · rw [List.nil_append, List.flatten_singleton]
    rfl

/-- The scan accepts these entries, and goes on after them. -/
def Scans (l : List MctObservationLedgerEntry) : Prop :=
  ∃ state, scanExisting "p" ledgerIdentity none (l.map frameOf).flatten = .ok (.ready state) ∧
    state.nextSequence = l.length ∧ state.previousHash = l.getLast?.map (·.entryHash)

theorem Scans.next {l : List MctObservationLedgerEntry} (h : Scans l) (obs : MctObservation) (at_ : Timestamp) :
    Scans (l ++ [nextEntry l obs at_]) := by
  obtain ⟨state, hscan, hsequence, hprevious⟩ := h
  have hfollows : follows ledgerIdentity state.nextSequence state.previousHash (nextEntry l obs at_) = true := by
    rw [hsequence, hprevious]
    exact sealedEntry_follows
  refine ⟨state.remember (nextEntry l obs at_) (frameOf (nextEntry l obs at_)), ?_, ?_, ?_⟩
  · rw [List.map_append, List.flatten_append, List.map_singleton, List.flatten_singleton]
    exact scanExisting_snoc serde hscan hfollows
  · rw [List.length_append, List.length_singleton, ← hsequence]
    rfl
  · rw [List.getLast?_concat]
    rfl

noncomputable def firstSeal : MctObservationLedgerEntry :=
  nextEntry [epochEntry] (checkpointObservation ⟨"ledger-segment-checkpoint-a", by decide⟩ ⟨"trace-segment-a", by decide⟩
    (checkpointOf "a" epochEntry) (second 1)) (second 1)

noncomputable def secondFact : MctObservationLedgerEntry :=
  nextEntry [epochEntry, firstSeal] (mutationFact.observation (second 2)) (second 2)

noncomputable def secondSeal : MctObservationLedgerEntry :=
  nextEntry [epochEntry, firstSeal, secondFact] (checkpointObservation ⟨"ledger-segment-checkpoint-b", by decide⟩
    ⟨"trace-segment-b", by decide⟩ (checkpointOf "b" secondFact) (second 3)) (second 3)

noncomputable def openEntry : MctObservationLedgerEntry :=
  nextEntry [epochEntry, firstSeal, secondFact, secondSeal]
    { mutationFact.observation (second 4) with
      observationId := ⟨"obs:health", by decide⟩
      kind := .nodeHealthReported
      safeMessage := "healthy"
      detailRef := none }
    (second 4)

noncomputable def firstSegment : List UInt8 := ([epochEntry, firstSeal].map frameOf).flatten

noncomputable def secondSegment : List UInt8 := ([secondFact, secondSeal].map frameOf).flatten

noncomputable def openFile : List UInt8 := ([openEntry].map frameOf).flatten

def directoryOf (first second openFile : List UInt8)
    (fits : (frames newline first).length + (frames newline second).length + (frames newline openFile).length < 100) :
    LedgerDirectory where
  path := "d"
  files := [("open.jsonl", openFile), ("seg-000001.jsonl", second), ("seg-000000.jsonl", first)]
  distinct := by simp
  fits := by
    simp only [List.map_cons, List.map_nil, List.sum_cons, List.sum_nil]
    omega

theorem directoryOf_holds {first second openFile : List UInt8}
    (fits : (frames newline first).length + (frames newline second).length + (frames newline openFile).length < 100) :
    (directoryOf first second openFile fits).Holds [first, second] openFile where
  count := by simp
  segment index bytes hbytes := by
    match index with
    | 0 =>
      cases hbytes
      exact List.mem_cons_of_mem _ (List.mem_cons_of_mem _ List.mem_cons_self)
    | 1 =>
      cases hbytes
      exact List.mem_cons_of_mem _ List.mem_cons_self
    | index + 2 => cases hbytes
  only file hfile hname := by
    rcases List.mem_cons.mp hfile with rfl | hfile
    · exact absurd (show isSegmentFile "open.jsonl" = true from hname) (by decide)
    rcases List.mem_cons.mp hfile with rfl | hfile
    · exact ⟨1, by simp, rfl⟩
    · rw [List.mem_singleton.mp hfile]
      exact ⟨0, by simp, rfl⟩
  openFile := List.mem_cons_self

theorem firstSegment_closed : @ClosedByCheckpoint segmentHost firstSegment :=
  @closedByCheckpoint_of epochEntry firstSeal ⟨"ledger-segment-checkpoint-a", by decide⟩ ⟨"trace-segment-a", by decide⟩ "a"
    (second 1) rfl

theorem secondSegment_closed : @ClosedByCheckpoint segmentHost secondSegment :=
  @closedByCheckpoint_of secondFact secondSeal ⟨"ledger-segment-checkpoint-b", by decide⟩
    ⟨"trace-segment-b", by decide⟩ "b" (second 3) rfl

theorem files_short :
    (frames newline firstSegment).length + (frames newline secondSegment).length + (frames newline openFile).length < 100 := by
  have hfirst : (frames newline firstSegment).length = 2 := frames_length [epochEntry, firstSeal]
  have hsecond : (frames newline secondSegment).length = 2 := frames_length [secondFact, secondSeal]
  have hopen : (frames newline openFile).length = 1 := frames_length [openEntry]
  omega

theorem five_scan : Scans [epochEntry, firstSeal, secondFact, secondSeal, openEntry] := by
  have hnone : Scans [] := ⟨_, rfl, rfl, rfl⟩
  exact ((((hnone.next _ _).next _ _).next _ _).next _ _).next _ _

theorem verifySegmentedLedger_iff_applies :
    (directoryOf firstSegment secondSegment openFile files_short).Holds [firstSegment, secondSegment] openFile ∧
      ∃ report, @verifySegmentedLedger segmentHost (directoryOf firstSegment secondSegment openFile files_short)
          ledgerIdentity = .ok report ∧
        report.openHeadSequence = some 4 ∧ report.openHeadHash = some openEntry.entryHash := by
  have hholds := directoryOf_holds files_short
  obtain ⟨state, hscan, hsequence, hprevious⟩ := five_scan
  have hbytes : ([epochEntry, firstSeal, secondFact, secondSeal, openEntry].map frameOf).flatten =
      [firstSegment, secondSegment].flatten ++ openFile := by
    simp only [firstSegment, secondSegment, openFile, List.map_cons, List.map_nil, List.flatten_cons, List.flatten_nil,
      List.append_nil, List.append_assoc]
  rw [hbytes] at hscan
  have hiff := @verifySegmentedLedger_iff segmentHost "p" ledgerIdentity _ _ _ hholds
  have hclosed : ∀ bytes ∈ [firstSegment, secondSegment], @ClosedByCheckpoint segmentHost bytes := by
    rw [List.forall_mem_cons, List.forall_mem_singleton]
    exact ⟨firstSegment_closed, secondSegment_closed⟩
  obtain ⟨report, hreport⟩ := hiff.1.mpr ⟨⟨state, hscan⟩, hclosed⟩
  have hopen : openFile ≠ [] := by
    intro hnil
    have hlength : (frames newline openFile).length = 1 := frames_length [openEntry]
    rw [hnil, frames_nil] at hlength
    cases hlength
  obtain ⟨hhead, hhash⟩ := hiff.2 report state hreport hscan hopen
  refine ⟨hholds, report, hreport, ?_, hhash.trans hprevious⟩
  rw [hsequence] at hhead
  obtain ⟨sequence, hsome, hplus⟩ := Option.map_eq_some_iff.mp hhead
  rw [hsome]
  exact congrArg some (Nat.succ.inj hplus)

end Mct.Sample
