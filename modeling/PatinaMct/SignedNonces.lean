import PatinaMct.Delegation
import PatinaMct.Prefixed
/-!
# SignedNonces — a signed command counts once

Two halves of one property.  Over a ledger, no nonce of a signer grant is used by two signed changes, the birth of the
ledger included: the replay keeps the nonces it has seen (`NoncesSpent`) and checks each change list against them.  Over
the bytes, an administrator's signature and a recovery signature are for one meaning: both messages are parts with their
lengths in front, so different parts give different bytes, and the two kinds of message differ in the number of parts.
-/
namespace Mct

open Checked
open Recovery.Sample (second key)
open Sample (nextEntry)
open Recovery (TextSet utf8 u64BeBytes lengthPrefixed transcript)

/-! ## Signed bytes -/

theorem shiftRight_eq_of_byte {m n s : Nat} (habove : m >>> (s + 8) = n >>> (s + 8))
    (hbyte : UInt8.ofNat (m >>> s) = UInt8.ofNat (n >>> s)) : m >>> s = n >>> s := by
  have hbyte : m >>> s % 256 = n >>> s % 256 := by simpa using congrArg UInt8.toNat hbyte
  rw [Nat.shiftRight_add, Nat.shiftRight_add, Nat.shiftRight_eq_div_pow (m >>> s),
    Nat.shiftRight_eq_div_pow (n >>> s)] at habove
  omega

theorem u64BeBytes_injective {m n : Nat} (hm : m < 2 ^ 64) (hn : n < 2 ^ 64) (h : u64BeBytes m = u64BeBytes n) : m = n := by
  simp only [u64BeBytes, List.map_cons, List.map_nil, List.cons.injEq, and_true] at h
  obtain ⟨h₇, h₆, h₅, h₄, h₃, h₂, h₁, h₀⟩ := h
  have habove : m >>> 64 = n >>> 64 := by
    rw [Nat.shiftRight_eq_div_pow, Nat.shiftRight_eq_div_pow, Nat.div_eq_of_lt hm, Nat.div_eq_of_lt hn]
  have h₇ : m >>> 56 = n >>> 56 := shiftRight_eq_of_byte habove h₇
  have h₆ : m >>> 48 = n >>> 48 := shiftRight_eq_of_byte h₇ h₆
  have h₅ : m >>> 40 = n >>> 40 := shiftRight_eq_of_byte h₆ h₅
  have h₄ : m >>> 32 = n >>> 32 := shiftRight_eq_of_byte h₅ h₄
  have h₃ : m >>> 24 = n >>> 24 := shiftRight_eq_of_byte h₄ h₃
  have h₂ : m >>> 16 = n >>> 16 := shiftRight_eq_of_byte h₃ h₂
  have h₁ : m >>> 8 = n >>> 8 := shiftRight_eq_of_byte h₂ h₁
  exact shiftRight_eq_of_byte h₁ h₀

theorem u64Header : Prefixed.Header u64BeBytes (2 ^ 64) :=
  ⟨fun _ _ => rfl, fun _ h => (by cases h), fun _ _ hm hn h => u64BeBytes_injective hm hn h⟩

theorem utf8_injective {s t : String} (h : utf8 s = utf8 t) : s = t := by
  unfold utf8 at h
  have henc : s.toList.utf8Encode = t.toList.utf8Encode := congrArg List.toByteArray h
  rwa [← String.toByteArray_ofList, ← String.toByteArray_ofList, String.toByteArray_inj, String.ofList_toList,
    String.ofList_toList] at henc

theorem AdminSignatureSchemeV1.version_injective {scheme scheme' : AdminSignatureSchemeV1}
    (h : scheme.version = scheme'.version) : scheme = scheme' := by
  cases scheme <;> cases scheme' <;> simp [version] at h ⊢

def AdminSignedMessageParts.list (parts : AdminSignedMessageParts) : List (List UInt8) :=
  [utf8 "mct-admin-signed-change", utf8 parts.scheme.version, utf8 parts.motherNodeId, utf8 parts.ledgerId,
    u64BeBytes parts.nonce, parts.signerGrantCanonical, parts.commandCanonical]

/-- **The ranges of the source's types**: the nonce is a `u64`, and every part has a length that is one. -/
structure AdminSignedMessageParts.InRange (parts : AdminSignedMessageParts) : Prop where
  nonce : parts.nonce < 2 ^ 64
  lengths : ∀ part ∈ parts.list, part.length < 2 ^ 64

theorem adminSignedMessage_injective {parts parts' : AdminSignedMessageParts} (h : parts.InRange) (h' : parts'.InRange)
    (heq : adminSignedMessage parts = adminSignedMessage parts') : parts = parts' := by
  have hlist : parts.list = parts'.list := u64Header.flatMap_inj h.lengths h'.lengths heq
  simp only [AdminSignedMessageParts.list, List.cons.injEq, and_true, true_and] at hlist
  obtain ⟨hscheme, hmother, hledger, hnonce, hgrant, hcommand⟩ := hlist
  have hscheme := AdminSignatureSchemeV1.version_injective (utf8_injective hscheme)
  have hmother := utf8_injective hmother
  have hledger := utf8_injective hledger
  have hnonce := u64BeBytes_injective h.nonce h'.nonce hnonce
  cases parts
  cases parts'
  rw [AdminSignedMessageParts.mk.injEq]
  exact ⟨hscheme, hmother, hledger, hnonce, hgrant, hcommand⟩

section Transcripts

variable [KernelHost]

def transcriptParts (domain : String) (record : Recovery.RecoveryRecord) : List (List UInt8) :=
  [utf8 domain, KernelHost.toVec record]

theorem transcript_eq_flatMap {domain : String} {record : Recovery.RecoveryRecord} :
    transcript domain record = (transcriptParts domain record).flatMap (Prefixed.framed u64BeBytes) := by
  simp [transcript, transcriptParts, lengthPrefixed, Prefixed.framed]

/-- Both parts of a transcript have a length that is a `u64`. -/
def TranscriptInRange (domain : String) (record : Recovery.RecoveryRecord) : Prop :=
  ∀ part ∈ transcriptParts domain record, part.length < 2 ^ 64

/-- **A transcript says its domain and its record's bytes.** -/
theorem transcript_injective {domain domain' : String} {record record' : Recovery.RecoveryRecord}
    (h : TranscriptInRange domain record) (h' : TranscriptInRange domain' record')
    (heq : transcript domain record = transcript domain' record') :
    domain = domain' ∧ KernelHost.toVec record = KernelHost.toVec record' := by
  rw [transcript_eq_flatMap, transcript_eq_flatMap] at heq
  have hlist := u64Header.flatMap_inj h h' heq
  simp only [transcriptParts, List.cons.injEq, and_true] at hlist
  exact ⟨utf8_injective hlist.1, hlist.2⟩

/-- **No administrator's message is a transcript**: seven parts are not two. -/
theorem adminSignedMessage_ne_transcript {parts : AdminSignedMessageParts} {domain : String} {record : Recovery.RecoveryRecord}
    (h : parts.InRange) (h' : TranscriptInRange domain record) : adminSignedMessage parts ≠ transcript domain record := by
  intro heq
  rw [transcript_eq_flatMap] at heq
  have hlist := u64Header.flatMap_inj h.lengths h' heq
  simp [AdminSignedMessageParts.list, transcriptParts] at hlist

end Transcripts

/-! ## Nonces -/

section Nonces

variable [LedgerHost] {entries l : List MctObservationLedgerEntry} {e : MctObservationLedgerEntry}
  {replay replay' : AuthorityReplayV1} {usedEpochs usedEpochs' : TextSet} {prev : Option (Nat × String)}

/-- The nonces of a canonical fact: the birth's own signature, and the signatures of a mutation's changes in order. -/
def CanonicalFact.nonces : CanonicalFact → List (String × Nat)
  | .adminGenesis fact => [(fact.request.signature.signerGrantId, fact.request.signature.nonce)]
  | .authorityMutation fact => changeNonces fact.changes
  | _ => []

def signedNonces (entries : List MctObservationLedgerEntry) : List (String × Nat) :=
  (entries.filterMap factOf).flatMap CanonicalFact.nonces

structure NoncesSpent (entries : List MctObservationLedgerEntry) (replay : AuthorityReplayV1) : Prop where
  used : ∀ nonce, nonce ∈ replay.adminSignatureNonces ↔ nonce ∈ signedNonces entries
  once : (signedNonces entries).Nodup
  unborn : replay.currentAuthority = none → replay.adminSignatureNonces = ∅

/-- **A verified change list** uses no nonce twice and none that was used. -/
theorem verifyAdminChangeSignaturesFrom_nonces {prior : AuthorityStateV1} {used seen : Finset (String × Nat)}
    {motherNodeId ledgerId : String} {changes : List AuthorityChangeV1}
    (h : verifyAdminChangeSignaturesFrom prior used motherNodeId ledgerId seen changes = .ok ()) :
    (changeNonces changes).Nodup ∧ ∀ nonce ∈ changeNonces changes, nonce ∉ used ∧ nonce ∉ seen := by
  induction changes generalizing seen with
  | nil => exact ⟨List.nodup_nil, fun nonce hnonce => (by cases hnonce)⟩
  | cons ch changes ih =>
    cases hsig : changeSignature ch with
    | none =>
      have hnonces : changeNonces (ch :: changes) = changeNonces changes := by
        simp [changeNonces, hsig]
      simp only [verifyAdminChangeSignaturesFrom, hsig] at h
      rw [hnonces]
      exact ih h
    | some sig =>
      have hnonces : changeNonces (ch :: changes) =
          (sig.signerGrantId, sig.nonce) :: changeNonces changes := by
        simp [changeNonces, hsig]
      simp only [verifyAdminChangeSignaturesFrom, hsig, bind_ok, exists_unit] at h
      obtain ⟨hone, hrest⟩ := h
      simp only [verifyAdminChangeSignature, bind_ok, exists_unit, deny_ok, Bool.or_eq_false_iff,
        decide_eq_false_iff_not] at hone
      obtain ⟨-, -, hfresh, -⟩ := hone
      obtain ⟨hnodup, hlater⟩ := ih hrest
      rw [hnonces]
      refine ⟨List.nodup_cons.2 ⟨fun hmem => ?_, hnodup⟩, fun nonce hnonce => ?_⟩
      · exact (hlater _ hmem).2 (Finset.mem_insert_self _ _)
      · rcases List.mem_cons.1 hnonce with rfl | hnonce
        · exact hfresh
        · obtain ⟨hused, hseen⟩ := hlater nonce hnonce
          exact ⟨hused, fun hmem => hseen (Finset.mem_insert_of_mem hmem)⟩

theorem genesis_nonce {req : AdminGenesisRequestV1} (h : req.validate = .ok ()) :
    req.signature.signerGrantId = req.intent.root.grantId ∧ req.signature.nonce = 0 := by
  simp only [AdminGenesisRequestV1.validate, bind_ok, exists_unit, deny_ok, AdminGenesisRequestV1.malformed,
    Bool.or_eq_false_iff, decide_eq_false_iff_not, not_not] at h
  obtain ⟨⟨⟨⟨⟨-, hsign⟩, hnonce⟩, -⟩, -⟩, -⟩ := h
  exact ⟨hsign, hnonce⟩

/-- **An accepted fact spends its nonces**: they are new, and the replay has them afterwards. -/
theorem ReplayStep.nonces {fact : CanonicalFact} (h : ReplayStep replay e replay' fact)
    (hunborn : replay.currentAuthority = none → replay.adminSignatureNonces = ∅) :
    fact.nonces.Nodup ∧ (∀ nonce ∈ fact.nonces, nonce ∉ replay.adminSignatureNonces) ∧
      (∀ nonce, nonce ∈ replay'.adminSignatureNonces ↔ nonce ∈ replay.adminSignatureNonces ∨ nonce ∈ fact.nonces) ∧
      replay'.currentAuthority ≠ none := by
  cases h with
  | passkey fact identity next ht hrep =>
    subst hrep
    simp [CanonicalFact.nonces, AuthorityReplayV1.afterPasskey]
  | genesis fact hv hempty hnone hrep =>
    subst hrep
    obtain ⟨hsign, hnonce⟩ := genesis_nonce hv
    simp [CanonicalFact.nonces, AuthorityReplayV1.afterGenesis, hunborn hnone, hsign, hnonce]
  | epoch fact hash hhash hrep =>
    subst hrep
    simp [CanonicalFact.nonces, AuthorityReplayV1.afterEpoch]
  | mutation fact resulting hv hrep =>
    subst hrep
    obtain ⟨_, _, _, _, -, -, -, hsigned, -⟩ := validateAuthorityMutationFact_ok.mp hv
    obtain ⟨hnodup, hfresh⟩ := verifyAdminChangeSignaturesFrom_nonces hsigned
    refine ⟨hnodup, fun nonce hnonce => (hfresh nonce hnonce).1, fun nonce => ?_, Option.some_ne_none _⟩
    exact mem_recordAdminSignatureNonces
  | «import» fact hv honce hmutation hrep =>
    subst hrep
    simp [CanonicalFact.nonces, AuthorityReplayV1.afterImport]

theorem signedNonces_snoc : signedNonces (l ++ [e]) =
    signedNonces l ++ ((factOf e).map CanonicalFact.nonces).getD [] := by
  unfold signedNonces
  rw [List.filterMap_append, List.flatMap_append]
  cases hfact : factOf e with
  | none => simp [hfact]
  | some fact => simp [hfact]

theorem NoncesSpent.step (h : NoncesSpent l replay)
    (hfold : foldAuthorityEntry replay usedEpochs prev e = .ok (replay', usedEpochs')) :
    NoncesSpent (l ++ [e]) replay' := by
  obtain ⟨hnone, rfl⟩ | ⟨fact, middle, env, pl, hfact, step, rfl⟩ := foldAuthorityEntry_replay hfold
  · have hsame : signedNonces (l ++ [e]) = signedNonces l := by
      rw [signedNonces_snoc, hnone]
      exact List.append_nil _
    exact ⟨hsame ▸ h.used, hsame ▸ h.once, h.unborn⟩
  · have hgrown : signedNonces (l ++ [e]) = signedNonces l ++ fact.nonces := by
      rw [signedNonces_snoc, hfact]
      rfl
    obtain ⟨hnodup, hfresh, hspent, hborn⟩ := step.nonces h.unborn
    refine ⟨fun nonce => ?_, ?_, fun hnone => absurd hnone hborn⟩
    · rw [hgrown, List.mem_append, ← h.used]
      exact hspent nonce
    · rw [hgrown]
      refine h.once.append hnodup fun nonce hold hnew => ?_
      exact hfresh nonce hnew ((h.used nonce).2 hold)

theorem Replayed.noncesSpent (h : Replayed entries replay usedEpochs) : NoncesSpent entries replay := by
  refine h.induction (fun l r _ => NoncesSpent l r) ⟨fun nonce => ?_, List.nodup_nil, fun _ => rfl⟩ ?_
  · exact ⟨fun hmem => absurd hmem (Finset.notMem_empty nonce), fun hmem => (by cases hmem)⟩
  · intro l e r u r' u' _ hspent hfold
    exact hspent.step hfold

/-- **A signature counts once and for one message**: in an accepted ledger no nonce of a grant is signed twice, and the
signed bytes say what was signed. -/
theorem signatures_single_use (h : replayAuthorityEntries entries = .ok replay) :
    (signedNonces entries).Nodup ∧
    (∀ parts parts' : AdminSignedMessageParts, parts.InRange → parts'.InRange → parts ≠ parts' →
      adminSignedMessage parts ≠ adminSignedMessage parts') ∧
    (∀ domain domain' record record', TranscriptInRange domain record → TranscriptInRange domain' record' →
      (domain, KernelHost.toVec record) ≠ (domain', KernelHost.toVec record') →
      transcript domain record ≠ transcript domain' record') ∧
    ∀ parts domain record, AdminSignedMessageParts.InRange parts → TranscriptInRange domain record →
      adminSignedMessage parts ≠ transcript domain record := by
  obtain ⟨usedEpochs, h⟩ := replayAuthorityEntries_ok.mp h
  refine ⟨h.noncesSpent.once, fun parts parts' hparts hparts' hne heq => ?_,
    fun domain domain' record record' hrange hrange' hne heq => ?_,
    fun parts domain record hparts hrange => adminSignedMessage_ne_transcript hparts hrange⟩
  · exact hne (adminSignedMessage_injective hparts hparts' heq)
  · obtain ⟨hdom, hrec⟩ := transcript_injective hrange hrange' heq
    exact hne (Prod.ext hdom hrec)

end Nonces

namespace AdminSample

/-! ### The root and the manager each sign one issuance -/

theorem written_nonces {l m : List MctObservationLedgerEntry} {fact : AuthorityMutationFactV1} {at_ : Timestamp} :
    signedNonces (l ++ [nextEntry m (fact.observation at_) at_]) = signedNonces l ++ changeNonces fact.changes := by
  rw [signedNonces_snoc, (factOf_encoded strictHost_serde rfl).trans (ofBody_mutation strictHost_serde fact)]
  rfl

theorem workedLedger_nonces : signedNonces workedLedger = [("root", 0), ("root", 1), ("manager", 1)] := by
  have hborn : signedNonces bornLedger = [("root", 0)] := by
    rw [bornLedger, ← List.nil_append [nextEntry [] birth.observation (second 0)], signedNonces_snoc,
      (factOf_encoded strictHost_serde rfl).trans (ofBody_genesis strictHost_serde birth)]
    rfl
  rw [workedLedger, written_nonces, managedLedger, written_nonces, hborn]
  rfl

def partsAt (nonce : Nat) : AdminSignedMessageParts := ⟨.ed25519MlDsa65V1, "m", "l", nonce, [1], [2]⟩

theorem worked_signatures_single_use : ∃ replay, replayAuthorityEntries workedLedger = .ok replay ∧
    signedNonces workedLedger = [("root", 0), ("root", 1), ("manager", 1)] ∧ (signedNonces workedLedger).Nodup ∧
    adminSignedMessage (partsAt 0) ≠ adminSignedMessage (partsAt 1) ∧
    transcript "mct-voice-genesis/v1" (.genesisKey (key 0)) ≠ transcript "mct-guardian-policy/v1" (.genesisKey (key 0)) ∧
    adminSignedMessage (partsAt 0) ≠ transcript "mct-voice-genesis/v1" (.genesisKey (key 0)) := by
  obtain ⟨replay, h⟩ := workedLedger_replays
  obtain ⟨honce, hparts, htranscripts, hapart⟩ := signatures_single_use h.accepted
  have hzero : (partsAt 0).InRange := ⟨by decide, by decide⟩
  have hone : (partsAt 1).InRange := ⟨by decide, by decide⟩
  have hgenesis : TranscriptInRange "mct-voice-genesis/v1" (.genesisKey (key 0)) := by
    unfold TranscriptInRange
    decide +kernel
  have hpolicy : TranscriptInRange "mct-guardian-policy/v1" (.genesisKey (key 0)) := by
    unfold TranscriptInRange
    decide +kernel
  refine ⟨replay, h.accepted, workedLedger_nonces, honce, hparts _ _ hzero hone ?_, htranscripts _ _ _ _ hgenesis hpolicy ?_,
    hapart _ _ _ hzero hgenesis⟩
  · intro heq
    cases congrArg AdminSignedMessageParts.nonce heq
  · intro heq
    exact absurd (congrArg Prod.fst heq) (by decide)

end AdminSample

end Mct
