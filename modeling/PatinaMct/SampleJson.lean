import PatinaMct.Facts
/-!
# SampleJson — the JSON of a ledger entry

The text that `serde_json` writes for an entry, with the proof that the text is one line and tells the entry
(`entryJson_inj`), and the countability of every type of the ledger, from which a concrete host takes its writers for
the values that no Rust type holds.
-/
namespace Mct

open Recovery

/-! ## Countable values -/

instance charCountable : Countable Char := Function.Injective.countable fun _ _ h => Char.toNat_inj.mp h

instance stringCountable : Countable String := Function.Injective.countable fun _ _ h => String.toList_inj.mp h

instance {record : String} : Countable (StringId record) :=
  Function.Injective.countable (f := StringId.value) fun _ _ h => StringId.ext h

instance vectorCountable {α : Type} [Countable α] {n : Nat} : Countable (Vector α n) :=
  Function.Injective.countable (f := Vector.toList) fun _ _ h => Vector.toList_inj.mp h

instance {V : Type} [Countable V] : Countable (TextMap V) := TextMap.toList_injective.countable

instance : Countable TextSet :=
  Function.Injective.countable (f := Std.ExtTreeSet.toList) fun _ _ h => by
    apply Std.ExtTreeSet.ext_mem
    intro key
    rw [← Std.ExtTreeSet.mem_toList, h, Std.ExtTreeSet.mem_toList]

instance : Countable CanonicalFileRoot :=
  Function.Injective.countable (f := CanonicalFileRoot.value) fun a b h => by cases a; cases b; cases h; rfl

deriving instance Countable for Timestamp, Ed25519VerifyingKey, AdminKeyPublicHalf, MlDsa65PublicKey

deriving instance Countable for RecoveryPublicKeyV1, RecoverySignatureV1, VoiceIdV1, RecoveryDigestV1, VoiceGenesisV1,
  OwnerBindingV1, RecoveryGuardianV1, GuardianRecoveryPolicyV1, RecoveryIntentV1, RecoveryRequestV1,
  RecoveryApprovalPurposeV1, GuardianRecoveryApprovalV1, GuardianEnrollmentV1, RecoveryClockV1, RecoveryChallengeV1,
  PendingGuardianRecoveryV1, GuardianPolicyEditV1, GuardianPolicyAcceptanceV1, GuardianPolicyProposalV1,
  GuardianPolicyApprovalPurposeV1, PendingGuardianPolicyV1, GuardianPolicyStateV1, GuardianRecoveryStateV1,
  GuardianRecoveryActionV1, GuardianRecoveryCommandV1

deriving instance Countable for AdminKeyScopeV1, AdminKeyGrantClassV1, AdminKeyGrantStateV1, AdminKeySchemeV1,
  AdminIssuanceCeilingV1, AdminKeyGrantV1, AdminSignatureSchemeV1, AdminSignatureV1

deriving instance Countable for ToyContractIdentity, CanonicalToyContract, ToyGrantSubject, ToyGrantScope,
  ToyGrantConstraints, ToyGrantState, ToyGrant, WatchObserverShape, WatchScopeMode, WatchTraversalScope,
  WatchEventClass, WatchCoalescingPolicy, WatchObservationScopeState, WatchObserverRef

instance : Countable WatchEventClasses :=
  Function.Injective.countable (f := WatchEventClasses.classes) fun a b h => by cases a; cases b; cases h; rfl

instance pnatCountable : Countable ℕ+ := Function.Injective.countable PNat.coe_injective

deriving instance Countable for WatchObservationScope

instance : Countable ObservationKind :=
  Function.Injective.countable (f := ObservationKind.ctorIdx) (Function.LeftInverse.injective ObservationKind.ofNat_ctorIdx)

deriving instance Countable for ObservationTraceRef, SourcePlane, ObservationOutcome,
  ObservationVisibility, MctObservation, DurabilityClass, ExportStatus, MctObservationLedgerEntry

deriving instance Countable for GrantsAuthorityIdentityV1, AuthorityEpochPredecessorV1, AuthorityStartupClassV1,
  WriterTenureEstablishmentV1, EpochEstablishedFactV1, GrantShapingCommandKindV1, GrantShapingSourceV1,
  PairingTicketStateV1, PairingTicketV1, PairingTicketAdmissionV1, AuthorityStateReferenceV1, AdminKeyIssueIntentV1,
  AdminKeyIssueRequestV1, AdminKeyIssuanceRecordV1, AdminGenesisIntentV1, AdminGenesisRequestV1, AdminGenesisFactV1,
  AuthorityChangeV1, AuthorityMutationFactV1

deriving instance Countable for WebAuthnP256DayKeyV1, Ed25519DayKeyV1, PasskeyAdminActionV1, PasskeyAdminIntentV1,
  DayKeyAdminProofV1, PasskeyAdminRequestV1, PasskeyAdminStateV1, PasskeyAdminFactV1, PasskeyAdminCanonicalV1,
  AuthorityStateV1, LegacyImportOperatorDecisionV1, LegacyImportSourceEvidenceV1, LegacyAuthorityImportFactV1, Json,
  CanonicalAuthorityEnvelopeV1

end Mct

namespace Mct.Sample

/-! ## JSON text -/

/-- What `serde_json` writes after the backslash of a control character. -/
def control (n : Nat) : List Char :=
  if n = 8 then ['b'] else if n = 9 then ['t'] else if n = 10 then ['n'] else if n = 12 then ['f'] else
  if n = 13 then ['r'] else ['u', '0', '0', Nat.digitChar (n / 16), Nat.digitChar (n % 16)]

def escape (c : Char) : List Char :=
  if c.toNat < 32 then '\\' :: control c.toNat else if c = '"' ∨ c = '\\' then ['\\', c] else [c]

def jsonString (s : String) : List Char := '"' :: (s.toList.flatMap escape ++ ['"'])

def jsonNat (n : Nat) : List Char := Nat.toDigits 10 n

def jsonBool (b : Bool) : List Char := if b then ['t', 'r', 'u', 'e'] else ['f', 'a', 'l', 's', 'e']

def jsonOption {α : Type} (write : α → List Char) : Option α → List Char
  | none => ['n', 'u', 'l', 'l']
  | some a => write a

def commas : List (List Char) → List Char
  | [] => []
  | [part] => part
  | part :: parts => part ++ ',' :: commas parts

abbrev Members := List (String × List Char)

def jsonMember (member : String × List Char) : List Char := jsonString member.1 ++ ':' :: member.2

def jsonObject (members : Members) : List Char :=
  '\x7b' :: (commas (members.map jsonMember) ++ ['\x7d'])

def jsonArray (values : List (List Char)) : List Char := '[' :: (commas values ++ [']'])

def present {α : Type} (name : String) (write : α → List Char) (value : Option α) : Members :=
  value.toList.map fun a => (name, write a)

def bytes (cs : List Char) : List UInt8 := cs.flatMap String.utf8EncodeChar

/-! ### A JSON text is one line -/

theorem escape_line (c : Char) : '\n' ∉ escape c := by
  have hcontrol : ∀ n < 32, '\n' ∉ control n := by decide
  unfold escape
  split_ifs with hlow hquote
  · simpa using hcontrol _ hlow
  · rcases hquote with rfl | rfl <;> decide
  · rw [List.mem_singleton]
    rintro rfl
    exact hlow (by decide)

@[simp] theorem jsonString_line (s : String) : '\n' ∉ jsonString s := by
  simp only [jsonString, List.mem_cons, List.mem_append, List.mem_flatMap, List.not_mem_nil, or_false, not_or]
  exact ⟨by decide, fun ⟨c, _, h⟩ => escape_line c h, by decide⟩

@[simp] theorem jsonNat_line (n : Nat) : '\n' ∉ jsonNat n := fun h =>
  absurd (Nat.isDigit_of_mem_toDigits (by decide) (by decide) h) (by decide)

@[simp] theorem jsonOption_line {α : Type} {write : α → List Char} (h : ∀ a, '\n' ∉ write a) (o : Option α) :
    '\n' ∉ jsonOption write o := by
  cases o with
  | none => simp [jsonOption]
  | some a => exact h a

theorem commas_line {parts : List (List Char)} (h : ∀ part ∈ parts, '\n' ∉ part) : '\n' ∉ commas parts := by
  induction parts with
  | nil => exact List.not_mem_nil
  | cons part parts ih =>
    cases parts with
    | nil => exact h part List.mem_cons_self
    | cons next parts =>
      simp only [commas, List.mem_append, List.mem_cons, not_or]
      exact ⟨h part List.mem_cons_self, by decide, ih fun p hp => h p (List.mem_cons_of_mem _ hp)⟩

@[simp] theorem jsonObject_line {members : Members} (h : ∀ m ∈ members, '\n' ∉ m.2) :
    '\n' ∉ jsonObject members := by
  simp only [jsonObject, List.mem_cons, List.mem_append, List.not_mem_nil, or_false, not_or]
  refine ⟨by decide, commas_line ?_, by decide⟩
  intro part hp
  obtain ⟨m, hm, rfl⟩ := List.mem_map.mp hp
  simp only [jsonMember, List.mem_append, List.mem_cons, not_or]
  exact ⟨jsonString_line _, by decide, h m hm⟩

theorem toNat_of_mem_utf8EncodeChar {c : Char} {b : UInt8} (h : b ∈ String.utf8EncodeChar c) (hb : b.toNat < 128) :
    c.toNat = b.toNat := by
  unfold String.utf8EncodeChar at h
  simp only at h
  show c.val.toNat = b.toNat
  split_ifs at h <;>
    simp only [List.mem_cons, List.not_mem_nil, or_false] at h <;>
    rcases h with rfl | rfl | rfl | rfl <;>
    simp only [UInt8.toNat_ofNat'] at hb ⊢ <;> omega

theorem bytes_line {cs : List Char} (h : '\n' ∉ cs) : 10 ∉ bytes cs := by
  intro hm
  obtain ⟨c, hc, hb⟩ := List.mem_flatMap.mp hm
  have : c = '\n' := Char.toNat_inj.mp (toNat_of_mem_utf8EncodeChar hb (by decide))
  exact h (this ▸ hc)

/-! ### Where a JSON text ends -/

theorem control_whole {m n : Nat} (hm : m < 32) (hn : n < 32) {x y : List Char}
    (h : control m ++ x = control n ++ y) : m = n := by
  have hcodes : ∀ m < 32, ∀ n < 32, control m <+: control n → m = n := by decide +kernel
  rcases List.prefix_or_prefix_of_prefix ⟨x, h⟩ (List.prefix_append (control n) y) with hpre | hpre
  · exact hcodes m hm n hn hpre
  · exact (hcodes n hn m hm hpre).symm

theorem escape_append_inj {c d : Char} {x y : List Char} (h : escape c ++ x = escape d ++ y) : c = d ∧ x = y := by
  have hcode : ∀ n < 32, (control n).head? ≠ some '"' ∧ (control n).head? ≠ some '\\' := by decide
  have hplain : ∀ n < 32, ∀ (e : Char) (z w : List Char), e = '"' ∨ e = '\\' → control n ++ z ≠ e :: w := by
    intro n hn e z w he heq
    have hne : control n ≠ [] := by
      unfold control
      split_ifs <;> simp
    have hhead : (control n).head? = some e := by
      rw [← List.head?_append_of_ne_nil _ hne, heq]
      rfl
    rcases he with rfl | rfl
    · exact (hcode n hn).1 hhead
    · exact (hcode n hn).2 hhead
  unfold escape at h
  split_ifs at h with hc hd hd' hc' hd hd' hd hd' <;> simp only [List.cons_append, List.nil_append, List.cons.injEq] at h
  · obtain ⟨-, h⟩ := h
    have hsame := control_whole hc hd h
    rw [hsame, List.append_cancel_left_eq] at h
    exact ⟨Char.toNat_inj.mp hsame, h⟩
  · exact absurd h.2 (hplain _ hc _ _ _ hd')
  · exact absurd (.inr h.1.symm) hd'
  · exact absurd h.2.symm (hplain _ hd _ _ _ hc')
  · exact h.2
  · exact absurd (.inr h.1.symm) hd'
  · exact absurd (.inr h.1) hc'
  · exact absurd (.inr h.1) hc'
  · exact h

theorem quote_ne_escape (c : Char) (x y : List Char) : '"' :: x ≠ escape c ++ y := by
  intro h
  unfold escape at h
  split_ifs at h with hlow hquote
  · cases h
  · cases h
  · exact hquote (.inl (List.cons.inj h).1.symm)

theorem escaped_append_inj {cs ds x y : List Char}
    (h : cs.flatMap escape ++ '"' :: x = ds.flatMap escape ++ '"' :: y) : cs = ds ∧ x = y := by
  induction cs generalizing ds with
  | nil =>
    cases ds with
    | nil => simpa using h
    | cons d ds =>
      rw [List.flatMap_cons, List.append_assoc] at h
      exact absurd h (quote_ne_escape d _ _)
  | cons c cs ih =>
    cases ds with
    | nil =>
      rw [List.flatMap_cons, List.append_assoc] at h
      exact absurd h.symm (quote_ne_escape c _ _)
    | cons d ds =>
      rw [List.flatMap_cons, List.flatMap_cons, List.append_assoc, List.append_assoc] at h
      obtain ⟨rfl, htail⟩ := escape_append_inj h
      obtain ⟨rfl, hrest⟩ := ih htail
      exact ⟨rfl, hrest⟩

/-- **A string tells where it ends.** -/
theorem jsonString_append_inj {s t : String} {x y : List Char} (h : jsonString s ++ x = jsonString t ++ y) :
    s = t ∧ x = y := by
  simp only [jsonString, List.cons_append, List.cons.injEq, true_and, List.append_assoc, List.nil_append] at h
  obtain ⟨hs, hx⟩ := escaped_append_inj h
  exact ⟨String.toList_inj.mp hs, hx⟩

/-- What stands after a value does not go on with it. -/
def Stops (x : List Char) : Prop := ∀ c ∈ x.head?, c.isDigit = false

/-- **Neither text goes on where the other one ends.** -/
def Whole (u v : List Char) : Prop := ∀ x y, Stops x → Stops y → u ++ x = v ++ y → u = v

theorem stops_cons {c : Char} {x : List Char} (h : c.isDigit = false) : Stops (c :: x) := by simpa [Stops] using h

theorem Whole.cancel {u v x y : List Char} (h : Whole u v) (hx : Stops x) (hy : Stops y) (heq : u ++ x = v ++ y) :
    u = v ∧ x = y := by
  obtain rfl := h x y hx hy heq
  exact ⟨rfl, List.append_cancel_left heq⟩

@[simp] theorem whole_string (s t : String) : Whole (jsonString s) (jsonString t) := by
  intro x y _ _ h
  rw [(jsonString_append_inj h).1]

theorem digits_takeWhile (n : Nat) {x : List Char} (hx : Stops x) : (jsonNat n ++ x).takeWhile Char.isDigit = jsonNat n := by
  have hdigits : ∀ c ∈ jsonNat n, c.isDigit = true := fun c hc =>
    Nat.isDigit_of_mem_toDigits (by decide) (by decide) hc
  rw [List.takeWhile_append_of_pos hdigits]
  cases x with
  | nil => simp
  | cons c x => simp [hx c rfl]

@[simp] theorem whole_nat (m n : Nat) : Whole (jsonNat m) (jsonNat n) := by
  intro x y hx hy h
  rw [← digits_takeWhile m hx, h, digits_takeWhile n hy]

theorem whole_option {α : Type} {write : α → List Char} (hw : ∀ a b, Whole (write a) (write b))
    (hnull : ∀ a x y, write a ++ x ≠ 'n' :: y) (o o' : Option α) : Whole (jsonOption write o) (jsonOption write o') := by
  intro x y hx hy h
  cases o with
  | none =>
    cases o' with
    | none => rfl
    | some b => exact absurd h.symm (hnull b y _)
  | some a =>
    cases o' with
    | none => exact absurd h (hnull a x _)
    | some b => exact hw a b x y hx hy h

theorem string_ne_null (s : String) (x y : List Char) : jsonString s ++ x ≠ 'n' :: y := by simp [jsonString]

theorem nat_ne_null (n : Nat) (x y : List Char) : jsonNat n ++ x ≠ 'n' :: y := by
  intro h
  cases hd : jsonNat n with
  | nil => exact absurd hd Nat.toDigits_ne_nil
  | cons c cs =>
    have hc : c.isDigit = true := Nat.isDigit_of_mem_toDigits (by decide) (by decide) (hd ▸ List.mem_cons_self)
    rw [hd, List.cons_append] at h
    rw [(List.cons.inj h).1] at hc
    cases hc

theorem commas_whole {us vs : List (List Char)} (h : List.Forall₂ Whole us vs) {x y : List Char} (hx : Stops x)
    (hy : Stops y) (heq : commas us ++ x = commas vs ++ y) : us = vs ∧ x = y := by
  induction h with
  | nil => exact ⟨rfl, heq⟩
  | @cons u v us vs hfirst hrest ih =>
    cases hrest with
    | nil =>
      obtain ⟨rfl, hxy⟩ := hfirst.cancel hx hy heq
      exact ⟨rfl, hxy⟩
    | @cons u' v' us' vs' hnext hrest =>
      simp only [commas, List.append_assoc, List.cons_append] at heq
      obtain ⟨rfl, htail⟩ := hfirst.cancel (stops_cons rfl) (stops_cons rfl) heq
      obtain ⟨hsame, hxy⟩ := ih (List.cons.inj htail).2
      rw [hsame]
      exact ⟨rfl, hxy⟩

/-- Two members of one name whose values end where they end. -/
def Alike (m m' : String × List Char) : Prop := m.1 = m'.1 ∧ Whole m.2 m'.2

@[simp] theorem alike_iff {name name' : String} {v v' : List Char} :
    Alike (name, v) (name', v') ↔ name = name' ∧ Whole v v' := Iff.rfl

variable {ms ms' : Members}

theorem members_whole (h : List.Forall₂ Alike ms ms') :
    List.Forall₂ Whole (ms.map jsonMember) (ms'.map jsonMember) := by
  rw [List.forall₂_map_left_iff, List.forall₂_map_right_iff]
  refine h.imp fun m m' hm x y hx hy heq => ?_
  obtain ⟨hname, hvalue⟩ := hm
  simp only [jsonMember, hname, List.append_assoc, List.append_cancel_left_eq, List.cons_append, List.cons.injEq,
    true_and] at heq ⊢
  exact hvalue x y hx hy heq

theorem members_eq (h : List.Forall₂ Alike ms ms')
    (heq : ms.map jsonMember = ms'.map jsonMember) : ms = ms' := by
  induction h with
  | nil => rfl
  | cons hm _ ih =>
    obtain ⟨hfirst, hrest⟩ := List.cons.inj heq
    rw [ih hrest]
    simp only [jsonMember, hm.1, List.append_cancel_left_eq, List.cons.injEq, true_and] at hfirst
    rw [Prod.ext hm.1 hfirst]

/-- **An object tells its members**, when those of each name tell where they end. -/
theorem jsonObject_members (h : List.Forall₂ Alike ms ms') {x y : List Char}
    (heq : jsonObject ms ++ x = jsonObject ms' ++ y) : ms = ms' := by
  simp only [jsonObject, List.cons_append, List.append_assoc, List.cons.injEq, true_and, List.nil_append] at heq
  exact members_eq h (commas_whole (members_whole h) (stops_cons rfl) (stops_cons rfl) heq).1

theorem jsonObject_inj (h : List.Forall₂ Alike ms ms')
    (heq : jsonObject ms = jsonObject ms') : ms = ms' :=
  jsonObject_members (x := []) (y := []) h (congrArg (· ++ []) heq)

@[simp] theorem whole_object (h : List.Forall₂ Alike ms ms') :
    Whole (jsonObject ms) (jsonObject ms') := by
  intro x y _ _ heq
  rw [jsonObject_members h heq]

@[simp] theorem jsonString_inj {s t : String} : jsonString s = jsonString t ↔ s = t :=
  ⟨fun h => (jsonString_append_inj (congrArg (· ++ []) h)).1, fun h => h ▸ rfl⟩

@[simp] theorem jsonNat_inj {m n : Nat} : jsonNat m = jsonNat n ↔ m = n :=
  ⟨fun h => by rw [← Nat.ofDigitChars_ten_toDigits (n := m), ← Nat.ofDigitChars_ten_toDigits (n := n)]; exact congrArg _ h,
    fun h => h ▸ rfl⟩

theorem jsonOption_injective {α : Type} {write : α → List Char} (hw : Function.Injective write)
    (hnull : ∀ a x y, write a ++ x ≠ 'n' :: y) : Function.Injective (jsonOption write) := by
  intro o o' h
  cases o with
  | none =>
    cases o' with
    | none => rfl
    | some b => exact absurd ((List.append_nil _).trans h.symm) (hnull b [] _)
  | some a =>
    cases o' with
    | none => exact absurd ((List.append_nil _).trans h) (hnull a [] _)
    | some b => exact congrArg some (hw h)

/-! ## Enumerations -/

/-- The name of a constructor; the names stand in the order of the constructors. -/
def nameOf (names : List String) (index : Nat) : List Char := jsonString (names.getD index "")

theorem nameOf_injective {α : Type} {names : List String} {index : α → Nat} {value : Nat → α}
    (hindex : Function.LeftInverse value index) (hnames : names.Nodup) (hlt : ∀ a, index a < names.length) :
    Function.Injective fun a => nameOf names (index a) := by
  intro a b h
  apply hindex.injective
  simp only [nameOf, jsonString_inj, List.getD_eq_getElem _ _ (hlt a), List.getD_eq_getElem _ _ (hlt b)] at h
  exact (List.Nodup.getElem_inj_iff hnames).mp h

def kindNames : List String :=
  ["call_received", "call_rejected", "call_constructed", "call_authorized", "call_denied", "candidate_considered",
  "candidate_eliminated", "route_selected", "no_route_recorded", "route_revalidated", "result_recorded",
  "artifact_verified", "artifact_rejected", "child_approved", "child_revoked", "child_assigned",
  "child_assignment_revoked", "child_instance_loading", "child_instance_ready", "child_instance_degraded",
  "child_instance_draining", "child_instance_stopped", "child_instance_failed", "child_invoked", "toy_grant_allowed",
  "toy_grant_denied", "toy_grant_expired", "toy_grant_revoked", "toy_call_started", "toy_call_completed",
  "toy_call_failed", "data_movement_allowed", "data_movement_denied", "secret_access_allowed",
  "secret_access_denied", "peer_connected", "peer_hello_received", "peer_protocol_negotiated",
  "peer_hello_responded", "peer_binding_recorded", "peer_binding_revoked", "peer_binding_expired", "peer_admitted",
  "peer_rejected", "peer_call_sent", "peer_call_received", "peer_call_malformed", "peer_call_replied",
  "peer_stream_opened", "peer_stream_reset", "iroh_path_observed", "runtime_execution_started",
  "runtime_execution_completed", "runtime_execution_failed", "runtime_execution_trapped",
  "runtime_execution_timed_out", "adapter_effect_started", "adapter_effect_completed", "adapter_effect_failed",
  "storage_append_succeeded", "storage_append_failed", "observation_backpressure_applied",
  "lifecycle_transition_recorded", "node_health_reported", "operator_action_recorded", "telemetry_exported"]

def kindJson (kind : ObservationKind) : List Char := nameOf kindNames kind.ctorIdx

def planeJson (plane : SourcePlane) : List Char :=
  nameOf ["kernel", "adapter", "peer", "child", "toy", "storage", "operator"] plane.ctorIdx

def outcomeJson (outcome : ObservationOutcome) : List Char :=
  nameOf ["allowed", "denied", "started", "completed", "failed", "timed_out", "cancelled", "informational"] outcome.ctorIdx

def visibilityJson (visibility : ObservationVisibility) : List Char :=
  nameOf ["caller_safe", "vision_operator", "node_operator", "system_operator", "internal_only"] visibility.ctorIdx

def durabilityJson (durability : DurabilityClass) : List Char :=
  nameOf ["before_effect", "buffered", "projection_only"] durability.ctorIdx

def exportJson (status : ExportStatus) : List Char :=
  nameOf ["not_required", "pending", "exported", "failed"] status.ctorIdx

theorem kindJson_injective : Function.Injective kindJson := by
  refine nameOf_injective ObservationKind.ofNat_ctorIdx (by decide +kernel) ?_
  intro kind
  cases kind <;> decide

theorem planeJson_injective : Function.Injective planeJson := by
  refine nameOf_injective SourcePlane.ofNat_ctorIdx (by decide) ?_
  intro plane
  cases plane <;> decide

theorem outcomeJson_injective : Function.Injective outcomeJson := by
  refine nameOf_injective ObservationOutcome.ofNat_ctorIdx (by decide) ?_
  intro outcome
  cases outcome <;> decide

theorem visibilityJson_injective : Function.Injective visibilityJson := by
  refine nameOf_injective ObservationVisibility.ofNat_ctorIdx (by decide) ?_
  intro visibility
  cases visibility <;> decide

theorem durabilityJson_injective : Function.Injective durabilityJson := by
  refine nameOf_injective DurabilityClass.ofNat_ctorIdx (by decide) ?_
  intro durability
  cases durability <;> decide

theorem exportJson_injective : Function.Injective exportJson := by
  refine nameOf_injective ExportStatus.ofNat_ctorIdx (by decide) ?_
  intro status
  cases status <;> decide

/-! ## Entries -/

def idJson {record : String} (id : StringId record) : List Char := jsonString id.value

def timeJson (time : Timestamp) : List Char := jsonString time.value

def traceMembers (trace : ObservationTraceRef) : Members :=
  [("trace_id", idJson trace.traceId), ("span_id", jsonOption idJson trace.spanId),
    ("parent_span_id", jsonOption idJson trace.parentSpanId),
    ("external_trace_id", jsonOption jsonString trace.externalTraceId)]

def observationMembers (o : MctObservation) : Members :=
  [("observation_id", idJson o.observationId), ("observed_at", timeJson o.observedAt), ("kind", kindJson o.kind),
    ("source_plane", planeJson o.sourcePlane), ("trace", jsonObject (traceMembers o.trace)),
    ("call_id", jsonOption idJson o.callId), ("decision_id", jsonOption idJson o.decisionId),
    ("subject_id", jsonOption jsonString o.subjectId), ("resource_id", jsonOption jsonString o.resourceId),
    ("policy_revision", jsonOption jsonNat o.policyRevision), ("grants_revision", jsonOption jsonNat o.grantsRevision),
    ("outcome", outcomeJson o.outcome), ("visibility", visibilityJson o.visibility),
    ("safe_message", jsonString o.safeMessage), ("detail_ref", jsonOption jsonString o.detailRef)]

def entryMembers (e : MctObservationLedgerEntry) : Members :=
  [("ledger_id", jsonString e.ledgerId), ("mother_node_id", jsonString e.motherNodeId),
    ("local_sequence", jsonNat e.localSequence), ("observation", jsonObject (observationMembers e.observation)),
    ("previous_entry_hash", jsonOption jsonString e.previousEntryHash), ("entry_hash", jsonString e.entryHash),
    ("appended_at", jsonString e.appendedAt), ("durability_class", durabilityJson e.durabilityClass),
    ("export_status", exportJson e.exportStatus)]

def entryJson (e : MctObservationLedgerEntry) : List Char := jsonObject (entryMembers e)

theorem idJson_injective {record : String} : Function.Injective (@idJson record) := fun _ _ h =>
  StringId.ext (jsonString_inj.mp h)

@[simp] theorem whole_optional (s t : Option String) : Whole (jsonOption jsonString s) (jsonOption jsonString t) :=
  whole_option whole_string string_ne_null s t

@[simp] theorem whole_optionalNat (m n : Option Nat) : Whole (jsonOption jsonNat m) (jsonOption jsonNat n) :=
  whole_option whole_nat nat_ne_null m n

@[simp] theorem whole_optionalId {record : String} (a b : Option (StringId record)) :
    Whole (jsonOption idJson a) (jsonOption idJson b) := by
  have hwhole : ∀ a b : StringId record, Whole (idJson a) (idJson b) := fun a b => whole_string a.value b.value
  have hnull : ∀ (a : StringId record) (x y : List Char), idJson a ++ x ≠ 'n' :: y := fun a => string_ne_null a.value
  exact whole_option hwhole hnull a b

theorem trace_alike (t t' : ObservationTraceRef) : List.Forall₂ Alike (traceMembers t) (traceMembers t') := by
  simp [traceMembers, idJson]

theorem observation_alike (o o' : MctObservation) :
    List.Forall₂ Alike (observationMembers o) (observationMembers o') := by
  simp [observationMembers, idJson, timeJson, kindJson, planeJson, outcomeJson, visibilityJson, nameOf, trace_alike]

theorem entry_alike (e e' : MctObservationLedgerEntry) : List.Forall₂ Alike (entryMembers e) (entryMembers e') := by
  simp [entryMembers, durabilityJson, exportJson, nameOf, observation_alike]

@[simp] theorem optional_inj {s t : Option String} : jsonOption jsonString s = jsonOption jsonString t ↔ s = t :=
  (jsonOption_injective (fun _ _ h => jsonString_inj.mp h) string_ne_null).eq_iff

@[simp] theorem optionalNat_inj {m n : Option Nat} : jsonOption jsonNat m = jsonOption jsonNat n ↔ m = n :=
  (jsonOption_injective (fun _ _ h => jsonNat_inj.mp h) nat_ne_null).eq_iff

@[simp] theorem optionalId_inj {record : String} {a b : Option (StringId record)} :
    jsonOption idJson a = jsonOption idJson b ↔ a = b := by
  have hnull : ∀ (a : StringId record) (x y : List Char), idJson a ++ x ≠ 'n' :: y := fun a => string_ne_null a.value
  exact (jsonOption_injective idJson_injective hnull).eq_iff

theorem traceMembers_injective : Function.Injective traceMembers := by
  intro t t' h
  simp only [traceMembers, List.cons.injEq, Prod.mk.injEq, true_and, and_true, idJson_injective.eq_iff, optionalId_inj,
    optional_inj] at h
  cases t
  cases t'
  exact (ObservationTraceRef.mk.injEq ..).mpr h

theorem observationMembers_injective {o o' : MctObservation}
    (htime : o.observedAt.value = o'.observedAt.value → o.observedAt = o'.observedAt)
    (h : observationMembers o = observationMembers o') : o = o' := by
  simp only [observationMembers, timeJson, List.cons.injEq, Prod.mk.injEq, true_and, and_true, idJson_injective.eq_iff,
    optionalId_inj, optional_inj, optionalNat_inj, jsonString_inj, kindJson_injective.eq_iff,
    planeJson_injective.eq_iff, outcomeJson_injective.eq_iff, visibilityJson_injective.eq_iff] at h
  obtain ⟨hid, hat, hkind, hplane, htrace, hcall, hdecision, hsubject, hresource, hpolicy, hgrants, houtcome, hvisibility,
    hmessage, hdetail⟩ := h
  have hmembers := jsonObject_inj (trace_alike _ _) htrace
  cases o
  cases o'
  simp only [MctObservation.mk.injEq]
  exact ⟨hid, htime hat, hkind, hplane, traceMembers_injective hmembers, hcall, hdecision, hsubject, hresource, hpolicy,
    hgrants, houtcome, hvisibility, hmessage, hdetail⟩

/-- **The line of an entry tells the entry**, where the spelling of its time tells the instant. -/
theorem entryJson_inj {e e' : MctObservationLedgerEntry}
    (htime : e.observation.observedAt.value = e'.observation.observedAt.value →
      e.observation.observedAt = e'.observation.observedAt) (h : entryJson e = entryJson e') : e = e' := by
  have hmembers := jsonObject_inj (entry_alike e e') h
  simp only [entryMembers, List.cons.injEq, Prod.mk.injEq, true_and, and_true, optional_inj, jsonString_inj, jsonNat_inj,
    durabilityJson_injective.eq_iff, exportJson_injective.eq_iff] at hmembers
  obtain ⟨hledger, hmother, hsequence, hobservation, hprevious, hhash, happended, hdurability, hexport⟩ := hmembers
  have hmembers := jsonObject_inj (observation_alike _ _) hobservation
  cases e
  cases e'
  simp only [MctObservationLedgerEntry.mk.injEq]
  exact ⟨hledger, hmother, hsequence, observationMembers_injective htime hmembers, hprevious, hhash, happended, hdurability,
    hexport⟩

theorem entryJson_line (e : MctObservationLedgerEntry) : '\n' ∉ entryJson e := by
  have htrace : '\n' ∉ jsonObject (traceMembers e.observation.trace) := by
    simp [traceMembers, idJson]
  have hobservation : '\n' ∉ jsonObject (observationMembers e.observation) := by
    simp [observationMembers, idJson, timeJson, kindJson, planeJson, outcomeJson, visibilityJson, nameOf, htrace]
  simp [entryJson, entryMembers, durabilityJson, exportJson, nameOf, hobservation]

end Mct.Sample
