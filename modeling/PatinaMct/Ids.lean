import PatinaMct.Checked
/-!
# Ids — identifiers, instants and public keys of the kernel

The `string_id!` family is one type over the record's name; a value carries the proof that it is not blank, so a blank
identifier cannot be built.  A `Timestamp` keeps its spelling and its instant: the code compares and orders instants
and serialises spellings, so `==` and `<` below read the instant alone and `=` also reads the spelling.  Keys and
signatures stand for their canonical wire text; two keys are equal exactly when their canonical bytes are.
-/
namespace Mct

/-! ## Text -/

def startsWith (text start : String) : Bool :=
  start.toList.isPrefixOf text.toList

def stripStart (text start : String) : Option String :=
  if startsWith text start then some (String.ofList (text.toList.drop start.length)) else none

theorem startsWith_append (start rest : String) : startsWith (start ++ rest) start = true := by
  simp [startsWith]

theorem stripStart_append (start rest : String) : stripStart (start ++ rest) start = some rest := by
  rw [stripStart, if_pos (startsWith_append start rest)]
  simp [← String.length_toList]

def isLowerHex (c : Char) : Bool := c.isDigit || ('a' ≤ c && c ≤ 'f')

/-- The 64 lowercase hexadecimal digits of a 32-byte digest. -/
def isDigestText (value : String) : Bool :=
  value.utf8ByteSize == 64 && value.toList.all isLowerHex

/-! ## Non-blank text -/

/-- `char::is_whitespace`, the Unicode `White_Space` property. -/
def isWhitespace (c : Char) : Bool :=
  let n := c.toNat
  (9 ≤ n && n ≤ 13) || n == 0x20 || n == 0x85 || n == 0xA0 || n == 0x1680 || (0x2000 ≤ n && n ≤ 0x200A) ||
    n == 0x2028 || n == 0x2029 || n == 0x202F || n == 0x205F || n == 0x3000

def trimmedEmpty (text : String) : Bool :=
  text.toList.all isWhitespace

inductive InvalidFieldReason
  | empty
  | blank
  deriving DecidableEq, Repr

def InvalidFieldReason.text : InvalidFieldReason → String
  | .empty => "empty"
  | .blank => "blank"

inductive MctKernelError
  | invalidField (record field : String) (reason : InvalidFieldReason)
  | invalidTimestamp (value reason : String)
  | invalidConstraint (record field reason : String)
  deriving DecidableEq, Repr

def MctKernelError.text : MctKernelError → String
  | .invalidField record field reason => s!"invalid {record}.{field}: {reason.text}"
  | .invalidTimestamp value reason => s!"invalid Timestamp '{value}': {reason}"
  | .invalidConstraint record field reason => s!"invalid {record}.{field}: {reason}"

def nonEmptyToken (value : String) : Bool :=
  !value.isEmpty && !value.toList.any isWhitespace

def ensureNonBlank (record field value : String) : Except MctKernelError Unit := do
  Checked.deny value.isEmpty (.invalidField record field .empty)
  Checked.deny (trimmedEmpty value) (.invalidField record field .blank)

/-- **A `string_id!` type**, by the name of its record. -/
structure StringId (record : String) where
  value : String
  nonBlank : trimmedEmpty value = false
  deriving DecidableEq, Repr

def StringId.new (record value : String) : Except MctKernelError (StringId record) :=
  if value.isEmpty then .error (.invalidField record "value" .empty)
  else if h : trimmedEmpty value then .error (.invalidField record "value" .blank)
  else .ok ⟨value, by simpa using h⟩

theorem trimmedEmpty_append (a b : String) : trimmedEmpty (a ++ b) = (trimmedEmpty a && trimmedEmpty b) := by
  simp [trimmedEmpty]

@[ext] theorem StringId.ext {record : String} {a b : StringId record} (h : a.value = b.value) : a = b := by
  cases a; cases b; cases h; rfl

/-- **`new` accepts exactly the non-blank texts**, and keeps them as they are. -/
theorem StringId.new_ok {record value : String} {id : StringId record} :
    StringId.new record value = .ok id ↔ id.value = value := by
  unfold StringId.new
  constructor
  · intro h
    split at h
    · cases h
    · split at h
      · cases h
      · cases h; rfl
  · rintro rfl
    have he : id.value.isEmpty = false := by
      by_contra hc
      have : id.value = "" := by simpa using hc
      have hb := id.nonBlank
      rw [this] at hb
      exact absurd hb (by decide)
    simp [he, id.nonBlank]

abbrev MctNodeId := StringId "MctNodeId"
abbrev ObservationId := StringId "ObservationId"
abbrev CallId := StringId "CallId"
abbrev DecisionId := StringId "DecisionId"
abbrev TraceId := StringId "TraceId"
abbrev SpanId := StringId "SpanId"
abbrev VisionId := StringId "VisionId"
abbrev ProjectId := StringId "ProjectId"
abbrev UserId := StringId "UserId"
abbrev ChildId := StringId "ChildId"
abbrev ToyId := StringId "ToyId"
abbrev ToyGrantId := StringId "ToyGrantId"
abbrev ChildApprovalId := StringId "ChildApprovalId"
abbrev PeerBindingId := StringId "PeerBindingId"
abbrev EndpointIdText := StringId "EndpointIdText"
abbrev ChildAssignmentId := StringId "ChildAssignmentId"
abbrev ComponentArtifactId := StringId "ComponentArtifactId"
abbrev WatchObservationScopeId := StringId "WatchObservationScopeId"

/-! ## Instants -/

/-- **An RFC 3339 instant with its spelling.** -/
structure Timestamp where
  value : String
  epochNanoseconds : Int
  deriving DecidableEq, Repr

namespace Timestamp

instance : BEq Timestamp := ⟨fun a b => a.epochNanoseconds == b.epochNanoseconds⟩
instance : ReflBEq Timestamp := ⟨by simp [BEq.beq]⟩
instance : LT Timestamp := ⟨fun a b => a.epochNanoseconds < b.epochNanoseconds⟩
instance : LE Timestamp := ⟨fun a b => a.epochNanoseconds ≤ b.epochNanoseconds⟩
instance (a b : Timestamp) : Decidable (a < b) := inferInstanceAs (Decidable (_ < (_ : Int)))
instance (a b : Timestamp) : Decidable (a ≤ b) := inferInstanceAs (Decidable (_ ≤ (_ : Int)))

theorem lt_def {a b : Timestamp} : a < b ↔ a.epochNanoseconds < b.epochNanoseconds := Iff.rfl
theorem le_def {a b : Timestamp} : a ≤ b ↔ a.epochNanoseconds ≤ b.epochNanoseconds := Iff.rfl

theorem not_lt {a b : Timestamp} : ¬ a < b ↔ b ≤ a := Int.not_lt
theorem not_le {a b : Timestamp} : ¬ a ≤ b ↔ b < a := Int.not_le

/-- `Ord::min`: the first argument when the two are equal. -/
def min (a b : Timestamp) : Timestamp := if b < a then b else a

theorem min_le_left (a b : Timestamp) : min a b ≤ a := by
  unfold min; split <;> simp_all only [lt_def, le_def] <;> omega

theorem min_le_right (a b : Timestamp) : min a b ≤ b := by
  unfold min; split <;> simp_all only [lt_def, le_def] <;> omega

end Timestamp

/-- The range of `jiff::Timestamp`, in nanoseconds. -/
def minTimestamp : Int := -377705023201 * 1000000000
def maxTimestamp : Int := 253402207200 * 1000000000 + 999999999

/-! ## Keys and signatures -/

/-- A canonical Ed25519 verifying key, by the hex of its compressed bytes. -/
structure Ed25519VerifyingKey where
  hex : String
  deriving DecidableEq, Repr

inductive AdminKeyPublicHalf
  | ed25519 (key : Ed25519VerifyingKey)
  deriving DecidableEq, Repr

/-- An encoded ML-DSA-65 verifying key, by its hex. -/
structure MlDsa65PublicKey where
  hex : String
  deriving DecidableEq, Repr

inductive AdminSignatureError
  | malformed
  | malformedPublicKey
  | ed25519Invalid
  | mlDsaInvalid
  deriving DecidableEq, Repr

def AdminSignatureError.text : AdminSignatureError → String
  | .malformed => "admin signature is malformed"
  | .malformedPublicKey => "ml-dsa-65 public key is malformed"
  | .ed25519Invalid => "admin signature ed25519 half does not verify"
  | .mlDsaInvalid => "admin signature ml-dsa-65 half does not verify"

end Mct
