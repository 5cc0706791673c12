import Mathlib
/-!
# InvocationBudget — what one invocation of a component may use

`budget.rs`: counters for host calls, toys, observations and bytes, with a latch for the first resource that ran out, and
the size of the dynamic values that a component hands to the host.  Each operation asks for resources in a fixed order
(`BudgetOp.asks`) and does nothing but latch when one is not there (`perform_open`); a run is therefore a stretch of
accepted operations and a stretch of refusals that all name the same resource.
-/
namespace Mct

/-! ## Component values -/

inductive IntType
  | s8 | u8 | s16 | u16 | s32 | u32 | s64 | u64
  deriving DecidableEq, Repr

/-- **`wasmtime::component::Val`**; floats are their bits, and `handle` stands for resources, futures, streams and error
contexts. -/
inductive Val
  | bool (value : Bool)
  | int (type : IntType) (value : Int)
  | float32 (bits : UInt32)
  | float64 (bits : UInt64)
  | char (value : Char)
  | string (text : String)
  | list (values : List Val)
  | record (fields : List (String × Val))
  | tuple (values : List Val)
  | variant (case : String) (payload : Option Val)
  | enum (case : String)
  | option (payload : Option Val)
  | resultOk (payload : Option Val)
  | resultErr (payload : Option Val)
  | flags (names : List String)
  | fixedLengthList (values : List Val)
  | map (entries : List (Val × Val))
  | handle

/-! ## The budget -/

structure MctWasmInvocationLimits where
  hostCalls : Nat := 4096
  loggingCalls : Nat := 256
  measureCalls : Nat := 1024
  toyCalls : Nat := 1024
  observations : Nat := 2050
  accumulatedBytes : Nat := 4 * 1024 * 1024
  hostValueBytes : Nat := 64 * 1024
  outputBytes : Nat := 256 * 1024

structure BudgetCounters where
  hostCalls : Nat
  logging : Nat
  measure : Nat
  toys : Nat
  observations : Nat
  bytes : Nat

instance : Add BudgetCounters where
  add a b := ⟨a.hostCalls + b.hostCalls, a.logging + b.logging, a.measure + b.measure, a.toys + b.toys,
    a.observations + b.observations, a.bytes + b.bytes⟩

instance : Zero BudgetCounters := ⟨⟨0, 0, 0, 0, 0, 0⟩⟩

theorem BudgetCounters.add_assoc (a b c : BudgetCounters) : a + b + c = a + (b + c) := by
  show BudgetCounters.mk _ _ _ _ _ _ = BudgetCounters.mk _ _ _ _ _ _
  simp only [BudgetCounters.mk.injEq]
  exact ⟨Nat.add_assoc .., Nat.add_assoc .., Nat.add_assoc .., Nat.add_assoc .., Nat.add_assoc .., Nat.add_assoc ..⟩

structure BudgetCounters.Within (used : BudgetCounters) (limits : MctWasmInvocationLimits) : Prop where
  hostCalls : used.hostCalls ≤ limits.hostCalls
  logging : used.logging ≤ limits.loggingCalls
  measure : used.measure ≤ limits.measureCalls
  toys : used.toys ≤ limits.toyCalls
  observations : used.observations ≤ limits.observations
  bytes : used.bytes ≤ limits.accumulatedBytes

structure InvocationBudget extends BudgetCounters where
  limits : MctWasmInvocationLimits
  failed : Option String

abbrev Charged := Except String Unit × InvocationBudget

namespace InvocationBudget

def new (limits : MctWasmInvocationLimits) : InvocationBudget := ⟨0, limits, none⟩

variable (budget : InvocationBudget)

def fail (resource : String) : Charged :=
  let first := budget.failed.getD resource
  (.error first, { budget with failed := some first })

def charge (refused : Bool) (resource : String) (charged : BudgetCounters) : Charged :=
  if budget.failed.isSome || refused then budget.fail resource else (.ok (), { budget with toBudgetCounters := charged })

def hostCall : Charged :=
  budget.charge (budget.limits.hostCalls ≤ budget.hostCalls) "host calls"
    { budget.toBudgetCounters with hostCalls := budget.hostCalls + 1 }

def loggingCall : Charged :=
  budget.charge (budget.limits.loggingCalls ≤ budget.logging) "logging calls"
    { budget.toBudgetCounters with logging := budget.logging + 1 }

def measureCall : Charged :=
  budget.charge (budget.limits.measureCalls ≤ budget.measure) "measure calls"
    { budget.toBudgetCounters with measure := budget.measure + 1 }

def chargeBytes (size : Nat) (resource : String) : Charged :=
  budget.charge (budget.limits.accumulatedBytes - budget.bytes < size) resource
    { budget.toBudgetCounters with bytes := budget.bytes + size }

def andThen (result : Charged) (charged : BudgetCounters → BudgetCounters) : Charged :=
  match result with
  | (.error error, budget) => (.error error, budget)
  | (.ok (), budget) => (.ok (), { budget with toBudgetCounters := charged budget.toBudgetCounters })

def chargeObservations (count size : Nat) : Charged :=
  if budget.limits.observations - budget.observations < count then budget.fail "observations"
  else andThen (budget.chargeBytes size "observation bytes") fun used =>
    { used with observations := used.observations + count }

def toy (observationBytes : Nat) : Charged :=
  if budget.limits.toyCalls ≤ budget.toys then budget.fail "toy calls"
  else andThen (budget.chargeObservations 2 observationBytes) fun used => { used with toys := used.toys + 1 }

/-- `serialized_size` counts what `serde_json` writes and fails above the limit. -/
def jsonBytes (size limit : Nat) (resource : String) : Charged :=
  if limit < size then budget.fail resource else budget.chargeBytes size resource

def firstMissing (asks : List (String × Bool)) : Option String := (asks.find? fun ask => !ask.2).map Prod.fst

/-- **What asking for the resources leads to**: the charge, or the latch. -/
def outcome (limits : MctWasmInvocationLimits) (used : BudgetCounters) (asks : List (String × Bool))
    (charged : BudgetCounters) : Charged :=
  (firstMissing asks).elim (.ok (), ⟨charged, limits, none⟩) fun resource =>
    (.error resource, ⟨used, limits, some resource⟩)

variable {limits : MctWasmInvocationLimits} {used charged : BudgetCounters} {asks : List (String × Bool)}

theorem charge_eq (refused : Bool) (resource : String) :
    charge ⟨used, limits, none⟩ refused resource charged =
      outcome limits used [(resource, !refused)] charged := by
  cases refused <;> rfl

theorem guard_eq (refused : Prop) [Decidable refused] (resource : String) :
    (if refused then InvocationBudget.fail ⟨used, limits, none⟩ resource else outcome limits used asks charged) =
      outcome limits used ((resource, !decide refused) :: asks) charged := by
  by_cases h : refused
  · simp [h, outcome, firstMissing, InvocationBudget.fail]
  · simp [h, outcome, firstMissing]

theorem andThen_eq (f : BudgetCounters → BudgetCounters) :
    andThen (outcome limits used asks charged) f = outcome limits used asks (f charged) := by
  unfold outcome
  cases firstMissing asks <;> rfl

end InvocationBudget

/-! ## The size of values -/

def checkedSub (left n : Nat) : Option Nat := if n ≤ left then some (left - n) else none

theorem checkedSub_bind (left m n : Nat) : (do checkedSub (← checkedSub left m) n) = checkedSub left (m + n) := by
  unfold checkedSub
  by_cases h : m ≤ left
  · rw [if_pos h]
    show (if n ≤ left - m then some (left - m - n) else none) = _
    by_cases h' : m + n ≤ left
    · rw [if_pos (by omega), if_pos h', Nat.sub_sub]
    · rw [if_neg (by omega), if_neg h']
  · rw [if_neg h, if_neg (by omega)]
    rfl

theorem foldlM_checkedSub {α : Type} (size : α → Nat) (l : List α) (left : Nat) :
    l.foldlM (fun left a => checkedSub left (size a)) left = checkedSub left (l.map size).sum := by
  induction l generalizing left with
  | nil => rfl
  | cons a l ih =>
    rw [List.foldlM_cons, List.map_cons, List.sum_cons, ← checkedSub_bind]
    simp only [ih]

/-- The sizes of `Val` and of `String`, which depend on the platform. -/
class Platform where
  valSize : Nat
  stringSize : Nat

open Platform (valSize stringSize)

variable [Platform]

mutual

def visit : Val → Nat → Option Nat
  | .string text, left | .enum text, left => do checkedSub (← checkedSub left valSize) text.utf8ByteSize
  | .list values, left | .tuple values, left => do visitAll values (← checkedSub left valSize)
  | .record fields, left => do visitFields fields (← checkedSub left valSize)
  | .flags names, left => do
    names.foldlM (fun left name => checkedSub left (name.utf8ByteSize + stringSize)) (← checkedSub left valSize)
  | .variant case payload, left => do
    visitPayload payload (← checkedSub (← checkedSub left valSize) case.utf8ByteSize)
  | .option payload, left | .resultOk payload, left | .resultErr payload, left => do
    visitPayload payload (← checkedSub left valSize)
  -- the engine is built without fixed-length lists and maps; their contents are not visited
  | .bool _, left | .int _ _, left | .float32 _, left | .float64 _, left | .char _, left | .fixedLengthList _, left
  | .map _, left | .handle, left => checkedSub left valSize

def visitAll : List Val → Nat → Option Nat
  | [], left => some left
  | value :: values, left => do visitAll values (← visit value left)

def visitFields : List (String × Val) → Nat → Option Nat
  | [], left => some left
  | (key, value) :: fields, left => do
    visitFields fields (← visit value (← checkedSub left (key.utf8ByteSize + stringSize)))

def visitPayload : Option Val → Nat → Option Nat
  | none, left => some left
  | some value, left => visit value left

end

def componentValuesSize (values : List Val) (limit : Nat) : Option Nat :=
  (visitAll values limit).map (limit - ·)

mutual

/-- **The cost of a value**: its own size, and the sizes of the texts and values in it. -/
def cost : Val → Nat
  | .string text | .enum text => valSize + text.utf8ByteSize
  | .list values | .tuple values => valSize + costAll values
  | .record fields => valSize + costFields fields
  | .flags names => valSize + (names.map fun name => name.utf8ByteSize + stringSize).sum
  | .variant case payload => valSize + case.utf8ByteSize + costPayload payload
  | .option payload | .resultOk payload | .resultErr payload => valSize + costPayload payload
  | .bool _ | .int _ _ | .float32 _ | .float64 _ | .char _ | .fixedLengthList _ | .map _ | .handle => valSize

def costAll : List Val → Nat
  | [] => 0
  | value :: values => cost value + costAll values

def costFields : List (String × Val) → Nat
  | [] => 0
  | (key, value) :: fields => key.utf8ByteSize + stringSize + cost value + costFields fields

def costPayload : Option Val → Nat
  | none => 0
  | some value => cost value

end

mutual

/-- **The walk charges the cost.** -/
theorem visit_eq (value : Val) (left : Nat) :
    visit value left = checkedSub left (cost value) := by
  cases value with
  | string text | enum text => exact checkedSub_bind ..
  | list values | tuple values =>
    simp only [visit, cost, visitAll_eq]
    exact checkedSub_bind ..
  | record fields =>
    simp only [visit, cost, visitFields_eq]
    exact checkedSub_bind ..
  | flags names =>
    simp only [visit, cost, foldlM_checkedSub]
    exact checkedSub_bind ..
  | variant case payload =>
    simp only [visit, cost, visitPayload_eq, checkedSub_bind, Nat.add_assoc]
  | option payload | resultOk payload | resultErr payload =>
    simp only [visit, cost, visitPayload_eq]
    exact checkedSub_bind ..
  | bool | int | float32 | float64 | char | fixedLengthList | map | handle => simp only [visit, cost]

theorem visitAll_eq (values : List Val) (left : Nat) :
    visitAll values left = checkedSub left (costAll values) := by
  cases values with
  | nil => rfl
  | cons value values =>
    simp only [visitAll, costAll, visit_eq value, visitAll_eq values]
    exact checkedSub_bind ..

theorem visitFields_eq (fields : List (String × Val)) (left : Nat) :
    visitFields fields left = checkedSub left (costFields fields) := by
  cases fields with
  | nil => rfl
  | cons field fields =>
    obtain ⟨key, value⟩ := field
    simp only [visitFields, costFields, visit_eq value, visitFields_eq fields]
    rw [← bind_assoc, checkedSub_bind]
    exact checkedSub_bind ..

theorem visitPayload_eq (payload : Option Val) (left : Nat) :
    visitPayload payload left = checkedSub left (costPayload payload) := by
  cases payload with
  | none => rfl
  | some value => exact visit_eq value left

end

theorem componentValuesSize_eq (values : List Val) (limit : Nat) :
    componentValuesSize values limit = if costAll values ≤ limit then some (costAll values) else none := by
  rw [componentValuesSize, visitAll_eq, checkedSub]
  split_ifs with h
  · rw [Option.map_some, Nat.sub_sub_self h]
  · rfl

def InvocationBudget.hostValues (budget : InvocationBudget) (values : List Val) : Charged :=
  match componentValuesSize values budget.limits.hostValueBytes with
  | none => budget.fail "host argument bytes"
  | some size => budget.chargeBytes size "host argument bytes"

/-! ## Accounting -/

inductive BudgetOp
  | fail (resource : String)
  | hostCall
  | loggingCall
  | measureCall
  | bytes (size : Nat) (resource : String)
  | observations (count size : Nat)
  | toy (observationBytes : Nat)
  | jsonBytes (size limit : Nat) (resource : String)
  | hostValues (values : List Val)

namespace BudgetOp

open InvocationBudget (outcome firstMissing charge_eq guard_eq andThen_eq)

def perform (budget : InvocationBudget) : BudgetOp → Charged
  | .fail resource => budget.fail resource
  | .hostCall => budget.hostCall
  | .loggingCall => budget.loggingCall
  | .measureCall => budget.measureCall
  | .bytes size resource => budget.chargeBytes size resource
  | .observations count size => budget.chargeObservations count size
  | .toy observationBytes => budget.toy observationBytes
  | .jsonBytes size limit resource => budget.jsonBytes size limit resource
  | .hostValues values => budget.hostValues values

def spends : BudgetOp → BudgetCounters
  | .fail _ => ⟨0, 0, 0, 0, 0, 0⟩
  | .hostCall => ⟨1, 0, 0, 0, 0, 0⟩
  | .loggingCall => ⟨0, 1, 0, 0, 0, 0⟩
  | .measureCall => ⟨0, 0, 1, 0, 0, 0⟩
  | .bytes size _ => ⟨0, 0, 0, 0, 0, size⟩
  | .observations count size => ⟨0, 0, 0, 0, count, size⟩
  | .toy observationBytes => ⟨0, 0, 0, 1, 2, observationBytes⟩
  | .jsonBytes size _ _ => ⟨0, 0, 0, 0, 0, size⟩
  | .hostValues values => ⟨0, 0, 0, 0, 0, costAll values⟩

/-- The resources that an operation asks for, in order, and whether they are there. -/
def asks (limits : MctWasmInvocationLimits) (used : BudgetCounters) : BudgetOp → List (String × Bool)
  | .fail resource => [(resource, false)]
  | .hostCall => [("host calls", used.hostCalls + 1 ≤ limits.hostCalls)]
  | .loggingCall => [("logging calls", used.logging + 1 ≤ limits.loggingCalls)]
  | .measureCall => [("measure calls", used.measure + 1 ≤ limits.measureCalls)]
  | .bytes size resource => [(resource, used.bytes + size ≤ limits.accumulatedBytes)]
  | .observations count size => [("observations", used.observations + count ≤ limits.observations),
      ("observation bytes", used.bytes + size ≤ limits.accumulatedBytes)]
  | .toy size => [("toy calls", used.toys + 1 ≤ limits.toyCalls),
      ("observations", used.observations + 2 ≤ limits.observations),
      ("observation bytes", used.bytes + size ≤ limits.accumulatedBytes)]
  | .jsonBytes size limit resource =>
    [(resource, size ≤ limit), (resource, used.bytes + size ≤ limits.accumulatedBytes)]
  | .hostValues values => [("host argument bytes", costAll values ≤ limits.hostValueBytes),
      ("host argument bytes", used.bytes + costAll values ≤ limits.accumulatedBytes)]

def run (budget : InvocationBudget) : List BudgetOp → List (Except String Unit) × InvocationBudget
  | [] => ([], budget)
  | op :: ops =>
    let (outcome, budget) := op.perform budget
    let (outcomes, budget) := run budget ops
    (outcome :: outcomes, budget)

variable {budget : InvocationBudget}

theorem perform_failed {first : String} (h : budget.failed = some first) (op : BudgetOp) :
    op.perform budget = (.error first, budget) := by
  have hfail : ∀ resource, budget.fail resource = (.error first, budget) := by
    intro resource
    rw [InvocationBudget.fail, h, Option.getD_some, ← h]
  have hcharge : ∀ refused resource charged, budget.charge refused resource charged = (.error first, budget) := by
    intro refused resource charged
    rw [InvocationBudget.charge, h, if_pos (by simp), hfail]
  cases op <;>
    simp only [perform, InvocationBudget.hostCall, InvocationBudget.loggingCall, InvocationBudget.measureCall,
      InvocationBudget.chargeBytes, InvocationBudget.chargeObservations, InvocationBudget.toy, InvocationBudget.jsonBytes,
      InvocationBudget.hostValues, InvocationBudget.andThen, hfail, hcharge, ite_self]
  -- whether or not the values have a size
  split <;> rfl

variable {limits : MctWasmInvocationLimits} {used : BudgetCounters}

/-- **What an operation does while nothing has failed.** -/
theorem perform_open (op : BudgetOp) (h : used.Within limits) :
    op.perform ⟨used, limits, none⟩ =
      outcome limits used (op.asks limits used) (used + op.spends) := by
  have hle : ∀ a b : Nat, (!decide (a ≤ b)) = decide (b < a) := by simp [← decide_not]
  have hlt : ∀ a b : Nat, (!decide (a < b)) = decide (b ≤ a) := by simp [← decide_not]
  have hvalues : ∀ values, InvocationBudget.hostValues ⟨used, limits, none⟩ values =
      if limits.hostValueBytes < costAll values then
        InvocationBudget.fail ⟨used, limits, none⟩ "host argument bytes"
      else InvocationBudget.chargeBytes ⟨used, limits, none⟩ (costAll values) "host argument bytes" := by
    intro values
    rw [InvocationBudget.hostValues, componentValuesSize_eq]
    by_cases hfits : costAll values ≤ limits.hostValueBytes
    · rw [if_pos hfits, if_neg (Nat.not_lt.mpr hfits)]
    · rw [if_neg hfits, if_pos (Nat.not_le.mp hfits)]
  cases op <;>
    simp only [perform, InvocationBudget.hostCall, InvocationBudget.loggingCall, InvocationBudget.measureCall,
      InvocationBudget.chargeBytes, InvocationBudget.chargeObservations, InvocationBudget.toy, InvocationBudget.jsonBytes,
      hvalues, charge_eq, andThen_eq, guard_eq, hle, hlt, Nat.le_sub_iff_add_le' h.bytes,
      Nat.le_sub_iff_add_le' h.observations] <;>
    rfl

theorem within_spend (op : BudgetOp) (h : used.Within limits)
    (hfits : firstMissing (op.asks limits used) = none) :
    (used + op.spends).Within limits := by
  have hall : ∀ ask ∈ op.asks limits used, ask.2 = true := by
    simpa [firstMissing, List.find?_eq_none] using hfits
  cases op <;> simp only [asks, List.forall_mem_cons, decide_eq_true_eq] at hall
  case fail => cases hall.1
  case hostCall => exact { h with hostCalls := hall.1 }
  case loggingCall => exact { h with logging := hall.1 }
  case measureCall => exact { h with measure := hall.1 }
  case bytes => exact { h with bytes := hall.1 }
  case observations => exact { h with observations := hall.1, bytes := hall.2.1 }
  case toy => exact { h with toys := hall.1, observations := hall.2.1, bytes := hall.2.2.1 }
  case jsonBytes => exact { h with bytes := hall.2.1 }
  case hostValues => exact { h with bytes := hall.2.1 }

theorem run_failed {first : String} (h : budget.failed = some first) (ops : List BudgetOp) :
    run budget ops = (List.replicate ops.length (.error first), budget) := by
  induction ops with
  | nil => rfl
  | cons op ops ih =>
    simp only [run, perform_failed h, ih]
    rfl

/-- **A run is a stretch of accepted operations and a stretch of refusals**: the counters are what the accepted ones spend,
and the refusals all name the first resource that was not there. -/
def Accounted (budget : InvocationBudget) (ops : List BudgetOp) : Prop :=
  ∃ accepted refused spent, ops = accepted ++ refused ∧
    spent = budget.toBudgetCounters + (accepted.map spends).sum ∧ spent.Within budget.limits ∧
    ((refused = [] ∧ run budget ops = (List.replicate accepted.length (.ok ()), ⟨spent, budget.limits, none⟩)) ∨
      ∃ op rest resource, refused = op :: rest ∧ firstMissing (op.asks budget.limits spent) = some resource ∧
        run budget ops = (List.replicate accepted.length (.ok ()) ++
          List.replicate refused.length (.error resource), ⟨spent, budget.limits, some resource⟩))

theorem run_accounted (ops : List BudgetOp) (h : used.Within limits) : Accounted ⟨used, limits, none⟩ ops := by
  induction ops generalizing used with
  | nil => exact ⟨[], [], used, rfl, rfl, h, Or.inl ⟨rfl, rfl⟩⟩
  | cons op ops ih =>
    have hstep := perform_open op h
    cases hmissing : firstMissing (op.asks limits used) with
    | none =>
      rw [outcome, hmissing, Option.elim_none] at hstep
      obtain ⟨accepted, refused, spent, rfl, hspent, hwithin, hrun⟩ := ih (within_spend op h hmissing)
      rw [BudgetCounters.add_assoc] at hspent
      refine ⟨op :: accepted, refused, spent, rfl, hspent, hwithin, hrun.imp ?_ ?_⟩
      · rintro ⟨hnil, hrun⟩
        refine ⟨hnil, ?_⟩
        simp only [run, hstep, hrun]
        rfl
      · rintro ⟨op', rest, resource, hrefused, hfirst, hrun⟩
        refine ⟨op', rest, resource, hrefused, hfirst, ?_⟩
        simp only [run, hstep, hrun]
        rfl
    | some resource =>
      rw [outcome, hmissing, Option.elim_some] at hstep
      refine ⟨[], op :: ops, used, rfl, rfl, h, Or.inr ⟨op, ops, resource, rfl, hmissing, ?_⟩⟩
      simp only [run, hstep, @run_failed _ ⟨used, limits, some resource⟩ _ rfl]
      rfl

end BudgetOp

/-- **The budget accounts for every run**, and the size of component values is their cost, if the limit covers it. -/
theorem invocationBudget_accounts (limits : MctWasmInvocationLimits) (ops : List BudgetOp) :
    BudgetOp.Accounted (InvocationBudget.new limits) ops ∧
      ∀ values limit n, componentValuesSize values limit = some n ↔
        costAll values = n ∧ n ≤ limit := by
  have hzero : (0 : BudgetCounters).Within limits := by constructor <;> exact Nat.zero_le _
  refine ⟨BudgetOp.run_accounted ops hzero, fun values limit n => ?_⟩
  rw [componentValuesSize_eq]
  split_ifs with hfits
  · rw [Option.some.injEq]
    exact ⟨fun h => ⟨h, h ▸ hfits⟩, fun h => h.1⟩
  · exact ⟨nofun, fun h => absurd (h.1 ▸ h.2) hfits⟩

end Mct
