import PatinaMct.KeyedCall
/-!
# KeyedPaths — what a keyed handler has done so far

A handler is dropped between any two of its operations, so what matters are the prefixes of its paths.  `Trail` lists
them: before the ledger's answer, refused, granted, running, and after the execution.  A start follows the handler's own
reservation, and a release in the ledger follows a transient refusal of its own execution.
-/
namespace Mct

open Resumption

abbrev CallEvent := Event CallOp CallOp.Reply

theorem last_eq {α : Type} {items before after : List α} {item other : α} (h : items ++ [item] = before ++ other :: after) :
    (after = [] ∧ items = before ∧ item = other) ∨
      ∃ after', after = after' ++ [item] ∧ items = before ++ other :: after' := by
  induction after using List.reverseRecOn with
  | nil =>
    obtain ⟨hitems, hitem⟩ := List.append_inj' h rfl
    exact Or.inl ⟨rfl, hitems, List.singleton_inj.mp hitem⟩
  | append_singleton after last _ =>
    refine Or.inr ⟨after, ?_⟩
    have h' : items ++ [item] = (before ++ other :: after) ++ [last] := by simpa using h
    obtain ⟨hitems, hitem⟩ := List.append_inj' h' rfl
    rw [List.singleton_inj.mp hitem]
    exact ⟨rfl, hitems⟩

theorem mem_before {α : Type} {items : List α} {a b : α} (ha : a ∈ items) (hb : b ∈ items) :
    a = b ∨ (∃ before after, items = before ++ b :: after ∧ a ∈ before) ∨
      ∃ before after, items = before ++ a :: after ∧ b ∈ before := by
  obtain ⟨before, after, rfl⟩ := List.append_of_mem ha
  obtain hbefore | hrest := List.mem_append.mp hb
  · exact Or.inr (Or.inr ⟨before, after, rfl, hbefore⟩)
  · obtain rfl | hafter := List.mem_cons.mp hrest
    · exact Or.inl rfl
    · obtain ⟨middle, later, rfl⟩ := List.append_of_mem hafter
      exact Or.inr (Or.inl ⟨before ++ a :: middle, later, by simp, by simp⟩)

/-- An operation that neither asks the ledger's fence nor starts an execution. -/
def CallOp.isQuiet : CallOp → Bool
  | .dispatch _ | .start => false
  | _ => true

def Quiet (events : List CallEvent) : Prop := ∀ event ∈ events, event.op.isQuiet = true

theorem Quiet.nil : Quiet [] := fun _ h => absurd h List.not_mem_nil

theorem Quiet.cons {ev : CallEvent} {evs : List CallEvent} (hevent : ev.op.isQuiet = true)
    (h : Quiet evs) : Quiet (ev :: evs) := by
  intro other hother
  obtain rfl | hmem := List.mem_cons.mp hother
  · exact hevent
  · exact h other hmem

theorem Quiet.append {evs evs' : List CallEvent} (h : Quiet evs) (h' : Quiet evs') :
    Quiet (evs ++ evs') := by
  intro ev hevent
  obtain hmem | hmem := List.mem_append.mp hevent
  · exact h ev hmem
  · exact h' ev hmem

def CallProg.IsQuiet (program : CallProg) : Prop := program.Every fun op => op.isQuiet = true

theorem CallProg.IsQuiet.path {prog rest : CallProg} (h : prog.IsQuiet) {events : List CallEvent}
    (hpath : prog.Path events rest) : Quiet events := hpath.every h

theorem RunProg.lift_quiet (run : RunProg MctIrohCallHandlerResult) : CallProg.IsQuiet run.lift :=
  Prog.every_embed (fun op : CallOp => op.isQuiet = true) (fun _ => rfl) run

theorem CallProg.done_quiet (res : MctIrohCallHandlerResult) : CallProg.IsQuiet (.done res) := trivial

namespace KeyedCall

variable (keyed : KeyedCall) (execute : RunProg MctIrohCallHandlerResult)

theorem record_quiet (obs : MctObservation) {next : CallProg} (h : next.IsQuiet) :
    CallProg.IsQuiet (record obs next) := by
  refine ⟨rfl, fun reply => ?_⟩
  cases reply with
  | error _ => trivial
  | ok _ => exact h

theorem forget_quiet (res : MctIrohCallHandlerResult) :
    CallProg.IsQuiet (.act (.release keyed.callerScope keyed.key keyed.fingerprint) fun
      | .error _ => .done .runtimeUnavailable
      | .ok () => .done res) := by
  refine ⟨rfl, fun reply => ?_⟩
  cases reply <;> trivial

theorem close_quiet (res : MctIrohCallHandlerResult) :
    CallProg.IsQuiet (.act (.complete keyed.callerScope keyed.key keyed.fingerprint (handlerResultToRecordedReply res))
      fun
      | .error _ => .done .runtimeUnavailable
      | .ok () => .done res) := by
  refine ⟨rfl, fun reply => ?_⟩
  cases reply <;> trivial

variable [ResidentHost]

theorem finish_none_quiet (res : MctIrohCallHandlerResult) : CallProg.IsQuiet (keyed.finish none res) := by
  refine ⟨rfl, fun fenced => ?_⟩
  show CallProg.IsQuiet (if fenced then _ else _)
  split_ifs
  · trivial
  · exact record_quiet _ (keyed.forget_quiet res)
  · exact keyed.close_quiet res

theorem refuseMismatch_quiet : CallProg.IsQuiet keyed.refuseMismatch :=
  record_quiet _ (keyed.forget_quiet _)

/-! ## The ledger's answer -/

def reserveOperation : DispatchOperation :=
  .reserve keyed.claim (keyed.residentIdempotencyObservation .executeFresh .started)

def releaseOperation (reservation : CallDispatchReservationV1) : DispatchOperation :=
  .release reservation keyed.transientReleaseObservation

def asked (reply : Except String DispatchResponse) : CallEvent := ⟨.dispatch keyed.reserveOperation, reply⟩

def startEvent : CallEvent := ⟨.start, ()⟩

def releaseAsked (reservation : CallDispatchReservationV1) (reply : Except String DispatchResponse) : CallEvent :=
  ⟨.dispatch (keyed.releaseOperation reservation), reply⟩

/-- **What a keyed handler has done so far.** -/
inductive Trail : List CallEvent → Prop
  | waiting {events : List CallEvent} : Quiet events → Trail events
  | refused (before : List CallEvent) {after : List CallEvent} {reply : Except String DispatchResponse} :
      Quiet before → (∀ reservation, reply ≠ .ok (.reserved reservation)) → Quiet after →
      Trail (before ++ keyed.asked reply :: after)
  | granted (before : List CallEvent) {reservation : CallDispatchReservationV1} : Quiet before →
      Trail (before ++ [keyed.asked (.ok (.reserved reservation))])
  | running (before : List CallEvent) {events : List CallEvent} {reservation : CallDispatchReservationV1} :
      Quiet before → Quiet events → Trail (before ++ keyed.asked (.ok (.reserved reservation)) :: startEvent :: events)
  | released (before : List CallEvent) {events after : List CallEvent} {reservation : CallDispatchReservationV1}
      {reply : Except String DispatchResponse} {result : MctIrohCallHandlerResult} {first : List CallEvent} :
      Quiet before → Quiet events → Quiet after → execute.lift.Path first (.done result) → first <+: events →
      isTransientRefusalBeforeEffect result = true →
      Trail (before ++ keyed.asked (.ok (.reserved reservation)) :: startEvent ::
        (events ++ keyed.releaseAsked reservation reply :: after))

/-- After the execution: quiet, or the release of the reservation after a transient refusal. -/
theorem finish_path {rv : CallDispatchReservationV1} {res : MctIrohCallHandlerResult}
    {evs : List CallEvent} {rest : CallProg} (h : (keyed.finish (some rv) res).Path evs rest) :
    Quiet evs ∨ (isTransientRefusalBeforeEffect res = true ∧ ∃ before reply after, Quiet before ∧ Quiet after ∧
      evs = before ++ keyed.releaseAsked rv reply :: after) := by
  obtain ⟨rfl, -⟩ | ⟨fenced, evs', rfl, hrest⟩ := Prog.Path.act_inv h
  · exact Or.inl .nil
  split_ifs at hrest with hfenced htransient
  · obtain ⟨rfl, -⟩ := Prog.Path.done_inv hrest
    exact Or.inl (.cons rfl .nil)
  · -- the fact, the ledger's release and the row's
    obtain ⟨rfl, -⟩ | ⟨reply, evs'', rfl, hrel⟩ := Prog.Path.act_inv hrest
    · exact Or.inl (.cons rfl .nil)
    cases reply with
    | error err =>
      obtain ⟨rfl, -⟩ := Prog.Path.done_inv hrel
      exact Or.inl (.cons rfl (.cons rfl .nil))
    | ok _ =>
      obtain ⟨rfl, -⟩ | ⟨reply, after, rfl, hfor⟩ := Prog.Path.act_inv hrel
      · exact Or.inl (.cons rfl (.cons rfl .nil))
      · refine Or.inr ⟨htransient, [⟨.isFenced, fenced⟩, ⟨.run (.append [_]), .ok ()⟩], reply, after,
          .cons rfl (.cons rfl .nil), ?_, rfl⟩
        cases reply with
        | error err =>
          obtain ⟨rfl, -⟩ := Prog.Path.done_inv hfor
          exact .nil
        | ok resp => exact CallProg.IsQuiet.path (keyed.forget_quiet res) hfor
  · exact Or.inl (.cons rfl (CallProg.IsQuiet.path (keyed.close_quiet res) hrest))

variable {keyed execute}

theorem Trail.prepend {ev : CallEvent} {evs : List CallEvent} (hevent : ev.op.isQuiet = true)
    (h : keyed.Trail execute evs) : keyed.Trail execute (ev :: evs) := by
  cases h with
  | waiting hevs => exact .waiting (.cons hevent hevs)
  | refused before hbefore hreply hafter => exact .refused (ev :: before) (.cons hevent hbefore) hreply hafter
  | granted before hbefore => exact .granted (ev :: before) (.cons hevent hbefore)
  | running before hbefore hevs => exact .running (ev :: before) (.cons hevent hbefore) hevs
  | released before hbefore hevs hafter hpath hfirst htransient =>
    exact .released (ev :: before) (.cons hevent hbefore) hevs hafter hpath hfirst htransient

theorem dispatched_trail {reply : Except String DispatchResponse} {evs : List CallEvent} {rest : CallProg}
    (h : (keyed.dispatched execute reply).Path evs rest) : keyed.Trail execute (keyed.asked reply :: evs) := by
  have href : (∀ rv, reply ≠ .ok (.reserved rv)) → Quiet evs →
      keyed.Trail execute (keyed.asked reply :: evs) := fun hreply hquiet => .refused [] .nil hreply hquiet
  obtain err | rv | _ | _ | _ := reply
  case error =>
    obtain ⟨rfl, -⟩ := Prog.Path.done_inv h
    exact href (fun _ => by simp) .nil
  case ok.reserved =>
    obtain ⟨rfl, -⟩ | ⟨_, evs', rfl, hrun⟩ := Prog.Path.act_inv h
    · exact .granted [] .nil
    obtain ⟨rest', hpath, -⟩ | ⟨first, second, res, rfl, hfirst, hsecond⟩ := Prog.Path.bind_inv hrun
    · exact .running [] .nil (CallProg.IsQuiet.path execute.lift_quiet hpath)
    -- the execution has ended
    have hquiet : Quiet first := CallProg.IsQuiet.path execute.lift_quiet hfirst
    obtain hend | ⟨htransient, before, answer, after, hbefore, hafter, rfl⟩ := keyed.finish_path hsecond
    · exact .running [] .nil (hquiet.append hend)
    · rw [← List.append_assoc]
      exact .released [] .nil (hquiet.append hbefore) hafter hfirst (List.prefix_append first before) htransient
  case ok.existing =>
    exact href (fun _ => by simp) (CallProg.IsQuiet.path (record_quiet _ (keyed.finish_none_quiet _)) h)
  case ok.fingerprintMismatch =>
    exact href (fun _ => by simp) (CallProg.IsQuiet.path keyed.refuseMismatch_quiet h)
  case ok.released =>
    obtain ⟨rfl, -⟩ := Prog.Path.done_inv h
    exact href (fun _ => by simp) .nil

theorem reserved_trail {reply : Except String MctIdempotencyReservation} {events : List CallEvent} {rest : CallProg}
    (h : (keyed.reserved execute reply).Path events rest) : keyed.Trail execute events := by
  have hclaim : ∀ {events rest}, (keyed.claimed execute).Path events rest → keyed.Trail execute events := by
    intro events rest h
    unfold claimed at h
    split at h
    · obtain ⟨rfl, -⟩ := Prog.Path.done_inv h
      exact .waiting .nil
    · obtain ⟨rfl, -⟩ | ⟨reply, events', rfl, h'⟩ := Prog.Path.act_inv h
      · exact .waiting .nil
      · exact dispatched_trail h'
  obtain error | reply | reason | _ := reply
  case error =>
    obtain ⟨rfl, -⟩ := Prog.Path.done_inv h
    exact .waiting .nil
  case ok.replay => exact .waiting (CallProg.IsQuiet.path (record_quiet _ (CallProg.done_quiet _)) h)
  case ok.refused => exact .waiting (CallProg.IsQuiet.path (record_quiet _ (CallProg.done_quiet _)) h)
  case ok.executeFresh =>
    simp only [reserved, bound] at h
    split at h
    · exact hclaim h
    · obtain ⟨rfl, -⟩ | ⟨reply, events', rfl, h'⟩ := Prog.Path.act_inv h
      · exact .waiting .nil
      refine Trail.prepend rfl ?_
      cases reply with
      | error _ =>
        obtain ⟨rfl, -⟩ := Prog.Path.done_inv h'
        exact .waiting .nil
      | ok _ => exact hclaim h'

/-! ## What was before an event -/

end KeyedCall

namespace CallEvent

def claimed : CallEvent → Option CallDispatchClaimV1
  | ⟨.dispatch (.reserve claim _), _⟩ => some claim
  | _ => none

def granted : CallEvent → Option CallDispatchReservationV1
  | ⟨.dispatch (.reserve _ _), .ok (.reserved reservation)⟩ => some reservation
  | _ => none

def released : CallEvent → Option CallDispatchReservationV1
  | ⟨.dispatch (.release reservation _), _⟩ => some reservation
  | _ => none

def isStart : CallEvent → Bool
  | ⟨.start, _⟩ => true
  | _ => false

theorem quiet_none {ev : CallEvent} (h : ev.op.isQuiet = true) :
    ev.claimed = none ∧ ev.granted = none ∧ ev.released = none ∧ ev.isStart = false := by
  obtain ⟨op, reply⟩ := ev
  cases op with
  | dispatch operation => cases h
  | start => cases h
  | reserve | bindExecution | isFenced | release | complete | run => exact ⟨rfl, rfl, rfl, rfl⟩

end CallEvent

namespace KeyedCall

variable {events : List CallEvent} {event : CallEvent}

variable [ResidentHost] {keyed : KeyedCall} {execute : RunProg MctIrohCallHandlerResult}
  {rv : CallDispatchReservationV1}

/-- **The events that are not quiet**, with what was before them: the first question to the fence, the start after the
grant, and the release after an execution that ended in a transient refusal. -/
inductive Loud (keyed : KeyedCall) (execute : RunProg MctIrohCallHandlerResult) : List CallEvent → CallEvent → Prop
  | asks {events : List CallEvent} (reply : Except String DispatchResponse) : Quiet events →
      Loud keyed execute events (keyed.asked reply)
  | starts {before : List CallEvent} (reservation : CallDispatchReservationV1) : Quiet before →
      Loud keyed execute (before ++ [keyed.asked (.ok (.reserved reservation))]) startEvent
  | releases {before rest first : List CallEvent} {result : MctIrohCallHandlerResult}
      (reservation : CallDispatchReservationV1) (reply : Except String DispatchResponse) : Quiet before → Quiet rest →
      execute.lift.Path first (.done result) → first <+: rest → isTransientRefusalBeforeEffect result = true →
      Loud keyed execute (before ++ keyed.asked (.ok (.reserved reservation)) :: startEvent :: rest)
        (keyed.releaseAsked reservation reply)

theorem Trail.loud (h : keyed.Trail execute (events ++ [event])) :
    event.op.isQuiet = true ∨ Loud keyed execute events event := by
  have hquiet : ∀ {after' : List CallEvent}, Quiet (after' ++ [event]) → event.op.isQuiet = true :=
    fun hafter => hafter event (by simp)
  generalize hlast : events ++ [event] = list at h
  cases h with
  | waiting hevs => exact Or.inl (hquiet (hlast ▸ hevs))
  | refused before hbefore hreply hafter =>
    obtain ⟨-, rfl, rfl⟩ | ⟨after', rfl, -⟩ := last_eq hlast
    · exact Or.inr (.asks _ hbefore)
    · exact Or.inl (hquiet hafter)
  | granted before hbefore =>
    obtain ⟨-, rfl, rfl⟩ | ⟨after', hafter, -⟩ := last_eq hlast
    · exact Or.inr (.asks _ hbefore)
    · exact absurd hafter (by simp)
  | @running before rest rv hbefore hevs =>
    have hlast' : events ++ [event] = (before ++ [keyed.asked (.ok (.reserved rv))]) ++ startEvent :: rest := by
      rw [hlast]
      simp
    obtain ⟨-, rfl, rfl⟩ | ⟨after', rfl, -⟩ := last_eq hlast'
    · exact Or.inr (.starts rv hbefore)
    · exact Or.inl (hquiet hevs)
  | @released before rest after rv reply res first hbefore hevs hafter hpath hfirst htransient =>
    have hlast' : events ++ [event] = (before ++ keyed.asked (.ok (.reserved rv)) :: startEvent :: rest) ++
        keyed.releaseAsked rv reply :: after := by
      rw [hlast]
      simp
    obtain ⟨-, rfl, rfl⟩ | ⟨after', rfl, -⟩ := last_eq hlast'
    · exact Or.inr (.releases rv reply hbefore hevs hpath hfirst htransient)
    · exact Or.inl (hquiet hafter)

end KeyedCall

/-! ## Requests -/

/-- **A request to the keyed handler**, with the execution that it guards.  `now` is a reading of the Mother's clock. -/
structure KeyedRequest [ResidentHost] where
  request : MctCallProtocolRequest
  now : Timestamp
  context : ResidentCallIngressContext
  executionCallId : Option CallId
  execute : RunProg MctIrohCallHandlerResult
  read : KernelHost.parseTimestamp now.value = .ok now.epochNanoseconds

namespace KeyedRequest

variable [ResidentHost] (owner : KeyedRequest)

def program : CallProg :=
  executeIdempotentCallWithExecution owner.request owner.now owner.context owner.executionCallId owner.execute

def keyed : Option KeyedCall :=
  match owner.request.idempotencyKey, idempotencyExpiry owner.now with
  | some key, .ok expiresAt => some (keyedCall owner.request owner.now expiresAt owner.context owner.executionCallId key)
  | _, _ => none

theorem path_cases {events : List CallEvent} {rest : CallProg} (h : owner.program.Path events rest) :
    events = [] ∨
      (owner.request.idempotencyKey = none ∧ ∃ later, events = KeyedCall.startEvent :: later ∧ Quiet later) ∨
      ∃ keyed, owner.keyed = some keyed ∧ keyed.Trail owner.execute events := by
  unfold program executeIdempotentCallWithExecution at h
  split_ifs at h
  · exact Or.inl (Prog.Path.done_inv h).1
  split at h
  · rename_i hkey
    obtain ⟨rfl, -⟩ | ⟨_, later, rfl, hrest⟩ := Prog.Path.act_inv h
    · exact Or.inl rfl
    · exact Or.inr (Or.inl ⟨hkey, later, rfl, CallProg.IsQuiet.path owner.execute.lift_quiet hrest⟩)
  · rename_i key hkey
    split at h
    · exact Or.inl (Prog.Path.done_inv h).1
    · rename_i expiresAt hexpires
      obtain ⟨rfl, -⟩ | ⟨reply, later, rfl, hrest⟩ := Prog.Path.act_inv h
      · exact Or.inl rfl
      · refine Or.inr (Or.inr ⟨_, ?_, (KeyedCall.reserved_trail hrest).prepend rfl⟩)
        simp only [keyed, hkey, hexpires]

/-- **A request's events that are not quiet**: its start when it has no key, and else the three of a keyed call. -/
theorem path_loud {events : List CallEvent} {event : CallEvent} {rest : CallProg}
    (h : owner.program.Path (events ++ [event]) rest) :
    event.op.isQuiet = true ∨
      (owner.request.idempotencyKey = none ∧ events = [] ∧ event = KeyedCall.startEvent) ∨
      ∃ k, owner.keyed = some k ∧ KeyedCall.Loud k owner.execute events event := by
  obtain hnil | ⟨hkey, later, hlater, hquiet⟩ | ⟨k, hkeyed, htrail⟩ := owner.path_cases h
  · exact absurd hnil (by simp)
  · have hfirst : events ++ [event] = [] ++ KeyedCall.startEvent :: later := hlater
    obtain ⟨-, rfl, rfl⟩ | ⟨after', rfl, -⟩ := last_eq hfirst
    · exact Or.inr (Or.inl ⟨hkey, rfl, rfl⟩)
    · exact Or.inl (hquiet event (by simp))
  · obtain hq | hloud := htrail.loud
    · exact Or.inl hq
    · exact Or.inr (Or.inr ⟨k, hkeyed, hloud⟩)

theorem keyed_now {k : KeyedCall} (h : owner.keyed = some k) :
    k.now = owner.now ∧ idempotencyExpiry owner.now = .ok k.expiresAt := by
  unfold KeyedRequest.keyed at h
  split at h
  · cases h
    exact ⟨rfl, by assumption⟩
  · cases h

end KeyedRequest

end Mct
