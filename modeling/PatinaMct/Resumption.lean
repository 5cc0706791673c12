import Mathlib
/-!
# Resumption — programs that work on a shared store, and pools of them

A program is done, or asks for one operation and goes on with the reply.  A pool runs programs on one store in any order:
they are spawned, take turns, are dropped, and lose the race with a crash.  Every operation that was performed stands in
the trace, and the operations of one thread are a path through its program (`Machine.run_path`).
-/
namespace Resumption

/-! ## Programs -/

inductive Prog (Op : Type) (Reply : Op → Type) (α : Type)
  | done (result : α)
  | act (op : Op) (next : Reply op → Prog Op Reply α)

structure Event (Op : Type) (Reply : Op → Type) where
  op : Op
  reply : Reply op

variable {Op : Type} {Reply : Op → Type} {α β : Type}

namespace Prog

def bind (f : α → Prog Op Reply β) : Prog Op Reply α → Prog Op Reply β
  | done result => f result
  | act op next => act op fun reply => (next reply).bind f

def embed {Op' : Type} {Reply' : Op' → Type} (into : Op → Op') (back : ∀ op, Reply' (into op) → Reply op) :
    Prog Op Reply α → Prog Op' Reply' α
  | done result => done result
  | act op next => act (into op) fun reply => (next (back op reply)).embed into back

inductive Path : Prog Op Reply α → List (Event Op Reply) → Prog Op Reply α → Prop
  | nil (program : Prog Op Reply α) : Path program [] program
  | cons {op : Op} {next : Reply op → Prog Op Reply α} (reply : Reply op) {events : List (Event Op Reply)}
      {rest : Prog Op Reply α} : Path (next reply) events rest → Path (.act op next) (⟨op, reply⟩ :: events) rest

variable {prog : Prog Op Reply α} {events : List (Event Op Reply)}

theorem Path.snoc {op : Op}
    {next : Reply op → Prog Op Reply α} (h : Path prog events (.act op next)) (reply : Reply op) :
    Path prog (events ++ [⟨op, reply⟩]) (next reply) := by
  generalize hrest : Prog.act op next = rest at h
  induction h with
  | nil prog =>
    subst hrest
    exact .cons reply (.nil _)
  | cons other _ ih => exact .cons other (ih hrest)

variable {rest : Prog Op Reply α}

theorem Path.split {first second : List (Event Op Reply)}
    (h : Path prog (first ++ second) rest) : ∃ middle, Path prog first middle ∧ Path middle second rest := by
  induction first generalizing prog with
  | nil => exact ⟨prog, .nil prog, h⟩
  | cons ev first ih =>
    cases h with
    | cons reply htail =>
      obtain ⟨middle, hfirst, hsecond⟩ := ih htail
      exact ⟨middle, .cons reply hfirst, hsecond⟩

theorem Path.done_inv {result : α} (h : Path (.done result) events rest) : events = [] ∧ rest = .done result := by
  cases h
  exact ⟨rfl, rfl⟩

theorem Path.act_inv {op : Op} {next : Reply op → Prog Op Reply α} (h : Path (.act op next) events rest) :
    (events = [] ∧ rest = .act op next) ∨
      ∃ reply events', events = ⟨op, reply⟩ :: events' ∧ Path (next reply) events' rest := by
  cases h with
  | nil => exact Or.inl ⟨rfl, rfl⟩
  | cons reply h => exact Or.inr ⟨reply, _, rfl, h⟩

/-- A path of a program with a continuation is one of the program, or one to its end and then one of the continuation. -/
theorem Path.bind_inv {f : α → Prog Op Reply β} {rest : Prog Op Reply β} (h : Path (prog.bind f) events rest) :
    (∃ rest', Path prog events rest' ∧ rest = rest'.bind f) ∨
      ∃ first second res, events = first ++ second ∧ Path prog first (.done res) ∧
        Path (f res) second rest := by
  induction prog generalizing events with
  | done res => exact Or.inr ⟨[], events, res, rfl, .nil _, h⟩
  | act op next ih =>
    obtain ⟨rfl, rfl⟩ | ⟨reply, events', rfl, htail⟩ := Path.act_inv h
    · exact Or.inl ⟨_, .nil _, rfl⟩
    · obtain ⟨rest', hpath, hrest⟩ | ⟨first, second, res, rfl, hfirst, hsecond⟩ := ih reply htail
      · exact Or.inl ⟨rest', .cons reply hpath, hrest⟩
      · exact Or.inr ⟨_ :: first, second, res, rfl, .cons reply hfirst, hsecond⟩

def Every (p : Op → Prop) : Prog Op Reply α → Prop
  | done _ => True
  | act op next => p op ∧ ∀ reply, (next reply).Every p

theorem every_embed {Op' : Type} {Reply' : Op' → Type} {into : Op → Op'} {back : ∀ op, Reply' (into op) → Reply op}
    (p : Op' → Prop) (h : ∀ op, p (into op)) (prog : Prog Op Reply α) : (prog.embed into back).Every p := by
  induction prog with
  | done res => trivial
  | act op next ih => exact ⟨h op, fun reply => ih (back op reply)⟩

theorem Path.every {p : Op → Prop}
    (hpath : Path prog events rest) (h : prog.Every p) : ∀ ev ∈ events, p ev.op := by
  induction hpath with
  | nil prog => exact fun ev hevent => absurd hevent List.not_mem_nil
  | cons reply _ ih =>
    intro ev hevent
    obtain rfl | hmem := List.mem_cons.mp hevent
    · exact h.1
    · exact ih (h.2 reply) ev hmem

end Prog

/-! ## Pools -/

structure Thread (Owner Op : Type) (Reply : Op → Type) (α : Type) where
  owner : Owner
  program : Option (Prog Op Reply α)

structure Happening (World Op : Type) (Reply : Op → Type) where
  thread : Nat
  world : World
  op : Op
  reply : Reply op

structure Pool (Store Owner World Op : Type) (Reply : Op → Type) (α : Type) where
  store : Store
  threads : List (Thread Owner Op Reply α)
  trace : List (Happening World Op Reply)

inductive Choice (Owner World Upset Crash : Type)
  | spawn (owner : Owner)
  | turn (thread : Nat) (world : World)
  | drop (thread : Nat)
  | upset (upset : Upset)
  | crash (crash : Crash)

/-- **What runs**: the programs of the owners, the operations on the store, and what else can happen to it, with the
threads running on or without them. -/
structure Machine (Store Owner World Upset Crash Op : Type) (Reply : Op → Type) (α : Type) where
  program : Owner → Prog Op Reply α
  perform : (op : Op) → World → Store → Store × Reply op
  upset : Upset → Store → Store
  crash : Crash → Store → Store

variable {Store Owner World Upset Crash : Type}

def Thread.dropped (thread : Thread Owner Op Reply α) : Thread Owner Op Reply α := { thread with program := none }

namespace Machine

variable (machine : Machine Store Owner World Upset Crash Op Reply α)

def turn (pool : Pool Store Owner World Op Reply α) (index : Nat) (world : World) : Pool Store Owner World Op Reply α :=
  match pool.threads[index]? with
  | some ⟨owner, some (.act op next)⟩ =>
    let performed := machine.perform op world pool.store
    ⟨performed.1, pool.threads.set index ⟨owner, some (next performed.2)⟩,
      pool.trace ++ [⟨index, world, op, performed.2⟩]⟩
  | _ => pool

def step (pool : Pool Store Owner World Op Reply α) : Choice Owner World Upset Crash → Pool Store Owner World Op Reply α
  | .spawn owner => { pool with threads := pool.threads ++ [⟨owner, some (machine.program owner)⟩] }
  | .turn index world => machine.turn pool index world
  | .drop index => { pool with threads := pool.threads.modify index Thread.dropped }
  | .upset upset => { pool with store := machine.upset upset pool.store }
  | .crash crash => { pool with store := machine.crash crash pool.store, threads := pool.threads.map Thread.dropped }

def start (store : Store) : Pool Store Owner World Op Reply α := ⟨store, [], []⟩

def run (store : Store) (choices : List (Choice Owner World Upset Crash)) : Pool Store Owner World Op Reply α :=
  choices.foldl machine.step (start store)

theorem run_snoc (store : Store) (cs : List (Choice Owner World Upset Crash)) (choice : Choice Owner World Upset Crash) :
    machine.run store (cs ++ [choice]) = machine.step (machine.run store cs) choice := by
  unfold run
  rw [List.foldl_append]
  rfl

end Machine

/-! ## Threads follow their programs -/

def Happening.event (happening : Happening World Op Reply) : Event Op Reply := ⟨happening.op, happening.reply⟩

def eventsOf (trace : List (Happening World Op Reply)) (index : Nat) : List (Event Op Reply) :=
  (trace.filter fun happening => happening.thread == index).map Happening.event

variable {trace : List (Happening World Op Reply)}

theorem mem_eventsOf {hp : Happening World Op Reply}
    (h : hp ∈ trace) : hp.event ∈ eventsOf trace hp.thread :=
  List.mem_map_of_mem (List.mem_filter.mpr ⟨h, beq_self_eq_true _⟩)

variable {index : Nat}

theorem of_mem_eventsOf {event : Event Op Reply}
    (h : event ∈ eventsOf trace index) : ∃ happening ∈ trace, happening.thread = index ∧ happening.event = event := by
  obtain ⟨happening, hmem, rfl⟩ := List.mem_map.mp h
  obtain ⟨htrace, hthread⟩ := List.mem_filter.mp hmem
  exact ⟨happening, htrace, beq_iff_eq.mp hthread, rfl⟩

def Pool.events (pool : Pool Store Owner World Op Reply α) (index : Nat) : List (Event Op Reply) :=
  eventsOf pool.trace index

def Machine.OnPath (machine : Machine Store Owner World Upset Crash Op Reply α) (pool : Pool Store Owner World Op Reply α)
    (index : Nat) (thread : Thread Owner Op Reply α) : Prop :=
  ∃ rest, (machine.program thread.owner).Path (pool.events index) rest ∧
    ∀ program, thread.program = some program → program = rest

namespace Machine

variable {machine : Machine Store Owner World Upset Crash Op Reply α} {pool : Pool Store Owner World Op Reply α}

/-- **A turn** changes nothing, or performs the next operation of its thread. -/
theorem turn_cases (machine : Machine Store Owner World Upset Crash Op Reply α) (pool : Pool Store Owner World Op Reply α)
    (index : Nat) (w : World) :
    machine.turn pool index w = pool ∨
      ∃ owner op next, pool.threads[index]? = some ⟨owner, some (.act op next)⟩ ∧
        machine.turn pool index w =
          ⟨(machine.perform op w pool.store).1,
            pool.threads.set index ⟨owner, some (next (machine.perform op w pool.store).2)⟩,
            pool.trace ++ [⟨index, w, op, (machine.perform op w pool.store).2⟩]⟩ := by
  unfold turn
  split
  · rename_i owner op next hthread
    exact Or.inr ⟨owner, op, next, hthread, rfl⟩
  · exact Or.inl rfl

theorem OnPath.drop {index : Nat} {th : Thread Owner Op Reply α} (h : machine.OnPath pool index th) :
    machine.OnPath pool index th.dropped := by
  obtain ⟨rest, hpath, -⟩ := h
  exact ⟨rest, hpath, fun prog hprogram => by cases hprogram⟩

def Threaded (pool : Pool Store Owner World Op Reply α) : Prop :=
  ∀ happening ∈ pool.trace, happening.thread < pool.threads.length

theorem events_nil {index : Nat} (h : Threaded pool) (hindex : pool.threads.length ≤ index) : pool.events index = [] := by
  unfold Pool.events eventsOf
  rw [List.map_eq_nil_iff, List.filter_eq_nil_iff]
  intro hp hmem
  have hlt := h hp hmem
  simp only [beq_iff_eq]
  omega

theorem step_onPath (hthreaded : Threaded pool)
    (h : ∀ index thread, pool.threads[index]? = some thread → machine.OnPath pool index thread)
    (choice : Choice Owner World Upset Crash) :
    Threaded (machine.step pool choice) ∧
      ∀ index thread, (machine.step pool choice).threads[index]? = some thread →
        machine.OnPath (machine.step pool choice) index thread := by
  cases choice with
  | spawn owner =>
    refine ⟨fun happening hmem => ?_, fun index thread hthread => ?_⟩
    · have := hthreaded happening hmem
      simp only [step, List.length_append, List.length_singleton]
      omega
    · simp only [step, List.getElem?_append] at hthread
      split at hthread
      · exact h index thread hthread
      · rename_i hindex
        -- the new thread has performed nothing
        rw [List.getElem?_singleton] at hthread
        split at hthread
        · cases hthread
          refine ⟨_, ?_, fun program hprogram => (Option.some.inj hprogram).symm⟩
          show (machine.program owner).Path (pool.events index) _
          rw [events_nil hthreaded (by omega)]
          exact .nil _
        · cases hthread
  | turn index w =>
    simp only [step]
    obtain hsame | ⟨owner, op, next, hthread, hturn⟩ := turn_cases machine pool index w
    · rw [hsame]
      exact ⟨hthreaded, h⟩
    · rw [hturn]
      have hlt : index < pool.threads.length := (List.getElem?_eq_some_iff.mp hthread).1
      refine ⟨fun happening hmem => ?_, fun other thread hother => ?_⟩
      · rw [List.length_set]
        obtain hold | hnew := List.mem_append.mp hmem
        · exact hthreaded happening hold
        · rw [List.mem_singleton.mp hnew]
          exact hlt
      · by_cases hindex : other = index
        · subst hindex
          rw [List.getElem?_set_self hlt] at hother
          cases hother
          obtain ⟨rest, hpath, hrest⟩ := h other _ hthread
          obtain rfl := hrest _ rfl
          refine ⟨_, ?_, fun program hprogram => (Option.some.inj hprogram).symm⟩
          simpa [Pool.events, eventsOf, Happening.event] using hpath.snoc (machine.perform op w pool.store).2
        · rw [List.getElem?_set_ne (Ne.symm hindex)] at hother
          obtain ⟨rest, hpath, hrest⟩ := h other thread hother
          refine ⟨rest, ?_, hrest⟩
          simpa [Pool.events, eventsOf, Ne.symm hindex] using hpath
  | drop index =>
    refine ⟨fun happening hmem => ?_, fun other thread hother => ?_⟩
    · simp only [step, List.length_modify]
      exact hthreaded happening hmem
    · simp only [step, List.getElem?_modify] at hother
      obtain ⟨old, hold, rfl⟩ := Option.map_eq_some_iff.mp hother
      split
      · exact (h other old hold).drop
      · exact h other old hold
  | upset upset => exact ⟨hthreaded, h⟩
  | crash crash =>
    refine ⟨fun happening hmem => ?_, fun other thread hother => ?_⟩
    · simp only [step, List.length_map]
      exact hthreaded happening hmem
    · simp only [step, List.getElem?_map] at hother
      obtain ⟨old, hold, rfl⟩ := Option.map_eq_some_iff.mp hother
      exact (h other old hold).drop

/-- **The operations of a thread are a path through its program.** -/
theorem run_path (machine : Machine Store Owner World Upset Crash Op Reply α) (store : Store)
    (choices : List (Choice Owner World Upset Crash)) :
    Threaded (machine.run store choices) ∧
      ∀ index thread, (machine.run store choices).threads[index]? = some thread →
        machine.OnPath (machine.run store choices) index thread := by
  induction choices using List.reverseRecOn with
  | nil =>
    refine ⟨fun happening hmem => ?_, fun index thread hthread => ?_⟩
    · exact absurd hmem List.not_mem_nil
    · exact absurd hthread (by simp [run, start])
  | append_singleton choices choice ih =>
    rw [run_snoc]
    exact step_onPath ih.1 ih.2 choice

/-- **What a thread did up to one of its operations** is a path through its program. -/
theorem run_before (machine : Machine Store Owner World Upset Crash Op Reply α) (store : Store)
    (choices : List (Choice Owner World Upset Crash)) {before after : List (Happening World Op Reply)}
    {happening : Happening World Op Reply} (htrace : (machine.run store choices).trace = before ++ happening :: after) :
    ∃ thread rest, (machine.run store choices).threads[happening.thread]? = some thread ∧
      (machine.program thread.owner).Path (eventsOf before happening.thread ++ [happening.event]) rest := by
  obtain ⟨hthreaded, hpaths⟩ := machine.run_path store choices
  have hlt := hthreaded happening (by rw [htrace]; simp)
  obtain ⟨rest, hpath, -⟩ := hpaths happening.thread _ (List.getElem?_eq_getElem hlt)
  have hevs : (machine.run store choices).events happening.thread =
      (eventsOf before happening.thread ++ [happening.event]) ++ eventsOf after happening.thread := by
    simp [Pool.events, htrace, eventsOf]
  rw [hevs] at hpath
  obtain ⟨middle, hfirst, -⟩ := hpath.split
  exact ⟨_, middle, List.getElem?_eq_getElem hlt, hfirst⟩

theorem step_trace (machine : Machine Store Owner World Upset Crash Op Reply α) (pool : Pool Store Owner World Op Reply α)
    (choice : Choice Owner World Upset Crash) :
    (machine.step pool choice).trace = pool.trace ∨
      ∃ hp, (machine.step pool choice).trace = pool.trace ++ [hp] := by
  cases choice with
  | turn index w =>
    obtain hsame | ⟨owner, op, next, -, hturn⟩ := turn_cases machine pool index w
    · exact Or.inl (congrArg Pool.trace hsame)
    · exact Or.inr ⟨_, congrArg Pool.trace hturn⟩
  | spawn owner => exact Or.inl rfl
  | drop index => exact Or.inl rfl
  | upset upset => exact Or.inl rfl
  | crash crash => exact Or.inl rfl

end Machine

/-! ## A program alone -/

/-- What a program leaves when no other takes a turn. -/
structure Outcome (Store Op : Type) (Reply : Op → Type) (α : Type) where
  store : Store
  result : α
  events : List (Event Op Reply)

/-- **The program alone on a store**, its `n`-th operation in the world `worlds n`. -/
def Prog.exec (perform : (op : Op) → World → Store → Store × Reply op) :
    Prog Op Reply α → (Nat → World) → Store → Outcome Store Op Reply α
  | .done result, _, store => ⟨store, result, []⟩
  | .act op next, worlds, store =>
    let performed := perform op (worlds 0) store
    let rest := (next performed.2).exec perform (fun n => worlds (n + 1)) performed.1
    { rest with events := ⟨op, performed.2⟩ :: rest.events }

theorem Prog.exec_bind (perform : (op : Op) → World → Store → Store × Reply op) (f : α → Prog Op Reply β)
    (prog : Prog Op Reply α) (ws : Nat → World) (store : Store) :
    (prog.bind f).exec perform ws store =
      let first := prog.exec perform ws store
      let rest := (f first.result).exec perform (fun n => ws (first.events.length + n)) first.store
      { rest with events := first.events ++ rest.events } := by
  induction prog generalizing ws store with
  | done res => simp [bind, exec]
  | act op next ih => simp [bind, exec, ih, Nat.add_right_comm]

theorem Prog.exec_path (perform : (op : Op) → World → Store → Store × Reply op) (prog : Prog Op Reply α)
    (ws : Nat → World) (store : Store) :
    prog.Path (prog.exec perform ws store).events (.done (prog.exec perform ws store).result) := by
  induction prog generalizing ws store with
  | done res => exact .nil _
  | act op next ih => exact .cons _ (ih _ _ _)

/-- **The program alone comes, by these events, to a store** with the rest of it still to run. -/
inductive Prog.Leads (perform : (op : Op) → World → Store → Store × Reply op) :
    Prog Op Reply α → (Nat → World) → Store → List (Event Op Reply) → Prog Op Reply α → Store → Prop
  | nil (prog : Prog Op Reply α) (worlds : Nat → World) (store : Store) : Leads perform prog worlds store [] prog store
  | cons {op : Op} {next : Reply op → Prog Op Reply α} {worlds : Nat → World} {store store' final : Store} {reply : Reply op}
      {events : List (Event Op Reply)} {rest : Prog Op Reply α} (h : perform op (worlds 0) store = (store', reply)) :
      Leads perform (next reply) (fun n => worlds (n + 1)) store' events rest final →
      Leads perform (.act op next) worlds store (⟨op, reply⟩ :: events) rest final

namespace Prog.Leads

variable {perform : (op : Op) → World → Store → Store × Reply op} {prog rest rest' : Prog Op Reply α} {ws : Nat → World}
  {store store' final : Store} {events events' : List (Event Op Reply)}

theorem trans (h : Leads perform prog ws store events rest store')
    (h' : Leads perform rest (fun n => ws (n + events.length)) store' events' rest' final) :
    Leads perform prog ws store (events ++ events') rest' final := by
  induction h with
  | nil => exact h'
  | cons hperform _ ih => exact .cons hperform (ih h')

theorem exec (h : Leads perform prog ws store events rest final) :
    prog.exec perform ws store =
      let after := rest.exec perform (fun n => ws (n + events.length)) final
      { after with events := events ++ after.events } := by
  induction h with
  | nil => rfl
  | cons hperform _ ih =>
    rw [Prog.exec, hperform, ih]
    rfl

end Prog.Leads

def turns (Owner Upset Crash : Type) (index : Nat) : Nat → (Nat → World) → List (Choice Owner World Upset Crash)
  | 0, _ => []
  | count + 1, worlds => .turn index (worlds 0) :: turns Owner Upset Crash index count fun n => worlds (n + 1)

def happenings (index : Nat) : List (Event Op Reply) → (Nat → World) → List (Happening World Op Reply)
  | [], _ => []
  | event :: events, worlds =>
    ⟨index, worlds 0, event.op, event.reply⟩ :: happenings index events fun n => worlds (n + 1)

theorem mem_happenings {events : List (Event Op Reply)} {ws : Nat → World} {hp : Happening World Op Reply}
    (h : hp ∈ happenings index events ws) : hp.thread = index ∧ (∃ n, hp.world = ws n) ∧ hp.event ∈ events := by
  induction events generalizing ws with
  | nil => cases h
  | cons event events ih =>
    obtain rfl | h := List.mem_cons.mp h
    · exact ⟨rfl, ⟨0, rfl⟩, List.mem_cons_self⟩
    · obtain ⟨hthread, ⟨n, hworld⟩, hevent⟩ := ih h
      exact ⟨hthread, ⟨n + 1, hworld⟩, List.mem_cons_of_mem _ hevent⟩

variable (machine : Machine Store Owner World Upset Crash Op Reply α) {pool : Pool Store Owner World Op Reply α}
  {owner : Owner}

theorem Machine.turn_act {op : Op} {next : Reply op → Prog Op Reply α}
    (hthread : pool.threads[index]? = some ⟨owner, some (.act op next)⟩) (w : World) :
    machine.turn pool index w =
      ⟨(machine.perform op w pool.store).1,
        pool.threads.set index ⟨owner, some (next (machine.perform op w pool.store).2)⟩,
        pool.trace ++ [⟨index, w, op, (machine.perform op w pool.store).2⟩]⟩ := by
  simp only [turn, hthread]

/-- **A thread that takes its turns alone** goes where its program leads. -/
theorem Machine.leads_turns {prog rest : Prog Op Reply α} {ws : Nat → World} {store final : Store}
    {events : List (Event Op Reply)} {threads : List (Thread Owner Op Reply α)}
    (h : prog.Leads machine.perform ws store events rest final) (hthread : threads[index]? = some ⟨owner, some prog⟩) :
    (turns Owner Upset Crash index events.length ws).foldl machine.step ⟨store, threads, trace⟩ =
      ⟨final, threads.set index ⟨owner, some rest⟩, trace ++ happenings index events ws⟩ := by
  induction h generalizing threads trace with
  | nil prog ws store =>
    obtain ⟨hlt, hthread⟩ := List.getElem?_eq_some_iff.mp hthread
    rw [happenings, List.append_nil, ← hthread, List.set_getElem_self hlt]
    rfl
  | @cons op next ws store store' final reply events rest hperform _ ih =>
    have hlt : index < threads.length := (List.getElem?_eq_some_iff.mp hthread).1
    have hset : (threads.set index ⟨owner, some (next reply)⟩)[index]? = some ⟨owner, some (next reply)⟩ := by simp [hlt]
    rw [List.length_cons, turns, List.foldl_cons, step, machine.turn_act hthread, hperform, ih hset, List.set_set,
      happenings, List.append_assoc]
    rfl

/-- **A new thread that takes its turns alone.** -/
theorem Machine.spawn_leads {rest : Prog Op Reply α} {ws : Nat → World} {store final : Store}
    {events : List (Event Op Reply)} (h : (machine.program owner).Leads machine.perform ws store events rest final)
    (threads : List (Thread Owner Op Reply α)) (trace : List (Happening World Op Reply)) :
    (.spawn owner :: turns Owner Upset Crash threads.length events.length ws).foldl machine.step ⟨store, threads, trace⟩ =
      ⟨final, threads ++ [⟨owner, some rest⟩], trace ++ happenings threads.length events ws⟩ := by
  have hthread : (threads ++ [⟨owner, some (machine.program owner)⟩])[threads.length]? =
      some ⟨owner, some (machine.program owner)⟩ := by simp
  rw [List.foldl_cons, step, machine.leads_turns h hthread]
  simp

end Resumption
