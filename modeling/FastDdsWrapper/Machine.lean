import Mathlib.Logic.Relation

/-!
# Runs of a machine that may fault

A machine is a step function: an event in a state either faults or gives an output and the next
state. A run feeds a list of events to the machine and ends at the first fault, so a state is
reached only through steps that did not fault. An interleaving of several actors is one such
list. The rules below carry a property of single steps to every run: an invariant to every state
reached, a step condition to every step attempted, and a simulation to every path of a second,
relational machine.
-/

namespace FastDdsWrapper.Machine

universe u

variable {State Event Output Fault : Type*}

/-- A step function. A faulting step has no next state. -/
abbrev Step (State Event Output Fault : Type*) := State → Event → Except Fault (Output × State)

/-- One attempted step of a run. -/
structure Attempt (State Event Output Fault : Type*) where
  /-- State the step starts in. -/
  before : State
  /-- What the step was asked to do. -/
  event : Event
  /-- How the step ended. -/
  outcome : Except Fault (Output × State)

/-- The state after a list of events, or the first fault. -/
def run (step : Step State Event Output Fault) : State → List Event → Except Fault State
  | state, [] => .ok state
  | state, event :: events =>
    match step state event with
    | .error fault => .error fault
    | .ok (_, next) => run step next events

/-- The attempted steps of a run in order, a faulting last step included. -/
def attempts (step : Step State Event Output Fault) :
    State → List Event → List (Attempt State Event Output Fault)
  | _, [] => []
  | state, event :: events =>
    ⟨state, event, step state event⟩ ::
      match step state event with
      | .error _ => []
      | .ok (_, next) => attempts step next events

/-- A state some list of events leads to. -/
def Reachable (step : Step State Event Output Fault) (start state : State) : Prop :=
  ∃ events, run step start events = .ok state

/-- Every step that does not fault keeps the property. -/
def Preserves (step : Step State Event Output Fault) (invariant : State → Prop) : Prop :=
  ∀ state event output next,
    invariant state → step state event = .ok (output, next) → invariant next

variable {step : Step State Event Output Fault} {invariant : State → Prop}

/-- A sequence of two computations succeeds exactly when both do. -/
theorem bind_ok {α β : Type u} {first : Except Fault α} {second : α → Except Fault β}
    {result : β} :
    (first >>= second) = .ok result ↔ ∃ value, first = .ok value ∧ second value = .ok result := by
  cases first with
  | error fault => simp [bind, Except.bind]
  | ok value => simp [bind, Except.bind]

/-- A sequence of two computations faults where the first one does, or the second one after it. -/
theorem bind_error {α β : Type u} {first : Except Fault α} {second : α → Except Fault β}
    {fault : Fault} :
    (first >>= second) = .error fault ↔
      first = .error fault ∨ ∃ value, first = .ok value ∧ second value = .error fault := by
  cases first with
  | error other => simp [bind, Except.bind]
  | ok value => simp [bind, Except.bind]

/-- A mapped computation succeeds with the image of its result. -/
theorem map_ok {α β : Type u} {image : α → β} {computed : Except Fault α} {result : β} :
    computed.map image = .ok result ↔ ∃ value, computed = .ok value ∧ image value = result := by
  cases computed with
  | error fault => simp [Except.map]
  | ok value => simp [Except.map]

/-- A mapped computation faults as the computation does. -/
theorem map_error {α β : Type u} {image : α → β} {computed : Except Fault α} {fault : Fault} :
    computed.map image = .error fault ↔ computed = .error fault := by
  cases computed with
  | error other => simp [Except.map]
  | ok value => simp [Except.map]

/-- Renaming the faults of a computation keeps its results. -/
theorem mapError_ok {α Renamed : Type u} {computed : Except Fault α} {rename : Fault → Renamed}
    {result : α} : computed.mapError rename = .ok result ↔ computed = .ok result := by
  cases computed with
  | error fault =>
    show Except.error (rename fault) = .ok result ↔ _
    simp
  | ok value =>
    show Except.ok value = .ok result ↔ _
    simp

/-- A run without events stays where it is. -/
@[simp] theorem run_nil (state : State) : run step state [] = .ok state := rfl

/-- A successful first step hands the rest of the run to its next state. -/
theorem run_cons {state next : State} {event : Event} {output : Output} (events : List Event)
    (stepped : step state event = .ok (output, next)) :
    run step state (event :: events) = run step next events := by
  simp only [run, stepped]

/-- A finished run passed its first step. -/
theorem run_cons_ok {state final : State} {event : Event} {events : List Event}
    (ran : run step state (event :: events) = .ok final) :
    ∃ output next, step state event = .ok (output, next) ∧ run step next events = .ok final := by
  cases stepped : step state event with
  | error fault => simp [run, stepped] at ran
  | ok result =>
    obtain ⟨output, next⟩ := result
    rw [run_cons events stepped] at ran
    exact ⟨output, next, rfl, ran⟩

/-- Runs compose. -/
theorem run_append {state middle : State} {early : List Event} (late : List Event)
    (ran : run step state early = .ok middle) :
    run step state (early ++ late) = run step middle late := by
  induction early generalizing state with
  | nil =>
    obtain rfl := Except.ok.inj ran
    rfl
  | cons event events ih =>
    obtain ⟨output, next, stepped, rest⟩ := run_cons_ok ran
    rw [List.cons_append, run_cons _ stepped]
    exact ih rest

/-- A run that is seen to finish has a final state. -/
theorem run_finishes {state : State} {events : List Event}
    (done : (run step state events).isOk = true) :
    ∃ final, run step state events = .ok final := by
  cases ran : run step state events with
  | error fault => simp [ran, Except.isOk, Except.toBool] at done
  | ok final => exact ⟨final, rfl⟩

/-- The start is reachable. -/
theorem reachable_start (state : State) : Reachable step state state := ⟨[], rfl⟩

/-- An invariant of the start holds in every state a run reaches. -/
theorem run_invariant (preserved : Preserves step invariant) {state final : State}
    {events : List Event} (start : invariant state) (ran : run step state events = .ok final) :
    invariant final := by
  induction events generalizing state with
  | nil =>
    obtain rfl := Except.ok.inj ran
    exact start
  | cons event events ih =>
    obtain ⟨output, next, stepped, rest⟩ := run_cons_ok ran
    exact ih (preserved state event output next start stepped) rest

/-- An invariant of the start holds in every reachable state. -/
theorem reachable_invariant (preserved : Preserves step invariant) {start state : State}
    (initial : invariant start) (reached : Reachable step start state) : invariant state := by
  obtain ⟨events, ran⟩ := reached
  exact run_invariant preserved initial ran

/-- A relation that every step moves along is followed by the whole run. -/
theorem run_relation (related : State → State → Prop) (reflexive : ∀ state, related state state)
    (transitive : ∀ first second third, related first second → related second third →
      related first third)
    (stepped : ∀ state event output next, invariant state →
      step state event = .ok (output, next) → related state next)
    (preserved : Preserves step invariant) {state final : State} {events : List Event}
    (start : invariant state) (ran : run step state events = .ok final) :
    related state final := by
  induction events generalizing state with
  | nil =>
    obtain rfl := Except.ok.inj ran
    exact reflexive state
  | cons event events ih =>
    obtain ⟨output, next, first, rest⟩ := run_cons_ok ran
    exact transitive state next final (stepped state event output next start first)
      (ih (preserved state event output next start first) rest)

/-- A list that every step extends by what its event brings is, after a run, extended by what all
events brought. -/
theorem run_accumulates {Item : Type*} (total : State → List Item) (gain : Event → List Item)
    (stepped : ∀ state event output next, invariant state →
      step state event = .ok (output, next) → total next = total state ++ gain event)
    (preserved : Preserves step invariant) {state final : State} {events : List Event}
    (start : invariant state) (ran : run step state events = .ok final) :
    total final = total state ++ events.flatMap gain := by
  induction events generalizing state with
  | nil =>
    obtain rfl := Except.ok.inj ran
    rw [List.flatMap_nil, List.append_nil]
  | cons event events ih =>
    obtain ⟨output, next, first, rest⟩ := run_cons_ok ran
    have later := ih (preserved state event output next start first) rest
    rw [later, stepped state event output next start first, List.flatMap_cons, List.append_assoc]

/-- Where every allowed event is answered in a state of the invariant and leads to another, a run of
allowed events finishes in a state of the invariant. -/
theorem run_total {allowed : Event → Prop}
    (total : ∀ state event, invariant state → allowed event →
      ∃ output next, step state event = .ok (output, next) ∧ invariant next)
    {state : State} (events : List Event) (start : invariant state)
    (granted : ∀ event ∈ events, allowed event) :
    ∃ final, run step state events = .ok final ∧ invariant final := by
  induction events generalizing state with
  | nil => exact ⟨state, rfl, start⟩
  | cons event events ih =>
    obtain ⟨first, rest⟩ := List.forall_mem_cons.mp granted
    obtain ⟨output, next, stepped, inside⟩ := total state event start first
    rw [run_cons events stepped]
    exact ih inside rest

/-- Where no step from a state of the invariant faults, every run finishes. -/
theorem run_progress (total : ∀ state event, invariant state →
      ∃ output next, step state event = .ok (output, next))
    (preserved : Preserves step invariant) {state : State} (events : List Event)
    (start : invariant state) : ∃ final, run step state events = .ok final := by
  have answered : ∀ state event, invariant state → True →
      ∃ output next, step state event = .ok (output, next) ∧ invariant next := by
    intro state event inside _
    obtain ⟨output, next, stepped⟩ := total state event inside
    exact ⟨output, next, stepped, preserved state event output next inside stepped⟩
  obtain ⟨final, ran, _⟩ := run_total answered events start (fun _ _ => trivial)
  exact ⟨final, ran⟩

/-- While every attempted step is allowed, every attempted step starts in a state of an invariant
that allowed steps keep, and ends as the machine says. -/
theorem attempts_while {allowed : Attempt State Event Output Fault → Prop}
    (kept : ∀ state event output next, invariant state →
      step state event = .ok (output, next) → allowed ⟨state, event, .ok (output, next)⟩ →
        invariant next)
    {state : State} {events : List Event} (start : invariant state)
    (granted : ∀ attempt ∈ attempts step state events, allowed attempt) :
    ∀ attempt ∈ attempts step state events,
      invariant attempt.before ∧ attempt.outcome = step attempt.before attempt.event := by
  induction events generalizing state with
  | nil =>
    intro attempt member
    simp [attempts] at member
  | cons event events ih =>
    intro attempt member
    rw [attempts, List.mem_cons] at member
    rcases member with rfl | later
    · exact ⟨start, rfl⟩
    · cases stepped : step state event with
      | error fault => simp [stepped] at later
      | ok result =>
        obtain ⟨output, next⟩ := result
        simp only [attempts, stepped, List.mem_cons, forall_eq_or_imp] at later granted
        exact ih (kept state event output next start stepped granted.1) granted.2 attempt later

/-- Only the given events are attempted. -/
theorem attempts_event {state : State} {events : List Event}
    {attempt : Attempt State Event Output Fault} (member : attempt ∈ attempts step state events) :
    attempt.event ∈ events := by
  induction events generalizing state with
  | nil => simp [attempts] at member
  | cons event events ih =>
    rw [attempts, List.mem_cons] at member
    rcases member with rfl | later
    · exact List.mem_cons_self
    · cases stepped : step state event with
      | error fault => simp [stepped] at later
      | ok result =>
        rw [stepped] at later
        exact List.mem_cons_of_mem event (ih later)

/-- While every attempted step is allowed, a finished run ends in a state of an invariant that
allowed steps keep. -/
theorem run_while {allowed : Attempt State Event Output Fault → Prop}
    (kept : ∀ state event output next, invariant state →
      step state event = .ok (output, next) → allowed ⟨state, event, .ok (output, next)⟩ →
        invariant next)
    {state final : State} {events : List Event} (start : invariant state)
    (granted : ∀ attempt ∈ attempts step state events, allowed attempt)
    (ran : run step state events = .ok final) : invariant final := by
  induction events generalizing state with
  | nil =>
    obtain rfl := Except.ok.inj ran
    exact start
  | cons event events ih =>
    obtain ⟨output, next, stepped, rest⟩ := run_cons_ok ran
    simp only [attempts, stepped, List.mem_cons, forall_eq_or_imp] at granted
    exact ih (kept state event output next start stepped granted.1) granted.2 rest

/-- Every attempted step starts in a state of the invariant and ends as the machine says. -/
theorem attempts_sound (preserved : Preserves step invariant) {state : State}
    {events : List Event} (start : invariant state) :
    ∀ attempt ∈ attempts step state events,
      invariant attempt.before ∧ attempt.outcome = step attempt.before attempt.event := by
  have kept : ∀ state event output next, invariant state →
      step state event = .ok (output, next) → True → invariant next := by
    intro state event output next inside stepped _
    exact preserved state event output next inside stepped
  exact attempts_while kept start (fun _ _ => trivial)

/-- A step property that is a condition on the state before the step holds all along a run exactly
when the condition does, also where only steps with the property keep the invariant. -/
theorem attempts_iff_while {held : Attempt State Event Output Fault → Prop}
    {condition : State → Event → Prop}
    (exact_at : ∀ state event, invariant state →
      (held ⟨state, event, step state event⟩ ↔ condition state event))
    (kept : ∀ state event output next, invariant state →
      step state event = .ok (output, next) → held ⟨state, event, .ok (output, next)⟩ →
        invariant next)
    {state : State} (events : List Event) (start : invariant state) :
    (∀ attempt ∈ attempts step state events, held attempt) ↔
      ∀ attempt ∈ attempts step state events, condition attempt.before attempt.event := by
  have pointwise : ∀ attempt : Attempt State Event Output Fault, invariant attempt.before →
      attempt.outcome = step attempt.before attempt.event →
        (held attempt ↔ condition attempt.before attempt.event) := by
    intro attempt inside same
    obtain ⟨before, event, outcome⟩ := attempt
    simp only at inside same
    subst same
    exact exact_at before event inside
  constructor
  · intro all attempt member
    obtain ⟨inside, same⟩ := attempts_while kept start all attempt member
    exact (pointwise attempt inside same).mp (all attempt member)
  · intro all attempt member
    have granted : ∀ state event output next, invariant state →
        step state event = .ok (output, next) → condition state event → invariant next := by
      intro state event output next inside stepped allowed
      have property := (exact_at state event inside).mpr allowed
      rw [stepped] at property
      exact kept state event output next inside stepped property
    obtain ⟨inside, same⟩ := attempts_while granted start all attempt member
    exact (pointwise attempt inside same).mpr (all attempt member)

/-- A step property that is a condition on the state before the step holds all along a run exactly
when the condition does. -/
theorem attempts_iff (preserved : Preserves step invariant)
    {held : Attempt State Event Output Fault → Prop} {condition : State → Event → Prop}
    (exact_at : ∀ state event, invariant state →
      (held ⟨state, event, step state event⟩ ↔ condition state event))
    {state : State} (events : List Event) (start : invariant state) :
    (∀ attempt ∈ attempts step state events, held attempt) ↔
      ∀ attempt ∈ attempts step state events, condition attempt.before attempt.event := by
  have kept : ∀ state event output next, invariant state →
      step state event = .ok (output, next) → held ⟨state, event, .ok (output, next)⟩ →
        invariant next := by
    intro state event output next inside stepped _
    exact preserved state event output next inside stepped
  exact attempts_iff_while exact_at kept events start

/-- Once spent, a mark is on no later attempt. -/
theorem attempts_spent (preserved : Preserves step invariant)
    {marked : Attempt State Event Output Fault → Prop} {spent : State → Prop}
    (kept : ∀ state event output next, invariant state → spent state →
      step state event = .ok (output, next) → spent next)
    (excluded : ∀ state event, invariant state → spent state →
      ¬ marked ⟨state, event, step state event⟩)
    {state : State} (events : List Event) (start : invariant state) (gone : spent state) :
    ∀ attempt ∈ attempts step state events, ¬ marked attempt := by
  have both : Preserves step (fun state => invariant state ∧ spent state) := by
    intro before event output next inside stepped
    exact ⟨preserved before event output next inside.1 stepped,
      kept before event output next inside.1 inside.2 stepped⟩
  intro attempt member
  obtain ⟨inside, same⟩ := attempts_sound both ⟨start, gone⟩ attempt member
  have apart := excluded attempt.before attempt.event inside.1 inside.2
  rwa [← same] at apart

/-- A mark that a step spends is on at most one attempt of a run. -/
theorem attempts_once (preserved : Preserves step invariant)
    (marked : Attempt State Event Output Fault → Prop) (spent : State → Prop)
    (spends : ∀ state event output next, invariant state →
      step state event = .ok (output, next) → marked ⟨state, event, .ok (output, next)⟩ →
        spent next)
    (kept : ∀ state event output next, invariant state → spent state →
      step state event = .ok (output, next) → spent next)
    (excluded : ∀ state event, invariant state → spent state →
      ¬ marked ⟨state, event, step state event⟩)
    {state : State} (events : List Event) (start : invariant state) :
    (attempts step state events).Pairwise fun first second => ¬ (marked first ∧ marked second) := by
  induction events generalizing state with
  | nil => exact List.Pairwise.nil
  | cons event events ih =>
    cases stepped : step state event with
    | error fault =>
      simp only [attempts, stepped]
      exact List.pairwise_singleton _ _
    | ok result =>
      obtain ⟨output, next⟩ := result
      have inside := preserved state event output next start stepped
      simp only [attempts, stepped]
      refine List.pairwise_cons.mpr ⟨fun later member both => ?_, ih inside⟩
      have gone := spends state event output next start stepped both.1
      exact attempts_spent preserved kept excluded events inside gone later member both.2

/-- A simulation carries a run over to a path of the second machine. -/
theorem run_simulates {Abstract : Type*} (move : Abstract → Abstract → Prop)
    (related : State → Abstract → Prop)
    (matched : ∀ state event output next source, related state source →
      step state event = .ok (output, next) →
        ∃ target, Relation.ReflTransGen move source target ∧ related next target)
    {state final : State} {events : List Event} {source : Abstract}
    (start : related state source) (ran : run step state events = .ok final) :
    ∃ target, Relation.ReflTransGen move source target ∧ related final target := by
  induction events generalizing state source with
  | nil =>
    obtain rfl := Except.ok.inj ran
    exact ⟨source, .refl, start⟩
  | cons event events ih =>
    obtain ⟨output, next, stepped, rest⟩ := run_cons_ok ran
    obtain ⟨middle, first, there⟩ := matched state event output next source start stepped
    obtain ⟨target, later, done⟩ := ih there rest
    exact ⟨target, first.trans later, done⟩

end FastDdsWrapper.Machine
