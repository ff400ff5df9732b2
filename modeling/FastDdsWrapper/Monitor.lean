import Mathlib.Algebra.Order.BigOperators.Group.Finset
import Mathlib.Data.Fintype.BigOperators
import FastDdsWrapper.Machine

/-!
# Threads around one lock

Threads share data and one lock. Each stands at a position of its own, and its code gives the
statement there: take the lock, let it go, act on the shared data, or nothing because it is done. A
schedule is a list of threads, each of which executes one statement, or waits where the lock is
taken. Where the code brackets its critical sections properly, the thread inside one is the holder
of the lock, so there is at most one and somebody can always go on. Where every statement spends
effort, a schedule executes boundedly many of them, and a fair one brings all threads to their end.
`Section` is what a critical section comes to when nobody else moves.
-/

namespace FastDdsWrapper.Monitor

open Machine (run attempts Attempt Preserves)

variable {ι Position Shared Fault : Type*}

/-- What a thread does next, with the position it goes on from. -/
inductive Statement (Position Shared Fault : Type*)
  /-- Take the lock, once it is free. -/
  | acquire (next : Position)
  /-- Let the lock go. -/
  | release (next : Position)
  /-- Act on the shared data, or fault. -/
  | act (effect : Shared → Except Fault (Position × Shared))
  /-- Nothing is left to do. -/
  | finished

/-- Threads around shared data and one lock. -/
structure Threads (ι Position Shared : Type*) where
  /-- The shared data. -/
  shared : Shared
  /-- Where each thread stands. -/
  position : ι → Position
  /-- The thread that holds the lock. -/
  holder : Option ι

/-- The code takes the lock where it enters a critical section, lets it go where it leaves one, and
does neither elsewhere. -/
structure Bracketed (code : ι → Position → Statement Position Shared Fault)
    (inside : Position → Prop) : Prop where
  /-- Taking the lock enters. -/
  acquire : ∀ thread position next, code thread position = .acquire next →
    ¬ inside position ∧ inside next
  /-- Letting it go leaves. -/
  release : ∀ thread position next, code thread position = .release next →
    inside position ∧ ¬ inside next
  /-- Other statements stay on their side. -/
  act : ∀ thread position effect shared next changed, code thread position = .act effect →
    effect shared = .ok (next, changed) → (inside next ↔ inside position)
  /-- Nobody ends inside. -/
  finished : ∀ thread position, code thread position = .finished → ¬ inside position

/-- The thread inside a critical section is the holder of the lock. -/
def Held (inside : Position → Prop) (threads : Threads ι Position Shared) : Prop :=
  ∀ thread, inside (threads.position thread) ↔ threads.holder = some thread

variable {inside : Position → Prop} {threads : Threads ι Position Shared}

/-- At most one thread is inside. -/
theorem Held.exclusive (held : Held inside threads) {first second : ι}
    (one : inside (threads.position first)) (two : inside (threads.position second)) :
    first = second :=
  Option.some.inj (((held first).mp one).symm.trans ((held second).mp two))

/-- With the lock free nobody is inside. -/
theorem Held.outside (held : Held inside threads) (free : threads.holder = none) (thread : ι) :
    ¬ inside (threads.position thread) := by
  intro within
  cases free.symm.trans ((held thread).mp within)

variable [DecidableEq ι]

/-- A thread goes on to a position. -/
def Threads.move (threads : Threads ι Position Shared) (thread : ι) (next : Position) :
    Threads ι Position Shared :=
  { threads with position := Function.update threads.position thread next }

/-- A move leaves the shared data. -/
@[simp] theorem Threads.move_shared (threads : Threads ι Position Shared) (thread : ι)
    (next : Position) : (threads.move thread next).shared = threads.shared := rfl

/-- A move leaves the lock. -/
@[simp] theorem Threads.move_holder (threads : Threads ι Position Shared) (thread : ι)
    (next : Position) : (threads.move thread next).holder = threads.holder := rfl

/-- A move moves its thread alone. -/
theorem Threads.move_position (threads : Threads ι Position Shared) (thread other : ι)
    (next : Position) : (threads.move thread next).position other =
      if other = thread then next else threads.position other :=
  Function.update_apply threads.position thread next other

/-- The moved thread stands at the new position. -/
@[simp] theorem Threads.move_own (threads : Threads ι Position Shared) (thread : ι)
    (next : Position) : (threads.move thread next).position thread = next := by
  simp [Threads.move]

/-- Every other thread stays. -/
theorem Threads.move_other (threads : Threads ι Position Shared) {thread other : ι}
    (apart : other ≠ thread) (next : Position) :
    (threads.move thread next).position other = threads.position other := by
  simp [Threads.move, apart]

/-- A thread executes its statement. The output says whether it went on: a thread waits for a
taken lock, and a finished thread stays. -/
def step (code : ι → Position → Statement Position Shared Fault) :
    Machine.Step (Threads ι Position Shared) ι Bool Fault := fun threads thread =>
  match code thread (threads.position thread) with
  | .finished => .ok (false, threads)
  | .acquire next =>
    match threads.holder with
    | some _ => .ok (false, threads)
    | none => .ok (true, { threads.move thread next with holder := some thread })
  | .release next => .ok (true, { threads.move thread next with holder := none })
  | .act effect =>
    match effect threads.shared with
    | .error fault => .error fault
    | .ok (next, shared) => .ok (true, { threads.move thread next with shared })

/-- The ways a statement is executed. -/
inductive Executed (code : ι → Position → Statement Position Shared Fault)
    (before : Threads ι Position Shared) (thread : ι) : Bool → Threads ι Position Shared → Prop
  /-- Nothing is left to do. -/
  | finished (here : code thread (before.position thread) = .finished) :
      Executed code before thread false before
  /-- The lock is taken. -/
  | waits (next : Position) (here : code thread (before.position thread) = .acquire next)
      (holder : ι) (taken : before.holder = some holder) : Executed code before thread false before
  /-- The lock is free and taken now. -/
  | acquires (next : Position) (here : code thread (before.position thread) = .acquire next)
      (free : before.holder = none) :
      Executed code before thread true { before.move thread next with holder := some thread }
  /-- The lock is let go. -/
  | releases (next : Position) (here : code thread (before.position thread) = .release next) :
      Executed code before thread true { before.move thread next with holder := none }
  /-- The shared data change. -/
  | acts (effect : Shared → Except Fault (Position × Shared)) (next : Position) (shared : Shared)
      (here : code thread (before.position thread) = .act effect)
      (went : effect before.shared = .ok (next, shared)) :
      Executed code before thread true { before.move thread next with shared }

variable {code : ι → Position → Statement Position Shared Fault}
variable {before after : Threads ι Position Shared} {thread : ι} {moved : Bool}

/-- A statement that does not fault is executed in one of these ways. -/
theorem step_cases (stepped : step code before thread = .ok (moved, after)) :
    Executed code before thread moved after := by
  cases here : code thread (before.position thread) with
  | finished =>
    simp only [step, here, Except.ok.injEq, Prod.mk.injEq] at stepped
    obtain ⟨rfl, rfl⟩ := stepped
    exact .finished here
  | acquire next =>
    cases taken : before.holder with
    | some holder =>
      simp only [step, here, taken, Except.ok.injEq, Prod.mk.injEq] at stepped
      obtain ⟨rfl, rfl⟩ := stepped
      exact .waits next here holder taken
    | none =>
      simp only [step, here, taken, Except.ok.injEq, Prod.mk.injEq] at stepped
      obtain ⟨rfl, rfl⟩ := stepped
      exact .acquires next here taken
  | release next =>
    simp only [step, here, Except.ok.injEq, Prod.mk.injEq] at stepped
    obtain ⟨rfl, rfl⟩ := stepped
    exact .releases next here
  | act effect =>
    rcases went : effect before.shared with fault | ⟨next, shared⟩
    · simp [step, here, went] at stepped
    · simp only [step, here, went, Except.ok.injEq, Prod.mk.injEq] at stepped
      obtain ⟨rfl, rfl⟩ := stepped
      exact .acts effect next shared here went

/-- A thread that does not go on leaves everything as it is. -/
theorem step_stays (stepped : step code before thread = .ok (false, after)) : after = before := by
  cases step_cases stepped with
  | finished here => rfl
  | waits next here holder taken => rfl

/-- A statement faults exactly where it acts and its effect faults. -/
theorem step_faults {fault : Fault} :
    step code before thread = .error fault ↔
      ∃ effect, code thread (before.position thread) = .act effect ∧
        effect before.shared = .error fault := by
  cases here : code thread (before.position thread) with
  | finished => simp [step, here]
  | acquire next => cases taken : before.holder <;> simp [step, here, taken]
  | release next => simp [step, here]
  | act effect =>
    rcases went : effect before.shared with other | ⟨next, shared⟩
    · simp [step, here, went]
    · simp [step, here, went]

/-! ## Mutual exclusion -/

/-- Every statement keeps the holder inside and everybody else outside. -/
theorem held_preserved (bracketed : Bracketed code inside) :
    Preserves (step code) (Held inside) := by
  intro before thread moved after held stepped other
  cases step_cases stepped with
  | finished here => exact held other
  | waits next here holder taken => exact held other
  | acquires next here free =>
    simp only [Threads.move_position, Option.some.injEq]
    split
    · rename_i same
      simp only [(bracketed.acquire thread _ next here).2, same]
    · rename_i apart
      rw [held other, free]
      simp only [reduceCtorEq, false_iff]
      exact fun same => apart same.symm
  | releases next here =>
    obtain ⟨within, leaves⟩ := bracketed.release thread _ next here
    simp only [Threads.move_position, reduceCtorEq, iff_false]
    split
    · exact leaves
    · rename_i apart
      exact fun still => apart (held.exclusive still within)
  | acts effect next shared here went =>
    simp only [Threads.move_position, Threads.move_holder]
    split
    · rename_i same
      rw [bracketed.act thread _ effect before.shared next shared here went, held thread, same]
    · exact held other

/-- Somebody can go on unless all are done: no thread waits for a lock that nobody can let go. -/
theorem Held.unblocked (bracketed : Bracketed code inside) (held : Held inside threads) {thread : ι}
    (unfinished : code thread (threads.position thread) ≠ .finished) :
    ∃ other, ∀ moved next, step code threads other = .ok (moved, next) → moved = true := by
  cases taken : threads.holder with
  | some holder =>
    have within := (held holder).mpr taken
    refine ⟨holder, fun moved next stepped => ?_⟩
    cases step_cases stepped with
    | finished here => exact absurd within (bracketed.finished holder _ here)
    | waits next here => exact absurd within (bracketed.acquire holder _ next here).1
    | acquires next here free => rfl
    | releases next here => rfl
    | acts effect next shared here went => rfl
  | none =>
    refine ⟨thread, fun moved next stepped => ?_⟩
    cases step_cases stepped with
    | finished here => exact absurd here unfinished
    | waits next here holder held_by => cases taken.symm.trans held_by
    | acquires next here free => rfl
    | releases next here => rfl
    | acts effect next shared here went => rfl

/-! ## Effort -/

/-- Every statement a thread executes leaves it with less to do. -/
structure Spends (code : ι → Position → Statement Position Shared Fault)
    (effort : ι → Position → Nat) : Prop where
  /-- Taking the lock is progress. -/
  acquire : ∀ thread position next, code thread position = .acquire next →
    effort thread next < effort thread position
  /-- So is letting it go. -/
  release : ∀ thread position next, code thread position = .release next →
    effort thread next < effort thread position
  /-- So is any other statement. -/
  act : ∀ thread position effect shared next changed, code thread position = .act effect →
    effect shared = .ok (next, changed) → effort thread next < effort thread position

/-- The effort of all threads together. -/
def Threads.effort [Fintype ι] (effort : ι → Position → Nat) (threads : Threads ι Position Shared) :
    Nat := ∑ thread, effort thread (threads.position thread)

/-- The attempt executed a statement. -/
def went (attempt : Attempt (Threads ι Position Shared) ι Bool Fault) : Bool :=
  match attempt.outcome with
  | .ok (moved, _) => moved
  | .error _ => false

section Effort

variable [Fintype ι] {effort : ι → Position → Nat}

/-- A thread that goes on to less effort lowers the total. -/
theorem Threads.effort_move (threads : Threads ι Position Shared) {thread : ι} {next : Position}
    (less : effort thread next < effort thread (threads.position thread)) :
    (threads.move thread next).effort effort < threads.effort effort := by
  refine Finset.sum_lt_sum (fun other _ => ?_) ⟨thread, Finset.mem_univ thread, ?_⟩
  · rw [Threads.move_position]
    split
    · rename_i same
      rw [same]
      exact less.le
    · exact le_rfl
  · rw [Threads.move_own]
    exact less

/-- An executed statement lowers the total effort, and a thread that waits leaves it. -/
theorem step_effort (spends : Spends code effort)
    (stepped : step code before thread = .ok (moved, after)) :
    after.effort effort + moved.toNat ≤ before.effort effort := by
  cases step_cases stepped with
  | finished here => exact le_rfl
  | waits next here holder taken => exact le_rfl
  | acquires next here free =>
    exact before.effort_move (spends.acquire thread _ next here)
  | releases next here =>
    exact before.effort_move (spends.release thread _ next here)
  | acts effect next shared here went =>
    exact before.effort_move (spends.act thread _ effect before.shared next shared here went)

/-- However the threads are scheduled, they execute no more statements than they have effort. -/
theorem attempts_bounded (spends : Spends code effort) (threads : Threads ι Position Shared)
    (schedule : List ι) :
    (attempts (step code) threads schedule).countP went ≤ threads.effort effort := by
  induction schedule generalizing threads with
  | nil => exact Nat.zero_le _
  | cons thread schedule ih =>
    cases stepped : step code threads thread with
    | error fault => simp [attempts, stepped, went]
    | ok result =>
      obtain ⟨moved, after⟩ := result
      have spent := step_effort spends stepped
      have later := ih after
      simp only [attempts, stepped, List.countP_cons, went]
      cases moved with
      | false => simpa using later.trans spent
      | true => simpa using (Nat.succ_le_succ later).trans spent

/-- A schedule that comes to a thread that can go on lowers the effort on the way there. -/
theorem progresses (spends : Spends code effort) {invariant : Threads ι Position Shared → Prop}
    (total : ∀ threads thread, invariant threads →
      ∃ moved next, step code threads thread = .ok (moved, next))
    (start : invariant threads) {other : ι}
    (goes : ∀ moved next, step code threads other = .ok (moved, next) → moved = true)
    (schedule : ℕ → ι) {turn : ℕ} (comes : schedule turn = other) :
    ∃ count next, run (step code) threads ((List.range count).map schedule) = .ok next ∧
      next.effort effort < threads.effort effort := by
  induction turn generalizing schedule with
  | zero =>
    obtain ⟨moved, next, stepped⟩ := total threads other start
    obtain rfl := goes moved next stepped
    refine ⟨1, next, ?_, step_effort spends stepped⟩
    rw [← comes] at stepped
    exact Machine.run_cons [] stepped
  | succ turn ih =>
    obtain ⟨moved, next, stepped⟩ := total threads (schedule 0) start
    cases moved with
    | true => exact ⟨1, next, Machine.run_cons [] stepped, step_effort spends stepped⟩
    | false =>
      obtain rfl := step_stays stepped
      obtain ⟨count, later, ran, less⟩ := ih (fun index => schedule (index + 1)) comes
      refine ⟨count + 1, later, ?_, less⟩
      rw [List.range_succ_eq_map, List.map_cons, List.map_map, Machine.run_cons _ stepped]
      exact ran

/-- Where no statement faults, a schedule that comes to every thread again and again brings all
threads to their end. -/
theorem fair_completes (bracketed : Bracketed code inside) (spends : Spends code effort)
    {invariant : Threads ι Position Shared → Prop}
    (total : ∀ threads thread, invariant threads →
      ∃ moved next, step code threads thread = .ok (moved, next))
    (preserved : Preserves (step code) invariant) (start : invariant threads)
    (held : Held inside threads) (schedule : ℕ → ι)
    (fair : ∀ thread count, ∃ turn, count ≤ turn ∧ schedule turn = thread) :
    ∃ count final, run (step code) threads ((List.range count).map schedule) = .ok final ∧
      ∀ thread, code thread (final.position thread) = .finished := by
  induction left : threads.effort effort using Nat.strong_induction_on
    generalizing threads schedule with
  | _ left ih =>
    by_cases done : ∀ thread, code thread (threads.position thread) = .finished
    · exact ⟨0, threads, rfl, done⟩
    · obtain ⟨thread, unfinished⟩ := not_forall.mp done
      obtain ⟨other, goes⟩ := held.unblocked bracketed unfinished
      obtain ⟨turn, _, comes⟩ := fair other 0
      obtain ⟨early, next, ran, less⟩ := progresses spends total start goes schedule comes
      -- The rest of a fair schedule is fair.
      have later : ∀ thread count, ∃ turn, count ≤ turn ∧ schedule (early + turn) = thread := by
        intro thread count
        obtain ⟨turn, after, here⟩ := fair thread (early + count)
        exact ⟨turn - early, by omega, by rwa [Nat.add_sub_cancel' (by omega)]⟩
      obtain ⟨late, final, rest, finished⟩ := ih (next.effort effort) (left ▸ less)
        (Machine.run_invariant preserved start ran)
        (Machine.run_invariant (held_preserved bracketed) held ran)
        (fun index => schedule (early + index)) later rfl
      refine ⟨early + late, final, ?_, finished⟩
      rw [List.range_add, List.map_append, Machine.run_append _ ran, List.map_map]
      exact rest

end Effort

/-! ## Critical sections on their own -/

/-- What the statements from a position up to the release come to when no other thread moves. -/
inductive Section (code : Position → Statement Position Shared Fault) :
    Position → Shared → Except Fault (Position × Shared) → Prop
  /-- The section is over. -/
  | release {position next : Position} (shared : Shared) (here : code position = .release next) :
      Section code position shared (.ok (next, shared))
  /-- The statement here faults. -/
  | fault {position : Position} {shared : Shared} {fault : Fault}
      {effect : Shared → Except Fault (Position × Shared)} (here : code position = .act effect)
      (faulted : effect shared = .error fault) : Section code position shared (.error fault)
  /-- The statement here is executed, and then the rest. -/
  | act {position next : Position} {shared changed : Shared}
      {effect : Shared → Except Fault (Position × Shared)}
      {result : Except Fault (Position × Shared)} (here : code position = .act effect)
      (went : effect shared = .ok (next, changed)) (rest : Section code next changed result) :
      Section code position shared result

section Inversion

variable {code : Position → Statement Position Shared Fault} {position next : Position}
variable {shared changed : Shared} {result : Except Fault (Position × Shared)}
variable {effect : Shared → Except Fault (Position × Shared)}

/-- At a release the section comes to what is there. -/
theorem Section.released (comes : Section code position shared result)
    (here : code position = .release next) : result = .ok (next, shared) := by
  cases comes with
  | release _ there =>
    obtain rfl := Statement.release.inj (here.symm.trans there)
    rfl
  | fault there => cases here.symm.trans there
  | act there => cases here.symm.trans there

/-- At a statement that faults the section comes to the fault. -/
theorem Section.faulted {fault : Fault} (comes : Section code position shared result)
    (here : code position = .act effect) (faults : effect shared = .error fault) :
    result = .error fault := by
  cases comes with
  | release _ there => cases here.symm.trans there
  | fault there faulted =>
    obtain rfl := Statement.act.inj (here.symm.trans there)
    exact faulted.symm.trans faults
  | act there went =>
    obtain rfl := Statement.act.inj (here.symm.trans there)
    cases faults.symm.trans went

/-- At a statement that is executed the section comes to what its rest comes to. -/
theorem Section.acted (comes : Section code position shared result)
    (here : code position = .act effect) (goes : effect shared = .ok (next, changed)) :
    Section code next changed result := by
  cases comes with
  | release _ there => cases here.symm.trans there
  | fault there faulted =>
    obtain rfl := Statement.act.inj (here.symm.trans there)
    cases goes.symm.trans faulted
  | act there went rest =>
    obtain rfl := Statement.act.inj (here.symm.trans there)
    obtain ⟨rfl, rfl⟩ := Prod.mk.inj (Except.ok.inj (goes.symm.trans went))
    exact rest

end Inversion

end FastDdsWrapper.Monitor
