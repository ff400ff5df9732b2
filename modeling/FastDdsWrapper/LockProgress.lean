import FastDdsWrapper.Linearization

/-!
# Locked calls come to their end

On an object that got its participant, its publisher and its subscriber, calls of the four locked
methods run to their end: no statement faults in any interleaving, a call takes at most seven
statements, and a schedule that comes to every thread again and again leaves no thread waiting. That
no statement faults is read off the whole calls that the statements are linearised to.
-/

namespace FastDdsWrapper

open Monitor (Threads)
open Machine (run attempts)

variable {σ Qos Message : Type} {api : Middleware σ Qos Message}
variable {participant : DomainParticipant}

/-- The process around an object that can serve every locked call. -/
structure Serving (api : Middleware σ Qos Message) (participant : DomainParticipant)
    (world : World σ) : Prop where
  /-- The stores are in step. -/
  consistent : Consistent api participant world
  /-- The participant is alive and the object's groups are its groups. -/
  rooted : Rooted api participant world
  /-- Neither group pointer is null. -/
  grouped : ∃ publisher subscriber, world.self.publisher = .address publisher ∧
    world.self.subscriber = .address subscriber

/-- Every call leaves the object able to serve. -/
theorem Serving.step (contract : Contract api) {before after : World σ} {call : Call Qos Message}
    {answer : Answer} (serving : Serving api participant before)
    (stepped : World.step api before call = .ok (answer, after)) :
    Serving api participant after := by
  obtain ⟨consistent, rooted, publisher, subscriber, published, subscribed⟩ := serving
  have effect := step_effect contract rooted.owner stepped
  obtain ⟨samePublisher, sameSubscriber⟩ := effect.pointers
  refine ⟨effect.consistent consistent, effect.rooted rooted, publisher, subscriber, ?_, ?_⟩
  · rw [samePublisher, published]
  · rw [sameSubscriber, subscribed]

/-- It serves every locked call that is not given a deleted data type object. -/
theorem Serving.returns {world : World σ} (serving : Serving api participant world)
    {call : Call Qos Message} (locked : call.Locked) (fit : ¬ Misused world call) {fault : Fault} :
    World.step api world call ≠ .error fault := by
  obtain ⟨consistent, rooted, publisher, subscriber, published, subscribed⟩ := serving
  intro faulted
  cases call with
  | registerTopic topicName dataType topicQos =>
    simp only [World.step, Machine.bind_error, reduceCtorEq, and_false, exists_false, or_false]
      at faulted
    obtain ⟨_, object, rfl, gone⟩ := registerTopic_misused rooted.live faulted
    exact fit gone
  | unregisterTopic topicName =>
    obtain ⟨value, next, returned⟩ := unregisterTopic_returns consistent rooted topicName
    simp [World.step, returned, bind, Except.bind] at faulted
  | createDataWriter topicName dataWriterQos =>
    obtain ⟨result, returned⟩ := createEndpoint_total api.createDatawriter .writer consistent
      rooted published (.inl published) topicName dataWriterQos world.nextObject
    simp [World.step, createDataWriter, returned, bind, Except.bind] at faulted
  | createDataReader topicName dataReaderQos =>
    obtain ⟨result, returned⟩ := createEndpoint_total api.createDatareader .reader consistent
      rooted subscribed (.inr subscribed) topicName dataReaderQos world.nextObject
    simp [World.step, createDataReader, returned, bind, Except.bind] at faulted
  | writeMessage object message => exact locked
  | destroyEndpoint kind object => exact locked

/-- An object that got its participant and both groups serves from its construction on. -/
theorem construct_serving (contract : Contract api) {middleware : σ} {domainId : Int}
    {participantQos : Qos}
    (created : (World.construct api middleware domainId participantQos).self.participant =
      some participant)
    (grouped : (World.construct api middleware domainId participantQos).self.publisher ≠ .null ∧
      (World.construct api middleware domainId participantQos).self.subscriber ≠ .null) :
    Serving api participant (World.construct api middleware domainId participantQos) := by
  have rooted := construct_rooted contract created
  refine ⟨construct_consistent contract created, rooted, ?_⟩
  obtain ⟨publishes, subscribes⟩ := rooted.assigned
  cases published :
      (World.construct api middleware domainId participantQos).self.publisher with
  | unassigned => exact absurd published publishes
  | null => exact absurd published grouped.1
  | address publisher =>
    cases subscribed :
        (World.construct api middleware domainId participantQos).self.subscriber with
    | unassigned => exact absurd subscribed subscribes
    | null => exact absurd subscribed grouped.2
    | address subscriber => exact ⟨publisher, subscriber, rfl, rfl⟩

variable {ι : Type} [DecidableEq ι] {clients : ι → Client Qos Message}
variable {owner : TopicDataType → ι × Nat} {spent : List TopicDataType}

/-- Whole calls keep an object serving. -/
theorem sequential_serving (contract : Contract api) :
    Machine.Preserves (sequentialStep api clients)
      (fun sequential => Serving api participant sequential.world) := by
  intro before thread output after serving stepped
  cases calls : clients thread (before.answers thread) with
  | none =>
    simp only [sequentialStep, calls, Except.ok.injEq, Prod.mk.injEq] at stepped
    obtain ⟨_, rfl⟩ := stepped
    exact serving
  | some call =>
    simp only [sequentialStep, calls, Machine.map_ok] at stepped
    obtain ⟨⟨answer, world⟩, returned, same⟩ := stepped
    obtain ⟨_, rfl⟩ := Prod.mk.inj same
    exact serving.step contract returned

/-- The threads stand against whole calls on an object that serves. -/
def Served (api : Middleware σ Qos Message) (participant : DomainParticipant)
    (clients : ι → Client Qos Message) (owner : TopicDataType → ι × Nat)
    (spent : List TopicDataType) (threads : Threads ι (Position Qos) (World σ)) : Prop :=
  ∃ sequential, Linear api clients owner spent threads sequential ∧
    Serving api participant sequential.world

/-- Every statement keeps it so. -/
theorem served_preserved (contract : Contract api)
    (locked : ∀ thread answers call, clients thread answers = some call → call.Locked)
    (handed : HandsOver clients owner spent) :
    Machine.Preserves (statementStep api clients)
      (Served api participant clients owner spent) := by
  intro before thread moved after ⟨sequential, linear, serving⟩ stepped
  obtain ⟨next, made, related⟩ := linear_step contract locked handed linear stepped
  exact ⟨next, related, Machine.run_invariant (sequential_serving contract) serving made⟩

/-- No statement faults then. -/
theorem served_total (contract : Contract api)
    (locked : ∀ thread answers call, clients thread answers = some call → call.Locked)
    (handed : HandsOver clients owner spent)
    (threads : Threads ι (Position Qos) (World σ)) (thread : ι)
    (served : Served api participant clients owner spent threads) :
    ∃ moved next, statementStep api clients threads thread = .ok (moved, next) := by
  obtain ⟨sequential, linear, serving⟩ := served
  cases stepped : statementStep api clients threads thread with
  | ok result => exact ⟨result.1, result.2, rfl⟩
  | error fault =>
    obtain ⟨_, call, calls, fit, faulted⟩ := linear_fault contract locked handed linear stepped
    exact absurd faulted (serving.returns (locked thread _ call calls) fit)

/-- Locked calls on an object that got its participant and both groups: no interleaving faults, all
schedules together execute at most seven statements for each call, and a fair one ends with every
thread returned from its last call. -/
theorem locked_calls_finish [Fintype ι] (contract : Contract api) (middleware : σ)
    (domainId : Int) (participantQos : Qos)
    (created : (World.construct api middleware domainId participantQos).self.participant =
      some participant)
    (grouped : (World.construct api middleware domainId participantQos).self.publisher ≠ .null ∧
      (World.construct api middleware domainId participantQos).self.subscriber ≠ .null)
    (locked : ∀ thread answers call, clients thread answers = some call → call.Locked)
    (handed : HandsOver clients owner []) (limit : ι → Nat)
    (stops : ∀ thread, (clients thread).Stops (limit thread)) :
    (∀ schedule, ∃ threads, run (statementStep api clients) (idleThreads ι Qos
        (World.construct api middleware domainId participantQos)) schedule = .ok threads) ∧
    (∀ schedule, (attempts (statementStep api clients) (idleThreads ι Qos
        (World.construct api middleware domainId participantQos)) schedule).countP Monitor.went ≤
          ∑ thread, 7 * limit thread) ∧
    ∀ schedule : ℕ → ι, (∀ thread count, ∃ turn, count ≤ turn ∧ schedule turn = thread) →
      ∃ count threads, run (statementStep api clients) (idleThreads ι Qos
        (World.construct api middleware domainId participantQos))
          ((List.range count).map schedule) = .ok threads ∧
            ∀ thread, (threads.position thread).point = .idle ∧
              clients thread (threads.position thread).answers = none := by
  have start : Served api participant clients owner [] (idleThreads ι Qos
      (World.construct api middleware domainId participantQos)) := by
    refine ⟨Sequential.start ι _, ?_, construct_serving contract created grouped⟩
    have empty : (World.construct api middleware domainId participantQos).destroyed = [] := rfl
    exact empty ▸ linear_start _
  have preserved : Machine.Preserves (statementStep api clients)
      (Served api participant clients owner []) := served_preserved contract locked handed
  have spends := code_spends api stops
  refine ⟨fun schedule => ?_, fun schedule => ?_, fun schedule fair => ?_⟩
  · exact Machine.run_progress (served_total contract locked handed) preserved schedule start
  · exact Monitor.attempts_bounded spends _ schedule
  · obtain ⟨count, final, ran, finished⟩ := Monitor.fair_completes (code_bracketed api clients)
      spends (served_total contract locked handed) preserved start (idleThreads_held _) schedule
      fair
    exact ⟨count, final, ran, fun thread => Client.code_finished.mp (finished thread)⟩

/-- Taking turns, the two threads return from their three calls each. -/
theorem locked_calls_finish_pair :
    ∃ count threads, run (statementStep (reference false) lockedPair)
        (idleThreads Bool Unit started)
          ((List.range count).map fun turn => decide (turn % 2 = 1)) = .ok threads ∧
      ∀ thread, (threads.position thread).point = .idle ∧
        lockedPair thread (threads.position thread).answers = none := by
  have fair : ∀ (thread : Bool) (count : ℕ),
      ∃ turn, count ≤ turn ∧ decide (turn % 2 = 1) = thread := by
    intro thread count
    cases thread with
    | false => exact ⟨2 * count, by omega, by simp⟩
    | true => exact ⟨2 * count + 1, by omega, by simp⟩
  have created : (World.construct (reference false) (Reference.fresh []) 0 ()).self.participant =
      some ⟨1⟩ := by decide
  exact (locked_calls_finish (reference_contract false) (Reference.fresh []) 0 () created
    (by decide) lockedPair_locked lockedPair_handed (fun _ => 3) lockedPair_stops).2.2 _ fair

end FastDdsWrapper
