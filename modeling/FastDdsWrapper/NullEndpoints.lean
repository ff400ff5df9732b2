import FastDdsWrapper.EndpointObjects

/-!
# Null data endpoints

`create_datawriter` and `create_datareader` may return null, and the constructors of the endpoint
objects store what they return without looking. `writeMessage` and the destructor of a writer
object then use the null pointer, which the destructor of a reader object does not. This module
finds the runs without such a use: those in which the middleware made every data endpoint it was
asked for.
-/

namespace FastDdsWrapper

open Machine (run attempts bind_ok bind_error)

variable {σ Qos Message : Type} {api : Middleware σ Qos Message}
variable {participant : DomainParticipant}

/-- The step uses no null pointer, and an endpoint object that it returns holds a data endpoint. -/
structure NullFree
    (attempt : Machine.Attempt (World σ) (Call Qos Message) Answer Fault) : Prop where
  /-- No null pointer is dereferenced or handed to a deleting call. -/
  used : attempt.outcome ≠ .error .nullPointer
  /-- A returned object is not half made. -/
  filled : ∀ endpoint after, attempt.outcome = .ok (.endpoint (some endpoint), after) →
    endpoint.data ≠ none

/-- The middleware makes the data endpoint that a creating method asks it for. -/
def Makes (create : σ → Group → Topic → Qos → Nat → Option DataEndpoint × σ)
    (pointer : Pointer Group) (world : World σ) (topicName : String) (qos : Qos) : Prop :=
  ∀ group topic, pointer = .address group →
    world.self.mapTopics.lookup topicName = some (some topic) →
      (create world.middleware group topic qos world.nextObject).1 ≠ none

/-- The middleware makes the data endpoint that the call asks it for, if it asks for one. -/
def Answered (api : Middleware σ Qos Message) (world : World σ) : Call Qos Message → Prop
  | .createDataWriter topicName dataWriterQos =>
    Makes api.createDatawriter world.self.publisher world topicName dataWriterQos
  | .createDataReader topicName dataReaderQos =>
    Makes api.createDatareader world.self.subscriber world topicName dataReaderQos
  | _ => True

/-- The process around an object that got its publisher and its subscriber, where no endpoint object
is half made. -/
structure Filled (api : Middleware σ Qos Message) (participant : DomainParticipant)
    (world : World σ) : Prop where
  /-- The stores are in step. -/
  consistent : Consistent api participant world
  /-- The participant is alive and the object's groups are its groups. -/
  rooted : Rooted api participant world
  /-- Neither group pointer is null. -/
  grouped : ∃ publisher subscriber, world.self.publisher = .address publisher ∧
    world.self.subscriber = .address subscriber
  /-- Every endpoint object holds a data endpoint. -/
  filled : ∀ endpoint ∈ world.endpoints, endpoint.data ≠ none

/-! ## Which calls use the pointer -/

/-- `writeMessage` meets a null pointer exactly on a half made object. -/
theorem writeMessage_null {middleware : σ} {endpoint : Endpoint} {message : Message} :
    writeMessage api middleware endpoint message = .error .nullPointer ↔ endpoint.data = none := by
  simp only [writeMessage, bind_error, Pointer.deref_null, Pointer.ofOption_eq_null, reduceCtorEq,
    and_false, exists_false, or_false]

/-- The destructor of a writer object meets one only on a half made object. -/
theorem destructDataWriter_null {middleware : σ} {endpoint : Endpoint}
    (faulted : destructDataWriter api middleware endpoint = .error .nullPointer) :
    endpoint.data = none := by
  simp only [destructDataWriter, bind_error, Pointer.deref_null, reduceCtorEq,
    Pointer.ofOption_eq_null, and_false, exists_false, or_false, false_or] at faulted
  obtain ⟨_, _, missing⟩ := faulted
  exact missing

/-- The destructor of a reader object never meets one. -/
theorem destructDataReader_null (middleware : σ) (endpoint : Endpoint) :
    destructDataReader api middleware endpoint ≠ .error .nullPointer := by
  cases made : endpoint.data with
  | none => simp [destructDataReader, made]
  | some data => simp [destructDataReader, made, bind_error, Pointer.deref_null]

/-- Where the middleware makes the data endpoint, a creating method returns no half made object. -/
theorem Makes.filled {create : σ → Group → Topic → Qos → Nat → Option DataEndpoint × σ}
    {kind : EndpointKind} {pointer : Pointer Group} {world : World σ} {topicName : String}
    {qos : Qos} (makes : Makes create pointer world topicName qos) {endpoint : Endpoint} {next : σ}
    (returned : createEndpoint api create kind pointer world.toHost topicName qos world.nextObject =
      .ok (some endpoint, next)) : endpoint.data ≠ none := by
  cases createEndpoint_ok.mp returned with
  | constructed group topic data _ found source alive listed answered =>
    have made := makes group topic source found
    rw [answered] at made
    exact made

/-- In a settled process a creating method returns a half made object exactly when the middleware
refuses. -/
theorem createEndpoint_filled_iff
    {create : σ → Group → Topic → Qos → Nat → Option DataEndpoint × σ} (kind : EndpointKind)
    {pointer : Pointer Group} {world : World σ} (consistent : Consistent api participant world)
    (rooted : Rooted api participant world)
    (pointed : ∀ group, pointer = .address group →
      world.self.publisher = .address group ∨ world.self.subscriber = .address group)
    {topicName : String} {qos : Qos} :
    (∀ endpoint next, createEndpoint api create kind pointer world.toHost topicName qos
        world.nextObject = .ok (some endpoint, next) → endpoint.data ≠ none) ↔
      Makes create pointer world topicName qos := by
  constructor
  · intro filled group topic source found missing
    have alive := ((rooted.groups group).mpr (pointed group source)).1
    have listed := ((consistent.inStep.topics topicName topic).mp found).1
    rcases answered : create world.middleware group topic qos world.nextObject with ⟨data, next⟩
    have returned : createEndpoint api create kind pointer world.toHost topicName qos
        world.nextObject = .ok (some ⟨kind, world.nextObject, topicName, group, data⟩, next) :=
      createEndpoint_ok.mpr (.constructed group topic data next found source alive listed answered)
    rw [answered] at missing
    exact filled _ next returned missing
  · intro makes endpoint next returned
    exact makes.filled returned

/-- A creating call is free of null pointers exactly when the middleware makes the data endpoint. -/
theorem creation_nullFree_iff
    {create : σ → Group → Topic → Qos → Nat → Option DataEndpoint × σ} {kind : EndpointKind}
    {pointer : Pointer Group} {world : World σ} (consistent : Consistent api participant world)
    (rooted : Rooted api participant world) {group : Group} (source : pointer = .address group)
    (pointed : world.self.publisher = .address group ∨ world.self.subscriber = .address group)
    {topicName : String} {qos : Qos} {call : Call Qos Message}
    (stepped : World.step api world call =
      createEndpoint api create kind pointer world.toHost topicName qos world.nextObject >>=
        fun result => .ok (world.adopt result)) :
    NullFree ⟨world, call, World.step api world call⟩ ↔
      Makes create pointer world topicName qos := by
  have own : ∀ other, pointer = .address other →
      world.self.publisher = .address other ∨ world.self.subscriber = .address other := by
    intro other same
    obtain rfl := Pointer.address.inj (source.symm.trans same)
    exact pointed
  rw [← createEndpoint_filled_iff kind consistent rooted own, stepped]
  constructor
  · intro free endpoint next returned
    refine free.filled endpoint (world.adopt (some endpoint, next)).2 (bind_ok.mpr ?_)
    exact ⟨_, returned, rfl⟩
  · intro filled
    constructor
    · intro faulted
      obtain ⟨result, total⟩ :=
        createEndpoint_total create kind consistent rooted source pointed topicName qos
          world.nextObject
      rw [total] at faulted
      cases faulted
    · intro endpoint after returned
      obtain ⟨⟨result, next⟩, created, adopted⟩ := bind_ok.mp returned
      have answer := congrArg Prod.fst (Except.ok.inj adopted)
      rw [World.adopt_answer] at answer
      obtain rfl := Answer.endpoint.inj answer
      exact filled endpoint next created

/-- A step from a filled process is free of null pointers exactly when the middleware makes the data
endpoint the call asks for. -/
theorem step_nullFree_iff {world : World σ} (whole : Filled api participant world)
    (call : Call Qos Message) :
    NullFree ⟨world, call, World.step api world call⟩ ↔ Answered api world call := by
  obtain ⟨consistent, rooted, ⟨publisher, subscriber, published, subscribed⟩, filled⟩ := whole
  cases call with
  | registerTopic topicName dataType topicQos =>
    refine iff_of_true ⟨?_, ?_⟩ trivial
    · intro faulted
      simp only [World.step, bind_error, reduceCtorEq, and_false, exists_false, or_false]
        at faulted
      cases (registerTopic_misused rooted.live faulted).1
    · intro endpoint after returned
      simp [World.step, bind_ok] at returned
  | unregisterTopic topicName =>
    refine iff_of_true ⟨?_, ?_⟩ trivial
    · intro faulted
      simp only [World.step, bind_error, reduceCtorEq, and_false, exists_false, or_false]
        at faulted
      obtain ⟨value, next, returned⟩ := unregisterTopic_returns consistent rooted topicName
      cases returned.symm.trans faulted
    · intro endpoint after returned
      simp [World.step, bind_ok] at returned
  | createDataWriter topicName dataWriterQos =>
    exact creation_nullFree_iff consistent rooted published (.inl published) rfl
  | createDataReader topicName dataReaderQos =>
    exact creation_nullFree_iff consistent rooted subscribed (.inr subscribed) rfl
  | writeMessage object message =>
    cases found : world.find .writer object with
    | none => refine iff_of_true ⟨?_, ?_⟩ trivial <;> simp [World.step, found]
    | some endpoint =>
      refine iff_of_true ⟨?_, ?_⟩ trivial
      · intro faulted
        simp only [World.step, found, bind_error, writeMessage_null, reduceCtorEq, and_false,
          exists_false, or_false] at faulted
        exact filled endpoint (World.find_mem found) faulted
      · intro other after returned
        simp [World.step, found, bind_ok] at returned
  | destroyEndpoint kind object =>
    cases found : world.find kind object with
    | none => refine iff_of_true ⟨?_, ?_⟩ trivial <;> simp [World.step, found]
    | some endpoint =>
      refine iff_of_true ⟨?_, ?_⟩ trivial
      · intro faulted
        simp only [World.step, found, bind_error, reduceCtorEq, and_false, exists_false, or_false]
          at faulted
        cases made : endpoint.kind with
        | writer =>
          simp only [destructEndpoint, made] at faulted
          exact filled endpoint (World.find_mem found) (destructDataWriter_null faulted)
        | reader =>
          simp only [destructEndpoint, made] at faulted
          exact destructDataReader_null _ _ faulted
      · intro other after returned
        simp [World.step, found, bind_ok] at returned

/-! ## Runs -/

/-- A step that is free of null pointers leaves a filled process. -/
theorem Filled.step (contract : Contract api) {before after : World σ} {call : Call Qos Message}
    {answer : Answer} (whole : Filled api participant before)
    (stepped : World.step api before call = .ok (answer, after))
    (free : NullFree ⟨before, call, .ok (answer, after)⟩) : Filled api participant after := by
  obtain ⟨consistent, rooted, ⟨publisher, subscriber, published, subscribed⟩, filled⟩ := whole
  have effect := step_effect contract rooted.owner stepped
  obtain ⟨samePublisher, sameSubscriber⟩ := effect.pointers
  refine ⟨effect.consistent consistent, effect.rooted rooted, ⟨publisher, subscriber, ?_, ?_⟩, ?_⟩
  · rw [samePublisher]
    exact published
  · rw [sameSubscriber]
    exact subscribed
  · intro endpoint member
    rcases World.step_objects stepped member with old | rfl
    · exact filled endpoint old
    · exact free.filled endpoint after rfl

/-- In every run over an object that got its participant, publisher and subscriber, whatever the
middleware answers, no step uses a null pointer or returns a half made endpoint object exactly when
the middleware makes every data endpoint it is asked for. -/
theorem null_free_iff (contract : Contract api) (middleware : σ) (domainId : Int)
    (participantQos : Qos) (participant : DomainParticipant) (publisher subscriber : Group)
    (created : (World.construct api middleware domainId participantQos).self.participant =
      some participant)
    (published : (World.construct api middleware domainId participantQos).self.publisher =
      .address publisher)
    (subscribed : (World.construct api middleware domainId participantQos).self.subscriber =
      .address subscriber)
    (calls : List (Call Qos Message)) :
    (∀ attempt ∈ attempts (World.step api)
        (World.construct api middleware domainId participantQos) calls, NullFree attempt) ↔
      ∀ attempt ∈ attempts (World.step api)
        (World.construct api middleware domainId participantQos) calls,
        Answered api attempt.before attempt.event := by
  have start : Filled api participant (World.construct api middleware domainId participantQos) := by
    refine ⟨construct_consistent contract created, construct_rooted contract created,
      ⟨publisher, subscriber, published, subscribed⟩, ?_⟩
    intro endpoint member
    obtain ⟨self, next, world, _⟩ := World.construct_constructed contract created
    rw [world] at member
    cases member
  refine Machine.attempts_iff_while (fun world call whole => step_nullFree_iff whole call) ?_ calls
    start
  intro before call answer after whole stepped free
  exact whole.step contract stepped free

/-- The middleware that never refuses by script makes every data endpoint. -/
theorem reference_answered (world : World Reference) (call : Call Unit String) :
    Answered (reference false) world call := by
  cases call with
  | createDataWriter topicName dataWriterQos => exact fun _ _ _ _ => Option.some_ne_none _
  | createDataReader topicName dataReaderQos => exact fun _ _ _ _ => Option.some_ne_none _
  | _ => trivial

/-- A writer and a reader that are made, used and destroyed. -/
def endpointCalls : List (Call Unit String) :=
  [.registerTopic "a" (some ⟨1, "T"⟩) (), .createDataWriter "a" (), .createDataReader "a" (),
    .writeMessage 0 "m", .destroyEndpoint .writer 0, .destroyEndpoint .reader 1]

/-- Where nothing is refused, these calls run to the end and use no null pointer. -/
theorem null_free_iff_granted :
    (run (World.step (reference false)) started endpointCalls).isOk = true ∧
      ∀ attempt ∈ attempts (World.step (reference false)) started endpointCalls,
        NullFree attempt := by
  have exactly := null_free_iff (reference_contract false) (Reference.fresh []) 0 () ⟨1⟩
    ⟨.writer, ⟨1⟩, 2⟩ ⟨.reader, ⟨1⟩, 1⟩ (by decide) (by decide) (by decide) endpointCalls
  exact ⟨by decide, exactly.mpr fun attempt _ => reference_answered attempt.before attempt.event⟩

/-- A process whose `create_datawriter` is refused after the topic was made. -/
def refusedWriter : World Reference :=
  World.construct (reference true) (Reference.fresh [false, false, false, false, true]) 0 ()

/-- The object is complete, the refused writer object is returned all the same, and writing with it
uses its null pointer, as destroying it does. -/
theorem refused_writer_used :
    (refusedWriter.self.participant = some ⟨1⟩ ∧
      refusedWriter.self.publisher = .address ⟨.writer, ⟨1⟩, 2⟩ ∧
      refusedWriter.self.subscriber = .address ⟨.reader, ⟨1⟩, 1⟩) ∧
    ¬ (∀ attempt ∈ attempts (World.step (reference true)) refusedWriter
      [.registerTopic "a" (some ⟨1, "T"⟩) (), .createDataWriter "a" (), .writeMessage 0 "m"],
        NullFree attempt) ∧
    ¬ ∀ attempt ∈ attempts (World.step (reference true)) refusedWriter
      [.registerTopic "a" (some ⟨1, "T"⟩) (), .createDataWriter "a" (),
        .destroyEndpoint .writer 0], NullFree attempt := by
  refine ⟨by decide, ?_, ?_⟩
  · intro free
    exact (free _ (.tail _ (.tail _ (.head _)))).used rfl
  · intro free
    exact (free _ (.tail _ (.tail _ (.head _)))).used rfl

end FastDdsWrapper
