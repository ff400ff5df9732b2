import FastDdsWrapper.DataTypeFates

/-!
# Message types behind the endpoint objects

`createDataWriter<T>` and `createDataReader<T>` choose the message type in their template argument,
while the data type that serialises a topic's samples comes from the creator in `m_topicTypes`. The
two meet behind a `void *` in `write` and `take_next_sample`. `TypedManager` runs the manager beside
what no code keeps: the message type of each creator's objects and the template argument of each
endpoint object. Every endpoint object is on a topic of its name's creator, and nothing compares
that creator's message type with the template argument.
-/

namespace FastDdsWrapper

open Machine (run attempts bind_ok)

variable {σ Qos Message τ : Type} {api : Middleware σ Qos Message}
variable {participant : DomainParticipant} {object : DDSDomainParticipant}

/-! ## The manager with message types -/

/-- A `DDSTopicDataWriter<T>` or `DDSTopicDataReader<T>` object. -/
structure Wrapper (τ : Type) where
  /-- The object. -/
  endpoint : Endpoint
  /-- Its `T`. -/
  messageType : τ

/-- A sample handed over as `void *`. -/
structure Exchange (τ : Type) where
  /-- Type of the object pointed at. -/
  pointed : τ
  /-- Message type of the data type registered for the topic, if there is one. -/
  expected : Option τ
deriving DecidableEq

/-- A manager, with the message types no code keeps. -/
structure TypedManager (σ Qos τ : Type) extends ManagerWorld σ Qos where
  /-- Message type of the objects made by the creator a name has in `m_topicTypes`. -/
  creatorType : String → τ
  /-- Message type a data type object serialises, once the object is made. -/
  serialises : TopicDataType → Option τ
  /-- The endpoint objects handed out, with their template arguments. -/
  wrappers : List (Wrapper τ)

/-- A call of the manager or on an endpoint object. -/
inductive TypedCall (τ Message : Type)
  /-- `initDomainParticipant`. -/
  | initDomainParticipant (participantName : String) (listenPort : UInt16)
      (peerLocators : List String)
  /-- `addTopicDataTypeCreator` with a creator of objects for one message type. -/
  | addTopicDataTypeCreator (topicName : String) (creator : TopicDataTypeCreator)
      (messageType : τ)
  /-- `createDataWriter<T>`. -/
  | createDataWriter (messageType : τ) (topicName : String)
  /-- `createDataReader<T>`. -/
  | createDataReader (messageType : τ) (topicName : String)
  /-- `writeMessage(const T &)` on a writer object. -/
  | writeMessage (object : Nat) (message : Message)
  /-- `on_data_available` at the listener of a reader object. -/
  | onDataAvailable (object : Nat)

namespace TypedManager

/-- A manager that has handed out nothing yet. -/
def start (manager : DDSParticipantManager Qos) (middleware : σ) (nextDataType : Nat)
    (creatorType : String → τ) : TypedManager σ Qos τ :=
  ⟨.start manager middleware nextDataType, creatorType, fun _ => none, []⟩

/-- Message type of the data type registered for a topic. -/
def expects (api : Middleware σ Qos Message) (typed : TypedManager σ Qos τ) (topic : Topic) :
    Option τ :=
  (typed.recorded api topic.typeName).bind typed.serialises

/-- What the object's data endpoint is handed, if it has one. -/
def exchange (api : Middleware σ Qos Message) (typed : TypedManager σ Qos τ)
    (wrapper : Wrapper τ) : Option (Exchange τ) :=
  wrapper.endpoint.data.map fun data => ⟨wrapper.messageType, typed.expects api data.topic⟩

/-- The endpoint object of a class and identity. -/
def find (typed : TypedManager σ Qos τ) (kind : EndpointKind) (object : Nat) :
    Option (Wrapper τ) :=
  typed.wrappers.find? fun wrapper =>
    wrapper.endpoint.kind == kind && wrapper.endpoint.object == object

/-- What the data type objects serialise once the creator of a name may have made one. -/
def learn (typed : TypedManager σ Qos τ) (topicName : String) :
    Option TopicDataType → TopicDataType → Option τ
  | none => typed.serialises
  | some dataType =>
    Function.update typed.serialises dataType (some (typed.creatorType topicName))

/-- A creating method for a message type: the manager's own, which knows nothing of the type. -/
def create (api : Middleware σ Qos Message) (typed : TypedManager σ Qos τ) (asked : Request)
    (messageType : τ) :
    Except Fault ((Answer × Option (Exchange τ)) × TypedManager σ Qos τ) := do
  let (answer, world) ← ManagerWorld.step api typed.toManagerWorld asked.call
  let created := (answer.endpoint?.map fun endpoint => Wrapper.mk endpoint messageType).toList
  .ok ((answer, none),
    ⟨world, typed.creatorType, typed.learn asked.topicName (typed.asked asked.call),
      typed.wrappers ++ created⟩)

/-- One call, with the sample it hands over. -/
def step (api : Middleware σ Qos Message) :
    Machine.Step (TypedManager σ Qos τ) (TypedCall τ Message) (Answer × Option (Exchange τ))
      Fault := fun typed call =>
  match call with
  | .initDomainParticipant participantName listenPort peerLocators => do
    let (answer, world) ← ManagerWorld.step api typed.toManagerWorld
      (.initDomainParticipant participantName listenPort peerLocators)
    .ok ((answer, none), { typed with toManagerWorld := world })
  | .addTopicDataTypeCreator topicName creator messageType => do
    let (answer, world) ← ManagerWorld.step api typed.toManagerWorld
      (.addTopicDataTypeCreator topicName creator)
    -- The message type follows the creator, which stays if the name had one.
    let creatorType :=
      if topicName ∈ typed.manager.topicTypes then typed.creatorType
      else Function.update typed.creatorType topicName messageType
    .ok ((answer, none), { typed with toManagerWorld := world, creatorType })
  | .createDataWriter messageType topicName => typed.create api ⟨.writer, topicName⟩ messageType
  | .createDataReader messageType topicName => typed.create api ⟨.reader, topicName⟩ messageType
  | .writeMessage object message =>
    match typed.find .writer object with
    | none => .ok ((.none, none), typed)
    | some wrapper => do
      let (value, middleware) ← writeMessage api typed.middleware wrapper.endpoint message
      .ok ((.flag value, typed.exchange api wrapper), { typed with middleware })
  | .onDataAvailable object =>
    match typed.find .reader object with
    | none => .ok ((.none, none), typed)
    | some wrapper => .ok ((.none, typed.exchange api wrapper), typed)

/-- The endpoint object is on the topic the map has under its name, and the data type registered for
that topic serialises the message type. -/
def BoundTo (api : Middleware σ Qos Message) (typed : TypedManager σ Qos τ) (endpoint : Endpoint)
    (messageType : τ) : Prop :=
  ∃ topic dataType, typed.entry endpoint.topicName = some (some topic) ∧
    (∀ data, endpoint.data = some data → data.topic = topic) ∧
    typed.recorded api topic.typeName = some dataType ∧
    typed.serialises dataType = some messageType

end TypedManager

/-- The call adds no creator but one of new objects. -/
def TypedCall.Fresh (call : TypedCall τ Message) : Prop :=
  ∀ topicName creator messageType,
    call = .addTopicDataTypeCreator topicName creator messageType → creator.Fresh

/-- Both sides of a `void *` mean one type. -/
def Exchange.Correct (exchange : Exchange τ) : Prop :=
  exchange.expected = some exchange.pointed

/-- An attempted call of a manager with message types. -/
abbrev TypedAttempt (σ Qos Message τ : Type) :=
  Machine.Attempt (TypedManager σ Qos τ) (TypedCall τ Message) (Answer × Option (Exchange τ)) Fault

/-- An endpoint object returned for a message type is bound to that type, and every sample handed
over has the type its topic expects. -/
def TypeCorrect (api : Middleware σ Qos Message) (attempt : TypedAttempt σ Qos Message τ) : Prop :=
  ∀ answer passed after, attempt.outcome = .ok ((answer, passed), after) →
    match attempt.event with
    | .initDomainParticipant _ _ _ | .addTopicDataTypeCreator _ _ _ => True
    | .createDataWriter messageType _ | .createDataReader messageType _ =>
      ∀ endpoint, answer = .endpoint (some endpoint) → after.BoundTo api endpoint messageType
    | .writeMessage _ _ | .onDataAvailable _ =>
      ∀ exchange, passed = some exchange → exchange.Correct

/-- A non-null answer to a request is bound to the message type of its name's creator and to no
other. The clause for every other message type holds by unfolding `create`: it records that the
message type reaches only the wrapper. -/
def CreatedByName (api : Middleware σ Qos Message) (asked : Request)
    (attempt : TypedAttempt σ Qos Message τ) : Prop :=
  (∀ endpoint passed after, attempt.outcome = .ok ((.endpoint (some endpoint), passed), after) →
    endpoint.topicName = asked.topicName ∧ ∀ messageType,
      after.BoundTo api endpoint messageType ↔
        messageType = attempt.before.creatorType asked.topicName) ∧
  ∀ other, (attempt.before.create api asked other).map
      (fun result => (result.1, result.2.toManagerWorld)) =
    attempt.outcome.map fun result => (result.1, result.2.toManagerWorld)

/-- A sample handed over is of its object's message type, where the topic expects the message type
of its name's creator. -/
def PassedByName (object : Nat) (attempt : TypedAttempt σ Qos Message τ) : Prop :=
  ∀ answer exchange after, attempt.outcome = .ok ((answer, some exchange), after) →
    ∃ wrapper ∈ attempt.before.wrappers, wrapper.endpoint.object = object ∧
      exchange = ⟨wrapper.messageType,
        some (attempt.before.creatorType wrapper.endpoint.topicName)⟩ ∧
      (exchange.Correct ↔
        wrapper.messageType = attempt.before.creatorType wrapper.endpoint.topicName)

/-- The topic name decides the message type: endpoint objects get it from the name's creator and
samples are expected to have it. -/
def TypedByName (api : Middleware σ Qos Message) (attempt : TypedAttempt σ Qos Message τ) : Prop :=
  match attempt.event with
  | .initDomainParticipant _ _ _ | .addTopicDataTypeCreator _ _ _ => True
  | .createDataWriter _ topicName => CreatedByName api ⟨.writer, topicName⟩ attempt
  | .createDataReader _ topicName => CreatedByName api ⟨.reader, topicName⟩ attempt
  | .writeMessage object _ | .onDataAvailable object => PassedByName object attempt

/-! ## What the topic names decide -/

/-- What holds between the calls. -/
structure TypedRunning (api : Middleware σ Qos Message) (participant : DomainParticipant)
    (object : DDSDomainParticipant) (typed : TypedManager σ Qos τ) : Prop where
  /-- The manager runs. -/
  running : Running api participant object typed.toManagerWorld
  /-- The data type registered for the topic of a name is one its creator made. -/
  topics : ∀ topicName topic, typed.entry topicName = some (some topic) →
    topicName ∈ typed.manager.topicTypes ∧
      ∃ dataType, (api.holdings typed.middleware).types participant topic.typeName =
          some dataType ∧
        typed.serialises dataType = some (typed.creatorType topicName)
  /-- The wrappers are endpoint objects of the manager. -/
  wrapped : ∀ wrapper ∈ typed.wrappers, wrapper.endpoint ∈ typed.endpoints
  /-- Their names have topics. -/
  listed : ∀ wrapper ∈ typed.wrappers, ∃ topic,
    typed.entry wrapper.endpoint.topicName = some (some topic)

/-- A running manager runs on over a middleware with the same holdings. -/
theorem Running.quiet {world : ManagerWorld σ Qos}
    (running : Running api participant object world) {middleware : σ}
    (held : api.holdings middleware = api.holdings world.middleware) :
    Running api participant object { world with middleware } := by
  have effect : Effect api participant (world.process object)
      (ManagerWorld.process { world with middleware } object) :=
    .quiet (api.holdings world.middleware).types rfl rfl held rfl
  refine ⟨running.present, effect.consistent running.consistent, effect.rooted running.rooted,
    running.groups, running.creators, fun dataType later => ?_⟩
  obtain ⟨intact, unrecorded⟩ := running.unused dataType later
  constructor
  · exact intact
  · show ∀ typeName, (api.holdings middleware).types participant typeName ≠ some dataType
    rw [held]
    exact unrecorded

/-- A wrapper is bound to the message type of its name's creator and to no other. -/
theorem TypedRunning.bound {typed : TypedManager σ Qos τ}
    (running : TypedRunning api participant object typed) {wrapper : Wrapper τ}
    (member : wrapper ∈ typed.wrappers) (messageType : τ) :
    typed.BoundTo api wrapper.endpoint messageType ↔
      messageType = typed.creatorType wrapper.endpoint.topicName := by
  obtain ⟨topic, entry⟩ := running.listed wrapper member
  obtain ⟨_, dataType, recorded, serialised⟩ := running.topics _ topic entry
  rw [← running.running.recorded_eq] at recorded
  constructor
  · intro bound
    obtain ⟨other, found, otherEntry, _, otherRecorded, otherSerialised⟩ := bound
    obtain rfl := Option.some.inj (Option.some.inj (entry.symm.trans otherEntry))
    obtain rfl := Option.some.inj (recorded.symm.trans otherRecorded)
    exact Option.some.inj (otherSerialised.symm.trans serialised)
  · intro same
    refine ⟨topic, dataType, entry, fun data made => ?_, recorded, same ▸ serialised⟩
    obtain ⟨_, placed⟩ := running.running.consistent.inStep.objects wrapper.endpoint
      (running.wrapped wrapper member) data made
    have shown := (ManagerWorld.entry_present running.running.present _).symm.trans entry
    exact Option.some.inj (Option.some.inj (placed.symm.trans shown))

/-- A sample an existing object hands over is expected to have the type of its name's creator. -/
theorem TypedRunning.exchange {typed : TypedManager σ Qos τ}
    (running : TypedRunning api participant object typed) {wrapper : Wrapper τ}
    (member : wrapper ∈ typed.wrappers) {exchange : Exchange τ}
    (passed : typed.exchange api wrapper = some exchange) :
    exchange = ⟨wrapper.messageType, some (typed.creatorType wrapper.endpoint.topicName)⟩ := by
  obtain ⟨data, made, rfl⟩ := Option.map_eq_some_iff.mp passed
  obtain ⟨topic, dataType, _, placed, recorded, serialised⟩ :=
    (running.bound member _).mpr rfl
  rw [TypedManager.expects, placed data made, recorded, Option.bind_some, serialised]

/-- A creating call adds the endpoint object it returns, and its name has a topic then. -/
theorem MethodOutcome.returned (contract : Contract api) {before after : ManagerWorld σ Qos}
    {asked : Request} {endpoint : Option Endpoint}
    (outcome : MethodOutcome api object before asked endpoint after) :
    after.endpoints = before.endpoints ++ endpoint.toList ∧
      ∀ made, endpoint = some made → made.topicName = asked.topicName ∧
        ∃ topic, after.entry asked.topicName = some (some topic) := by
  cases outcome with
  | unregistered registered stepped =>
    obtain ⟨_, _, _, _, rfl⟩ := registerTopic_step.mp stepped
    exact ⟨(List.append_nil _).symm, fun made same => by cases same⟩
  | created registered created _ stepped made =>
    obtain ⟨added, known⟩ := creation_returned made
    obtain ⟨self, _, _⟩ := creation_frame contract made
    obtain ⟨_, _, _, _, rfl⟩ := registerTopic_step.mp stepped
    refine ⟨added, fun returned same => ?_⟩
    rw [ManagerWorld.settle_entry, self]
    exact known returned same

/-- A creating call keeps what the type table holds. -/
theorem MethodOutcome.keeps_type (contract : Contract api) {before after : ManagerWorld σ Qos}
    {asked : Request} {endpoint : Option Endpoint}
    (outcome : MethodOutcome api object before asked endpoint after) {typeName : String}
    {dataType : TopicDataType}
    (recorded : (api.holdings before.middleware).types participant typeName = some dataType) :
    (api.holdings after.middleware).types participant typeName = some dataType := by
  have kept : ∀ {answer : Answer} {registered : World σ},
      World.step api (before.process object) (before.registration api asked.topicName) =
        .ok (answer, registered) →
      (api.holdings registered.middleware).types participant typeName = some dataType := by
    intro answer registered stepped
    obtain ⟨value, host, returned, _, rfl⟩ := registerTopic_step.mp stepped
    exact registerTopic_keeps_type contract (registerTopic_ok.mpr returned) recorded
  cases outcome with
  | unregistered registered stepped => exact kept stepped
  | created registered created _ stepped made =>
    obtain ⟨_, _, endpoints, held⟩ := creation_frame contract made
    show (api.holdings created.middleware).types participant typeName = some dataType
    rw [held]
    exact kept stepped

/-- What an object serialises is not learned anew from another object. -/
theorem TypedManager.learn_other {typed : TypedManager σ Qos τ} {topicName : String}
    {given : Option TopicDataType} {dataType : TopicDataType} (apart : given ≠ some dataType) :
    typed.learn topicName given dataType = typed.serialises dataType := by
  cases given with
  | none => rfl
  | some other =>
    have different : dataType ≠ other := fun same => apart (congrArg some same.symm)
    rw [TypedManager.learn, Function.update_of_ne different]

/-- An object its creator made serialises the creator's message type. -/
theorem TypedManager.learn_own (typed : TypedManager σ Qos τ) (topicName : String)
    (dataType : TopicDataType) :
    typed.learn topicName (some dataType) dataType = some (typed.creatorType topicName) := by
  rw [TypedManager.learn, Function.update_self]

/-- A creator that made an object is in `m_topicTypes`. -/
theorem getTopicDataType_listed {manager : DDSParticipantManager Qos} {topicName : String}
    {nextDataType : Nat} {dataType : TopicDataType}
    (given : manager.getTopicDataType topicName nextDataType = some dataType) :
    topicName ∈ manager.topicTypes := by
  by_contra absent
  rw [DDSParticipantManager.getTopicDataType, Finmap.lookup_eq_none.mpr absent] at given
  cases given

/-- After a creating method, what an entry is recorded with serialises the message type of the
creator for the entry's name. -/
theorem TypedRunning.method_topics (contract : Contract api) {before : TypedManager σ Qos τ}
    (typed : TypedRunning api participant object before) {asked : Request}
    {endpoint : Option Endpoint} {world : ManagerWorld σ Qos}
    (outcome : MethodOutcome api object before.toManagerWorld asked endpoint world)
    {topicName : String} {topic : Topic} (entry : world.entry topicName = some (some topic)) :
    topicName ∈ world.manager.topicTypes ∧
      ∃ dataType, (api.holdings world.middleware).types participant topic.typeName =
          some dataType ∧
        before.learn asked.topicName (before.asked asked.call) dataType =
          some (before.creatorType topicName) := by
  have given := before.asked_call asked
  -- A recorded object is not the new one, so what it serialises stays.
  have stays : ∀ typeName dataType,
      (api.holdings before.middleware).types participant typeName = some dataType →
        before.learn asked.topicName (before.asked asked.call) dataType =
          before.serialises dataType := by
    intro typeName dataType recorded
    apply TypedManager.learn_other
    rw [given]
    intro same
    have last := typed.running.asked same
    exact (typed.running.unused dataType (Nat.le_of_eq last.symm)).2 typeName recorded
  have old : before.entry topicName = some (some topic) →
      topicName ∈ world.manager.topicTypes ∧
        ∃ dataType, (api.holdings world.middleware).types participant topic.typeName =
            some dataType ∧
          before.learn asked.topicName (before.asked asked.call) dataType =
            some (before.creatorType topicName) := by
    intro entry
    obtain ⟨listed, dataType, recorded, serialised⟩ := typed.topics topicName topic entry
    rw [outcome.topicTypes]
    exact ⟨listed, dataType, outcome.keeps_type contract recorded,
      (stays _ dataType recorded).trans serialised⟩
  cases typed.running.method_change contract outcome with
  | unchanged same => exact old ((same topicName).symm.trans entry)
  | topicAdded dataType fresh asks free kind recorded entries =>
    have shown := (entries topicName).symm.trans entry
    split at shown
    · rename_i same
      obtain rfl := Option.some.inj (Option.some.inj shown)
      subst same
      refine ⟨?_, dataType, recorded, ?_⟩
      · rw [outcome.topicTypes]
        exact getTopicDataType_listed asks
      · rw [given, asks]
        exact before.learn_own asked.topicName dataType
    · exact old shown

/-- A creating call keeps what the topic names decide, and what it returns is among the wrappers. -/
theorem TypedRunning.create (contract : Contract api) {before after : TypedManager σ Qos τ}
    (typed : TypedRunning api participant object before) {asked : Request} {messageType : τ}
    {answer : Answer} {passed : Option (Exchange τ)}
    (created : before.create api asked messageType = .ok ((answer, passed), after)) :
    (∃ next, TypedRunning api participant next after) ∧ after.creatorType = before.creatorType ∧
      ∀ endpoint, answer = .endpoint (some endpoint) → endpoint.topicName = asked.topicName ∧
        (⟨endpoint, messageType⟩ : Wrapper τ) ∈ after.wrappers := by
  simp only [TypedManager.create, bind_ok, Except.ok.injEq, Prod.mk.injEq] at created
  obtain ⟨⟨_, world⟩, stepped, ⟨rfl, _⟩, rfl⟩ := created
  obtain ⟨endpoint, method, rfl⟩ := request_step.mp stepped
  have outcome := (method_ok typed.running.present).mp method
  obtain ⟨next, running⟩ := typed.running.method contract outcome
  obtain ⟨added, named⟩ := outcome.returned contract
  have source : ∀ wrapper ∈ before.wrappers ++
      ((Answer.endpoint endpoint).endpoint?.map fun made => Wrapper.mk made messageType).toList,
      wrapper ∈ before.wrappers ∨ endpoint = some wrapper.endpoint := by
    intro wrapper member
    rcases List.mem_append.mp member with earlier | last
    · exact .inl earlier
    · obtain ⟨made, same, rfl⟩ := Option.map_eq_some_iff.mp (Option.mem_toList.mp last)
      exact .inr same
  have kept : TypedRunning api participant next ⟨world, before.creatorType,
      before.learn asked.topicName (before.asked asked.call), before.wrappers ++
        ((Answer.endpoint endpoint).endpoint?.map fun made => ⟨made, messageType⟩).toList⟩ := by
    refine ⟨running, fun topicName topic entry => typed.method_topics contract outcome entry,
      fun wrapper member => ?_, fun wrapper member => ?_⟩
    · show wrapper.endpoint ∈ world.endpoints
      rw [added]
      rcases source wrapper member with earlier | same
      · exact List.mem_append_left _ (typed.wrapped wrapper earlier)
      · exact List.mem_append_right _ (Option.mem_toList.mpr same)
    · rcases source wrapper member with earlier | same
      · obtain ⟨topic, entry⟩ := typed.listed wrapper earlier
        exact ⟨topic, typed.running.keeps_entry contract stepped entry⟩
      · obtain ⟨name, topic, entry⟩ := named wrapper.endpoint same
        rw [name]
        exact ⟨topic, entry⟩
  refine ⟨⟨next, kept⟩, rfl, fun made same => ?_⟩
  obtain rfl := Answer.endpoint.inj same
  exact ⟨(named made rfl).1, List.mem_append_right _ (List.mem_singleton_self _)⟩

/-- Adding a creator keeps what the topic names decide. -/
theorem TypedRunning.add (contract : Contract api) {before after : TypedManager σ Qos τ}
    (typed : TypedRunning api participant object before) {topicName : String}
    {creator : TopicDataTypeCreator} {messageType : τ} {output : Answer × Option (Exchange τ)}
    (fresh : creator.Fresh)
    (stepped : TypedManager.step api before
      (.addTopicDataTypeCreator topicName creator messageType) = .ok (output, after)) :
    ∃ next, TypedRunning api participant next after := by
  have adds : Adds TopicDataTypeCreator.Fresh (.addTopicDataTypeCreator topicName creator) := by
    intro name other same
    cases same
    exact fresh
  obtain ⟨answer, world, added, next, running⟩ := typed.running.step contract adds
  simp only [TypedManager.step, added, bind_ok, Except.ok.injEq, Prod.mk.injEq] at stepped
  obtain ⟨_, ⟨rfl, rfl⟩, _, rfl⟩ := stepped
  simp only [ManagerWorld.step, Except.ok.injEq, Prod.mk.injEq] at added
  obtain ⟨rfl, rfl⟩ := added
  have entries : ∀ other, ManagerWorld.entry { before.toManagerWorld with
      manager := before.manager.addTopicDataTypeCreator topicName creator } other =
        before.entry other := by
    intro other
    rw [ManagerWorld.entry, addTopicDataTypeCreator_participant]
    rfl
  refine ⟨next, running, fun other topic entry => ?_, typed.wrapped, fun wrapper member => ?_⟩
  · obtain ⟨listed, dataType, recorded, serialised⟩ :=
      typed.topics other topic ((entries other).symm.trans entry)
    obtain ⟨found, here⟩ := Finmap.mem_iff.mp listed
    refine ⟨Finmap.mem_iff.mpr ⟨found, addTopicDataTypeCreator_keeps topicName creator here⟩,
      dataType, recorded, serialised.trans (congrArg some ?_)⟩
    show before.creatorType other = (if topicName ∈ before.manager.topicTypes then
      before.creatorType else Function.update before.creatorType topicName messageType) other
    split
    · rfl
    · rename_i free
      have apart : other ≠ topicName := fun same => free (same ▸ listed)
      rw [Function.update_of_ne apart]
  · obtain ⟨topic, entry⟩ := typed.listed wrapper member
    exact ⟨topic, (entries _).trans entry⟩

/-- A call that adds only creators of new objects keeps what the topic names decide. -/
theorem TypedRunning.step (contract : Contract api) {before after : TypedManager σ Qos τ}
    (typed : TypedRunning api participant object before) {call : TypedCall τ Message}
    (fresh : call.Fresh) {output : Answer × Option (Exchange τ)}
    (stepped : TypedManager.step api before call = .ok (output, after)) :
    ∃ next, TypedRunning api participant next after := by
  cases call with
  | initDomainParticipant participantName listenPort peerLocators =>
    simp only [TypedManager.step, ManagerWorld.step, DDSParticipantManager.initDomainParticipant,
      typed.running.present, bind_ok, Except.ok.injEq, Prod.mk.injEq] at stepped
    obtain ⟨_, rfl, _, rfl⟩ := stepped
    exact ⟨object, typed⟩
  | addTopicDataTypeCreator topicName creator messageType =>
    exact typed.add contract (fresh topicName creator messageType rfl) stepped
  | createDataWriter messageType topicName => exact (typed.create contract stepped).1
  | createDataReader messageType topicName => exact (typed.create contract stepped).1
  | writeMessage written message =>
    cases found : before.find .writer written with
    | none =>
      simp only [TypedManager.step, found, Except.ok.injEq, Prod.mk.injEq] at stepped
      obtain ⟨_, rfl⟩ := stepped
      exact ⟨object, typed⟩
    | some wrapper =>
      simp only [TypedManager.step, found, bind_ok, Except.ok.injEq, Prod.mk.injEq] at stepped
      obtain ⟨⟨value, middleware⟩, returned, _, rfl⟩ := stepped
      have held := writeMessage_held contract returned
      refine ⟨object, typed.running.quiet held, ?_, typed.wrapped, typed.listed⟩
      show ∀ topicName topic, before.entry topicName = some (some topic) →
        topicName ∈ before.manager.topicTypes ∧ ∃ dataType,
          (api.holdings middleware).types participant topic.typeName = some dataType ∧
            before.serialises dataType = some (before.creatorType topicName)
      rw [held]
      exact typed.topics
  | onDataAvailable notified =>
    cases found : before.find .reader notified with
    | none =>
      simp only [TypedManager.step, found, Except.ok.injEq, Prod.mk.injEq] at stepped
      obtain ⟨_, rfl⟩ := stepped
      exact ⟨object, typed⟩
    | some wrapper =>
      simp only [TypedManager.step, found, Except.ok.injEq, Prod.mk.injEq] at stepped
      obtain ⟨_, rfl⟩ := stepped
      exact ⟨object, typed⟩

/-! ## Runs -/

/-- A creating call gives what its topic name decides. -/
theorem TypedRunning.created (contract : Contract api) {before : TypedManager σ Qos τ}
    (typed : TypedRunning api participant object before) (call : TypedCall τ Message)
    (asked : Request) (messageType : τ) :
    CreatedByName api asked ⟨before, call, before.create api asked messageType⟩ := by
  constructor
  · intro endpoint passed after returned
    obtain ⟨⟨next, later⟩, same, handed⟩ := typed.create contract returned
    obtain ⟨named, member⟩ := handed endpoint rfl
    refine ⟨named, fun other => ?_⟩
    rw [later.bound member other, same, named]
  · intro other
    simp only [TypedManager.create]
    cases ManagerWorld.step api before.toManagerWorld asked.call with
    | error fault => rfl
    | ok result => rfl

/-- A found wrapper exists and is of the identity looked for. -/
theorem TypedManager.find_mem {typed : TypedManager σ Qos τ} {kind : EndpointKind} {wanted : Nat}
    {wrapper : Wrapper τ} (found : typed.find kind wanted = some wrapper) :
    wrapper ∈ typed.wrappers ∧ wrapper.endpoint.object = wanted := by
  have matched := List.find?_some found
  simp only [Bool.and_eq_true, beq_iff_eq] at matched
  exact ⟨List.mem_of_find?_eq_some found, matched.2⟩

/-- What a wrapper hands over is of its message type, where its name's is expected. -/
theorem TypedRunning.passed {before : TypedManager σ Qos τ}
    (typed : TypedRunning api participant object before) {kind : EndpointKind} {wanted : Nat}
    {wrapper : Wrapper τ} (found : before.find kind wanted = some wrapper)
    {exchange : Exchange τ} (passed : before.exchange api wrapper = some exchange) :
    ∃ wrapper ∈ before.wrappers, wrapper.endpoint.object = wanted ∧
      exchange = ⟨wrapper.messageType, some (before.creatorType wrapper.endpoint.topicName)⟩ ∧
      (exchange.Correct ↔
        wrapper.messageType = before.creatorType wrapper.endpoint.topicName) := by
  obtain ⟨member, identity⟩ := TypedManager.find_mem found
  have handed := typed.exchange member passed
  refine ⟨wrapper, member, identity, handed, ?_⟩
  rw [handed, Exchange.Correct, Option.some.injEq, eq_comm]

/-- Every attempted call gives what the topic names decide. -/
theorem TypedRunning.typedByName (contract : Contract api) {before : TypedManager σ Qos τ}
    (typed : TypedRunning api participant object before) (call : TypedCall τ Message) :
    TypedByName api ⟨before, call, TypedManager.step api before call⟩ := by
  cases call with
  | initDomainParticipant participantName listenPort peerLocators => trivial
  | addTopicDataTypeCreator topicName creator messageType => trivial
  | createDataWriter messageType topicName =>
    exact typed.created contract (.createDataWriter messageType topicName) ⟨.writer, topicName⟩
      messageType
  | createDataReader messageType topicName =>
    exact typed.created contract (.createDataReader messageType topicName) ⟨.reader, topicName⟩
      messageType
  | writeMessage written message =>
    intro answer exchange after stepped
    cases found : before.find .writer written with
    | none => simp [TypedManager.step, found] at stepped
    | some wrapper =>
      simp only [TypedManager.step, found, bind_ok, Except.ok.injEq, Prod.mk.injEq] at stepped
      obtain ⟨_, _, ⟨_, passed⟩, _⟩ := stepped
      exact typed.passed found passed
  | onDataAvailable notified =>
    intro answer exchange after stepped
    cases found : before.find .reader notified with
    | none => simp [TypedManager.step, found] at stepped
    | some wrapper =>
      simp only [TypedManager.step, found, Except.ok.injEq, Prod.mk.injEq] at stepped
      obtain ⟨⟨_, passed⟩, _⟩ := stepped
      exact typed.passed found passed

/-- The topic names decide what endpoint objects are bound to. -/
def Decided (api : Middleware σ Qos Message) (typed : TypedManager σ Qos τ) : Prop :=
  ∃ participant object, TypedRunning api participant object typed

/-- A call that adds only creators of new objects leaves them decided. -/
theorem Decided.step (contract : Contract api) (before : TypedManager σ Qos τ)
    (call : TypedCall τ Message) (output : Answer × Option (Exchange τ))
    (after : TypedManager σ Qos τ) (inside : Decided api before)
    (stepped : TypedManager.step api before call = .ok (output, after)) (fresh : call.Fresh) :
    Decided api after := by
  obtain ⟨participant, object, typed⟩ := inside
  obtain ⟨next, later⟩ := typed.step contract fresh stepped
  exact ⟨participant, next, later⟩

/-- In every run of calls on an initialised manager, each endpoint object is bound to the message
type of its name's creator whatever type it was asked for, each creating call answers alike for all
types, and a sample handed over has the expected type exactly when the types are the same. -/
theorem endpoints_typed_by_name (contract : Contract api) (manager : DDSParticipantManager Qos)
    (middleware : σ) (nextDataType : Nat) (creatorType : String → τ) (participantName : String)
    (listenPort : UInt16) (peerLocators : List String) (new : manager.participant = none)
    (created : CreatesAll api middleware manager.domainId
      (manager.createParticipantQos participantName listenPort peerLocators))
    (creators : ∀ topicName creator, manager.topicTypes.lookup topicName = some creator →
      creator.Fresh)
    (calls : List (TypedCall τ Message)) (added : ∀ call ∈ calls, call.Fresh) :
    (∀ attempt ∈ attempts (TypedManager.step api)
      (.start manager middleware nextDataType creatorType)
      (.initDomainParticipant participantName listenPort peerLocators :: calls),
        TypedByName api attempt) ∧
    ∀ final, run (TypedManager.step api) (.start manager middleware nextDataType creatorType)
        (.initDomainParticipant participantName listenPort peerLocators :: calls) = .ok final →
      ∀ wrapper ∈ final.wrappers, ∀ messageType,
        final.BoundTo api wrapper.endpoint messageType ↔
          messageType = final.creatorType wrapper.endpoint.topicName := by
  obtain ⟨participant, object, world, initialised, running, _, empty, _⟩ :=
    initDomainParticipant_running contract nextDataType new created creators
  have stepped : TypedManager.step api (.start manager middleware nextDataType creatorType)
      (.initDomainParticipant participantName listenPort peerLocators) =
        .ok ((.flag true, none), ⟨world, creatorType, fun _ => none, []⟩) :=
    bind_ok.mpr ⟨_, initialised, rfl⟩
  have start : Decided api (⟨world, creatorType, fun _ => none, []⟩ : TypedManager σ Qos τ) := by
    refine ⟨participant, object, running, fun topicName topic entry => ?_,
      fun _ member => absurd member List.not_mem_nil,
      fun _ member => absurd member List.not_mem_nil⟩
    have shown := (ManagerWorld.entry_present running.present topicName).symm.trans entry
    rw [empty] at shown
    cases shown
  have granted : ∀ attempt ∈ attempts (TypedManager.step api)
      (⟨world, creatorType, fun _ => none, []⟩ : TypedManager σ Qos τ) calls,
        attempt.event.Fresh := fun attempt member => added _ (Machine.attempts_event member)
  constructor
  · intro attempt member
    rw [attempts, stepped, List.mem_cons] at member
    rcases member with rfl | later
    · trivial
    · obtain ⟨⟨owner, here, typed⟩, same⟩ := Machine.attempts_while
        (Decided.step contract) start granted attempt later
      obtain ⟨before, call, outcome⟩ := attempt
      simp only at same
      rw [same]
      exact typed.typedByName contract call
  · intro final ran
    rw [Machine.run_cons calls stepped] at ran
    obtain ⟨owner, here, typed⟩ := Machine.run_while (Decided.step contract) start granted ran
    intro wrapper member messageType
    exact typed.bound member messageType

/-- The new manager, whose creator makes data types for `HelloWorldOne`. -/
def helloManager : TypedManager Reference Unit String :=
  .start (newManager []).manager (Reference.fresh []) 0 fun _ => "HelloWorldOne"

/-- A writer of the creator's message type and a reader of another one, both at work. -/
def mixedCalls : List (TypedCall String String) :=
  [.createDataWriter "HelloWorldOne" "a", .createDataReader "HelloWorldTwo" "a",
    .writeMessage 0 "m", .onDataAvailable 1]

/-- These calls go through, and the topic names decide. -/
theorem endpoints_typed_by_name_mixed :
    (run (TypedManager.step (reference false)) helloManager
      (.initDomainParticipant "p" 0 [] :: mixedCalls)).isOk = true ∧
    ∀ attempt ∈ attempts (TypedManager.step (reference false)) helloManager
      (.initDomainParticipant "p" 0 [] :: mixedCalls), TypedByName (reference false) attempt := by
  have added : ∀ call ∈ mixedCalls, call.Fresh := by
    intro call member topicName creator messageType called
    subst called
    simp [mixedCalls] at member
  exact ⟨by decide, (endpoints_typed_by_name (reference_contract false) (newManager []).manager
    (Reference.fresh []) 0 (fun _ => "HelloWorldOne") "p" 0 [] rfl
    ⟨_, _, _, _, _, _, rfl, rfl, rfl⟩
    (fun topicName creator here => (newManager_fixed topicName creator here).fresh)
    mixedCalls added).1⟩

/-- A writer asked for another message type than its topic's is returned, and what it writes is not
what the topic's data type serialises. -/
theorem mismatched_writer :
    ¬ ∀ attempt ∈ attempts (TypedManager.step (reference false)) helloManager
      [.initDomainParticipant "p" 0 [], .createDataWriter "HelloWorldTwo" "a",
        .writeMessage 0 "m"], TypeCorrect (reference false) attempt := by
  intro correct
  have written := correct _ (.tail _ (.tail _ (.head _))) (.flag true)
    (some ⟨"HelloWorldTwo", some "HelloWorldOne"⟩) _ rfl _ rfl
  have same : "HelloWorldOne" = "HelloWorldTwo" := Option.some.inj written
  exact absurd same (by decide)

end FastDdsWrapper
