import FastDdsWrapper.ParticipantManager

/-!
# A call of the manager as calls of its participant object

The manager's creating methods act on the participant object alone: a registration and, if that
answers true, a creation. `ManagerWorld.process` is the process around the participant object inside
a manager. Each method of the manager is one or two steps of that process (`method_ok`), and each
call of the manager does one of three things (`manager_step`).
-/

namespace FastDdsWrapper

open Machine (bind_ok)

variable {σ Qos Message : Type} {api : Middleware σ Qos Message}
variable {object : DDSDomainParticipant}

/-- What a call of the manager asks for. -/
structure Request where
  /-- A writer or a reader. -/
  kind : EndpointKind
  /-- The topic name. -/
  topicName : String

/-- The call on the participant object that a request ends with. -/
def Request.creation (api : Middleware σ Qos Message) (request : Request) : Call Qos Message :=
  match request.kind with
  | .writer => .createDataWriter request.topicName api.dataWriterQosDefault
  | .reader => .createDataReader request.topicName api.dataReaderQosDefault

/-- The method of the manager a request is made with. -/
def Request.method (api : Middleware σ Qos Message) (asked : Request)
    (world : ManagerWorld σ Qos) : Except Fault (Option Endpoint × ManagerWorld σ Qos) :=
  match asked.kind with
  | .writer => world.createDataWriter api asked.topicName
  | .reader => world.createDataReader api asked.topicName

/-! ## The process inside the manager -/

namespace ManagerWorld

/-- A manager that is about to work on a middleware. -/
def start (manager : DDSParticipantManager Qos) (middleware : σ) (nextDataType : Nat) :
    ManagerWorld σ Qos :=
  ⟨manager, middleware, [], [], 0, nextDataType⟩

/-- The process around the participant object. -/
def process (world : ManagerWorld σ Qos) (object : DDSDomainParticipant) : World σ :=
  ⟨world.host object, world.endpoints, world.nextObject⟩

/-- The manager around a later state of that process, past one identity of data type objects. -/
def settle (world : ManagerWorld σ Qos) (process : World σ) : ManagerWorld σ Qos :=
  { world with
    manager.participant := some process.self
    middleware := process.middleware
    destroyed := process.destroyed
    endpoints := process.endpoints
    nextObject := process.nextObject
    nextDataType := world.nextDataType + 1 }

/-- What `m_mapTopics` of the participant object has under a name. -/
def entry (world : ManagerWorld σ Qos) (topicName : String) : Option (Option Topic) :=
  world.manager.participant.bind fun object => object.mapTopics.lookup topicName

/-- The registration a creating call begins with. -/
def registration (api : Middleware σ Qos Message) (world : ManagerWorld σ Qos)
    (topicName : String) : Call Qos Message :=
  .registerTopic topicName (world.manager.getTopicDataType topicName world.nextDataType)
    api.topicQosDefault

/-- A settled process shows its own map. -/
@[simp] theorem settle_entry (world : ManagerWorld σ Qos) (process : World σ) (topicName : String) :
    (world.settle process).entry topicName = process.self.mapTopics.lookup topicName := rfl

/-- Where there is a participant object, the entries are those of its map. -/
theorem entry_present {world : ManagerWorld σ Qos}
    (present : world.manager.participant = some object) (topicName : String) :
    world.entry topicName = object.mapTopics.lookup topicName := by
  rw [entry, present, Option.bind_some]

/-- A manager stores what the creating method returned as the process does. -/
theorem resume_adopt (world : ManagerWorld σ Qos) (host : Host σ) (result : Option Endpoint × σ) :
    (world.resume host).adopt result =
      world.settle (World.adopt { world.process host.self with toHost := host } result).2 := by
  obtain ⟨_ | endpoint, middleware⟩ := result
  · rfl
  · rfl

end ManagerWorld

/-- The creating method of the participant object that a request ends with. -/
def Request.create (api : Middleware σ Qos Message) (asked : Request) (host : Host σ)
    (object : Nat) : Except Fault (Option Endpoint × σ) :=
  match asked.kind with
  | .writer => createDataWriter api host asked.topicName api.dataWriterQosDefault object
  | .reader => createDataReader api host asked.topicName api.dataReaderQosDefault object

/-- The manager's method is registration and then that creating method. -/
theorem Request.method_eq (asked : Request) (world : ManagerWorld σ Qos) :
    asked.method api world =
      ManagerWorld.createThrough api (asked.create api) world asked.topicName := by
  obtain ⟨kind, topicName⟩ := asked
  cases kind with
  | writer => rfl
  | reader => rfl

/-- The call on the process returns and stores what that creating method returns. -/
theorem creation_ok {process next : World σ} {asked : Request} {answer : Answer} :
    World.step api process (asked.creation api) = .ok (answer, next) ↔
      ∃ result, asked.create api process.toHost process.nextObject = .ok result ∧
        answer = .endpoint result.1 ∧ next = (process.adopt result).2 := by
  have same : World.step api process (asked.creation api) =
      asked.create api process.toHost process.nextObject >>= fun result =>
        .ok (process.adopt result) := by
    obtain ⟨kind, topicName⟩ := asked
    cases kind with
    | writer => rfl
    | reader => rfl
  have pair : ∀ result, process.adopt result = (answer, next) ↔
      answer = .endpoint result.1 ∧ next = (process.adopt result).2 := by
    intro result
    rw [Prod.ext_iff, World.adopt_answer, eq_comm, eq_comm (a := next)]
  simp only [same, bind_ok, Except.ok.injEq, pair]

/-- How a creating call of the manager ends: its registration answers false, or its creation follows
on the process. -/
inductive MethodOutcome (api : Middleware σ Qos Message) (object : DDSDomainParticipant)
    (before : ManagerWorld σ Qos) (asked : Request) :
    Option Endpoint → ManagerWorld σ Qos → Prop
  /-- The registration answers false. -/
  | unregistered (registered : World σ)
      (stepped : World.step api (before.process object)
        (before.registration api asked.topicName) = .ok (.flag false, registered)) :
      MethodOutcome api object before asked none (before.settle registered)
  /-- The registration answers true and the creation follows. -/
  | created (registered created : World σ) (endpoint : Option Endpoint)
      (stepped : World.step api (before.process object)
        (before.registration api asked.topicName) = .ok (.flag true, registered))
      (made : World.step api registered (asked.creation api) =
        .ok (.endpoint endpoint, created)) :
      MethodOutcome api object before asked endpoint (before.settle created)

/-- A registration is one step of the process. -/
theorem registerTopic_step {world : World σ} {topicName : String} {dataType : Option TopicDataType}
    {topicQos : Qos} {answer : Answer} {next : World σ} :
    World.step api world (.registerTopic topicName dataType topicQos) = .ok (answer, next) ↔
      ∃ value host, RegisterOutcome api world.toHost topicName topicQos dataType value host ∧
        answer = .flag value ∧ next = { world with toHost := host } := by
  simp only [World.step, bind_ok, Except.ok.injEq, Prod.mk.injEq, Prod.exists, registerTopic_ok]
  constructor
  · intro stepped
    obtain ⟨value, host, outcome, rfl, rfl⟩ := stepped
    exact ⟨value, host, outcome, rfl, rfl⟩
  · intro stepped
    obtain ⟨value, host, outcome, rfl, rfl⟩ := stepped
    exact ⟨value, host, outcome, rfl, rfl⟩

/-- A creating call of a manager with a participant object ends exactly in these ways. -/
theorem method_ok {before after : ManagerWorld σ Qos} {asked : Request}
    {endpoint : Option Endpoint} (present : before.manager.participant = some object) :
    asked.method api before = .ok (endpoint, after) ↔
      MethodOutcome api object before asked endpoint after := by
  rw [Request.method_eq, ManagerWorld.createThrough, present]
  simp only [bind_ok, Prod.exists]
  constructor
  · intro returned
    obtain ⟨value, host, registered, finished⟩ := returned
    have stepped : World.step api (before.process object)
        (before.registration api asked.topicName) =
          .ok (.flag value, { before.process object with toHost := host }) :=
      registerTopic_step.mpr ⟨value, host, registerTopic_ok.mp registered, rfl, rfl⟩
    cases value with
    | false =>
      simp only [Bool.false_eq_true, ↓reduceIte, Except.ok.injEq, Prod.mk.injEq] at finished
      obtain ⟨rfl, rfl⟩ := finished
      exact .unregistered _ stepped
    | true =>
      simp only [↓reduceIte, bind_ok, Except.ok.injEq, Prod.mk.injEq] at finished
      obtain ⟨result, made, rfl, rfl⟩ := finished
      rw [ManagerWorld.resume_adopt]
      exact .created _ _ result.1 stepped (creation_ok.mpr ⟨result, made, rfl, rfl⟩)
  · intro outcome
    cases outcome with
    | unregistered registered stepped =>
      obtain ⟨value, host, outcome, same, rfl⟩ := registerTopic_step.mp stepped
      obtain rfl := Answer.flag.inj same
      exact ⟨false, host, registerTopic_ok.mpr outcome, rfl⟩
    | created registered created _ stepped made =>
      obtain ⟨value, host, outcome, same, rfl⟩ := registerTopic_step.mp stepped
      obtain rfl := Answer.flag.inj same
      obtain ⟨result, returned, answer, rfl⟩ := creation_ok.mp made
      obtain rfl := Answer.endpoint.inj answer
      refine ⟨true, host, registerTopic_ok.mpr outcome, ?_⟩
      simp only [↓reduceIte, bind_ok]
      exact ⟨result, returned, by rw [ManagerWorld.resume_adopt]; rfl⟩

/-! ## The calls of a manager -/

/-- The manager's call for a request. -/
def Request.call (asked : Request) : ManagerCall :=
  match asked.kind with
  | .writer => .createDataWriter asked.topicName
  | .reader => .createDataReader asked.topicName

/-- What a call of a manager with a participant object does. -/
inductive ManagerOutcome (api : Middleware σ Qos Message) (object : DDSDomainParticipant)
    (before : ManagerWorld σ Qos) (call : ManagerCall) : Answer → ManagerWorld σ Qos → Prop
  /-- A further initialisation finds the object and changes nothing. -/
  | initialised (participantName : String) (listenPort : UInt16) (peerLocators : List String)
      (called : call = .initDomainParticipant participantName listenPort peerLocators) :
      ManagerOutcome api object before call (.flag true) before
  /-- `m_topicTypes` may have gained a creator. -/
  | creatorAdded (topicName : String) (creator : TopicDataTypeCreator)
      (called : call = .addTopicDataTypeCreator topicName creator) :
      ManagerOutcome api object before call .none
        { before with manager := before.manager.addTopicDataTypeCreator topicName creator }
  /-- A writer or a reader was asked for. -/
  | requested (asked : Request) (endpoint : Option Endpoint) (after : ManagerWorld σ Qos)
      (called : call = asked.call)
      (outcome : MethodOutcome api object before asked endpoint after) :
      ManagerOutcome api object before call (.endpoint endpoint) after

/-- A request's call is its method. -/
theorem request_step {before after : ManagerWorld σ Qos} {asked : Request} {answer : Answer} :
    ManagerWorld.step api before asked.call = .ok (answer, after) ↔
      ∃ endpoint, asked.method api before = .ok (endpoint, after) ∧
        answer = .endpoint endpoint := by
  have same : ManagerWorld.step api before asked.call =
      asked.method api before >>= fun result => .ok (.endpoint result.1, result.2) := by
    obtain ⟨kind, topicName⟩ := asked
    cases kind with
    | writer => rfl
    | reader => rfl
  simp only [same, bind_ok, Except.ok.injEq, Prod.mk.injEq, Prod.exists]
  constructor
  · intro stepped
    obtain ⟨endpoint, _, returned, rfl, rfl⟩ := stepped
    exact ⟨endpoint, returned, rfl⟩
  · intro stepped
    obtain ⟨endpoint, returned, rfl⟩ := stepped
    exact ⟨endpoint, after, returned, rfl, rfl⟩

/-- Each call of a manager with a participant object does one of these. -/
theorem manager_step {before after : ManagerWorld σ Qos} {call : ManagerCall} {answer : Answer}
    (present : before.manager.participant = some object)
    (stepped : ManagerWorld.step api before call = .ok (answer, after)) :
    ManagerOutcome api object before call answer after := by
  have requested : ∀ asked : Request, call = asked.call →
      ManagerOutcome api object before call answer after := by
    intro asked called
    rw [called] at stepped
    obtain ⟨endpoint, returned, rfl⟩ := request_step.mp stepped
    exact .requested asked endpoint after called ((method_ok present).mp returned)
  cases call with
  | initDomainParticipant participantName listenPort peerLocators =>
    simp only [ManagerWorld.step, DDSParticipantManager.initDomainParticipant, present,
      Except.ok.injEq, Prod.mk.injEq] at stepped
    obtain ⟨rfl, rfl⟩ := stepped
    exact .initialised participantName listenPort peerLocators rfl
  | addTopicDataTypeCreator topicName creator =>
    simp only [ManagerWorld.step, Except.ok.injEq, Prod.mk.injEq] at stepped
    obtain ⟨rfl, rfl⟩ := stepped
    exact .creatorAdded topicName creator rfl
  | createDataWriter topicName => exact requested ⟨.writer, topicName⟩ rfl
  | createDataReader topicName => exact requested ⟨.reader, topicName⟩ rfl

/-- An added creator is one that was there or the new one. -/
theorem addTopicDataTypeCreator_lookup {manager : DDSParticipantManager Qos}
    {topicName other : String} {creator found : TopicDataTypeCreator}
    (here : (manager.addTopicDataTypeCreator topicName creator).topicTypes.lookup other =
      some found) :
    manager.topicTypes.lookup other = some found ∨ found = creator := by
  unfold DDSParticipantManager.addTopicDataTypeCreator at here
  split at here
  · exact .inl here
  · by_cases same : other = topicName
    · rw [same, Finmap.lookup_insert] at here
      exact .inr (Option.some.inj here).symm
    · rw [Finmap.lookup_insert_of_ne _ same] at here
      exact .inl here

/-- A creator that is there stays. -/
theorem addTopicDataTypeCreator_keeps {manager : DDSParticipantManager Qos}
    {other : String} {found : TopicDataTypeCreator} (topicName : String)
    (creator : TopicDataTypeCreator) (here : manager.topicTypes.lookup other = some found) :
    (manager.addTopicDataTypeCreator topicName creator).topicTypes.lookup other = some found := by
  unfold DDSParticipantManager.addTopicDataTypeCreator
  split
  · exact here
  · rename_i free
    have apart : other ≠ topicName := by
      intro same
      rw [same] at here
      exact free (Finmap.mem_iff.mpr ⟨found, here⟩)
    rw [Finmap.lookup_insert_of_ne _ apart]
    exact here

/-! ## The creation on the process -/

/-- A creation on the process changes neither the participant object nor the data types. -/
theorem creation_frame (contract : Contract api) {process next : World σ} {asked : Request}
    {answer : Answer} (made : World.step api process (asked.creation api) = .ok (answer, next)) :
    next.self = process.self ∧ next.destroyed = process.destroyed ∧
      ∃ endpoints, api.holdings next.middleware =
        { api.holdings process.middleware with endpoints } := by
  obtain ⟨⟨endpoint, middleware⟩, returned, _, rfl⟩ := creation_ok.mp made
  have held : ∃ endpoints, api.holdings middleware =
      { api.holdings process.middleware with endpoints } := by
    obtain ⟨kind, topicName⟩ := asked
    cases kind with
    | writer => exact createEndpoint_held contract.createDatawriter returned
    | reader => exact createEndpoint_held contract.createDatareader returned
  cases endpoint with
  | none => exact ⟨rfl, rfl, held⟩
  | some endpoint => exact ⟨rfl, rfl, held⟩

/-- A creation on the process adds the endpoint object it returns, for a name in the map. -/
theorem creation_returned {process next : World σ} {asked : Request} {endpoint : Option Endpoint}
    (made : World.step api process (asked.creation api) = .ok (.endpoint endpoint, next)) :
    next.endpoints = process.endpoints ++ endpoint.toList ∧
      ∀ object, endpoint = some object → object.topicName = asked.topicName ∧
        ∃ topic, process.self.mapTopics.lookup asked.topicName = some (some topic) := by
  obtain ⟨⟨result, middleware⟩, returned, answer, rfl⟩ := creation_ok.mp made
  obtain rfl := Answer.endpoint.inj answer
  have known : ∀ object, endpoint = some object → object.topicName = asked.topicName ∧
      ∃ topic, process.self.mapTopics.lookup asked.topicName = some (some topic) := by
    intro object same
    subst same
    obtain ⟨kind, topicName⟩ := asked
    cases kind with
    | writer =>
      cases createEndpoint_ok.mp returned with
      | constructed group topic data _ entry _ _ _ _ => exact ⟨rfl, topic, entry⟩
    | reader =>
      cases createEndpoint_ok.mp returned with
      | constructed group topic data _ entry _ _ _ _ => exact ⟨rfl, topic, entry⟩
  cases endpoint with
  | none => exact ⟨(List.append_nil _).symm, known⟩
  | some object => exact ⟨rfl, known⟩

end FastDdsWrapper
