import FastDdsWrapper.Monitor
import FastDdsWrapper.TopicDirectory

/-!
# The topic calls statement by statement

`registerTopic`, `unregisterTopic`, `createDataWriter` and `createDataReader` lock `m_topicLock` for
most of their body. The data type object of `registerTopic` is wrapped before the lock is taken and
let go after it is released, and writing to or destroying an endpoint object takes no lock at all.
Here a thread executes one statement at a time, so statements of different threads interleave in
every order the lock leaves open. The map and each middleware call are one statement each.
-/

namespace FastDdsWrapper

open Monitor (Statement Threads)
open Machine (bind_ok)

variable {σ Qos Message : Type}

/-- The creating call for data endpoints of a kind. -/
def Middleware.createDataEndpoint (api : Middleware σ Qos Message) :
    EndpointKind → σ → Group → Topic → Qos → Nat → Option DataEndpoint × σ
  | .writer => api.createDatawriter
  | .reader => api.createDatareader

/-- The creating call of either kind adds what it returns. -/
theorem createDataEndpoint_adds {api : Middleware σ Qos Message} (contract : Contract api)
    (kind : EndpointKind) :
    AddsEndpoint api.holdings (api.createDataEndpoint kind) := by
  cases kind with
  | writer => exact contract.createDatawriter
  | reader => exact contract.createDatareader

/-- The group that data endpoints of a kind are created in. -/
def DDSDomainParticipant.group (object : DDSDomainParticipant) : EndpointKind → Pointer Group
  | .writer => object.publisher
  | .reader => object.subscriber

/-- A statement under `m_topicLock`, with the local variables its call still needs. -/
inductive Guarded (Qos : Type)
  /-- `m_mapTopics.find` in `registerTopic`. -/
  | registerFind (topicName : String) (dataType : TopicDataType) (topicQos : Qos)
  /-- `typeSupport.register_type`. -/
  | registerType (topicName : String) (dataType : TopicDataType) (topicQos : Qos)
  /-- `create_topic`; the flag says whether the type table kept the data type object. -/
  | createTopic (topicName : String) (dataType : TopicDataType) (topicQos : Qos) (kept : Bool)
  /-- `m_mapTopics.insert` of a topic that is not null. -/
  | insertTopic (topicName : String) (dataType : TopicDataType) (kept : Bool) (topic : Topic)
  /-- `m_mapTopics.find` and `at` in `unregisterTopic`. -/
  | unregisterFind (topicName : String)
  /-- `delete_topic` of a topic that is not null. -/
  | deleteTopic (topicName : String) (topic : Topic)
  /-- `m_mapTopics.erase`. -/
  | eraseTopic (topicName : String)
  /-- `m_mapTopics.find` and `at` in `createDataWriter` and `createDataReader`. -/
  | createFind (kind : EndpointKind) (topicName : String) (qos : Qos)
  /-- The constructor of the endpoint object. -/
  | construct (kind : EndpointKind) (topicName : String) (qos : Qos) (topic : Option Topic)

/-- Where a thread stands between two statements. -/
inductive Point (Qos : Type)
  /-- In no call. -/
  | idle
  /-- Under the lock. -/
  | guarded (statement : Guarded Qos)
  /-- `registerTopic` is about to return and releases the lock first. -/
  | registerUnlock (dataType : TopicDataType) (kept : Bool) (value : Bool)
  /-- Another call is about to return and releases the lock last. -/
  | unlock (answer : Answer)
  /-- `registerTopic` has released the lock and destroys its `TypeSupport`. -/
  | leaveScope (dataType : TopicDataType) (kept : Bool) (value : Bool)

/-- A thread's place in its call and what its earlier calls returned. -/
structure Position (Qos : Type) where
  /-- The place. -/
  point : Point Qos
  /-- The answers, oldest first. -/
  answers : List Answer

/-- What a thread calls next, given what its earlier calls returned. -/
abbrev Client (Qos Message : Type) := List Answer → Option (Call Qos Message)

/-- The client that makes the given calls, whatever they return. -/
def Client.script (calls : List (Call Qos Message)) : Client Qos Message :=
  fun answers => calls[answers.length]?

/-- The first statement of a call under the lock, for a call that takes it. -/
def Call.guarded : Call Qos Message → Option (Guarded Qos)
  | .registerTopic _ none _ => none
  | .registerTopic topicName (some dataType) topicQos =>
    some (.registerFind topicName dataType topicQos)
  | .unregisterTopic topicName => some (.unregisterFind topicName)
  | .createDataWriter topicName dataWriterQos => some (.createFind .writer topicName dataWriterQos)
  | .createDataReader topicName dataReaderQos => some (.createFind .reader topicName dataReaderQos)
  | .writeMessage _ _ => none
  | .destroyEndpoint _ _ => none

/-- A statement under the lock: what it does and where the call goes on. -/
def Guarded.effect (api : Middleware σ Qos Message) (world : World σ) :
    Guarded Qos → Except Fault (Point Qos × World σ)
  | .registerFind topicName dataType topicQos =>
    if topicName ∈ world.self.mapTopics then .ok (.registerUnlock dataType false true, world)
    else .ok (.guarded (.registerType topicName dataType topicQos), world)
  | .registerType topicName dataType topicQos =>
    if dataType ∈ world.destroyed then .error .destroyedDataType
    else do
      let participant ← world.derefParticipant api
      match api.registerType world.middleware participant dataType with
      | ((.failed _, kept), middleware) =>
        .ok (.registerUnlock dataType kept false, { world with middleware })
      | ((.ok, kept), middleware) =>
        .ok (.guarded (.createTopic topicName dataType topicQos kept), { world with middleware })
  | .createTopic topicName dataType topicQos kept =>
    -- The type name is read from the object.
    if dataType ∈ world.destroyed then .error .destroyedDataType
    else do
      let participant ← world.derefParticipant api
      match api.createTopic world.middleware participant topicName dataType.name topicQos with
      | (none, middleware) => .ok (.registerUnlock dataType kept true, { world with middleware })
      | (some topic, middleware) =>
        .ok (.guarded (.insertTopic topicName dataType kept topic), { world with middleware })
  | .insertTopic topicName dataType kept topic =>
    -- `insert` leaves a name that is in the map as it is.
    if topicName ∈ world.self.mapTopics then .ok (.registerUnlock dataType kept true, world)
    else .ok (.registerUnlock dataType kept true,
      { world with toHost := world.insertTopic topicName topic })
  | .unregisterFind topicName =>
    match world.self.mapTopics.lookup topicName with
    | none => .ok (.unlock (.flag true), world)
    | some none => .ok (.guarded (.eraseTopic topicName), world)
    | some (some topic) => .ok (.guarded (.deleteTopic topicName topic), world)
  | .deleteTopic topicName topic => do
    let participant ← world.derefParticipant api
    let topic ← (Pointer.address topic).deref (api.holdings world.middleware).topics
    match api.deleteTopic world.middleware participant topic with
    | (.failed _, middleware) => .ok (.unlock (.flag false), { world with middleware })
    | (.ok, middleware) => .ok (.guarded (.eraseTopic topicName), { world with middleware })
  | .eraseTopic topicName =>
    .ok (.unlock (.flag true), { world with toHost := world.eraseTopic topicName })
  | .createFind kind topicName qos =>
    match world.self.mapTopics.lookup topicName with
    | none => .ok (.unlock (.endpoint none), world)
    | some topic => .ok (.guarded (.construct kind topicName qos topic), world)
  | .construct kind topicName qos topic => do
    let (endpoint, middleware) ← constructEndpoint api (api.createDataEndpoint kind) kind
      world.middleware (world.self.group kind) topic qos topicName world.nextObject
    .ok (.unlock (.endpoint (some endpoint)), (world.adopt (some endpoint, middleware)).2)

/-- The end of the scope of `typeSupport`: the object goes unless the type table kept it, and going
twice is a fault. -/
def destroyTypeSupport (world : World σ) (dataType : TopicDataType) (kept : Bool) :
    Except Fault (World σ) :=
  if kept = false ∧ dataType ∈ world.destroyed then .error .destroyedDataType
  else .ok { world with toHost := world.leaveScope dataType kept }

/-- The next statement of a thread. A call without a part under the lock is one statement. -/
def Client.code (api : Middleware σ Qos Message) (client : Client Qos Message) :
    Position Qos → Statement (Position Qos) (World σ) Fault
  | ⟨.idle, answers⟩ =>
    match client answers with
    | none => .finished
    | some call =>
      match call.guarded with
      | some statement => .acquire ⟨.guarded statement, answers⟩
      | none => .act fun world =>
        (World.step api world call).map fun result => (⟨.idle, answers ++ [result.1]⟩, result.2)
  | ⟨.guarded statement, answers⟩ => .act fun world =>
    (statement.effect api world).map fun result => (⟨result.1, answers⟩, result.2)
  | ⟨.registerUnlock dataType kept value, answers⟩ =>
    .release ⟨.leaveScope dataType kept value, answers⟩
  | ⟨.unlock answer, answers⟩ => .release ⟨.idle, answers ++ [answer]⟩
  | ⟨.leaveScope dataType kept value, answers⟩ => .act fun world =>
    (destroyTypeSupport world dataType kept).map fun world =>
      (⟨.idle, answers ++ [.flag value]⟩, world)

/-- Threads that have not called anything yet. -/
def idleThreads (ι : Type) (Qos : Type) (world : World σ) : Threads ι (Position Qos) (World σ) :=
  ⟨world, fun _ => ⟨.idle, []⟩, none⟩

variable {api : Middleware σ Qos Message}

/-! ## What a statement can do -/

/-- The ways a statement under the lock goes. -/
inductive GuardedOutcome (api : Middleware σ Qos Message) (world : World σ) :
    Guarded Qos → Point Qos → World σ → Prop
  /-- The name is in the map already. -/
  | known (topicName : String) (dataType : TopicDataType) (topicQos : Qos)
      (known : topicName ∈ world.self.mapTopics) :
      GuardedOutcome api world (.registerFind topicName dataType topicQos)
        (.registerUnlock dataType false true) world
  /-- The name is free. -/
  | unknown (topicName : String) (dataType : TopicDataType) (topicQos : Qos)
      (unknown : topicName ∉ world.self.mapTopics) :
      GuardedOutcome api world (.registerFind topicName dataType topicQos)
        (.guarded (.registerType topicName dataType topicQos)) world
  /-- `register_type` failed. -/
  | typeRefused (topicName : String) (dataType : TopicDataType) (topicQos : Qos)
      (participant : DomainParticipant) (errcode : Nat) (kept : Bool) (middleware : σ)
      (intact : dataType ∉ world.destroyed) (live : world.derefParticipant api = .ok participant)
      (answered : api.registerType world.middleware participant dataType =
        ((.failed errcode, kept), middleware)) :
      GuardedOutcome api world (.registerType topicName dataType topicQos)
        (.registerUnlock dataType kept false) { world with middleware }
  /-- `register_type` answered OK. -/
  | typeRegistered (topicName : String) (dataType : TopicDataType) (topicQos : Qos)
      (participant : DomainParticipant) (kept : Bool) (middleware : σ)
      (intact : dataType ∉ world.destroyed) (live : world.derefParticipant api = .ok participant)
      (answered : api.registerType world.middleware participant dataType =
        ((.ok, kept), middleware)) :
      GuardedOutcome api world (.registerType topicName dataType topicQos)
        (.guarded (.createTopic topicName dataType topicQos kept)) { world with middleware }
  /-- `create_topic` returned null. -/
  | topicRefused (topicName : String) (dataType : TopicDataType) (topicQos : Qos) (kept : Bool)
      (participant : DomainParticipant) (middleware : σ) (intact : dataType ∉ world.destroyed)
      (live : world.derefParticipant api = .ok participant)
      (answered : api.createTopic world.middleware participant topicName dataType.name topicQos =
        (none, middleware)) :
      GuardedOutcome api world (.createTopic topicName dataType topicQos kept)
        (.registerUnlock dataType kept true) { world with middleware }
  /-- `create_topic` returned a topic. -/
  | topicCreated (topicName : String) (dataType : TopicDataType) (topicQos : Qos) (kept : Bool)
      (participant : DomainParticipant) (middleware : σ) (topic : Topic)
      (intact : dataType ∉ world.destroyed) (live : world.derefParticipant api = .ok participant)
      (answered : api.createTopic world.middleware participant topicName dataType.name topicQos =
        (some topic, middleware)) :
      GuardedOutcome api world (.createTopic topicName dataType topicQos kept)
        (.guarded (.insertTopic topicName dataType kept topic)) { world with middleware }
  /-- The name is in the map, which stays as it is. -/
  | occupied (topicName : String) (dataType : TopicDataType) (kept : Bool) (topic : Topic)
      (known : topicName ∈ world.self.mapTopics) :
      GuardedOutcome api world (.insertTopic topicName dataType kept topic)
        (.registerUnlock dataType kept true) world
  /-- The topic goes into the map. -/
  | inserted (topicName : String) (dataType : TopicDataType) (kept : Bool) (topic : Topic)
      (unknown : topicName ∉ world.self.mapTopics) :
      GuardedOutcome api world (.insertTopic topicName dataType kept topic)
        (.registerUnlock dataType kept true)
        { world with toHost := world.insertTopic topicName topic }
  /-- Nothing to unregister. -/
  | absent (topicName : String) (missing : world.self.mapTopics.lookup topicName = none) :
      GuardedOutcome api world (.unregisterFind topicName) (.unlock (.flag true)) world
  /-- The map holds a null pointer. -/
  | nullEntry (topicName : String) (entry : world.self.mapTopics.lookup topicName = some none) :
      GuardedOutcome api world (.unregisterFind topicName) (.guarded (.eraseTopic topicName)) world
  /-- The map holds a topic. -/
  | pointed (topicName : String) (topic : Topic)
      (entry : world.self.mapTopics.lookup topicName = some (some topic)) :
      GuardedOutcome api world (.unregisterFind topicName)
        (.guarded (.deleteTopic topicName topic)) world
  /-- `delete_topic` failed. -/
  | deletionRefused (topicName : String) (topic : Topic) (participant : DomainParticipant)
      (errcode : Nat) (middleware : σ) (live : world.derefParticipant api = .ok participant)
      (present : topic ∈ (api.holdings world.middleware).topics)
      (answered : api.deleteTopic world.middleware participant topic =
        (.failed errcode, middleware)) :
      GuardedOutcome api world (.deleteTopic topicName topic) (.unlock (.flag false))
        { world with middleware }
  /-- `delete_topic` deleted the topic. -/
  | deleted (topicName : String) (topic : Topic) (participant : DomainParticipant)
      (middleware : σ) (live : world.derefParticipant api = .ok participant)
      (present : topic ∈ (api.holdings world.middleware).topics)
      (answered : api.deleteTopic world.middleware participant topic = (.ok, middleware)) :
      GuardedOutcome api world (.deleteTopic topicName topic) (.guarded (.eraseTopic topicName))
        { world with middleware }
  /-- The name leaves the map. -/
  | erased (topicName : String) :
      GuardedOutcome api world (.eraseTopic topicName) (.unlock (.flag true))
        { world with toHost := world.eraseTopic topicName }
  /-- No topic to create an endpoint for. -/
  | unlisted (kind : EndpointKind) (topicName : String) (qos : Qos)
      (missing : world.self.mapTopics.lookup topicName = none) :
      GuardedOutcome api world (.createFind kind topicName qos) (.unlock (.endpoint none)) world
  /-- The pointer the map holds is passed to the constructor. -/
  | listed (kind : EndpointKind) (topicName : String) (qos : Qos) (topic : Option Topic)
      (entry : world.self.mapTopics.lookup topicName = some topic) :
      GuardedOutcome api world (.createFind kind topicName qos)
        (.guarded (.construct kind topicName qos topic)) world
  /-- An endpoint object is made around whatever the middleware returned. -/
  | constructed (kind : EndpointKind) (topicName : String) (qos : Qos) (topic : Topic)
      (group : Group) (data : Option DataEndpoint) (middleware : σ)
      (source : world.self.group kind = .address group)
      (alive : group ∈ (api.holdings world.middleware).groups)
      (present : topic ∈ (api.holdings world.middleware).topics)
      (answered : api.createDataEndpoint kind world.middleware group topic qos world.nextObject =
        (data, middleware)) :
      GuardedOutcome api world (.construct kind topicName qos (some topic))
        (.unlock (.endpoint (some ⟨kind, world.nextObject, topicName, group, data⟩)))
        (world.adopt (some ⟨kind, world.nextObject, topicName, group, data⟩, middleware)).2

/-- A statement under the lock that does not fault goes one of these ways. -/
theorem Guarded.effect_cases {world after : World σ} {statement : Guarded Qos} {point : Point Qos}
    (went : statement.effect api world = .ok (point, after)) :
    GuardedOutcome api world statement point after := by
  cases statement with
  | registerFind topicName dataType topicQos =>
    by_cases known : topicName ∈ world.self.mapTopics
    · simp only [Guarded.effect, known, ↓reduceIte, Except.ok.injEq, Prod.mk.injEq] at went
      obtain ⟨rfl, rfl⟩ := went
      exact .known topicName dataType topicQos known
    · simp only [Guarded.effect, known, ↓reduceIte, Except.ok.injEq, Prod.mk.injEq] at went
      obtain ⟨rfl, rfl⟩ := went
      exact .unknown topicName dataType topicQos known
  | registerType topicName dataType topicQos =>
    by_cases intact : dataType ∈ world.destroyed
    · simp [Guarded.effect, intact] at went
    simp only [Guarded.effect, intact, ↓reduceIte, bind_ok] at went
    obtain ⟨participant, live, went⟩ := went
    rcases answered : api.registerType world.middleware participant dataType with
      ⟨⟨_ | errcode, kept⟩, middleware⟩
    · simp only [answered, Except.ok.injEq, Prod.mk.injEq] at went
      obtain ⟨rfl, rfl⟩ := went
      exact .typeRegistered topicName dataType topicQos participant kept middleware intact live
        answered
    · simp only [answered, Except.ok.injEq, Prod.mk.injEq] at went
      obtain ⟨rfl, rfl⟩ := went
      exact .typeRefused topicName dataType topicQos participant errcode kept middleware intact
        live answered
  | createTopic topicName dataType topicQos kept =>
    by_cases intact : dataType ∈ world.destroyed
    · simp [Guarded.effect, intact] at went
    simp only [Guarded.effect, intact, ↓reduceIte, bind_ok] at went
    obtain ⟨participant, live, went⟩ := went
    rcases answered : api.createTopic world.middleware participant topicName dataType.name
      topicQos with ⟨_ | topic, middleware⟩
    · simp only [answered, Except.ok.injEq, Prod.mk.injEq] at went
      obtain ⟨rfl, rfl⟩ := went
      exact .topicRefused topicName dataType topicQos kept participant middleware intact live
        answered
    · simp only [answered, Except.ok.injEq, Prod.mk.injEq] at went
      obtain ⟨rfl, rfl⟩ := went
      exact .topicCreated topicName dataType topicQos kept participant middleware topic intact live
        answered
  | insertTopic topicName dataType kept topic =>
    by_cases known : topicName ∈ world.self.mapTopics
    · simp only [Guarded.effect, known, ↓reduceIte, Except.ok.injEq, Prod.mk.injEq] at went
      obtain ⟨rfl, rfl⟩ := went
      exact .occupied topicName dataType kept topic known
    · simp only [Guarded.effect, known, ↓reduceIte, Except.ok.injEq, Prod.mk.injEq] at went
      obtain ⟨rfl, rfl⟩ := went
      exact .inserted topicName dataType kept topic known
  | unregisterFind topicName =>
    rcases entry : world.self.mapTopics.lookup topicName with _ | _ | topic
    · simp only [Guarded.effect, entry, Except.ok.injEq, Prod.mk.injEq] at went
      obtain ⟨rfl, rfl⟩ := went
      exact .absent topicName entry
    · simp only [Guarded.effect, entry, Except.ok.injEq, Prod.mk.injEq] at went
      obtain ⟨rfl, rfl⟩ := went
      exact .nullEntry topicName entry
    · simp only [Guarded.effect, entry, Except.ok.injEq, Prod.mk.injEq] at went
      obtain ⟨rfl, rfl⟩ := went
      exact .pointed topicName topic entry
  | deleteTopic topicName topic =>
    simp only [Guarded.effect, bind_ok, Pointer.deref_ok] at went
    obtain ⟨participant, live, target, ⟨same, present⟩, went⟩ := went
    obtain rfl := Pointer.address.inj same
    rcases answered : api.deleteTopic world.middleware participant topic with
      ⟨_ | errcode, middleware⟩
    · simp only [answered, Except.ok.injEq, Prod.mk.injEq] at went
      obtain ⟨rfl, rfl⟩ := went
      exact .deleted topicName topic participant middleware live present answered
    · simp only [answered, Except.ok.injEq, Prod.mk.injEq] at went
      obtain ⟨rfl, rfl⟩ := went
      exact .deletionRefused topicName topic participant errcode middleware live present answered
  | eraseTopic topicName =>
    simp only [Guarded.effect, Except.ok.injEq, Prod.mk.injEq] at went
    obtain ⟨rfl, rfl⟩ := went
    exact .erased topicName
  | createFind kind topicName qos =>
    cases entry : world.self.mapTopics.lookup topicName with
    | none =>
      simp only [Guarded.effect, entry, Except.ok.injEq, Prod.mk.injEq] at went
      obtain ⟨rfl, rfl⟩ := went
      exact .unlisted kind topicName qos entry
    | some topic =>
      simp only [Guarded.effect, entry, Except.ok.injEq, Prod.mk.injEq] at went
      obtain ⟨rfl, rfl⟩ := went
      exact .listed kind topicName qos topic entry
  | construct kind topicName qos entry =>
    simp only [Guarded.effect, constructEndpoint, bind_ok, Pointer.deref_ok,
      Pointer.ofOption_eq_address, Except.ok.injEq] at went
    obtain ⟨⟨endpoint, middleware⟩, ⟨group, ⟨source, alive⟩, topic, ⟨rfl, present⟩, made⟩,
      went⟩ := went
    simp only [Prod.mk.injEq] at made
    obtain ⟨rfl, rfl⟩ := made
    obtain ⟨rfl, rfl⟩ := Prod.mk.inj went
    exact .constructed kind topicName qos topic group _ _ source alive present rfl

/-- Each of these ways is one a statement goes. -/
theorem GuardedOutcome.went {world after : World σ} {statement : Guarded Qos} {point : Point Qos}
    (outcome : GuardedOutcome api world statement point after) :
    statement.effect api world = .ok (point, after) := by
  cases outcome with
  | known topicName dataType topicQos known => simp [Guarded.effect, known]
  | unknown topicName dataType topicQos unknown => simp [Guarded.effect, unknown]
  | typeRefused topicName dataType topicQos participant errcode kept middleware intact live
      answered =>
    simp [Guarded.effect, intact, live, answered, bind, Except.bind]
  | typeRegistered topicName dataType topicQos participant kept middleware intact live answered =>
    simp [Guarded.effect, intact, live, answered, bind, Except.bind]
  | topicRefused topicName dataType topicQos kept participant middleware intact live answered =>
    simp [Guarded.effect, intact, live, answered, bind, Except.bind]
  | topicCreated topicName dataType topicQos kept participant middleware topic intact live
      answered =>
    simp [Guarded.effect, intact, live, answered, bind, Except.bind]
  | occupied topicName dataType kept topic known => simp [Guarded.effect, known]
  | inserted topicName dataType kept topic unknown => simp [Guarded.effect, unknown]
  | absent topicName missing => simp [Guarded.effect, missing]
  | nullEntry topicName entry => simp [Guarded.effect, entry]
  | pointed topicName topic entry => simp [Guarded.effect, entry]
  | deletionRefused topicName topic participant errcode middleware live present answered =>
    simp [Guarded.effect, live, present, answered, bind, Except.bind]
  | deleted topicName topic participant middleware live present answered =>
    simp [Guarded.effect, live, present, answered, bind, Except.bind]
  | erased topicName => rfl
  | unlisted kind topicName qos missing => simp [Guarded.effect, missing]
  | listed kind topicName qos topic entry => simp [Guarded.effect, entry]
  | constructed kind topicName qos topic group data middleware source alive present answered =>
    simp [Guarded.effect, constructEndpoint, source, Pointer.ofOption, alive, present, answered,
      bind, Except.bind]

/-- The place is between taking and releasing the lock. -/
def Point.Inside : Point Qos → Prop
  | .idle => False
  | .guarded _ => True
  | .registerUnlock _ _ _ => True
  | .unlock _ => True
  | .leaveScope _ _ _ => False

/-- The thread is between taking and releasing the lock. -/
def Position.Inside (position : Position Qos) : Prop := position.point.Inside

/-- A statement under the lock goes on under the lock. -/
theorem GuardedOutcome.inside {world after : World σ} {statement : Guarded Qos} {point : Point Qos}
    (outcome : GuardedOutcome api world statement point after) : point.Inside := by
  cases outcome <;> exact trivial

variable {client : Client Qos Message}

/-- A thread takes the lock exactly to enter a call that has a part under it. -/
theorem Client.code_acquire {position next : Position Qos}
    (here : client.code api position = .acquire next) :
    ∃ answers call statement, position = ⟨.idle, answers⟩ ∧ client answers = some call ∧
      call.guarded = some statement ∧ next = ⟨.guarded statement, answers⟩ := by
  obtain ⟨point, answers⟩ := position
  cases point with
  | idle =>
    cases calls : client answers with
    | none => simp [Client.code, calls] at here
    | some call =>
      cases takes : call.guarded with
      | none => simp [Client.code, calls, takes] at here
      | some statement =>
        simp only [Client.code, calls, takes, Statement.acquire.injEq] at here
        exact ⟨answers, call, statement, rfl, calls, takes, here.symm⟩
  | guarded statement => simp [Client.code] at here
  | registerUnlock dataType kept value => simp [Client.code] at here
  | unlock answer => simp [Client.code] at here
  | leaveScope dataType kept value => simp [Client.code] at here

/-- A thread releases the lock on the return of a call. -/
theorem Client.code_release {position next : Position Qos}
    (here : client.code api position = .release next) :
    (∃ dataType kept value answers, position = ⟨.registerUnlock dataType kept value, answers⟩ ∧
      next = ⟨.leaveScope dataType kept value, answers⟩) ∨
    ∃ answer answers, position = ⟨.unlock answer, answers⟩ ∧
      next = ⟨.idle, answers ++ [answer]⟩ := by
  obtain ⟨point, answers⟩ := position
  cases point with
  | idle =>
    cases calls : client answers with
    | none => simp [Client.code, calls] at here
    | some call => cases takes : call.guarded <;> simp [Client.code, calls, takes] at here
  | guarded statement => simp [Client.code] at here
  | registerUnlock dataType kept value =>
    simp only [Client.code, Statement.release.injEq] at here
    exact .inl ⟨dataType, kept, value, answers, rfl, here.symm⟩
  | unlock answer =>
    simp only [Client.code, Statement.release.injEq] at here
    exact .inr ⟨answer, answers, rfl, here.symm⟩
  | leaveScope dataType kept value => simp [Client.code] at here

/-- A thread acts on the shared data in a call without a part under the lock, in a statement under
the lock, or at the end of the scope of its `TypeSupport`. -/
theorem Client.code_act {position : Position Qos}
    {effect : World σ → Except Fault (Position Qos × World σ)}
    (here : client.code api position = .act effect) :
    (∃ answers call, position = ⟨.idle, answers⟩ ∧ client answers = some call ∧
      call.guarded = none ∧ effect = fun world => (World.step api world call).map fun result =>
        (⟨.idle, answers ++ [result.1]⟩, result.2)) ∨
    (∃ statement answers, position = ⟨.guarded statement, answers⟩ ∧
      effect = fun world => (statement.effect api world).map fun result =>
        (⟨result.1, answers⟩, result.2)) ∨
    ∃ dataType kept value answers, position = ⟨.leaveScope dataType kept value, answers⟩ ∧
      effect = fun world => (destroyTypeSupport world dataType kept).map fun world =>
        (⟨.idle, answers ++ [.flag value]⟩, world) := by
  obtain ⟨point, answers⟩ := position
  cases point with
  | idle =>
    cases calls : client answers with
    | none => simp [Client.code, calls] at here
    | some call =>
      cases takes : call.guarded with
      | none =>
        simp only [Client.code, calls, takes, Statement.act.injEq] at here
        exact .inl ⟨answers, call, rfl, calls, takes, here.symm⟩
      | some statement => simp [Client.code, calls, takes] at here
  | guarded statement =>
    simp only [Client.code, Statement.act.injEq] at here
    exact .inr (.inl ⟨statement, answers, rfl, here.symm⟩)
  | registerUnlock dataType kept value => simp [Client.code] at here
  | unlock answer => simp [Client.code] at here
  | leaveScope dataType kept value =>
    simp only [Client.code, Statement.act.injEq] at here
    exact .inr (.inr ⟨dataType, kept, value, answers, rfl, here.symm⟩)

/-- A thread is finished exactly when it is in no call and makes no more. -/
theorem Client.code_finished {position : Position Qos} :
    client.code api position = .finished ↔
      position.point = .idle ∧ client position.answers = none := by
  obtain ⟨point, answers⟩ := position
  cases point with
  | idle =>
    cases calls : client answers with
    | none => simp [Client.code, calls]
    | some call => cases takes : call.guarded <;> simp [Client.code, calls, takes]
  | guarded statement => simp [Client.code]
  | registerUnlock dataType kept value => simp [Client.code]
  | unlock answer => simp [Client.code]
  | leaveScope dataType kept value => simp [Client.code]

/-- The scope ends with the object destroyed once. -/
theorem destroyTypeSupport_ok {world after : World σ} {dataType : TopicDataType} {kept : Bool} :
    destroyTypeSupport world dataType kept = .ok after ↔
      (kept = false → dataType ∉ world.destroyed) ∧
        after = { world with toHost := world.leaveScope dataType kept } := by
  unfold destroyTypeSupport
  split
  · rename_i twice
    simp [twice.1, twice.2]
  · rename_i once
    rw [Except.ok.injEq, eq_comm]
    simp only [not_and] at once
    exact ⟨fun same => ⟨once, same⟩, And.right⟩

variable {ι : Type} {clients : ι → Client Qos Message}

/-! ## The lock brackets what it guards -/

/-- Every call takes the lock before its statements under it and releases it after them. -/
theorem code_bracketed (api : Middleware σ Qos Message) (clients : ι → Client Qos Message) :
    Monitor.Bracketed (fun thread => (clients thread).code api) Position.Inside where
  acquire := by
    intro thread position next here
    obtain ⟨answers, call, statement, rfl, _, _, rfl⟩ := Client.code_acquire here
    exact ⟨id, trivial⟩
  release := by
    intro thread position next here
    rcases Client.code_release here with ⟨dataType, kept, value, answers, rfl, rfl⟩ |
      ⟨answer, answers, rfl, rfl⟩
    · exact ⟨trivial, id⟩
    · exact ⟨trivial, id⟩
  act := by
    intro thread position effect shared next changed here went
    rcases Client.code_act here with ⟨answers, call, rfl, _, _, rfl⟩ |
      ⟨statement, answers, rfl, rfl⟩ | ⟨dataType, kept, value, answers, rfl, rfl⟩
    · obtain ⟨result, _, same⟩ := Machine.map_ok.mp went
      obtain ⟨rfl, _⟩ := Prod.mk.inj same
      exact Iff.rfl
    · obtain ⟨result, returned, same⟩ := Machine.map_ok.mp went
      obtain ⟨rfl, _⟩ := Prod.mk.inj same
      exact iff_of_true (Guarded.effect_cases returned).inside trivial
    · obtain ⟨result, _, same⟩ := Machine.map_ok.mp went
      obtain ⟨rfl, _⟩ := Prod.mk.inj same
      exact Iff.rfl
  finished := by
    intro thread position here within
    obtain ⟨point, answers⟩ := position
    obtain ⟨rfl, _⟩ := Client.code_finished.mp here
    exact within

/-- Nobody is inside before the first call. -/
theorem idleThreads_held (world : World σ) :
    Monitor.Held Position.Inside (idleThreads ι Qos world) := by
  intro thread
  exact iff_of_false id (Option.some_ne_none thread ·.symm)

/-! ## How many statements a call takes -/

/-- The statements left in a call. -/
def Point.left : Point Qos → Nat
  | .idle => 0
  | .guarded (.registerFind _ _ _) => 6
  | .guarded (.registerType _ _ _) => 5
  | .guarded (.createTopic _ _ _ _) => 4
  | .guarded (.insertTopic _ _ _ _) => 3
  | .guarded (.unregisterFind _) => 4
  | .guarded (.deleteTopic _ _) => 3
  | .guarded (.eraseTopic _) => 2
  | .guarded (.createFind _ _ _) => 3
  | .guarded (.construct _ _ _ _) => 2
  | .registerUnlock _ _ _ => 2
  | .unlock _ => 1
  | .leaveScope _ _ _ => 1

/-- The client stops after a number of calls. -/
def Client.Stops (client : Client Qos Message) (limit : Nat) : Prop :=
  ∀ answers : List Answer, limit ≤ answers.length → client answers = none

/-- The statements a thread can still execute: no call takes more than seven. -/
def Position.effort (limit : Nat) : Position Qos → Nat
  | ⟨.idle, answers⟩ => 7 * (limit - answers.length)
  | ⟨point, answers⟩ => 7 * (limit - (answers.length + 1)) + point.left

/-- A statement under the lock leaves fewer statements of its call, and the release to come. -/
theorem GuardedOutcome.left {world after : World σ} {statement : Guarded Qos} {point : Point Qos}
    (outcome : GuardedOutcome api world statement point after) :
    0 < point.left ∧ point.left < (Point.guarded statement).left := by
  cases outcome <;> simp [Point.left]

/-- Entering a call leaves at most six statements after taking the lock. -/
theorem Call.guarded_left {call : Call Qos Message} {statement : Guarded Qos}
    (takes : call.guarded = some statement) :
    0 < (Point.guarded statement).left ∧ (Point.guarded statement).left ≤ 6 := by
  cases call with
  | registerTopic topicName dataType topicQos =>
    cases dataType with
    | none => cases takes
    | some dataType =>
      obtain rfl := Option.some.inj takes
      simp [Point.left]
  | unregisterTopic topicName =>
    obtain rfl := Option.some.inj takes
    simp [Point.left]
  | createDataWriter topicName dataWriterQos =>
    obtain rfl := Option.some.inj takes
    simp [Point.left]
  | createDataReader topicName dataReaderQos =>
    obtain rfl := Option.some.inj takes
    simp [Point.left]
  | writeMessage object message => cases takes
  | destroyEndpoint kind object => cases takes

/-- Inside a call the effort is that of the calls after it and of what is left of it. -/
theorem Position.effort_inside {limit : Nat} {point : Point Qos} (busy : 0 < point.left)
    (answers : List Answer) : Position.effort limit ⟨point, answers⟩ =
      7 * (limit - (answers.length + 1)) + point.left := by
  cases point with
  | idle => cases busy
  | guarded statement => rfl
  | registerUnlock dataType kept value => rfl
  | unlock answer => rfl
  | leaveScope dataType kept value => rfl

/-- After a call the effort is that of the calls after it. -/
theorem Position.effort_returned (limit : Nat) (answers : List Answer) (answer : Answer) :
    Position.effort limit (⟨.idle, answers ++ [answer]⟩ : Position Qos) =
      7 * (limit - (answers.length + 1)) := by
  simp [Position.effort]

/-- A client that still calls has not reached its limit. -/
theorem Client.Stops.more {limit : Nat} (stops : client.Stops limit) {answers : List Answer}
    {call : Call Qos Message} (calls : client answers = some call) : answers.length < limit := by
  by_contra reached
  cases calls.symm.trans (stops answers (not_lt.mp reached))

/-- Every statement of a client that stops is progress. -/
theorem code_spends (api : Middleware σ Qos Message) {limit : ι → Nat}
    (stops : ∀ thread, (clients thread).Stops (limit thread)) :
    Monitor.Spends (fun thread => (clients thread).code api)
      (fun thread => Position.effort (limit thread)) where
  acquire := by
    intro thread position next here
    obtain ⟨answers, call, statement, rfl, calls, takes, rfl⟩ := Client.code_acquire here
    have more := (stops thread).more calls
    obtain ⟨busy, most⟩ := Call.guarded_left takes
    rw [Position.effort_inside busy]
    simp only [Position.effort]
    omega
  release := by
    intro thread position next here
    rcases Client.code_release here with ⟨dataType, kept, value, answers, rfl, rfl⟩ |
      ⟨answer, answers, rfl, rfl⟩
    · simp [Position.effort, Point.left]
    · rw [Position.effort_returned]
      simp [Position.effort, Point.left]
  act := by
    intro thread position effect shared next changed here went
    rcases Client.code_act here with ⟨answers, call, rfl, calls, _, rfl⟩ |
      ⟨statement, answers, rfl, rfl⟩ | ⟨dataType, kept, value, answers, rfl, rfl⟩
    · obtain ⟨result, _, same⟩ := Machine.map_ok.mp went
      obtain ⟨rfl, _⟩ := Prod.mk.inj same
      have more := (stops thread).more calls
      rw [Position.effort_returned]
      simp only [Position.effort]
      omega
    · obtain ⟨result, returned, same⟩ := Machine.map_ok.mp went
      obtain ⟨rfl, _⟩ := Prod.mk.inj same
      obtain ⟨busy, less⟩ := (Guarded.effect_cases returned).left
      rw [Position.effort_inside busy, Position.effort_inside (busy.trans less)]
      exact Nat.add_lt_add_left less _
    · obtain ⟨result, _, same⟩ := Machine.map_ok.mp went
      obtain ⟨rfl, _⟩ := Prod.mk.inj same
      rw [Position.effort_returned]
      simp [Position.effort, Point.left]

/-! ## Interleaved statements -/

variable [DecidableEq ι]

/-- The threads of some clients, each executing one statement at a time. -/
abbrev statementStep (api : Middleware σ Qos Message) (clients : ι → Client Qos Message) :
    Machine.Step (Threads ι (Position Qos) (World σ)) ι Bool Fault :=
  Monitor.step fun thread => (clients thread).code api

/-- The ways a thread executes its statement. -/
inductive StatementOutcome (api : Middleware σ Qos Message) (clients : ι → Client Qos Message)
    (before : Threads ι (Position Qos) (World σ)) (thread : ι) :
    Bool → Threads ι (Position Qos) (World σ) → Prop
  /-- The thread is done. -/
  | finished (answers : List Answer) (here : before.position thread = ⟨.idle, answers⟩)
      (done : clients thread answers = none) :
      StatementOutcome api clients before thread false before
  /-- The thread waits for the lock. -/
  | waits (answers : List Answer) (call : Call Qos Message) (statement : Guarded Qos)
      (here : before.position thread = ⟨.idle, answers⟩)
      (calls : clients thread answers = some call) (takes : call.guarded = some statement) :
      StatementOutcome api clients before thread false before
  /-- A call without a part under the lock is made and returns. -/
  | called (answers : List Answer) (call : Call Qos Message) (answer : Answer) (shared : World σ)
      (here : before.position thread = ⟨.idle, answers⟩)
      (calls : clients thread answers = some call) (lockless : call.guarded = none)
      (stepped : World.step api before.shared call = .ok (answer, shared)) :
      StatementOutcome api clients before thread true
        { before.move thread ⟨.idle, answers ++ [answer]⟩ with shared }
  /-- A call takes the lock. -/
  | entered (answers : List Answer) (call : Call Qos Message) (statement : Guarded Qos)
      (here : before.position thread = ⟨.idle, answers⟩)
      (calls : clients thread answers = some call) (takes : call.guarded = some statement)
      (free : before.holder = none) :
      StatementOutcome api clients before thread true
        { before.move thread ⟨.guarded statement, answers⟩ with holder := some thread }
  /-- A statement under the lock. -/
  | guarded (statement : Guarded Qos) (answers : List Answer) (point : Point Qos)
      (shared : World σ) (here : before.position thread = ⟨.guarded statement, answers⟩)
      (went : statement.effect api before.shared = .ok (point, shared)) :
      StatementOutcome api clients before thread true
        { before.move thread ⟨point, answers⟩ with shared }
  /-- `registerTopic` releases the lock. -/
  | registerUnlocked (dataType : TopicDataType) (kept value : Bool) (answers : List Answer)
      (here : before.position thread = ⟨.registerUnlock dataType kept value, answers⟩) :
      StatementOutcome api clients before thread true
        { before.move thread ⟨.leaveScope dataType kept value, answers⟩ with holder := none }
  /-- Another call releases the lock and returns. -/
  | unlocked (answer : Answer) (answers : List Answer)
      (here : before.position thread = ⟨.unlock answer, answers⟩) :
      StatementOutcome api clients before thread true
        { before.move thread ⟨.idle, answers ++ [answer]⟩ with holder := none }
  /-- `registerTopic` destroys its `TypeSupport` and returns. -/
  | scopeLeft (dataType : TopicDataType) (kept value : Bool) (answers : List Answer)
      (here : before.position thread = ⟨.leaveScope dataType kept value, answers⟩)
      (once : kept = false → dataType ∉ before.shared.destroyed) :
      StatementOutcome api clients before thread true
        { before.move thread ⟨.idle, answers ++ [.flag value]⟩ with
          shared := { before.shared with toHost := before.shared.leaveScope dataType kept } }

/-- A statement that does not fault is executed in one of these ways. -/
theorem statement_cases {before after : Threads ι (Position Qos) (World σ)} {thread : ι}
    {moved : Bool} (stepped : statementStep api clients before thread = .ok (moved, after)) :
    StatementOutcome api clients before thread moved after := by
  cases Monitor.step_cases stepped with
  | finished here =>
    obtain ⟨idle, done⟩ := Client.code_finished.mp here
    exact .finished (before.position thread).answers (by rw [← idle]) done
  | waits next here holder taken =>
    obtain ⟨answers, call, statement, place, calls, takes, _⟩ := Client.code_acquire here
    exact .waits answers call statement place calls takes
  | acquires next here free =>
    obtain ⟨answers, call, statement, place, calls, takes, rfl⟩ := Client.code_acquire here
    exact .entered answers call statement place calls takes free
  | releases next here =>
    rcases Client.code_release here with ⟨dataType, kept, value, answers, place, rfl⟩ |
      ⟨answer, answers, place, rfl⟩
    · exact .registerUnlocked dataType kept value answers place
    · exact .unlocked answer answers place
  | acts effect next shared here went =>
    rcases Client.code_act here with ⟨answers, call, place, calls, lockless, rfl⟩ |
      ⟨statement, answers, place, rfl⟩ | ⟨dataType, kept, value, answers, place, rfl⟩
    · obtain ⟨⟨answer, changed⟩, returned, same⟩ := Machine.map_ok.mp went
      obtain ⟨rfl, rfl⟩ := Prod.mk.inj same
      exact .called answers call answer changed place calls lockless returned
    · obtain ⟨⟨point, changed⟩, returned, same⟩ := Machine.map_ok.mp went
      obtain ⟨rfl, rfl⟩ := Prod.mk.inj same
      exact .guarded statement answers point changed place returned
    · obtain ⟨changed, returned, same⟩ := Machine.map_ok.mp went
      obtain ⟨rfl, rfl⟩ := Prod.mk.inj same
      obtain ⟨once, rfl⟩ := destroyTypeSupport_ok.mp returned
      exact .scopeLeft dataType kept value answers place once

/-- The ways a statement faults. -/
theorem statement_faults {before : Threads ι (Position Qos) (World σ)} {thread : ι} {fault : Fault}
    (faulted : statementStep api clients before thread = .error fault) :
    (∃ answers call, before.position thread = ⟨.idle, answers⟩ ∧
      clients thread answers = some call ∧ call.guarded = none ∧
        World.step api before.shared call = .error fault) ∨
    (∃ statement answers, before.position thread = ⟨.guarded statement, answers⟩ ∧
      statement.effect api before.shared = .error fault) ∨
    ∃ dataType value answers, before.position thread = ⟨.leaveScope dataType false value, answers⟩ ∧
      dataType ∈ before.shared.destroyed := by
  obtain ⟨effect, here, went⟩ := Monitor.step_faults.mp faulted
  rcases Client.code_act here with ⟨answers, call, place, calls, lockless, rfl⟩ |
    ⟨statement, answers, place, rfl⟩ | ⟨dataType, kept, value, answers, place, rfl⟩
  · exact .inl ⟨answers, call, place, calls, lockless, Machine.map_error.mp went⟩
  · exact .inr (.inl ⟨statement, answers, place, Machine.map_error.mp went⟩)
  · have twice := Machine.map_error.mp went
    unfold destroyTypeSupport at twice
    split at twice
    · rename_i both
      obtain ⟨rfl, gone⟩ := both
      exact .inr (.inr ⟨dataType, value, answers, place, gone⟩)
    · cases twice

end FastDdsWrapper
