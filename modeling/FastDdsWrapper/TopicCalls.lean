import FastDdsWrapper.DomainParticipant

/-!
# What a single call can do

Each call of the wrapper gets one inductive list of its outcomes, a case per return path of the
source, and a theorem that the call ends in exactly those. `StepOutcome` gathers them for a call on
the process. `Effect` then says what one step of the process around a participant object can do to
the topic map, the endpoint objects and the entities the middleware holds; every invariant is
derived from it.
-/

namespace FastDdsWrapper

open Machine (bind_ok)

variable {σ Qos Message : Type} {api : Middleware σ Qos Message}

/-- A participant pointer is usable exactly when it is set and its participant alive. -/
theorem derefParticipant_ok {host : Host σ} {participant : DomainParticipant} :
    host.derefParticipant api = .ok participant ↔
      host.self.participant = some participant ∧
        participant ∈ (api.holdings host.middleware).participants := by
  rw [Host.derefParticipant, Pointer.deref_ok, Pointer.ofOption_eq_address]

/-- The return paths of `registerTopic`. -/
inductive RegisterOutcome (api : Middleware σ Qos Message) (host : Host σ) (topicName : String)
    (topicQos : Qos) : Option TopicDataType → Bool → Host σ → Prop
  /-- No data type object. -/
  | noDataType : RegisterOutcome api host topicName topicQos none false host
  /-- The name is in the map already, whatever its type. -/
  | alreadyRegistered (dataType : TopicDataType) (known : topicName ∈ host.self.mapTopics)
      (intact : dataType ∉ host.destroyed) :
      RegisterOutcome api host topicName topicQos (some dataType) true
        (host.leaveScope dataType false)
  /-- `register_type` failed. -/
  | typeRefused (dataType : TopicDataType) (participant : DomainParticipant) (errcode : Nat)
      (kept : Bool) (middleware : σ) (unknown : topicName ∉ host.self.mapTopics)
      (live : host.derefParticipant api = .ok participant)
      (intact : dataType ∉ host.destroyed)
      (answered : api.registerType host.middleware participant dataType =
        ((.failed errcode, kept), middleware)) :
      RegisterOutcome api host topicName topicQos (some dataType) false
        ({ host with middleware }.leaveScope dataType kept)
  /-- `create_topic` returned null. -/
  | topicRefused (dataType : TopicDataType) (participant : DomainParticipant)
      (kept : Bool) (registered middleware : σ) (unknown : topicName ∉ host.self.mapTopics)
      (live : host.derefParticipant api = .ok participant)
      (intact : dataType ∉ host.destroyed)
      (answered : api.registerType host.middleware participant dataType =
        ((.ok, kept), registered))
      (created : api.createTopic registered participant topicName dataType.name topicQos =
        (none, middleware)) :
      RegisterOutcome api host topicName topicQos (some dataType) true
        ({ host with middleware }.leaveScope dataType kept)
  /-- `create_topic` returned a topic. -/
  | topicCreated (dataType : TopicDataType) (participant : DomainParticipant)
      (kept : Bool) (registered middleware : σ) (topic : Topic)
      (unknown : topicName ∉ host.self.mapTopics)
      (live : host.derefParticipant api = .ok participant)
      (intact : dataType ∉ host.destroyed)
      (answered : api.registerType host.middleware participant dataType =
        ((.ok, kept), registered))
      (created : api.createTopic registered participant topicName dataType.name topicQos =
        (some topic, middleware)) :
      RegisterOutcome api host topicName topicQos (some dataType) true
        (({ host with middleware }.insertTopic topicName topic).leaveScope dataType kept)

/-- `registerTopic` returns exactly on its listed paths. -/
theorem registerTopic_ok {host next : Host σ} {topicName : String}
    {dataType : Option TopicDataType} {topicQos : Qos} {value : Bool} :
    registerTopic api host topicName dataType topicQos = .ok (value, next) ↔
      RegisterOutcome api host topicName topicQos dataType value next := by
  constructor
  · intro returned
    cases dataType with
    | none =>
      simp only [registerTopic, Except.ok.injEq, Prod.mk.injEq] at returned
      obtain ⟨rfl, rfl⟩ := returned
      exact .noDataType
    | some dataType =>
      by_cases intact : dataType ∈ host.destroyed
      · simp [registerTopic, intact] at returned
      by_cases known : topicName ∈ host.self.mapTopics
      · simp only [registerTopic, intact, known, ↓reduceIte, Except.ok.injEq, Prod.mk.injEq]
          at returned
        obtain ⟨rfl, rfl⟩ := returned
        exact .alreadyRegistered dataType known intact
      simp only [registerTopic, intact, known, ↓reduceIte, bind_ok] at returned
      obtain ⟨participant, live, returned⟩ := returned
      rcases answered : api.registerType host.middleware participant dataType with
        ⟨⟨_ | errcode, kept⟩, registered⟩
      · simp only [answered] at returned
        rcases created : api.createTopic registered participant topicName dataType.name
          topicQos with ⟨_ | topic, middleware⟩
        · simp only [created, Except.ok.injEq, Prod.mk.injEq] at returned
          obtain ⟨rfl, rfl⟩ := returned
          exact .topicRefused dataType participant kept registered middleware known live intact
            answered created
        · simp only [created, Except.ok.injEq, Prod.mk.injEq] at returned
          obtain ⟨rfl, rfl⟩ := returned
          exact .topicCreated dataType participant kept registered middleware topic known live
            intact answered created
      · simp only [answered, Except.ok.injEq, Prod.mk.injEq] at returned
        obtain ⟨rfl, rfl⟩ := returned
        exact .typeRefused dataType participant errcode kept registered known live intact answered
  · intro outcome
    cases outcome with
    | noDataType => rfl
    | alreadyRegistered dataType known intact => simp [registerTopic, known, intact]
    | typeRefused dataType participant errcode kept middleware unknown live intact answered =>
      simp [registerTopic, unknown, live, intact, answered, bind, Except.bind]
    | topicRefused dataType participant kept registered middleware unknown live intact answered
        created =>
      simp [registerTopic, unknown, live, intact, answered, created, bind, Except.bind]
    | topicCreated dataType participant kept registered middleware topic unknown live intact
        answered created =>
      simp [registerTopic, unknown, live, intact, answered, created, bind, Except.bind]

/-- The return paths of `unregisterTopic`. -/
inductive UnregisterOutcome (api : Middleware σ Qos Message) (host : Host σ)
    (topicName : String) : Bool → Host σ → Prop
  /-- The name is not in the map. -/
  | absent (unknown : host.self.mapTopics.lookup topicName = none) :
      UnregisterOutcome api host topicName true host
  /-- The map holds a null pointer. -/
  | nullEntry (entry : host.self.mapTopics.lookup topicName = some none) :
      UnregisterOutcome api host topicName true (host.eraseTopic topicName)
  /-- `delete_topic` failed. -/
  | refused (topic : Topic) (participant : DomainParticipant) (errcode : Nat) (middleware : σ)
      (entry : host.self.mapTopics.lookup topicName = some (some topic))
      (live : host.derefParticipant api = .ok participant)
      (present : topic ∈ (api.holdings host.middleware).topics)
      (answered : api.deleteTopic host.middleware participant topic =
        (.failed errcode, middleware)) :
      UnregisterOutcome api host topicName false { host with middleware }
  /-- `delete_topic` deleted the topic. -/
  | deleted (topic : Topic) (participant : DomainParticipant) (middleware : σ)
      (entry : host.self.mapTopics.lookup topicName = some (some topic))
      (live : host.derefParticipant api = .ok participant)
      (present : topic ∈ (api.holdings host.middleware).topics)
      (answered : api.deleteTopic host.middleware participant topic = (.ok, middleware)) :
      UnregisterOutcome api host topicName true ({ host with middleware }.eraseTopic topicName)

/-- `unregisterTopic` returns exactly on its listed paths. -/
theorem unregisterTopic_ok {host next : Host σ} {topicName : String} {value : Bool} :
    unregisterTopic api host topicName = .ok (value, next) ↔
      UnregisterOutcome api host topicName value next := by
  constructor
  · intro returned
    rcases entry : host.self.mapTopics.lookup topicName with _ | _ | topic
    · simp only [unregisterTopic, entry, Except.ok.injEq, Prod.mk.injEq] at returned
      obtain ⟨rfl, rfl⟩ := returned
      exact .absent entry
    · simp only [unregisterTopic, entry, Except.ok.injEq, Prod.mk.injEq] at returned
      obtain ⟨rfl, rfl⟩ := returned
      exact .nullEntry entry
    · simp only [unregisterTopic, entry, bind_ok, Pointer.deref_ok] at returned
      obtain ⟨participant, live, target, ⟨same, present⟩, returned⟩ := returned
      obtain rfl := Pointer.address.inj same
      rcases answered : api.deleteTopic host.middleware participant topic with
        ⟨_ | errcode, middleware⟩
      · simp only [answered, Except.ok.injEq, Prod.mk.injEq] at returned
        obtain ⟨rfl, rfl⟩ := returned
        exact .deleted topic participant middleware entry live present answered
      · simp only [answered, Except.ok.injEq, Prod.mk.injEq] at returned
        obtain ⟨rfl, rfl⟩ := returned
        exact .refused topic participant errcode middleware entry live present answered
  · intro outcome
    cases outcome with
    | absent unknown => simp [unregisterTopic, unknown]
    | nullEntry entry => simp [unregisterTopic, entry]
    | refused topic participant errcode middleware entry live present answered =>
      simp [unregisterTopic, entry, live, present, answered, bind, Except.bind]
    | deleted topic participant middleware entry live present answered =>
      simp [unregisterTopic, entry, live, present, answered, bind, Except.bind]

/-- The return paths of `createDataWriter` and `createDataReader`. -/
inductive CreateOutcome (api : Middleware σ Qos Message)
    (create : σ → Group → Topic → Qos → Nat → Option DataEndpoint × σ) (kind : EndpointKind)
    (pointer : Pointer Group) (host : Host σ) (topicName : String) (qos : Qos) (object : Nat) :
    Option Endpoint → σ → Prop
  /-- The name is not in the map. -/
  | absent (unknown : host.self.mapTopics.lookup topicName = none) :
      CreateOutcome api create kind pointer host topicName qos object none host.middleware
  /-- An endpoint object is made around whatever the middleware returned. -/
  | constructed (group : Group) (topic : Topic) (data : Option DataEndpoint) (middleware : σ)
      (entry : host.self.mapTopics.lookup topicName = some (some topic))
      (source : pointer = .address group)
      (alive : group ∈ (api.holdings host.middleware).groups)
      (present : topic ∈ (api.holdings host.middleware).topics)
      (answered : create host.middleware group topic qos object = (data, middleware)) :
      CreateOutcome api create kind pointer host topicName qos object
        (some ⟨kind, object, topicName, group, data⟩) middleware

/-- The creating methods return exactly on their listed paths. -/
theorem createEndpoint_ok
    {create : σ → Group → Topic → Qos → Nat → Option DataEndpoint × σ} {kind : EndpointKind}
    {pointer : Pointer Group} {host : Host σ} {topicName : String} {qos : Qos} {object : Nat}
    {result : Option Endpoint} {next : σ} :
    createEndpoint api create kind pointer host topicName qos object = .ok (result, next) ↔
      CreateOutcome api create kind pointer host topicName qos object result next := by
  constructor
  · intro returned
    cases entry : host.self.mapTopics.lookup topicName with
    | none =>
      simp only [createEndpoint, entry, Except.ok.injEq, Prod.mk.injEq] at returned
      obtain ⟨rfl, rfl⟩ := returned
      exact .absent entry
    | some pointed =>
      simp only [createEndpoint, entry, constructEndpoint, bind_ok, Pointer.deref_ok,
        Pointer.ofOption_eq_address] at returned
      obtain ⟨⟨endpoint, middleware⟩, ⟨group, ⟨source, alive⟩, topic, ⟨target, present⟩, made⟩,
        returned⟩ := returned
      subst target
      simp only [Except.ok.injEq, Prod.mk.injEq] at made returned
      obtain ⟨rfl, rfl⟩ := made
      obtain ⟨rfl, rfl⟩ := returned
      exact .constructed group topic _ _ entry source alive present rfl
  · intro outcome
    cases outcome with
    | absent unknown => simp [createEndpoint, unknown]
    | constructed group topic data middleware entry source alive present answered =>
      subst source
      simp [createEndpoint, entry, constructEndpoint, Pointer.ofOption, alive, present, answered,
        bind, Except.bind]

/-- A creating method changes the data endpoints alone. -/
theorem createEndpoint_held
    {create : σ → Group → Topic → Qos → Nat → Option DataEndpoint × σ} {kind : EndpointKind}
    (adds : AddsEndpoint api.holdings create) {pointer : Pointer Group} {host : Host σ}
    {topicName : String} {qos : Qos} {object : Nat} {result : Option Endpoint} {next : σ}
    (returned : createEndpoint api create kind pointer host topicName qos object =
      .ok (result, next)) :
    ∃ endpoints, api.holdings next = { api.holdings host.middleware with endpoints } := by
  cases createEndpoint_ok.mp returned with
  | absent unknown => exact ⟨_, rfl⟩
  | constructed group topic data middleware entry source alive present answered =>
    have promised := adds host.middleware group topic qos object
    cases data with
    | none =>
      simp only [answered] at promised
      exact ⟨_, promised⟩
    | some data =>
      simp only [answered] at promised
      obtain ⟨_, _, _, _, held⟩ := promised
      exact ⟨_, held⟩

/-- A destructor leaves everything the middleware holds, or removes the object's own data
endpoint; a reader with a data endpoint does the former only when the deletion is refused. -/
theorem destructEndpoint_held (contract : Contract api) {middleware next : σ}
    {endpoint : Endpoint} (returned : destructEndpoint api middleware endpoint = .ok next) :
    (api.holdings next = api.holdings middleware ∧
      ∀ data, endpoint.data = some data → endpoint.kind = .reader →
        (api.deleteDatareader middleware endpoint.group data).1 ≠ .ok) ∨
      ∃ data, endpoint.data = some data ∧
        api.holdings next = (api.holdings middleware).removeEndpoint data := by
  have removed : ∀ {delete : σ → Group → DataEndpoint → ReturnCode × σ} {group : Group}
      {data : DataEndpoint}, RemovesEndpoint api.holdings delete →
      next = (delete middleware group data).2 →
      (api.holdings next = api.holdings middleware ∧ (delete middleware group data).1 ≠ .ok) ∨
        api.holdings next = (api.holdings middleware).removeEndpoint data := by
    intro delete group data removes same
    have promised := removes middleware group data
    rcases answered : delete middleware group data with ⟨_ | errcode, after⟩
    · simp only [answered] at promised same
      exact .inr (same ▸ promised)
    · simp only [answered] at promised same
      exact .inl ⟨same ▸ promised, by simp⟩
  cases kind : endpoint.kind with
  | writer =>
    simp only [destructEndpoint, kind, destructDataWriter, bind_ok, Pointer.deref_ok,
      Pointer.ofOption_eq_address, Except.ok.injEq] at returned
    obtain ⟨group, _, data, ⟨named, _⟩, same⟩ := returned
    rcases removed contract.deleteDatawriter same.symm with ⟨kept, _⟩ | gone
    · exact .inl ⟨kept, fun data _ reader => by cases reader⟩
    · exact .inr ⟨data, named, gone⟩
  | reader =>
    cases named : endpoint.data with
    | none =>
      simp only [destructEndpoint, kind, destructDataReader, named, Except.ok.injEq] at returned
      exact .inl ⟨returned ▸ rfl, fun data made => by cases made⟩
    | some data =>
      simp only [destructEndpoint, kind, destructDataReader, named, bind_ok, Pointer.deref_ok,
        Pointer.address.injEq, Except.ok.injEq] at returned
      obtain ⟨group, ⟨rfl, _⟩, target, ⟨rfl, _⟩, same⟩ := returned
      rcases removed contract.deleteDatareader same.symm with ⟨kept, refused⟩ | gone
      · exact .inl ⟨kept, fun other made _ => Option.some.inj made ▸ refused⟩
      · exact .inr ⟨data, rfl, gone⟩

/-- A write leaves everything the middleware holds. -/
theorem writeMessage_held (contract : Contract api) {middleware next : σ} {endpoint : Endpoint}
    {message : Message} {value : Bool}
    (returned : writeMessage api middleware endpoint message = .ok (value, next)) :
    api.holdings next = api.holdings middleware := by
  simp only [writeMessage, bind_ok, Except.ok.injEq] at returned
  obtain ⟨data, _, same⟩ := returned
  have promised := contract.write middleware data message
  rwa [same] at promised

/-- What a constructor that got its participant has done. -/
structure Constructed (api : Middleware σ Qos Message) (middleware : σ)
    (participant : DomainParticipant) (object : DDSDomainParticipant) (next : σ) : Prop where
  /-- The participant was unknown. -/
  new : participant ∉ (api.holdings middleware).participants
  /-- Nothing belonged to it. -/
  bare : ¬ (api.holdings middleware).Owns participant
  /-- `m_participant` is set. -/
  owner : object.participant = some participant
  /-- `m_mapTopics` is empty. -/
  empty : object.mapTopics = ∅
  /-- The factory holds one more participant. -/
  participants : (api.holdings next).participants =
    insert participant (api.holdings middleware).participants
  /-- No topic was created. -/
  topics : (api.holdings next).topics = (api.holdings middleware).topics
  /-- No data endpoint was created. -/
  endpoints : (api.holdings next).endpoints = (api.holdings middleware).endpoints
  /-- The participant's type table is empty. -/
  types : (api.holdings next).types participant = fun _ => none
  /-- The new groups are the publisher and the subscriber the object points to. -/
  groups : ∀ group, group ∈ (api.holdings next).groups ↔
    group ∈ (api.holdings middleware).groups ∨
      object.publisher = .address group ∨ object.subscriber = .address group
  /-- Neither pointer is left unassigned. -/
  assigned : object.publisher ≠ .unassigned ∧ object.subscriber ≠ .unassigned
  /-- The publisher is a publisher of the participant. -/
  published : ∀ group, object.publisher = .address group →
    group.participant = participant ∧ group.kind = .writer
  /-- The subscriber is a subscriber of the participant. -/
  subscribed : ∀ group, object.subscriber = .address group →
    group.participant = participant ∧ group.kind = .reader

/-- A group-creating call adds exactly the group it returns, of its kind and for its participant. -/
theorem addsGroup_held {kind : EndpointKind}
    {create : σ → DomainParticipant → Qos → Option Group × σ}
    (adds : AddsGroup api.holdings kind create) {state next : σ} {participant : DomainParticipant}
    {qos : Qos} {result : Option Group}
    (answered : create state participant qos = (result, next)) :
    (∃ groups, api.holdings next = { api.holdings state with groups } ∧
      ∀ group, group ∈ groups ↔ group ∈ (api.holdings state).groups ∨ result = some group) ∧
    ∀ group, result = some group → group.participant = participant ∧ group.kind = kind := by
  have promised := adds state participant qos
  cases result with
  | none =>
    simp only [answered] at promised
    exact ⟨⟨_, promised, fun group => by simp⟩, fun group made => by cases made⟩
  | some made =>
    simp only [answered] at promised
    obtain ⟨alike, belongs, _, held⟩ := promised
    refine ⟨⟨_, held, fun group => ?_⟩, fun group same => ?_⟩
    · rw [Finset.mem_insert, Option.some.injEq, or_comm, eq_comm]
    · rw [← Option.some.inj same]
      exact ⟨belongs, alike⟩

/-- The constructor either got no participant, or did all that `Constructed` says. -/
theorem construct_cases (contract : Contract api) {middleware next : σ} {domainId : Int}
    {participantQos : Qos} {self : DDSDomainParticipant}
    (returned : DDSDomainParticipant.construct api middleware domainId participantQos =
      (self, next)) :
    (self.participant = none ∧ self = ⟨none, .unassigned, .unassigned, ∅⟩ ∧
        api.holdings next = api.holdings middleware) ∨
      ∃ participant, Constructed api middleware participant self next := by
  have promised := contract.createParticipant middleware domainId participantQos
  rcases made : api.createParticipant middleware domainId participantQos with
    ⟨_ | participant, entered⟩
  · simp only [DDSDomainParticipant.construct, made, Prod.mk.injEq] at returned promised
    obtain ⟨rfl, rfl⟩ := returned
    exact .inl ⟨rfl, rfl, promised⟩
  · rcases subscribed : api.createSubscriber entered participant api.subscriberQosDefault with
      ⟨subscriber, middle⟩
    rcases published : api.createPublisher middle participant api.publisherQosDefault with
      ⟨publisher, last⟩
    simp only [DDSDomainParticipant.construct, made, subscribed, published, Prod.mk.injEq]
      at returned promised
    obtain ⟨rfl, rfl⟩ := returned
    obtain ⟨new, bare, added⟩ := promised
    obtain ⟨⟨_, first, inFirst⟩, ownFirst⟩ := addsGroup_held contract.createSubscriber subscribed
    obtain ⟨⟨_, second, inSecond⟩, ownSecond⟩ :=
      addsGroup_held contract.createPublisher published
    refine .inr ⟨participant, ⟨new, bare, rfl, rfl, ?_, ?_, ?_, ?_, ?_, ?_, ?_, ?_⟩⟩
    · rw [second, first, added]
      rfl
    · rw [second, first, added]
      rfl
    · rw [second, first, added]
      rfl
    · rw [second, first, added]
      funext name
      simp
    · intro group
      rw [second]
      simp only [inSecond, first, inFirst, added, Holdings.addParticipant_groups,
        Pointer.ofOption_eq_address]
      tauto
    · exact ⟨Pointer.ofOption_ne_unassigned publisher, Pointer.ofOption_ne_unassigned subscriber⟩
    · intro group source
      exact ownSecond group (Pointer.ofOption_eq_address.mp source)
    · intro group source
      exact ownFirst group (Pointer.ofOption_eq_address.mp source)

/-! ## One step of the process -/

/-- The endpoint object was made with the object's own publisher or subscriber. -/
def Endpoint.MadeBy (endpoint : Endpoint) (object : DDSDomainParticipant) : Prop :=
  (endpoint.kind = .writer ∧ object.publisher = .address endpoint.group) ∨
    (endpoint.kind = .reader ∧ object.subscriber = .address endpoint.group)

/-- What one step can do to the topic map, the endpoint objects and the middleware's entities. -/
inductive Effect (api : Middleware σ Qos Message) (participant : DomainParticipant)
    (before after : World σ) : Prop
  /-- At most a type was registered. -/
  | quiet (types : DomainParticipant → String → Option TopicDataType)
      (self : after.self = before.self) (objects : after.endpoints = before.endpoints)
      (held : api.holdings after.middleware = { api.holdings before.middleware with types })
      (counted : after.nextObject = before.nextObject)
  /-- A new topic entered the middleware and the map under a free name. -/
  | topicCreated (types : DomainParticipant → String → Option TopicDataType) (topic : Topic)
      (unknown : topic.name ∉ before.self.mapTopics) (owner : topic.participant = participant)
      (fresh : topic ∉ (api.holdings before.middleware).topics)
      (self : after.self = { before.self with
        mapTopics := before.self.mapTopics.insert topic.name (some topic) })
      (objects : after.endpoints = before.endpoints)
      (held : api.holdings after.middleware =
        Holdings.addTopic { api.holdings before.middleware with types } topic)
      (counted : after.nextObject = before.nextObject)
  /-- A null entry left the map. -/
  | nullErased (topicName : String)
      (entry : before.self.mapTopics.lookup topicName = some none)
      (self : after.self = { before.self with
        mapTopics := before.self.mapTopics.erase topicName })
      (objects : after.endpoints = before.endpoints)
      (held : api.holdings after.middleware = api.holdings before.middleware)
      (counted : after.nextObject = before.nextObject)
  /-- An unused topic left the middleware and the map. -/
  | topicDeleted (topicName : String) (topic : Topic)
      (entry : before.self.mapTopics.lookup topicName = some (some topic))
      (unused : ¬ (api.holdings before.middleware).Uses topic)
      (self : after.self = { before.self with
        mapTopics := before.self.mapTopics.erase topicName })
      (objects : after.endpoints = before.endpoints)
      (held : api.holdings after.middleware =
        (api.holdings before.middleware).removeTopic topic)
      (counted : after.nextObject = before.nextObject)
  /-- A new endpoint object holds a null data endpoint. -/
  | endpointRefused (endpoint : Endpoint) (missing : endpoint.data = none)
      (self : after.self = before.self) (objects : after.endpoints = before.endpoints ++ [endpoint])
      (held : api.holdings after.middleware = api.holdings before.middleware)
      (counted : after.nextObject = before.nextObject + 1)
      (numbered : endpoint.object = before.nextObject)
  /-- A new endpoint object holds a new data endpoint on the topic of its name, which the object's
  publisher or subscriber made and which got the object's listener. -/
  | endpointCreated (endpoint : Endpoint) (data : DataEndpoint)
      (entry : before.self.mapTopics.lookup endpoint.topicName = some (some data.topic))
      (made : endpoint.data = some data)
      (alive : data.group ∈ (api.holdings before.middleware).groups)
      (fresh : data ∉ (api.holdings before.middleware).endpoints)
      (self : after.self = before.self) (objects : after.endpoints = before.endpoints ++ [endpoint])
      (held : api.holdings after.middleware =
        (api.holdings before.middleware).addEndpoint data)
      (counted : after.nextObject = before.nextObject + 1)
      (numbered : endpoint.object = before.nextObject) (source : endpoint.MadeBy before.self)
      (inside : data.group = endpoint.group) (heard : data.listener = endpoint.object)
  /-- An endpoint object is gone and the middleware's entities are as before: there was nothing to
  delete, or the deletion was refused. -/
  | endpointForgotten (endpoint : Endpoint) (member : endpoint ∈ before.endpoints)
      (self : after.self = before.self)
      (objects : after.endpoints = before.endpoints.erase endpoint)
      (held : api.holdings after.middleware = api.holdings before.middleware)
      (counted : after.nextObject = before.nextObject)
      (refused : ∀ data, endpoint.data = some data → endpoint.kind = .reader →
        (api.deleteDatareader before.middleware endpoint.group data).1 ≠ .ok)
  /-- An endpoint object is gone together with its data endpoint. -/
  | endpointDeleted (endpoint : Endpoint) (data : DataEndpoint)
      (member : endpoint ∈ before.endpoints) (made : endpoint.data = some data)
      (self : after.self = before.self)
      (objects : after.endpoints = before.endpoints.erase endpoint)
      (held : api.holdings after.middleware =
        (api.holdings before.middleware).removeEndpoint data)
      (counted : after.nextObject = before.nextObject)

/-- Registering a type touches nothing but the type tables. -/
theorem registerType_held (contract : Contract api) {state next : σ}
    {participant : DomainParticipant} {dataType : TopicDataType} {code : ReturnCode} {kept : Bool}
    (answered : api.registerType state participant dataType = ((code, kept), next)) :
    ∃ types, api.holdings next = { api.holdings state with types } := by
  have promised := contract.registerType state participant dataType
  cases code with
  | ok =>
    simp only [answered] at promised
    rcases promised with ⟨_, _, held⟩ | ⟨_, _, held⟩
    · exact ⟨_, held⟩
    · exact ⟨_, held⟩
  | failed errcode =>
    simp only [answered] at promised
    exact ⟨_, promised.2⟩

/-- `registerTopic` creates the topic of a free name or leaves map and topics alone. -/
theorem registerTopic_effect (contract : Contract api) {participant : DomainParticipant}
    {world : World σ} {next : Host σ} {topicName : String} {dataType : Option TopicDataType}
    {topicQos : Qos} {value : Bool} (owner : world.self.participant = some participant)
    (outcome : RegisterOutcome api world.toHost topicName topicQos dataType value next) :
    Effect api participant world { world with toHost := next } := by
  cases outcome with
  | noDataType => exact .quiet _ rfl rfl rfl rfl
  | alreadyRegistered dataType known intact =>
    exact .quiet _ (by simp) rfl (by rw [Host.leaveScope_middleware]) rfl
  | typeRefused dataType _ errcode kept middleware _ _ _ answered =>
    obtain ⟨types, held⟩ := registerType_held contract answered
    exact .quiet types (by simp) rfl (by simpa using held) rfl
  | topicRefused dataType source kept registered middleware _ _ _ answered created =>
    obtain ⟨types, held⟩ := registerType_held contract answered
    have promised := contract.createTopic registered source topicName dataType.name topicQos
    simp only [created] at promised
    exact .quiet types (by simp) rfl (by simpa using promised.trans held) rfl
  | topicCreated dataType source kept registered middleware topic unknown live _ answered
      created =>
    obtain ⟨types, held⟩ := registerType_held contract answered
    have promised := contract.createTopic registered source topicName dataType.name topicQos
    simp only [created, held] at promised
    obtain ⟨belongs, named, _, fresh, added⟩ := promised
    obtain ⟨set, _⟩ := derefParticipant_ok.mp live
    obtain rfl : source = participant := Option.some.inj (set.symm.trans owner)
    subst named
    exact .topicCreated types topic unknown belongs fresh (by simp) rfl (by simpa using added) rfl

/-- `unregisterTopic` deletes an unused topic or leaves the topics alone. -/
theorem unregisterTopic_effect (contract : Contract api) {participant : DomainParticipant}
    {world : World σ} {next : Host σ} {topicName : String} {value : Bool}
    (outcome : UnregisterOutcome api world.toHost topicName value next) :
    Effect api participant world { world with toHost := next } := by
  cases outcome with
  | absent unknown => exact .quiet _ rfl rfl rfl rfl
  | nullEntry entry => exact .nullErased topicName entry (by simp) rfl (by simp) rfl
  | refused topic source errcode middleware _ _ _ answered =>
    have promised := contract.deleteTopic world.middleware source topic
    simp only [answered] at promised
    exact .quiet _ rfl rfl promised rfl
  | deleted topic source middleware entry _ _ answered =>
    have promised := contract.deleteTopic world.middleware source topic
    simp only [answered] at promised
    exact .topicDeleted topicName topic entry promised.1 (by simp) rfl (by simpa using promised.2)
      rfl

/-- A creating method adds an endpoint object, around a new data endpoint unless the middleware
refused. -/
theorem createEndpoint_effect {participant : DomainParticipant}
    {create : σ → Group → Topic → Qos → Nat → Option DataEndpoint × σ} {kind : EndpointKind}
    (adds : AddsEndpoint api.holdings create) {pointer : Pointer Group} {world : World σ}
    {topicName : String} {qos : Qos} {result : Option Endpoint} {next : σ}
    (own : ∀ endpoint : Endpoint, endpoint.kind = kind → pointer = .address endpoint.group →
      endpoint.MadeBy world.self)
    (outcome : CreateOutcome api create kind pointer world.toHost topicName qos world.nextObject
      result next) :
    Effect api participant world (world.adopt (result, next)).2 := by
  cases outcome with
  | absent unknown => exact .quiet _ rfl rfl rfl rfl
  | constructed group topic data middleware entry source alive _ answered =>
    have promised := adds world.middleware group topic qos world.nextObject
    cases data with
    | none =>
      simp only [answered] at promised
      exact .endpointRefused _ rfl rfl rfl promised rfl rfl
    | some data =>
      simp only [answered] at promised
      obtain ⟨inGroup, onTopic, heard, fresh, added⟩ := promised
      subst inGroup
      subst onTopic
      exact .endpointCreated _ data entry rfl alive fresh rfl rfl added rfl rfl
        (own _ rfl source) rfl heard

/-- A found endpoint object exists. -/
theorem World.find_mem {world : World σ} {kind : EndpointKind} {object : Nat}
    {endpoint : Endpoint} (found : world.find kind object = some endpoint) :
    endpoint ∈ world.endpoints := List.mem_of_find?_eq_some found

/-- A found endpoint object is of the class and identity looked for. -/
theorem World.find_matches {world : World σ} {kind : EndpointKind} {object : Nat}
    {endpoint : Endpoint} (found : world.find kind object = some endpoint) :
    endpoint.kind = kind ∧ endpoint.object = object := by
  have matched := List.find?_some found
  simpa using matched

/-- The ways a call on the process returns. -/
inductive StepOutcome (api : Middleware σ Qos Message) (before : World σ) :
    Call Qos Message → Answer → World σ → Prop
  /-- `registerTopic` returns. -/
  | registered (topicName : String) (dataType : Option TopicDataType) (topicQos : Qos)
      (value : Bool) (host : Host σ)
      (outcome : RegisterOutcome api before.toHost topicName topicQos dataType value host) :
      StepOutcome api before (.registerTopic topicName dataType topicQos) (.flag value)
        { before with toHost := host }
  /-- `unregisterTopic` returns. -/
  | unregistered (topicName : String) (value : Bool) (host : Host σ)
      (outcome : UnregisterOutcome api before.toHost topicName value host) :
      StepOutcome api before (.unregisterTopic topicName) (.flag value)
        { before with toHost := host }
  /-- `createDataWriter` returns. -/
  | writer (topicName : String) (dataWriterQos : Qos) (endpoint : Option Endpoint)
      (middleware : σ)
      (outcome : CreateOutcome api api.createDatawriter .writer before.self.publisher
        before.toHost topicName dataWriterQos before.nextObject endpoint middleware) :
      StepOutcome api before (.createDataWriter topicName dataWriterQos) (.endpoint endpoint)
        (before.adopt (endpoint, middleware)).2
  /-- `createDataReader` returns. -/
  | reader (topicName : String) (dataReaderQos : Qos) (endpoint : Option Endpoint)
      (middleware : σ)
      (outcome : CreateOutcome api api.createDatareader .reader before.self.subscriber
        before.toHost topicName dataReaderQos before.nextObject endpoint middleware) :
      StepOutcome api before (.createDataReader topicName dataReaderQos) (.endpoint endpoint)
        (before.adopt (endpoint, middleware)).2
  /-- There is no writer object to write with. -/
  | unwritten (object : Nat) (message : Message) (missing : before.find .writer object = none) :
      StepOutcome api before (.writeMessage object message) .none before
  /-- `writeMessage` returns. -/
  | written (object : Nat) (message : Message) (endpoint : Endpoint) (value : Bool)
      (middleware : σ) (found : before.find .writer object = some endpoint)
      (returned : writeMessage api before.middleware endpoint message = .ok (value, middleware)) :
      StepOutcome api before (.writeMessage object message) (.flag value)
        { before with middleware }
  /-- There is no object to destroy. -/
  | undestroyed (kind : EndpointKind) (object : Nat) (missing : before.find kind object = none) :
      StepOutcome api before (.destroyEndpoint kind object) .none before
  /-- A destructor returns. -/
  | destroyed (kind : EndpointKind) (object : Nat) (endpoint : Endpoint) (middleware : σ)
      (found : before.find kind object = some endpoint)
      (returned : destructEndpoint api before.middleware endpoint = .ok middleware) :
      StepOutcome api before (.destroyEndpoint kind object) .none
        { before with middleware, endpoints := before.endpoints.erase endpoint }

/-- A call on the process that returns returns in one of these ways. -/
theorem step_cases {before after : World σ} {call : Call Qos Message} {answer : Answer}
    (stepped : World.step api before call = .ok (answer, after)) :
    StepOutcome api before call answer after := by
  cases call with
  | registerTopic topicName dataType topicQos =>
    simp only [World.step, bind_ok, Except.ok.injEq, Prod.mk.injEq] at stepped
    obtain ⟨⟨value, host⟩, returned, rfl, rfl⟩ := stepped
    exact .registered topicName dataType topicQos value host (registerTopic_ok.mp returned)
  | unregisterTopic topicName =>
    simp only [World.step, bind_ok, Except.ok.injEq, Prod.mk.injEq] at stepped
    obtain ⟨⟨value, host⟩, returned, rfl, rfl⟩ := stepped
    exact .unregistered topicName value host (unregisterTopic_ok.mp returned)
  | createDataWriter topicName dataWriterQos =>
    simp only [World.step, bind_ok, Except.ok.injEq] at stepped
    obtain ⟨⟨endpoint, middleware⟩, returned, adopted⟩ := stepped
    have answered := (congrArg Prod.fst adopted).symm.trans (World.adopt_answer ..)
    subst answered
    obtain rfl := congrArg Prod.snd adopted
    exact .writer topicName dataWriterQos endpoint middleware (createEndpoint_ok.mp returned)
  | createDataReader topicName dataReaderQos =>
    simp only [World.step, bind_ok, Except.ok.injEq] at stepped
    obtain ⟨⟨endpoint, middleware⟩, returned, adopted⟩ := stepped
    have answered := (congrArg Prod.fst adopted).symm.trans (World.adopt_answer ..)
    subst answered
    obtain rfl := congrArg Prod.snd adopted
    exact .reader topicName dataReaderQos endpoint middleware (createEndpoint_ok.mp returned)
  | writeMessage object message =>
    cases found : before.find .writer object with
    | none =>
      simp only [World.step, found, Except.ok.injEq, Prod.mk.injEq] at stepped
      obtain ⟨rfl, rfl⟩ := stepped
      exact .unwritten object message found
    | some endpoint =>
      simp only [World.step, found, bind_ok, Except.ok.injEq, Prod.mk.injEq] at stepped
      obtain ⟨⟨value, middleware⟩, returned, rfl, rfl⟩ := stepped
      exact .written object message endpoint value middleware found returned
  | destroyEndpoint kind object =>
    cases found : before.find kind object with
    | none =>
      simp only [World.step, found, Except.ok.injEq, Prod.mk.injEq] at stepped
      obtain ⟨rfl, rfl⟩ := stepped
      exact .undestroyed kind object found
    | some endpoint =>
      simp only [World.step, found, bind_ok, Except.ok.injEq, Prod.mk.injEq] at stepped
      obtain ⟨middleware, returned, rfl, rfl⟩ := stepped
      exact .destroyed kind object endpoint middleware found returned

/-- Destroying an existing endpoint object takes it out and leaves the participant object. -/
theorem World.destroyEndpoint_objects {before after : World σ} {kind : EndpointKind} {object : Nat}
    {endpoint : Endpoint} {answer : Answer} (found : before.find kind object = some endpoint)
    (stepped : World.step api before (.destroyEndpoint kind object) = .ok (answer, after)) :
    after.endpoints = before.endpoints.erase endpoint ∧ after.self = before.self ∧
      after.nextObject = before.nextObject := by
  cases step_cases stepped with
  | undestroyed _ _ missing => cases found.symm.trans missing
  | destroyed _ _ other middleware known returned =>
    obtain rfl := Option.some.inj (found.symm.trans known)
    exact ⟨rfl, rfl, rfl⟩

/-- A creating method's new endpoint object is the one it returns. -/
theorem World.adopt_objects {world : World σ} {result : Option Endpoint × σ} {endpoint : Endpoint}
    (member : endpoint ∈ (world.adopt result).2.endpoints) :
    endpoint ∈ world.endpoints ∨ (world.adopt result).1 = .endpoint (some endpoint) := by
  obtain ⟨_ | made, middleware⟩ := result
  · exact .inl member
  · rcases List.mem_append.mp member with old | new
    · exact .inl old
    · exact .inr (by rw [World.adopt_answer, List.mem_singleton.mp new])

/-- After a step, an endpoint object was there before or is the one the step returns. -/
theorem World.step_objects {before after : World σ} {call : Call Qos Message} {answer : Answer}
    (stepped : World.step api before call = .ok (answer, after)) {endpoint : Endpoint}
    (member : endpoint ∈ after.endpoints) :
    endpoint ∈ before.endpoints ∨ answer = .endpoint (some endpoint) := by
  cases step_cases stepped with
  | registered topicName dataType topicQos value host outcome => exact .inl member
  | unregistered topicName value host outcome => exact .inl member
  | writer topicName dataWriterQos made middleware outcome =>
    have objects := World.adopt_objects member
    rwa [World.adopt_answer] at objects
  | reader topicName dataReaderQos made middleware outcome =>
    have objects := World.adopt_objects member
    rwa [World.adopt_answer] at objects
  | unwritten object message missing => exact .inl member
  | written object message endpoint value middleware found returned => exact .inl member
  | undestroyed kind object missing => exact .inl member
  | destroyed kind object endpoint middleware found returned =>
    exact .inl (List.mem_of_mem_erase member)

/-- Every step of the process has one of the listed effects. -/
theorem step_effect (contract : Contract api) {participant : DomainParticipant}
    {before after : World σ} {call : Call Qos Message} {answer : Answer}
    (owner : before.self.participant = some participant)
    (stepped : World.step api before call = .ok (answer, after)) :
    Effect api participant before after := by
  cases step_cases stepped with
  | registered topicName dataType topicQos value host outcome =>
    exact registerTopic_effect contract owner outcome
  | unregistered topicName value host outcome => exact unregisterTopic_effect contract outcome
  | writer topicName dataWriterQos endpoint middleware outcome =>
    exact createEndpoint_effect contract.createDatawriter
      (fun endpoint kind source => .inl ⟨kind, source⟩) outcome
  | reader topicName dataReaderQos endpoint middleware outcome =>
    exact createEndpoint_effect contract.createDatareader
      (fun endpoint kind source => .inr ⟨kind, source⟩) outcome
  | unwritten object message missing => exact .quiet _ rfl rfl rfl rfl
  | written object message endpoint value middleware found returned =>
    exact .quiet _ rfl rfl (writeMessage_held contract returned) rfl
  | undestroyed kind object missing => exact .quiet _ rfl rfl rfl rfl
  | destroyed kind object endpoint middleware found returned =>
    have member := World.find_mem found
    rcases destructEndpoint_held contract returned with ⟨held, refused⟩ | ⟨data, made, held⟩
    · exact .endpointForgotten endpoint member rfl rfl held rfl refused
    · exact .endpointDeleted endpoint data member made rfl rfl held rfl

end FastDdsWrapper
