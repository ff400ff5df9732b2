import FastDdsWrapper.EndpointObjects
import FastDdsWrapper.TopicUse

/-!
# What belongs to a participant

The middleware holds the entities of all participants of a process together. `Holdings.AgreeOn`
compares what belongs to one of them, `Holdings.AgreeBut` what belongs to all the others. `Owned`
says that a participant object has in step with it all that belongs to its participant: it depends
on nothing else (`Owned.agree`), and constructor, calls and destructor touch nothing else
(`construct_elsewhere`, `Owned.step_elsewhere`, `Owned.destruct`).
-/

namespace FastDdsWrapper

open Machine (bind_ok)

variable {σ Qos Message : Type} {api : Middleware σ Qos Message}
variable {participant : DomainParticipant}

namespace Holdings

/-- The same entities belong to the participant. -/
structure AgreeOn (participant : DomainParticipant) (before after : Holdings) : Prop where
  /-- It exists or not. -/
  alive : participant ∈ after.participants ↔ participant ∈ before.participants
  /-- Its type table. -/
  types : after.types participant = before.types participant
  /-- Its publishers and subscribers. -/
  groups : ∀ group, group.participant = participant →
    (group ∈ after.groups ↔ group ∈ before.groups)
  /-- Its topics. -/
  topics : ∀ topic, topic.participant = participant →
    (topic ∈ after.topics ↔ topic ∈ before.topics)
  /-- The data endpoints on its topics or inside its groups. -/
  endpoints : ∀ data, data.topic.participant = participant ∨ data.group.participant = participant →
    (data ∈ after.endpoints ↔ data ∈ before.endpoints)

/-- The same entities belong to every other participant. -/
def AgreeBut (participant : DomainParticipant) (before after : Holdings) : Prop :=
  ∀ other, other ≠ participant → before.AgreeOn other after

/-- Nothing changed. -/
theorem AgreeOn.of_eq {before after : Holdings} (same : after = before) :
    before.AgreeOn participant after := by
  subst same
  exact ⟨Iff.rfl, rfl, fun _ _ => Iff.rfl, fun _ _ => Iff.rfl, fun _ _ => Iff.rfl⟩

/-- Agreement carries on. -/
theorem AgreeOn.trans {first second third : Holdings} (early : first.AgreeOn participant second)
    (late : second.AgreeOn participant third) : first.AgreeOn participant third where
  alive := late.alive.trans early.alive
  types := late.types.trans early.types
  groups group belongs := (late.groups group belongs).trans (early.groups group belongs)
  topics topic belongs := (late.topics topic belongs).trans (early.topics topic belongs)
  endpoints data belongs := (late.endpoints data belongs).trans (early.endpoints data belongs)

/-- Nothing changed for the others. -/
theorem AgreeBut.of_eq {before after : Holdings} (same : after = before) :
    before.AgreeBut participant after :=
  fun _ _ => .of_eq same

/-- Agreement on the others carries on. -/
theorem AgreeBut.trans {first second third : Holdings} (early : first.AgreeBut participant second)
    (late : second.AgreeBut participant third) : first.AgreeBut participant third :=
  fun other apart => (early other apart).trans (late other apart)

variable (held : Holdings)

/-- A new participant is no other one. -/
theorem agreeBut_addParticipant (participant : DomainParticipant) :
    held.AgreeBut participant (held.addParticipant participant) := by
  intro other apart
  refine ⟨?_, ?_, fun _ _ => Iff.rfl, fun _ _ => Iff.rfl, fun _ _ => Iff.rfl⟩
  · simp [apart]
  · funext name
    simp [apart]

/-- A participant that leaves is no other one. -/
theorem agreeBut_removeParticipant (participant : DomainParticipant) :
    held.AgreeBut participant (held.removeParticipant participant) := by
  intro other apart
  refine ⟨?_, ?_, fun _ _ => Iff.rfl, fun _ _ => Iff.rfl, fun _ _ => Iff.rfl⟩
  · simp [apart]
  · funext name
    simp [apart]

/-- A new group belongs to its participant alone. -/
theorem agreeBut_addGroup {group : Group} (belongs : group.participant = participant) :
    held.AgreeBut participant (held.addGroup group) := by
  intro other apart
  refine ⟨Iff.rfl, rfl, fun item own => ?_, fun _ _ => Iff.rfl, fun _ _ => Iff.rfl⟩
  have differs : item ≠ group := fun same => apart (own.symm.trans (same ▸ belongs))
  simp [differs]

/-- A type is recorded with one participant. -/
theorem agreeBut_addType (participant : DomainParticipant) (dataType : TopicDataType) :
    held.AgreeBut participant (held.addType participant dataType) := by
  intro other apart
  refine ⟨Iff.rfl, ?_, fun _ _ => Iff.rfl, fun _ _ => Iff.rfl, fun _ _ => Iff.rfl⟩
  funext name
  simp [apart]

/-- A new topic belongs to its participant alone. -/
theorem agreeBut_addTopic {topic : Topic} (belongs : topic.participant = participant) :
    held.AgreeBut participant (held.addTopic topic) := by
  intro other apart
  refine ⟨Iff.rfl, rfl, fun _ _ => Iff.rfl, fun item own => ?_, fun _ _ => Iff.rfl⟩
  have differs : item ≠ topic := fun same => apart (own.symm.trans (same ▸ belongs))
  simp [differs]

/-- So does a topic that leaves. -/
theorem agreeBut_removeTopic {topic : Topic} (belongs : topic.participant = participant) :
    held.AgreeBut participant (held.removeTopic topic) := by
  intro other apart
  refine ⟨Iff.rfl, rfl, fun _ _ => Iff.rfl, fun item own => ?_, fun _ _ => Iff.rfl⟩
  have differs : item ≠ topic := fun same => apart (own.symm.trans (same ▸ belongs))
  simp [differs]

/-- A data endpoint whose topic and group belong to one participant is nobody else's. -/
theorem endpoint_apart {data item : DataEndpoint} {other : DomainParticipant}
    (apart : other ≠ participant) (onTopic : data.topic.participant = participant)
    (inGroup : data.group.participant = participant)
    (own : item.topic.participant = other ∨ item.group.participant = other) : item ≠ data := by
  rintro rfl
  rcases own with same | same
  · exact apart (same.symm.trans onTopic)
  · exact apart (same.symm.trans inGroup)

/-- A new data endpoint belongs to its participant alone. -/
theorem agreeBut_addEndpoint {data : DataEndpoint} (onTopic : data.topic.participant = participant)
    (inGroup : data.group.participant = participant) :
    held.AgreeBut participant (held.addEndpoint data) := by
  intro other apart
  refine ⟨Iff.rfl, rfl, fun _ _ => Iff.rfl, fun _ _ => Iff.rfl, fun item own => ?_⟩
  simp [endpoint_apart apart onTopic inGroup own]

/-- So does a data endpoint that leaves. -/
theorem agreeBut_removeEndpoint {data : DataEndpoint}
    (onTopic : data.topic.participant = participant)
    (inGroup : data.group.participant = participant) :
    held.AgreeBut participant (held.removeEndpoint data) := by
  intro other apart
  refine ⟨Iff.rfl, rfl, fun _ _ => Iff.rfl, fun _ _ => Iff.rfl, fun item own => ?_⟩
  simp [endpoint_apart apart onTopic inGroup own]

end Holdings

/-! ## One object and its participant -/

/-- The process around a participant object whose participant is alive, with all that belongs to
it. -/
structure Owned (api : Middleware σ Qos Message) (participant : DomainParticipant)
    (world : World σ) : Prop where
  /-- The stores are in step. -/
  consistent : Consistent api participant world
  /-- The participant is alive and the object's groups are its groups. -/
  rooted : Rooted api participant world
  /-- Endpoint objects use the object's publisher or subscriber. -/
  source : ∀ endpoint ∈ world.endpoints, endpoint.MadeBy world.self
  /-- Their data endpoints are inside it. -/
  inside : ∀ endpoint ∈ world.endpoints, ∀ data, endpoint.data = some data →
    data.group = endpoint.group

/-- The object's own groups belong to its participant. -/
theorem Rooted.ownGroup {world : World σ} (rooted : Rooted api participant world)
    {endpoint : Endpoint} (source : endpoint.MadeBy world.self) :
    endpoint.group.participant = participant := by
  rcases source with ⟨_, pointed⟩ | ⟨_, pointed⟩
  · exact ((rooted.groups endpoint.group).mpr (.inl pointed)).2
  · exact ((rooted.groups endpoint.group).mpr (.inr pointed)).2

/-- The endpoint object a call returns uses the object's publisher or subscriber, and its data
endpoint is inside it. -/
theorem World.step_source (contract : Contract api) {before after : World σ}
    {call : Call Qos Message} {endpoint : Endpoint}
    (stepped : World.step api before call = .ok (.endpoint (some endpoint), after)) :
    endpoint.MadeBy before.self ∧ ∀ data, endpoint.data = some data →
      data.group = endpoint.group := by
  have inside : ∀ {create : σ → Group → Topic → Qos → Nat → Option DataEndpoint × σ}
      {state next : σ} {group : Group} {topic : Topic} {qos : Qos} {object : Nat}
      {made : Option DataEndpoint}, AddsEndpoint api.holdings create →
      create state group topic qos object = (made, next) →
        ∀ data, made = some data → data.group = group := by
    rintro create state next group topic qos object _ adds answered data rfl
    have promised := adds state group topic qos object
    simp only [answered] at promised
    exact promised.1
  cases step_cases stepped with
  | writer topicName dataWriterQos _ middleware outcome =>
    cases outcome with
    | constructed group topic data _ entry source alive present answered =>
      exact ⟨.inl ⟨rfl, source⟩, inside contract.createDatawriter answered⟩
  | reader topicName dataReaderQos _ middleware outcome =>
    cases outcome with
    | constructed group topic data _ entry source alive present answered =>
      exact ⟨.inr ⟨rfl, source⟩, inside contract.createDatareader answered⟩

/-- The data endpoint of an endpoint object belongs to the participant. -/
theorem Owned.ownData {world : World σ} (owned : Owned api participant world) {endpoint : Endpoint}
    (member : endpoint ∈ world.endpoints) {data : DataEndpoint} (made : endpoint.data = some data) :
    data.topic.participant = participant ∧ data.group.participant = participant := by
  obtain ⟨_, belongs, _⟩ := owned.consistent.coupled.objects endpoint member data made
  rw [owned.inside endpoint member data made]
  exact ⟨belongs, owned.rooted.ownGroup (owned.source endpoint member)⟩

/-- A topic in the map belongs to the participant. -/
theorem Owned.ownTopic {world : World σ} (owned : Owned api participant world) {topicName : String}
    {topic : Topic} (entry : world.self.mapTopics.lookup topicName = some (some topic)) :
    topic.participant = participant :=
  ((owned.consistent.inStep.topics topicName topic).mp entry).2.1

/-- A registration touches only what belongs to the participant. -/
theorem RegisterOutcome.elsewhere (contract : Contract api) {host next : Host σ}
    {topicName : String} {topicQos : Qos} {dataType : Option TopicDataType} {value : Bool}
    (owner : host.self.participant = some participant)
    (outcome : RegisterOutcome api host topicName topicQos dataType value next) :
    (api.holdings host.middleware).AgreeBut participant (api.holdings next.middleware) := by
  have typed : ∀ {dataType : TopicDataType} {code : ReturnCode} {kept : Bool} {registered : σ},
      api.registerType host.middleware participant dataType = ((code, kept), registered) →
        (api.holdings host.middleware).AgreeBut participant (api.holdings registered) := by
    intro dataType code kept registered answered
    have promised := contract.registerType host.middleware participant dataType
    cases code with
    | ok =>
      simp only [answered] at promised
      rcases promised with ⟨_, _, held⟩ | ⟨_, _, held⟩
      · rw [held]
        exact Holdings.agreeBut_addType _ participant dataType
      · exact .of_eq held
    | failed errcode =>
      simp only [answered] at promised
      exact .of_eq promised.2
  have same : ∀ {source : DomainParticipant}, host.derefParticipant api = .ok source →
      source = participant :=
    fun live => Option.some.inj ((derefParticipant_ok.mp live).1.symm.trans owner)
  cases outcome with
  | noDataType => exact .of_eq rfl
  | alreadyRegistered object known intact => exact .of_eq (by rw [Host.leaveScope_middleware])
  | typeRefused object source errcode kept middleware unknown live intact answered =>
    obtain rfl := same live
    rw [Host.leaveScope_middleware]
    exact typed answered
  | topicRefused object source kept registered middleware unknown live intact answered created =>
    obtain rfl := same live
    have promised := contract.createTopic registered source topicName object.name topicQos
    simp only [created] at promised
    rw [Host.leaveScope_middleware]
    exact (typed answered).trans (.of_eq promised)
  | topicCreated object source kept registered middleware topic unknown live intact answered
      created =>
    obtain rfl := same live
    have promised := contract.createTopic registered source topicName object.name topicQos
    simp only [created] at promised
    obtain ⟨belongs, _, _, _, held⟩ := promised
    rw [Host.leaveScope_middleware, Host.insertTopic_middleware, held]
    exact (typed answered).trans (Holdings.agreeBut_addTopic _ belongs)

/-- A creation touches only what belongs to the participant. -/
theorem Owned.create_elsewhere {create : σ → Group → Topic → Qos → Nat → Option DataEndpoint × σ}
    (adds : AddsEndpoint api.holdings create) {kind : EndpointKind} {pointer : Pointer Group}
    {world : World σ} (owned : Owned api participant world) {topicName : String} {qos : Qos}
    {object : Nat} {result : Option Endpoint} {next : σ}
    (own : ∀ group, pointer = .address group →
      world.self.publisher = .address group ∨ world.self.subscriber = .address group)
    (outcome : CreateOutcome api create kind pointer world.toHost topicName qos object result
      next) :
    (api.holdings world.middleware).AgreeBut participant (api.holdings next) := by
  cases outcome with
  | absent unknown => exact .of_eq rfl
  | constructed group topic data middleware entry source alive present answered =>
    have promised := adds world.middleware group topic qos object
    cases data with
    | none =>
      simp only [answered] at promised
      exact .of_eq promised
    | some data =>
      simp only [answered] at promised
      obtain ⟨inGroup, onTopic, _, _, held⟩ := promised
      rw [held]
      refine Holdings.agreeBut_addEndpoint _ ?_ ?_
      · rw [onTopic]
        exact owned.ownTopic entry
      · rw [inGroup]
        exact ((owned.rooted.groups group).mpr (own group source)).2

/-- A call on one object touches only what belongs to its participant. -/
theorem Owned.step_elsewhere (contract : Contract api) {before after : World σ}
    {call : Call Qos Message} {answer : Answer} (owned : Owned api participant before)
    (stepped : World.step api before call = .ok (answer, after)) :
    (api.holdings before.middleware).AgreeBut participant (api.holdings after.middleware) := by
  cases step_cases stepped with
  | registered topicName dataType topicQos value host outcome =>
    exact outcome.elsewhere contract owned.rooted.owner
  | unregistered topicName value host outcome =>
    cases outcome with
    | absent unknown => exact .of_eq rfl
    | nullEntry entry => exact .of_eq rfl
    | refused topic source errcode middleware entry live present answered =>
      have promised := contract.deleteTopic before.middleware source topic
      simp only [answered] at promised
      exact .of_eq promised
    | deleted topic source middleware entry live present answered =>
      have promised := contract.deleteTopic before.middleware source topic
      simp only [answered] at promised
      simp only [Host.eraseTopic_middleware, promised.2]
      exact Holdings.agreeBut_removeTopic _ (owned.ownTopic entry)
  | writer topicName dataWriterQos made middleware outcome =>
    have touched := owned.create_elsewhere contract.createDatawriter (fun group => .inl) outcome
    cases made <;> exact touched
  | reader topicName dataReaderQos made middleware outcome =>
    have touched := owned.create_elsewhere contract.createDatareader (fun group => .inr) outcome
    cases made <;> exact touched
  | unwritten object message missing => exact .of_eq rfl
  | written object message endpoint value middleware found returned =>
    exact .of_eq (writeMessage_held contract returned)
  | undestroyed kind object missing => exact .of_eq rfl
  | destroyed kind object endpoint middleware found returned =>
    rcases destructEndpoint_held contract returned with ⟨held, _⟩ | ⟨data, made, held⟩
    · exact .of_eq held
    · obtain ⟨onTopic, inGroup⟩ := owned.ownData (World.find_mem found) made
      simp only [held]
      exact Holdings.agreeBut_removeEndpoint _ onTopic inGroup

/-- A call keeps the process around an object with its participant. -/
theorem Owned.step (contract : Contract api) {before after : World σ} {call : Call Qos Message}
    {answer : Answer} (owned : Owned api participant before)
    (stepped : World.step api before call = .ok (answer, after)) :
    Owned api participant after := by
  have effect := step_effect contract owned.rooted.owner stepped
  obtain ⟨publisher, subscriber⟩ := effect.pointers
  -- An endpoint object was there before, or the step returned it.
  have known : ∀ endpoint ∈ after.endpoints, endpoint.MadeBy before.self ∧
      ∀ data, endpoint.data = some data → data.group = endpoint.group := by
    intro endpoint member
    rcases World.step_objects stepped member with old | rfl
    · exact ⟨owned.source endpoint old, owned.inside endpoint old⟩
    · exact World.step_source contract stepped
  exact ⟨effect.consistent owned.consistent, effect.rooted owned.rooted,
    fun endpoint member => (known endpoint member).1.stays publisher subscriber,
    fun endpoint member => (known endpoint member).2⟩

/-- The process around an object with its participant depends on nothing that belongs to others. -/
theorem Owned.agree {before after : World σ} (owned : Owned api participant before)
    (self : after.self = before.self) (objects : after.endpoints = before.endpoints)
    (agree : (api.holdings before.middleware).AgreeOn participant
      (api.holdings after.middleware)) : Owned api participant after := by
  obtain ⟨⟨coupled, sound⟩, rooted, source, inside⟩ := owned
  have same : directory api participant after = directory api participant before := by
    simp only [directory, self, Catalogue.mk.injEq, true_and]
    funext data
    by_cases belongs : data.topic.participant = participant
    · simp only [agree.endpoints data (.inl belongs)]
    · simp only [belongs, and_false]
  refine ⟨⟨⟨?_, ?_, ?_, ?_, ?_⟩, ?_⟩, ⟨?_, ?_, ?_, ?_, ?_, ?_⟩, ?_, ?_⟩
  · rw [self]
    exact coupled.owner
  · rw [self]
    exact coupled.pointed
  · intro topic
    rw [self, ← coupled.topics topic]
    exact and_congr_left fun belongs => agree.topics topic belongs
  · rw [objects]
    intro endpoint member data made
    obtain ⟨present, belongs, named⟩ := coupled.objects endpoint member data made
    exact ⟨(agree.endpoints data (.inl belongs)).mpr present, belongs, named⟩
  · rw [objects]
    exact coupled.distinct
  · rw [same]
    exact sound
  · rw [self]
    exact rooted.owner
  · exact agree.alive.mpr rooted.alive
  · rw [self]
    exact rooted.assigned
  · intro group
    rw [self, ← rooted.groups group]
    exact and_congr_left fun belongs => agree.groups group belongs
  · rw [self]
    exact rooted.kinds
  · intro data member belongs
    have present := (agree.endpoints data (.inr belongs)).mp member
    exact (agree.groups data.group belongs).mpr (rooted.enclosed data present belongs)
  · rw [objects, self]
    exact source
  · rw [objects]
    exact inside

/-- A constructor that got its participant leaves it with all that belongs to it. -/
theorem construct_owned (contract : Contract api) {middleware : σ} {domainId : Int}
    {participantQos : Qos}
    (created : (World.construct api middleware domainId participantQos).self.participant =
      some participant) :
    Owned api participant (World.construct api middleware domainId participantQos) := by
  obtain ⟨self, next, world, made⟩ := World.construct_constructed contract created
  refine ⟨construct_consistent contract created, construct_rooted contract created, ?_, ?_⟩
  · simp [world]
  · simp [world]

/-- A constructor touches nothing but its new participant. -/
theorem construct_elsewhere (contract : Contract api) {middleware next : σ} {domainId : Int}
    {participantQos : Qos} {self : DDSDomainParticipant}
    (returned : DDSDomainParticipant.construct api middleware domainId participantQos =
      (self, next)) :
    match self.participant with
    | none => api.holdings next = api.holdings middleware
    | some participant =>
      (api.holdings middleware).AgreeBut participant (api.holdings next) := by
  have grouped : ∀ {kind : EndpointKind} {create : σ → DomainParticipant → Qos → Option Group × σ}
      {state after : σ} {source : DomainParticipant} {qos : Qos} {result : Option Group},
      AddsGroup api.holdings kind create → create state source qos = (result, after) →
        (api.holdings state).AgreeBut source (api.holdings after) := by
    intro kind create state after source qos result adds answered
    have promised := adds state source qos
    cases result with
    | none =>
      simp only [answered] at promised
      exact .of_eq promised
    | some group =>
      simp only [answered] at promised
      rw [promised.2.2.2]
      exact Holdings.agreeBut_addGroup _ promised.2.1
  have promised := contract.createParticipant middleware domainId participantQos
  rcases made : api.createParticipant middleware domainId participantQos with
    ⟨_ | participant, entered⟩
  · simp only [DDSDomainParticipant.construct, made, Prod.mk.injEq] at returned promised
    obtain ⟨rfl, rfl⟩ := returned
    exact promised
  · rcases subscribed : api.createSubscriber entered participant api.subscriberQosDefault with
      ⟨subscriber, middle⟩
    rcases published : api.createPublisher middle participant api.publisherQosDefault with
      ⟨publisher, last⟩
    simp only [DDSDomainParticipant.construct, made, subscribed, published, Prod.mk.injEq]
      at returned promised
    obtain ⟨rfl, rfl⟩ := returned
    have added : (api.holdings middleware).AgreeBut participant (api.holdings entered) := by
      rw [promised.2.2]
      exact Holdings.agreeBut_addParticipant _ participant
    exact (added.trans (grouped contract.createSubscriber subscribed)).trans
      (grouped contract.createPublisher published)

/-- The destructor touches only its participant, and deletes that only when no endpoint object is
left. -/
theorem Owned.destruct (contract : Contract api) {world : World σ}
    (owned : Owned api participant world) {next : σ}
    (returned : world.self.destruct api world.middleware = .ok next) :
    (api.holdings world.middleware).AgreeBut participant (api.holdings next) ∧
      (world.endpoints ≠ [] → api.holdings next = api.holdings world.middleware) := by
  simp only [DDSDomainParticipant.destruct, owned.rooted.owner, owned.rooted.alive, ↓reduceIte,
    Except.ok.injEq] at returned
  have promised := contract.deleteParticipant world.middleware participant
  rcases answered : api.deleteParticipant world.middleware participant with ⟨_ | errcode, after⟩
  · simp only [answered] at promised returned
    obtain ⟨bare, held⟩ := promised
    subst returned
    refine ⟨?_, fun filled => absurd ?_ bare⟩
    · rw [held]
      exact Holdings.agreeBut_removeParticipant _ participant
    · obtain ⟨endpoint, member⟩ := List.exists_mem_of_ne_nil _ filled
      have source := owned.source endpoint member
      exact .inl ⟨endpoint.group, (owned.rooted.sheltersGroup source).1,
        owned.rooted.ownGroup source⟩
  · simp only [answered] at promised returned
    subst returned
    exact ⟨.of_eq promised, fun _ => promised⟩

/-- Around an object without a participant no call that returns changes anything. -/
theorem Vacant.still {before after : World σ} {call : Call Qos Message} {answer : Answer}
    (vacant : Vacant before) (stepped : World.step api before call = .ok (answer, after)) :
    after = before := by
  have unknown : ∀ name, before.self.mapTopics.lookup name = none := by
    intro name
    rw [vacant.empty, Finmap.lookup_empty]
  have absent : ∀ kind object, before.find kind object = none := by
    intro kind object
    simp [World.find, vacant.objects]
  cases call with
  | registerTopic topicName dataType topicQos =>
    have unusable : before.toHost.derefParticipant api = .error .nullPointer := by
      simp [Host.derefParticipant, vacant.missing, Pointer.ofOption, Pointer.deref]
    have new : topicName ∉ before.self.mapTopics := Finmap.lookup_eq_none.mp (unknown topicName)
    cases dataType with
    | none =>
      simp only [World.step, registerTopic, bind_ok, Except.ok.injEq, Prod.mk.injEq] at stepped
      obtain ⟨_, rfl, _, rfl⟩ := stepped
      rfl
    | some dataType =>
      by_cases gone : dataType ∈ before.destroyed
      · simp [World.step, registerTopic, gone, bind, Except.bind] at stepped
      · simp [World.step, registerTopic, gone, new, unusable, bind, Except.bind] at stepped
  | unregisterTopic topicName =>
    simp only [World.step, unregisterTopic, unknown, bind_ok, Except.ok.injEq, Prod.mk.injEq]
      at stepped
    obtain ⟨_, rfl, _, rfl⟩ := stepped
    rfl
  | createDataWriter topicName dataWriterQos =>
    simp only [World.step, createDataWriter, createEndpoint, unknown, bind_ok, Except.ok.injEq]
      at stepped
    obtain ⟨_, rfl, adopted⟩ := stepped
    exact (congrArg Prod.snd adopted).symm
  | createDataReader topicName dataReaderQos =>
    simp only [World.step, createDataReader, createEndpoint, unknown, bind_ok, Except.ok.injEq]
      at stepped
    obtain ⟨_, rfl, adopted⟩ := stepped
    exact (congrArg Prod.snd adopted).symm
  | writeMessage object message =>
    simp only [World.step, absent, Except.ok.injEq, Prod.mk.injEq] at stepped
    exact stepped.2.symm
  | destroyEndpoint kind object =>
    simp only [World.step, absent, Except.ok.injEq, Prod.mk.injEq] at stepped
    exact stepped.2.symm

end FastDdsWrapper
