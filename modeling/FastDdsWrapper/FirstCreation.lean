import FastDdsWrapper.ManagerCalls
import FastDdsWrapper.TopicLock

/-!
# The first creating call of a manager

Right after its initialisation a manager has a participant object without topics. Its first creating
call registers the one topic it names and asks for the endpoint, so what it returns is decided by
six answers of the middleware: participant, subscriber, publisher, type, topic and data endpoint.
-/

namespace FastDdsWrapper

open Machine (bind_ok)

variable {σ Qos Message : Type} {api : Middleware σ Qos Message} {opened : σ}
variable {participant : DomainParticipant} {object : DDSDomainParticipant} {asked : Request}
variable {dataType : TopicDataType}

/-- The settings a creating method of the manager leaves to its default argument. -/
def Middleware.endpointQosDefault (api : Middleware σ Qos Message) :
    EndpointKind → Qos
  | .writer => api.dataWriterQosDefault
  | .reader => api.dataReaderQosDefault

/-- The participant is created, and the two creations after it answer as given. -/
def Opens (api : Middleware σ Qos Message) (middleware : σ) (domainId : Int)
    (participantQos : Qos) (participant : DomainParticipant) (subscriber publisher : Option Group)
    (opened : σ) : Prop :=
  ∃ entered middle,
    api.createParticipant middleware domainId participantQos = (some participant, entered) ∧
    api.createSubscriber entered participant api.subscriberQosDefault = (subscriber, middle) ∧
    api.createPublisher middle participant api.publisherQosDefault = (publisher, opened)

/-- The type and then the topic are granted. -/
def GrantsTopic (api : Middleware σ Qos Message) (opened : σ)
    (participant : DomainParticipant) (topicName : String) (dataType : TopicDataType)
    (topic : Topic) (named : σ) : Prop :=
  ∃ kept registered,
    api.registerType opened participant dataType = ((.ok, kept), registered) ∧
    api.createTopic registered participant topicName dataType.name api.topicQosDefault =
      (some topic, named)

/-- How the first creating call of a manager ends. -/
inductive FirstCreation (api : Middleware σ Qos Message) (opened : σ)
    (participant : DomainParticipant) (object : DDSDomainParticipant) (asked : Request)
    (dataType : TopicDataType) : Option Endpoint → Prop
  /-- The type or the topic is refused. -/
  | refused
      (never : ∀ topic named,
        ¬ GrantsTopic api opened participant asked.topicName dataType topic named) :
      FirstCreation api opened participant object asked dataType none
  /-- An endpoint object is made around whatever the middleware returns for the new topic. -/
  | made (topic : Topic) (named last : σ) (group : Group) (data : Option DataEndpoint)
      (granted : GrantsTopic api opened participant asked.topicName dataType topic named)
      (source : object.group asked.kind = .address group)
      (answered : api.createDataEndpoint asked.kind named group topic
        (api.endpointQosDefault asked.kind) 0 = (data, last)) :
      FirstCreation api opened participant object asked dataType
        (some ⟨asked.kind, 0, asked.topicName, group, data⟩)

/-- The creating method behind a request, with the data of its kind. -/
theorem Request.create_eq (asked : Request)
    (host : Host σ) (object : Nat) :
    asked.create api host object =
      createEndpoint api (api.createDataEndpoint asked.kind) asked.kind
        (host.self.group asked.kind) host asked.topicName (api.endpointQosDefault asked.kind)
        object := by
  obtain ⟨kind, topicName⟩ := asked
  cases kind with
  | writer => rfl
  | reader => rfl

/-- Beside the granted topic only its type is recorded. -/
theorem GrantsTopic.held (contract : Contract api) {topicName : String} {topic : Topic} {named : σ}
    (granted : GrantsTopic api opened participant topicName dataType topic named) :
    ∃ types, api.holdings named =
      { api.holdings opened with types, topics := insert topic (api.holdings opened).topics } := by
  obtain ⟨kept, registered, answered, created⟩ := granted
  obtain ⟨types, held⟩ := registerType_held contract answered
  have promised := contract.createTopic registered participant topicName dataType.name
    api.topicQosDefault
  simp only [created] at promised
  obtain ⟨_, _, _, _, added⟩ := promised
  exact ⟨types, by rw [added, held, Holdings.addTopic]⟩

/-- The middleware has one answer. -/
theorem GrantsTopic.unique {topicName : String} {topic other : Topic} {named last : σ}
    (granted : GrantsTopic api opened participant topicName dataType topic named)
    (again : GrantsTopic api opened participant topicName dataType other last) :
    topic = other ∧ named = last := by
  obtain ⟨kept, registered, answered, created⟩ := granted
  obtain ⟨_, _, accepted, made⟩ := again
  obtain ⟨_, rfl⟩ := Prod.mk.inj (answered.symm.trans accepted)
  obtain ⟨same, rfl⟩ := Prod.mk.inj (created.symm.trans made)
  exact ⟨Option.some.inj same, rfl⟩

/-- The first creating call is a registration and, if that answers true, a creation. -/
theorem Request.method_start {manager : DDSParticipantManager Qos}
    (present : manager.participant = some object)
    (typed : manager.getTopicDataType asked.topicName 0 = some dataType) {result : Option Endpoint}
    {next : ManagerWorld σ Qos} :
    asked.method api (.start manager opened 0) = .ok (result, next) ↔
      ∃ value host, registerTopic api ⟨object, opened, []⟩ asked.topicName (some dataType)
          api.topicQosDefault = .ok (value, host) ∧
        if value then ∃ last, asked.create api host 0 = .ok (result, last) ∧
          next = ((ManagerWorld.start manager opened 0).resume host).adopt (result, last)
        else result = none ∧ next = (ManagerWorld.start manager opened 0).resume host := by
  rw [Request.method_eq, ManagerWorld.createThrough]
  simp only [ManagerWorld.start, ManagerWorld.host, present, typed, bind_ok, Prod.exists]
  refine exists_congr fun value => exists_congr fun host => and_congr_right fun _ => ?_
  cases value with
  | false =>
    simp only [Bool.false_eq_true, ↓reduceIte, Except.ok.injEq, Prod.mk.injEq]
    rw [eq_comm, eq_comm (b := next)]
  | true =>
    simp only [↓reduceIte, bind_ok, Except.ok.injEq, Prod.mk.injEq, Prod.exists]
    constructor
    · intro returned
      obtain ⟨_, last, made, rfl, rfl⟩ := returned
      exact ⟨last, made, rfl⟩
    · intro returned
      obtain ⟨last, made, rfl⟩ := returned
      exact ⟨result, last, made, rfl, rfl⟩

/-- A registration on a new participant object adds the topic under its name exactly when it is
granted. -/
theorem first_registration (empty : object.mapTopics = ∅) {topicName : String} {value : Bool}
    {host : Host σ} (owner : object.participant = some participant)
    (outcome : RegisterOutcome api ⟨object, opened, []⟩ topicName api.topicQosDefault
      (some dataType) value host) :
    (∃ topic named, GrantsTopic api opened participant topicName dataType topic named ∧
      value = true ∧ host.middleware = named ∧
      host.self = { object with mapTopics := object.mapTopics.insert topicName (some topic) }) ∨
    (∀ topic named, ¬ GrantsTopic api opened participant topicName dataType topic named) ∧
      topicName ∉ host.self.mapTopics := by
  have fresh : topicName ∉ object.mapTopics := by
    rw [empty]
    exact Finmap.notMem_empty
  cases outcome with
  | alreadyRegistered _ known intact => exact absurd known fresh
  | typeRefused _ source errcode kept middleware unknown live intact answered =>
    obtain rfl := Option.some.inj ((derefParticipant_ok.mp live).1.symm.trans owner)
    refine .inr ⟨fun topic named granted => ?_, by rwa [Host.leaveScope_self]⟩
    obtain ⟨_, _, accepted, _⟩ := granted
    cases answered.symm.trans accepted
  | topicRefused _ source kept registered middleware unknown live intact answered created =>
    obtain rfl := Option.some.inj ((derefParticipant_ok.mp live).1.symm.trans owner)
    refine .inr ⟨fun topic named granted => ?_, by rwa [Host.leaveScope_self]⟩
    obtain ⟨_, _, accepted, made⟩ := granted
    obtain ⟨_, rfl⟩ := Prod.mk.inj (answered.symm.trans accepted)
    cases created.symm.trans made
  | topicCreated _ source kept registered middleware topic unknown live intact answered created =>
    obtain rfl := Option.some.inj ((derefParticipant_ok.mp live).1.symm.trans owner)
    refine .inl ⟨topic, middleware, ⟨kept, registered, answered, created⟩, rfl, ?_, ?_⟩
    · rw [Host.leaveScope_middleware, Host.insertTopic_middleware]
    · rw [Host.leaveScope_self, Host.insertTopic_self]

/-- The first creating call after the constructor ends in one of these ways. -/
theorem first_creation {manager : DDSParticipantManager Qos}
    (present : manager.participant = some object) (owner : object.participant = some participant)
    (empty : object.mapTopics = ∅)
    (typed : manager.getTopicDataType asked.topicName 0 = some dataType) {result : Option Endpoint}
    {next : ManagerWorld σ Qos}
    (returned : asked.method api (.start manager opened 0) = .ok (result, next)) :
    FirstCreation api opened participant object asked dataType result := by
  obtain ⟨value, host, registered, finished⟩ := (Request.method_start present typed).mp returned
  rcases first_registration empty owner (registerTopic_ok.mp registered) with
    ⟨topic, named, granted, rfl, rfl, self⟩ | ⟨never, unknown⟩
  · rw [if_pos rfl] at finished
    obtain ⟨last, made, _⟩ := finished
    rw [Request.create_eq] at made
    have entry : host.self.mapTopics.lookup asked.topicName = some (some topic) := by
      rw [self, Finmap.lookup_insert]
    cases createEndpoint_ok.mp made with
    | absent missing => cases missing.symm.trans entry
    | constructed group other data _ here source alive there answered =>
      obtain rfl := Option.some.inj (Option.some.inj (here.symm.trans entry))
      refine .made other _ last group data granted ?_ answered
      rw [self] at source
      exact source
  · cases value with
    | false =>
      rw [if_neg Bool.false_ne_true] at finished
      rw [finished.1]
      exact .refused never
    | true =>
      rw [if_pos rfl] at finished
      obtain ⟨last, made, _⟩ := finished
      rw [Request.create_eq, createEndpoint_unknown unknown] at made
      obtain ⟨rfl, _⟩ := Prod.mk.inj (Except.ok.inj made)
      exact .refused never

/-- A group pointer of a new participant object names a live group of its participant. -/
theorem Constructed.grouped {middleware : σ}
    (built : Constructed api middleware participant object opened) {kind : EndpointKind}
    {group : Group} (source : object.group kind = .address group) :
    group.participant = participant ∧ group ∈ (api.holdings opened).groups := by
  cases kind with
  | writer =>
    exact ⟨(built.published group source).1, (built.groups group).mpr (.inr (.inl source))⟩
  | reader =>
    exact ⟨(built.subscribed group source).1, (built.groups group).mpr (.inr (.inr source))⟩

/-- What the first creating call leaves. -/
structure FirstWorld (api : Middleware σ Qos Message) (middleware : σ)
    (participant : DomainParticipant) (result : Option Endpoint) (next : ManagerWorld σ Qos) :
    Prop where
  /-- The manager's object has the participant. -/
  owner : ∃ object, next.manager.participant = some object ∧ object.participant = some participant
  /-- The participant exists. -/
  alive : participant ∈ (api.holdings next.middleware).participants
  /-- A data endpoint it returns is a new one of the participant. -/
  created : ∀ endpoint data, result = some endpoint → endpoint.data = some data →
    data ∉ (api.holdings middleware).endpoints ∧
      data ∈ (api.holdings next.middleware).endpoints ∧ data.group.participant = participant

/-- Each of these ways is how such a call ends. -/
theorem FirstCreation.returns (contract : Contract api) {middleware : σ}
    (built : Constructed api middleware participant object opened)
    {manager : DDSParticipantManager Qos} (present : manager.participant = some object)
    (typed : manager.getTopicDataType asked.topicName 0 = some dataType) {result : Option Endpoint}
    (outcome : FirstCreation api opened participant object asked dataType result) :
    ∃ next, asked.method api (.start manager opened 0) = .ok (result, next) ∧
      FirstWorld api middleware participant result next := by
  have entered : participant ∈ (api.holdings opened).participants := by
    rw [built.participants]
    exact Finset.mem_insert_self participant _
  have live : (⟨object, opened, []⟩ : Host σ).derefParticipant api = .ok participant :=
    derefParticipant_ok.mpr ⟨built.owner, entered⟩
  obtain ⟨value, host, registered⟩ := registerTopic_returns asked.topicName (some dataType)
    api.topicQosDefault live (fun other _ => List.not_mem_nil)
  have ended := first_registration built.empty built.owner (registerTopic_ok.mp registered)
  obtain ⟨same, participants, _⟩ := (registerTopic_ok.mp registered).frame contract
  have owner : host.self.participant = some participant := same.trans built.owner
  have alive : participant ∈ (api.holdings host.middleware).participants := participants ▸ entered
  cases outcome with
  | refused never =>
    obtain ⟨_, unknown⟩ := ended.resolve_left fun known => by
      obtain ⟨topic, named, granted, _⟩ := known
      exact never topic named granted
    cases value with
    | false =>
      refine ⟨_, (Request.method_start present typed).mpr ⟨false, host, registered, rfl, rfl⟩,
        ⟨_, rfl, owner⟩, alive, fun endpoint data same => ?_⟩
      cases same
    | true =>
      refine ⟨_, (Request.method_start present typed).mpr ⟨true, host, registered,
        ⟨host.middleware, ?_, rfl⟩⟩, ⟨_, rfl, owner⟩, alive, fun endpoint data same => ?_⟩
      · rw [Request.create_eq, createEndpoint_unknown unknown]
      · cases same
  | made topic named last group data granted source answered =>
    obtain ⟨_, _, again, rfl, rfl, self⟩ := ended.resolve_right fun refused =>
      refused.1 topic named granted
    obtain ⟨rfl, rfl⟩ := granted.unique again
    obtain ⟨types, held⟩ := granted.held contract
    obtain ⟨belongs, grouped⟩ := built.grouped source
    have made : createEndpoint api (api.createDataEndpoint asked.kind) asked.kind
        (host.self.group asked.kind) host asked.topicName (api.endpointQosDefault asked.kind) 0 =
          .ok (some ⟨asked.kind, 0, asked.topicName, group, data⟩, last) := by
      refine createEndpoint_ok.mpr (.constructed group topic data last ?_ ?_ ?_ ?_ answered)
      · rw [self, Finmap.lookup_insert]
      · rw [self]
        exact source
      · rw [held]
        exact grouped
      · rw [held]
        exact Finset.mem_insert_self topic _
    obtain ⟨endpoints, kept⟩ := createEndpoint_held (createDataEndpoint_adds contract _) made
    rw [← Request.create_eq] at made
    refine ⟨_, (Request.method_start present typed).mpr ⟨true, host, registered, ⟨last, made, rfl⟩⟩,
      ⟨_, rfl, owner⟩, ?_, fun endpoint recorded same filled => ?_⟩
    · show participant ∈ (api.holdings last).participants
      rw [kept]
      exact alive
    · obtain rfl := Option.some.inj same
      obtain rfl : data = some recorded := filled
      have promised := createDataEndpoint_adds contract asked.kind host.middleware group topic
        (api.endpointQosDefault asked.kind) 0
      simp only [answered] at promised
      obtain ⟨rfl, _, _, new, added⟩ := promised
      rw [held] at new
      refine ⟨built.endpoints ▸ new, ?_, belongs⟩
      show recorded ∈ (api.holdings last).endpoints
      rw [added]
      exact Finset.mem_insert_self recorded _

/-- A first creating call that returns had a participant. -/
theorem first_owner {manager : DDSParticipantManager Qos}
    (present : manager.participant = some object) (empty : object.mapTopics = ∅)
    (typed : manager.getTopicDataType asked.topicName 0 = some dataType) {result : Option Endpoint}
    {next : ManagerWorld σ Qos}
    (returned : asked.method api (.start manager opened 0) = .ok (result, next)) :
    ∃ participant, object.participant = some participant := by
  obtain ⟨value, host, registered, _⟩ := (Request.method_start present typed).mp returned
  cases registerTopic_ok.mp registered with
  | alreadyRegistered _ known intact =>
    have known : asked.topicName ∈ object.mapTopics := known
    rw [empty] at known
    exact absurd known Finmap.notMem_empty
  | typeRefused _ source errcode kept middleware unknown live intact answered =>
    exact ⟨source, (derefParticipant_ok.mp live).1⟩
  | topicRefused _ source kept registered middleware unknown live intact answered created =>
    exact ⟨source, (derefParticipant_ok.mp live).1⟩
  | topicCreated _ source kept registered middleware topic unknown live intact answered created =>
    exact ⟨source, (derefParticipant_ok.mp live).1⟩

/-- A constructor that got a participant made these three creations. -/
theorem construct_opens {middleware : σ} {domainId : Int} {participantQos : Qos}
    (owner : object.participant = some participant) :
    DDSDomainParticipant.construct api middleware domainId participantQos = (object, opened) ↔
      ∃ subscriber publisher, Opens api middleware domainId participantQos participant subscriber
          publisher opened ∧
        object = ⟨some participant, .ofOption subscriber, .ofOption publisher, ∅⟩ := by
  constructor
  · intro built
    rcases made : api.createParticipant middleware domainId participantQos with
      ⟨_ | source, entered⟩
    · simp only [DDSDomainParticipant.construct, made, Prod.mk.injEq] at built
      rw [← built.1] at owner
      cases owner
    · rcases subscribed : api.createSubscriber entered source api.subscriberQosDefault with
        ⟨subscriber, middle⟩
      rcases published : api.createPublisher middle source api.publisherQosDefault with
        ⟨publisher, last⟩
      simp only [DDSDomainParticipant.construct, made, subscribed, published, Prod.mk.injEq]
        at built
      obtain ⟨rfl, rfl⟩ := built
      obtain rfl := Option.some.inj owner
      exact ⟨subscriber, publisher, ⟨entered, middle, made, subscribed, published⟩, rfl⟩
  · intro opens
    obtain ⟨subscriber, publisher, ⟨entered, middle, made, subscribed, published⟩, rfl⟩ := opens
    simp only [DDSDomainParticipant.construct, made, subscribed, published]

end FastDdsWrapper
