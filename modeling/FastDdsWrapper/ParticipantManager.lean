import FastDdsWrapper.Registration

/-!
# The participant manager

`DDSParticipantManager` makes one participant object on request and knows, for each topic name, how
to create its data type. A creating call registers the topic first and then asks the participant
object for the endpoint. The manager holds the participant object in a `shared_ptr` that is empty
until `initDomainParticipant` is called.
-/

namespace FastDdsWrapper

open Machine (run attempts bind_ok)

variable {σ Qos Message : Type}

/-- `TopicDataTypeCreator`, applied to the identity its object would have. -/
abbrev TopicDataTypeCreator := Nat → Option TopicDataType

/-- `DDSParticipantManager`. -/
structure DDSParticipantManager (Qos : Type) where
  /-- `m_domainId`. -/
  domainId : Int
  /-- `m_participant`, empty before the initialisation. -/
  participant : Option DDSDomainParticipant
  /-- `m_topicTypes`. -/
  topicTypes : Finmap fun _ : String => TopicDataTypeCreator
  /-- The virtual `createParticipantQos`, with the `getQos` that follows it. -/
  createParticipantQos : String → UInt16 → List String → Qos

namespace DDSParticipantManager

/-- `DDSParticipantManager::initDomainParticipant`. -/
def initDomainParticipant (api : Middleware σ Qos Message) (manager : DDSParticipantManager Qos)
    (middleware : σ) (participantName : String) (listenPort : UInt16)
    (peerLocators : List String) : Bool × DDSParticipantManager Qos × σ :=
  match manager.participant with
  | some _ => (true, manager, middleware)
  | none =>
    match DDSDomainParticipant.construct api middleware manager.domainId
      (manager.createParticipantQos participantName listenPort peerLocators) with
    -- `make_shared` never yields null, so the test after it never returns false.
    | (object, middleware) => (true, { manager with participant := some object }, middleware)

/-- `DDSParticipantManager::getTopicDataType`. -/
def getTopicDataType (manager : DDSParticipantManager Qos) (topicName : String)
    (nextDataType : Nat) : Option TopicDataType :=
  match manager.topicTypes.lookup topicName with
  | none => none
  | some creator => creator nextDataType

/-- `DDSParticipantManager::addTopicDataTypeCreator`. -/
def addTopicDataTypeCreator (manager : DDSParticipantManager Qos) (topicName : String)
    (creator : TopicDataTypeCreator) : DDSParticipantManager Qos :=
  if topicName ∈ manager.topicTypes then manager
  else { manager with topicTypes := manager.topicTypes.insert topicName creator }

/-- `DDSParticipantManager::~DDSParticipantManager`: the `shared_ptr` destroys the participant
object, if there is one. -/
def destruct (api : Middleware σ Qos Message) (manager : DDSParticipantManager Qos)
    (middleware : σ) : Except Fault σ :=
  match manager.participant with
  | none => .ok middleware
  | some object => object.destruct api middleware

/-- The participant object exists and all three of its creations succeeded. -/
def Initialised (manager : DDSParticipantManager Qos) : Prop :=
  ∃ object participant publisher subscriber, manager.participant = some object ∧
    object.participant = some participant ∧ object.publisher = .address publisher ∧
    object.subscriber = .address subscriber

end DDSParticipantManager

/-- A manager with the outside it acts on. -/
structure ManagerWorld (σ Qos : Type) where
  /-- The manager. -/
  manager : DDSParticipantManager Qos
  /-- State of the middleware. -/
  middleware : σ
  /-- Data type objects deleted so far. -/
  destroyed : List TopicDataType
  /-- Endpoint objects handed out. -/
  endpoints : List Endpoint
  /-- Identity of the next endpoint object. -/
  nextObject : Nat
  /-- Identity of the next data type object. -/
  nextDataType : Nat

namespace ManagerWorld

/-- The participant object in its place. -/
def host (world : ManagerWorld σ Qos) (object : DDSDomainParticipant) : Host σ :=
  ⟨object, world.middleware, world.destroyed⟩

/-- The world after one data type object was asked for and registered. -/
def resume (world : ManagerWorld σ Qos) (host : Host σ) : ManagerWorld σ Qos :=
  { world with
    manager.participant := some host.self
    middleware := host.middleware
    destroyed := host.destroyed
    nextDataType := world.nextDataType + 1 }

/-- Store the endpoint object a creating method of the participant object returned. -/
def adopt (world : ManagerWorld σ Qos) (result : Option Endpoint × σ) : ManagerWorld σ Qos :=
  match result with
  | (none, middleware) => { world with middleware }
  | (some endpoint, middleware) =>
    { world with
      middleware
      endpoints := world.endpoints ++ [endpoint]
      nextObject := world.nextObject + 1 }

/-- The two creating methods of the manager: registration, then the participant object's own
creating method. -/
def createThrough (api : Middleware σ Qos Message)
    (create : Host σ → Nat → Except Fault (Option Endpoint × σ)) (world : ManagerWorld σ Qos)
    (topicName : String) : Except Fault (Option Endpoint × ManagerWorld σ Qos) :=
  match world.manager.participant with
  | none => .error .nullPointer
  | some object => do
    let (registered, host) ← registerTopic api (world.host object) topicName
      (world.manager.getTopicDataType topicName world.nextDataType) api.topicQosDefault
    if registered then do
      let result ← create host world.nextObject
      .ok (result.1, (world.resume host).adopt result)
    else .ok (none, world.resume host)

/-- `DDSParticipantManager::createDataWriter`. -/
def createDataWriter (api : Middleware σ Qos Message) (world : ManagerWorld σ Qos)
    (topicName : String) : Except Fault (Option Endpoint × ManagerWorld σ Qos) :=
  createThrough api (fun host object =>
    FastDdsWrapper.createDataWriter api host topicName api.dataWriterQosDefault object) world
    topicName

/-- `DDSParticipantManager::createDataReader`. -/
def createDataReader (api : Middleware σ Qos Message) (world : ManagerWorld σ Qos)
    (topicName : String) : Except Fault (Option Endpoint × ManagerWorld σ Qos) :=
  createThrough api (fun host object =>
    FastDdsWrapper.createDataReader api host topicName api.dataReaderQosDefault object) world
    topicName

end ManagerWorld

/-- A call on a manager. -/
inductive ManagerCall
  /-- `initDomainParticipant`. -/
  | initDomainParticipant (participantName : String) (listenPort : UInt16)
      (peerLocators : List String)
  /-- `addTopicDataTypeCreator`. -/
  | addTopicDataTypeCreator (topicName : String) (creator : TopicDataTypeCreator)
  /-- `createDataWriter`. -/
  | createDataWriter (topicName : String)
  /-- `createDataReader`. -/
  | createDataReader (topicName : String)

namespace ManagerWorld

/-- One call. -/
def step (api : Middleware σ Qos Message) :
    Machine.Step (ManagerWorld σ Qos) ManagerCall Answer Fault := fun world call =>
  match call with
  | .initDomainParticipant participantName listenPort peerLocators =>
    match world.manager.initDomainParticipant api world.middleware participantName listenPort
      peerLocators with
    | (value, manager, middleware) => .ok (.flag value, { world with manager, middleware })
  | .addTopicDataTypeCreator topicName creator =>
    .ok (.none, { world with manager := world.manager.addTopicDataTypeCreator topicName creator })
  | .createDataWriter topicName => do
    let (endpoint, world) ← world.createDataWriter api topicName
    .ok (.endpoint endpoint, world)
  | .createDataReader topicName => do
    let (endpoint, world) ← world.createDataReader api topicName
    .ok (.endpoint endpoint, world)

end ManagerWorld

variable {api : Middleware σ Qos Message}

/-! ## What the manager answers -/

/-- The three creations of the constructor succeed one after the other. -/
def CreatesAll (api : Middleware σ Qos Message) (middleware : σ) (domainId : Int)
    (participantQos : Qos) : Prop :=
  ∃ participant entered subscriber middle publisher last,
    api.createParticipant middleware domainId participantQos = (some participant, entered) ∧
    api.createSubscriber entered participant api.subscriberQosDefault =
      (some subscriber, middle) ∧
    api.createPublisher middle participant api.publisherQosDefault = (some publisher, last)

/-- The participant object the constructor makes is complete exactly when all three creations
succeed. -/
theorem construct_complete_iff {middleware : σ} {domainId : Int} {participantQos : Qos} :
    (∃ participant publisher subscriber,
      (DDSDomainParticipant.construct api middleware domainId participantQos).1.participant =
        some participant ∧
      (DDSDomainParticipant.construct api middleware domainId participantQos).1.publisher =
        .address publisher ∧
      (DDSDomainParticipant.construct api middleware domainId participantQos).1.subscriber =
        .address subscriber) ↔ CreatesAll api middleware domainId participantQos := by
  rcases made : api.createParticipant middleware domainId participantQos with
    ⟨_ | participant, entered⟩
  · simp [DDSDomainParticipant.construct, CreatesAll, made]
  · rcases subscribed : api.createSubscriber entered participant api.subscriberQosDefault with
      ⟨subscriber, middle⟩
    rcases published : api.createPublisher middle participant api.publisherQosDefault with
      ⟨publisher, last⟩
    cases subscriber <;> cases publisher <;>
      simp [DDSDomainParticipant.construct, CreatesAll, made, subscribed, published]

/-- Registration adds no topic: there is no data type object, or a usable one meets a free name and
either the type or the topic is refused. -/
def Unregistrable (api : Middleware σ Qos Message) (host : Host σ) (topicName : String)
    (dataType : Option TopicDataType) : Prop :=
  ∀ object, dataType = some object → object ∉ host.destroyed ∧
    topicName ∉ host.self.mapTopics ∧
    ∃ participant, host.self.participant = some participant ∧ ∀ kept registered,
      api.registerType host.middleware participant object = ((.ok, kept), registered) →
        (api.createTopic registered participant topicName object.name api.topicQosDefault).1 = none

/-- The middleware participant of the manager's object, if there is one, is alive. -/
def Alive (api : Middleware σ Qos Message) (world : ManagerWorld σ Qos) : Prop :=
  ∀ object participant, world.manager.participant = some object →
    object.participant = some participant →
      participant ∈ (api.holdings world.middleware).participants

/-- A creating method for a name in the map does not return null. -/
theorem createEndpoint_known {create : σ → Group → Topic → Qos → Nat → Option DataEndpoint × σ}
    {kind : EndpointKind} {pointer : Pointer Group} {host : Host σ} {topicName : String} {qos : Qos}
    {object : Nat} {next : σ} (known : topicName ∈ host.self.mapTopics) :
    createEndpoint api create kind pointer host topicName qos object ≠ .ok (none, next) := by
  intro returned
  cases createEndpoint_ok.mp returned with
  | absent unknown => exact absurd known (Finmap.lookup_eq_none.mp unknown)

/-- A creating method for a name outside the map returns null. -/
theorem createEndpoint_unknown
    {create : σ → Group → Topic → Qos → Nat → Option DataEndpoint × σ} {kind : EndpointKind}
    {pointer : Pointer Group} {host : Host σ} {topicName : String} {qos : Qos} {object : Nat}
    (unknown : topicName ∉ host.self.mapTopics) :
    createEndpoint api create kind pointer host topicName qos object =
      .ok (none, host.middleware) :=
  createEndpoint_ok.mpr (.absent (Finmap.lookup_eq_none.mpr unknown))

/-- What the manager needs to know of a creating method of the participant object: it returns null
exactly for the names outside the map. -/
structure LooksUp (topicName : String)
    (create : Host σ → Nat → Except Fault (Option Endpoint × σ)) : Prop where
  /-- A known name gives an endpoint object. -/
  known : ∀ host object next, topicName ∈ host.self.mapTopics →
    create host object ≠ .ok (none, next)
  /-- An unknown name gives null. -/
  unknown : ∀ host object, topicName ∉ host.self.mapTopics →
    create host object = .ok (none, host.middleware)

/-- `createDataWriter` looks the name up. -/
theorem createDataWriter_looksUp (topicName : String) (qos : Qos) :
    LooksUp topicName fun host object => createDataWriter api host topicName qos object :=
  ⟨fun _ _ _ known => createEndpoint_known known, fun _ _ unknown => createEndpoint_unknown unknown⟩

/-- `createDataReader` looks the name up. -/
theorem createDataReader_looksUp (topicName : String) (qos : Qos) :
    LooksUp topicName fun host object => createDataReader api host topicName qos object :=
  ⟨fun _ _ _ known => createEndpoint_known known, fun _ _ unknown => createEndpoint_unknown unknown⟩

/-- After a registration that returned, the name is outside the map exactly when nothing could be
registered. -/
theorem RegisterOutcome.unknown_iff {host next : Host σ} {topicName : String}
    {dataType : Option TopicDataType} {value : Bool}
    (outcome : RegisterOutcome api host topicName api.topicQosDefault dataType value next) :
    (value = true → topicName ∉ next.self.mapTopics) ↔
      Unregistrable api host topicName dataType := by
  cases outcome with
  | noDataType =>
    refine iff_of_true (fun answered => ?_) (fun object given => ?_)
    · cases answered
    · cases given
  | alreadyRegistered object known intact =>
    rw [Host.leaveScope_self]
    refine iff_of_false (fun absent => absent rfl known) (fun refused => ?_)
    exact (refused object rfl).2.1 known
  | typeRefused object participant errcode kept middleware unknown live intact answered =>
    refine iff_of_true (fun answered => ?_) (fun other given => ?_)
    · cases answered
    · obtain rfl := Option.some.inj given
      refine ⟨intact, unknown, participant, (derefParticipant_ok.mp live).1, ?_⟩
      intro other registered accepted
      rw [answered] at accepted
      cases accepted
  | topicRefused object participant kept registered middleware unknown live intact answered
      created =>
    rw [Host.leaveScope_self]
    refine iff_of_true (fun _ => unknown) (fun other given => ?_)
    obtain rfl := Option.some.inj given
    refine ⟨intact, unknown, participant, (derefParticipant_ok.mp live).1, ?_⟩
    intro other later accepted
    rw [answered, Prod.mk.injEq] at accepted
    obtain ⟨_, rfl⟩ := accepted
    rw [created]
  | topicCreated object participant kept registered middleware topic unknown live intact answered
      created =>
    rw [Host.leaveScope_self, Host.insertTopic_self]
    refine iff_of_false (fun absent => ?_) (fun refused => ?_)
    · exact absent rfl (Finmap.mem_insert.mpr (.inl rfl))
    · obtain ⟨_, _, source, set, never⟩ := refused object rfl
      obtain rfl := Option.some.inj ((derefParticipant_ok.mp live).1.symm.trans set)
      have missing := never kept registered answered
      rw [created] at missing
      cases missing

/-- A request that cannot be registered returns, if the participant is alive when it is set. -/
theorem Unregistrable.returns {host : Host σ} {topicName : String}
    {dataType : Option TopicDataType} (refused : Unregistrable api host topicName dataType)
    (alive : ∀ participant, host.self.participant = some participant →
      participant ∈ (api.holdings host.middleware).participants) :
    ∃ value next, registerTopic api host topicName dataType api.topicQosDefault =
      .ok (value, next) := by
  cases dataType with
  | none => exact ⟨false, host, rfl⟩
  | some object =>
    obtain ⟨intact, _, participant, set, _⟩ := refused object rfl
    have live := derefParticipant_ok.mpr ⟨set, alive participant set⟩
    exact registerTopic_returns topicName (some object) api.topicQosDefault live
      (fun other given => Option.some.inj given ▸ intact)

/-- A creating method of the manager returns null without a fault exactly when there is a
participant object and nothing can be registered for the name. -/
theorem createThrough_null_iff {create : Host σ → Nat → Except Fault (Option Endpoint × σ)}
    {topicName : String} (looksUp : LooksUp topicName create) {world : ManagerWorld σ Qos}
    (alive : Alive api world) :
    (∃ next, ManagerWorld.createThrough api create world topicName = .ok (none, next)) ↔
      ∃ object, world.manager.participant = some object ∧
        Unregistrable api (world.host object) topicName
          (world.manager.getTopicDataType topicName world.nextDataType) := by
  cases present : world.manager.participant with
  | none => simp [ManagerWorld.createThrough, present]
  | some object =>
    simp only [ManagerWorld.createThrough, present, bind_ok, Option.some.injEq, exists_eq_left']
    constructor
    · intro returned
      obtain ⟨last, ⟨value, host⟩, registered, made⟩ := returned
      rw [← (registerTopic_ok.mp registered).unknown_iff]
      intro answered known
      subst answered
      simp only [↓reduceIte, bind_ok, Except.ok.injEq, Prod.mk.injEq] at made
      obtain ⟨⟨endpoint, middleware⟩, created, missing, _⟩ := made
      subst missing
      exact looksUp.known host _ middleware known created
    · intro refused
      obtain ⟨value, host, registered⟩ :=
        refused.returns (fun participant set => alive object participant present set)
      have unknown := (registerTopic_ok.mp registered).unknown_iff.mpr refused
      cases value with
      | false => exact ⟨_, _, registered, rfl⟩
      | true =>
        have absent := looksUp.unknown host world.nextObject (unknown rfl)
        refine ⟨(world.resume host).adopt (none, host.middleware), (true, host), registered, ?_⟩
        simp only [↓reduceIte, bind_ok]
        exact ⟨_, absent, rfl⟩

/-- A registration keeps the object's middleware participant, all participants and all topics. -/
theorem RegisterOutcome.frame (contract : Contract api) {host next : Host σ} {topicName : String}
    {topicQos : Qos} {dataType : Option TopicDataType} {value : Bool}
    (outcome : RegisterOutcome api host topicName topicQos dataType value next) :
    next.self.participant = host.self.participant ∧
      (api.holdings next.middleware).participants =
        (api.holdings host.middleware).participants ∧
      (api.holdings host.middleware).topics ⊆ (api.holdings next.middleware).topics := by
  cases outcome with
  | noDataType => exact ⟨rfl, rfl, Finset.Subset.refl _⟩
  | alreadyRegistered object known intact =>
    rw [Host.leaveScope_self, Host.leaveScope_middleware]
    exact ⟨rfl, rfl, Finset.Subset.refl _⟩
  | typeRefused object source errcode kept middleware unknown live intact answered =>
    obtain ⟨types, held⟩ := registerType_held contract answered
    rw [Host.leaveScope_self, Host.leaveScope_middleware, held]
    exact ⟨rfl, rfl, Finset.Subset.refl _⟩
  | topicRefused object source kept registered middleware unknown live intact answered created =>
    obtain ⟨types, held⟩ := registerType_held contract answered
    have promised := contract.createTopic registered source topicName object.name topicQos
    simp only [created] at promised
    rw [Host.leaveScope_self, Host.leaveScope_middleware, promised, held]
    exact ⟨rfl, rfl, Finset.Subset.refl _⟩
  | topicCreated object source kept registered middleware topic unknown live intact answered
      created =>
    obtain ⟨types, held⟩ := registerType_held contract answered
    have promised := contract.createTopic registered source topicName object.name topicQos
    simp only [created] at promised
    obtain ⟨_, _, _, _, added⟩ := promised
    rw [Host.leaveScope_self, Host.leaveScope_middleware, Host.insertTopic_self,
      Host.insertTopic_middleware, added, held]
    exact ⟨rfl, rfl, Finset.subset_insert topic _⟩

/-- A creating method of the manager keeps the participant alive. -/
theorem createThrough_alive (contract : Contract api)
    {create : Host σ → Nat → Except Fault (Option Endpoint × σ)}
    (keeps : ∀ host object endpoint middleware, create host object = .ok (endpoint, middleware) →
      (api.holdings middleware).participants = (api.holdings host.middleware).participants)
    {world next : ManagerWorld σ Qos} {topicName : String} {endpoint : Option Endpoint}
    (alive : Alive api world)
    (returned : ManagerWorld.createThrough api create world topicName = .ok (endpoint, next)) :
    Alive api next := by
  cases present : world.manager.participant with
  | none => simp [ManagerWorld.createThrough, present] at returned
  | some object =>
    simp only [ManagerWorld.createThrough, present, bind_ok] at returned
    obtain ⟨⟨value, host⟩, registered, made⟩ := returned
    obtain ⟨same, participants, _⟩ := (registerTopic_ok.mp registered).frame contract
    have resumed : Alive api (world.resume host) := by
      intro other participant found set
      obtain rfl := Option.some.inj found
      have member := alive object participant present (same.symm.trans set)
      show participant ∈ (api.holdings host.middleware).participants
      rw [participants]
      exact member
    cases value with
    | false =>
      simp only [Bool.false_eq_true, ↓reduceIte, Except.ok.injEq, Prod.mk.injEq] at made
      obtain ⟨_, rfl⟩ := made
      exact resumed
    | true =>
      simp only [↓reduceIte, bind_ok, Except.ok.injEq, Prod.mk.injEq] at made
      obtain ⟨⟨result, middleware⟩, created, _, rfl⟩ := made
      intro other participant found set
      have kept := keeps host _ result middleware created
      cases result with
      | none =>
        show participant ∈ (api.holdings middleware).participants
        rw [kept]
        exact resumed other participant found set
      | some endpoint =>
        show participant ∈ (api.holdings middleware).participants
        rw [kept]
        exact resumed other participant found set

/-- An initialisation leaves the participant alive. -/
theorem initDomainParticipant_alive (contract : Contract api) {world : ManagerWorld σ Qos}
    {participantName : String} {listenPort : UInt16} {peerLocators : List String} {value : Bool}
    {manager : DDSParticipantManager Qos} {middleware : σ} (alive : Alive api world)
    (returned : world.manager.initDomainParticipant api world.middleware participantName listenPort
      peerLocators = (value, manager, middleware)) :
    Alive api { world with manager, middleware } := by
  cases present : world.manager.participant with
  | some object =>
    simp only [DDSParticipantManager.initDomainParticipant, present, Prod.mk.injEq] at returned
    obtain ⟨_, rfl, rfl⟩ := returned
    exact alive
  | none =>
    rcases built : DDSDomainParticipant.construct api world.middleware world.manager.domainId
      (world.manager.createParticipantQos participantName listenPort peerLocators) with
      ⟨object, entered⟩
    simp only [DDSParticipantManager.initDomainParticipant, present, built, Prod.mk.injEq]
      at returned
    obtain ⟨_, rfl, rfl⟩ := returned
    intro other participant found set
    obtain rfl := Option.some.inj found
    rcases construct_cases contract built with ⟨missing, _, _⟩ | ⟨source, made⟩
    · cases missing.symm.trans set
    · obtain rfl := Option.some.inj (made.owner.symm.trans set)
      show source ∈ (api.holdings entered).participants
      rw [made.participants]
      exact Finset.mem_insert_self source _

/-- Adding a creator leaves the participant object. -/
theorem addTopicDataTypeCreator_participant (manager : DDSParticipantManager Qos)
    (topicName : String) (creator : TopicDataTypeCreator) :
    (manager.addTopicDataTypeCreator topicName creator).participant = manager.participant := by
  unfold DDSParticipantManager.addTopicDataTypeCreator
  split
  · rfl
  · rfl

/-- Every call keeps the participant alive. -/
theorem manager_alive (contract : Contract api) :
    Machine.Preserves (ManagerWorld.step api) (Alive api) := by
  intro before call answer after alive stepped
  cases call with
  | initDomainParticipant participantName listenPort peerLocators =>
    rcases returned : before.manager.initDomainParticipant api before.middleware participantName
      listenPort peerLocators with ⟨value, manager, middleware⟩
    simp only [ManagerWorld.step, returned, Except.ok.injEq, Prod.mk.injEq] at stepped
    obtain ⟨_, rfl⟩ := stepped
    exact initDomainParticipant_alive contract alive returned
  | addTopicDataTypeCreator topicName creator =>
    simp only [ManagerWorld.step, Except.ok.injEq, Prod.mk.injEq] at stepped
    obtain ⟨_, rfl⟩ := stepped
    intro object participant found set
    rw [addTopicDataTypeCreator_participant] at found
    exact alive object participant found set
  | createDataWriter topicName =>
    simp only [ManagerWorld.step, bind_ok, Except.ok.injEq, Prod.mk.injEq] at stepped
    obtain ⟨⟨endpoint, next⟩, returned, _, rfl⟩ := stepped
    refine createThrough_alive contract (fun host object endpoint middleware made => ?_) alive
      returned
    obtain ⟨endpoints, held⟩ := createEndpoint_held contract.createDatawriter made
    rw [held]
  | createDataReader topicName =>
    simp only [ManagerWorld.step, bind_ok, Except.ok.injEq, Prod.mk.injEq] at stepped
    obtain ⟨⟨endpoint, next⟩, returned, _, rfl⟩ := stepped
    refine createThrough_alive contract (fun host object endpoint middleware made => ?_) alive
      returned
    obtain ⟨endpoints, held⟩ := createEndpoint_held contract.createDatareader made
    rw [held]

/-- An initialisation answers true exactly when the manager is initialised afterwards and changes
nothing when it answers false; before that, the creating methods return null. -/
def Accountable (attempt : Machine.Attempt (ManagerWorld σ Qos) ManagerCall Answer Fault) : Prop :=
  match attempt.event with
  | .initDomainParticipant _ _ _ => ∃ value after, attempt.outcome = .ok (.flag value, after) ∧
      (value = true ↔ after.manager.Initialised) ∧
      (value = false → after.manager = attempt.before.manager)
  | .addTopicDataTypeCreator _ _ => True
  | .createDataWriter _ | .createDataReader _ => ¬ attempt.before.manager.Initialised →
      ∃ after, attempt.outcome = .ok (.endpoint none, after)

/-- An initialisation finds the manager initialised, or without a participant object and a
middleware that creates all three entities. A creating method finds the manager initialised, or with
a participant object and nothing to register for the name. -/
def WellTimed (api : Middleware σ Qos Message) (before : ManagerWorld σ Qos) : ManagerCall → Prop
  | .initDomainParticipant participantName listenPort peerLocators =>
    before.manager.Initialised ∨ before.manager.participant = none ∧
      CreatesAll api before.middleware before.manager.domainId
        (before.manager.createParticipantQos participantName listenPort peerLocators)
  | .addTopicDataTypeCreator _ _ => True
  | .createDataWriter topicName | .createDataReader topicName =>
    before.manager.Initialised ∨ ∃ object, before.manager.participant = some object ∧
      Unregistrable api (before.host object) topicName
        (before.manager.getTopicDataType topicName before.nextDataType)

/-- A creating method is accountable exactly when it is well timed. -/
theorem create_accountable_iff {before : ManagerWorld σ Qos} {topicName : String}
    {create : Host σ → Nat → Except Fault (Option Endpoint × σ)}
    (looksUp : LooksUp topicName create) (alive : Alive api before) :
    (¬ before.manager.Initialised → ∃ after,
      (ManagerWorld.createThrough api create before topicName >>= fun result =>
        (.ok (Answer.endpoint result.1, result.2) : Except Fault (Answer × ManagerWorld σ Qos))) =
          .ok (.endpoint none, after)) ↔
      (before.manager.Initialised ∨ ∃ object, before.manager.participant = some object ∧
        Unregistrable api (before.host object) topicName
          (before.manager.getTopicDataType topicName before.nextDataType)) := by
  rw [← createThrough_null_iff looksUp alive, ← or_iff_not_imp_left]
  refine or_congr Iff.rfl ?_
  constructor
  · intro answered
    obtain ⟨after, answered⟩ := answered
    obtain ⟨⟨endpoint, next⟩, returned, same⟩ := bind_ok.mp answered
    simp only [Except.ok.injEq, Prod.mk.injEq, Answer.endpoint.injEq] at same
    obtain ⟨rfl, _⟩ := same
    exact ⟨next, returned⟩
  · intro returned
    obtain ⟨next, returned⟩ := returned
    exact ⟨next, bind_ok.mpr ⟨_, returned, rfl⟩⟩

/-- An initialisation is accountable exactly when it is well timed. -/
theorem init_accountable_iff {before : ManagerWorld σ Qos} (participantName : String)
    (listenPort : UInt16) (peerLocators : List String) :
    Accountable ⟨before, .initDomainParticipant participantName listenPort peerLocators,
        ManagerWorld.step api before
          (.initDomainParticipant participantName listenPort peerLocators)⟩ ↔
      WellTimed api before (.initDomainParticipant participantName listenPort peerLocators) := by
  rcases returned : before.manager.initDomainParticipant api before.middleware participantName
    listenPort peerLocators with ⟨value, manager, middleware⟩
  have own : Accountable ⟨before, .initDomainParticipant participantName listenPort peerLocators,
      ManagerWorld.step api before
        (.initDomainParticipant participantName listenPort peerLocators)⟩ ↔
      (value = true ↔ manager.Initialised) ∧ (value = false → manager = before.manager) := by
    simp only [Accountable, ManagerWorld.step, returned, Except.ok.injEq, Prod.mk.injEq,
      Answer.flag.injEq]
    constructor
    · intro accountable
      obtain ⟨_, _, ⟨rfl, rfl⟩, rest⟩ := accountable
      exact rest
    · intro rest
      exact ⟨value, { before with manager, middleware }, ⟨rfl, rfl⟩, rest⟩
  rw [own, WellTimed]
  cases present : before.manager.participant with
  | some object =>
    simp only [DDSParticipantManager.initDomainParticipant, present, Prod.mk.injEq] at returned
    obtain ⟨rfl, rfl, _⟩ := returned
    simp
  | none =>
    simp only [DDSParticipantManager.initDomainParticipant, present, Prod.mk.injEq] at returned
    obtain ⟨rfl, rfl, _⟩ := returned
    rw [← construct_complete_iff]
    simp [DDSParticipantManager.Initialised, present]

/-- In every run of calls on a new manager, whatever the middleware creates or refuses, each call is
accountable exactly when each is well timed. -/
theorem lifecycle_iff (contract : Contract api) (world : ManagerWorld σ Qos)
    (new : world.manager.participant = none) (calls : List ManagerCall) :
    (∀ attempt ∈ attempts (ManagerWorld.step api) world calls, Accountable attempt) ↔
      ∀ attempt ∈ attempts (ManagerWorld.step api) world calls,
        WellTimed api attempt.before attempt.event := by
  have start : Alive api world := by
    intro object participant found
    cases new.symm.trans found
  refine Machine.attempts_iff (manager_alive contract) (fun before call alive => ?_) calls start
  cases call with
  | initDomainParticipant participantName listenPort peerLocators =>
    exact init_accountable_iff participantName listenPort peerLocators
  | addTopicDataTypeCreator topicName creator => exact Iff.rfl
  | createDataWriter topicName =>
    exact create_accountable_iff (createDataWriter_looksUp topicName _) alive
  | createDataReader topicName =>
    exact create_accountable_iff (createDataReader_looksUp topicName _) alive

/-- A new manager with a creator for one topic name. -/
def newManager (refusals : List Bool) : ManagerWorld Reference Unit :=
  ⟨⟨0, none, Finmap.singleton "a" fun fresh => some ⟨fresh, "T"⟩, fun _ _ _ => ()⟩,
    Reference.fresh refusals, [], [], 0, 0⟩

/-- An initialisation and a creating call after it. -/
def smoothCalls : List ManagerCall := [.initDomainParticipant "p" 0 [], .createDataReader "a"]

/-- Where all three creations succeed, these calls run to the end and are accountable. -/
theorem lifecycle_iff_smooth :
    (run (ManagerWorld.step (reference false)) (newManager []) smoothCalls).isOk = true ∧
      ∀ attempt ∈ attempts (ManagerWorld.step (reference false)) (newManager []) smoothCalls,
        Accountable attempt := by
  refine ⟨by decide, (lifecycle_iff (reference_contract false) (newManager []) rfl
    smoothCalls).mpr ?_⟩
  intro attempt member
  rcases member with _ | ⟨_, _ | ⟨_, member⟩⟩
  · exact .inr ⟨rfl, _, _, _, _, _, _, rfl, rfl, rfl⟩
  · exact .inl ⟨_, _, _, _, rfl, rfl, rfl, rfl⟩
  · cases member

/-- The participant is refused: the initialisation answers true all the same. -/
theorem initDomainParticipant_refused :
    ¬ ∀ attempt ∈ attempts (ManagerWorld.step (reference true)) (newManager [true])
      [.initDomainParticipant "p" 0 []], Accountable attempt := by
  intro accountable
  obtain ⟨value, after, returned, exactly, _⟩ := accountable _ (.head _)
  have answered : ManagerWorld.step (reference true) (newManager [true])
      (.initDomainParticipant "p" 0 []) = .ok (.flag true,
        { newManager [true] with
          manager.participant := some ⟨none, .unassigned, .unassigned, ∅⟩
          middleware := Reference.fresh [] }) := rfl
  obtain ⟨same, rfl⟩ := Prod.mk.inj (Except.ok.inj (answered.symm.trans returned))
  obtain ⟨object, participant, _, _, found, set, _⟩ := exactly.mp (Answer.flag.inj same).symm
  obtain rfl := Option.some.inj found
  cases set

/-- A creating method before any initialisation uses the null participant object. -/
example : ManagerWorld.step (reference false) (newManager []) (.createDataReader "a") =
    .error .nullPointer := rfl

end FastDdsWrapper
