import FastDdsWrapper.ConcurrentCreation
import FastDdsWrapper.EndpointObjects

/-!
# The creator table and the topic map over a run

The manager keeps the creators of data types in `m_topicTypes`, its participant object keeps the
topics in `m_mapTopics`, and different calls write the two. A creating call of the manager is one or
two calls on the process around the participant object (`MethodOutcome`), so what holds of that
process holds of the manager's as well (`Running`). The tables agree because a creator is never
replaced, a topic gets the type name of the object its own creator made, and neither a creator nor
a topic is ever taken out.
-/

namespace FastDdsWrapper

open Machine (run bind_ok)

variable {σ Qos Message : Type} {api : Middleware σ Qos Message}
variable {participant : DomainParticipant} {object : DDSDomainParticipant}

/-! ## An initialised manager at work -/

/-- The creator returns null or a new object. -/
def TopicDataTypeCreator.Fresh (creator : TopicDataTypeCreator) : Prop :=
  ∀ fresh dataType, creator fresh = some dataType → dataType.id = fresh

/-- What holds between the calls of an initialised manager. -/
structure Running (api : Middleware σ Qos Message) (participant : DomainParticipant)
    (object : DDSDomainParticipant) (world : ManagerWorld σ Qos) : Prop where
  /-- There is a participant object. -/
  present : world.manager.participant = some object
  /-- Its stores are in step. -/
  consistent : Consistent api participant (world.process object)
  /-- Its participant is alive with its groups. -/
  rooted : Rooted api participant (world.process object)
  /-- There are a publisher and a subscriber. -/
  groups : ∃ publisher subscriber, object.publisher = .address publisher ∧
    object.subscriber = .address subscriber
  /-- Every creator makes new objects. -/
  creators : ∀ topicName creator, world.manager.topicTypes.lookup topicName = some creator →
    creator.Fresh
  /-- Objects still to be made are unused. -/
  unused : ∀ dataType : TopicDataType, world.nextDataType ≤ dataType.id →
    Unused api participant (world.host object) dataType

/-- The call adds no creator but one of a kind. -/
def Adds (allowed : TopicDataTypeCreator → Prop) (call : ManagerCall) : Prop :=
  ∀ topicName creator, call = .addTopicDataTypeCreator topicName creator → allowed creator

/-- An object the manager asks for is new. -/
theorem Running.asked {world : ManagerWorld σ Qos}
    (running : Running api participant object world) {topicName : String}
    {dataType : TopicDataType}
    (given : world.manager.getTopicDataType topicName world.nextDataType = some dataType) :
    dataType.id = world.nextDataType := by
  unfold DDSParticipantManager.getTopicDataType at given
  cases found : world.manager.topicTypes.lookup topicName with
  | none =>
    rw [found] at given
    cases given
  | some creator =>
    rw [found] at given
    exact running.creators topicName creator found world.nextDataType dataType given

/-- A call on the process leaves a running manager, if the objects still to be made are unused. -/
theorem Running.call (contract : Contract api) {before : ManagerWorld σ Qos}
    (running : Running api participant object before) {call : Call Qos Message} {answer : Answer}
    {process : World σ}
    (stepped : World.step api (before.process object) call = .ok (answer, process))
    (unused : ∀ dataType : TopicDataType, before.nextDataType < dataType.id →
      Unused api participant process.toHost dataType) :
    Running api participant process.self (before.settle process) := by
  have settled := step_settled contract _ _ _ _ ⟨running.consistent, running.rooted⟩ stepped
  have pointers := (step_effect contract running.rooted.owner stepped).pointers
  refine ⟨rfl, settled.1, settled.2, ?_, running.creators, unused⟩
  rw [pointers.1, pointers.2]
  exact running.groups

/-- The registration of a creating call leaves a running manager. -/
theorem Running.registration (contract : Contract api) {before : ManagerWorld σ Qos}
    (running : Running api participant object before) {topicName : String} {answer : Answer}
    {registered : World σ}
    (stepped : World.step api (before.process object) (before.registration api topicName) =
      .ok (answer, registered)) :
    Running api participant registered.self (before.settle registered) := by
  refine running.call contract stepped (fun dataType later => ?_)
  obtain ⟨value, host, outcome, _, rfl⟩ := registerTopic_step.mp stepped
  refine Unused.kept contract (running.unused dataType (Nat.le_of_lt later)) outcome ?_
  intro given
  have own := running.asked given
  omega

/-- The creation after it leaves a running manager. -/
theorem Running.creation (contract : Contract api) {before : ManagerWorld σ Qos}
    {registered created : World σ}
    (running : Running api participant registered.self (before.settle registered))
    {asked : Request} {answer : Answer}
    (made : World.step api registered (asked.creation api) = .ok (answer, created)) :
    Running api participant created.self (before.settle created) := by
  have settled := step_settled contract _ _ _ _ ⟨running.consistent, running.rooted⟩ made
  obtain ⟨self, destroyed, endpoints, held⟩ := creation_frame contract made
  refine ⟨rfl, settled.1, settled.2, ?_, running.creators, fun dataType later => ?_⟩
  · rw [self]
    exact running.groups
  · obtain ⟨intact, unrecorded⟩ := running.unused dataType later
    constructor
    · show dataType ∉ created.destroyed
      rw [destroyed]
      exact intact
    · show ∀ typeName, (api.holdings created.middleware).types participant typeName ≠ some dataType
      rw [held]
      exact unrecorded

/-- A creating call leaves a running manager. -/
theorem Running.method (contract : Contract api) {before after : ManagerWorld σ Qos}
    (running : Running api participant object before) {asked : Request}
    {endpoint : Option Endpoint}
    (outcome : MethodOutcome api object before asked endpoint after) :
    ∃ next, Running api participant next after := by
  cases outcome with
  | unregistered registered stepped => exact ⟨_, running.registration contract stepped⟩
  | created registered created _ stepped made =>
    exact ⟨_, (running.registration contract stepped).creation contract made⟩

/-- A creation on the process of a running manager returns. -/
theorem Running.creation_returns {world : ManagerWorld σ Qos}
    (running : Running api participant object world) (asked : Request) :
    ∃ endpoint created, World.step api (world.process object) (asked.creation api) =
      .ok (.endpoint endpoint, created) := by
  obtain ⟨publisher, subscriber, published, subscribed⟩ := running.groups
  have returns : ∃ result, asked.create api (world.host object) world.nextObject = .ok result := by
    obtain ⟨kind, topicName⟩ := asked
    cases kind with
    | writer =>
      exact createEndpoint_total api.createDatawriter .writer running.consistent running.rooted
        published (.inl published) topicName api.dataWriterQosDefault world.nextObject
    | reader =>
      exact createEndpoint_total api.createDatareader .reader running.consistent running.rooted
        subscribed (.inr subscribed) topicName api.dataReaderQosDefault world.nextObject
  obtain ⟨result, made⟩ := returns
  exact ⟨result.1, _, creation_ok.mpr ⟨result, made, rfl, rfl⟩⟩

/-- A creating call of a running manager returns. -/
theorem Running.returns (contract : Contract api) {world : ManagerWorld σ Qos}
    (running : Running api participant object world) (asked : Request) :
    ∃ endpoint after, asked.method api world = .ok (endpoint, after) := by
  have intact : ∀ dataType,
      world.manager.getTopicDataType asked.topicName world.nextDataType = some dataType →
        dataType ∉ world.destroyed := by
    intro dataType given
    exact (running.unused dataType (Nat.le_of_eq (running.asked given).symm)).1
  obtain ⟨value, host, returned⟩ := registerTopic_returns asked.topicName
    (world.manager.getTopicDataType asked.topicName world.nextDataType) api.topicQosDefault
    running.rooted.live intact
  have stepped : World.step api (world.process object) (world.registration api asked.topicName) =
      .ok (.flag value, { world.process object with toHost := host }) :=
    registerTopic_step.mpr ⟨value, host, registerTopic_ok.mp returned, rfl, rfl⟩
  cases value with
  | false => exact ⟨_, _, (method_ok running.present).mpr (.unregistered _ stepped)⟩
  | true =>
    obtain ⟨endpoint, created, made⟩ :=
      (running.registration contract stepped).creation_returns asked
    exact ⟨_, _, (method_ok running.present).mpr (.created _ created endpoint stepped made)⟩

/-- A call of a running manager that adds only creators of new objects returns and leaves a running
manager. -/
theorem Running.step (contract : Contract api) {before : ManagerWorld σ Qos}
    (running : Running api participant object before) {call : ManagerCall}
    (adds : Adds TopicDataTypeCreator.Fresh call) :
    ∃ answer after, ManagerWorld.step api before call = .ok (answer, after) ∧
      ∃ next, Running api participant next after := by
  have requested : ∀ asked : Request, ∃ answer after,
      ManagerWorld.step api before asked.call = .ok (answer, after) ∧
        ∃ next, Running api participant next after := by
    intro asked
    obtain ⟨endpoint, after, returned⟩ := running.returns contract asked
    exact ⟨_, after, request_step.mpr ⟨endpoint, returned, rfl⟩,
      running.method contract ((method_ok running.present).mp returned)⟩
  cases call with
  | initDomainParticipant participantName listenPort peerLocators =>
    refine ⟨.flag true, before, ?_, object, running⟩
    simp only [ManagerWorld.step, DDSParticipantManager.initDomainParticipant, running.present]
  | addTopicDataTypeCreator topicName creator =>
    refine ⟨.none, _, rfl, object, ?_, running.consistent, running.rooted, running.groups, ?_,
      running.unused⟩
    · exact (addTopicDataTypeCreator_participant _ _ _).trans running.present
    · intro other found here
      rcases addTopicDataTypeCreator_lookup here with old | rfl
      · exact running.creators other found old
      · exact adds topicName found rfl
  | createDataWriter topicName => exact requested ⟨.writer, topicName⟩
  | createDataReader topicName => exact requested ⟨.reader, topicName⟩

/-- A successful initialisation leaves a running manager with its creators and no topic. -/
theorem initDomainParticipant_running (contract : Contract api)
    {manager : DDSParticipantManager Qos} {middleware : σ} (nextDataType : Nat)
    {participantName : String} {listenPort : UInt16} {peerLocators : List String}
    (new : manager.participant = none)
    (created : CreatesAll api middleware manager.domainId
      (manager.createParticipantQos participantName listenPort peerLocators))
    (creators : ∀ topicName creator, manager.topicTypes.lookup topicName = some creator →
      creator.Fresh) :
    ∃ participant object world,
      ManagerWorld.step api (.start manager middleware nextDataType)
        (.initDomainParticipant participantName listenPort peerLocators) =
          .ok (.flag true, world) ∧
      Running api participant object world ∧ world.manager.topicTypes = manager.topicTypes ∧
      object.mapTopics = ∅ ∧ world.destroyed = [] ∧
      (api.holdings world.middleware).types participant = fun _ => none := by
  obtain ⟨participant, publisher, subscriber, owner, published, subscribed⟩ :=
    construct_complete_iff.mpr created
  rcases built : DDSDomainParticipant.construct api middleware manager.domainId
    (manager.createParticipantQos participantName listenPort peerLocators) with ⟨object, entered⟩
  rw [built] at owner published subscribed
  have process : World.construct api middleware manager.domainId
      (manager.createParticipantQos participantName listenPort peerLocators) =
        ⟨⟨object, entered, []⟩, [], 0⟩ := by
    simp only [World.construct, built]
  have owned : (World.construct api middleware manager.domainId
      (manager.createParticipantQos participantName listenPort peerLocators)).self.participant =
        some participant := by
    rw [process]
    exact owner
  have consistent := construct_consistent contract owned
  have rooted := construct_rooted contract owned
  obtain ⟨self, next, same, made⟩ := World.construct_constructed contract owned
  rw [process] at consistent rooted same
  cases same
  refine ⟨participant, object, ⟨{ manager with participant := some object }, entered, [], [], 0,
    nextDataType⟩, ?_, ⟨rfl, consistent, rooted, ⟨publisher, subscriber, published, subscribed⟩,
      creators, ?_⟩, rfl, made.empty, rfl, made.types⟩
  · simp only [ManagerWorld.step, ManagerWorld.start, DDSParticipantManager.initDomainParticipant,
      new, built]
  · intro dataType _
    refine ⟨List.not_mem_nil, fun typeName recorded => ?_⟩
    cases (congrFun made.types typeName).symm.trans recorded

/-! ## The two tables -/

/-- What a creating call does to the topic map. -/
inductive EntryChange (api : Middleware σ Qos Message) (participant : DomainParticipant)
    (before after : ManagerWorld σ Qos) (topicName : String) : Prop
  /-- Nothing. -/
  | unchanged (same : ∀ other, after.entry other = before.entry other)
  /-- The name was free and got a topic of the type name of the object the manager asked for, which
  is the one recorded under that type name. -/
  | topicAdded (dataType : TopicDataType) (topic : Topic)
      (given : before.manager.getTopicDataType topicName before.nextDataType = some dataType)
      (free : before.entry topicName = none) (typed : topic.typeName = dataType.name)
      (recorded : (api.holdings after.middleware).types participant topic.typeName = some dataType)
      (added : ∀ other, after.entry other =
        if other = topicName then some (some topic) else before.entry other)

/-- The registration of a creating call adds a topic of its object's type or leaves the map. -/
theorem Running.registration_change (contract : Contract api) {before : ManagerWorld σ Qos}
    (running : Running api participant object before) {topicName : String} {answer : Answer}
    {registered : World σ}
    (stepped : World.step api (before.process object) (before.registration api topicName) =
      .ok (answer, registered)) :
    EntryChange api participant before (before.settle registered) topicName := by
  obtain ⟨value, host, outcome, _, rfl⟩ := registerTopic_step.mp stepped
  have shown : ∀ other, before.entry other = object.mapTopics.lookup other :=
    ManagerWorld.entry_present running.present
  generalize given : before.manager.getTopicDataType topicName before.nextDataType = asked
    at outcome
  cases outcome with
  | noDataType => exact .unchanged (fun other => (shown other).symm)
  | alreadyRegistered dataType known intact =>
    exact .unchanged (fun other => (shown other).symm)
  | typeRefused dataType source errcode kept middleware unknown live intact answered =>
    refine .unchanged (fun other => ?_)
    rw [ManagerWorld.settle_entry, Host.leaveScope_self]
    exact (shown other).symm
  | topicRefused dataType source kept recorded middleware unknown live intact answered created =>
    refine .unchanged (fun other => ?_)
    rw [ManagerWorld.settle_entry, Host.leaveScope_self]
    exact (shown other).symm
  | topicCreated dataType source kept recorded middleware topic unknown live intact answered
      created =>
    obtain rfl := Except.ok.inj (live.symm.trans running.rooted.live)
    have promised := contract.createTopic recorded source topicName dataType.name
      api.topicQosDefault
    simp only [created] at promised
    obtain ⟨_, _, typed, _, added⟩ := promised
    refine .topicAdded dataType topic given ?_ typed ?_ (fun other => ?_)
    · rw [shown]
      exact Finmap.lookup_eq_none.mpr unknown
    · show (api.holdings (Host.leaveScope _ dataType kept).middleware).types source _ = _
      rw [Host.leaveScope_middleware, Host.insertTopic_middleware, added, typed]
      exact registerType_recorded contract answered
    · rw [ManagerWorld.settle_entry, Host.leaveScope_self, Host.insertTopic_self, shown]
      split
      · rename_i same
        rw [same]
        exact Finmap.lookup_insert _
      · rename_i apart
        exact Finmap.lookup_insert_of_ne _ apart

/-- A creating call adds a topic of its object's type or leaves the map. -/
theorem Running.method_change (contract : Contract api) {before after : ManagerWorld σ Qos}
    (running : Running api participant object before) {asked : Request}
    {endpoint : Option Endpoint}
    (outcome : MethodOutcome api object before asked endpoint after) :
    EntryChange api participant before after asked.topicName := by
  cases outcome with
  | unregistered registered stepped => exact running.registration_change contract stepped
  | created registered created _ stepped made =>
    obtain ⟨self, _, endpoints, held⟩ := creation_frame contract made
    have still : ∀ other,
        (before.settle created).entry other = (before.settle registered).entry other := by
      intro other
      rw [ManagerWorld.settle_entry, ManagerWorld.settle_entry, self]
    cases running.registration_change contract stepped with
    | unchanged same => exact .unchanged (fun other => (still other).trans (same other))
    | topicAdded dataType topic given free typed recorded added =>
      refine .topicAdded dataType topic given free typed ?_
        (fun other => (still other).trans (added other))
      show (api.holdings created.middleware).types participant _ = _
      rw [held]
      exact recorded

/-- A creating call leaves the creators. -/
theorem MethodOutcome.topicTypes {before after : ManagerWorld σ Qos} {asked : Request}
    {endpoint : Option Endpoint}
    (outcome : MethodOutcome api object before asked endpoint after) :
    after.manager.topicTypes = before.manager.topicTypes := by
  cases outcome with
  | unregistered registered stepped => rfl
  | created registered created _ stepped made => rfl

/-- An entry of the map outlives every call. -/
theorem Running.keeps_entry (contract : Contract api) {before after : ManagerWorld σ Qos}
    (running : Running api participant object before) {call : ManagerCall} {answer : Answer}
    (stepped : ManagerWorld.step api before call = .ok (answer, after)) {topicName : String}
    {entry : Option Topic} (here : before.entry topicName = some entry) :
    after.entry topicName = some entry := by
  cases manager_step running.present stepped with
  | initialised => exact here
  | creatorAdded added creator called =>
    rw [ManagerWorld.entry, addTopicDataTypeCreator_participant]
    exact here
  | requested asked endpoint _ called outcome =>
    cases running.method_change contract outcome with
    | unchanged same => exact (same topicName).trans here
    | topicAdded dataType topic given free typed recorded added =>
      have apart : topicName ≠ asked.topicName := by
        intro same
        rw [same, free] at here
        cases here
      rw [added, if_neg apart]
      exact here

/-- The creator always returns a new object of this type name. -/
def TopicDataTypeCreator.Makes (creator : TopicDataTypeCreator) (typeName : String) : Prop :=
  ∀ fresh, creator fresh = some ⟨fresh, typeName⟩

/-- The creator always returns a new object of one type name. -/
def TopicDataTypeCreator.Fixed (creator : TopicDataTypeCreator) : Prop :=
  ∃ typeName, creator.Makes typeName

/-- Such a creator makes new objects. -/
theorem TopicDataTypeCreator.Fixed.fresh {creator : TopicDataTypeCreator}
    (fixed : creator.Fixed) : creator.Fresh := by
  obtain ⟨typeName, makes⟩ := fixed
  intro fresh dataType made
  rw [makes fresh] at made
  rw [← Option.some.inj made]

/-- Each name in `m_mapTopics` has a creator in `m_topicTypes`, and its topic has the type name of
the objects that creator makes. -/
def TablesAgree (world : ManagerWorld σ Qos) : Prop :=
  ∀ topicName entry, world.entry topicName = some entry →
    ∃ topic creator, entry = some topic ∧
      world.manager.topicTypes.lookup topicName = some creator ∧ creator.Makes topic.typeName

/-- The registration step of every creating call for the name answers true, the call returns an
endpoint object, and whatever the middleware made for the name has the one type name. -/
structure Serves (api : Middleware σ Qos Message) (world : ManagerWorld σ Qos)
    (topicName typeName : String) : Prop where
  /-- The registration step. -/
  registers : ∃ object host, world.manager.participant = some object ∧
    registerTopic api (world.host object) topicName
      (world.manager.getTopicDataType topicName world.nextDataType) api.topicQosDefault =
        .ok (true, host)
  /-- `createDataWriter`. -/
  writer : ∃ endpoint next, world.createDataWriter api topicName = .ok (some endpoint, next)
  /-- `createDataReader`. -/
  reader : ∃ endpoint next, world.createDataReader api topicName = .ok (some endpoint, next)
  /-- The endpoints of the name. -/
  endpoints : ∀ endpoint ∈ world.endpoints, endpoint.topicName = topicName →
    ∀ data, endpoint.data = some data → data.topic.typeName = typeName

/-- A call keeps the tables in agreement. -/
theorem TablesAgree.step (contract : Contract api) {before after : ManagerWorld σ Qos}
    (agree : TablesAgree before) (running : Running api participant object before)
    (fixed : ∀ topicName creator, before.manager.topicTypes.lookup topicName = some creator →
      creator.Fixed)
    {call : ManagerCall} {answer : Answer}
    (stepped : ManagerWorld.step api before call = .ok (answer, after)) : TablesAgree after := by
  cases manager_step running.present stepped with
  | initialised => exact agree
  | creatorAdded added creator called =>
    intro topicName entry here
    rw [ManagerWorld.entry, addTopicDataTypeCreator_participant] at here
    obtain ⟨topic, found, pointed, listed, makes⟩ := agree topicName entry here
    exact ⟨topic, found, pointed, addTopicDataTypeCreator_keeps added creator listed, makes⟩
  | requested asked endpoint _ called outcome =>
    intro topicName entry here
    rw [outcome.topicTypes]
    cases running.method_change contract outcome with
    | unchanged same => exact agree topicName entry ((same topicName).symm.trans here)
    | topicAdded dataType topic given free typed recorded entries =>
      rw [entries] at here
      split at here
      · rename_i same
        obtain rfl := Option.some.inj here
        subst same
        cases listed : before.manager.topicTypes.lookup asked.topicName with
        | none =>
          simp only [DDSParticipantManager.getTopicDataType, listed] at given
          cases given
        | some creator =>
          simp only [DDSParticipantManager.getTopicDataType, listed] at given
          obtain ⟨typeName, makes⟩ := fixed asked.topicName creator listed
          rw [makes] at given
          obtain rfl := Option.some.inj given
          exact ⟨topic, creator, rfl, rfl, typed ▸ makes⟩
      · exact agree topicName entry here

/-- A running manager whose tables agree, with creators of one type name each and with the entries
it once had. -/
structure Governed (api : Middleware σ Qos Message)
    (earlier : String → Option (Option Topic)) (world : ManagerWorld σ Qos) : Prop where
  /-- It runs. -/
  running : ∃ participant object, Running api participant object world
  /-- Its creators make one type name each. -/
  fixed : ∀ topicName creator, world.manager.topicTypes.lookup topicName = some creator →
    creator.Fixed
  /-- Its tables agree. -/
  agree : TablesAgree world
  /-- The earlier entries are there. -/
  kept : ∀ topicName entry, earlier topicName = some entry → world.entry topicName = some entry

/-- A call that adds only creators of one type name returns and leaves the manager governed. -/
theorem Governed.step (contract : Contract api) {earlier : String → Option (Option Topic)}
    (before : ManagerWorld σ Qos) (call : ManagerCall) (governed : Governed api earlier before)
    (adds : Adds TopicDataTypeCreator.Fixed call) :
    ∃ answer after, ManagerWorld.step api before call = .ok (answer, after) ∧
      Governed api earlier after := by
  obtain ⟨participant, object, running⟩ := governed.running
  have fresh : Adds TopicDataTypeCreator.Fresh call := by
    intro topicName creator called
    exact (adds topicName creator called).fresh
  obtain ⟨answer, after, stepped, next, still⟩ := running.step contract fresh
  refine ⟨answer, after, stepped, ⟨participant, next, still⟩, ?_,
    governed.agree.step contract running governed.fixed stepped, ?_⟩
  · intro topicName creator here
    cases manager_step running.present stepped with
    | initialised => exact governed.fixed topicName creator here
    | creatorAdded added other called =>
      rcases addTopicDataTypeCreator_lookup here with old | rfl
      · exact governed.fixed topicName creator old
      · exact adds added creator called
    | requested asked endpoint _ called outcome =>
      rw [outcome.topicTypes] at here
      exact governed.fixed topicName creator here
  · intro topicName entry here
    exact running.keeps_entry contract stepped (governed.kept topicName entry here)

/-- A governed manager serves every name that has a topic. -/
theorem Governed.serves (contract : Contract api) {earlier : String → Option (Option Topic)}
    {world : ManagerWorld σ Qos} (governed : Governed api earlier world) {topicName : String}
    {topic : Topic} (here : world.entry topicName = some (some topic)) :
    Serves api world topicName topic.typeName := by
  obtain ⟨participant, object, running⟩ := governed.running
  obtain ⟨_, creator, same, listed, makes⟩ := governed.agree topicName _ here
  obtain rfl := Option.some.inj same
  have entry := (ManagerWorld.entry_present running.present topicName).symm.trans here
  have known : topicName ∈ object.mapTopics := Finmap.mem_iff.mpr ⟨_, entry⟩
  have given : world.manager.getTopicDataType topicName world.nextDataType =
      some ⟨world.nextDataType, topic.typeName⟩ := by
    simp only [DDSParticipantManager.getTopicDataType, listed]
    exact makes world.nextDataType
  have intact := (running.unused ⟨world.nextDataType, topic.typeName⟩ (Nat.le_refl _)).1
  have outcome : RegisterOutcome api (world.host object) topicName api.topicQosDefault
      (world.manager.getTopicDataType topicName world.nextDataType) true
      ((world.host object).leaveScope ⟨world.nextDataType, topic.typeName⟩ false) := by
    rw [given]
    exact .alreadyRegistered _ known intact
  -- The registration answers true and leaves the map, so the creation finds the name.
  have stepped : World.step api (world.process object) (world.registration api topicName) =
      .ok (.flag true, { world.process object with
        toHost := (world.host object).leaveScope ⟨world.nextDataType, topic.typeName⟩ false }) :=
    registerTopic_step.mpr ⟨true, _, outcome, rfl, rfl⟩
  have middle := running.registration contract stepped
  have made : ∀ kind, ∃ endpoint next,
      (⟨kind, topicName⟩ : Request).method api world = .ok (some endpoint, next) := by
    intro kind
    obtain ⟨endpoint, created, made, _⟩ := creation_step contract middle.consistent middle.rooted
      middle.groups (show (⟨kind, topicName⟩ : Request).topicName ∈ _ from known)
    exact ⟨endpoint, _, (method_ok running.present).mpr (.created _ created _ stepped made)⟩
  refine ⟨⟨object, _, running.present, registerTopic_ok.mpr outcome⟩, made .writer, made .reader,
    ?_⟩
  intro endpoint member named data filled
  obtain ⟨_, bound⟩ := running.consistent.inStep.objects endpoint member data filled
  rw [named] at bound
  obtain rfl := Option.some.inj (Option.some.inj (entry.symm.trans bound))
  rfl

/-- In every run of calls on an initialised manager whose creators make one type name each, the
tables agree in every state reached, and a name that has a topic is served with its type from then
on. -/
theorem tables_agree (contract : Contract api) (manager : DDSParticipantManager Qos)
    (middleware : σ) (nextDataType : Nat) (participantName : String) (listenPort : UInt16)
    (peerLocators : List String) (new : manager.participant = none)
    (created : CreatesAll api middleware manager.domainId
      (manager.createParticipantQos participantName listenPort peerLocators))
    (fixed : ∀ topicName creator, manager.topicTypes.lookup topicName = some creator →
      creator.Fixed)
    (early late : List ManagerCall)
    (added : ∀ call ∈ early ++ late, Adds TopicDataTypeCreator.Fixed call) :
    ∃ middle final,
      run (ManagerWorld.step api) (.start manager middleware nextDataType)
        (.initDomainParticipant participantName listenPort peerLocators :: early) = .ok middle ∧
      run (ManagerWorld.step api) middle late = .ok final ∧
      TablesAgree middle ∧ TablesAgree final ∧
      ∀ topicName topic, middle.entry topicName = some (some topic) →
        final.entry topicName = some (some topic) ∧
          Serves api final topicName topic.typeName := by
  obtain ⟨participant, object, world, initialised, running, types, empty, _⟩ :=
    initDomainParticipant_running contract nextDataType new created
      (fun topicName creator here => (fixed topicName creator here).fresh)
  have start : Governed api (fun _ => none) world := by
    refine ⟨⟨participant, object, running⟩, ?_, ?_, ?_⟩
    · rw [types]
      exact fixed
    · intro topicName entry here
      rw [ManagerWorld.entry_present running.present, empty] at here
      cases here
    · intro topicName entry here
      cases here
  obtain ⟨addedEarly, addedLate⟩ := List.forall_mem_append.mp added
  obtain ⟨middle, ranEarly, inside⟩ :=
    Machine.run_total (Governed.step contract) early start addedEarly
  have again : Governed api middle.entry middle :=
    ⟨inside.running, inside.fixed, inside.agree, fun _ _ here => here⟩
  obtain ⟨final, ranLate, last⟩ :=
    Machine.run_total (Governed.step contract) late again addedLate
  refine ⟨middle, final, ?_, ranLate, inside.agree, last.agree, fun topicName topic here => ?_⟩
  · rw [Machine.run_cons early initialised]
    exact ranEarly
  · have kept := last.kept topicName _ here
    exact ⟨kept, last.serves contract kept⟩

/-- The creator of the new manager makes objects of one type name. -/
theorem newManager_fixed (topicName : String) (creator : TopicDataTypeCreator)
    (here : (newManager []).manager.topicTypes.lookup topicName = some creator) :
    creator.Fixed := by
  by_cases same : topicName = "a"
  · rw [same, newManager, Finmap.lookup_singleton_eq] at here
    obtain rfl := Option.some.inj here
    exact ⟨"T", fun fresh => rfl⟩
  · have unknown : (newManager []).manager.topicTypes.lookup topicName = none := by
      rw [newManager, Finmap.lookup_eq_none, Finmap.mem_singleton]
      exact same
    cases unknown.symm.trans here

/-- A second creator for one name, a refused topic whose type stays registered, and a name whose
creator is added later. -/
def creatorCalls : List ManagerCall :=
  [.addTopicDataTypeCreator "a" fun fresh => some ⟨fresh, "U"⟩, .createDataWriter "a",
    .createDataReader "a", .addTopicDataTypeCreator "b" fun fresh => some ⟨fresh, "U"⟩,
    .createDataWriter "b"]

/-- Another creator for the later name, and a reader. -/
def laterCalls : List ManagerCall :=
  [.addTopicDataTypeCreator "b" fun fresh => some ⟨fresh, "T"⟩, .createDataReader "b"]

/-- All their creators make objects of one type name. -/
theorem creatorCalls_fixed :
    ∀ call ∈ creatorCalls ++ laterCalls, Adds TopicDataTypeCreator.Fixed call := by
  intro call member topicName creator called
  subst called
  simp only [creatorCalls, laterCalls, List.cons_append, List.nil_append, List.mem_cons,
    reduceCtorEq, ManagerCall.addTopicDataTypeCreator.injEq, List.not_mem_nil, or_false, false_or]
    at member
  rcases member with ⟨_, rfl⟩ | ⟨_, rfl⟩ | ⟨_, rfl⟩
  · exact ⟨"U", fun fresh => rfl⟩
  · exact ⟨"U", fun fresh => rfl⟩
  · exact ⟨"T", fun fresh => rfl⟩

/-- With a refused topic and a refused data writer in the script, these calls go through and the
later name is served with the type of its first creator. -/
theorem tables_agree_mixed :
    ∃ middle final,
      run (ManagerWorld.step (reference true)) (.start (newManager []).manager
        (Reference.fresh [false, false, false, true, false, true]) 0)
        (.initDomainParticipant "p" 0 [] :: creatorCalls) = .ok middle ∧
      run (ManagerWorld.step (reference true)) middle laterCalls = .ok final ∧
      TablesAgree final ∧ Serves (reference true) final "b" "U" := by
  obtain ⟨middle, final, ranEarly, ranLate, _, agree, served⟩ := tables_agree
    (reference_contract true) (newManager []).manager
    (Reference.fresh [false, false, false, true, false, true]) 0 "p" 0 [] rfl
    ⟨_, _, _, _, _, _, rfl, rfl, rfl⟩ newManager_fixed creatorCalls laterCalls creatorCalls_fixed
  have shown : (run (ManagerWorld.step (reference true)) (.start (newManager []).manager
      (Reference.fresh [false, false, false, true, false, true]) 0)
      (.initDomainParticipant "p" 0 [] :: creatorCalls)).toOption.map (fun world =>
        (world.entry "a", (world.entry "b").join.map Topic.typeName)) =
          some (none, some "U") := by
    decide
  rw [ranEarly] at shown
  simp only [Except.toOption, Option.map_some, Option.some.injEq, Prod.mk.injEq,
    Option.map_eq_some_iff] at shown
  obtain ⟨_, topic, bound, typed⟩ := shown
  obtain ⟨_, serves⟩ := served "b" topic (Option.join_eq_some_iff.mp bound)
  rw [typed] at serves
  exact ⟨middle, final, ranEarly, ranLate, agree, serves⟩

end FastDdsWrapper
