import FastDdsWrapper.TopicDirectory

/-!
# What a registration promises and what it leaves behind

`registerTopic` does two things, it registers a type and it creates a topic, and answers with one
`bool`. This module says when that answer can be trusted, what `unregisterTopic` takes back, and how
many topics one type name can carry. All three turn on the participant's type table: a type once
registered stays, `register_type` refuses a different object under its name, and a `TypeSupport` the
table does not keep deletes its object.
-/

namespace FastDdsWrapper

open Machine (run Reachable bind_ok)

variable {σ Qos Message : Type} {api : Middleware σ Qos Message}
variable {participant : DomainParticipant}

/-- A call with a usable participant and an existing object returns. -/
theorem registerTopic_returns {host : Host σ} (topicName : String)
    (dataType : Option TopicDataType) (topicQos : Qos)
    (live : host.derefParticipant api = .ok participant)
    (intact : ∀ object, dataType = some object → object ∉ host.destroyed) :
    ∃ value next, registerTopic api host topicName dataType topicQos = .ok (value, next) := by
  cases dataType with
  | none => exact ⟨false, host, rfl⟩
  | some object =>
    have exists_object := intact object rfl
    by_cases known : topicName ∈ host.self.mapTopics
    · exact ⟨_, _, registerTopic_ok.mpr (.alreadyRegistered object known exists_object)⟩
    rcases answered : api.registerType host.middleware participant object with
      ⟨⟨_ | errcode, kept⟩, registered⟩
    · rcases created : api.createTopic registered participant topicName object.name topicQos with
        ⟨_ | topic, middleware⟩
      · exact ⟨_, _, registerTopic_ok.mpr (.topicRefused object participant kept registered
          middleware known live exists_object answered created)⟩
      · exact ⟨_, _, registerTopic_ok.mpr (.topicCreated object participant kept registered
          middleware topic known live exists_object answered created)⟩
    · exact ⟨_, _, registerTopic_ok.mpr (.typeRefused object participant errcode kept registered
        known live exists_object answered)⟩

/-- With a usable participant, a call faults only on an object that is already deleted. -/
theorem registerTopic_misused {host : Host σ} {topicName : String}
    {dataType : Option TopicDataType} {topicQos : Qos} {fault : Fault}
    (live : host.derefParticipant api = .ok participant)
    (faulted : registerTopic api host topicName dataType topicQos = .error fault) :
    fault = .destroyedDataType ∧ ∃ object, dataType = some object ∧ object ∈ host.destroyed := by
  by_cases intact : ∀ object, dataType = some object → object ∉ host.destroyed
  · obtain ⟨value, next, returned⟩ := registerTopic_returns topicName dataType topicQos live intact
    cases returned.symm.trans faulted
  · push Not at intact
    obtain ⟨object, rfl, gone⟩ := intact
    simp only [registerTopic, gone, ↓reduceIte, Except.error.injEq] at faulted
    exact ⟨faulted.symm, object, rfl, gone⟩

/-- A process that is rooted can use its participant pointer. -/
theorem Rooted.live {world : World σ} (rooted : Rooted api participant world) :
    world.toHost.derefParticipant api = .ok participant :=
  derefParticipant_ok.mpr ⟨rooted.owner, rooted.alive⟩

/-- The map, the middleware's topics and the participant's type table are as before. -/
structure SameTables (api : Middleware σ Qos Message) (participant : DomainParticipant)
    (before after : Host σ) : Prop where
  /-- `m_mapTopics`. -/
  map : after.self.mapTopics = before.self.mapTopics
  /-- The middleware's topics. -/
  topics : (api.holdings after.middleware).topics = (api.holdings before.middleware).topics
  /-- The type table. -/
  types : (api.holdings after.middleware).types participant =
    (api.holdings before.middleware).types participant

/-! ## The answer -/

/-- The map holds the name with a topic of the object's type name. -/
def Host.Registered (host : Host σ) (topicName : String) (dataType : Option TopicDataType) :
    Prop :=
  ∃ object topic, dataType = some object ∧
    host.self.mapTopics.lookup topicName = some (some topic) ∧ topic.typeName = object.name

/-- The call returns, it answers true exactly when the topic is registered afterwards, and an answer
of false leaves no trace. -/
def Trustworthy (api : Middleware σ Qos Message) (participant : DomainParticipant) (host : Host σ)
    (topicName : String) (dataType : Option TopicDataType) (topicQos : Qos) : Prop :=
  ∃ value next, registerTopic api host topicName dataType topicQos = .ok (value, next) ∧
    (value = true ↔ next.Registered topicName dataType) ∧
    (value = false → SameTables api participant host next)

/-- No object is given, or the name already has a topic of the object's type name, or the name is
free and `create_topic` returns a topic once `register_type` has answered OK. -/
def Fulfilled (api : Middleware σ Qos Message) (participant : DomainParticipant) (host : Host σ)
    (topicName : String) (dataType : Option TopicDataType) (topicQos : Qos) : Prop :=
  ∀ object, dataType = some object →
    (∃ topic, host.self.mapTopics.lookup topicName = some (some topic) ∧
      topic.typeName = object.name) ∨
    (topicName ∉ host.self.mapTopics ∧ ∀ kept registered,
      api.registerType host.middleware participant object = ((.ok, kept), registered) →
        (api.createTopic registered participant topicName object.name topicQos).1 ≠ none)

/-- An answer of false leaves no trace. -/
theorem RegisterOutcome.refused_same (contract : Contract api) {host next : Host σ}
    {topicName : String} {topicQos : Qos} {dataType : Option TopicDataType}
    (outcome : RegisterOutcome api host topicName topicQos dataType false next) :
    SameTables api participant host next := by
  cases outcome with
  | noDataType => exact ⟨rfl, rfl, rfl⟩
  | typeRefused object source errcode kept middleware unknown live intact answered =>
    have promised := contract.registerType host.middleware source object
    simp only [answered] at promised
    obtain ⟨_, held⟩ := promised
    constructor
    · rw [Host.leaveScope_self]
    · rw [Host.leaveScope_middleware, held]
    · rw [Host.leaveScope_middleware, held]

/-- Where a registration leaves the data type object it was given. -/
inductive Fate (api : Middleware σ Qos Message) (host next : Host σ) : Option TopicDataType → Prop
  /-- There is no object. -/
  | nothing (types : (api.holdings next.middleware).types = (api.holdings host.middleware).types)
      (destroyed : next.destroyed = host.destroyed) : Fate api host next none
  /-- The type table took the object under a new name. -/
  | recorded (object : TopicDataType) (source : DomainParticipant)
      (new : (api.holdings host.middleware).types source object.name = none)
      (types : (api.holdings next.middleware).types =
        ((api.holdings host.middleware).addType source object).types)
      (destroyed : next.destroyed = host.destroyed) : Fate api host next (some object)
  /-- The object is deleted and the type table is as before. -/
  | dropped (object : TopicDataType)
      (types : (api.holdings next.middleware).types = (api.holdings host.middleware).types)
      (destroyed : next.destroyed = host.destroyed ++ [object]) : Fate api host next (some object)

/-- Each return path leaves the object in the type table or deletes it. -/
theorem RegisterOutcome.fate (contract : Contract api) {host next : Host σ} {topicName : String}
    {topicQos : Qos} {dataType : Option TopicDataType} {value : Bool}
    (outcome : RegisterOutcome api host topicName topicQos dataType value next) :
    Fate api host next dataType := by
  -- What `register_type` did to the type table decides what leaving the scope does to the object.
  have scope : ∀ {source : DomainParticipant} {object : TopicDataType} {code : ReturnCode}
      {kept : Bool} {registered : σ} (other : Host σ),
      api.registerType host.middleware source object = ((code, kept), registered) →
      (api.holdings other.middleware).types = (api.holdings registered).types →
      other.destroyed = host.destroyed →
      Fate api host (other.leaveScope object kept) (some object) := by
    intro source object code kept registered other answered types destroyed
    have promised := contract.registerType host.middleware source object
    cases code with
    | ok =>
      simp only [answered] at promised
      rcases promised with ⟨new, rfl, held⟩ | ⟨_, rfl, held⟩
      · rw [held] at types
        exact .recorded object source new types destroyed
      · rw [held] at types
        exact .dropped object types (by rw [Host.leaveScope_dropped, destroyed])
    | failed errcode =>
      simp only [answered] at promised
      obtain ⟨rfl, held⟩ := promised
      rw [held] at types
      exact .dropped object types (by rw [Host.leaveScope_dropped, destroyed])
  cases outcome with
  | noDataType => exact .nothing rfl rfl
  | alreadyRegistered object known intact => exact .dropped object rfl rfl
  | typeRefused object source errcode kept middleware unknown live intact answered =>
    exact scope _ answered rfl rfl
  | topicRefused object source kept registered middleware unknown live intact answered created =>
    have promised := contract.createTopic registered source topicName object.name topicQos
    simp only [created] at promised
    exact scope _ answered (by rw [promised]) rfl
  | topicCreated object source kept registered middleware topic unknown live intact answered
      created =>
    have promised := contract.createTopic registered source topicName object.name topicQos
    simp only [created] at promised
    obtain ⟨_, _, _, _, added⟩ := promised
    have types : (api.holdings middleware).types = (api.holdings registered).types := by
      rw [added]
      rfl
    exact scope _ answered types rfl

/-- After `register_type` answered OK the object is the one recorded under its name. -/
theorem registerType_recorded (contract : Contract api) {state next : σ} {dataType : TopicDataType}
    {kept : Bool}
    (answered : api.registerType state participant dataType = ((.ok, kept), next)) :
    (api.holdings next).types participant dataType.name = some dataType := by
  have promised := contract.registerType state participant dataType
  simp only [answered] at promised
  rcases promised with ⟨_, _, held⟩ | ⟨own, _, held⟩
  · rw [held]
    simp
  · rw [held]
    exact own

/-- A registered object that is not deleted is recorded under its name. -/
theorem RegisterOutcome.undeleted (contract : Contract api) {host next : Host σ}
    {topicName : String} {topicQos : Qos} {object : TopicDataType} {value : Bool}
    (live : host.derefParticipant api = .ok participant)
    (outcome : RegisterOutcome api host topicName topicQos (some object) value next)
    (undeleted : object ∉ next.destroyed) :
    (api.holdings next.middleware).types participant object.name = some object := by
  cases outcome with
  | alreadyRegistered _ known intact =>
    exact absurd (List.mem_append_right _ (List.mem_singleton_self object)) undeleted
  | typeRefused _ source errcode kept middleware unknown sourced intact answered =>
    have promised := contract.registerType host.middleware source object
    simp only [answered] at promised
    obtain ⟨rfl, _⟩ := promised
    exact absurd (List.mem_append_right _ (List.mem_singleton_self object)) undeleted
  | topicRefused _ source kept registered middleware unknown sourced intact answered created =>
    obtain rfl := Except.ok.inj (sourced.symm.trans live)
    have promised := contract.createTopic registered source topicName object.name topicQos
    simp only [created] at promised
    rw [Host.leaveScope_middleware, promised]
    exact registerType_recorded contract answered
  | topicCreated _ source kept registered middleware topic unknown sourced intact answered
      created =>
    obtain rfl := Except.ok.inj (sourced.symm.trans live)
    have promised := contract.createTopic registered source topicName object.name topicQos
    simp only [created] at promised
    obtain ⟨_, _, _, _, added⟩ := promised
    rw [Host.leaveScope_middleware, Host.insertTopic_middleware, added]
    exact registerType_recorded contract answered

/-- A name outside the map is not registered. -/
theorem not_registered {host : Host σ} {topicName : String} {dataType : Option TopicDataType}
    (unknown : topicName ∉ host.self.mapTopics) : ¬ host.Registered topicName dataType := by
  intro registered
  obtain ⟨object, topic, _, found, _⟩ := registered
  rw [Finmap.lookup_eq_none.mpr unknown] at found
  cases found

/-- On each return path, the topic is registered as answered exactly when the request is one that is
fulfilled. -/
theorem RegisterOutcome.registered_iff (contract : Contract api) {host next : Host σ}
    {topicName : String} {topicQos : Qos} {dataType : Option TopicDataType} {value : Bool}
    (live : host.derefParticipant api = .ok participant)
    (outcome : RegisterOutcome api host topicName topicQos dataType value next) :
    (value = true ↔ next.Registered topicName dataType) ↔
      Fulfilled api participant host topicName dataType topicQos := by
  cases outcome with
  | noDataType =>
    constructor
    · intro _ object given
      cases given
    · intro _
      simp [Host.Registered]
  | alreadyRegistered object known intact =>
    constructor
    · intro honest another given
      obtain ⟨_, topic, same, found, typed⟩ := honest.mp rfl
      rw [Host.leaveScope_self] at found
      obtain rfl := Option.some.inj (given.symm.trans same)
      exact .inl ⟨topic, found, typed⟩
    · intro fulfilled
      rcases fulfilled object rfl with ⟨topic, found, typed⟩ | ⟨unknown, _⟩
      · have registered : (host.leaveScope object false).Registered topicName (some object) := by
          refine ⟨object, topic, rfl, ?_, typed⟩
          rw [Host.leaveScope_self]
          exact found
        exact iff_of_true rfl registered
      · exact absurd known unknown
  | typeRefused object source errcode kept middleware unknown sourced intact answered =>
    obtain rfl := Except.ok.inj (sourced.symm.trans live)
    have absent : ¬ (Host.leaveScope { host with middleware } object kept).Registered topicName
        (some object) := by
      apply not_registered
      rw [Host.leaveScope_self]
      exact unknown
    constructor
    · intro _ another given
      obtain rfl := Option.some.inj given
      refine .inr ⟨unknown, fun other registered accepted => ?_⟩
      rw [answered] at accepted
      cases accepted
    · intro _
      exact iff_of_false Bool.false_ne_true absent
  | topicRefused object source kept registered middleware unknown sourced intact answered
      created =>
    obtain rfl := Except.ok.inj (sourced.symm.trans live)
    have absent : ¬ (Host.leaveScope { host with middleware } object kept).Registered topicName
        (some object) := by
      apply not_registered
      rw [Host.leaveScope_self]
      exact unknown
    constructor
    · intro honest
      exact absurd (honest.mp rfl) absent
    · intro fulfilled
      rcases fulfilled object rfl with ⟨topic, found, _⟩ | ⟨_, granted⟩
      · rw [Finmap.lookup_eq_none.mpr unknown] at found
        cases found
      · have present := granted kept registered answered
        rw [created] at present
        exact absurd rfl present
  | topicCreated object source kept registered middleware topic unknown sourced intact answered
      created =>
    obtain rfl := Except.ok.inj (sourced.symm.trans live)
    have promised := contract.createTopic registered source topicName object.name topicQos
    simp only [created] at promised
    obtain ⟨_, _, typed, _, _⟩ := promised
    have present : (Host.leaveScope (Host.insertTopic { host with middleware } topicName topic)
        object kept).Registered topicName (some object) := by
      refine ⟨object, topic, rfl, ?_, typed⟩
      rw [Host.leaveScope_self, Host.insertTopic_self]
      exact Finmap.lookup_insert _
    constructor
    · intro _ another given
      obtain rfl := Option.some.inj given
      refine .inr ⟨unknown, fun other later accepted => ?_⟩
      rw [answered, Prod.mk.injEq] at accepted
      obtain ⟨_, rfl⟩ := accepted
      rw [created]
      exact Option.some_ne_none topic
    · intro _
      exact iff_of_true rfl present

/-- In every reachable state, the answer of `registerTopic` can be trusted exactly when the request
is one that is fulfilled. -/
theorem registerTopic_trustworthy (contract : Contract api) (middleware : σ) (domainId : Int)
    (participantQos : Qos) (participant : DomainParticipant)
    (created : (World.construct api middleware domainId participantQos).self.participant =
      some participant)
    (world : World σ)
    (reached : Reachable (World.step api) (World.construct api middleware domainId participantQos)
      world)
    (topicName : String) (dataType : Option TopicDataType) (topicQos : Qos)
    (intact : ∀ object, dataType = some object → object ∉ world.destroyed) :
    Trustworthy api participant world.toHost topicName dataType topicQos ↔
      Fulfilled api participant world.toHost topicName dataType topicQos := by
  obtain ⟨consistent, rooted⟩ := reachable_settled contract created reached
  have live := rooted.live
  obtain ⟨value, next, returned⟩ := registerTopic_returns topicName dataType topicQos live intact
  have outcome := registerTopic_ok.mp returned
  rw [← outcome.registered_iff contract live]
  constructor
  · intro trustworthy
    obtain ⟨other, later, again, honest, _⟩ := trustworthy
    rw [returned, Except.ok.injEq, Prod.mk.injEq] at again
    obtain ⟨rfl, rfl⟩ := again
    exact honest
  · intro honest
    refine ⟨value, next, returned, honest, fun refused => ?_⟩
    subst refused
    exact outcome.refused_same contract

/-- Right after the constructor a first registration can be trusted. -/
theorem registerTopic_trustworthy_start :
    Trustworthy (reference false) ⟨1⟩ started.toHost "a" (some ⟨1, "T"⟩) () := by
  refine (registerTopic_trustworthy (reference_contract false) (Reference.fresh []) 0 () ⟨1⟩
    (by decide) started (Machine.reachable_start _) "a" (some ⟨1, "T"⟩) ()
    (fun _ _ member => List.not_mem_nil member)).mpr ?_
  intro object given
  obtain rfl := Option.some.inj given
  refine .inr ⟨by decide, fun kept registered answered => ?_⟩
  obtain ⟨_, rfl⟩ := Prod.mk.inj answered
  exact Option.some_ne_none _

/-- A process whose next `create_topic` refuses. -/
def refusedTopic : World Reference :=
  World.construct (reference true) (Reference.fresh [false, false, false, true]) 0 ()

/-- The call answers true and the map does not hold the name. -/
theorem registerTopic_refused_topic :
    ¬ Trustworthy (reference true) ⟨1⟩ refusedTopic.toHost "a" (some ⟨1, "T"⟩) () := by
  intro trustworthy
  obtain ⟨value, next, returned, honest, _⟩ := trustworthy
  have answer : (registerTopic (reference true) refusedTopic.toHost "a" (some ⟨1, "T"⟩)
      ()).toOption.map (fun result => (result.1, decide ("a" ∈ result.2.self.mapTopics))) =
        some (true, false) := by
    decide
  rw [returned] at answer
  simp only [Except.toOption, Option.map_some, Option.some.injEq, Prod.mk.injEq,
    decide_eq_false_iff_not] at answer
  obtain ⟨rfl, absent⟩ := answer
  exact not_registered absent (honest.mp rfl)

/-! ## The inverse -/

/-- Under a type name held by another object, a free topic name is refused without a trace. -/
theorem registerTopic_taken (contract : Contract api) {host : Host σ} {topicName : String}
    {held object : TopicDataType} (topicQos : Qos)
    (live : host.derefParticipant api = .ok participant)
    (unknown : topicName ∉ host.self.mapTopics) (intact : object ∉ host.destroyed)
    (taken : (api.holdings host.middleware).types participant object.name = some held)
    (apart : object ≠ held) :
    ∃ next, registerTopic api host topicName (some object) topicQos = .ok (false, next) ∧
      SameTables api participant host next := by
  have promised := contract.registerType host.middleware participant object
  rcases answered : api.registerType host.middleware participant object with
    ⟨⟨_ | errcode, kept⟩, registered⟩
  · simp only [answered] at promised
    rcases promised with ⟨free, _⟩ | ⟨own, _⟩
    · cases taken.symm.trans free
    · exact absurd (Option.some.inj (own.symm.trans taken)) apart
  · have outcome : RegisterOutcome api host topicName topicQos (some object) false _ :=
      .typeRefused object participant errcode kept registered unknown live intact answered
    exact ⟨_, registerTopic_ok.mpr outcome, outcome.refused_same contract⟩

/-- A registration that put a free name into the map created a topic for it and, for a new type
name, recorded the object. -/
theorem registerTopic_added (contract : Contract api) {host next : Host σ} {topicName : String}
    {object : TopicDataType} {topicQos : Qos} {value : Bool}
    (live : host.derefParticipant api = .ok participant)
    (unknown : topicName ∉ host.self.mapTopics)
    (new : (api.holdings host.middleware).types participant object.name = none)
    (returned : registerTopic api host topicName (some object) topicQos = .ok (value, next))
    (added : topicName ∈ next.self.mapTopics) :
    ∃ topic, topic.typeName = object.name ∧ topic ∉ (api.holdings host.middleware).topics ∧
      next.self = { host.self with
        mapTopics := host.self.mapTopics.insert topicName (some topic) } ∧
      api.holdings next.middleware =
        ((api.holdings host.middleware).addType participant object).addTopic topic ∧
      next.destroyed = host.destroyed := by
  cases registerTopic_ok.mp returned with
  | alreadyRegistered _ known intact => exact absurd known unknown
  | typeRefused _ source errcode kept middleware _ sourced intact answered =>
    rw [Host.leaveScope_self] at added
    exact absurd added unknown
  | topicRefused _ source kept registered middleware _ sourced intact answered created =>
    rw [Host.leaveScope_self] at added
    exact absurd added unknown
  | topicCreated _ source kept registered middleware topic _ sourced intact answered created =>
    obtain rfl := Except.ok.inj (sourced.symm.trans live)
    have first := contract.registerType host.middleware source object
    have second := contract.createTopic registered source topicName object.name topicQos
    simp only [answered] at first
    simp only [created] at second
    obtain ⟨_, _, typed, fresh, held⟩ := second
    rcases first with ⟨_, rfl, recorded⟩ | ⟨own, _⟩
    · rw [recorded] at fresh held
      exact ⟨topic, typed, fresh, rfl, held, rfl⟩
    · cases new.symm.trans own

/-- Removing a topic that a registration just added restores map and topics, keeps the recorded
type, and leaves the participant usable. -/
theorem unregisterTopic_added (contract : Contract api) {before middle after : Host σ}
    {topicName : String} {object : TopicDataType} {topic : Topic}
    (live : before.derefParticipant api = .ok participant)
    (unknown : topicName ∉ before.self.mapTopics)
    (fresh : topic ∉ (api.holdings before.middleware).topics)
    (self : middle.self = { before.self with
      mapTopics := before.self.mapTopics.insert topicName (some topic) })
    (held : api.holdings middle.middleware =
      ((api.holdings before.middleware).addType participant object).addTopic topic)
    (returned : unregisterTopic api middle topicName = .ok (true, after)) :
    after.self.mapTopics = before.self.mapTopics ∧
      (api.holdings after.middleware).topics = (api.holdings before.middleware).topics ∧
      (api.holdings after.middleware).types participant object.name = some object ∧
      after.derefParticipant api = .ok participant := by
  have present : middle.self.mapTopics.lookup topicName = some (some topic) := by
    rw [self]
    exact Finmap.lookup_insert _
  cases unregisterTopic_ok.mp returned with
  | absent missing => cases present.symm.trans missing
  | nullEntry entry => cases present.symm.trans entry
  | deleted target source middleware entry sourced there answered =>
    obtain rfl := Option.some.inj (Option.some.inj (present.symm.trans entry))
    have promised := contract.deleteTopic middle.middleware source topic
    simp only [answered, held] at promised
    obtain ⟨_, removed⟩ := promised
    obtain ⟨owner, alive⟩ := derefParticipant_ok.mp live
    refine ⟨?_, ?_, ?_, ?_⟩
    · rw [Host.eraseTopic_self, self]
      apply Finmap.ext_lookup
      intro name
      by_cases here : name = topicName
      · rw [here, Finmap.lookup_erase, Finmap.lookup_eq_none.mpr unknown]
      · rw [Finmap.lookup_erase_ne here, Finmap.lookup_insert_of_ne _ here]
    · rw [Host.eraseTopic_middleware, removed]
      exact Finset.erase_insert fresh
    · rw [Host.eraseTopic_middleware, removed]
      simp
    · rw [derefParticipant_ok, Host.eraseTopic_middleware, removed, Host.eraseTopic_self, self]
      exact ⟨owner, alive⟩

/-- In every reachable state, registering a free name with a new type and unregistering it never
restores the type table, and each further object of the type name is refused. -/
theorem unregisterTopic_leaves_type (contract : Contract api) (middleware : σ) (domainId : Int)
    (participantQos : Qos) (participant : DomainParticipant)
    (created : (World.construct api middleware domainId participantQos).self.participant =
      some participant)
    (world : World σ)
    (reached : Reachable (World.step api) (World.construct api middleware domainId participantQos)
      world)
    (topicName : String) (object : TopicDataType) (topicQos : Qos)
    (unknown : topicName ∉ world.self.mapTopics)
    (new : (api.holdings world.middleware).types participant object.name = none)
    (middle after : Host σ)
    (registered : registerTopic api world.toHost topicName (some object) topicQos =
      .ok (true, middle))
    (added : topicName ∈ middle.self.mapTopics)
    (unregistered : unregisterTopic api middle topicName = .ok (true, after)) :
    ¬ SameTables api participant world.toHost after ∧
      ∀ other laterQos, other ≠ object → other.name = object.name → other ∉ after.destroyed →
        ∃ next, registerTopic api after topicName (some other) laterQos = .ok (false, next) ∧
          topicName ∉ next.self.mapTopics := by
  obtain ⟨_, rooted⟩ := reachable_settled contract created reached
  have live := rooted.live
  obtain ⟨topic, _, fresh, self, held, _⟩ :=
    registerTopic_added contract live unknown new registered added
  obtain ⟨map, _, kept, still⟩ :=
    unregisterTopic_added contract live unknown fresh self held unregistered
  constructor
  · intro same
    rw [same.types, new] at kept
    cases kept
  · intro other laterQos apart named intact
    have free : topicName ∉ after.self.mapTopics := by
      rw [map]
      exact unknown
    rw [← named] at kept
    obtain ⟨next, refused, same⟩ :=
      registerTopic_taken contract laterQos still free intact kept apart
    refine ⟨next, refused, ?_⟩
    rw [same.map]
    exact free

/-- One pair of calls, after which the type is still recorded. -/
theorem unregisterTopic_leaves_type_once :
    ∃ middle after,
      registerTopic (reference false) started.toHost "a" (some ⟨1, "T"⟩) () = .ok (true, middle) ∧
      unregisterTopic (reference false) middle "a" = .ok (true, after) ∧
      ¬ SameTables (reference false) ⟨1⟩ started.toHost after := by
  refine ⟨_, _, rfl, rfl, ?_⟩
  have left := unregisterTopic_leaves_type (reference_contract false) (Reference.fresh []) 0 () ⟨1⟩
    (by decide) started (Machine.reachable_start _) "a" ⟨1, "T"⟩ () (by decide) rfl _ _ rfl
    (by decide) rfl
  exact left.1

/-- The second cycle with a fresh object: its registration answers false. -/
theorem registerTopic_second_cycle :
    ∃ middle after next,
      registerTopic (reference false) started.toHost "a" (some ⟨1, "T"⟩) () = .ok (true, middle) ∧
      "a" ∈ middle.self.mapTopics ∧
      unregisterTopic (reference false) middle "a" = .ok (true, after) ∧
      ¬ SameTables (reference false) ⟨1⟩ started.toHost after ∧
      registerTopic (reference false) after "a" (some ⟨2, "T"⟩) () = .ok (false, next) ∧
      "a" ∉ next.self.mapTopics := by
  refine ⟨_, _, _, rfl, by decide, rfl, ?_, rfl, by decide⟩
  intro same
  have recorded := congrFun same.types "T"
  exact absurd recorded (by decide)

/-! ## Several topics of one type -/

/-- A caller registers topics one after another. -/
def registerAll (api : Middleware σ Qos Message) (topicQos : Qos) :
    Host σ → List (String × TopicDataType) → Except Fault (List Bool × Host σ)
  | host, [] => .ok ([], host)
  | host, (topicName, object) :: requests => do
    let (value, host) ← registerTopic api host topicName (some object) topicQos
    let (values, host) ← registerAll api topicQos host requests
    .ok (value :: values, host)

/-- All registrations answer true, all names are in the map, and the type table holds an object that
nobody has deleted. -/
def Carried (api : Middleware σ Qos Message) (participant : DomainParticipant) (typeName : String)
    (topicQos : Qos) (host : Host σ) (requests : List (String × TopicDataType)) : Prop :=
  ∃ values next, registerAll api topicQos host requests = .ok (values, next) ∧
    (∀ value ∈ values, value = true) ∧
    (∀ request ∈ requests, request.1 ∈ next.self.mapTopics) ∧
    (requests ≠ [] → (api.holdings next.middleware).types participant typeName ≠ none) ∧
    ∀ object, (api.holdings next.middleware).types participant typeName = some object →
      object ∉ next.destroyed

/-- In a settled process, a free name with a new type is registered. -/
theorem registerTopic_new (contract : Contract api) (accepts : AcceptsNewTypes api)
    {topicQos : Qos} (grants : GrantsTopics api topicQos) {world : World σ}
    (coupled : Coupled api participant world) (rooted : Rooted api participant world)
    {topicName : String} {object : TopicDataType} (unknown : topicName ∉ world.self.mapTopics)
    (intact : object ∉ world.destroyed)
    (new : (api.holdings world.middleware).types participant object.name = none) :
    ∃ next, registerTopic api world.toHost topicName (some object) topicQos = .ok (true, next) ∧
      topicName ∈ next.self.mapTopics := by
  have live := rooted.live
  obtain ⟨value, next, returned⟩ := registerTopic_returns topicName (some object) topicQos
    live (fun other given => Option.some.inj given ▸ intact)
  have accepted := accepts world.middleware participant object rooted.alive new
  cases registerTopic_ok.mp returned with
  | alreadyRegistered _ known _ => exact absurd known unknown
  | typeRefused _ source errcode kept middleware _ sourced _ answered =>
    obtain rfl := Except.ok.inj (sourced.symm.trans live)
    rw [answered] at accepted
    cases accepted
  | topicRefused _ source kept registered middleware _ sourced _ answered created =>
    obtain rfl := Except.ok.inj (sourced.symm.trans live)
    have promised := contract.registerType world.middleware source object
    simp only [answered] at promised
    rcases promised with ⟨_, _, held⟩ | ⟨own, _⟩
    · have present : source ∈ (api.holdings registered).participants := by
        rw [held]
        exact rooted.alive
      have untaken : ∀ topic ∈ (api.holdings registered).topics,
          topic.participant = source → topic.name ≠ topicName := by
        rw [held]
        exact coupled.untaken unknown
      have recorded : (api.holdings registered).types source object.name ≠ none := by
        rw [held]
        simp
      have granted := grants registered source topicName object.name present untaken recorded
      rw [created] at granted
      exact absurd rfl granted
    · cases new.symm.trans own
  | topicCreated _ source kept registered middleware topic _ sourced _ answered created =>
    refine ⟨_, returned, ?_⟩
    rw [Host.leaveScope_self, Host.insertTopic_self]
    exact Finmap.mem_insert.mpr (.inl rfl)

/-- A recorded type stays recorded. -/
theorem registerTopic_keeps_type (contract : Contract api) {host next : Host σ}
    {topicName : String} {dataType : Option TopicDataType} {topicQos : Qos} {value : Bool}
    (returned : registerTopic api host topicName dataType topicQos = .ok (value, next))
    {typeName : String} {object : TopicDataType}
    (recorded : (api.holdings host.middleware).types participant typeName = some object) :
    (api.holdings next.middleware).types participant typeName = some object := by
  cases (registerTopic_ok.mp returned).fate contract with
  | nothing types destroyed =>
    rw [types]
    exact recorded
  | recorded other source new types destroyed =>
    rw [types, Holdings.addType_types]
    split
    · rename_i here
      obtain ⟨rfl, rfl⟩ := here
      cases recorded.symm.trans new
    · exact recorded
  | dropped other types destroyed =>
    rw [types]
    exact recorded

/-- A deleted object stays deleted. -/
theorem registerTopic_keeps_destroyed (contract : Contract api) {host next : Host σ}
    {topicName : String} {dataType : Option TopicDataType} {topicQos : Qos} {value : Bool}
    (returned : registerTopic api host topicName dataType topicQos = .ok (value, next))
    {object : TopicDataType} (gone : object ∈ host.destroyed) : object ∈ next.destroyed := by
  cases (registerTopic_ok.mp returned).fate contract with
  | nothing types destroyed =>
    rw [destroyed]
    exact gone
  | recorded other source new types destroyed =>
    rw [destroyed]
    exact gone
  | dropped other types destroyed =>
    rw [destroyed]
    exact List.mem_append_left _ gone

/-- Registering a second free name under a recorded type name succeeds only with the recorded
object, which is deleted then although the type table still holds it. -/
theorem registerTopic_again (contract : Contract api) {host next : Host σ} {topicName : String}
    {held object : TopicDataType} {topicQos : Qos}
    (live : host.derefParticipant api = .ok participant)
    (unknown : topicName ∉ host.self.mapTopics)
    (recorded : (api.holdings host.middleware).types participant object.name = some held)
    (returned : registerTopic api host topicName (some object) topicQos = .ok (true, next)) :
    object = held ∧ held ∈ next.destroyed := by
  have own : ∀ {source : DomainParticipant} {kept : Bool} {registered : σ},
      host.derefParticipant api = .ok source →
      api.registerType host.middleware source object = ((.ok, kept), registered) →
      object = held ∧ kept = false := by
    intro source kept registered sourced answered
    obtain rfl := Except.ok.inj (sourced.symm.trans live)
    have promised := contract.registerType host.middleware source object
    simp only [answered, recorded] at promised
    rcases promised with ⟨free, _⟩ | ⟨same, dropped, _⟩
    · cases free
    · exact ⟨(Option.some.inj same).symm, dropped⟩
  cases registerTopic_ok.mp returned with
  | alreadyRegistered _ known intact => exact absurd known unknown
  | topicRefused _ source kept registered middleware _ sourced _ answered created =>
    obtain ⟨rfl, rfl⟩ := own sourced answered
    rw [Host.leaveScope_dropped]
    exact ⟨rfl, List.mem_append_right _ (List.mem_singleton_self object)⟩
  | topicCreated _ source kept registered middleware topic _ sourced _ answered created =>
    obtain ⟨rfl, rfl⟩ := own sourced answered
    rw [Host.leaveScope_dropped]
    exact ⟨rfl, List.mem_append_right _ (List.mem_singleton_self object)⟩

/-- Over any further registrations a recorded type stays recorded and a deleted object deleted. -/
theorem registerAll_keeps (contract : Contract api) {topicQos : Qos} {host next : Host σ}
    {requests : List (String × TopicDataType)} {values : List Bool}
    (returned : registerAll api topicQos host requests = .ok (values, next))
    {typeName : String} {object : TopicDataType}
    (recorded : (api.holdings host.middleware).types participant typeName = some object)
    (gone : object ∈ host.destroyed) :
    (api.holdings next.middleware).types participant typeName = some object ∧
      object ∈ next.destroyed := by
  induction requests generalizing host values with
  | nil =>
    simp only [registerAll, Except.ok.injEq, Prod.mk.injEq] at returned
    obtain ⟨_, rfl⟩ := returned
    exact ⟨recorded, gone⟩
  | cons request requests ih =>
    obtain ⟨topicName, other⟩ := request
    simp only [registerAll, bind_ok, Except.ok.injEq, Prod.mk.injEq] at returned
    obtain ⟨⟨value, middle⟩, first, ⟨later, last⟩, rest, _, rfl⟩ := returned
    exact ih rest (registerTopic_keeps_type contract first recorded)
      (registerTopic_keeps_destroyed contract first gone)

/-- One topic of a new type name is carried. -/
theorem carried_one (contract : Contract api) (accepts : AcceptsNewTypes api) {topicQos : Qos}
    (grants : GrantsTopics api topicQos) {world : World σ}
    (coupled : Coupled api participant world) (rooted : Rooted api participant world)
    {topicName : String} {object : TopicDataType} (unknown : topicName ∉ world.self.mapTopics)
    (intact : object ∉ world.destroyed)
    (new : (api.holdings world.middleware).types participant object.name = none) :
    Carried api participant object.name topicQos world.toHost [(topicName, object)] := by
  obtain ⟨next, returned, added⟩ :=
    registerTopic_new contract accepts grants coupled rooted unknown intact new
  obtain ⟨topic, _, _, self, held, same⟩ :=
    registerTopic_added contract rooted.live unknown new returned added
  have recorded : (api.holdings next.middleware).types participant object.name = some object := by
    rw [held]
    simp
  refine ⟨[true], next, ?_, ?_, ?_, ?_, ?_⟩
  · simp only [registerAll, returned, bind, Except.bind]
  · intro value member
    exact List.mem_singleton.mp member
  · intro request member
    rw [List.mem_singleton.mp member]
    exact added
  · intro _
    rw [recorded]
    exact Option.some_ne_none object
  · intro other found
    obtain rfl := Option.some.inj (recorded.symm.trans found)
    rw [same]
    exact intact

/-- Two topics of a new type name are not carried, whatever follows: different objects get the
second one refused, and one object is deleted under the type table. -/
theorem not_carried_two (contract : Contract api) (accepts : AcceptsNewTypes api) {topicQos : Qos}
    (grants : GrantsTopics api topicQos) {world : World σ}
    (coupled : Coupled api participant world) (rooted : Rooted api participant world)
    {firstName secondName : String} {first second : TopicDataType}
    (requests : List (String × TopicDataType)) (apart : firstName ≠ secondName)
    (firstUnknown : firstName ∉ world.self.mapTopics)
    (secondUnknown : secondName ∉ world.self.mapTopics) (same : second.name = first.name)
    (intact : first ∉ world.destroyed)
    (new : (api.holdings world.middleware).types participant first.name = none) :
    ¬ Carried api participant first.name topicQos world.toHost
      ((firstName, first) :: (secondName, second) :: requests) := by
  intro carried
  obtain ⟨values, last, returned, all_true, _, _, alive⟩ := carried
  obtain ⟨middle, one, added⟩ :=
    registerTopic_new contract accepts grants coupled rooted firstUnknown intact new
  obtain ⟨topic, _, _, self, held, _⟩ :=
    registerTopic_added contract rooted.live firstUnknown new one added
  simp only [registerAll, one, bind_ok, Except.ok.injEq, Prod.mk.injEq] at returned
  obtain ⟨_, ⟨rfl, rfl⟩, ⟨_, _⟩, ⟨⟨value, next⟩, two, ⟨later, _⟩, rest, rfl, rfl⟩, rfl, rfl⟩ :=
    returned
  obtain rfl : value = true := all_true value (by simp)
  have recorded : (api.holdings middle.middleware).types participant second.name = some first := by
    rw [held, same]
    simp
  have live : middle.derefParticipant api = .ok participant := by
    rw [derefParticipant_ok, self, held]
    exact ⟨rooted.owner, rooted.alive⟩
  have absent : secondName ∉ middle.self.mapTopics := by
    rw [self, Finmap.mem_insert, not_or]
    exact ⟨apart.symm, secondUnknown⟩
  obtain ⟨_, gone⟩ := registerTopic_again contract live absent recorded two
  have still := registerTopic_keeps_type contract two recorded
  obtain ⟨table, dead⟩ := registerAll_keeps contract rest still gone
  rw [same] at table
  exact alive first table dead

/-- In every reachable state, topics registered with data types of one new name are all carried
exactly when there is at most one. -/
theorem registerAll_carried (contract : Contract api) (accepts : AcceptsNewTypes api)
    (topicQos : Qos) (grants : GrantsTopics api topicQos) (middleware : σ) (domainId : Int)
    (participantQos : Qos) (participant : DomainParticipant)
    (created : (World.construct api middleware domainId participantQos).self.participant =
      some participant)
    (world : World σ)
    (reached : Reachable (World.step api) (World.construct api middleware domainId participantQos)
      world)
    (typeName : String)
    (new : (api.holdings world.middleware).types participant typeName = none)
    (requests : List (String × TopicDataType))
    (distinct : (requests.map Prod.fst).Nodup)
    (unknown : ∀ request ∈ requests, request.1 ∉ world.self.mapTopics)
    (named : ∀ request ∈ requests, request.2.name = typeName)
    (intact : ∀ request ∈ requests, request.2 ∉ world.destroyed) :
    Carried api participant typeName topicQos world.toHost requests ↔ requests.length ≤ 1 := by
  obtain ⟨consistent, rooted⟩ := reachable_settled contract created reached
  rcases requests with _ | ⟨⟨firstName, first⟩, _ | ⟨⟨secondName, second⟩, requests⟩⟩
  · refine iff_of_true ⟨[], world.toHost, rfl, ?_, ?_, ?_, ?_⟩ (by decide)
    · intro value member
      cases member
    · intro request member
      cases member
    · intro nonempty
      exact absurd rfl nonempty
    · intro object recorded
      cases new.symm.trans recorded
  · obtain rfl := named _ (List.mem_singleton_self _)
    have carried := carried_one contract accepts grants consistent.coupled rooted
      (unknown _ (List.mem_singleton_self _)) (intact _ (List.mem_singleton_self _)) new
    exact iff_of_true carried (by simp)
  · have head : (firstName, first) ∈ (firstName, first) :: (secondName, second) :: requests := by
      simp
    have next : (secondName, second) ∈ (firstName, first) :: (secondName, second) :: requests := by
      simp
    obtain rfl := named _ head
    have apart : firstName ≠ secondName := by
      intro same
      simp [same] at distinct
    have failed := not_carried_two contract accepts grants consistent.coupled rooted requests apart
      (unknown _ head) (unknown _ next) (named _ next) (intact _ head) new
    exact iff_of_false failed (by simp)

/-- One topic of a new type name on a fresh process. -/
theorem registerAll_carried_single :
    Carried (reference false) ⟨1⟩ "T" () started.toHost [("a", ⟨1, "T"⟩)] := by
  have exactly := registerAll_carried (reference_contract false) (reference_acceptsNewTypes false)
    () reference_grantsTopics (Reference.fresh []) 0 () ⟨1⟩ (by decide) started
    (Machine.reachable_start _) "T" (by decide) [("a", ⟨1, "T"⟩)] (by decide) (by decide)
    (by decide) (by decide)
  exact exactly.mpr (by decide)

/-- Two topics of one type name: a fresh object for each, or one object for both. -/
theorem registerAll_two_topics :
    ¬ Carried (reference false) ⟨1⟩ "T" () started.toHost [("a", ⟨1, "T"⟩), ("b", ⟨2, "T"⟩)] ∧
      ¬ Carried (reference false) ⟨1⟩ "T" () started.toHost
        [("a", ⟨1, "T"⟩), ("b", ⟨1, "T"⟩)] := by
  have owner : started.self.participant = some ⟨1⟩ := by decide
  obtain ⟨consistent, rooted⟩ := reachable_settled (reference_contract false) owner
    (Machine.reachable_start started)
  have intact : (⟨1, "T"⟩ : TopicDataType) ∉ started.destroyed := by decide
  have failed : ∀ second : TopicDataType, second.name = "T" →
      ¬ Carried (reference false) ⟨1⟩ "T" () started.toHost [("a", ⟨1, "T"⟩), ("b", second)] := by
    intro second same
    exact not_carried_two (reference_contract false) (reference_acceptsNewTypes false)
      reference_grantsTopics consistent.coupled rooted [] (by decide) (by decide) (by decide) same
      intact (by decide)
  exact ⟨failed ⟨2, "T"⟩ rfl, failed ⟨1, "T"⟩ rfl⟩

end FastDdsWrapper
