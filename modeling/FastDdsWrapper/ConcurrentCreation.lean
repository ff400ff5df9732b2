import FastDdsWrapper.ManagerCalls

/-!
# Creating endpoints from many threads

A creating call of the manager is three steps: it asks for a data type object, registers the topic
under `m_topicLock`, and asks the participant object for the endpoint under `m_topicLock` again.
Other calls' steps fall in between. What a registration answers depends only on which topic names
are taken, with which type names, and which type names are recorded: on a `Registry`. Its state
after a run is that of the registrations alone, in their order, so the run agrees with the one that
makes the whole calls one after another in that order.
-/

namespace FastDdsWrapper

open Machine (run attempts bind_ok)

/-! ## The registry -/

/-- Names with their kinds, and the kinds already claimed. -/
structure Registry (Name Kind : Type*) where
  /-- The kind a name is registered with. -/
  entry : Name → Option Kind
  /-- Whether a kind is claimed. -/
  claimed : Kind → Bool

namespace Registry

variable {Name Kind : Type*} [DecidableEq Name] [DecidableEq Kind]

/-- A request names a kind or none. It succeeds for a known name, and for a new name with an
unclaimed kind, which it claims. -/
def register (registry : Registry Name Kind) (name : Name) : Option Kind →
    Bool × Registry Name Kind
  | none => (false, registry)
  | some kind =>
    if (registry.entry name).isSome then (true, registry)
    else if registry.claimed kind then (false, registry)
    else (true, ⟨Function.update registry.entry name (some kind),
      Function.update registry.claimed kind true⟩)

/-- After a success the name is known. -/
theorem register_known {registry : Registry Name Kind} {name : Name} {kind : Option Kind}
    (granted : (registry.register name kind).1 = true) :
    ((registry.register name kind).2.entry name).isSome = true := by
  cases kind with
  | none => cases granted
  | some kind =>
    by_cases known : (registry.entry name).isSome = true
    · simp only [register, known, ↓reduceIte]
    · by_cases claimed : registry.claimed kind = true
      · simp [register, known, claimed] at granted
      · simp [register, known, claimed]

/-- A known name stays known with its kind. -/
theorem register_keeps {registry : Registry Name Kind} (name : Name) (kind : Option Kind)
    {other : Name} {old : Kind} (known : registry.entry other = some old) :
    (registry.register name kind).2.entry other = some old := by
  cases kind with
  | none => exact known
  | some kind =>
    by_cases present : (registry.entry name).isSome = true
    · simp only [register, present, ↓reduceIte, known]
    · by_cases claimed : registry.claimed kind = true
      · simp [register, present, claimed, known]
      · have apart : other ≠ name := by
          intro same
          rw [← same, known] at present
          exact present rfl
        simp [register, present, claimed, known, Function.update_of_ne apart]

end Registry

variable {σ Qos Message : Type} {api : Middleware σ Qos Message}
variable {participant : DomainParticipant}

/-- The registry a process shows: the topics of its map with their type names, and the type names
recorded for its participant. -/
def registryOf (api : Middleware σ Qos Message) (participant : DomainParticipant)
    (world : World σ) : Registry String String where
  entry name := ((world.self.mapTopics.lookup name).join).map Topic.typeName
  claimed typeName := ((api.holdings world.middleware).types participant typeName).isSome

/-- In a coupled process exactly the names in the map are known. -/
theorem registryOf_known {world : World σ} (coupled : Coupled api participant world)
    {name : String} :
    ((registryOf api participant world).entry name).isSome = true ↔
      name ∈ world.self.mapTopics := by
  cases found : world.self.mapTopics.lookup name with
  | none => simp [registryOf, found, Finmap.lookup_eq_none.mp found]
  | some pointed =>
    cases pointed with
    | none => exact absurd rfl (coupled.pointed name none found)
    | some topic => simp [registryOf, found, mem_of_lookup found]

/-- The object is neither deleted nor in the participant's type table. -/
def Unused (api : Middleware σ Qos Message) (participant : DomainParticipant) (host : Host σ)
    (object : TopicDataType) : Prop :=
  object ∉ host.destroyed ∧
    ∀ typeName, (api.holdings host.middleware).types participant typeName ≠ some object

/-- A registration with an unused object does to the process what the request does to its
registry, and gives its answer. -/
theorem registerTopic_registry (contract : Contract api) (accepts : AcceptsNewTypes api)
    {topicQos : Qos} (grants : GrantsTopics api topicQos) {world : World σ}
    (coupled : Coupled api participant world) (rooted : Rooted api participant world)
    (topicName : String) {dataType : Option TopicDataType}
    (unused : ∀ object, dataType = some object → Unused api participant world.toHost object) :
    ∃ value host, registerTopic api world.toHost topicName dataType topicQos = .ok (value, host) ∧
      (registryOf api participant world).register topicName (dataType.map TopicDataType.name) =
        (value, registryOf api participant { world with toHost := host }) := by
  cases dataType with
  | none => exact ⟨false, world.toHost, rfl, rfl⟩
  | some object =>
    obtain ⟨intact, unrecorded⟩ := unused object rfl
    by_cases known : topicName ∈ world.self.mapTopics
    · have present := (registryOf_known coupled).mpr known
      refine ⟨true, _, registerTopic_ok.mpr (.alreadyRegistered object known intact), ?_⟩
      simp only [Option.map_some, Registry.register, present, ↓reduceIte]
      simp only [registryOf, Host.leaveScope_self, Host.leaveScope_middleware]
    have absent : ((registryOf api participant world).entry topicName).isSome = false := by
      rw [Bool.eq_false_iff, ne_eq, registryOf_known coupled]
      exact known
    cases recorded : (api.holdings world.middleware).types participant object.name with
    | some other =>
      have apart : object ≠ other := by
        intro same
        exact unrecorded object.name (same ▸ recorded)
      obtain ⟨next, returned, same⟩ :=
        registerTopic_taken contract topicQos rooted.live known intact recorded apart
      refine ⟨false, next, returned, ?_⟩
      have claimed : (registryOf api participant world).claimed object.name = true := by
        simp only [registryOf, recorded, Option.isSome_some]
      simp only [Option.map_some, Registry.register, absent, claimed, ↓reduceIte,
        Bool.false_eq_true]
      simp only [registryOf, same.map, same.types]
    | none =>
      obtain ⟨next, returned, added⟩ :=
        registerTopic_new contract accepts grants coupled rooted known intact recorded
      obtain ⟨topic, typed, _, self, held, _⟩ :=
        registerTopic_added contract rooted.live known recorded returned added
      refine ⟨true, next, returned, ?_⟩
      have unclaimed : (registryOf api participant world).claimed object.name = false := by
        simp only [registryOf, recorded, Option.isSome_none]
      simp only [Option.map_some, Registry.register, absent, unclaimed, ↓reduceIte,
        Bool.false_eq_true, Prod.mk.injEq, true_and]
      simp only [registryOf, self, held, Registry.mk.injEq]
      constructor
      · funext name
        by_cases here : name = topicName
        · rw [here, Function.update_self, Finmap.lookup_insert]
          simp [typed]
        · rw [Function.update_of_ne here, Finmap.lookup_insert_of_ne _ here]
      · funext typeName
        by_cases here : typeName = object.name
        · rw [here, Function.update_self]
          simp
        · rw [Function.update_of_ne here]
          simp [here]

/-- A registration leaves every unused object but its own unused. -/
theorem Unused.kept (contract : Contract api) {host next : Host σ} {topicName : String}
    {topicQos : Qos} {dataType : Option TopicDataType} {value : Bool} {object : TopicDataType}
    (unused : Unused api participant host object)
    (outcome : RegisterOutcome api host topicName topicQos dataType value next)
    (different : dataType ≠ some object) : Unused api participant next object := by
  obtain ⟨intact, unrecorded⟩ := unused
  cases outcome.fate contract with
  | nothing types destroyed =>
    rw [Unused, types, destroyed]
    exact ⟨intact, unrecorded⟩
  | recorded other source new types destroyed =>
    rw [Unused, types, destroyed]
    refine ⟨intact, fun typeName found => ?_⟩
    rw [Holdings.addType_types] at found
    split at found
    · exact different found
    · exact unrecorded typeName found
  | dropped other types destroyed =>
    rw [Unused, types, destroyed, List.mem_append, List.mem_singleton, not_or]
    exact ⟨⟨intact, fun same => different (congrArg some same.symm)⟩, unrecorded⟩

/-! ## The steps of a call -/

/-- How far a call has come. -/
inductive Progress
  /-- Nothing done. -/
  | called
  /-- `getTopicDataType` returned. -/
  | typed (dataType : Option TopicDataType)
  /-- `registerTopic` returned true. -/
  | registered
  /-- The call returned. -/
  | returned (endpoint : Option Endpoint)
deriving DecidableEq

/-- The endpoint in an answer. -/
def Answer.endpoint? : Answer → Option Endpoint
  | .endpoint result => result
  | _ => Option.none

/-- A process on which calls of the manager are under way. -/
structure Calls (σ ι : Type) extends World σ where
  /-- Identity of the next data type object. -/
  nextDataType : Nat
  /-- How far each call has come. -/
  progress : ι → Progress
  /-- The calls in the order of their registrations. -/
  order : List ι

variable {ι : Type} [DecidableEq ι]

namespace Calls

/-- The manager right after `initDomainParticipant`, with every call still to come. -/
def start (api : Middleware σ Qos Message) (manager : DDSParticipantManager Qos) (middleware : σ)
    (participantName : String) (listenPort : UInt16) (peerLocators : List String)
    (nextDataType : Nat) : Calls σ ι :=
  { World.construct api middleware manager.domainId
      (manager.createParticipantQos participantName listenPort peerLocators) with
    nextDataType
    progress := fun _ => .called
    order := [] }

/-- The next step of one call. -/
def step (api : Middleware σ Qos Message) (manager : DDSParticipantManager Qos)
    (request : ι → Request) : Machine.Step (Calls σ ι) ι Unit Fault := fun calls call =>
  match calls.progress call with
  | .called =>
    let dataType := manager.getTopicDataType (request call).topicName calls.nextDataType
    .ok ((), { calls with
      nextDataType := calls.nextDataType + 1
      progress := Function.update calls.progress call (.typed dataType) })
  | .typed dataType => do
    let (answer, world) ← World.step api calls.toWorld
      (.registerTopic (request call).topicName dataType api.topicQosDefault)
    let progress := if answer = .flag true then .registered else .returned none
    .ok ((), { calls with
      toWorld := world
      progress := Function.update calls.progress call progress
      order := calls.order ++ [call] })
  | .registered => do
    let (answer, world) ← World.step api calls.toWorld ((request call).creation api)
    .ok ((), { calls with
      toWorld := world
      progress := Function.update calls.progress call (.returned answer.endpoint?) })
  | .returned _ => .ok ((), calls)

end Calls

/-- What holds between the steps of the calls. -/
structure Orderly (api : Middleware σ Qos Message) (request : ι → Request)
    (typeNames : String → Option String) (participant : DomainParticipant) (calls : Calls σ ι) :
    Prop where
  /-- The stores are in step. -/
  consistent : Consistent api participant calls.toWorld
  /-- The participant is alive with its groups. -/
  rooted : Rooted api participant calls.toWorld
  /-- There are a publisher and a subscriber. -/
  groups : ∃ publisher subscriber, calls.self.publisher = .address publisher ∧
    calls.self.subscriber = .address subscriber
  /-- A data type object has the type name of its call's topic. -/
  typed : ∀ call dataType, calls.progress call = .typed dataType →
    dataType.map TopicDataType.name = typeNames (request call).topicName
  /-- A data type object on its way is unused. -/
  unused : ∀ call object, calls.progress call = .typed (some object) →
    Unused api participant calls.toHost object ∧ object.id < calls.nextDataType
  /-- No two calls carry one object. -/
  apart : ∀ first second object, calls.progress first = .typed (some object) →
    calls.progress second = .typed (some object) → first = second
  /-- Objects still to be made are unused. -/
  fresh : ∀ object, calls.nextDataType ≤ object.id →
    Unused api participant calls.toHost object
  /-- The topic of a granted registration is in the map. -/
  registered : ∀ call, calls.progress call = .registered →
    (request call).topicName ∈ calls.self.mapTopics
  /-- A returned endpoint object exists and carries the name asked for. -/
  returned : ∀ call endpoint, calls.progress call = .returned (some endpoint) →
    endpoint ∈ calls.endpoints ∧ endpoint.topicName = (request call).topicName

variable {request : ι → Request} {typeNames : String → Option String}
variable {manager : DDSParticipantManager Qos}

/-- The registry of a process with calls under way. -/
def Calls.registry (api : Middleware σ Qos Message) (participant : DomainParticipant)
    (calls : Calls σ ι) : Registry String String :=
  registryOf api participant calls.toWorld

/-- What a call's registration would answer, and the registry it would leave. -/
def Calls.grant (api : Middleware σ Qos Message) (participant : DomainParticipant)
    (request : ι → Request) (typeNames : String → Option String) (calls : Calls σ ι) (call : ι) :
    Bool × Registry String String :=
  (calls.registry api participant).register (request call).topicName
    (typeNames (request call).topicName)

/-- After one call moved on, a call's progress is the new one or its own old one. -/
theorem progress_cases {progress : ι → Progress} {call other : ι} {moved found : Progress}
    (at_other : Function.update progress call moved other = found) :
    (other = call ∧ moved = found) ∨ (other ≠ call ∧ progress other = found) := by
  by_cases same : other = call
  · rw [same, Function.update_self] at at_other
    exact .inl ⟨same, at_other⟩
  · rw [Function.update_of_ne same] at at_other
    exact .inr ⟨same, at_other⟩

/-- The first step of a call gives it a new data type object. -/
theorem called_step (makes : ∀ topicName fresh, manager.getTopicDataType topicName fresh =
      (typeNames topicName).map fun typeName => ⟨fresh, typeName⟩)
    {calls : Calls σ ι} (orderly : Orderly api request typeNames participant calls) {call : ι}
    (here : calls.progress call = .called) :
    ∃ dataType next, Calls.step api manager request calls call = .ok ((), next) ∧
      Orderly api request typeNames participant next ∧ next.toWorld = calls.toWorld ∧
      next.order = calls.order ∧
      next.progress = Function.update calls.progress call (.typed dataType) := by
  have made := makes (request call).topicName calls.nextDataType
  have new : ∀ object, manager.getTopicDataType (request call).topicName calls.nextDataType =
      some object → object.id = calls.nextDataType := by
    intro object given
    rw [made, Option.map_eq_some_iff] at given
    obtain ⟨typeName, _, rfl⟩ := given
    rfl
  have stepped : Calls.step api manager request calls call = .ok ((), { calls with
      nextDataType := calls.nextDataType + 1
      progress := Function.update calls.progress call (.typed
        (manager.getTopicDataType (request call).topicName calls.nextDataType)) }) := by
    simp only [Calls.step, here]
  refine ⟨_, _, stepped, ?_, rfl, rfl, rfl⟩
  refine ⟨orderly.consistent, orderly.rooted, orderly.groups, ?_, ?_, ?_, ?_, ?_, ?_⟩
  · intro other dataType at_other
    rcases progress_cases at_other with ⟨rfl, same⟩ | ⟨_, old⟩
    · rw [← Progress.typed.inj same, made, Option.map_map]
      cases typeNames (request other).topicName <;> rfl
    · exact orderly.typed other dataType old
  · intro other object at_other
    rcases progress_cases at_other with ⟨rfl, same⟩ | ⟨_, old⟩
    · have young := new object (Progress.typed.inj same)
      exact ⟨orderly.fresh object (Nat.le_of_eq young.symm), Nat.lt_succ_of_le (Nat.le_of_eq young)⟩
    · obtain ⟨unused, bound⟩ := orderly.unused other object old
      exact ⟨unused, Nat.lt_succ_of_lt bound⟩
  · intro first second object at_first at_second
    rcases progress_cases at_first with ⟨rfl, one⟩ | ⟨_, one⟩
    · have young := new object (Progress.typed.inj one)
      rcases progress_cases at_second with ⟨rfl, two⟩ | ⟨_, two⟩
      · rfl
      · have bound := (orderly.unused second object two).2
        omega
    · have bound := (orderly.unused first object one).2
      rcases progress_cases at_second with ⟨rfl, two⟩ | ⟨_, two⟩
      · have young := new object (Progress.typed.inj two)
        omega
      · exact orderly.apart first second object one two
  · intro object old
    exact orderly.fresh object (Nat.le_of_succ_le old)
  · intro other at_other
    rcases progress_cases at_other with ⟨_, same⟩ | ⟨_, old⟩
    · cases same
    · exact orderly.registered other old
  · intro other endpoint at_other
    rcases progress_cases at_other with ⟨_, same⟩ | ⟨_, old⟩
    · cases same
    · exact orderly.returned other endpoint old

/-- The second step of a call registers its topic as the registry grants it. -/
theorem typed_step (contract : Contract api) (accepts : AcceptsNewTypes api)
    (grants : GrantsTopics api api.topicQosDefault) {calls : Calls σ ι}
    (orderly : Orderly api request typeNames participant calls) {call : ι}
    {dataType : Option TopicDataType} (here : calls.progress call = .typed dataType) :
    ∃ next, Calls.step api manager request calls call = .ok ((), next) ∧
      Orderly api request typeNames participant next ∧ next.order = calls.order ++ [call] ∧
      next.progress = Function.update calls.progress call
        (if (calls.grant api participant request typeNames call).1 then .registered
          else .returned none) ∧
      next.registry api participant = (calls.grant api participant request typeNames call).2 ∧
      (api.holdings calls.middleware).topics ⊆ (api.holdings next.middleware).topics := by
  have unused : ∀ object, dataType = some object →
      Unused api participant calls.toHost object := by
    intro object given
    exact (orderly.unused call object (given ▸ here)).1
  obtain ⟨value, host, returned, granted⟩ := registerTopic_registry contract accepts grants
    orderly.consistent.coupled orderly.rooted (request call).topicName unused
  rw [orderly.typed call dataType here] at granted
  have outcome := registerTopic_ok.mp returned
  have world_step : World.step api calls.toWorld
      (.registerTopic (request call).topicName dataType api.topicQosDefault) =
        .ok (.flag value, { calls.toWorld with toHost := host }) :=
    registerTopic_step.mpr ⟨value, host, outcome, rfl, rfl⟩
  have stepped : Calls.step api manager request calls call = .ok ((), { calls with
      toWorld := { calls.toWorld with toHost := host }
      progress := Function.update calls.progress call
        (if value then .registered else .returned none)
      order := calls.order ++ [call] }) := by
    simp only [Calls.step, here, world_step, bind, Except.bind, Answer.flag.injEq]
  have grant : calls.grant api participant request typeNames call =
      (value, registryOf api participant { calls.toWorld with toHost := host }) := granted
  have settled := step_settled contract calls.toWorld _ _ _
    ⟨orderly.consistent, orderly.rooted⟩ world_step
  obtain ⟨consistent, rooted⟩ := settled
  obtain ⟨self, _⟩ := (step_effect contract orderly.rooted.owner world_step).frame
  have kept : ∀ name, name ∈ calls.self.mapTopics → name ∈ host.self.mapTopics := by
    intro name known
    rw [← registryOf_known orderly.consistent.coupled, Option.isSome_iff_exists] at known
    obtain ⟨old, known⟩ := known
    have later := Registry.register_keeps (request call).topicName
      (typeNames (request call).topicName) known
    rw [granted] at later
    have present : ((registryOf api participant { calls.toWorld with toHost := host }).entry
        name).isSome = true := Option.isSome_iff_exists.mpr ⟨old, later⟩
    exact (registryOf_known consistent.coupled).mp present
  have settled_call : ∀ other dataType, Function.update calls.progress call
      (if value then .registered else .returned none) other = .typed dataType →
        other ≠ call ∧ calls.progress other = .typed dataType := by
    intro other dataType at_other
    rcases progress_cases at_other with ⟨_, same⟩ | old
    · cases value <;> cases same
    · exact old
  refine ⟨_, stepped, ⟨consistent, rooted, ?_, ?_, ?_, ?_, ?_, ?_, ?_⟩, rfl, ?_, ?_,
    (outcome.frame contract).2.2⟩
  · rw [self]
    exact orderly.groups
  · intro other dataType at_other
    exact orderly.typed other dataType (settled_call other dataType at_other).2
  · intro other object at_other
    obtain ⟨different, old⟩ := settled_call other (some object) at_other
    obtain ⟨unused, bound⟩ := orderly.unused other object old
    refine ⟨unused.kept contract outcome fun given => different ?_, bound⟩
    exact orderly.apart other call object old (given ▸ here)
  · intro first second object at_first at_second
    exact orderly.apart first second object (settled_call first (some object) at_first).2
      (settled_call second (some object) at_second).2
  · intro object old
    refine (orderly.fresh object old).kept contract outcome fun given => ?_
    have young := (orderly.unused call object (given ▸ here)).2
    exact absurd old (Nat.not_le_of_lt young)
  · intro other at_other
    rcases progress_cases at_other with ⟨rfl, same⟩ | ⟨_, old⟩
    · cases value with
      | false => cases same
      | true =>
        have known := Registry.register_known (congrArg Prod.fst granted)
        rw [granted] at known
        exact (registryOf_known consistent.coupled).mp known
    · exact kept _ (orderly.registered other old)
  · intro other endpoint at_other
    rcases progress_cases at_other with ⟨_, same⟩ | ⟨_, old⟩
    · cases value <;> cases same
    · exact orderly.returned other endpoint old
  · rw [grant]
  · rw [grant]
    rfl

/-- The last call of a request whose topic is in the map returns a new endpoint object and changes
nothing but the endpoints. -/
theorem creation_step (contract : Contract api) {world : World σ}
    (consistent : Consistent api participant world) (rooted : Rooted api participant world)
    (groups : ∃ publisher subscriber, world.self.publisher = .address publisher ∧
      world.self.subscriber = .address subscriber)
    {asked : Request} (known : asked.topicName ∈ world.self.mapTopics) :
    ∃ endpoint next, World.step api world (asked.creation api) =
        .ok (.endpoint (some endpoint), next) ∧
      endpoint.topicName = asked.topicName ∧ next.endpoints = world.endpoints ++ [endpoint] ∧
      next.self = world.self ∧ next.destroyed = world.destroyed ∧
      ∃ endpoints, api.holdings next.middleware =
        { api.holdings world.middleware with endpoints } := by
  obtain ⟨publisher, subscriber, atPublisher, atSubscriber⟩ := groups
  have returns : ∃ endpoint middleware,
      asked.create api world.toHost world.nextObject = .ok (some endpoint, middleware) ∧
        endpoint.topicName = asked.topicName := by
    obtain ⟨kind, topicName⟩ := asked
    cases kind with
    | writer =>
      exact createEndpoint_returns api.createDatawriter .writer consistent rooted atPublisher
        (.inl atPublisher) known api.dataWriterQosDefault world.nextObject
    | reader =>
      exact createEndpoint_returns api.createDatareader .reader consistent rooted atSubscriber
        (.inr atSubscriber) known api.dataReaderQosDefault world.nextObject
  obtain ⟨endpoint, middleware, returned, named⟩ := returns
  have stepped : World.step api world (asked.creation api) =
      .ok (.endpoint (some endpoint), (world.adopt (some endpoint, middleware)).2) :=
    creation_ok.mpr ⟨_, returned, rfl, rfl⟩
  obtain ⟨_, _, held⟩ := creation_frame contract stepped
  exact ⟨endpoint, _, stepped, named, rfl, rfl, rfl, held⟩

/-- The third step of a call returns a new endpoint object and leaves the registry alone. -/
theorem registered_step (contract : Contract api) {calls : Calls σ ι}
    (orderly : Orderly api request typeNames participant calls) {call : ι}
    (here : calls.progress call = .registered) :
    ∃ endpoint next, Calls.step api manager request calls call = .ok ((), next) ∧
      Orderly api request typeNames participant next ∧ next.order = calls.order ∧
      next.progress = Function.update calls.progress call (.returned (some endpoint)) ∧
      next.registry api participant = calls.registry api participant ∧
      (api.holdings next.middleware).topics = (api.holdings calls.middleware).topics := by
  obtain ⟨endpoint, world, created, named, objects, self, destroyed, endpoints, held⟩ :=
    creation_step contract orderly.consistent orderly.rooted orderly.groups
      (orderly.registered call here)
  have stepped : Calls.step api manager request calls call = .ok ((), { calls with
      toWorld := world
      progress := Function.update calls.progress call (.returned (some endpoint)) }) := by
    simp only [Calls.step, here, created, bind, Except.bind, Answer.endpoint?]
  obtain ⟨consistent, rooted⟩ := step_settled contract calls.toWorld _ _ _
    ⟨orderly.consistent, orderly.rooted⟩ created
  have still : ∀ object, Unused api participant calls.toHost object →
      Unused api participant world.toHost object := by
    intro object old
    constructor
    · rw [destroyed]
      exact old.1
    · rw [held]
      exact old.2
  have settled_call : ∀ other dataType, Function.update calls.progress call
      (.returned (some endpoint)) other = .typed dataType →
        calls.progress other = .typed dataType := by
    intro other dataType at_other
    rcases progress_cases at_other with ⟨_, same⟩ | ⟨_, old⟩
    · cases same
    · exact old
  refine ⟨endpoint, _, stepped, ⟨consistent, rooted, ?_, ?_, ?_, ?_, ?_, ?_, ?_⟩, rfl, rfl, ?_, ?_⟩
  · rw [self]
    exact orderly.groups
  · intro other dataType at_other
    exact orderly.typed other dataType (settled_call other dataType at_other)
  · intro other object at_other
    obtain ⟨unused, bound⟩ := orderly.unused other object (settled_call other _ at_other)
    exact ⟨still object unused, bound⟩
  · intro first second object at_first at_second
    exact orderly.apart first second object (settled_call first _ at_first)
      (settled_call second _ at_second)
  · intro object old
    exact still object (orderly.fresh object old)
  · intro other at_other
    rw [self]
    rcases progress_cases at_other with ⟨_, same⟩ | ⟨_, old⟩
    · cases same
    · exact orderly.registered other old
  · intro other found at_other
    rw [objects, List.mem_append, List.mem_singleton]
    rcases progress_cases at_other with ⟨rfl, same⟩ | ⟨_, old⟩
    · obtain rfl := Option.some.inj (Progress.returned.inj same)
      exact ⟨.inr rfl, named⟩
    · obtain ⟨present, carried⟩ := orderly.returned other found old
      exact ⟨.inl present, carried⟩
  · simp only [Calls.registry, registryOf, self, held]
  · simp only [held]

/-! ## One call after another -/

/-- The three steps of one call without a break answer as the registry grants, and leave the
registry it leaves. -/
theorem whole_call (contract : Contract api) (accepts : AcceptsNewTypes api)
    (grants : GrantsTopics api api.topicQosDefault)
    (makes : ∀ topicName fresh, manager.getTopicDataType topicName fresh =
      (typeNames topicName).map fun typeName => ⟨fresh, typeName⟩)
    {calls : Calls σ ι} (orderly : Orderly api request typeNames participant calls) {call : ι}
    (here : calls.progress call = .called) :
    ∃ endpoint next, run (Calls.step api manager request) calls [call, call, call] = .ok next ∧
      Orderly api request typeNames participant next ∧ next.order = calls.order ++ [call] ∧
      next.progress = Function.update calls.progress call (.returned endpoint) ∧
      endpoint.isSome = (calls.grant api participant request typeNames call).1 ∧
      next.registry api participant = (calls.grant api participant request typeNames call).2 := by
  obtain ⟨dataType, asked, first, orderly_asked, world, order_asked, progress_asked⟩ :=
    called_step makes orderly here
  have typed : asked.progress call = .typed dataType := by
    rw [progress_asked, Function.update_self]
  obtain ⟨later, second, orderly_later, order_later, progress_later, registry_later, _⟩ :=
    typed_step contract accepts grants orderly_asked typed
  have same : asked.grant api participant request typeNames call =
      calls.grant api participant request typeNames call := by
    simp only [Calls.grant, Calls.registry, world]
  rw [same] at progress_later registry_later
  rw [progress_asked, Function.update_idem] at progress_later
  rw [order_asked] at order_later
  cases granted : (calls.grant api participant request typeNames call).1 with
  | true =>
    rw [granted, if_pos rfl] at progress_later
    have registered : later.progress call = .registered := by
      rw [progress_later, Function.update_self]
    obtain ⟨endpoint, last, third, orderly_last, order_last, progress_last, registry_last, _⟩ :=
      registered_step contract orderly_later registered
    rw [progress_later, Function.update_idem] at progress_last
    refine ⟨some endpoint, last, ?_, orderly_last, order_last.trans order_later, progress_last, rfl,
      registry_last.trans registry_later⟩
    rw [Machine.run_cons _ first, Machine.run_cons _ second, Machine.run_cons _ third,
      Machine.run_nil]
  | false =>
    rw [granted, if_neg Bool.false_ne_true] at progress_later
    have returned : later.progress call = .returned none := by
      rw [progress_later, Function.update_self]
    have third : Calls.step api manager request later call = .ok ((), later) := by
      simp only [Calls.step, returned]
    refine ⟨none, later, ?_, orderly_later, order_later, progress_later, rfl, registry_later⟩
    rw [Machine.run_cons _ first, Machine.run_cons _ second, Machine.run_cons _ third,
      Machine.run_nil]

/-- The manager that calls are made on. -/
def ManagerWorld.ofCalls (manager : DDSParticipantManager Qos) (calls : Calls σ ι) :
    ManagerWorld σ Qos :=
  ⟨{ manager with participant := some calls.self }, calls.middleware, calls.destroyed,
    calls.endpoints, calls.nextObject, calls.nextDataType⟩

/-- The three steps of one call without a break are the manager's method. -/
theorem whole_call_method {calls next : Calls σ ι} {call : ι}
    (here : calls.progress call = .called)
    (ran : run (Calls.step api manager request) calls [call, call, call] = .ok next) :
    ∃ endpoint, next.progress call = .returned endpoint ∧
      (request call).method api (ManagerWorld.ofCalls manager calls) =
        .ok (endpoint, ManagerWorld.ofCalls manager next) := by
  obtain ⟨_, asked, first, ran⟩ := Machine.run_cons_ok ran
  obtain ⟨_, later, second, ran⟩ := Machine.run_cons_ok ran
  obtain ⟨_, last, third, ran⟩ := Machine.run_cons_ok ran
  obtain rfl := Except.ok.inj ran
  simp only [Calls.step, here, Except.ok.injEq, Prod.mk.injEq] at first
  obtain ⟨_, rfl⟩ := first
  simp only [Calls.step, Function.update_self, bind_ok, Except.ok.injEq, Prod.mk.injEq] at second
  obtain ⟨⟨answer, registered⟩, stepped, _, rfl⟩ := second
  obtain ⟨value, host, _, rfl, _⟩ := registerTopic_step.mp stepped
  have present : (ManagerWorld.ofCalls manager calls).manager.participant = some calls.self := rfl
  cases value with
  | false =>
    simp only [Calls.step, Function.update_self, Answer.flag.injEq, Bool.false_eq_true,
      ↓reduceIte, Except.ok.injEq, Prod.mk.injEq] at third
    obtain ⟨_, rfl⟩ := third
    refine ⟨none, by simp, ?_⟩
    exact (method_ok present).mpr (.unregistered registered stepped)
  | true =>
    simp only [Calls.step, Function.update_self, ↓reduceIte, bind_ok, Except.ok.injEq,
      Prod.mk.injEq] at third
    obtain ⟨⟨answer, created⟩, made, _, rfl⟩ := third
    obtain ⟨⟨endpoint, middleware⟩, _, rfl, _⟩ := creation_ok.mp made
    refine ⟨endpoint, by simp [Answer.endpoint?], ?_⟩
    exact (method_ok present).mpr (.created registered created endpoint stepped made)

/-- How far a call is in an interleaving, and in the run of whole calls in the order of their
registrations. -/
inductive Matches : Progress → Progress → Prop
  /-- Not begun. -/
  | called : Matches .called .called
  /-- Not registered yet. -/
  | typed (dataType : Option TopicDataType) : Matches (.typed dataType) .called
  /-- Granted, and about to return an endpoint object. -/
  | registered (endpoint : Endpoint) : Matches .registered (.returned (some endpoint))
  /-- Returned, both null or neither. -/
  | returned (endpoint other : Option Endpoint) (alike : other.isSome = endpoint.isSome) :
      Matches (.returned endpoint) (.returned other)

/-- Three steps of each call. -/
def wholeCalls (order : List ι) : List ι := order.flatMap fun call => [call, call, call]

/-- The run of whole calls in the order of the registrations so far ends beside the interleaving. -/
structure Serial (api : Middleware σ Qos Message) (manager : DDSParticipantManager Qos)
    (request : ι → Request) (typeNames : String → Option String)
    (participant : DomainParticipant) (start calls sequential : Calls σ ι) : Prop where
  /-- It runs from the same start. -/
  ran : run (Calls.step api manager request) start (wholeCalls calls.order) = .ok sequential
  /-- It is orderly. -/
  orderly : Orderly api request typeNames participant sequential
  /-- It registered in the same order. -/
  order : sequential.order = calls.order
  /-- It shows the same registry. -/
  registry : sequential.registry api participant = calls.registry api participant
  /-- Every call is as far, up to the steps without effect on the registry. -/
  matched : ∀ call, Matches (calls.progress call) (sequential.progress call)

/-- A step of a call that is not its registration leaves the sequential run where it is. -/
theorem Serial.stay {start calls next sequential : Calls σ ι}
    (serial : Serial api manager request typeNames participant start calls sequential) {call : ι}
    {moved : Progress} (order : next.order = calls.order)
    (progress : next.progress = Function.update calls.progress call moved)
    (registry : next.registry api participant = calls.registry api participant)
    (here : Matches moved (sequential.progress call)) :
    Serial api manager request typeNames participant start next sequential := by
  refine ⟨?_, serial.orderly, ?_, ?_, fun other => ?_⟩
  · rw [order]
    exact serial.ran
  · rw [order]
    exact serial.order
  · rw [registry]
    exact serial.registry
  · rw [progress]
    by_cases same : other = call
    · rw [same, Function.update_self]
      exact here
    · rw [Function.update_of_ne same]
      exact serial.matched other

/-- One step of the interleaving goes through, keeps it beside the sequential run and deletes no
topic. -/
theorem serial_step (contract : Contract api) (accepts : AcceptsNewTypes api)
    (grants : GrantsTopics api api.topicQosDefault)
    (makes : ∀ topicName fresh, manager.getTopicDataType topicName fresh =
      (typeNames topicName).map fun typeName => ⟨fresh, typeName⟩)
    {start calls sequential : Calls σ ι}
    (orderly : Orderly api request typeNames participant calls)
    (serial : Serial api manager request typeNames participant start calls sequential) (call : ι) :
    ∃ next, Calls.step api manager request calls call = .ok ((), next) ∧
      Orderly api request typeNames participant next ∧
      (∃ later, Serial api manager request typeNames participant start next later) ∧
      (api.holdings calls.middleware).topics ⊆ (api.holdings next.middleware).topics := by
  have beside := serial.matched call
  cases here : calls.progress call with
  | called =>
    rw [here] at beside
    obtain ⟨dataType, next, stepped, after, world, order, progress⟩ :=
      called_step makes orderly here
    refine ⟨next, stepped, after, ⟨sequential, serial.stay order progress ?_ ?_⟩, ?_⟩
    · simp only [Calls.registry, world]
    · generalize sequential.progress call = other at beside ⊢
      cases beside
      exact .typed dataType
    · rw [world]
  | typed dataType =>
    rw [here] at beside
    have waiting : sequential.progress call = .called := by
      generalize sequential.progress call = other at beside ⊢
      cases beside
      rfl
    obtain ⟨next, stepped, after, order, progress, registry, topics⟩ :=
      typed_step contract accepts grants orderly here
    obtain ⟨endpoint, later, ran, orderly_later, order_later, progress_later, granted,
      registry_later⟩ := whole_call contract accepts grants makes serial.orderly waiting
    have same : sequential.grant api participant request typeNames call =
        calls.grant api participant request typeNames call := by
      simp only [Calls.grant, serial.registry]
    rw [same] at granted registry_later
    refine ⟨next, stepped, after, ⟨later, ?_, orderly_later, ?_, ?_, fun other => ?_⟩, topics⟩
    · have split : wholeCalls (calls.order ++ [call]) =
          wholeCalls calls.order ++ [call, call, call] := by
        simp [wholeCalls]
      rw [order, split, Machine.run_append _ serial.ran, ran]
    · rw [order_later, order, serial.order]
    · rw [registry_later, registry]
    · rw [progress, progress_later]
      by_cases here_other : other = call
      · rw [here_other, Function.update_self, Function.update_self, ← granted]
        cases endpoint with
        | none => exact .returned none none rfl
        | some endpoint => exact .registered endpoint
      · rw [Function.update_of_ne here_other, Function.update_of_ne here_other]
        exact serial.matched other
  | registered =>
    rw [here] at beside
    obtain ⟨endpoint, next, stepped, after, order, progress, registry, topics⟩ :=
      registered_step contract orderly here
    refine ⟨next, stepped, after, ⟨sequential, serial.stay order progress registry ?_⟩, ?_⟩
    · generalize sequential.progress call = other at beside ⊢
      cases beside with
      | registered there => exact .returned (some endpoint) (some there) rfl
    · rw [topics]
  | returned endpoint =>
    have stepped : Calls.step api manager request calls call = .ok ((), calls) := by
      simp only [Calls.step, here]
    exact ⟨calls, stepped, orderly, ⟨sequential, serial⟩, Finset.Subset.refl _⟩

/-- A manager whose initialisation succeeded starts orderly, beside itself. -/
theorem start_orderly (contract : Contract api) (request : ι → Request)
    (typeNames : String → Option String) {middleware : σ} {participantName : String}
    {listenPort : UInt16} {peerLocators : List String} {nextDataType : Nat} {start : Calls σ ι}
    (begun : start = Calls.start api manager middleware participantName listenPort peerLocators
      nextDataType)
    (created : start.self.participant = some participant) {publisher subscriber : Group}
    (published : start.self.publisher = .address publisher)
    (subscribed : start.self.subscriber = .address subscriber) :
    Orderly api request typeNames participant start ∧
      Serial api manager request typeNames participant start start start := by
  have world : start.toWorld = World.construct api middleware manager.domainId
      (manager.createParticipantQos participantName listenPort peerLocators) := by
    rw [begun]
    rfl
  have owner := created
  rw [world] at owner
  obtain ⟨self, next, built, made⟩ := World.construct_constructed contract owner
  have idle : ∀ call, start.progress call = .called := by
    intro call
    rw [begun]
    rfl
  have ordered : start.order = [] := by
    rw [begun]
    rfl
  have orderly : Orderly api request typeNames participant start := by
    refine ⟨?_, ?_, ⟨publisher, subscriber, published, subscribed⟩, ?_, ?_, ?_, ?_, ?_, ?_⟩
    · rw [world]
      exact construct_consistent contract owner
    · rw [world]
      exact construct_rooted contract owner
    · intro call dataType here
      cases (idle call).symm.trans here
    · intro call object here
      cases (idle call).symm.trans here
    · intro first second object here
      cases (idle first).symm.trans here
    · intro object _
      rw [world, built]
      constructor
      · exact List.not_mem_nil
      · intro typeName recorded
        cases (congrFun made.types typeName).symm.trans recorded
    · intro call here
      cases (idle call).symm.trans here
    · intro call endpoint here
      cases (idle call).symm.trans here
  refine ⟨orderly, ?_, orderly, rfl, rfl, fun call => ?_⟩
  · rw [ordered]
    rfl
  · rw [idle call]
    exact .called

/-- A step in which the middleware gained a topic of a name: its `create_topic` succeeded. -/
def CreatesTopic (api : Middleware σ Qos Message) (participant : DomainParticipant)
    (topicName : String) (attempt : Machine.Attempt (Calls σ ι) ι Unit Fault) : Prop :=
  ∃ topic next, attempt.outcome = .ok ((), next) ∧
    topic ∉ (api.holdings attempt.before.middleware).topics ∧
    topic ∈ (api.holdings next.middleware).topics ∧
    topic.participant = participant ∧ topic.name = topicName

/-- An interleaving and the run of whole calls give their callers and the topic map the same. -/
structure Agrees (final sequential : Calls σ ι) : Prop where
  /-- Both registered in the same order. -/
  order : sequential.order = final.order
  /-- A call that returned in the interleaving returned in the other, both null or neither. -/
  results : ∀ call endpoint, final.progress call = .returned endpoint →
    ∃ other, sequential.progress call = .returned other ∧ other.isSome = endpoint.isSome
  /-- The maps have the same keys. -/
  keys : ∀ topicName, topicName ∈ sequential.self.mapTopics ↔ topicName ∈ final.self.mapTopics
  /-- Their topics have the same type names. -/
  typeNames : ∀ topicName,
    ((sequential.self.mapTopics.lookup topicName).join).map Topic.typeName =
      ((final.self.mapTopics.lookup topicName).join).map Topic.typeName

/-- The calls are orderly, with a run of whole calls beside them. -/
def Serialised (api : Middleware σ Qos Message) (manager : DDSParticipantManager Qos)
    (request : ι → Request) (typeNames : String → Option String)
    (participant : DomainParticipant) (start calls : Calls σ ι) : Prop :=
  Orderly api request typeNames participant calls ∧
    ∃ sequential, Serial api manager request typeNames participant start calls sequential

/-- A step that returns keeps a run of whole calls beside it and takes no topic away. -/
theorem Serialised.step (contract : Contract api) (accepts : AcceptsNewTypes api)
    (grants : GrantsTopics api api.topicQosDefault)
    (makes : ∀ topicName fresh, manager.getTopicDataType topicName fresh =
      (typeNames topicName).map fun typeName => ⟨fresh, typeName⟩)
    {start calls next : Calls σ ι} {call : ι} {output : Unit}
    (serialised : Serialised api manager request typeNames participant start calls)
    (stepped : Calls.step api manager request calls call = .ok (output, next)) :
    Serialised api manager request typeNames participant start next ∧
      (api.holdings calls.middleware).topics ⊆ (api.holdings next.middleware).topics := by
  obtain ⟨orderly, sequential, serial⟩ := serialised
  obtain ⟨other, again, after, later, topics⟩ :=
    serial_step contract accepts grants makes orderly serial call
  rw [stepped, Except.ok.injEq, Prod.mk.injEq] at again
  obtain ⟨_, rfl⟩ := again
  exact ⟨⟨after, later⟩, topics⟩

/-- A run from such calls creates at most one topic of a name: the map leads to one only, and no
step takes it away. -/
theorem Serialised.creates_once (contract : Contract api) (accepts : AcceptsNewTypes api)
    (grants : GrantsTopics api api.topicQosDefault)
    (makes : ∀ topicName fresh, manager.getTopicDataType topicName fresh =
      (typeNames topicName).map fun typeName => ⟨fresh, typeName⟩)
    {start calls : Calls σ ι}
    (serialised : Serialised api manager request typeNames participant start calls)
    (topicName : String) (schedule : List ι) :
    (attempts (Calls.step api manager request) calls schedule).Pairwise
      fun first second => ¬ (CreatesTopic api participant topicName first ∧
        CreatesTopic api participant topicName second) := by
  have preserved : Machine.Preserves (Calls.step api manager request)
      (Serialised api manager request typeNames participant start) :=
    fun calls call output next inside stepped =>
      (inside.step contract accepts grants makes stepped).1
  refine Machine.attempts_once preserved (CreatesTopic api participant topicName)
    (fun calls => ∃ topic ∈ (api.holdings calls.middleware).topics,
      topic.participant = participant ∧ topic.name = topicName) ?_ ?_ ?_ schedule serialised
  · intro calls call output next inside stepped marked
    obtain ⟨topic, later, same, _, present, belongs, named⟩ := marked
    obtain ⟨_, rfl⟩ := Prod.mk.inj (Except.ok.inj same)
    exact ⟨topic, present, belongs, named⟩
  · intro calls call output next inside spent stepped
    obtain ⟨topic, present, rest⟩ := spent
    have topics := (inside.step contract accepts grants makes stepped).2
    exact ⟨topic, topics present, rest⟩
  · intro calls call inside spent marked
    obtain ⟨old, present, belongs, named⟩ := spent
    obtain ⟨topic, next, stepped, new, added, owned, alike⟩ := marked
    obtain ⟨⟨after, _⟩, topics⟩ := inside.step contract accepts grants makes stepped
    have first := (after.consistent.coupled.topics old).mp ⟨topics present, belongs⟩
    have second := (after.consistent.coupled.topics topic).mp ⟨added, owned⟩
    rw [named] at first
    rw [alike, first] at second
    obtain rfl := Option.some.inj (Option.some.inj second)
    exact new present

/-- A run and the run of whole calls beside it agree. -/
theorem Serial.agrees {start final sequential : Calls σ ι}
    (orderly : Orderly api request typeNames participant final)
    (serial : Serial api manager request typeNames participant start final sequential) :
    Agrees final sequential := by
  refine ⟨serial.order, ?_, ?_, ?_⟩
  · intro call endpoint here
    have matched := serial.matched call
    rw [here] at matched
    generalize sequential.progress call = other at matched ⊢
    cases matched with
    | returned _ other alike => exact ⟨other, rfl, alike⟩
  · intro topicName
    rw [← registryOf_known serial.orderly.consistent.coupled,
      ← registryOf_known orderly.consistent.coupled]
    have same := congrArg (fun registry => (registry.entry topicName).isSome) serial.registry
    exact Bool.eq_iff_iff.mp same
  · intro topicName
    exact congrArg (fun registry => registry.entry topicName) serial.registry

/-- Any interleaving of creating calls on an initialised manager goes through; it creates at most
one topic of each name, on which every endpoint returned for the name is; and it agrees with the run
of whole calls in the order of their registrations. -/
theorem creation_serialisable (contract : Contract api) (accepts : AcceptsNewTypes api)
    (grants : GrantsTopics api api.topicQosDefault) (manager : DDSParticipantManager Qos)
    (typeNames : String → Option String)
    (makes : ∀ topicName fresh, manager.getTopicDataType topicName fresh =
      (typeNames topicName).map fun typeName => ⟨fresh, typeName⟩)
    (middleware : σ) (participantName : String) (listenPort : UInt16) (peerLocators : List String)
    (nextDataType : Nat) (start : Calls σ ι)
    (begun : start = Calls.start api manager middleware participantName listenPort peerLocators
      nextDataType)
    (participant : DomainParticipant) (created : start.self.participant = some participant)
    (publisher subscriber : Group) (published : start.self.publisher = .address publisher)
    (subscribed : start.self.subscriber = .address subscriber) (request : ι → Request)
    (schedule : List ι) :
    (∀ topicName, (attempts (Calls.step api manager request) start schedule).Pairwise
      fun first second => ¬ (CreatesTopic api participant topicName first ∧
        CreatesTopic api participant topicName second)) ∧
    ∃ final sequential,
      run (Calls.step api manager request) start schedule = .ok final ∧
      run (Calls.step api manager request) start (wholeCalls final.order) = .ok sequential ∧
      (∀ call endpoint data, final.progress call = .returned (some endpoint) →
        endpoint.data = some data →
          final.self.mapTopics.lookup (request call).topicName = some (some data.topic)) ∧
      Agrees final sequential := by
  obtain ⟨orderly, serial⟩ :=
    start_orderly contract request typeNames begun created published subscribed
  have serialised : Serialised api manager request typeNames participant start start :=
    ⟨orderly, start, serial⟩
  constructor
  · intro topicName
    exact serialised.creates_once contract accepts grants makes topicName schedule
  · have total : ∀ calls call, Serialised api manager request typeNames participant start calls →
        True → ∃ output next, Calls.step api manager request calls call = .ok (output, next) ∧
          Serialised api manager request typeNames participant start next := by
      intro calls call inside _
      obtain ⟨orderly, sequential, serial⟩ := inside
      obtain ⟨next, stepped, after, later, _⟩ :=
        serial_step contract accepts grants makes orderly serial call
      exact ⟨(), next, stepped, after, later⟩
    obtain ⟨final, ran, after, sequential, beside⟩ :=
      Machine.run_total total schedule serialised (fun _ _ => trivial)
    refine ⟨final, sequential, ran, beside.ran, ?_, beside.agrees after⟩
    intro call endpoint data here made
    obtain ⟨present, named⟩ := after.returned call endpoint here
    rw [← named]
    exact (after.consistent.inStep.objects endpoint present data made).2

/-- A manager with creators of one type for two topic names. -/
def pairManager : DDSParticipantManager Unit :=
  ⟨0, none, (Finmap.singleton "a" fun fresh => some ⟨fresh, "T"⟩).insert "b"
    fun fresh => some ⟨fresh, "T"⟩, fun _ _ _ => ()⟩

/-- The type names its creators give. -/
theorem pairManager_makes (topicName : String) (fresh : Nat) :
    pairManager.getTopicDataType topicName fresh =
      (if topicName = "a" ∨ topicName = "b" then some "T" else none).map
        fun typeName => ⟨fresh, typeName⟩ := by
  by_cases second : topicName = "b"
  · subst second
    rfl
  by_cases first : topicName = "a"
  · subst first
    rfl
  have unknown : pairManager.topicTypes.lookup topicName = none := by
    rw [pairManager, Finmap.lookup_insert_of_ne _ second, Finmap.lookup_eq_none,
      Finmap.mem_singleton]
    exact first
  simp [DDSParticipantManager.getTopicDataType, unknown, first, second]

/-- Three calls on two names of one type. -/
def threeRequests : Fin 3 → Request
  | 0 => ⟨.reader, "a"⟩
  | 1 => ⟨.writer, "b"⟩
  | 2 => ⟨.writer, "a"⟩

/-- That manager after its initialisation. -/
def threeCalls : Calls Reference (Fin 3) :=
  Calls.start (reference false) pairManager (Reference.fresh []) "p" 0 [] 0

/-- The topic that is created. -/
def threeTopic : Topic := ⟨⟨1⟩, 1, "a", "T"⟩

/-- The reader object that is returned. -/
def threeReader : Endpoint :=
  ⟨.reader, 0, "a", ⟨.reader, ⟨1⟩, 1⟩, some ⟨⟨.reader, ⟨1⟩, 1⟩, threeTopic, 0, 1⟩⟩

/-- The writer object that is returned. -/
def threeWriter : Endpoint :=
  ⟨.writer, 1, "a", ⟨.writer, ⟨1⟩, 2⟩, some ⟨⟨.writer, ⟨1⟩, 2⟩, threeTopic, 1, 2⟩⟩

/-- The three calls, with all their data type objects made before the first registration. The third
call registers first, and the second one, whose type name is then taken, returns null. -/
theorem creation_serialisable_three :
    ∃ final sequential,
      run (Calls.step (reference false) pairManager threeRequests) threeCalls
        [0, 1, 2, 2, 1, 0, 0, 2] = .ok final ∧
      run (Calls.step (reference false) pairManager threeRequests) threeCalls
        (wholeCalls final.order) = .ok sequential ∧
      Agrees final sequential ∧ final.order = [2, 1, 0] ∧
      final.progress 0 = .returned (some threeReader) ∧ final.progress 1 = .returned none ∧
      final.progress 2 = .returned (some threeWriter) ∧ final.self.mapTopics.keys = {"a"} := by
  obtain ⟨_, final, sequential, ran, serial, _, agrees⟩ := creation_serialisable
    (reference_contract false) (reference_acceptsNewTypes false) reference_grantsTopics pairManager
    (fun topicName => if topicName = "a" ∨ topicName = "b" then some "T" else none)
    pairManager_makes (Reference.fresh []) "p" 0 [] 0 threeCalls rfl ⟨1⟩ (by decide)
    ⟨.writer, ⟨1⟩, 2⟩ ⟨.reader, ⟨1⟩, 1⟩ (by decide) (by decide) threeRequests
    [0, 1, 2, 2, 1, 0, 0, 2]
  have shown : (run (Calls.step (reference false) pairManager threeRequests) threeCalls
      [0, 1, 2, 2, 1, 0, 0, 2]).map (fun calls => (calls.order, calls.progress 0,
        calls.progress 1, calls.progress 2, calls.self.mapTopics.keys)) =
      .ok ([2, 1, 0], .returned (some threeReader), .returned none, .returned (some threeWriter),
        {"a"}) := by decide
  simp only [ran, Except.map, Except.ok.injEq, Prod.mk.injEq] at shown
  exact ⟨final, sequential, ran, serial, agrees, shown⟩

end FastDdsWrapper
