import FastDdsWrapper.Custody
import FastDdsWrapper.ManagerRuns

/-!
# Every data type object has one fate

A data type object is made for each registration, and `registerTopic` puts it into a local
`TypeSupport` on every path but the null one. Seen from outside, the participant's type table and
that local owner are a custodian: it stores a new object under a free type name or discards it
(`Supplied.step`). `Supply` runs the manager together with direct calls on its participant
object and remembers every object made.
-/

namespace FastDdsWrapper

open Machine (run bind_ok)

variable {σ Qos Message : Type} {api : Middleware σ Qos Message}
variable {participant : DomainParticipant} {object : DDSDomainParticipant}

/-! ## Registration as custody -/

/-- The custody of the objects made so far that a host shows. -/
def custodyOf (api : Middleware σ Qos Message) (participant : DomainParticipant)
    (made : List TopicDataType) (host : Host σ) : Custody String TopicDataType :=
  ⟨made, (api.holdings host.middleware).types participant, host.destroyed⟩

/-- A registration with a new object stores it or discards it, and with none does nothing. -/
theorem RegisterOutcome.moves (contract : Contract api) {host next : Host σ} {topicName : String}
    {topicQos : Qos} {dataType : Option TopicDataType} {value : Bool} {made : List TopicDataType}
    (live : host.derefParticipant api = .ok participant)
    (outcome : RegisterOutcome api host topicName topicQos dataType value next)
    (new : ∀ given, dataType = some given → given ∉ made ∧ Unused api participant host given) :
    Relation.ReflTransGen (Custody.Move TopicDataType.name) (custodyOf api participant made host)
      (custodyOf api participant (made ++ dataType.toList) next) := by
  cases outcome.fate contract with
  | nothing types destroyed =>
    simp only [custodyOf, types, destroyed, Option.toList_none, List.append_nil]
    exact .refl
  | recorded given source free types destroyed =>
    obtain ⟨unmade, intact, unrecorded⟩ := new given rfl
    have undeleted : given ∉ next.destroyed := by
      rw [destroyed]
      exact intact
    -- The object is in the table of the participant, so this is the table that took it.
    have recorded := outcome.undeleted contract live undeleted
    rw [types, Holdings.addType_types] at recorded
    split at recorded
    · rename_i here
      obtain ⟨rfl, _⟩ := here
      have table : (api.holdings next.middleware).types participant =
          Function.update ((api.holdings host.middleware).types participant) given.name
            (some given) := by
        funext typeName
        rw [types, Holdings.addType_types, Function.update_apply]
        simp only [true_and]
      refine .single ?_
      simp only [custodyOf, table, destroyed, Option.toList_some]
      exact .store _ given unmade free
    · exact absurd recorded (unrecorded given.name)
  | dropped given types destroyed =>
    obtain ⟨unmade, _⟩ := new given rfl
    refine .single ?_
    simp only [custodyOf, types, destroyed, Option.toList_some]
    exact .discard _ given unmade

/-- A removal of a topic leaves the data types. -/
theorem UnregisterOutcome.types_kept (contract : Contract api) {host next : Host σ}
    {topicName : String} {value : Bool}
    (outcome : UnregisterOutcome api host topicName value next) :
    next.destroyed = host.destroyed ∧
      (api.holdings next.middleware).types = (api.holdings host.middleware).types := by
  cases outcome with
  | absent unknown => exact ⟨rfl, rfl⟩
  | nullEntry entry => exact ⟨rfl, rfl⟩
  | refused topic source errcode middleware entry live present answered =>
    have promised := contract.deleteTopic host.middleware source topic
    simp only [answered] at promised
    exact ⟨rfl, congrArg Holdings.types promised⟩
  | deleted topic source middleware entry live present answered =>
    have promised := contract.deleteTopic host.middleware source topic
    simp only [answered] at promised
    obtain ⟨_, held⟩ := promised
    refine ⟨rfl, ?_⟩
    rw [Host.eraseTopic_middleware, held]
    rfl

/-! ## The calls that make objects -/

/-- The object a call of the manager asks its creator for. -/
def ManagerWorld.asked (world : ManagerWorld σ Qos) : ManagerCall → Option TopicDataType
  | .createDataWriter topicName | .createDataReader topicName =>
    world.manager.getTopicDataType topicName world.nextDataType
  | .initDomainParticipant _ _ _ | .addTopicDataTypeCreator _ _ => none

/-- A request asks the creator of its name. -/
theorem ManagerWorld.asked_call (world : ManagerWorld σ Qos) (asked : Request) :
    world.asked asked.call =
      world.manager.getTopicDataType asked.topicName world.nextDataType := by
  obtain ⟨kind, topicName⟩ := asked
  cases kind with
  | writer => rfl
  | reader => rfl

/-- What the type table of the manager's participant has under a type name. -/
def ManagerWorld.recorded (api : Middleware σ Qos Message) (world : ManagerWorld σ Qos)
    (typeName : String) : Option TopicDataType :=
  (world.manager.participant.bind DDSDomainParticipant.participant).bind fun participant =>
    (api.holdings world.middleware).types participant typeName

/-- A manager, and every data type object made for it or for its participant object. -/
structure Supply (σ Qos : Type) extends ManagerWorld σ Qos where
  /-- The objects made so far, oldest first. -/
  made : List TopicDataType

/-- A call on the manager or on its participant object. -/
inductive SupplyCall (Qos : Type)
  /-- A call of the manager. -/
  | manager (call : ManagerCall)
  /-- `registerTopic` with a new object of a type name, or with null. -/
  | registerTopic (topicName : String) (typeName : Option String) (topicQos : Qos)
  /-- `unregisterTopic`. -/
  | unregisterTopic (topicName : String)

namespace Supply

/-- A manager for which nothing was made yet. -/
def start (manager : DDSParticipantManager Qos) (middleware : σ) (nextDataType : Nat) :
    Supply σ Qos :=
  ⟨.start manager middleware nextDataType, []⟩

/-- One call. -/
def step (api : Middleware σ Qos Message) :
    Machine.Step (Supply σ Qos) (SupplyCall Qos) Answer Fault := fun supply call =>
  match call with
  | .manager call => do
    let (answer, world) ← ManagerWorld.step api supply.toManagerWorld call
    .ok (answer, ⟨world, supply.made ++ (supply.asked call).toList⟩)
  | .registerTopic topicName typeName topicQos =>
    match supply.manager.participant with
    | none => .error .nullPointer
    | some object => do
      let dataType := typeName.map fun name => ⟨supply.nextDataType, name⟩
      let (answer, process) ←
        World.step api (supply.process object) (.registerTopic topicName dataType topicQos)
      .ok (answer, ⟨supply.settle process, supply.made ++ dataType.toList⟩)
  | .unregisterTopic topicName =>
    match supply.manager.participant with
    | none => .error .nullPointer
    | some object => do
      let (answer, process) ←
        World.step api (supply.process object) (.unregisterTopic topicName)
      .ok (answer, ⟨supply.settle process, supply.made⟩)

/-- The custody of the objects made. -/
def custody (api : Middleware σ Qos Message) (supply : Supply σ Qos) :
    Custody String TopicDataType :=
  ⟨supply.made, supply.recorded api, supply.destroyed⟩

end Supply

/-- What the type table of a running manager's participant has under a name. -/
theorem Running.recorded_eq {world : ManagerWorld σ Qos}
    (running : Running api participant object world) (typeName : String) :
    world.recorded api typeName = (api.holdings world.middleware).types participant typeName := by
  have owner : object.participant = some participant := running.rooted.owner
  rw [ManagerWorld.recorded, running.present, Option.bind_some, owner, Option.bind_some]

/-- The custody of a running manager is that of its participant. -/
theorem Running.custody {supply : Supply σ Qos}
    (running : Running api participant object supply.toManagerWorld) :
    supply.custody api = custodyOf api participant supply.made (supply.host object) := by
  rw [Supply.custody, funext running.recorded_eq]
  rfl

/-- A running manager all of whose objects were made before. -/
structure Supplied (api : Middleware σ Qos Message) (participant : DomainParticipant)
    (object : DDSDomainParticipant) (supply : Supply σ Qos) : Prop where
  /-- The manager runs. -/
  running : Running api participant object supply.toManagerWorld
  /-- Objects made so far have earlier identities. -/
  earlier : ∀ dataType ∈ supply.made, dataType.id < supply.nextDataType

/-- A registration on the process of a running manager, with a new object or none, stores the object
or discards it. -/
theorem Supplied.registration (contract : Contract api) {before : Supply σ Qos}
    (supplied : Supplied api participant object before) {topicName : String}
    {dataType : Option TopicDataType} {topicQos : Qos} {answer : Answer} {process : World σ}
    (own : ∀ given, dataType = some given → given.id = before.nextDataType)
    (stepped : World.step api (before.process object)
      (.registerTopic topicName dataType topicQos) = .ok (answer, process)) :
    Relation.ReflTransGen (Custody.Move TopicDataType.name)
      (custodyOf api participant before.made (before.host object))
      (custodyOf api participant (before.made ++ dataType.toList) process.toHost) := by
  obtain ⟨value, host, outcome, _, rfl⟩ := registerTopic_step.mp stepped
  refine outcome.moves contract supplied.running.rooted.live (fun given same => ?_)
  have last := own given same
  constructor
  · intro member
    have first := supplied.earlier given member
    omega
  · exact supplied.running.unused given (Nat.le_of_eq last.symm)

/-- A creating call of the manager stores or discards the object it asked for. -/
theorem Supplied.method (contract : Contract api) {before : Supply σ Qos}
    (supplied : Supplied api participant object before) {asked : Request}
    {endpoint : Option Endpoint} {after : ManagerWorld σ Qos}
    (outcome : MethodOutcome api object before.toManagerWorld asked endpoint after) :
    ∃ next, after.manager.participant = some next ∧
      after.nextDataType = before.nextDataType + 1 ∧
      Relation.ReflTransGen (Custody.Move TopicDataType.name)
        (custodyOf api participant before.made (before.host object))
        (custodyOf api participant (before.made ++
          (before.manager.getTopicDataType asked.topicName before.nextDataType).toList)
          (after.host next)) := by
  have own : ∀ given, before.manager.getTopicDataType asked.topicName before.nextDataType =
      some given → given.id = before.nextDataType := fun given => supplied.running.asked
  cases outcome with
  | unregistered registered stepped =>
    exact ⟨registered.self, rfl, rfl, supplied.registration contract own stepped⟩
  | created registered created _ stepped made =>
    refine ⟨created.self, rfl, rfl, ?_⟩
    obtain ⟨_, destroyed, endpoints, held⟩ := creation_frame contract made
    have still : custodyOf api participant (before.made ++
        (before.manager.getTopicDataType asked.topicName before.nextDataType).toList)
          created.toHost =
        custodyOf api participant (before.made ++
          (before.manager.getTopicDataType asked.topicName before.nextDataType).toList)
          registered.toHost := by
      simp only [custodyOf, destroyed, held]
    have moved := supplied.registration contract own stepped
    rw [← still] at moved
    exact moved

/-- The objects made before a call and its own were made before the next call. -/
theorem Supplied.earlier_append {before : Supply σ Qos}
    (supplied : Supplied api participant object before) {dataType : Option TopicDataType}
    (own : ∀ given, dataType = some given → given.id = before.nextDataType) :
    ∀ given ∈ before.made ++ dataType.toList, given.id < before.nextDataType + 1 := by
  intro given member
  rcases List.mem_append.mp member with old | last
  · have first := supplied.earlier given old
    omega
  · have same := own given (Option.mem_toList.mp last)
    omega

/-- What a call of a supplied manager leaves: it is supplied again, and at most one object entered
custody. -/
def Handled (api : Middleware σ Qos Message) (participant : DomainParticipant)
    (before after : Supply σ Qos) : Prop :=
  (∃ next, Supplied api participant next after) ∧
    Relation.ReflTransGen (Custody.Move TopicDataType.name) (before.custody api)
      (after.custody api)

/-- A call of the manager handles its object. -/
theorem Supplied.manager_call (contract : Contract api) {before : Supply σ Qos}
    (supplied : Supplied api participant object before) {call : ManagerCall}
    (adds : Adds TopicDataTypeCreator.Fresh call) :
    ∃ answer world, ManagerWorld.step api before.toManagerWorld call = .ok (answer, world) ∧
      Handled api participant before ⟨world, before.made ++ (before.asked call).toList⟩ := by
  obtain ⟨answer, world, stepped, next, running⟩ := supplied.running.step contract adds
  refine ⟨answer, world, stepped, ?_⟩
  cases manager_step supplied.running.present stepped with
  | initialised participantName listenPort peerLocators called =>
    subst called
    simp only [ManagerWorld.asked, Option.toList_none, List.append_nil]
    exact ⟨⟨object, supplied⟩, .refl⟩
  | creatorAdded topicName creator called =>
    subst called
    simp only [ManagerWorld.asked, Option.toList_none, List.append_nil]
    have present := running.present
    rw [addTopicDataTypeCreator_participant, supplied.running.present] at present
    obtain rfl := Option.some.inj present
    refine ⟨⟨object, running, supplied.earlier⟩, ?_⟩
    rw [supplied.running.custody, Running.custody running]
    exact .refl
  | requested asked endpoint _ called outcome =>
    obtain ⟨later, present, counted, moved⟩ := supplied.method contract outcome
    obtain rfl := Option.some.inj (present.symm.trans running.present)
    rw [called, ManagerWorld.asked_call]
    constructor
    · refine ⟨later, running, fun dataType member => ?_⟩
      show dataType.id < world.nextDataType
      rw [counted]
      exact supplied.earlier_append (fun _ => supplied.running.asked) dataType member
    · rw [supplied.running.custody, Running.custody running]
      exact moved

/-- A direct registration handles its object. -/
theorem Supplied.register_call (contract : Contract api) {before : Supply σ Qos}
    (supplied : Supplied api participant object before) (topicName : String)
    {dataType : Option TopicDataType} (topicQos : Qos)
    (own : ∀ given, dataType = some given → given.id = before.nextDataType) :
    ∃ answer process, World.step api (before.process object)
        (.registerTopic topicName dataType topicQos) = .ok (answer, process) ∧
      Handled api participant before
        ⟨before.settle process, before.made ++ dataType.toList⟩ := by
  obtain ⟨value, host, returned⟩ := registerTopic_returns topicName dataType topicQos
    supplied.running.rooted.live
    (fun given same => (supplied.running.unused given (Nat.le_of_eq (own given same).symm)).1)
  have outcome := registerTopic_ok.mp returned
  have stepped : World.step api (before.process object)
      (.registerTopic topicName dataType topicQos) =
        .ok (.flag value, { before.process object with toHost := host }) :=
    registerTopic_step.mpr ⟨value, host, outcome, rfl, rfl⟩
  have running := supplied.running.call contract stepped (fun other later => by
    refine Unused.kept contract (supplied.running.unused other (Nat.le_of_lt later)) outcome ?_
    intro same
    have last := own other same
    omega)
  refine ⟨_, _, stepped, ⟨_, running, supplied.earlier_append own⟩, ?_⟩
  rw [supplied.running.custody, Running.custody running]
  exact supplied.registration contract own stepped

/-- A removal handles no object. -/
theorem Supplied.unregister_call (contract : Contract api) {before : Supply σ Qos}
    (supplied : Supplied api participant object before) (topicName : String) :
    ∃ answer process, World.step api (before.process object) (.unregisterTopic topicName) =
        .ok (answer, process) ∧
      Handled api participant before ⟨before.settle process, before.made⟩ := by
  obtain ⟨value, host, returned⟩ := unregisterTopic_returns supplied.running.consistent
    supplied.running.rooted topicName
  obtain ⟨destroyed, types⟩ := (unregisterTopic_ok.mp returned).types_kept contract
  have stepped : World.step api (before.process object) (.unregisterTopic topicName) =
      .ok (.flag value, { before.process object with toHost := host }) := by
    simp only [World.step, returned, bind, Except.bind]
  have running := supplied.running.call contract stepped (fun other later => by
    obtain ⟨intact, unrecorded⟩ := supplied.running.unused other (Nat.le_of_lt later)
    rw [Unused, destroyed, types]
    exact ⟨intact, unrecorded⟩)
  refine ⟨_, _, stepped, ⟨_, running, fun given member => ?_⟩, ?_⟩
  · exact Nat.lt_succ_of_lt (supplied.earlier given member)
  · have same : Supply.custody api
        ⟨before.settle { before.process object with toHost := host }, before.made⟩ =
          before.custody api := by
      rw [supplied.running.custody, Running.custody running]
      simp only [custodyOf, ManagerWorld.host, ManagerWorld.settle, ManagerWorld.process,
        destroyed, types]
    rw [same]

/-- The call adds no creator but one of new objects. -/
def SupplyCall.Fresh (call : SupplyCall Qos) : Prop :=
  ∀ asked, call = .manager asked → Adds TopicDataTypeCreator.Fresh asked

/-- Every call of a supplied manager returns and handles its object. -/
theorem Supplied.step (contract : Contract api) {before : Supply σ Qos}
    (supplied : Supplied api participant object before) {call : SupplyCall Qos}
    (fresh : call.Fresh) :
    ∃ answer after, Supply.step api before call = .ok (answer, after) ∧
      Handled api participant before after := by
  cases call with
  | manager asked =>
    obtain ⟨answer, world, stepped, handled⟩ := supplied.manager_call contract (fresh asked rfl)
    exact ⟨answer, _, bind_ok.mpr ⟨_, stepped, rfl⟩, handled⟩
  | registerTopic topicName typeName topicQos =>
    have own : ∀ given, (typeName.map fun name => (⟨before.nextDataType, name⟩ : TopicDataType)) =
        some given → given.id = before.nextDataType := by
      intro given same
      obtain ⟨name, _, rfl⟩ := Option.map_eq_some_iff.mp same
      rfl
    obtain ⟨answer, process, stepped, handled⟩ :=
      supplied.register_call contract topicName topicQos own
    refine ⟨answer, _, ?_, handled⟩
    simp only [Supply.step, supplied.running.present, stepped, bind, Except.bind]
  | unregisterTopic topicName =>
    obtain ⟨answer, process, stepped, handled⟩ := supplied.unregister_call contract topicName
    refine ⟨answer, _, ?_, handled⟩
    simp only [Supply.step, supplied.running.present, stepped, bind, Except.bind]

/-! ## The fates -/

namespace Supply

/-- The participant's type table holds the object, and nobody destroyed it. -/
def Held (api : Middleware σ Qos Message) (supply : Supply σ Qos) (dataType : TopicDataType) :
    Prop :=
  supply.recorded api dataType.name = some dataType ∧ dataType ∉ supply.destroyed

/-- The object was destroyed exactly once and is not in the type table. -/
def DestroyedOnce (api : Middleware σ Qos Message) (supply : Supply σ Qos)
    (dataType : TopicDataType) : Prop :=
  supply.destroyed.count dataType = 1 ∧ ∀ typeName, supply.recorded api typeName ≠ some dataType

end Supply

/-- Every object made is held or was destroyed once, and there are no others. -/
structure OneFate (api : Middleware σ Qos Message) (supply : Supply σ Qos) : Prop where
  /-- No object was made twice. -/
  distinct : supply.made.Nodup
  /-- No object is lost. -/
  fate : ∀ dataType ∈ supply.made,
    supply.Held api dataType ∨ supply.DestroyedOnce api dataType
  /-- The type table holds only objects made. -/
  recorded : ∀ typeName dataType, supply.recorded api typeName = some dataType →
    dataType ∈ supply.made
  /-- Only objects made were destroyed. -/
  destroyed : ∀ dataType ∈ supply.destroyed, dataType ∈ supply.made

/-- Sound custody is one fate for every object. -/
theorem oneFate_of_sound {supply : Supply σ Qos}
    (sound : Custody.Sound TopicDataType.name (supply.custody api)) : OneFate api supply :=
  ⟨sound.distinct, sound.settled, sound.stored, sound.discarded⟩

/-- A supplied manager whose custody came from a given one. -/
def Descends (api : Middleware σ Qos Message) (participant : DomainParticipant)
    (origin : Custody String TopicDataType) (supply : Supply σ Qos) : Prop :=
  (∃ object, Supplied api participant object supply) ∧
    Relation.ReflTransGen (Custody.Move TopicDataType.name) origin (supply.custody api)

/-- A call keeps the descent. -/
theorem Descends.step (contract : Contract api) {origin : Custody String TopicDataType}
    (before : Supply σ Qos) (call : SupplyCall Qos)
    (descends : Descends api participant origin before) (fresh : call.Fresh) :
    ∃ answer after, Supply.step api before call = .ok (answer, after) ∧
      Descends api participant origin after := by
  obtain ⟨⟨object, supplied⟩, moved⟩ := descends
  obtain ⟨answer, after, stepped, next, last⟩ := supplied.step contract fresh
  exact ⟨answer, after, stepped, next, moved.trans last⟩

/-- In every run of calls on an initialised manager and its participant object, every object made
for a registration is held by the type table or was destroyed once, and its fate is final. -/
theorem data_type_fates (contract : Contract api) (manager : DDSParticipantManager Qos)
    (middleware : σ) (nextDataType : Nat) (participantName : String) (listenPort : UInt16)
    (peerLocators : List String) (new : manager.participant = none)
    (created : CreatesAll api middleware manager.domainId
      (manager.createParticipantQos participantName listenPort peerLocators))
    (creators : ∀ topicName creator, manager.topicTypes.lookup topicName = some creator →
      creator.Fresh)
    (early late : List (SupplyCall Qos)) (added : ∀ call ∈ early ++ late, call.Fresh) :
    ∃ middle final,
      run (Supply.step api) (.start manager middleware nextDataType)
        (.manager (.initDomainParticipant participantName listenPort peerLocators) :: early) =
          .ok middle ∧
      run (Supply.step api) middle late = .ok final ∧ OneFate api middle ∧ OneFate api final ∧
      (∀ dataType, middle.Held api dataType → final.Held api dataType) ∧
      ∀ dataType, middle.DestroyedOnce api dataType → final.DestroyedOnce api dataType := by
  obtain ⟨participant, object, world, initialised, running, _, _, destroyed, types⟩ :=
    initDomainParticipant_running contract nextDataType new created creators
  have stepped : Supply.step api (.start manager middleware nextDataType)
      (.manager (.initDomainParticipant participantName listenPort peerLocators)) =
        .ok (.flag true, ⟨world, []⟩) := bind_ok.mpr ⟨_, initialised, rfl⟩
  have supplied : Supplied api participant object (⟨world, []⟩ : Supply σ Qos) :=
    ⟨running, fun _ member => absurd member List.not_mem_nil⟩
  have empty : Supply.custody api (⟨world, []⟩ : Supply σ Qos) = ⟨[], fun _ => none, []⟩ := by
    rw [Running.custody running]
    simp only [custodyOf, ManagerWorld.host, types, destroyed]
  have first : Custody.Sound TopicDataType.name
      (⟨[], fun _ => none, []⟩ : Custody String TopicDataType) := by
    refine ⟨List.nodup_nil, fun _ member => absurd member List.not_mem_nil, ?_,
      fun _ member => absurd member List.not_mem_nil⟩
    intro typeName dataType found
    cases found
  have start : Descends api participant ⟨[], fun _ => none, []⟩ (⟨world, []⟩ : Supply σ Qos) := by
    rw [Descends, empty]
    exact ⟨⟨object, supplied⟩, .refl⟩
  obtain ⟨freshEarly, freshLate⟩ := List.forall_mem_append.mp added
  obtain ⟨middle, ranEarly, inside, moved⟩ :=
    Machine.run_total (Descends.step contract) early start freshEarly
  obtain ⟨final, ranLate, _, last⟩ :=
    Machine.run_total (Descends.step contract) late ⟨inside, .refl⟩ freshLate
  obtain ⟨sound, _, _⟩ := Custody.moves_final moved first
  obtain ⟨later, held, gone⟩ := Custody.moves_final last sound
  refine ⟨middle, final, ?_, ranLate, oneFate_of_sound sound, oneFate_of_sound later, held, gone⟩
  rw [Machine.run_cons early stepped]
  exact ranEarly

/-- An object for a new topic, one for a known name, one whose type name is taken, null, one whose
topic is refused, a name without a creator and a removal. -/
def fateCalls : List (SupplyCall Unit) :=
  [.manager (.createDataWriter "a"), .manager (.createDataReader "a"),
    .registerTopic "b" (some "T") (), .registerTopic "c" none (), .registerTopic "d" (some "U") (),
    .manager (.createDataReader "e"), .unregisterTopic "a"]

/-- These calls go through, and each of the four objects has one fate. -/
theorem data_type_fates_mixed :
    ∃ middle final,
      run (Supply.step (reference true)) (.start (newManager []).manager
        (Reference.fresh [false, false, false, false, false, false, true]) 0)
        (.manager (.initDomainParticipant "p" 0 []) :: fateCalls) = .ok middle ∧
      run (Supply.step (reference true)) middle [.manager (.createDataReader "a")] = .ok final ∧
      middle.made.length = 4 ∧ OneFate (reference true) middle ∧
      OneFate (reference true) final := by
  have fresh : ∀ call ∈ fateCalls ++ [.manager (.createDataReader "a")], call.Fresh := by
    intro call member asked same topicName creator called
    subst called
    subst same
    simp [fateCalls] at member
  obtain ⟨middle, final, ranEarly, ranLate, first, last, _⟩ := data_type_fates
    (reference_contract true) (newManager []).manager
    (Reference.fresh [false, false, false, false, false, false, true]) 0 "p" 0 [] rfl
    ⟨_, _, _, _, _, _, rfl, rfl, rfl⟩
    (fun topicName creator here => (newManager_fixed topicName creator here).fresh)
    fateCalls [.manager (.createDataReader "a")] fresh
  have counted : (run (Supply.step (reference true)) (.start (newManager []).manager
      (Reference.fresh [false, false, false, false, false, false, true]) 0)
      (.manager (.initDomainParticipant "p" 0 []) :: fateCalls)).toOption.map
        (fun supply => supply.made.length) = some 4 := by
    decide
  rw [ranEarly] at counted
  exact ⟨middle, final, ranEarly, ranLate, Option.some.inj counted, first, last⟩

end FastDdsWrapper
