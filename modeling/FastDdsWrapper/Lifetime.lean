import FastDdsWrapper.DataReaderListener
import FastDdsWrapper.EndpointObjects
import FastDdsWrapper.Teardown

/-!
# Nothing is used after it is gone

A reader object hands the middleware the address of its listener member. `Lifetime` takes the
constructor and the destructor of a reader apart at the moments between which the middleware may
call that listener, and lets the participant object be destroyed before its endpoint objects.

Two things keep every pointer good. The factory refuses to delete a participant that owns
anything, and `~DDSDomainParticipant` leaves the publisher and the subscriber inside; and a reader
sets its callback before it creates its data reader, and deletes that before its members go.
`Sheltered` states both as an invariant.
-/

namespace FastDdsWrapper

open Machine (run attempts bind_ok)

variable {σ Qos Message : Type} {api : Middleware σ Qos Message}
variable {participant : DomainParticipant}

/-- How far the constructor of a `DDSTopicDataReader` is. -/
inductive ConstructionStage
  /-- The members are initialised, so `m_callback` is empty. -/
  | initialised
  /-- `m_callback` is assigned. -/
  | callbackAssigned
  /-- `create_datareader` has made the data reader. -/
  | created
deriving DecidableEq

/-- A `createDataReader` call inside the constructor, with `m_topicLock` held. -/
structure Construction (Qos : Type) where
  /-- Identity of the new object. -/
  object : Nat
  /-- Name the call was given. -/
  topicName : String
  /-- The argument `subscriber`. -/
  subscriber : Pointer Group
  /-- The argument `topic`. -/
  topic : Option Topic
  /-- The argument `dataReaderQos`. -/
  dataReaderQos : Qos
  /-- Where the constructor is. -/
  stage : ConstructionStage

/-- How far the destructor of a `DDSTopicDataReader` is. -/
inductive DestructionStage
  /-- Inside `delete_datareader`. -/
  | deleting
  /-- Past it, with the members still there. -/
  | deleted
deriving DecidableEq

/-- A process whose reader objects are made and destroyed in several steps. -/
structure Lifetime (σ Qos : Type) extends World σ where
  /-- Whether the `DDSDomainParticipant` object still exists. -/
  present : Bool
  /-- The `createDataReader` call under way, if there is one. -/
  construction : Option (Construction Qos)
  /-- The member `m_readerListener` of each reader object that has one. -/
  listeners : Nat → Option DDSDataReaderListener
  /-- The reader objects in their destructor. -/
  destructions : Nat → Option DestructionStage

/-- What happens next in the process. -/
inductive LifetimeEvent (Qos Message : Type)
  /-- A call that is a single step. -/
  | call (call : Call Qos Message)
  /-- Destruction of the `DDSDomainParticipant` object. -/
  | destroyParticipant
  /-- `createDataReader` takes the lock, finds the topic and enters the constructor. -/
  | enterReader (topicName : String) (dataReaderQos : Qos)
  /-- The constructor assigns `m_callback`. -/
  | assignCallback
  /-- `create_datareader` makes the data reader. -/
  | createReader
  /-- `create_datareader` and `createDataReader` return. -/
  | leaveReader
  /-- The destructor of a reader object enters `delete_datareader`. -/
  | deleteReader (object : Nat)
  /-- `delete_datareader` returns. -/
  | deleteReturns (object : Nat)
  /-- The destructor of a reader object destroys the members. -/
  | destroyListener (object : Nat)
  /-- The middleware calls `on_data_available` for a data reader. -/
  | notify (reader : DataEndpoint)

/-- The middleware may notify a data reader of the participant as long as it exists, which is from
inside `create_datareader` until `delete_datareader` returns. -/
def Notifiable (api : Middleware σ Qos Message) (lifetime : Lifetime σ Qos)
    (reader : DataEndpoint) : Prop :=
  reader ∈ (api.holdings lifetime.middleware).endpoints ∧ reader.group.kind = .reader ∧
    lifetime.self.participant = some reader.group.participant

instance (lifetime : Lifetime σ Qos) (reader : DataEndpoint) :
    Decidable (Notifiable api lifetime reader) :=
  inferInstanceAs (Decidable (_ ∧ _ ∧ _))

namespace Lifetime

/-- The process right after the constructor of the participant object. -/
def construct (api : Middleware σ Qos Message) (middleware : σ) (domainId : Int)
    (participantQos : Qos) : Lifetime σ Qos :=
  ⟨World.construct api middleware domainId participantQos, true, none, fun _ => none,
    fun _ => none⟩

/-- The participant object exists and no call holds its lock. -/
def unlocked (lifetime : Lifetime σ Qos) : Bool :=
  lifetime.present && lifetime.construction.isNone

/-- Single steps are the locked calls while the lock is free, and what writer objects do. -/
def admits (lifetime : Lifetime σ Qos) : Call Qos Message → Bool
  | .registerTopic _ _ _ => lifetime.unlocked
  | .unregisterTopic _ => lifetime.unlocked
  | .createDataWriter _ _ => lifetime.unlocked
  | .createDataReader _ _ => false
  | .writeMessage _ _ => true
  | .destroyEndpoint .writer _ => true
  | .destroyEndpoint .reader _ => false

/-- The construction under way, when it is at a stage. -/
def constructionAt (lifetime : Lifetime σ Qos) (stage : ConstructionStage) :
    Option (Construction Qos) :=
  lifetime.construction.filter fun construction => construction.stage = stage

/-- A reader object out of its constructor, when it is at a stage of its destructor or in none. -/
def readerAt (lifetime : Lifetime σ Qos) (stage : Option DestructionStage) (object : Nat) :
    Option Endpoint :=
  if lifetime.destructions object = stage ∧
      lifetime.construction.all (fun construction => construction.object != object) then
    lifetime.find .reader object
  else none

/-- A call that is a single step. -/
def perform (api : Middleware σ Qos Message) (lifetime : Lifetime σ Qos)
    (call : Call Qos Message) : Except Fault (Answer × Lifetime σ Qos) :=
  if lifetime.admits call then do
    let (answer, world) ← World.step api lifetime.toWorld call
    .ok (answer, { lifetime with toWorld := world })
  else .ok (.none, lifetime)

/-- `DDSDomainParticipant::~DDSDomainParticipant`, while no method of the object runs. -/
def destroyParticipant (api : Middleware σ Qos Message) (lifetime : Lifetime σ Qos) :
    Except Fault (Answer × Lifetime σ Qos) :=
  if lifetime.unlocked then do
    let middleware ← lifetime.self.destruct api lifetime.middleware
    .ok (.none, { lifetime with middleware, present := false })
  else .ok (.none, lifetime)

/-- `DDSDomainParticipant::createDataReader` up to the body of the constructor. -/
def enterReader (lifetime : Lifetime σ Qos) (topicName : String) (dataReaderQos : Qos) :
    Answer × Lifetime σ Qos :=
  if lifetime.unlocked then
    match lifetime.self.mapTopics.lookup topicName with
    | none => (.endpoint none, lifetime)
    | some topic =>
      (.none,
        { lifetime with
          construction := some ⟨lifetime.nextObject, topicName, lifetime.self.subscriber, topic,
            dataReaderQos, .initialised⟩
          listeners := Function.update lifetime.listeners lifetime.nextObject (some ⟨false⟩) })
  else (.none, lifetime)

/-- `m_readerListener.m_callback = callback`, for a callback that holds a function. -/
def assignCallback (lifetime : Lifetime σ Qos) : Except Fault (Answer × Lifetime σ Qos) :=
  match lifetime.constructionAt .initialised with
  | none => .ok (.none, lifetime)
  | some construction =>
    match lifetime.listeners construction.object with
    | none => .error .destroyedListener
    | some listener =>
      .ok (.none,
        { lifetime with
          construction := some { construction with stage := .callbackAssigned }
          listeners := Function.update lifetime.listeners construction.object
            (some { listener with callback := true }) })

/-- `m_dataReader = subscriber->create_datareader(topic, dataReaderQos, &m_readerListener)`, up to a
moment inside the call. -/
def createReader (api : Middleware σ Qos Message) (lifetime : Lifetime σ Qos) :
    Except Fault (Answer × Lifetime σ Qos) :=
  match lifetime.constructionAt .callbackAssigned with
  | none => .ok (.none, lifetime)
  | some construction => do
    let (endpoint, middleware) ← constructEndpoint api api.createDatareader .reader
      lifetime.middleware construction.subscriber construction.topic construction.dataReaderQos
      construction.topicName construction.object
    let (answer, world) := lifetime.adopt (some endpoint, middleware)
    .ok (answer,
      { lifetime with
        toWorld := world, construction := some { construction with stage := .created } })

/-- The rest of `createDataReader`, which frees the lock. -/
def leaveReader (lifetime : Lifetime σ Qos) : Answer × Lifetime σ Qos :=
  match lifetime.constructionAt .created with
  | none => (.none, lifetime)
  | some _ => (.none, { lifetime with construction := none })

/-- `DDSTopicDataReader::~DDSTopicDataReader` up to the inside of `delete_datareader`: the pointers
it is called with are used, and nothing is deleted yet. -/
def deleteReader (api : Middleware σ Qos Message) (lifetime : Lifetime σ Qos) (object : Nat) :
    Except Fault (Answer × Lifetime σ Qos) :=
  match lifetime.readerAt none object with
  | none => .ok (.none, lifetime)
  | some endpoint => do
    let _ ← destructDataReader api lifetime.middleware endpoint
    .ok (.none,
      { lifetime with
        destructions := Function.update lifetime.destructions object (some .deleting) })

/-- The end of `delete_datareader`. -/
def deleteReturns (api : Middleware σ Qos Message) (lifetime : Lifetime σ Qos) (object : Nat) :
    Except Fault (Answer × Lifetime σ Qos) :=
  match lifetime.readerAt (some .deleting) object with
  | none => .ok (.none, lifetime)
  | some endpoint => do
    let middleware ← destructDataReader api lifetime.middleware endpoint
    .ok (.none,
      { lifetime with
        middleware, endpoints := lifetime.endpoints.erase endpoint
        destructions := Function.update lifetime.destructions object (some .deleted) })

/-- The end of `DDSTopicDataReader::~DDSTopicDataReader`. -/
def destroyListener (lifetime : Lifetime σ Qos) (object : Nat) : Lifetime σ Qos :=
  if lifetime.destructions object = some .deleted then
    { lifetime with
      listeners := Function.update lifetime.listeners object none
      destructions := Function.update lifetime.destructions object none }
  else lifetime

/-- A notification: `on_data_available` runs on the listener, uses its callback, and asks the data
reader for the name of its topic. -/
def notify (api : Middleware σ Qos Message) (lifetime : Lifetime σ Qos) (reader : DataEndpoint) :
    Except Fault (Answer × Lifetime σ Qos) :=
  if Notifiable api lifetime reader then
    match lifetime.listeners reader.listener with
    | none => .error .destroyedListener
    | some listener =>
      if listener.callback then do
        let _ ← (Pointer.address reader.topic).deref (api.holdings lifetime.middleware).topics
        .ok (.none, lifetime)
      else .error .emptyCallback
  else .ok (.none, lifetime)

/-- One event. An event that cannot happen now changes nothing. -/
def step (api : Middleware σ Qos Message) :
    Machine.Step (Lifetime σ Qos) (LifetimeEvent Qos Message) Answer Fault :=
  fun lifetime event =>
    match event with
    | .call call => lifetime.perform api call
    | .destroyParticipant => lifetime.destroyParticipant api
    | .enterReader topicName dataReaderQos => .ok (lifetime.enterReader topicName dataReaderQos)
    | .assignCallback => lifetime.assignCallback
    | .createReader => lifetime.createReader api
    | .leaveReader => .ok lifetime.leaveReader
    | .deleteReader object => lifetime.deleteReader api object
    | .deleteReturns object => lifetime.deleteReturns api object
    | .destroyListener object => .ok (.none, lifetime.destroyListener object)
    | .notify reader => lifetime.notify api reader

end Lifetime

/-! ## The steps of a reader object as calls -/

/-- The construction at a stage is the one under way. -/
theorem Lifetime.constructionAt_some {lifetime : Lifetime σ Qos} {stage : ConstructionStage}
    {construction : Construction Qos} :
    lifetime.constructionAt stage = some construction ↔
      lifetime.construction = some construction ∧ construction.stage = stage := by
  simp [constructionAt, Option.filter_eq_some_iff]

/-- A reader object at a stage is an existing one. -/
theorem Lifetime.readerAt_some {lifetime : Lifetime σ Qos} {stage : Option DestructionStage}
    {object : Nat} {endpoint : Endpoint}
    (found : lifetime.readerAt stage object = some endpoint) :
    lifetime.find .reader object = some endpoint := by
  simp only [readerAt, Option.ite_none_right_eq_some] at found
  exact found.2

/-- A construction before `create_datareader` has what the rest of it uses. -/
structure Underway (lifetime : Lifetime σ Qos) (construction : Construction Qos) : Prop where
  /-- The object will be the next one. -/
  object : construction.object = lifetime.nextObject
  /-- The subscriber is that of the participant object. -/
  subscriber : construction.subscriber = lifetime.self.subscriber
  /-- The topic is that of the name. -/
  topic : lifetime.self.mapTopics.lookup construction.topicName = some construction.topic
  /-- The listener exists, with a callback once that is assigned. -/
  listener : lifetime.listeners construction.object =
    some ⟨construction.stage = .callbackAssigned⟩

/-- A construction stays under way while what it uses stays. -/
theorem Underway.stays {before after : Lifetime σ Qos} {construction : Construction Qos}
    (underway : Underway before construction) (self : after.self = before.self)
    (counted : after.nextObject = before.nextObject)
    (listener : after.listeners construction.object = before.listeners construction.object) :
    Underway after construction := by
  refine ⟨?_, ?_, ?_, ?_⟩
  · rw [counted]
    exact underway.object
  · rw [self]
    exact underway.subscriber
  · rw [self]
    exact underway.topic
  · rw [listener]
    exact underway.listener

/-- `create_datareader` inside a construction is the `createDataReader` call. -/
theorem Lifetime.createReader_call {lifetime : Lifetime σ Qos} {construction : Construction Qos}
    (here : lifetime.constructionAt .callbackAssigned = some construction)
    (underway : Underway lifetime construction) :
    lifetime.createReader api =
      (World.step api lifetime.toWorld
        (.createDataReader construction.topicName construction.dataReaderQos)).map fun result =>
          (result.1,
            { lifetime with
              toWorld := result.2
              construction := some { construction with stage := .created } }) := by
  obtain ⟨object, subscriber, topic, _⟩ := underway
  simp only [createReader, here, World.step, createDataReader, createEndpoint, topic, ← subscriber,
    ← object]
  cases constructEndpoint api api.createDatareader .reader lifetime.middleware
    construction.subscriber construction.topic construction.dataReaderQos construction.topicName
    construction.object with
  | error fault => rfl
  | ok result => rfl

/-- The end of `delete_datareader` is the destruction of the reader object. -/
theorem Lifetime.deleteReturns_call {lifetime : Lifetime σ Qos} {object : Nat}
    {endpoint : Endpoint} (here : lifetime.readerAt (some .deleting) object = some endpoint) :
    lifetime.deleteReturns api object =
      (World.step api lifetime.toWorld
        (.destroyEndpoint .reader object)).map fun result =>
          (result.1,
            { lifetime with
              toWorld := result.2
              destructions := Function.update lifetime.destructions object (some .deleted) }) := by
  have found := readerAt_some here
  have kind := (World.find_matches found).1
  simp only [deleteReturns, here, World.step, found, destructEndpoint, kind]
  cases destructDataReader api lifetime.middleware endpoint with
  | error fault => rfl
  | ok result => rfl

/-- An admitted call is the call of the process around the participant object. -/
theorem Lifetime.perform_call {lifetime : Lifetime σ Qos} {call : Call Qos Message}
    (admitted : lifetime.admits call = true) :
    lifetime.perform api call = (World.step api lifetime.toWorld call).map fun result =>
      (result.1, { lifetime with toWorld := result.2 }) := by
  simp only [perform, admitted, ↓reduceIte]
  cases World.step api lifetime.toWorld call with
  | error fault => rfl
  | ok result => rfl

/-- While the lock is free no construction is under way. -/
theorem Lifetime.unlocked_idle {lifetime : Lifetime σ Qos} (free : lifetime.unlocked = true) :
    lifetime.construction = none := by
  simp only [unlocked, Bool.and_eq_true, Option.isNone_iff_eq_none] at free
  exact free.2

/-- An admitted call makes no reader object, and with a construction under way it changes neither
the participant object nor the count of objects. -/
theorem Lifetime.admitted_call {lifetime : Lifetime σ Qos} {call : Call Qos Message}
    (admitted : lifetime.admits call = true) {answer : Answer} {world : World σ}
    (stepped : World.step api lifetime.toWorld call = .ok (answer, world)) :
    (∀ endpoint ∈ world.endpoints, endpoint.kind = .reader → endpoint ∈ lifetime.endpoints) ∧
      (lifetime.construction ≠ none →
        world.self = lifetime.self ∧ world.nextObject = lifetime.nextObject) := by
  cases step_cases stepped with
  | registered topicName dataType topicQos value host outcome =>
    exact ⟨fun endpoint member _ => member, fun busy => absurd (unlocked_idle admitted) busy⟩
  | unregistered topicName value host outcome =>
    exact ⟨fun endpoint member _ => member, fun busy => absurd (unlocked_idle admitted) busy⟩
  | writer topicName dataWriterQos result middleware outcome =>
    refine ⟨?_, fun busy => absurd (unlocked_idle admitted) busy⟩
    intro endpoint member reader
    cases outcome with
    | absent unknown => exact member
    | constructed group topic data _ entry source alive present answered =>
      simp only [World.adopt, List.mem_append, List.mem_singleton] at member
      rcases member with member | rfl
      · exact member
      · cases reader
  | reader topicName dataReaderQos result middleware outcome => cases admitted
  | unwritten object message missing => exact ⟨fun endpoint member _ => member, fun _ => ⟨rfl, rfl⟩⟩
  | written object message endpoint value middleware found returned =>
    exact ⟨fun endpoint member _ => member, fun _ => ⟨rfl, rfl⟩⟩
  | undestroyed kind object missing =>
    exact ⟨fun endpoint member _ => member, fun _ => ⟨rfl, rfl⟩⟩
  | destroyed kind object endpoint middleware found returned =>
    exact ⟨fun other member _ => List.mem_of_mem_erase member, fun _ => ⟨rfl, rfl⟩⟩

/-! ## The invariant of the whole process -/

/-- No endpoint object has the identity, and none will get it. -/
def Outlived (world : World σ) (object : Nat) : Prop :=
  object < world.nextObject ∧ ∀ endpoint ∈ world.endpoints, endpoint.object ≠ object

/-- Nothing that can still be used is gone. -/
structure Sheltered (api : Middleware σ Qos Message) (participant : DomainParticipant)
    (lifetime : Lifetime σ Qos) : Prop where
  /-- The participant and what endpoint objects point to are alive. -/
  grounded : Grounded api participant lifetime.toWorld
  /-- A reader object has its listener, with the callback set. -/
  listening : ∀ endpoint ∈ lifetime.endpoints, endpoint.kind = .reader →
    lifetime.listeners endpoint.object = some ⟨true⟩
  /-- A constructor that has not made its data reader yet can go on. -/
  constructing : ∀ construction, lifetime.construction = some construction →
    construction.stage ≠ .created → Underway lifetime construction
  /-- The listeners still to be destroyed belong to no reader object. -/
  outlived : ∀ object, lifetime.destructions object = some .deleted →
    Outlived lifetime.toWorld object

/-- An effect only adds endpoint objects of the next identity, and counts on. -/
theorem Effect.origin {before after : World σ} (effect : Effect api participant before after) :
    before.nextObject ≤ after.nextObject ∧
      ∀ endpoint ∈ after.endpoints, endpoint ∈ before.endpoints ∨
        endpoint.object = before.nextObject ∧ before.nextObject < after.nextObject := by
  have appended : ∀ {endpoint : Endpoint}, after.endpoints = before.endpoints ++ [endpoint] →
      endpoint.object = before.nextObject → before.nextObject < after.nextObject →
      ∀ other ∈ after.endpoints, other ∈ before.endpoints ∨
        other.object = before.nextObject ∧ before.nextObject < after.nextObject := by
    intro endpoint objects numbered counted other member
    rw [objects, List.mem_append, List.mem_singleton] at member
    rcases member with member | rfl
    · exact .inl member
    · exact .inr ⟨numbered, counted⟩
  cases effect with
  | quiet types self objects held counted =>
    exact ⟨by omega, fun endpoint member => .inl (objects ▸ member)⟩
  | topicCreated types topic unknown owner fresh self objects held counted =>
    exact ⟨by omega, fun endpoint member => .inl (objects ▸ member)⟩
  | nullErased topicName entry self objects held counted =>
    exact ⟨by omega, fun endpoint member => .inl (objects ▸ member)⟩
  | topicDeleted topicName topic entry unused self objects held counted =>
    exact ⟨by omega, fun endpoint member => .inl (objects ▸ member)⟩
  | endpointRefused endpoint missing self objects held counted numbered =>
    exact ⟨by omega, appended objects numbered (by omega)⟩
  | endpointCreated endpoint data entry made alive fresh self objects held counted numbered source
      inside heard =>
    exact ⟨by omega, appended objects numbered (by omega)⟩
  | endpointForgotten endpoint member self objects held counted refused =>
    exact ⟨by omega, fun other present => .inl (List.mem_of_mem_erase (objects ▸ present))⟩
  | endpointDeleted endpoint data member made self objects held counted =>
    exact ⟨by omega, fun other present => .inl (List.mem_of_mem_erase (objects ▸ present))⟩

/-- An outlived identity stays outlived. -/
theorem Effect.outlived {before after : World σ} (effect : Effect api participant before after)
    {object : Nat} (gone : Outlived before object) : Outlived after object := by
  obtain ⟨below, apart⟩ := gone
  obtain ⟨counted, origin⟩ := effect.origin
  refine ⟨by omega, ?_⟩
  intro endpoint member
  rcases origin endpoint member with old | ⟨new, _⟩
  · exact apart endpoint old
  · omega

/-- The identity of an endpoint object that leaves is outlived. -/
theorem Wrapped.leaves {world after : World σ} (wrapped : Wrapped api participant world)
    {endpoint : Endpoint} (member : endpoint ∈ world.endpoints)
    (objects : after.endpoints = world.endpoints.erase endpoint)
    (counted : after.nextObject = world.nextObject) : Outlived after endpoint.object := by
  refine ⟨counted ▸ wrapped.numbered endpoint member, ?_⟩
  have order := (List.perm_cons_erase member).map Endpoint.object
  rw [List.map_cons] at order
  have apart := (List.nodup_cons.mp (order.nodup_iff.mp wrapped.single)).1
  intro other present same
  rw [objects] at present
  exact apart (List.mem_map.mpr ⟨other, present, same⟩)

/-- A wrapped process has no endpoint object without a data endpoint. -/
theorem Wrapped.full {world : World σ} (wrapped : Wrapped api participant world) :
    ∀ endpoint ∈ world.endpoints, endpoint.data ≠ none := by
  intro endpoint member
  obtain ⟨data, made, _⟩ := wrapped.made endpoint member
  rw [made]
  exact Option.some_ne_none data

variable {before after : Lifetime σ Qos} {answer : Answer}

/-- Admitted calls keep the process sheltered. -/
theorem Sheltered.perform (contract : Contract api) (deletes : DeletesReaders api)
    (sheltered : Sheltered api participant before) {call : Call Qos Message}
    (returned : before.perform api call = .ok (answer, after))
    (full : ∀ endpoint ∈ after.endpoints, endpoint.data ≠ none) :
    Sheltered api participant after := by
  by_cases admitted : before.admits call
  · rw [Lifetime.perform_call admitted, Machine.map_ok] at returned
    obtain ⟨⟨_, world⟩, stepped, same⟩ := returned
    obtain ⟨rfl, rfl⟩ := Prod.mk.inj same
    have effect := step_effect contract sheltered.grounded.rooted.owner stepped
    obtain ⟨readers, still⟩ := Lifetime.admitted_call admitted stepped
    refine ⟨effect.grounded deletes sheltered.grounded full, ?_, ?_, ?_⟩
    · intro endpoint member reader
      exact sheltered.listening endpoint (readers endpoint member reader) reader
    · intro construction busy pending
      have locked : before.construction ≠ none := fun idle => by cases idle.symm.trans busy
      obtain ⟨self, counted⟩ := still locked
      exact (sheltered.constructing construction busy pending).stays self counted rfl
    · intro object gone
      exact effect.outlived (sheltered.outlived object gone)
  · simp only [Lifetime.perform, admitted, Bool.false_eq_true, ↓reduceIte, Except.ok.injEq,
      Prod.mk.injEq] at returned
    obtain ⟨_, rfl⟩ := returned
    exact sheltered

/-- The participant object of a grounded process is destroyed without any deletion. -/
theorem Grounded.destruct (contract : Contract api) {world : World σ}
    (grounded : Grounded api participant world) :
    ∃ next, world.self.destruct api world.middleware = .ok next ∧
      api.holdings next = api.holdings world.middleware := by
  obtain ⟨publisher, _, published, _⟩ := grounded.grouped
  obtain ⟨member, belongs⟩ := (grounded.rooted.groups publisher).mpr (.inl published)
  exact destruct_owning contract grounded.rooted (.inl ⟨publisher, member, belongs⟩)

/-- So does the destruction of the participant object. -/
theorem Sheltered.destroyParticipant (contract : Contract api) (deletes : DeletesReaders api)
    (sheltered : Sheltered api participant before)
    (returned : before.destroyParticipant api = .ok (answer, after)) :
    Sheltered api participant after := by
  by_cases free : before.unlocked
  · obtain ⟨next, destroyed, held⟩ := sheltered.grounded.destruct contract
    simp only [Lifetime.destroyParticipant, free, ↓reduceIte, destroyed, bind, Except.bind,
      Except.ok.injEq, Prod.mk.injEq] at returned
    obtain ⟨_, rfl⟩ := returned
    have effect : Effect api participant before.toWorld
        { before.toWorld with middleware := next } := .quiet _ rfl rfl held rfl
    refine ⟨effect.grounded deletes sheltered.grounded sheltered.grounded.wrapped.full,
      sheltered.listening, ?_, sheltered.outlived⟩
    intro construction busy _
    cases (Lifetime.unlocked_idle free).symm.trans busy
  · simp only [Lifetime.destroyParticipant, free, Bool.false_eq_true, ↓reduceIte, Except.ok.injEq,
      Prod.mk.injEq] at returned
    obtain ⟨_, rfl⟩ := returned
    exact sheltered

/-- So does the entry into the constructor of a reader, whose listener is a new one. -/
theorem Sheltered.enterReader (sheltered : Sheltered api participant before) (topicName : String)
    (dataReaderQos : Qos) :
    Sheltered api participant (before.enterReader topicName dataReaderQos).2 := by
  by_cases free : before.unlocked
  · cases found : before.self.mapTopics.lookup topicName with
    | none =>
      simp only [Lifetime.enterReader, free, ↓reduceIte, found]
      exact sheltered
    | some topic =>
      simp only [Lifetime.enterReader, free, ↓reduceIte, found]
      refine ⟨sheltered.grounded, ?_, ?_, sheltered.outlived⟩
      · intro endpoint member reader
        have below := sheltered.grounded.wrapped.numbered endpoint member
        exact (Function.update_of_ne (Nat.ne_of_lt below) _ _).trans
          (sheltered.listening endpoint member reader)
      · intro construction busy _
        obtain rfl := Option.some.inj busy
        exact ⟨rfl, rfl, found, Function.update_self _ _ _⟩
  · simp only [Lifetime.enterReader, free, Bool.false_eq_true, ↓reduceIte]
    exact sheltered

/-- A construction at an early stage is under way. -/
theorem Sheltered.underway (sheltered : Sheltered api participant before)
    {stage : ConstructionStage} {construction : Construction Qos}
    (here : before.constructionAt stage = some construction) (early : stage ≠ .created) :
    Underway before construction := by
  obtain ⟨busy, there⟩ := Lifetime.constructionAt_some.mp here
  exact sheltered.constructing construction busy (there ▸ early)

/-- So does the assignment of the callback. -/
theorem Sheltered.assignCallback (sheltered : Sheltered api participant before)
    (returned : before.assignCallback = .ok (answer, after)) :
    Sheltered api participant after := by
  cases here : before.constructionAt .initialised with
  | none =>
    simp only [Lifetime.assignCallback, here, Except.ok.injEq, Prod.mk.injEq] at returned
    obtain ⟨_, rfl⟩ := returned
    exact sheltered
  | some construction =>
    obtain ⟨object, subscriber, topic, listener⟩ := sheltered.underway here (by decide)
    simp only [Lifetime.assignCallback, here, listener, Except.ok.injEq, Prod.mk.injEq] at returned
    obtain ⟨_, rfl⟩ := returned
    refine ⟨sheltered.grounded, ?_, ?_, sheltered.outlived⟩
    · intro endpoint member reader
      have below := sheltered.grounded.wrapped.numbered endpoint member
      have apart : endpoint.object ≠ construction.object := by
        rw [object]
        exact Nat.ne_of_lt below
      exact (Function.update_of_ne apart _ _).trans (sheltered.listening endpoint member reader)
    · intro other busy _
      obtain rfl := Option.some.inj busy
      exact ⟨object, subscriber, topic, by simp⟩

/-- So does `create_datareader`, which is given the listener with its callback. -/
theorem Sheltered.createReader (contract : Contract api) (deletes : DeletesReaders api)
    (sheltered : Sheltered api participant before)
    (returned : before.createReader api = .ok (answer, after))
    (full : ∀ endpoint ∈ after.endpoints, endpoint.data ≠ none) :
    Sheltered api participant after := by
  cases here : before.constructionAt .callbackAssigned with
  | none =>
    simp only [Lifetime.createReader, here, Except.ok.injEq, Prod.mk.injEq] at returned
    obtain ⟨_, rfl⟩ := returned
    exact sheltered
  | some construction =>
    have underway := sheltered.underway here (by decide)
    rw [Lifetime.createReader_call here underway, Machine.map_ok] at returned
    obtain ⟨⟨_, world⟩, stepped, same⟩ := returned
    obtain ⟨rfl, rfl⟩ := Prod.mk.inj same
    have effect := step_effect contract sheltered.grounded.rooted.owner stepped
    refine ⟨effect.grounded deletes sheltered.grounded full, ?_, ?_, ?_⟩
    · intro endpoint member reader
      rcases effect.origin.2 endpoint member with old | ⟨new, _⟩
      · exact sheltered.listening endpoint old reader
      · have listener := underway.listener
        rw [(Lifetime.constructionAt_some.mp here).2, underway.object, ← new] at listener
        exact listener
    · intro other busy pending
      obtain rfl := Option.some.inj busy
      exact absurd rfl pending
    · intro object gone
      exact effect.outlived (sheltered.outlived object gone)

/-- So does the return of `createDataReader`. -/
theorem Sheltered.leaveReader (sheltered : Sheltered api participant before) :
    Sheltered api participant before.leaveReader.2 := by
  cases here : before.constructionAt .created with
  | none =>
    simp only [Lifetime.leaveReader, here]
    exact sheltered
  | some construction =>
    simp only [Lifetime.leaveReader, here]
    refine ⟨sheltered.grounded, sheltered.listening, ?_, sheltered.outlived⟩
    intro other busy
    cases busy

/-- So does the entry into `delete_datareader`. -/
theorem Sheltered.deleteReader (sheltered : Sheltered api participant before) {object : Nat}
    (returned : before.deleteReader api object = .ok (answer, after)) :
    Sheltered api participant after := by
  cases here : before.readerAt none object with
  | none =>
    simp only [Lifetime.deleteReader, here, Except.ok.injEq, Prod.mk.injEq] at returned
    obtain ⟨_, rfl⟩ := returned
    exact sheltered
  | some endpoint =>
    simp only [Lifetime.deleteReader, here, bind_ok, Except.ok.injEq, Prod.mk.injEq] at returned
    obtain ⟨_, _, _, rfl⟩ := returned
    refine ⟨sheltered.grounded, sheltered.listening, ?_, ?_⟩
    · intro construction busy pending
      exact (sheltered.constructing construction busy pending).stays rfl rfl rfl
    · intro other gone
      change Function.update before.destructions object (some .deleting) other = _ at gone
      by_cases same : other = object
      · rw [same, Function.update_self] at gone
        cases gone
      · rw [Function.update_of_ne same] at gone
        exact sheltered.outlived other gone

/-- So does the return of `delete_datareader`, after which no endpoint object has the listener. -/
theorem Sheltered.deleteReturns (contract : Contract api) (deletes : DeletesReaders api)
    (sheltered : Sheltered api participant before) {object : Nat}
    (returned : before.deleteReturns api object = .ok (answer, after)) :
    Sheltered api participant after := by
  cases here : before.readerAt (some .deleting) object with
  | none =>
    simp only [Lifetime.deleteReturns, here, Except.ok.injEq, Prod.mk.injEq] at returned
    obtain ⟨_, rfl⟩ := returned
    exact sheltered
  | some endpoint =>
    have found := Lifetime.readerAt_some here
    have member := World.find_mem found
    obtain ⟨_, rfl⟩ := World.find_matches found
    rw [Lifetime.deleteReturns_call here, Machine.map_ok] at returned
    obtain ⟨⟨_, world⟩, stepped, same⟩ := returned
    obtain ⟨rfl, rfl⟩ := Prod.mk.inj same
    have effect := step_effect contract sheltered.grounded.rooted.owner stepped
    obtain ⟨objects, self, counted⟩ := World.destroyEndpoint_objects found stepped
    have old : ∀ other ∈ world.endpoints, other ∈ before.endpoints := by
      rw [objects]
      intro other present
      exact List.mem_of_mem_erase present
    have full : ∀ other ∈ world.endpoints, other.data ≠ none := by
      intro other present
      exact sheltered.grounded.wrapped.full other (old other present)
    refine ⟨effect.grounded deletes sheltered.grounded full, ?_, ?_, ?_⟩
    · intro other present reader
      exact sheltered.listening other (old other present) reader
    · intro construction busy pending
      exact (sheltered.constructing construction busy pending).stays self counted rfl
    · intro other gone
      change Function.update before.destructions endpoint.object (some .deleted) other = _ at gone
      by_cases same : other = endpoint.object
      · rw [same]
        exact sheltered.grounded.wrapped.leaves member objects counted
      · rw [Function.update_of_ne same] at gone
        exact effect.outlived (sheltered.outlived other gone)

/-- So does the destruction of a listener that no endpoint object has. -/
theorem Sheltered.destroyListener (sheltered : Sheltered api participant before) (object : Nat) :
    Sheltered api participant (before.destroyListener object) := by
  by_cases gone : before.destructions object = some .deleted
  · obtain ⟨below, apart⟩ := sheltered.outlived object gone
    simp only [Lifetime.destroyListener, gone, ↓reduceIte]
    refine ⟨sheltered.grounded, ?_, ?_, ?_⟩
    · intro endpoint member reader
      exact (Function.update_of_ne (apart endpoint member) _ _).trans
        (sheltered.listening endpoint member reader)
    · intro construction busy pending
      have underway := sheltered.constructing construction busy pending
      have later : construction.object ≠ object := by
        rw [underway.object]
        exact Nat.ne_of_gt below
      exact underway.stays rfl rfl (Function.update_of_ne later _ _)
    · intro other left
      change Function.update before.destructions object none other = _ at left
      by_cases same : other = object
      · rw [same, Function.update_self] at left
        cases left
      · rw [Function.update_of_ne same] at left
        exact sheltered.outlived other left
  · simp only [Lifetime.destroyListener, gone, ↓reduceIte]
    exact sheltered

/-- A notification changes nothing. -/
theorem Lifetime.notify_same {reader : DataEndpoint}
    (returned : before.notify api reader = .ok (answer, after)) : after = before := by
  simp only [Lifetime.notify] at returned
  split at returned
  · split at returned
    · cases returned
    · split at returned
      · simp only [bind_ok, Except.ok.injEq, Prod.mk.injEq] at returned
        obtain ⟨_, _, _, rfl⟩ := returned
        rfl
      · cases returned
  · simp only [Except.ok.injEq, Prod.mk.injEq] at returned
    exact returned.2.symm

/-- Every step that leaves no endpoint object without a data endpoint keeps the process
sheltered. -/
theorem sheltered_step (contract : Contract api) (deletes : DeletesReaders api)
    (sheltered : Sheltered api participant before) {event : LifetimeEvent Qos Message}
    (stepped : Lifetime.step api before event = .ok (answer, after))
    (full : ∀ endpoint ∈ after.endpoints, endpoint.data ≠ none) :
    Sheltered api participant after := by
  cases event with
  | call call => exact sheltered.perform contract deletes stepped full
  | destroyParticipant => exact sheltered.destroyParticipant contract deletes stepped
  | enterReader topicName dataReaderQos =>
    have kept := sheltered.enterReader topicName dataReaderQos
    rwa [Except.ok.inj stepped] at kept
  | assignCallback => exact sheltered.assignCallback stepped
  | createReader => exact sheltered.createReader contract deletes stepped full
  | leaveReader =>
    have kept := sheltered.leaveReader
    rwa [Except.ok.inj stepped] at kept
  | deleteReader object => exact sheltered.deleteReader stepped
  | deleteReturns object => exact sheltered.deleteReturns contract deletes stepped
  | destroyListener object =>
    have kept := sheltered.destroyListener object
    rwa [(Prod.mk.inj (Except.ok.inj stepped)).2] at kept
  | notify reader =>
    rw [Lifetime.notify_same stepped]
    exact sheltered

/-! ## Every step of every run -/

/-- The endpoint objects that exist after a step. -/
def endpointsAfter : Except Fault (Answer × Lifetime σ Qos) → List Endpoint
  | .error _ => []
  | .ok (_, after) => after.endpoints

/-- Every endpoint object there is after the step got its data endpoint. -/
def Granted (attempt : Machine.Attempt (Lifetime σ Qos) (LifetimeEvent Qos Message) Answer Fault) :
    Prop :=
  ∀ endpoint ∈ endpointsAfter attempt.outcome, endpoint.data ≠ none

instance (attempt : Machine.Attempt (Lifetime σ Qos) (LifetimeEvent Qos Message) Answer Fault) :
    Decidable (Granted attempt) :=
  inferInstanceAs (Decidable (∀ endpoint ∈ endpointsAfter attempt.outcome, endpoint.data ≠ none))

/-- An attempted step acts only on what exists. -/
structure Unharmed (api : Middleware σ Qos Message)
    (attempt : Machine.Attempt (Lifetime σ Qos) (LifetimeEvent Qos Message) Answer Fault) :
    Prop where
  /-- No pointer and no listener it uses is gone; only a caller that passes a deleted data type
  object makes it fault. -/
  acts : ∀ fault, attempt.outcome = .error fault → fault = .destroyedDataType ∧
    ∃ call, attempt.event = .call call ∧ Misused attempt.before.toWorld call
  /-- A notification reaches an existing listener with its callback set, for a data reader whose
  topic exists. -/
  hears : ∀ reader, attempt.event = .notify reader → Notifiable api attempt.before reader →
    attempt.before.listeners reader.listener = some ⟨true⟩ ∧
      reader.topic ∈ (api.holdings attempt.before.middleware).topics

/-- In a sheltered process a notification reaches its listener. -/
theorem Sheltered.hears (sheltered : Sheltered api participant before) {reader : DataEndpoint}
    (notifiable : Notifiable api before reader) :
    before.listeners reader.listener = some ⟨true⟩ ∧
      reader.topic ∈ (api.holdings before.middleware).topics := by
  obtain ⟨present, kind, owner⟩ := notifiable
  obtain ⟨consistent, rooted, _, wrapped⟩ := sheltered.grounded
  have belongs : reader.group.participant = participant :=
    Option.some.inj (owner.symm.trans rooted.owner)
  obtain ⟨endpoint, member, made⟩ := wrapped.readers reader present belongs kind
  obtain ⟨data, same, inside, heard⟩ := wrapped.made endpoint member
  obtain rfl := Option.some.inj (made.symm.trans same)
  have alike := (rooted.sheltersGroup (wrapped.source endpoint member)).2
  have listener := sheltered.listening endpoint member (by rw [← alike, ← inside, kind])
  have entry := (consistent.inStep.objects endpoint member reader made).2
  rw [heard]
  exact ⟨listener, ((consistent.inStep.topics _ _).mp entry).1⟩

/-- In a sheltered process every step acts on what exists. -/
theorem Sheltered.unharmed (contract : Contract api) (sheltered : Sheltered api participant before)
    (event : LifetimeEvent Qos Message) :
    Unharmed api ⟨before, event, Lifetime.step api before event⟩ := by
  refine ⟨?_, fun reader _ notifiable => sheltered.hears notifiable⟩
  intro fault faulted
  have grounded := sheltered.grounded
  simp only at faulted ⊢
  cases event with
  | call call =>
    change before.perform api call = .error fault at faulted
    by_cases admitted : before.admits call
    · rw [Lifetime.perform_call admitted, Machine.map_error] at faulted
      obtain ⟨named, misused⟩ := step_misused grounded faulted
      exact ⟨named, call, rfl, misused⟩
    · simp only [Lifetime.perform, admitted, Bool.false_eq_true, ↓reduceIte, reduceCtorEq]
        at faulted
  | destroyParticipant =>
    change before.destroyParticipant api = .error fault at faulted
    obtain ⟨next, destroyed, _⟩ := grounded.destruct contract
    simp only [Lifetime.destroyParticipant, destroyed, bind, Except.bind] at faulted
    split at faulted
    · cases faulted
    · cases faulted
  | enterReader topicName dataReaderQos => cases faulted
  | assignCallback =>
    change before.assignCallback = .error fault at faulted
    cases here : before.constructionAt .initialised with
    | none => simp only [Lifetime.assignCallback, here, reduceCtorEq] at faulted
    | some construction =>
      have listener := (sheltered.underway here (by decide)).listener
      simp only [Lifetime.assignCallback, here, listener, reduceCtorEq] at faulted
  | createReader =>
    change before.createReader api = .error fault at faulted
    cases here : before.constructionAt .callbackAssigned with
    | none => simp only [Lifetime.createReader, here, reduceCtorEq] at faulted
    | some construction =>
      rw [Lifetime.createReader_call here (sheltered.underway here (by decide)),
        Machine.map_error] at faulted
      exact absurd (step_misused grounded faulted).2 id
  | leaveReader => cases faulted
  | deleteReader object =>
    change before.deleteReader api object = .error fault at faulted
    cases here : before.readerAt none object with
    | none => simp only [Lifetime.deleteReader, here, reduceCtorEq] at faulted
    | some endpoint =>
      have member := World.find_mem (Lifetime.readerAt_some here)
      obtain ⟨next, returned⟩ := destructDataReader_returns grounded member
      simp only [Lifetime.deleteReader, here, returned, bind, Except.bind, reduceCtorEq] at faulted
  | deleteReturns object =>
    change before.deleteReturns api object = .error fault at faulted
    cases here : before.readerAt (some .deleting) object with
    | none => simp only [Lifetime.deleteReturns, here, reduceCtorEq] at faulted
    | some endpoint =>
      rw [Lifetime.deleteReturns_call here, Machine.map_error] at faulted
      exact absurd (step_misused grounded faulted).2 id
  | destroyListener object => cases faulted
  | notify reader =>
    change before.notify api reader = .error fault at faulted
    by_cases notifiable : Notifiable api before reader
    · obtain ⟨listener, present⟩ := sheltered.hears notifiable
      simp only [Lifetime.notify, notifiable, listener, Pointer.deref, present, ↓reduceIte, bind,
        Except.bind, reduceCtorEq] at faulted
    · simp only [Lifetime.notify, notifiable, ↓reduceIte, reduceCtorEq] at faulted

/-- A participant object that got its participant, publisher and subscriber starts sheltered. -/
theorem construct_sheltered (contract : Contract api) {middleware : σ} {domainId : Int}
    {participantQos : Qos} {publisher subscriber : Group}
    (created : (World.construct api middleware domainId participantQos).self.participant =
      some participant)
    (published : (World.construct api middleware domainId participantQos).self.publisher =
      .address publisher)
    (subscribed : (World.construct api middleware domainId participantQos).self.subscriber =
      .address subscriber) :
    Sheltered api participant (Lifetime.construct api middleware domainId participantQos) := by
  obtain ⟨self, next, world, made⟩ := World.construct_constructed contract created
  have empty : (World.construct api middleware domainId participantQos).endpoints = [] := by
    rw [world]
  have wrapped : Wrapped api participant
      (World.construct api middleware domainId participantQos) := by
    refine ⟨?_, ?_, ?_, ?_, ?_⟩
    · rw [empty]
      intro endpoint member
      cases member
    · rw [empty]
      intro endpoint member
      cases member
    · rw [empty]
      intro endpoint member
      cases member
    · rw [empty]
      exact List.nodup_nil
    · rw [world, made.endpoints]
      intro data member belongs _
      exact absurd (.inr (.inr ⟨data, member, .inl belongs⟩)) made.bare
  refine ⟨⟨construct_consistent contract created, construct_rooted contract created,
    ⟨publisher, subscriber, published, subscribed⟩, wrapped⟩, ?_, ?_, ?_⟩
  · intro endpoint member
    change endpoint ∈ (World.construct api middleware domainId participantQos).endpoints at member
    rw [empty] at member
    cases member
  · intro construction busy
    cases busy
  · intro object gone
    cases gone

/-- In every run in which all creations succeed, in whatever order objects are made, used, notified
and destroyed, every step acts only on what exists. -/
theorem nothing_used_after_gone (contract : Contract api) (deletes : DeletesReaders api)
    (middleware : σ) (domainId : Int) (participantQos : Qos) (participant : DomainParticipant)
    (publisher subscriber : Group)
    (created : (World.construct api middleware domainId participantQos).self.participant =
      some participant)
    (published : (World.construct api middleware domainId participantQos).self.publisher =
      .address publisher)
    (subscribed : (World.construct api middleware domainId participantQos).self.subscriber =
      .address subscriber)
    (events : List (LifetimeEvent Qos Message))
    (granted : ∀ attempt ∈ attempts (Lifetime.step api)
      (Lifetime.construct api middleware domainId participantQos) events, Granted attempt) :
    ∀ attempt ∈ attempts (Lifetime.step api)
      (Lifetime.construct api middleware domainId participantQos) events,
        Unharmed api attempt := by
  intro attempt member
  have kept : ∀ (before : Lifetime σ Qos) (event : LifetimeEvent Qos Message) answer after,
      Sheltered api participant before → Lifetime.step api before event = .ok (answer, after) →
        Granted ⟨before, event, .ok (answer, after)⟩ → Sheltered api participant after := by
    intro before event answer after sheltered stepped full
    exact sheltered_step contract deletes sheltered stepped full
  obtain ⟨sheltered, same⟩ := Machine.attempts_while kept
    (construct_sheltered contract created published subscribed) granted attempt member
  have unharmed := sheltered.unharmed contract attempt.event
  rwa [← same] at unharmed

/-- The data reader of the run below. -/
def lateReader : DataEndpoint := ⟨⟨.reader, ⟨1⟩, 1⟩, ⟨⟨1⟩, 1, "a", "T"⟩, 0, 1⟩

/-- A reader is notified inside its creation, after the participant object is gone and inside its
deletion; a writer outlives them all. -/
def lateEvents : List (LifetimeEvent Unit String) :=
  [.call (.registerTopic "a" (some ⟨1, "T"⟩) ()), .enterReader "a" (), .assignCallback,
    .createReader, .notify lateReader, .leaveReader, .call (.createDataWriter "a" ()),
    .destroyParticipant, .notify lateReader, .call (.writeMessage 1 "x"), .deleteReader 0,
    .notify lateReader, .deleteReturns 0, .notify lateReader, .destroyListener 0,
    .call (.writeMessage 1 "y"), .call (.destroyEndpoint .writer 1)]

/-- The process in which these events happen. -/
def lateStart : Lifetime Reference Unit :=
  Lifetime.construct (reference false) (Reference.fresh []) 0 ()

/-- The run goes through and no step is harmed. -/
theorem nothing_used_after_gone_late :
    (run (Lifetime.step (reference false)) lateStart lateEvents).isOk = true ∧
      ∀ attempt ∈ attempts (Lifetime.step (reference false)) lateStart lateEvents,
        Unharmed (reference false) attempt :=
  ⟨by decide, nothing_used_after_gone (reference_contract false) (reference_deletesReaders false)
    (Reference.fresh []) 0 () ⟨1⟩ ⟨.writer, ⟨1⟩, 2⟩ ⟨.reader, ⟨1⟩, 1⟩ (by decide) (by decide)
    (by decide) lateEvents (by decide)⟩

end FastDdsWrapper
