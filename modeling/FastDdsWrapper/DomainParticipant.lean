import Mathlib.Data.Finmap
import FastDdsWrapper.Machine
import FastDdsWrapper.Middleware

/-!
# The participant object and its endpoint wrappers

`DDSDomainParticipant` creates one middleware participant with a subscriber and a publisher, keeps
the topics it registered in `m_mapTopics`, and hands out `DDSTopicDataWriter` and
`DDSTopicDataReader` objects. Its four topic calls run under `m_topicLock`, so each is one step;
the destructor of an endpoint object takes no lock and is a step of its own.

Using a pointer that is null, was never assigned or names something already gone is a fault, after
which the process has no defined state.
-/

namespace FastDdsWrapper

/-- Undefined behaviour of a pointer that is used. -/
inductive Fault
  /-- The pointer is null. -/
  | nullPointer
  /-- The pointer member was never assigned. -/
  | unassignedPointer
  /-- The middleware entity is deleted. -/
  | danglingPointer
  /-- The data type object is deleted. -/
  | destroyedDataType
  /-- The listener member is gone. -/
  | destroyedListener
  /-- The listener's `m_callback` is empty. -/
  | emptyCallback
deriving DecidableEq

/-- A pointer member that a constructor may leave unassigned. -/
inductive Pointer (α : Type)
  /-- Indeterminate value. -/
  | unassigned
  /-- Null. -/
  | null
  /-- Address of an object. -/
  | address (target : α)
deriving DecidableEq

namespace Pointer

variable {α : Type}

/-- The pointer a creating call returned. -/
def ofOption : Option α → Pointer α
  | none => .null
  | some target => .address target

/-- Use a pointer whose object must be one of the live ones. -/
def deref [DecidableEq α] (live : Finset α) : Pointer α → Except Fault α
  | .unassigned => .error .unassignedPointer
  | .null => .error .nullPointer
  | .address target => if target ∈ live then .ok target else .error .danglingPointer

/-- A pointer is usable exactly when it names a live object. -/
theorem deref_ok [DecidableEq α] {live : Finset α} {pointer : Pointer α} {target : α} :
    pointer.deref live = .ok target ↔ pointer = .address target ∧ target ∈ live := by
  cases pointer with
  | unassigned => simp [deref]
  | null => simp [deref]
  | address other =>
    by_cases member : other ∈ live
    · simp only [deref, member, ↓reduceIte, Except.ok.injEq, Pointer.address.injEq]
      exact ⟨fun same => ⟨same, same ▸ member⟩, And.left⟩
    · simp only [deref, member, ↓reduceIte, reduceCtorEq, Pointer.address.injEq, false_iff, not_and]
      exact fun same inside => member (same ▸ inside)

/-- Using a pointer finds null exactly when the pointer is null. -/
theorem deref_null [DecidableEq α] {live : Finset α} {pointer : Pointer α} :
    pointer.deref live = .error .nullPointer ↔ pointer = .null := by
  cases pointer with
  | unassigned => simp [deref]
  | null => simp [deref]
  | address target =>
    by_cases member : target ∈ live
    · simp [deref, member]
    · simp [deref, member]

/-- A live target is returned. -/
@[simp] theorem deref_address [DecidableEq α] {live : Finset α} {target : α}
    (member : target ∈ live) : (Pointer.address target).deref live = .ok target := by
  simp [deref, member]

/-- A returned pointer names an object exactly when the call returned it. -/
@[simp] theorem ofOption_eq_address {result : Option α} {target : α} :
    ofOption result = .address target ↔ result = some target := by
  cases result <;> simp [ofOption]

/-- A returned pointer is null exactly when the call returned nothing. -/
@[simp] theorem ofOption_eq_null {result : Option α} : ofOption result = .null ↔ result = none := by
  cases result <;> simp [ofOption]

/-- A returned pointer is assigned. -/
theorem ofOption_ne_unassigned (result : Option α) : ofOption result ≠ .unassigned := by
  cases result <;> simp [ofOption]

end Pointer

/-- `DDSDomainParticipant`. The mutex has no field because each locked call is one step, and the
participant listener has none because it is never installed. -/
structure DDSDomainParticipant where
  /-- `m_participant`, null when the factory refused. -/
  participant : Option DomainParticipant
  /-- `m_subscriber`. -/
  subscriber : Pointer Group
  /-- `m_publisher`. -/
  publisher : Pointer Group
  /-- `m_mapTopics`, from topic names to pointers. -/
  mapTopics : Finmap fun _ : String => Option Topic

/-- A participant object with the outside it acts on. -/
structure Host (σ : Type) where
  /-- The object. -/
  self : DDSDomainParticipant
  /-- State of the middleware. -/
  middleware : σ
  /-- Data type objects deleted so far, in order. -/
  destroyed : List TopicDataType

/-- A `DDSTopicDataWriter` or `DDSTopicDataReader` object. -/
structure Endpoint where
  /-- Which of the two classes. -/
  kind : EndpointKind
  /-- Identity of the object and of its listener member. -/
  object : Nat
  /-- Topic name of the call that created it. -/
  topicName : String
  /-- `m_publisher` or `m_subscriber`. -/
  group : Group
  /-- `m_dataWriter` or `m_dataReader`, null when the middleware refused. -/
  data : Option DataEndpoint
deriving DecidableEq

variable {σ Qos Message : Type}

/-- `DDSDomainParticipant::DDSDomainParticipant`: a refused participant leaves the two other
pointers unassigned. -/
def DDSDomainParticipant.construct (api : Middleware σ Qos Message) (middleware : σ)
    (domainId : Int) (participantQos : Qos) : DDSDomainParticipant × σ :=
  match api.createParticipant middleware domainId participantQos with
  | (none, middleware) => (⟨none, .unassigned, .unassigned, ∅⟩, middleware)
  | (some participant, middleware) =>
    match api.createSubscriber middleware participant api.subscriberQosDefault with
    | (subscriber, middleware) =>
      match api.createPublisher middleware participant api.publisherQosDefault with
      | (publisher, middleware) =>
        (⟨some participant, .ofOption subscriber, .ofOption publisher, ∅⟩, middleware)

/-- `DDSDomainParticipant::~DDSDomainParticipant`; the code `delete_participant` answers is
dropped. -/
def DDSDomainParticipant.destruct (api : Middleware σ Qos Message) (self : DDSDomainParticipant)
    (middleware : σ) : Except Fault σ :=
  match self.participant with
  | none => .ok middleware
  | some participant =>
    if participant ∈ (api.holdings middleware).participants then
      .ok (api.deleteParticipant middleware participant).2
    else .error .danglingPointer

namespace Host

/-- `m_participant->`, with the liveness the call needs. -/
def derefParticipant (api : Middleware σ Qos Message) (host : Host σ) :
    Except Fault DomainParticipant :=
  (Pointer.ofOption host.self.participant).deref (api.holdings host.middleware).participants

/-- The local `TypeSupport` owns its data type object alone, so leaving the scope deletes the object
unless the type table kept a copy. -/
def leaveScope (host : Host σ) (dataType : TopicDataType) (kept : Bool) : Host σ :=
  if kept then host else { host with destroyed := host.destroyed ++ [dataType] }

/-- Leaving the scope touches only the data type object. -/
@[simp] theorem leaveScope_self (host : Host σ) (dataType : TopicDataType) (kept : Bool) :
    (host.leaveScope dataType kept).self = host.self := by
  cases kept <;> rfl

/-- Leaving the scope makes no middleware call. -/
@[simp] theorem leaveScope_middleware (host : Host σ) (dataType : TopicDataType) (kept : Bool) :
    (host.leaveScope dataType kept).middleware = host.middleware := by
  cases kept <;> rfl

/-- A kept object is not deleted. -/
@[simp] theorem leaveScope_kept (host : Host σ) (dataType : TopicDataType) :
    host.leaveScope dataType true = host := rfl

/-- An object nobody kept is deleted. -/
@[simp] theorem leaveScope_dropped (host : Host σ) (dataType : TopicDataType) :
    host.leaveScope dataType false =
      { host with destroyed := host.destroyed ++ [dataType] } := rfl

/-- `m_mapTopics.insert` for a name that is not in the map. -/
def insertTopic (host : Host σ) (topicName : String) (topic : Topic) : Host σ :=
  { host with self.mapTopics := host.self.mapTopics.insert topicName (some topic) }

/-- `m_mapTopics.erase`. -/
def eraseTopic (host : Host σ) (topicName : String) : Host σ :=
  { host with self.mapTopics := host.self.mapTopics.erase topicName }

/-- An insertion changes the map alone. -/
@[simp] theorem insertTopic_self (host : Host σ) (topicName : String) (topic : Topic) :
    (host.insertTopic topicName topic).self =
      { host.self with mapTopics := host.self.mapTopics.insert topicName (some topic) } := rfl

/-- An insertion makes no middleware call. -/
@[simp] theorem insertTopic_middleware (host : Host σ) (topicName : String) (topic : Topic) :
    (host.insertTopic topicName topic).middleware = host.middleware := rfl

/-- An erasure changes the map alone. -/
@[simp] theorem eraseTopic_self (host : Host σ) (topicName : String) :
    (host.eraseTopic topicName).self =
      { host.self with mapTopics := host.self.mapTopics.erase topicName } := rfl

/-- An erasure makes no middleware call. -/
@[simp] theorem eraseTopic_middleware (host : Host σ) (topicName : String) :
    (host.eraseTopic topicName).middleware = host.middleware := rfl

end Host

/-- `DDSDomainParticipant::registerTopic`. -/
def registerTopic (api : Middleware σ Qos Message) (host : Host σ) (topicName : String)
    (dataType : Option TopicDataType) (topicQos : Qos) : Except Fault (Bool × Host σ) :=
  match dataType with
  | none => .ok (false, host)
  | some dataType =>
    -- Every path below reads the object or deletes it.
    if dataType ∈ host.destroyed then .error .destroyedDataType
    else if topicName ∈ host.self.mapTopics then .ok (true, host.leaveScope dataType false)
    else do
      let participant ← host.derefParticipant api
      match api.registerType host.middleware participant dataType with
      | ((.failed _, kept), middleware) =>
        .ok (false, { host with middleware }.leaveScope dataType kept)
      | ((.ok, kept), middleware) =>
        match api.createTopic middleware participant topicName dataType.name topicQos with
        | (none, middleware) => .ok (true, { host with middleware }.leaveScope dataType kept)
        | (some topic, middleware) =>
          .ok (true,
            ({ host with middleware }.insertTopic topicName topic).leaveScope dataType kept)

/-- `DDSDomainParticipant::unregisterTopic`. -/
def unregisterTopic (api : Middleware σ Qos Message) (host : Host σ) (topicName : String) :
    Except Fault (Bool × Host σ) :=
  match host.self.mapTopics.lookup topicName with
  | none => .ok (true, host)
  | some none => .ok (true, host.eraseTopic topicName)
  | some (some topic) => do
    let participant ← host.derefParticipant api
    let topic ← (Pointer.address topic).deref (api.holdings host.middleware).topics
    match api.deleteTopic host.middleware participant topic with
    | (.failed _, middleware) => .ok (false, { host with middleware })
    | (.ok, middleware) => .ok (true, { host with middleware }.eraseTopic topicName)

/-- The constructors `DDSTopicDataWriter::DDSTopicDataWriter` and
`DDSTopicDataReader::DDSTopicDataReader`: one creating call, whose result is stored unchecked. The
reader also stores its callback first. -/
def constructEndpoint (api : Middleware σ Qos Message)
    (create : σ → Group → Topic → Qos → Nat → Option DataEndpoint × σ) (kind : EndpointKind)
    (middleware : σ) (group : Pointer Group) (topic : Option Topic) (qos : Qos)
    (topicName : String) (object : Nat) : Except Fault (Endpoint × σ) := do
  let group ← group.deref (api.holdings middleware).groups
  let topic ← (Pointer.ofOption topic).deref (api.holdings middleware).topics
  match create middleware group topic qos object with
  | (data, middleware) => .ok (⟨kind, object, topicName, group, data⟩, middleware)

/-- The lookup shared by the two creating methods of `DDSDomainParticipant`. -/
def createEndpoint (api : Middleware σ Qos Message)
    (create : σ → Group → Topic → Qos → Nat → Option DataEndpoint × σ) (kind : EndpointKind)
    (group : Pointer Group) (host : Host σ) (topicName : String) (qos : Qos) (object : Nat) :
    Except Fault (Option Endpoint × σ) :=
  match host.self.mapTopics.lookup topicName with
  | none => .ok (none, host.middleware)
  | some topic => do
    let (endpoint, middleware) ←
      constructEndpoint api create kind host.middleware group topic qos topicName object
    .ok (some endpoint, middleware)

/-- `DDSDomainParticipant::createDataWriter`. -/
def createDataWriter (api : Middleware σ Qos Message) (host : Host σ) (topicName : String)
    (dataWriterQos : Qos) (object : Nat) : Except Fault (Option Endpoint × σ) :=
  createEndpoint api api.createDatawriter .writer host.self.publisher host topicName dataWriterQos
    object

/-- `DDSDomainParticipant::createDataReader`. -/
def createDataReader (api : Middleware σ Qos Message) (host : Host σ) (topicName : String)
    (dataReaderQos : Qos) (object : Nat) : Except Fault (Option Endpoint × σ) :=
  createEndpoint api api.createDatareader .reader host.self.subscriber host topicName dataReaderQos
    object

/-- `DDSTopicDataWriter::~DDSTopicDataWriter` deletes without looking at `m_dataWriter`. -/
def destructDataWriter (api : Middleware σ Qos Message) (middleware : σ) (endpoint : Endpoint) :
    Except Fault σ := do
  let publisher ← (Pointer.address endpoint.group).deref (api.holdings middleware).groups
  let dataWriter ← (Pointer.ofOption endpoint.data).deref (api.holdings middleware).endpoints
  .ok (api.deleteDatawriter middleware publisher dataWriter).2

/-- `DDSTopicDataReader::~DDSTopicDataReader` deletes only a non-null `m_dataReader`. -/
def destructDataReader (api : Middleware σ Qos Message) (middleware : σ) (endpoint : Endpoint) :
    Except Fault σ :=
  match endpoint.data with
  | none => .ok middleware
  | some dataReader => do
    let subscriber ← (Pointer.address endpoint.group).deref (api.holdings middleware).groups
    let dataReader ← (Pointer.address dataReader).deref (api.holdings middleware).endpoints
    .ok (api.deleteDatareader middleware subscriber dataReader).2

/-- The destructor of the object's own class. -/
def destructEndpoint (api : Middleware σ Qos Message) (middleware : σ) (endpoint : Endpoint) :
    Except Fault σ :=
  match endpoint.kind with
  | .writer => destructDataWriter api middleware endpoint
  | .reader => destructDataReader api middleware endpoint

/-- `DDSTopicDataWriter::writeMessage`. -/
def writeMessage (api : Middleware σ Qos Message) (middleware : σ) (endpoint : Endpoint)
    (message : Message) : Except Fault (Bool × σ) := do
  let dataWriter ← (Pointer.ofOption endpoint.data).deref (api.holdings middleware).endpoints
  .ok (api.write middleware dataWriter message)

/-! ## The process around one participant object -/

/-- One participant object and the endpoint objects it returned that still exist. -/
structure World (σ : Type) extends Host σ where
  /-- Endpoint objects not yet destroyed, oldest first. -/
  endpoints : List Endpoint
  /-- Identity of the next endpoint object. -/
  nextObject : Nat

/-- A call by some thread. A list of calls is one interleaving of any number of threads. -/
inductive Call (Qos Message : Type)
  /-- `registerTopic`. -/
  | registerTopic (topicName : String) (dataType : Option TopicDataType) (topicQos : Qos)
  /-- `unregisterTopic`. -/
  | unregisterTopic (topicName : String)
  /-- `createDataWriter`. -/
  | createDataWriter (topicName : String) (dataWriterQos : Qos)
  /-- `createDataReader`. -/
  | createDataReader (topicName : String) (dataReaderQos : Qos)
  /-- `writeMessage` on a writer object. -/
  | writeMessage (object : Nat) (message : Message)
  /-- Destruction of a writer or reader object. -/
  | destroyEndpoint (kind : EndpointKind) (object : Nat)

/-- The call is one of the four locked methods. -/
def Call.Locked : Call Qos Message → Prop
  | .writeMessage _ _ => False
  | .destroyEndpoint _ _ => False
  | _ => True

instance : DecidablePred (@Call.Locked Qos Message)
  | .registerTopic _ _ _ => isTrue trivial
  | .unregisterTopic _ => isTrue trivial
  | .createDataWriter _ _ => isTrue trivial
  | .createDataReader _ _ => isTrue trivial
  | .writeMessage _ _ => isFalse id
  | .destroyEndpoint _ _ => isFalse id

/-- What a call returns. -/
inductive Answer
  /-- Nothing. -/
  | none
  /-- A `bool`. -/
  | flag (value : Bool)
  /-- A pointer to an endpoint object, perhaps null. -/
  | endpoint (result : Option Endpoint)
deriving DecidableEq

namespace World

/-- The world right after the constructor. -/
def construct (api : Middleware σ Qos Message) (middleware : σ) (domainId : Int)
    (participantQos : Qos) : World σ :=
  match DDSDomainParticipant.construct api middleware domainId participantQos with
  | (self, middleware) => ⟨⟨self, middleware, []⟩, [], 0⟩

/-- Store the endpoint object a creating method returned. -/
def adopt (world : World σ) (result : Option Endpoint × σ) : Answer × World σ :=
  match result with
  | (none, middleware) => (.endpoint none, { world with middleware })
  | (some endpoint, middleware) =>
    (.endpoint (some endpoint),
      { world with
        middleware
        endpoints := world.endpoints ++ [endpoint]
        nextObject := world.nextObject + 1 })

/-- The call returns what the creating method returned. -/
@[simp] theorem adopt_answer (world : World σ) (result : Option Endpoint × σ) :
    (world.adopt result).1 = .endpoint result.1 := by
  obtain ⟨endpoint, middleware⟩ := result
  cases endpoint <;> rfl

/-- The existing endpoint object of a class and identity. -/
def find (world : World σ) (kind : EndpointKind) (object : Nat) : Option Endpoint :=
  world.endpoints.find? fun endpoint => endpoint.kind == kind && endpoint.object == object

/-- One call. A call on an endpoint object that does not exist is no call and changes nothing. -/
def step (api : Middleware σ Qos Message) :
    Machine.Step (World σ) (Call Qos Message) Answer Fault := fun world call =>
  match call with
  | .registerTopic topicName dataType topicQos => do
    let (value, host) ← registerTopic api world.toHost topicName dataType topicQos
    .ok (.flag value, { world with toHost := host })
  | .unregisterTopic topicName => do
    let (value, host) ← unregisterTopic api world.toHost topicName
    .ok (.flag value, { world with toHost := host })
  | .createDataWriter topicName dataWriterQos => do
    let result ← createDataWriter api world.toHost topicName dataWriterQos world.nextObject
    .ok (world.adopt result)
  | .createDataReader topicName dataReaderQos => do
    let result ← createDataReader api world.toHost topicName dataReaderQos world.nextObject
    .ok (world.adopt result)
  | .writeMessage object message =>
    match world.find .writer object with
    | none => .ok (.none, world)
    | some endpoint => do
      let (value, middleware) ← writeMessage api world.middleware endpoint message
      .ok (.flag value, { world with middleware })
  | .destroyEndpoint kind object =>
    match world.find kind object with
    | none => .ok (.none, world)
    | some endpoint => do
      let middleware ← destructEndpoint api world.middleware endpoint
      .ok (.none, { world with middleware, endpoints := world.endpoints.erase endpoint })

end World

end FastDdsWrapper
