import Mathlib.Data.Finset.Basic
import Mathlib.Tactic.Simps.Basic

/-!
# The middleware as the wrapper sees it

The wrapper drives Fast DDS, which is a parameter of this development. A `Middleware` gives the
calls the wrapper makes, as functions of a state the wrapper cannot see into, together with the
entities that state holds. `Contract` collects what the wrapper relies on: every creating call may
refuse, an accepted call adds exactly the new entity, and a deletion that answers OK removes
exactly its entity and was not blocked by another one. The predicates after it name the further
promises that single results need. None of them fixes when a call is refused.
-/

namespace FastDdsWrapper

/-- Publishers hold data writers and subscribers hold data readers. -/
inductive EndpointKind
  /-- `Publisher`, `DataWriter` and `DDSTopicDataWriter`. -/
  | writer
  /-- `Subscriber`, `DataReader` and `DDSTopicDataReader`. -/
  | reader
deriving DecidableEq

/-- A middleware `DomainParticipant`. -/
structure DomainParticipant where
  /-- Identity of the object. -/
  id : Nat
deriving DecidableEq

/-- A `Publisher` or a `Subscriber`. -/
structure Group where
  /-- Which of the two it is. -/
  kind : EndpointKind
  /-- Participant that created it. -/
  participant : DomainParticipant
  /-- Identity of the object. -/
  id : Nat
deriving DecidableEq

/-- A `Topic`. -/
structure Topic where
  /-- Participant that created it. -/
  participant : DomainParticipant
  /-- Identity of the object. -/
  id : Nat
  /-- `get_name()`. -/
  name : String
  /-- `get_type_name()`. -/
  typeName : String
deriving DecidableEq

/-- A `TopicDataType` object. -/
structure TopicDataType where
  /-- Identity of the object, what a pointer to it denotes. -/
  id : Nat
  /-- `getName()`. -/
  name : String
deriving DecidableEq

/-- A `DataWriter` or a `DataReader`. -/
structure DataEndpoint where
  /-- Publisher or subscriber that created it. -/
  group : Group
  /-- Topic it was created for. -/
  topic : Topic
  /-- Object whose listener member it was given. -/
  listener : Nat
  /-- Identity of the object. -/
  id : Nat
deriving DecidableEq

/-- `ReturnCode_t`; the wrapper only tells `RETCODE_OK` from the rest. -/
inductive ReturnCode
  /-- `RETCODE_OK`. -/
  | ok
  /-- Any other code. -/
  | failed (errcode : Nat)
deriving DecidableEq

/-- The entities a middleware state holds. -/
structure Holdings where
  /-- Participants of the factory. -/
  participants : Finset DomainParticipant
  /-- Publishers and subscribers. -/
  groups : Finset Group
  /-- Topics. -/
  topics : Finset Topic
  /-- The type table of each participant. -/
  types : DomainParticipant → String → Option TopicDataType
  /-- Data writers and data readers. -/
  endpoints : Finset DataEndpoint

namespace Holdings

/-- A new participant starts with an empty type table. -/
@[simps] def addParticipant (held : Holdings) (participant : DomainParticipant) : Holdings :=
  { held with
    participants := insert participant held.participants
    types := fun owner => if owner = participant then fun _ => none else held.types owner }

/-- A participant leaves with its type table. -/
@[simps] def removeParticipant (held : Holdings) (participant : DomainParticipant) : Holdings :=
  { held with
    participants := held.participants.erase participant
    types := fun owner => if owner = participant then fun _ => none else held.types owner }

/-- One more publisher or subscriber. -/
@[simps] def addGroup (held : Holdings) (group : Group) : Holdings :=
  { held with groups := insert group held.groups }

/-- One more topic. -/
@[simps] def addTopic (held : Holdings) (topic : Topic) : Holdings :=
  { held with topics := insert topic held.topics }

/-- One topic less. -/
@[simps] def removeTopic (held : Holdings) (topic : Topic) : Holdings :=
  { held with topics := held.topics.erase topic }

/-- A type recorded under its own name. -/
@[simps] def addType (held : Holdings) (participant : DomainParticipant)
    (dataType : TopicDataType) : Holdings :=
  { held with
    types := fun owner name =>
      if owner = participant ∧ name = dataType.name then some dataType else held.types owner name }

/-- One more data writer or data reader. -/
@[simps] def addEndpoint (held : Holdings) (endpoint : DataEndpoint) : Holdings :=
  { held with endpoints := insert endpoint held.endpoints }

/-- One data writer or data reader less. -/
@[simps] def removeEndpoint (held : Holdings) (endpoint : DataEndpoint) : Holdings :=
  { held with endpoints := held.endpoints.erase endpoint }

/-- Some data writer or data reader uses the topic. -/
def Uses (held : Holdings) (topic : Topic) : Prop :=
  ∃ endpoint ∈ held.endpoints, endpoint.topic = topic

/-- The participant has contained entities. -/
def Owns (held : Holdings) (participant : DomainParticipant) : Prop :=
  (∃ group ∈ held.groups, group.participant = participant) ∨
    (∃ topic ∈ held.topics, topic.participant = participant) ∨
    ∃ endpoint ∈ held.endpoints,
      endpoint.group.participant = participant ∨ endpoint.topic.participant = participant

instance (held : Holdings) (topic : Topic) : Decidable (held.Uses topic) :=
  inferInstanceAs (Decidable (∃ endpoint ∈ held.endpoints, endpoint.topic = topic))

instance (held : Holdings) (participant : DomainParticipant) : Decidable (held.Owns participant) :=
  inferInstanceAs (Decidable (_ ∨ _ ∨ _))

end Holdings

/-- The calls of Fast DDS that the wrapper makes. `Qos` stands for the quality-of-service settings,
which the wrapper passes on unread, and `Message` for what a `void *` sample points at. -/
structure Middleware (σ Qos Message : Type) where
  /-- The entities a state holds. -/
  holdings : σ → Holdings
  /-- `SUBSCRIBER_QOS_DEFAULT`. -/
  subscriberQosDefault : Qos
  /-- `PUBLISHER_QOS_DEFAULT`. -/
  publisherQosDefault : Qos
  /-- `TOPIC_QOS_DEFAULT`. -/
  topicQosDefault : Qos
  /-- `DATAWRITER_QOS_DEFAULT`. -/
  dataWriterQosDefault : Qos
  /-- `DATAREADER_QOS_DEFAULT`. -/
  dataReaderQosDefault : Qos
  /-- `DomainParticipantFactory::create_participant`. -/
  createParticipant : σ → Int → Qos → Option DomainParticipant × σ
  /-- `DomainParticipantFactory::delete_participant`. -/
  deleteParticipant : σ → DomainParticipant → ReturnCode × σ
  /-- `DomainParticipant::create_subscriber`. -/
  createSubscriber : σ → DomainParticipant → Qos → Option Group × σ
  /-- `DomainParticipant::create_publisher`. -/
  createPublisher : σ → DomainParticipant → Qos → Option Group × σ
  /-- `TypeSupport::register_type`; the flag says whether the participant kept a copy of the
  `TypeSupport`. -/
  registerType : σ → DomainParticipant → TopicDataType → (ReturnCode × Bool) × σ
  /-- `DomainParticipant::create_topic` with a topic name and a type name. -/
  createTopic : σ → DomainParticipant → String → String → Qos → Option Topic × σ
  /-- `DomainParticipant::delete_topic`. -/
  deleteTopic : σ → DomainParticipant → Topic → ReturnCode × σ
  /-- `Publisher::create_datawriter` with a listener. -/
  createDatawriter : σ → Group → Topic → Qos → Nat → Option DataEndpoint × σ
  /-- `Subscriber::create_datareader` with a listener. -/
  createDatareader : σ → Group → Topic → Qos → Nat → Option DataEndpoint × σ
  /-- `Publisher::delete_datawriter`. -/
  deleteDatawriter : σ → Group → DataEndpoint → ReturnCode × σ
  /-- `Subscriber::delete_datareader`. -/
  deleteDatareader : σ → Group → DataEndpoint → ReturnCode × σ
  /-- `DataWriter::write`. -/
  write : σ → DataEndpoint → Message → Bool × σ

variable {σ Qos Message : Type}

/-- The deleting call for data endpoints of a kind. -/
def Middleware.deleteEndpoint (api : Middleware σ Qos Message) :
    EndpointKind → σ → Group → DataEndpoint → ReturnCode × σ
  | .writer => api.deleteDatawriter
  | .reader => api.deleteDatareader

/-- A creating call for publishers or subscribers refuses and changes nothing, or adds a new one of
its kind. -/
def AddsGroup (holdings : σ → Holdings) (kind : EndpointKind)
    (create : σ → DomainParticipant → Qos → Option Group × σ) : Prop :=
  ∀ state participant qos,
    match create state participant qos with
    | (none, next) => holdings next = holdings state
    | (some group, next) =>
      group.kind = kind ∧ group.participant = participant ∧ group ∉ (holdings state).groups ∧
        holdings next = (holdings state).addGroup group

/-- A creating call for data writers or data readers refuses and changes nothing, or adds a new one
that uses the topic. -/
def AddsEndpoint (holdings : σ → Holdings)
    (create : σ → Group → Topic → Qos → Nat → Option DataEndpoint × σ) : Prop :=
  ∀ state group topic qos listener,
    match create state group topic qos listener with
    | (none, next) => holdings next = holdings state
    | (some endpoint, next) =>
      endpoint.group = group ∧ endpoint.topic = topic ∧ endpoint.listener = listener ∧
        endpoint ∉ (holdings state).endpoints ∧
        holdings next = (holdings state).addEndpoint endpoint

/-- A deleting call for data writers or data readers removes its endpoint or changes nothing. -/
def RemovesEndpoint (holdings : σ → Holdings)
    (delete : σ → Group → DataEndpoint → ReturnCode × σ) : Prop :=
  ∀ state group endpoint,
    match delete state group endpoint with
    | (.ok, next) => holdings next = (holdings state).removeEndpoint endpoint
    | (.failed _, next) => holdings next = holdings state

/-- What the wrapper relies on. -/
structure Contract (api : Middleware σ Qos Message) : Prop where
  /-- `create_participant` returns null or a new participant that owns nothing. -/
  createParticipant : ∀ state domainId qos,
    match api.createParticipant state domainId qos with
    | (none, next) => api.holdings next = api.holdings state
    | (some participant, next) =>
      participant ∉ (api.holdings state).participants ∧
        ¬ (api.holdings state).Owns participant ∧
        api.holdings next = (api.holdings state).addParticipant participant
  /-- `delete_participant` deletes only a participant that owns nothing. -/
  deleteParticipant : ∀ state participant,
    match api.deleteParticipant state participant with
    | (.ok, next) => ¬ (api.holdings state).Owns participant ∧
        api.holdings next = (api.holdings state).removeParticipant participant
    | (.failed _, next) => api.holdings next = api.holdings state
  /-- `create_subscriber` returns null or a new subscriber. -/
  createSubscriber : AddsGroup api.holdings .reader api.createSubscriber
  /-- `create_publisher` returns null or a new publisher. -/
  createPublisher : AddsGroup api.holdings .writer api.createPublisher
  /-- `register_type` answers OK for a new name, which it records with a copy of the `TypeSupport`,
  or for the very object already recorded, and changes nothing otherwise. -/
  registerType : ∀ state participant dataType,
    match api.registerType state participant dataType with
    | ((.ok, kept), next) =>
      ((api.holdings state).types participant dataType.name = none ∧ kept = true ∧
        api.holdings next = (api.holdings state).addType participant dataType) ∨
      ((api.holdings state).types participant dataType.name = some dataType ∧ kept = false ∧
        api.holdings next = api.holdings state)
    | ((.failed _, kept), next) => kept = false ∧ api.holdings next = api.holdings state
  /-- `create_topic` returns null or a new topic of the given name and type name. -/
  createTopic : ∀ state participant name typeName qos,
    match api.createTopic state participant name typeName qos with
    | (none, next) => api.holdings next = api.holdings state
    | (some topic, next) =>
      topic.participant = participant ∧ topic.name = name ∧ topic.typeName = typeName ∧
        topic ∉ (api.holdings state).topics ∧
        api.holdings next = (api.holdings state).addTopic topic
  /-- `delete_topic` deletes only a topic without data writers and data readers. -/
  deleteTopic : ∀ state participant topic,
    match api.deleteTopic state participant topic with
    | (.ok, next) => ¬ (api.holdings state).Uses topic ∧
        api.holdings next = (api.holdings state).removeTopic topic
    | (.failed _, next) => api.holdings next = api.holdings state
  /-- `create_datawriter` returns null or a new data writer on the topic. -/
  createDatawriter : AddsEndpoint api.holdings api.createDatawriter
  /-- `create_datareader` returns null or a new data reader on the topic. -/
  createDatareader : AddsEndpoint api.holdings api.createDatareader
  /-- `delete_datawriter` removes its data writer or nothing. -/
  deleteDatawriter : RemovesEndpoint api.holdings api.deleteDatawriter
  /-- `delete_datareader` removes its data reader or nothing. -/
  deleteDatareader : RemovesEndpoint api.holdings api.deleteDatareader
  /-- `write` creates and deletes nothing. -/
  write : ∀ state endpoint message,
    api.holdings (api.write state endpoint message).2 = api.holdings state

/-- `delete_participant` deletes a participant that owns nothing. -/
def DeletesBareParticipants (api : Middleware σ Qos Message) : Prop :=
  ∀ state participant, participant ∈ (api.holdings state).participants →
    ¬ (api.holdings state).Owns participant → (api.deleteParticipant state participant).1 = .ok

/-- `register_type` accepts every type name that is not registered yet. -/
def AcceptsNewTypes (api : Middleware σ Qos Message) : Prop :=
  ∀ state participant dataType, participant ∈ (api.holdings state).participants →
    (api.holdings state).types participant dataType.name = none →
    (api.registerType state participant dataType).1.1 = .ok

/-- `create_topic` succeeds under the given settings for a free name and a registered type. -/
def GrantsTopics (api : Middleware σ Qos Message) (topicQos : Qos) : Prop :=
  ∀ state participant name typeName, participant ∈ (api.holdings state).participants →
    (∀ topic ∈ (api.holdings state).topics, topic.participant = participant → topic.name ≠ name) →
    (api.holdings state).types participant typeName ≠ none →
    (api.createTopic state participant name typeName topicQos).1 ≠ none

/-- `delete_datareader` succeeds for a data reader of its own, existing subscriber. -/
def DeletesReaders (api : Middleware σ Qos Message) : Prop :=
  ∀ state, ∀ endpoint ∈ (api.holdings state).endpoints,
    endpoint.group ∈ (api.holdings state).groups → endpoint.group.kind = .reader →
      (api.deleteDatareader state endpoint.group endpoint).1 = .ok

/-- `delete_topic` deletes a topic of its own participant that nothing uses. -/
def DeletesUnusedTopics (api : Middleware σ Qos Message) : Prop :=
  ∀ state, ∀ topic ∈ (api.holdings state).topics,
    topic.participant ∈ (api.holdings state).participants → ¬ (api.holdings state).Uses topic →
      (api.deleteTopic state topic.participant topic).1 = .ok

end FastDdsWrapper
