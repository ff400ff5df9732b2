import Mathlib.Data.Finset.Lattice.Fold
import Mathlib.Data.Finset.Image
import Mathlib.Order.Lattice.Nat
import FastDdsWrapper.Middleware

/-!
# A middleware in memory

`reference` is the smallest middleware that behaves as the wrapper expects of Fast DDS: it refuses a
second topic of one name, a second type of one name and every deletion that something else still
needs. The scripted variant also refuses the creating calls its script says, so both answers of
every creating call can be exercised.
-/

namespace FastDdsWrapper

/-- The entities held and the answers still in the script, where `true` refuses. -/
structure Reference where
  /-- The entities. -/
  held : Holdings
  /-- Answers to the next creating calls. -/
  refusals : List Bool

namespace Reference

/-- Nothing held, with a script. -/
def fresh (refusals : List Bool) : Reference :=
  ⟨⟨∅, ∅, ∅, fun _ _ => none, ∅⟩, refusals⟩

/-- The next answer of the script; an unscripted middleware never refuses. -/
def ask (scripted : Bool) (state : Reference) : Bool × Reference :=
  match scripted, state.refusals with
  | true, refusal :: rest => (refusal, { state with refusals := rest })
  | _, _ => (false, state)

/-- Asking leaves the entities alone. -/
theorem ask_held (scripted : Bool) (state : Reference) :
    (state.ask scripted).2.held = state.held := by
  unfold ask
  split <;> rfl

/-- An identity above all those in use. -/
def unused (ids : Finset Nat) : Nat := ids.sup id + 1

/-- It is not in use. -/
theorem unused_not_mem (ids : Finset Nat) : unused ids ∉ ids := by
  intro member
  have bound : unused ids ≤ ids.sup id := Finset.le_sup (f := id) member
  unfold unused at bound
  omega

/-- A new member gets an identity no member has. -/
theorem image_unused {α : Type} [DecidableEq α] (identity : α → Nat) (members : Finset α)
    (entity : α) (fresh : identity entity = unused (members.image identity)) :
    entity ∉ members := by
  intro member
  have taken := Finset.mem_image_of_mem identity member
  rw [fresh] at taken
  exact unused_not_mem _ taken

/-- A creating call: refused by the script or by a rule, and carried out otherwise. -/
def create {α : Type} (scripted : Bool) (state : Reference) (allowed : Bool) (entity : α)
    (add : Holdings → α → Holdings) : Option α × Reference :=
  if (state.ask scripted).1 || !allowed then (none, (state.ask scripted).2)
  else (some entity, { (state.ask scripted).2 with held := add state.held entity })

/-- A creating call refuses and changes no entity, or adds the entity as the rule allows. -/
theorem create_cases {α : Type} (scripted : Bool) (state : Reference) (allowed : Bool) (entity : α)
    (add : Holdings → α → Holdings) :
    match state.create scripted allowed entity add with
    | (none, next) => next.held = state.held
    | (some made, next) => made = entity ∧ allowed = true ∧ next.held = add state.held entity := by
  by_cases refused : ((state.ask scripted).1 || !allowed) = true
  · simp only [create, refused, ↓reduceIte]
    exact ask_held scripted state
  · simp only [create, refused]
    cases allowed with
    | true => exact ⟨rfl, rfl, rfl⟩
    | false => simp at refused

/-- Participant identities mentioned by any entity. -/
def participantIds (held : Holdings) : Finset Nat :=
  held.participants.image DomainParticipant.id ∪
    (held.groups.image fun group => group.participant.id) ∪
    (held.topics.image fun topic => topic.participant.id) ∪
    (held.endpoints.image fun endpoint => endpoint.group.participant.id) ∪
    held.endpoints.image fun endpoint => endpoint.topic.participant.id

/-- `create_participant`. -/
def createParticipant (scripted : Bool) (state : Reference) :
    Option DomainParticipant × Reference :=
  state.create scripted true ⟨unused (participantIds state.held)⟩ Holdings.addParticipant

/-- `create_subscriber` and `create_publisher`. -/
def createGroup (scripted : Bool) (kind : EndpointKind) (state : Reference)
    (participant : DomainParticipant) : Option Group × Reference :=
  state.create scripted true ⟨kind, participant, unused (state.held.groups.image Group.id)⟩
    Holdings.addGroup

/-- `create_topic` wants a free name and a registered type. -/
def createTopic (scripted : Bool) (state : Reference) (participant : DomainParticipant)
    (name typeName : String) : Option Topic × Reference :=
  state.create scripted
    (decide ((∀ topic ∈ state.held.topics, topic.participant = participant → topic.name ≠ name) ∧
      (state.held.types participant typeName).isSome))
    ⟨participant, unused (state.held.topics.image Topic.id), name, typeName⟩ Holdings.addTopic

/-- `create_datawriter` and `create_datareader`. -/
def createEndpoint (scripted : Bool) (state : Reference) (group : Group) (topic : Topic)
    (listener : Nat) : Option DataEndpoint × Reference :=
  state.create scripted true
    ⟨group, topic, listener, unused (state.held.endpoints.image DataEndpoint.id)⟩
    Holdings.addEndpoint

/-- `register_type` wants a free name or the object already there. -/
def registerType (state : Reference) (participant : DomainParticipant) (dataType : TopicDataType) :
    (ReturnCode × Bool) × Reference :=
  match state.held.types participant dataType.name with
  | none => ((.ok, true), { state with held := state.held.addType participant dataType })
  | some other => if other = dataType then ((.ok, false), state) else ((.failed 4, false), state)

/-- A deleting call that answers `RETCODE_PRECONDITION_NOT_MET` while something is in the way. -/
def delete (state : Reference) (blocked : Prop) [Decidable blocked] (held : Holdings) :
    ReturnCode × Reference :=
  if blocked then (.failed 4, state) else (.ok, { state with held })

end Reference

/-- The middleware in memory. -/
def reference (scripted : Bool) : Middleware Reference Unit String where
  holdings := Reference.held
  subscriberQosDefault := ()
  publisherQosDefault := ()
  topicQosDefault := ()
  dataWriterQosDefault := ()
  dataReaderQosDefault := ()
  createParticipant state _ _ := state.createParticipant scripted
  deleteParticipant state participant :=
    state.delete (state.held.Owns participant) (state.held.removeParticipant participant)
  createSubscriber state participant _ := state.createGroup scripted .reader participant
  createPublisher state participant _ := state.createGroup scripted .writer participant
  registerType state participant dataType := state.registerType participant dataType
  createTopic state participant name typeName _ :=
    state.createTopic scripted participant name typeName
  deleteTopic state _ topic := state.delete (state.held.Uses topic) (state.held.removeTopic topic)
  createDatawriter state group topic _ listener :=
    state.createEndpoint scripted group topic listener
  createDatareader state group topic _ listener :=
    state.createEndpoint scripted group topic listener
  deleteDatawriter state _ endpoint := state.delete False (state.held.removeEndpoint endpoint)
  deleteDatareader state _ endpoint := state.delete False (state.held.removeEndpoint endpoint)
  write state _ _ := (true, state)

namespace Reference

/-- A group it creates is new. -/
theorem createGroup_adds (scripted : Bool) (kind : EndpointKind) :
    AddsGroup Reference.held kind
      (fun state participant (_ : Unit) => state.createGroup scripted kind participant) := by
  intro state participant _
  have outcome := create_cases scripted state true
    (⟨kind, participant, unused (state.held.groups.image Group.id)⟩ : Group) Holdings.addGroup
  simp only [createGroup]
  split at outcome
  · rename_i refused
    simpa only [refused] using outcome
  · rename_i made next granted
    obtain ⟨rfl, _, held⟩ := outcome
    simp only [granted]
    exact ⟨trivial, trivial, image_unused Group.id _ _ rfl, held⟩

/-- A data endpoint it creates is new. -/
theorem createEndpoint_adds (scripted : Bool) :
    AddsEndpoint Reference.held
      (fun state group topic (_ : Unit) listener =>
        state.createEndpoint scripted group topic listener) := by
  intro state group topic _ listener
  have outcome := create_cases scripted state true
    (⟨group, topic, listener, unused (state.held.endpoints.image DataEndpoint.id)⟩ : DataEndpoint)
    Holdings.addEndpoint
  simp only [createEndpoint]
  split at outcome
  · rename_i refused
    simpa only [refused] using outcome
  · rename_i made next granted
    obtain ⟨rfl, _, held⟩ := outcome
    simp only [granted]
    exact ⟨trivial, trivial, trivial, image_unused DataEndpoint.id _ _ rfl, held⟩

/-- A participant it creates is new and owns nothing. -/
theorem participantIds_unused (held : Holdings) :
    (⟨unused (participantIds held)⟩ : DomainParticipant) ∉ held.participants ∧
      ¬ held.Owns ⟨unused (participantIds held)⟩ := by
  have apart := unused_not_mem (participantIds held)
  simp only [participantIds, Finset.mem_union, Finset.mem_image, not_or, not_exists, not_and]
    at apart
  obtain ⟨⟨⟨⟨participants, groups⟩, topics⟩, inGroups⟩, onTopics⟩ := apart
  refine ⟨fun member => participants _ member rfl, ?_⟩
  rintro (⟨group, member, same⟩ | ⟨topic, member, same⟩ | ⟨endpoint, member, same | same⟩)
  · exact groups group member (congrArg DomainParticipant.id same)
  · exact topics topic member (congrArg DomainParticipant.id same)
  · exact inGroups endpoint member (congrArg DomainParticipant.id same)
  · exact onTopics endpoint member (congrArg DomainParticipant.id same)

end Reference

open Reference in
/-- The middleware in memory keeps the contract, scripted or not. -/
theorem reference_contract (scripted : Bool) : Contract (reference scripted) where
  createParticipant state domainId qos := by
    have outcome := create_cases scripted state true
      (⟨unused (participantIds state.held)⟩ : DomainParticipant) Holdings.addParticipant
    simp only [reference, createParticipant]
    split at outcome
    · rename_i refused
      simpa only [refused] using outcome
    · rename_i made next granted
      obtain ⟨rfl, _, held⟩ := outcome
      simp only [granted]
      exact ⟨(participantIds_unused state.held).1, (participantIds_unused state.held).2, held⟩
  deleteParticipant state participant := by
    by_cases owns : state.held.Owns participant
    · simp [reference, delete, owns]
    · simp [reference, delete, owns]
  createSubscriber := createGroup_adds scripted .reader
  createPublisher := createGroup_adds scripted .writer
  registerType state participant dataType := by
    cases known : state.held.types participant dataType.name with
    | none => simp [reference, registerType, known]
    | some other =>
      by_cases same : other = dataType
      · simp [reference, registerType, known, same]
      · simp [reference, registerType, known, same]
  createTopic state participant name typeName qos := by
    have outcome := create_cases scripted state
      (decide ((∀ topic ∈ state.held.topics, topic.participant = participant → topic.name ≠ name) ∧
        (state.held.types participant typeName).isSome))
      (⟨participant, unused (state.held.topics.image Topic.id), name, typeName⟩ : Topic)
      Holdings.addTopic
    simp only [reference, createTopic]
    split at outcome
    · rename_i refused
      simpa only [refused] using outcome
    · rename_i made next granted
      obtain ⟨rfl, _, held⟩ := outcome
      simp only [granted]
      exact ⟨trivial, trivial, trivial, image_unused Topic.id _ _ rfl, held⟩
  deleteTopic state participant topic := by
    by_cases used : state.held.Uses topic
    · simp [reference, delete, used]
    · simp [reference, delete, used]
  createDatawriter := createEndpoint_adds scripted
  createDatareader := createEndpoint_adds scripted
  deleteDatawriter state group endpoint := by simp [reference, delete]
  deleteDatareader state group endpoint := by simp [reference, delete]
  write state endpoint message := rfl

open Reference in
/-- It deletes a participant that owns nothing. -/
theorem reference_deletesBareParticipants (scripted : Bool) :
    DeletesBareParticipants (reference scripted) := by
  intro state participant _ bare
  have free : ¬ state.held.Owns participant := bare
  simp [reference, delete, free]

open Reference in
/-- It accepts every new type name. -/
theorem reference_acceptsNewTypes (scripted : Bool) : AcceptsNewTypes (reference scripted) := by
  intro state participant dataType _ new
  have free : state.held.types participant dataType.name = none := new
  simp [reference, registerType, free]

open Reference in
/-- Without a script it grants every free topic name of a registered type. -/
theorem reference_grantsTopics : GrantsTopics (reference false) () := by
  intro state participant name typeName _ free registered
  have allowed : decide ((∀ topic ∈ state.held.topics, topic.participant = participant →
      topic.name ≠ name) ∧ (state.held.types participant typeName).isSome) = true :=
    decide_eq_true ⟨free, Option.isSome_iff_ne_none.mpr registered⟩
  simp only [reference, createTopic, allowed]
  simp [create, ask]

open Reference in
/-- It deletes every data reader. -/
theorem reference_deletesReaders (scripted : Bool) : DeletesReaders (reference scripted) := by
  intro state endpoint _ _ _
  simp [reference, delete]

open Reference in
/-- It deletes every topic that nothing uses. -/
theorem reference_deletesUnusedTopics (scripted : Bool) :
    DeletesUnusedTopics (reference scripted) := by
  intro state topic _ _ unused
  have free : ¬ state.held.Uses topic := unused
  simp [reference, delete, free]

/-- The same middleware for messages of another type; `write` answers as told and does nothing. -/
def Middleware.accepting {σ Qos Message : Type} (api : Middleware σ Qos Message) (Other : Type)
    (accepts : DataEndpoint → Other → Bool) : Middleware σ Qos Other :=
  { api with write := fun state endpoint message => (accepts endpoint message, state) }

/-- It keeps the contract if the middleware does. -/
theorem Contract.accepting {σ Qos Message : Type} {api : Middleware σ Qos Message}
    (contract : Contract api) (Other : Type) (accepts : DataEndpoint → Other → Bool) :
    Contract (api.accepting Other accepts) :=
  { contract with write := fun _ _ _ => rfl }

end FastDdsWrapper
