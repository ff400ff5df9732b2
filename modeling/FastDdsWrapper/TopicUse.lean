import FastDdsWrapper.NullEndpoints

/-!
# Removing a topic

The wrapper counts no uses of a topic: `unregisterTopic` asks the middleware, which refuses to
delete a topic that has data writers or data readers. Over a whole run these are the data endpoints
of the endpoint objects that still exist, as long as the middleware makes and deletes what it is
asked to. So the endpoint objects alone decide the answer, and either the topic goes or nothing
changes.
-/

namespace FastDdsWrapper

open Machine (run attempts bind_ok bind_error)

variable {σ Qos Message : Type} {api : Middleware σ Qos Message}
variable {participant : DomainParticipant}

/-- The middleware makes or deletes the data endpoint that the call asks it to, if it asks. -/
def CarriedOut (api : Middleware σ Qos Message) (world : World σ) : Call Qos Message → Prop
  | .destroyEndpoint kind object => ∀ endpoint data, world.find kind object = some endpoint →
      endpoint.data = some data →
        (api.deleteEndpoint kind world.middleware endpoint.group data).1 = .ok
  | call => Answered api world call

/-- The entities without a participant's topic of one name. -/
def Holdings.withoutTopic (held : Holdings) (participant : Option DomainParticipant)
    (topicName : String) : Holdings :=
  { held with
    topics := held.topics.filter fun topic =>
      ¬ (participant = some topic.participant ∧ topic.name = topicName) }

/-- What `unregisterTopic` answered and what it changed. -/
structure Decides (api : Middleware σ Qos Message) (topicName : String) (before : World σ)
    (value : Bool) (after : World σ) : Prop where
  /-- True is answered exactly when no endpoint object of the name exists. -/
  answer : value = true ↔ ∀ endpoint ∈ before.endpoints, endpoint.topicName ≠ topicName
  /-- Then the map and the middleware lose the topic and nothing else. -/
  removed : value = true →
    after.self = { before.self with mapTopics := before.self.mapTopics.erase topicName } ∧
      api.holdings after.middleware =
        (api.holdings before.middleware).withoutTopic before.self.participant topicName
  /-- Otherwise all stays as it was. -/
  refused : value = false →
    after.self = before.self ∧ api.holdings after.middleware = api.holdings before.middleware
  /-- The endpoint objects and the deleted data type objects do either way. -/
  kept : after = { before with self := after.self, middleware := after.middleware }

/-- Every endpoint object holds a data endpoint, and every data endpoint on a topic of the
participant is held by one. -/
structure Covered (api : Middleware σ Qos Message) (participant : DomainParticipant)
    (world : World σ) : Prop where
  /-- The stores are in step. -/
  consistent : Consistent api participant world
  /-- The participant is alive. -/
  rooted : Rooted api participant world
  /-- No endpoint object is half made. -/
  filled : ∀ endpoint ∈ world.endpoints, endpoint.data ≠ none
  /-- No data endpoint has lost its object. -/
  covered : ∀ data ∈ (api.holdings world.middleware).endpoints,
    data.topic.participant = participant → ∃ endpoint ∈ world.endpoints, endpoint.data = some data

/-- The process around an object that got no participant. -/
structure Vacant (world : World σ) : Prop where
  /-- `m_participant` is null. -/
  missing : world.self.participant = none
  /-- Nothing was ever registered. -/
  empty : world.self.mapTopics = ∅
  /-- No endpoint object was ever made. -/
  objects : world.endpoints = []

/-- The process around a participant object, with or without a participant. -/
def Tracked (api : Middleware σ Qos Message) (world : World σ) : Prop :=
  Vacant world ∨ ∃ participant, Covered api participant world

/-! ## The uses of a topic over a run -/

/-- Data endpoints come only with an endpoint object that holds them. -/
theorem Effect.new_data {before after : World σ} (effect : Effect api participant before after) :
    ∀ data ∈ (api.holdings after.middleware).endpoints,
      data ∈ (api.holdings before.middleware).endpoints ∨
        ∃ endpoint ∈ after.endpoints, endpoint.data = some data := by
  intro data member
  cases effect with
  | quiet types self objects held =>
    rw [held] at member
    exact .inl member
  | topicCreated types topic unknown owner fresh self objects held =>
    rw [held] at member
    exact .inl member
  | nullErased topicName entry self objects held =>
    rw [held] at member
    exact .inl member
  | topicDeleted topicName topic entry unused self objects held =>
    rw [held] at member
    exact .inl member
  | endpointRefused endpoint missing self objects held =>
    rw [held] at member
    exact .inl member
  | endpointCreated endpoint made entry holds alive fresh self objects held =>
    rw [held, Holdings.addEndpoint_endpoints, Finset.mem_insert] at member
    rcases member with rfl | member
    · refine .inr ⟨endpoint, ?_, holds⟩
      rw [objects]
      exact List.mem_append_right _ (List.mem_singleton_self endpoint)
    · exact .inl member
  | endpointForgotten endpoint present self objects held =>
    rw [held] at member
    exact .inl member
  | endpointDeleted endpoint made present holds self objects held =>
    rw [held, Holdings.removeEndpoint_endpoints, Finset.mem_erase] at member
    exact .inl member.2

/-- Only a destruction takes an endpoint object away. -/
theorem World.step_keeps_objects {before after : World σ} {call : Call Qos Message}
    {answer : Answer} (stepped : World.step api before call = .ok (answer, after))
    (stays : ∀ kind object, call ≠ .destroyEndpoint kind object) {endpoint : Endpoint}
    (member : endpoint ∈ before.endpoints) : endpoint ∈ after.endpoints := by
  have adopted : ∀ result : Option Endpoint × σ, endpoint ∈ (before.adopt result).2.endpoints := by
    rintro ⟨_ | made, middleware⟩
    · exact member
    · exact List.mem_append_left _ member
  cases step_cases stepped with
  | registered topicName dataType topicQos value host outcome => exact member
  | unregistered topicName value host outcome => exact member
  | writer topicName dataWriterQos made middleware outcome => exact adopted (made, middleware)
  | reader topicName dataReaderQos made middleware outcome => exact adopted (made, middleware)
  | unwritten object message missing => exact member
  | written object message endpoint value middleware found returned => exact member
  | undestroyed kind object missing => exact member
  | destroyed kind object endpoint middleware found returned => exact absurd rfl (stays kind object)

/-- A destructor whose deletion is carried out removes the data endpoint of its object. -/
theorem destructEndpoint_removes (contract : Contract api) {middleware next : σ}
    {endpoint : Endpoint} {data : DataEndpoint} (made : endpoint.data = some data)
    (accepted : (api.deleteEndpoint endpoint.kind middleware endpoint.group data).1 = .ok)
    (returned : destructEndpoint api middleware endpoint = .ok next) :
    api.holdings next = (api.holdings middleware).removeEndpoint data := by
  cases kind : endpoint.kind with
  | writer =>
    simp only [destructEndpoint, kind, destructDataWriter, bind_ok, Pointer.deref_ok,
      Pointer.address.injEq, Pointer.ofOption_eq_address, Except.ok.injEq] at returned
    obtain ⟨group, ⟨rfl, _⟩, target, ⟨named, _⟩, same⟩ := returned
    obtain rfl := Option.some.inj (made.symm.trans named)
    have promised := contract.deleteDatawriter middleware endpoint.group data
    rcases answered : api.deleteDatawriter middleware endpoint.group data with ⟨code, after⟩
    simp only [kind, Middleware.deleteEndpoint, answered] at accepted same
    subst accepted same
    simpa only [answered] using promised
  | reader =>
    simp only [destructEndpoint, kind, destructDataReader, made, bind_ok, Pointer.deref_ok,
      Pointer.address.injEq, Except.ok.injEq] at returned
    obtain ⟨group, ⟨rfl, _⟩, target, ⟨rfl, _⟩, same⟩ := returned
    have promised := contract.deleteDatareader middleware endpoint.group data
    rcases answered : api.deleteDatareader middleware endpoint.group data with ⟨code, after⟩
    simp only [kind, Middleware.deleteEndpoint, answered] at accepted same
    subst accepted same
    simpa only [answered] using promised

/-- A call whose data endpoint is made returns no half made endpoint object. -/
theorem CarriedOut.filled {before after : World σ} {call : Call Qos Message} {endpoint : Endpoint}
    (carried : CarriedOut api before call)
    (stepped : World.step api before call = .ok (.endpoint (some endpoint), after)) :
    endpoint.data ≠ none := by
  cases step_cases stepped with
  | writer topicName dataWriterQos _ middleware outcome =>
    have makes : Makes api.createDatawriter before.self.publisher before topicName dataWriterQos :=
      carried
    exact makes.filled (createEndpoint_ok.mpr outcome)
  | reader topicName dataReaderQos _ middleware outcome =>
    have makes : Makes api.createDatareader before.self.subscriber before topicName
        dataReaderQos := carried
    exact makes.filled (createEndpoint_ok.mpr outcome)

/-- A step that is carried out keeps a process covered. -/
theorem Covered.step (contract : Contract api) {before after : World σ} {call : Call Qos Message}
    {answer : Answer} (whole : Covered api participant before)
    (stepped : World.step api before call = .ok (answer, after))
    (carried : CarriedOut api before call) : Covered api participant after := by
  obtain ⟨consistent, rooted, filled, covered⟩ := whole
  have effect := step_effect contract rooted.owner stepped
  refine ⟨effect.consistent consistent, effect.rooted rooted, ?_, ?_⟩
  · intro endpoint member
    rcases World.step_objects stepped member with old | rfl
    · exact filled endpoint old
    · exact carried.filled stepped
  intro data member belongs
  have gains := effect.new_data data member
  by_cases stays : ∀ kind object, call ≠ .destroyEndpoint kind object
  · rcases gains with old | new
    · obtain ⟨endpoint, present, made⟩ := covered data old belongs
      exact ⟨endpoint, World.step_keeps_objects stepped stays present, made⟩
    · exact new
  · push Not at stays
    obtain ⟨kind, object, rfl⟩ := stays
    cases step_cases stepped with
    | undestroyed _ _ missing => exact covered data member belongs
    | destroyed _ _ endpoint middleware found returned =>
      -- The object that goes takes its own data endpoint with it.
      obtain ⟨target, made⟩ :=
        Option.ne_none_iff_exists'.mp (filled endpoint (World.find_mem found))
      have accepted := carried endpoint target found made
      rw [← (World.find_matches found).1] at accepted
      have held := destructEndpoint_removes contract made accepted returned
      rw [held, Holdings.removeEndpoint_endpoints, Finset.mem_erase] at member
      obtain ⟨other, present, known⟩ := covered data member.2 belongs
      have apart : other ≠ endpoint := by
        rintro rfl
        exact member.1 (Option.some.inj (known.symm.trans made))
      exact ⟨other, (List.mem_erase_of_ne apart).mpr present, known⟩

/-- No step changes the process around an object without a participant but for deleted data type
objects. -/
theorem Vacant.step {before after : World σ} {call : Call Qos Message} {answer : Answer}
    (vacant : Vacant before) (stepped : World.step api before call = .ok (answer, after)) :
    Vacant after := by
  obtain ⟨missing, empty, objects⟩ := vacant
  have unknown : ∀ name, before.self.mapTopics.lookup name = none := by
    intro name
    rw [empty, Finmap.lookup_empty]
  have unusable : ∀ {source : DomainParticipant}, before.toHost.derefParticipant api ≠
      .ok source := by
    intro source live
    have set := (derefParticipant_ok.mp live).1
    rw [missing] at set
    cases set
  have absent : ∀ kind object, before.find kind object = none := by
    intro kind object
    simp [World.find, objects]
  cases step_cases stepped with
  | registered topicName dataType topicQos value host outcome =>
    cases outcome with
    | noDataType => exact ⟨missing, empty, objects⟩
    | alreadyRegistered object known intact =>
      exact absurd known (Finmap.lookup_eq_none.mp (unknown topicName))
    | typeRefused object source errcode kept middleware _ live => exact absurd live unusable
    | topicRefused object source kept registered middleware _ live => exact absurd live unusable
    | topicCreated object source kept registered middleware topic _ live =>
      exact absurd live unusable
  | unregistered topicName value host outcome =>
    cases outcome with
    | absent _ => exact ⟨missing, empty, objects⟩
    | nullEntry entry => cases (unknown topicName).symm.trans entry
    | refused topic source errcode middleware entry => cases (unknown topicName).symm.trans entry
    | deleted topic source middleware entry => cases (unknown topicName).symm.trans entry
  | writer topicName dataWriterQos endpoint middleware outcome =>
    cases outcome with
    | absent _ => exact ⟨missing, empty, objects⟩
    | constructed group topic data _ entry => cases (unknown topicName).symm.trans entry
  | reader topicName dataReaderQos endpoint middleware outcome =>
    cases outcome with
    | absent _ => exact ⟨missing, empty, objects⟩
    | constructed group topic data _ entry => cases (unknown topicName).symm.trans entry
  | unwritten object message gone => exact ⟨missing, empty, objects⟩
  | written object message endpoint value middleware found returned =>
    cases (absent .writer object).symm.trans found
  | undestroyed kind object gone => exact ⟨missing, empty, objects⟩
  | destroyed kind object endpoint middleware found returned =>
    cases (absent kind object).symm.trans found

/-- A step that is carried out keeps a process tracked. -/
theorem Tracked.step (contract : Contract api) {before after : World σ} {call : Call Qos Message}
    {answer : Answer} (tracked : Tracked api before)
    (stepped : World.step api before call = .ok (answer, after))
    (carried : CarriedOut api before call) : Tracked api after := by
  rcases tracked with vacant | ⟨participant, whole⟩
  · exact .inl (vacant.step stepped)
  · exact .inr ⟨participant, whole.step contract stepped carried⟩

/-! ## The answer -/

/-- Without such a topic nothing is taken away. -/
theorem Holdings.withoutTopic_absent {held : Holdings} {owner : Option DomainParticipant}
    {topicName : String} (absent : ∀ topic ∈ held.topics, owner = some topic.participant →
      topic.name ≠ topicName) : held.withoutTopic owner topicName = held := by
  have same : (held.topics.filter fun topic =>
      ¬ (owner = some topic.participant ∧ topic.name = topicName)) = held.topics :=
    Finset.filter_true_of_mem fun topic member both => absent topic member both.1 both.2
  rw [Holdings.withoutTopic, same]

/-- With a single one it is the one that is removed. -/
theorem Holdings.withoutTopic_single {held : Holdings} {owner : Option DomainParticipant}
    {topicName : String} {topic : Topic} (single : ∀ other ∈ held.topics,
      owner = some other.participant ∧ other.name = topicName ↔ other = topic) :
    held.withoutTopic owner topicName = held.removeTopic topic := by
  have same : (held.topics.filter fun other =>
      ¬ (owner = some other.participant ∧ other.name = topicName)) = held.topics.erase topic := by
    ext other
    rw [Finset.mem_filter, Finset.mem_erase, and_comm]
    exact and_congr_left fun member => not_congr (single other member)
  rw [Holdings.withoutTopic, same]
  rfl

/-- Erasing a name that is not there changes no map. -/
theorem erase_absent {topics : Finmap fun _ : String => Option Topic} {topicName : String}
    (absent : topics.lookup topicName = none) : topics.erase topicName = topics := by
  apply Finmap.ext_lookup
  intro name
  by_cases here : name = topicName
  · rw [here, Finmap.lookup_erase, absent]
  · rw [Finmap.lookup_erase_ne here]

/-- In a covered process, a listed topic is used exactly when an endpoint object of its name
exists. -/
theorem Covered.uses_iff {world : World σ} (whole : Covered api participant world)
    {topicName : String} {topic : Topic}
    (found : world.self.mapTopics.lookup topicName = some (some topic)) :
    (api.holdings world.middleware).Uses topic ↔
      ∃ endpoint ∈ world.endpoints, endpoint.topicName = topicName := by
  have inStep := whole.consistent.inStep
  obtain ⟨_, belongs, rfl⟩ := (inStep.topics topicName topic).mp found
  constructor
  · rintro ⟨data, member, rfl⟩
    obtain ⟨endpoint, present, made⟩ := whole.covered data member belongs
    obtain ⟨_, _, named⟩ := whole.consistent.coupled.objects endpoint present data made
    exact ⟨endpoint, present, named.symm⟩
  · rintro ⟨endpoint, present, named⟩
    obtain ⟨data, made⟩ := Option.ne_none_iff_exists'.mp (whole.filled endpoint present)
    obtain ⟨member, listed⟩ := inStep.objects endpoint present data made
    rw [named, found] at listed
    exact ⟨data, member, (Option.some.inj (Option.some.inj listed)).symm⟩

/-- In a covered process `unregisterTopic` decides by the endpoint objects. -/
theorem Covered.decides (contract : Contract api) (deletes : DeletesUnusedTopics api)
    {world : World σ} (whole : Covered api participant world) (topicName : String) :
    ∃ value after, World.step api world (.unregisterTopic topicName) = .ok (.flag value, after) ∧
      Decides api topicName world value after := by
  have inStep := whole.consistent.inStep
  have owner := whole.rooted.owner
  obtain ⟨value, next, returned⟩ :=
    unregisterTopic_returns whole.consistent whole.rooted topicName
  refine ⟨value, { world with toHost := next }, ?_, ?_⟩
  · simp only [World.step, returned, bind, Except.bind]
  cases unregisterTopic_ok.mp returned with
  | absent unknown =>
    have idle : ∀ endpoint ∈ world.endpoints, endpoint.topicName ≠ topicName := by
      rintro endpoint present rfl
      obtain ⟨data, made⟩ := Option.ne_none_iff_exists'.mp (whole.filled endpoint present)
      cases unknown.symm.trans (inStep.objects endpoint present data made).2
    have untaken : ∀ topic ∈ (api.holdings world.middleware).topics,
        world.self.participant = some topic.participant → topic.name ≠ topicName := by
      intro topic member belongs
      exact whole.consistent.coupled.untaken (Finmap.lookup_eq_none.mp unknown) topic member
        (Option.some.inj (belongs.symm.trans owner))
    refine ⟨iff_of_true rfl idle, fun _ => ⟨?_, ?_⟩, (fun refused => by cases refused), rfl⟩
    · rw [erase_absent unknown]
    · rw [Holdings.withoutTopic_absent untaken]
  | nullEntry entry => exact absurd entry (inStep.pointed topicName)
  | refused topic source errcode middleware entry live present answered =>
    obtain rfl := Option.some.inj ((derefParticipant_ok.mp live).1.symm.trans owner)
    obtain ⟨member, rfl, rfl⟩ := (inStep.topics topicName topic).mp entry
    have used : (api.holdings world.middleware).Uses topic := by
      by_contra unused
      have accepted := deletes world.middleware topic member whole.rooted.alive unused
      rw [answered] at accepted
      cases accepted
    obtain ⟨endpoint, inside, named⟩ := (whole.uses_iff entry).mp used
    have held := contract.deleteTopic world.middleware topic.participant topic
    simp only [answered] at held
    refine ⟨iff_of_false Bool.false_ne_true fun idle => idle endpoint inside named,
      (fun removed => by cases removed), fun _ => ⟨rfl, held⟩, rfl⟩
  | deleted topic source middleware entry live present answered =>
    obtain rfl := Option.some.inj ((derefParticipant_ok.mp live).1.symm.trans owner)
    obtain ⟨_, belongs, named⟩ := (inStep.topics topicName topic).mp entry
    have promised := contract.deleteTopic world.middleware source topic
    simp only [answered] at promised
    obtain ⟨unused, held⟩ := promised
    rw [whole.uses_iff entry] at unused
    have single : ∀ other ∈ (api.holdings world.middleware).topics,
        world.self.participant = some other.participant ∧ other.name = topicName ↔
          other = topic := by
      intro other inside
      constructor
      · rintro ⟨owned, rfl⟩
        have listed := (inStep.topics other.name other).mpr
          ⟨inside, Option.some.inj (owned.symm.trans owner), rfl⟩
        exact Option.some.inj (Option.some.inj (listed.symm.trans entry))
      · rintro rfl
        exact ⟨owner.trans (congrArg some belongs.symm), named⟩
    refine ⟨iff_of_true rfl fun endpoint inside same => unused ⟨endpoint, inside, same⟩,
      fun _ => ⟨rfl, ?_⟩, (fun refused => by cases refused), rfl⟩
    rw [Holdings.withoutTopic_single single]
    exact held

/-- Around an object without a participant nothing is registered, which is answered. -/
theorem Vacant.decides {world : World σ} (vacant : Vacant world) (topicName : String) :
    ∃ value after, World.step api world (.unregisterTopic topicName) = .ok (.flag value, after) ∧
      Decides api topicName world value after := by
  have unknown : world.self.mapTopics.lookup topicName = none := by
    rw [vacant.empty, Finmap.lookup_empty]
  have returned : unregisterTopic api world.toHost topicName = .ok (true, world.toHost) :=
    unregisterTopic_ok.mpr (.absent unknown)
  refine ⟨true, world, ?_, ?_, fun _ => ⟨?_, ?_⟩, (fun refused => by cases refused), rfl⟩
  · simp only [World.step, returned, bind, Except.bind]
  · simp [vacant.objects]
  · rw [erase_absent unknown]
  · rw [vacant.missing, Holdings.withoutTopic_absent]
    intro topic _ owned
    cases owned

/-- The constructor leaves a process that is covered, or vacant when it got no participant. -/
theorem construct_tracked (contract : Contract api) (middleware : σ) (domainId : Int)
    (participantQos : Qos) :
    Tracked api (World.construct api middleware domainId participantQos) := by
  cases created : (World.construct api middleware domainId participantQos).self.participant with
  | none =>
    rcases returned : DDSDomainParticipant.construct api middleware domainId participantQos with
      ⟨self, next⟩
    simp only [World.construct, returned] at created ⊢
    rcases construct_cases contract returned with ⟨missing, same, _⟩ | ⟨participant, made⟩
    · exact .inl ⟨missing, by rw [same], rfl⟩
    · cases created.symm.trans made.owner
  | some participant =>
    refine .inr ⟨participant, construct_consistent contract created,
      construct_rooted contract created, ?_, ?_⟩
    · obtain ⟨self, next, world, _⟩ := World.construct_constructed contract created
      rw [world]
      intro endpoint member
      cases member
    · obtain ⟨self, next, world, made⟩ := World.construct_constructed contract created
      rw [world]
      intro data member belongs
      rw [made.endpoints] at member
      exact absurd (.inr (.inr ⟨data, member, .inr belongs⟩)) made.bare

/-- In every state a run of calls leads to, as long as data endpoints are made and deleted as asked,
`unregisterTopic` answers true exactly when no endpoint object of the name exists. Then the map and
the middleware lose that topic and nothing else; otherwise nothing changes. -/
theorem unregisterTopic_decides (contract : Contract api) (deletes : DeletesUnusedTopics api)
    (middleware : σ) (domainId : Int) (participantQos : Qos) (calls : List (Call Qos Message))
    (world : World σ)
    (ran : run (World.step api) (World.construct api middleware domainId participantQos) calls =
      .ok world)
    (carried : ∀ attempt ∈ attempts (World.step api)
      (World.construct api middleware domainId participantQos) calls,
        CarriedOut api attempt.before attempt.event)
    (topicName : String) :
    ∃ value after, World.step api world (.unregisterTopic topicName) = .ok (.flag value, after) ∧
      Decides api topicName world value after := by
  have start := construct_tracked contract middleware domainId participantQos
  have reached : Tracked api world := by
    refine Machine.run_while ?_ start carried ran
    intro before call answer after tracked stepped allowed
    exact tracked.step contract stepped allowed
  rcases reached with vacant | ⟨participant, whole⟩
  · exact vacant.decides topicName
  · exact whole.decides contract deletes topicName

/-- The middleware that never refuses by script carries out every call. -/
theorem reference_carriedOut (world : World Reference) (call : Call Unit String) :
    CarriedOut (reference false) world call := by
  cases call with
  | destroyEndpoint kind object =>
    intro endpoint data _ _
    cases kind <;> simp [Middleware.deleteEndpoint, reference, Reference.delete]
  | registerTopic topicName dataType topicQos => trivial
  | unregisterTopic topicName => trivial
  | createDataWriter topicName dataWriterQos =>
    exact reference_answered world (.createDataWriter topicName dataWriterQos)
  | createDataReader topicName dataReaderQos =>
    exact reference_answered world (.createDataReader topicName dataReaderQos)
  | writeMessage object message => trivial

/-- After a run with two names, a type clash and a name registered again, one topic is in use and
the other is not, and both are decided. -/
theorem unregisterTopic_decides_clash :
    ∃ world, run (World.step (reference false)) started clashCalls = .ok world ∧
      (∃ value after, World.step (reference false) world (.unregisterTopic "a") =
        .ok (.flag value, after) ∧ Decides (reference false) "a" world value after) ∧
      ∃ value after, World.step (reference false) world (.unregisterTopic "b") =
        .ok (.flag value, after) ∧ Decides (reference false) "b" world value after := by
  have done : (run (World.step (reference false)) started clashCalls).isOk = true := by decide
  obtain ⟨world, ran⟩ := Machine.run_finishes done
  have decided := unregisterTopic_decides (reference_contract false)
    (reference_deletesUnusedTopics false) (Reference.fresh []) 0 () clashCalls world ran
    (fun attempt _ => reference_carriedOut attempt.before attempt.event)
  exact ⟨world, ran, decided "a", decided "b"⟩

end FastDdsWrapper
