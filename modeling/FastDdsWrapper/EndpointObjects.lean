import FastDdsWrapper.Registration

/-!
# What endpoint objects hold on to

An endpoint object keeps raw pointers to a publisher or subscriber and to its data endpoint.
`Wrapped` says what these point to as long as every data endpoint asked for was made, and
`Grounded` joins it with what holds of the participant object. Every effect keeps a process
grounded, and in a grounded process no call faults but a registration whose data type object is
already deleted.
-/

namespace FastDdsWrapper

open Machine (bind_ok bind_error)

variable {σ Qos Message : Type} {api : Middleware σ Qos Message}
variable {participant : DomainParticipant}

/-- Every endpoint object wraps a data endpoint that knows it, and every data reader of the
participant is wrapped. -/
structure Wrapped (api : Middleware σ Qos Message) (participant : DomainParticipant)
    (world : World σ) : Prop where
  /-- The data endpoint is in the object's group and has the object's listener. -/
  made : ∀ endpoint ∈ world.endpoints, ∃ data, endpoint.data = some data ∧
    data.group = endpoint.group ∧ data.listener = endpoint.object
  /-- The group is the publisher or the subscriber of the participant object. -/
  source : ∀ endpoint ∈ world.endpoints, endpoint.MadeBy world.self
  /-- Identities are given out in order. -/
  numbered : ∀ endpoint ∈ world.endpoints, endpoint.object < world.nextObject
  /-- No two endpoint objects share one. -/
  single : (world.endpoints.map Endpoint.object).Nodup
  /-- A data reader of the participant belongs to an existing object. -/
  readers : ∀ data ∈ (api.holdings world.middleware).endpoints,
    data.group.participant = participant → data.group.kind = .reader →
      ∃ endpoint ∈ world.endpoints, endpoint.data = some data

/-- The process around a participant object that got its publisher and its subscriber. -/
structure Grounded (api : Middleware σ Qos Message) (participant : DomainParticipant)
    (world : World σ) : Prop where
  /-- The stores are in step. -/
  consistent : Consistent api participant world
  /-- The participant is alive and the object's groups are its groups. -/
  rooted : Rooted api participant world
  /-- Neither group pointer is null. -/
  grouped : ∃ publisher subscriber, world.self.publisher = .address publisher ∧
    world.self.subscriber = .address subscriber
  /-- The endpoint objects wrap what they use. -/
  wrapped : Wrapped api participant world

/-- The group of an endpoint object is alive and of the object's kind. -/
theorem Rooted.sheltersGroup {world : World σ} (rooted : Rooted api participant world)
    {endpoint : Endpoint} (source : endpoint.MadeBy world.self) :
    endpoint.group ∈ (api.holdings world.middleware).groups ∧
      endpoint.group.kind = endpoint.kind := by
  rcases source with ⟨kind, pointed⟩ | ⟨kind, pointed⟩
  · refine ⟨((rooted.groups endpoint.group).mpr (.inl pointed)).1, ?_⟩
    rw [kind]
    exact (rooted.kinds endpoint.group).1 pointed
  · refine ⟨((rooted.groups endpoint.group).mpr (.inr pointed)).1, ?_⟩
    rw [kind]
    exact (rooted.kinds endpoint.group).2 pointed

/-- Endpoint objects that stay keep their maker. -/
theorem Endpoint.MadeBy.stays {endpoint : Endpoint} {before after : DDSDomainParticipant}
    (source : endpoint.MadeBy before) (publisher : after.publisher = before.publisher)
    (subscriber : after.subscriber = before.subscriber) : endpoint.MadeBy after := by
  rw [Endpoint.MadeBy, publisher, subscriber]
  exact source

/-- A process with the same objects and data endpoints wraps as before. -/
theorem Wrapped.same {before after : World σ} (wrapped : Wrapped api participant before)
    (publisher : after.self.publisher = before.self.publisher)
    (subscriber : after.self.subscriber = before.self.subscriber)
    (objects : after.endpoints = before.endpoints)
    (counted : after.nextObject = before.nextObject)
    (held : (api.holdings after.middleware).endpoints =
      (api.holdings before.middleware).endpoints) : Wrapped api participant after := by
  refine ⟨?_, ?_, ?_, ?_, ?_⟩
  · rw [objects]
    exact wrapped.made
  · rw [objects]
    intro endpoint member
    exact (wrapped.source endpoint member).stays publisher subscriber
  · rw [objects, counted]
    exact wrapped.numbered
  · rw [objects]
    exact wrapped.single
  · rw [objects, held]
    exact wrapped.readers

/-- A process that lost one endpoint object still wraps, if no data reader lost its object. -/
theorem Wrapped.erase {before after : World σ} (wrapped : Wrapped api participant before)
    {endpoint : Endpoint} (publisher : after.self.publisher = before.self.publisher)
    (subscriber : after.self.subscriber = before.self.subscriber)
    (objects : after.endpoints = before.endpoints.erase endpoint)
    (counted : after.nextObject = before.nextObject)
    (readers : ∀ data ∈ (api.holdings after.middleware).endpoints,
      data.group.participant = participant → data.group.kind = .reader →
        data ∈ (api.holdings before.middleware).endpoints ∧ endpoint.data ≠ some data) :
    Wrapped api participant after := by
  have old : ∀ other ∈ after.endpoints, other ∈ before.endpoints := by
    rw [objects]
    intro other member
    exact List.mem_of_mem_erase member
  refine ⟨fun other member => wrapped.made other (old other member), ?_, ?_, ?_, ?_⟩
  · intro other member
    exact (wrapped.source other (old other member)).stays publisher subscriber
  · rw [counted]
    intro other member
    exact wrapped.numbered other (old other member)
  · rw [objects]
    exact wrapped.single.sublist (List.erase_sublist.map Endpoint.object)
  · intro data member belongs reader
    obtain ⟨held, apart⟩ := readers data member belongs reader
    obtain ⟨other, present, made⟩ := wrapped.readers data held belongs reader
    have differs : other ≠ endpoint := by
      rintro rfl
      exact apart made
    refine ⟨other, ?_, made⟩
    rw [objects]
    exact (List.mem_erase_of_ne differs).mpr present

/-- An effect that leaves no endpoint object without a data endpoint keeps them wrapped. -/
theorem Effect.wrapped {before after : World σ} (effect : Effect api participant before after)
    (deletes : DeletesReaders api) (coupled : Coupled api participant before)
    (rooted : Rooted api participant before) (wrapped : Wrapped api participant before)
    (full : ∀ endpoint ∈ after.endpoints, endpoint.data ≠ none) :
    Wrapped api participant after := by
  obtain ⟨publisher, subscriber⟩ := effect.pointers
  cases effect with
  | quiet types self objects held counted =>
    exact wrapped.same publisher subscriber objects counted (by rw [held])
  | topicCreated types topic unknown owner fresh self objects held counted =>
    exact wrapped.same publisher subscriber objects counted (by rw [held]; rfl)
  | nullErased topicName entry self objects held counted =>
    exact wrapped.same publisher subscriber objects counted (by rw [held])
  | topicDeleted topicName topic entry unused self objects held counted =>
    exact wrapped.same publisher subscriber objects counted (by rw [held]; rfl)
  | endpointRefused endpoint missing self objects held counted numbered =>
    have member : endpoint ∈ after.endpoints := by
      rw [objects]
      exact List.mem_append_right _ (List.mem_singleton_self endpoint)
    exact absurd missing (full endpoint member)
  | endpointCreated endpoint data entry made alive fresh self objects held counted numbered source
      inside heard =>
    refine ⟨?_, ?_, ?_, ?_, ?_⟩
    · intro other member
      rw [objects, List.mem_append, List.mem_singleton] at member
      rcases member with member | rfl
      · exact wrapped.made other member
      · exact ⟨data, made, inside, heard⟩
    · intro other member
      rw [objects, List.mem_append, List.mem_singleton] at member
      rcases member with member | rfl
      · exact (wrapped.source other member).stays publisher subscriber
      · exact source.stays publisher subscriber
    · intro other member
      rw [objects, List.mem_append, List.mem_singleton] at member
      rcases member with member | rfl
      · have below := wrapped.numbered other member
        omega
      · omega
    · rw [objects, List.map_append, List.map_singleton]
      apply List.nodup_append.mpr
      refine ⟨wrapped.single, List.nodup_singleton _, ?_⟩
      intro object present other new same
      obtain ⟨old, member, named⟩ := List.mem_map.mp present
      have below := wrapped.numbered old member
      rw [List.mem_singleton.mp new] at same
      omega
    · intro other member belongs reader
      rw [objects]
      rw [held, Holdings.addEndpoint_endpoints, Finset.mem_insert] at member
      rcases member with rfl | member
      · exact ⟨endpoint, List.mem_append_right _ (List.mem_singleton_self endpoint), made⟩
      · obtain ⟨old, present, known⟩ := wrapped.readers other member belongs reader
        exact ⟨old, List.mem_append_left _ present, known⟩
  | endpointForgotten endpoint member self objects held counted refused =>
    obtain ⟨data, made, inside, _⟩ := wrapped.made endpoint member
    obtain ⟨alive, alike⟩ := rooted.sheltersGroup (wrapped.source endpoint member)
    -- A reader's deletion is not refused, so this object is a writer.
    have writer : endpoint.kind ≠ .reader := by
      intro reader
      have present := (coupled.objects endpoint member data made).1
      have accepted := deletes before.middleware data present (inside ▸ alive)
        (by rw [inside, alike, reader])
      rw [inside] at accepted
      exact refused data made reader accepted
    refine wrapped.erase publisher subscriber objects counted ?_
    intro other present belongs reader
    rw [held] at present
    refine ⟨present, fun same => writer ?_⟩
    obtain rfl := Option.some.inj (made.symm.trans same)
    rw [← alike, ← inside, reader]
  | endpointDeleted endpoint data member made self objects held counted =>
    refine wrapped.erase publisher subscriber objects counted ?_
    intro other present belongs reader
    rw [held, Holdings.removeEndpoint_endpoints, Finset.mem_erase] at present
    refine ⟨present.2, fun same => present.1 ?_⟩
    exact Option.some.inj (same.symm.trans made)

/-- An effect keeps a process grounded. -/
theorem Effect.grounded {before after : World σ} (effect : Effect api participant before after)
    (deletes : DeletesReaders api) (grounded : Grounded api participant before)
    (full : ∀ endpoint ∈ after.endpoints, endpoint.data ≠ none) :
    Grounded api participant after := by
  obtain ⟨consistent, rooted, ⟨publisher, subscriber, published, subscribed⟩, wrapped⟩ := grounded
  obtain ⟨samePublisher, sameSubscriber⟩ := effect.pointers
  refine ⟨effect.consistent consistent, effect.rooted rooted, ⟨publisher, subscriber, ?_, ?_⟩,
    effect.wrapped deletes consistent.coupled rooted wrapped full⟩
  · rw [samePublisher]
    exact published
  · rw [sameSubscriber]
    exact subscribed

/-! ## No single call faults -/

/-- A registration is given a data type object that an earlier registration deleted. -/
def Misused (world : World σ) : Call Qos Message → Prop
  | .registerTopic _ (some dataType) _ => dataType ∈ world.destroyed
  | _ => False

/-- `unregisterTopic` finds all it uses. -/
theorem unregisterTopic_returns {world : World σ} (consistent : Consistent api participant world)
    (rooted : Rooted api participant world) (topicName : String) :
    ∃ value next, unregisterTopic api world.toHost topicName = .ok (value, next) := by
  cases found : world.self.mapTopics.lookup topicName with
  | none => exact ⟨true, _, unregisterTopic_ok.mpr (.absent found)⟩
  | some entry =>
    cases entry with
    | none => exact absurd found (consistent.inStep.pointed topicName)
    | some topic =>
      have present := ((consistent.inStep.topics topicName topic).mp found).1
      rcases answered : api.deleteTopic world.middleware participant topic with
        ⟨_ | errcode, middleware⟩
      · exact ⟨true, _, unregisterTopic_ok.mpr
          (.deleted topic participant middleware found rooted.live present answered)⟩
      · exact ⟨false, _, unregisterTopic_ok.mpr
          (.refused topic participant errcode middleware found rooted.live present answered)⟩

/-- An endpoint object's group and data endpoint are alive. -/
theorem Grounded.shelters {world : World σ} (grounded : Grounded api participant world)
    {endpoint : Endpoint} (member : endpoint ∈ world.endpoints) :
    endpoint.group ∈ (api.holdings world.middleware).groups ∧
      ∃ data, endpoint.data = some data ∧ data ∈ (api.holdings world.middleware).endpoints := by
  obtain ⟨data, made, _⟩ := grounded.wrapped.made endpoint member
  have present := (grounded.consistent.coupled.objects endpoint member data made).1
  exact ⟨(grounded.rooted.sheltersGroup (grounded.wrapped.source endpoint member)).1, data, made,
    present⟩

/-- `writeMessage` of an existing writer object finds its data writer. -/
theorem writeMessage_returns {world : World σ} (grounded : Grounded api participant world)
    {endpoint : Endpoint} (member : endpoint ∈ world.endpoints) (message : Message) :
    ∃ value next, writeMessage api world.middleware endpoint message = .ok (value, next) := by
  obtain ⟨_, data, made, present⟩ := grounded.shelters member
  have used : (Pointer.ofOption endpoint.data).deref (api.holdings world.middleware).endpoints =
      .ok data := by
    rw [Pointer.deref_ok, Pointer.ofOption_eq_address]
    exact ⟨made, present⟩
  refine ⟨(api.write world.middleware data message).1,
    (api.write world.middleware data message).2, ?_⟩
  simp only [writeMessage, used]
  rfl

/-- The destructor of an existing reader object finds all it uses. -/
theorem destructDataReader_returns {world : World σ} (grounded : Grounded api participant world)
    {endpoint : Endpoint} (member : endpoint ∈ world.endpoints) :
    ∃ next, destructDataReader api world.middleware endpoint = .ok next := by
  obtain ⟨alive, data, made, present⟩ := grounded.shelters member
  refine ⟨(api.deleteDatareader world.middleware endpoint.group data).2, ?_⟩
  simp only [destructDataReader, made, Pointer.deref, alive, present, ↓reduceIte]
  rfl

/-- The destructor of an existing writer object finds all it uses. -/
theorem destructDataWriter_returns {world : World σ} (grounded : Grounded api participant world)
    {endpoint : Endpoint} (member : endpoint ∈ world.endpoints) :
    ∃ next, destructDataWriter api world.middleware endpoint = .ok next := by
  obtain ⟨alive, data, made, present⟩ := grounded.shelters member
  refine ⟨(api.deleteDatawriter world.middleware endpoint.group data).2, ?_⟩
  simp only [destructDataWriter, made, Pointer.ofOption, Pointer.deref, alive, present, ↓reduceIte]
  rfl

/-- A creating method finds all it uses, known name or not. -/
theorem createEndpoint_total
    (create : σ → Group → Topic → Qos → Nat → Option DataEndpoint × σ) (kind : EndpointKind)
    {pointer : Pointer Group} {world : World σ}
    (consistent : Consistent api participant world) (rooted : Rooted api participant world)
    {group : Group} (source : pointer = .address group)
    (pointed : world.self.publisher = .address group ∨ world.self.subscriber = .address group)
    (topicName : String) (qos : Qos) (object : Nat) :
    ∃ result, createEndpoint api create kind pointer world.toHost topicName qos object =
      .ok result := by
  by_cases known : topicName ∈ world.self.mapTopics
  · obtain ⟨endpoint, next, returned, _⟩ :=
      createEndpoint_returns create kind consistent rooted source pointed known qos object
    exact ⟨_, returned⟩
  · exact ⟨_, createEndpoint_ok.mpr (.absent (Finmap.lookup_eq_none.mpr known))⟩

/-- In a grounded process a call faults only when it is misused. -/
theorem step_misused {world : World σ} (grounded : Grounded api participant world)
    {call : Call Qos Message} {fault : Fault} (faulted : World.step api world call = .error fault) :
    fault = .destroyedDataType ∧ Misused world call := by
  obtain ⟨publisher, subscriber, published, subscribed⟩ := grounded.grouped
  -- Every call but the misused one returns.
  have returns : ∀ answer after, World.step api world call ≠ .ok (answer, after) := by
    intro answer after stepped
    cases stepped.symm.trans faulted
  cases call with
  | registerTopic topicName dataType topicQos =>
    simp only [World.step, bind_error, reduceCtorEq, and_false, exists_false, or_false] at faulted
    obtain ⟨same, object, rfl, gone⟩ := registerTopic_misused grounded.rooted.live faulted
    exact ⟨same, gone⟩
  | unregisterTopic topicName =>
    obtain ⟨value, next, returned⟩ :=
      unregisterTopic_returns grounded.consistent grounded.rooted topicName
    refine absurd ?_ (returns (.flag value) { world with toHost := next })
    simp only [World.step, returned, bind, Except.bind]
  | createDataWriter topicName dataWriterQos =>
    obtain ⟨result, returned⟩ := createEndpoint_total api.createDatawriter
      .writer grounded.consistent grounded.rooted published (.inl published) topicName
      dataWriterQos world.nextObject
    refine absurd ?_ (returns (world.adopt result).1 (world.adopt result).2)
    simp only [World.step, createDataWriter, returned, bind, Except.bind]
  | createDataReader topicName dataReaderQos =>
    obtain ⟨result, returned⟩ := createEndpoint_total api.createDatareader
      .reader grounded.consistent grounded.rooted subscribed (.inr subscribed) topicName
      dataReaderQos world.nextObject
    refine absurd ?_ (returns (world.adopt result).1 (world.adopt result).2)
    simp only [World.step, createDataReader, returned, bind, Except.bind]
  | writeMessage object message =>
    cases found : world.find .writer object with
    | none =>
      refine absurd ?_ (returns .none world)
      simp only [World.step, found]
    | some endpoint =>
      obtain ⟨value, next, returned⟩ :=
        writeMessage_returns grounded (World.find_mem found) message
      refine absurd ?_ (returns (.flag value) { world with middleware := next })
      simp only [World.step, found, returned, bind, Except.bind]
  | destroyEndpoint kind object =>
    cases found : world.find kind object with
    | none =>
      refine absurd ?_ (returns .none world)
      simp only [World.step, found]
    | some endpoint =>
      have total : ∃ next, destructEndpoint api world.middleware endpoint = .ok next := by
        cases kind : endpoint.kind with
        | writer =>
          obtain ⟨next, returned⟩ := destructDataWriter_returns grounded (World.find_mem found)
          exact ⟨next, by simp only [destructEndpoint, kind, returned]⟩
        | reader =>
          obtain ⟨next, returned⟩ := destructDataReader_returns grounded (World.find_mem found)
          exact ⟨next, by simp only [destructEndpoint, kind, returned]⟩
      obtain ⟨next, returned⟩ := total
      refine absurd ?_ (returns .none
        { world with middleware := next, endpoints := world.endpoints.erase endpoint })
      simp only [World.step, found, returned, bind, Except.bind]

end FastDdsWrapper
