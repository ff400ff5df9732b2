import FastDdsWrapper.Catalogue
import FastDdsWrapper.Reference
import FastDdsWrapper.TopicCalls

/-!
# The topic map and the middleware stay in step

Seen from outside, a participant object is a catalogue: topic names list topics, and data endpoints
are bound to the topics they use. `directory` reads that catalogue off the wrapper's map and the
middleware's endpoints, and every step of the process is a permitted move of it, or none
(`step_moves`). `Coupled` says how the two stores and the endpoint objects agree with it. Together
they hold in every state that any interleaving of calls reaches, whatever the middleware refuses.
-/

namespace FastDdsWrapper

open Machine (run Reachable)

variable {σ Qos Message : Type} {api : Middleware σ Qos Message}
variable {participant : DomainParticipant}

/-- The catalogue of a participant's topics and the data endpoints on them. -/
def directory (api : Middleware σ Qos Message) (participant : DomainParticipant)
    (world : World σ) : Catalogue String Topic DataEndpoint where
  entry name := (world.self.mapTopics.lookup name).join
  binding data :=
    if data ∈ (api.holdings world.middleware).endpoints ∧ data.topic.participant = participant then
      some data.topic
    else none

/-- A name lists a topic exactly when the map holds a pointer to it. -/
theorem directory_entry {world : World σ} {name : String} {topic : Topic} :
    (directory api participant world).entry name = some topic ↔
      world.self.mapTopics.lookup name = some (some topic) := Option.join_eq_some_iff

/-- A data endpoint is bound exactly to its own topic, while it exists. -/
theorem directory_binding {world : World σ} {data : DataEndpoint} {topic : Topic} :
    (directory api participant world).binding data = some topic ↔
      data ∈ (api.holdings world.middleware).endpoints ∧ data.topic.participant = participant ∧
        data.topic = topic := by
  simp only [directory, ite_eq_iff, Option.some.injEq, reduceCtorEq, and_false, or_false, and_assoc]

/-- The map, the middleware's topics and the endpoint objects agree. -/
structure Coupled (api : Middleware σ Qos Message) (participant : DomainParticipant)
    (world : World σ) : Prop where
  /-- The object drives this participant. -/
  owner : world.self.participant = some participant
  /-- No entry of the map is null. -/
  pointed : ∀ name entry, world.self.mapTopics.lookup name = some entry → entry ≠ none
  /-- The participant's topics are those the map points to, each under its own name. -/
  topics : ∀ topic, (topic ∈ (api.holdings world.middleware).topics ∧
    topic.participant = participant) ↔ world.self.mapTopics.lookup topic.name = some (some topic)
  /-- The data endpoint of an endpoint object exists and is on a topic of the object's name. -/
  objects : ∀ endpoint ∈ world.endpoints, ∀ data, endpoint.data = some data →
    data ∈ (api.holdings world.middleware).endpoints ∧ data.topic.participant = participant ∧
      data.topic.name = endpoint.topicName
  /-- No two endpoint objects share a data endpoint. -/
  distinct : (world.endpoints.filterMap Endpoint.data).Nodup

/-- A known name is in the map. -/
theorem mem_of_lookup {world : World σ} {name : String} {entry : Option Topic}
    (found : world.self.mapTopics.lookup name = some entry) : name ∈ world.self.mapTopics :=
  Finmap.mem_iff.mpr ⟨entry, found⟩

/-- A name outside the map is no topic's name. -/
theorem Coupled.untaken {world : World σ} (coupled : Coupled api participant world)
    {topicName : String} (unknown : topicName ∉ world.self.mapTopics) :
    ∀ topic ∈ (api.holdings world.middleware).topics, topic.participant = participant →
      topic.name ≠ topicName := by
  intro topic member belongs taken
  have found := (coupled.topics topic).mp ⟨member, belongs⟩
  rw [taken] at found
  exact unknown (mem_of_lookup found)

/-- An endpoint object's data endpoint belongs to no other endpoint object. -/
theorem data_unshared {endpoints : List Endpoint} {endpoint other : Endpoint}
    {data : DataEndpoint} (distinct : (endpoints.filterMap Endpoint.data).Nodup)
    (member : endpoint ∈ endpoints) (made : endpoint.data = some data)
    (present : other ∈ endpoints.erase endpoint) : other.data ≠ some data := by
  have order := (List.perm_cons_erase member).filterMap Endpoint.data
  rw [List.filterMap_cons_some made] at order
  have apart := (List.nodup_cons.mp (order.nodup_iff.mp distinct)).1
  intro same
  exact apart (List.mem_filterMap.mpr ⟨other, present, same⟩)

/-- One step is at most one permitted move of the directory. -/
theorem step_moves {before after : World σ} (coupled : Coupled api participant before)
    (sound : (directory api participant before).Sound Topic.name)
    (effect : Effect api participant before after) :
    Relation.ReflGen (Catalogue.Move Topic.name) (directory api participant before)
      (directory api participant after) := by
  cases effect with
  | quiet types self objects held =>
    have same : directory api participant after = directory api participant before := by
      simp only [directory, self, held]
    rw [same]
  | topicCreated types topic unknown owner fresh self objects held =>
    have free : (directory api participant before).entry topic.name = none := by
      simp [directory, Finmap.lookup_eq_none.mpr unknown]
    have same : directory api participant after =
        (directory api participant before).publish Topic.name topic := by
      simp only [directory, self, held, Catalogue.publish, Holdings.addTopic_endpoints,
        Catalogue.mk.injEq, and_true]
      funext name
      by_cases here : name = topic.name
      · subst here
        simp [Finmap.lookup_insert]
      · simp [Finmap.lookup_insert_of_ne _ here, Function.update_of_ne here]
    rw [same]
    exact .single (.publish _ topic free)
  | nullErased topicName entry self objects held =>
    have same : directory api participant after = directory api participant before := by
      simp only [directory, self, held, Catalogue.mk.injEq, and_true]
      funext name
      by_cases here : name = topicName
      · subst here
        simp [Finmap.lookup_erase, entry]
      · rw [Finmap.lookup_erase_ne here]
    rw [same]
  | topicDeleted topicName topic entry unused self objects held =>
    have listed : (directory api participant before).entry topicName = some topic :=
      directory_entry.mpr entry
    obtain rfl := sound.labelled topicName topic listed
    have idle : ∀ data, (directory api participant before).binding data ≠ some topic := by
      intro data bound
      obtain ⟨member, _, uses⟩ := directory_binding.mp bound
      exact unused ⟨data, member, uses⟩
    have same : directory api participant after =
        (directory api participant before).withdraw topic.name := by
      simp only [directory, self, held, Catalogue.withdraw, Holdings.removeTopic_endpoints,
        Catalogue.mk.injEq, and_true]
      funext name
      by_cases here : name = topic.name
      · subst here
        simp [Finmap.lookup_erase]
      · simp [Finmap.lookup_erase_ne here, Function.update_of_ne here]
    rw [same]
    exact .single (.withdraw _ topic listed idle)
  | endpointRefused endpoint missing self objects held =>
    have same : directory api participant after = directory api participant before := by
      simp only [directory, self, held]
    rw [same]
  | endpointCreated endpoint data entry made alive fresh self objects held =>
    have named := sound.labelled endpoint.topicName data.topic (directory_entry.mpr entry)
    rw [← named] at entry
    have owned := ((coupled.topics data.topic).mpr entry).2
    have idle : (directory api participant before).binding data = none := by
      simp [directory, fresh]
    have same : directory api participant after =
        (directory api participant before).bind data data.topic := by
      simp only [directory, self, held, Catalogue.bind, Holdings.addEndpoint_endpoints,
        Catalogue.mk.injEq, true_and]
      funext other
      by_cases here : other = data
      · subst here
        simp [owned]
      · simp [here]
    rw [same]
    exact .single (.bind _ data data.topic (directory_entry.mpr entry) idle)
  | endpointForgotten endpoint member self objects held =>
    have same : directory api participant after = directory api participant before := by
      simp only [directory, self, held]
    rw [same]
  | endpointDeleted endpoint data member made self objects held =>
    have same : directory api participant after =
        (directory api participant before).release data := by
      simp only [directory, self, held, Catalogue.release, Holdings.removeEndpoint_endpoints,
        Catalogue.mk.injEq, true_and]
      funext other
      by_cases here : other = data
      · subst here
        simp
      · simp [here]
    rw [same]
    exact .single (.release _ data)

/-- One step keeps the two stores and the endpoint objects in agreement. -/
theorem step_coupled {before after : World σ} (coupled : Coupled api participant before)
    (sound : (directory api participant before).Sound Topic.name)
    (effect : Effect api participant before after) : Coupled api participant after := by
  cases effect with
  | quiet types self objects held =>
    exact ⟨by rw [self]; exact coupled.owner, by rw [self]; exact coupled.pointed,
      by rw [self, held]; exact coupled.topics, by rw [objects, held]; exact coupled.objects,
      by rw [objects]; exact coupled.distinct⟩
  | topicCreated types topic unknown owner fresh self objects held =>
    refine ⟨by rw [self]; exact coupled.owner, ?_, ?_, by rw [objects, held]; exact coupled.objects,
      by rw [objects]; exact coupled.distinct⟩
    · intro name entry found
      rw [self] at found
      by_cases here : name = topic.name
      · rw [here, Finmap.lookup_insert] at found
        obtain rfl := Option.some.inj found
        exact Option.some_ne_none topic
      · rw [Finmap.lookup_insert_of_ne _ here] at found
        exact coupled.pointed name entry found
    · intro other
      rw [self, held]
      simp only [Holdings.addTopic_topics, Finset.mem_insert]
      by_cases here : other.name = topic.name
      · rw [here, Finmap.lookup_insert, Option.some.injEq, Option.some.injEq]
        constructor
        · rintro ⟨rfl | member, belongs⟩
          · rfl
          · have found := (coupled.topics other).mp ⟨member, belongs⟩
            exact absurd (here ▸ mem_of_lookup found) unknown
        · rintro rfl
          exact ⟨.inl rfl, owner⟩
      · rw [Finmap.lookup_insert_of_ne _ here, ← coupled.topics other]
        have apart : other ≠ topic := fun same => here (same ▸ rfl)
        simp only [apart, false_or]
  | nullErased topicName entry self objects held =>
    exact absurd rfl (coupled.pointed topicName none entry)
  | topicDeleted topicName topic entry unused self objects held =>
    obtain rfl := sound.labelled topicName topic (directory_entry.mpr entry)
    refine ⟨by rw [self]; exact coupled.owner, ?_, ?_, by rw [objects, held]; exact coupled.objects,
      by rw [objects]; exact coupled.distinct⟩
    · intro name other found
      rw [self] at found
      by_cases here : name = topic.name
      · rw [here, Finmap.lookup_erase] at found
        cases found
      · rw [Finmap.lookup_erase_ne here] at found
        exact coupled.pointed name other found
    · intro other
      rw [self, held]
      simp only [Holdings.removeTopic_topics, Finset.mem_erase]
      by_cases here : other.name = topic.name
      · rw [here, Finmap.lookup_erase]
        constructor
        · rintro ⟨⟨apart, member⟩, belongs⟩
          have found := (coupled.topics other).mp ⟨member, belongs⟩
          rw [here, entry] at found
          exact absurd (Option.some.inj (Option.some.inj found)).symm apart
        · intro found
          cases found
      · rw [Finmap.lookup_erase_ne here, ← coupled.topics other]
        have apart : other ≠ topic := fun same => here (same ▸ rfl)
        simp only [ne_eq, apart, not_false_eq_true, true_and]
  | endpointRefused endpoint missing self objects held =>
    refine ⟨by rw [self]; exact coupled.owner, by rw [self]; exact coupled.pointed,
      by rw [self, held]; exact coupled.topics, ?_, ?_⟩
    · intro other member data made
      rw [objects, List.mem_append, List.mem_singleton] at member
      rcases member with member | rfl
      · rw [held]
        exact coupled.objects other member data made
      · rw [missing] at made
        cases made
    · rw [objects, List.filterMap_append, List.filterMap_cons_none missing]
      simpa using coupled.distinct
  | endpointCreated endpoint data entry made alive fresh self objects held =>
    have named := sound.labelled endpoint.topicName data.topic (directory_entry.mpr entry)
    refine ⟨by rw [self]; exact coupled.owner, by rw [self]; exact coupled.pointed,
      by rw [self, held]; exact coupled.topics, ?_, ?_⟩
    · intro other member target known
      rw [objects, List.mem_append, List.mem_singleton] at member
      rw [held, Holdings.addEndpoint_endpoints, Finset.mem_insert]
      rcases member with member | rfl
      · obtain ⟨present, rest⟩ := coupled.objects other member target known
        exact ⟨.inr present, rest⟩
      · obtain rfl := Option.some.inj (made.symm.trans known)
        rw [← named] at entry
        exact ⟨.inl rfl, ((coupled.topics data.topic).mpr entry).2, named⟩
    · rw [objects, List.filterMap_append, List.filterMap_cons_some made, List.filterMap_nil]
      apply List.nodup_append.mpr
      refine ⟨coupled.distinct, List.nodup_singleton data, ?_⟩
      intro other present target single same
      obtain ⟨endpoint, member, known⟩ := List.mem_filterMap.mp present
      rw [List.mem_singleton.mp single] at same
      subst same
      exact fresh (coupled.objects endpoint member other known).1
  | endpointForgotten endpoint member self objects held =>
    refine ⟨by rw [self]; exact coupled.owner, by rw [self]; exact coupled.pointed,
      by rw [self, held]; exact coupled.topics, ?_, ?_⟩
    · intro other present data made
      rw [objects] at present
      rw [held]
      exact coupled.objects other (List.mem_of_mem_erase present) data made
    · rw [objects]
      exact coupled.distinct.sublist (List.erase_sublist.filterMap Endpoint.data)
  | endpointDeleted endpoint data member made self objects held =>
    refine ⟨by rw [self]; exact coupled.owner, by rw [self]; exact coupled.pointed,
      by rw [self, held]; exact coupled.topics, ?_, ?_⟩
    · intro other present target known
      rw [objects] at present
      have apart := data_unshared coupled.distinct member made present
      obtain ⟨held_before, rest⟩ :=
        coupled.objects other (List.mem_of_mem_erase present) target known
      rw [held, Holdings.removeEndpoint_endpoints, Finset.mem_erase]
      exact ⟨⟨fun same => apart (same ▸ known), held_before⟩, rest⟩
    · rw [objects]
      exact coupled.distinct.sublist (List.erase_sublist.filterMap Endpoint.data)

/-- Agreement of the stores together with a sound directory. -/
structure Consistent (api : Middleware σ Qos Message) (participant : DomainParticipant)
    (world : World σ) : Prop where
  /-- The stores agree. -/
  coupled : Coupled api participant world
  /-- Topics stand under their names and every data endpoint's topic is listed. -/
  sound : (directory api participant world).Sound Topic.name

/-- An effect keeps a process consistent. -/
theorem Effect.consistent {before after : World σ} (effect : Effect api participant before after)
    (consistent : Consistent api participant before) : Consistent api participant after := by
  have moved := step_moves consistent.coupled consistent.sound effect
  exact ⟨step_coupled consistent.coupled consistent.sound effect,
    Catalogue.moves_sound moved.to_reflTransGen consistent.sound⟩

/-- One step refines the directory: a consistent process stays consistent and its directory makes
at most one permitted move. -/
theorem step_refines (contract : Contract api) (before : World σ) (call : Call Qos Message)
    (answer : Answer) (after : World σ) (consistent : Consistent api participant before)
    (stepped : World.step api before call = .ok (answer, after)) :
    Relation.ReflGen (Catalogue.Move Topic.name) (directory api participant before)
      (directory api participant after) ∧ Consistent api participant after := by
  have effect := step_effect contract consistent.coupled.owner stepped
  exact ⟨step_moves consistent.coupled consistent.sound effect, effect.consistent consistent⟩

/-- Steps keep a process consistent. -/
theorem step_consistent (contract : Contract api) :
    Machine.Preserves (World.step api) (Consistent api participant) :=
  fun before call answer after consistent stepped =>
    (step_refines contract before call answer after consistent stepped).2

/-- A whole run is a sequence of permitted moves of the directory. -/
theorem run_refines (contract : Contract api) {start final : World σ}
    {calls : List (Call Qos Message)} (consistent : Consistent api participant start)
    (ran : run (World.step api) start calls = .ok final) :
    Relation.ReflTransGen (Catalogue.Move Topic.name) (directory api participant start)
      (directory api participant final) := by
  have simulated := Machine.run_simulates (Catalogue.Move Topic.name)
    (fun world catalogue =>
      Consistent api participant world ∧ directory api participant world = catalogue)
    (fun before call answer after source related stepped => by
      obtain ⟨inside, rfl⟩ := related
      obtain ⟨moved, next⟩ := step_refines contract before call answer after inside stepped
      exact ⟨_, moved.to_reflTransGen, next, rfl⟩)
    (And.intro consistent rfl) ran
  obtain ⟨target, moved, _, rfl⟩ := simulated
  exact moved

/-! ## What the object keeps of its participant -/

/-- The participant is alive, and its groups are the two the object points to. -/
structure Rooted (api : Middleware σ Qos Message) (participant : DomainParticipant)
    (world : World σ) : Prop where
  /-- The object drives this participant. -/
  owner : world.self.participant = some participant
  /-- The participant exists. -/
  alive : participant ∈ (api.holdings world.middleware).participants
  /-- Both group pointers are assigned. -/
  assigned : world.self.publisher ≠ .unassigned ∧ world.self.subscriber ≠ .unassigned
  /-- Its groups are the publisher and the subscriber. -/
  groups : ∀ group, (group ∈ (api.holdings world.middleware).groups ∧
    group.participant = participant) ↔
      world.self.publisher = .address group ∨ world.self.subscriber = .address group
  /-- The one is a publisher and the other a subscriber. -/
  kinds : ∀ group, (world.self.publisher = .address group → group.kind = .writer) ∧
    (world.self.subscriber = .address group → group.kind = .reader)
  /-- A data endpoint of the participant is inside one of them. -/
  enclosed : ∀ data ∈ (api.holdings world.middleware).endpoints,
    data.group.participant = participant → data.group ∈ (api.holdings world.middleware).groups

/-- No step touches the object's pointers, the participants or the groups, and a new data endpoint
is inside an existing group. -/
theorem Effect.frame {before after : World σ} (effect : Effect api participant before after) :
    after.self = { before.self with mapTopics := after.self.mapTopics } ∧
      (api.holdings after.middleware).participants =
        (api.holdings before.middleware).participants ∧
      (api.holdings after.middleware).groups = (api.holdings before.middleware).groups ∧
      ∀ data ∈ (api.holdings after.middleware).endpoints,
        data ∈ (api.holdings before.middleware).endpoints ∨
          data.group ∈ (api.holdings before.middleware).groups := by
  cases effect with
  | quiet types self objects held =>
    rw [self, held]
    exact ⟨rfl, rfl, rfl, fun data member => .inl member⟩
  | topicCreated types topic unknown owner fresh self objects held =>
    rw [self, held]
    exact ⟨rfl, rfl, rfl, fun data member => .inl member⟩
  | nullErased topicName entry self objects held =>
    rw [self, held]
    exact ⟨rfl, rfl, rfl, fun data member => .inl member⟩
  | topicDeleted topicName topic entry unused self objects held =>
    rw [self, held]
    exact ⟨rfl, rfl, rfl, fun data member => .inl member⟩
  | endpointRefused endpoint missing self objects held =>
    rw [self, held]
    exact ⟨rfl, rfl, rfl, fun data member => .inl member⟩
  | endpointCreated endpoint data entry made alive fresh self objects held =>
    rw [self, held]
    refine ⟨rfl, rfl, rfl, fun other member => ?_⟩
    rw [Holdings.addEndpoint_endpoints, Finset.mem_insert] at member
    rcases member with rfl | member
    · exact .inr alive
    · exact .inl member
  | endpointForgotten endpoint member self objects held =>
    rw [self, held]
    exact ⟨rfl, rfl, rfl, fun data member => .inl member⟩
  | endpointDeleted endpoint data member made self objects held =>
    rw [self, held]
    refine ⟨rfl, rfl, rfl, fun other present => ?_⟩
    rw [Holdings.removeEndpoint_endpoints, Finset.mem_erase] at present
    exact .inl present.2

/-- An effect keeps the object's group pointers. -/
theorem Effect.pointers {before after : World σ} (effect : Effect api participant before after) :
    after.self.publisher = before.self.publisher ∧
      after.self.subscriber = before.self.subscriber := by
  obtain ⟨self, _⟩ := effect.frame
  rw [self]
  exact ⟨rfl, rfl⟩

/-- An effect keeps the participant alive and its groups in place. -/
theorem Effect.rooted {before after : World σ} (effect : Effect api participant before after)
    (rooted : Rooted api participant before) : Rooted api participant after := by
  obtain ⟨self, participants, groups, endpoints⟩ := effect.frame
  refine ⟨?_, ?_, ?_, ?_, ?_, ?_⟩
  · rw [self]
    exact rooted.owner
  · rw [participants]
    exact rooted.alive
  · rw [self]
    exact rooted.assigned
  · rw [self, groups]
    exact rooted.groups
  · rw [self]
    exact rooted.kinds
  · intro data member belongs
    rw [groups]
    rcases endpoints data member with old | inside
    · exact rooted.enclosed data old belongs
    · exact inside

/-- Steps keep the participant alive and its groups in place. -/
theorem step_rooted (contract : Contract api) :
    Machine.Preserves (World.step api) (Rooted api participant) := by
  intro before call answer after rooted stepped
  exact (step_effect contract rooted.owner stepped).rooted rooted

/-- Steps keep a process consistent and rooted. -/
theorem step_settled (contract : Contract api) :
    Machine.Preserves (World.step api)
      (fun world => Consistent api participant world ∧ Rooted api participant world) := by
  intro before call answer after ⟨consistent, rooted⟩ stepped
  exact ⟨step_consistent contract before call answer after consistent stepped,
    step_rooted contract before call answer after rooted stepped⟩

/-- What the constructor did, read off a process whose object got its participant. -/
theorem World.construct_constructed (contract : Contract api) {middleware : σ} {domainId : Int}
    {participantQos : Qos}
    (created : (World.construct api middleware domainId participantQos).self.participant =
      some participant) :
    ∃ self next, World.construct api middleware domainId participantQos =
        ⟨⟨self, next, []⟩, [], 0⟩ ∧ Constructed api middleware participant self next := by
  rcases returned : DDSDomainParticipant.construct api middleware domainId participantQos with
    ⟨self, next⟩
  have world : World.construct api middleware domainId participantQos =
      ⟨⟨self, next, []⟩, [], 0⟩ := by
    simp only [World.construct, returned]
  rw [world] at created
  rcases construct_cases contract returned with ⟨missing, _, _⟩ | ⟨source, made⟩
  · exact absurd (missing.symm.trans created) (by simp)
  · obtain rfl : source = participant := Option.some.inj (made.owner.symm.trans created)
    exact ⟨self, next, world, made⟩

/-- The constructor of a participant object that got its participant leaves a consistent process. -/
theorem construct_consistent (contract : Contract api) {middleware : σ} {domainId : Int}
    {participantQos : Qos}
    (created : (World.construct api middleware domainId participantQos).self.participant =
      some participant) :
    Consistent api participant (World.construct api middleware domainId participantQos) := by
  obtain ⟨self, next, world, made⟩ := World.construct_constructed contract created
  rw [world]
  have empty : ∀ name, self.mapTopics.lookup name = none := by
    intro name
    rw [made.empty, Finmap.lookup_empty]
  have bare := made.bare
  simp only [Holdings.Owns, not_or, not_exists, not_and] at bare
  obtain ⟨_, noTopic, noEndpoint⟩ := bare
  refine ⟨⟨made.owner, ?_, ?_, ?_, List.nodup_nil⟩, ⟨?_, ?_⟩⟩
  · intro name entry found
    cases (empty name).symm.trans found
  · intro topic
    constructor
    · rintro ⟨member, belongs⟩
      rw [made.topics] at member
      exact absurd belongs (noTopic topic member)
    · intro found
      cases (empty topic.name).symm.trans found
  · intro endpoint member
    cases member
  · intro name topic found
    cases (empty name).symm.trans (directory_entry.mp found)
  · intro data topic bound
    obtain ⟨member, belongs, _⟩ := directory_binding.mp bound
    rw [made.endpoints] at member
    exact absurd belongs (noEndpoint data member).2

/-- It also leaves the participant alive with the groups it made. -/
theorem construct_rooted (contract : Contract api) {middleware : σ} {domainId : Int}
    {participantQos : Qos}
    (created : (World.construct api middleware domainId participantQos).self.participant =
      some participant) :
    Rooted api participant (World.construct api middleware domainId participantQos) := by
  obtain ⟨self, next, world, made⟩ := World.construct_constructed contract created
  rw [world]
  have bare := made.bare
  simp only [Holdings.Owns, not_or, not_exists, not_and] at bare
  obtain ⟨noGroup, _, noEndpoint⟩ := bare
  refine ⟨made.owner, ?_, made.assigned, ?_, ?_, ?_⟩
  · rw [made.participants]
    exact Finset.mem_insert_self participant _
  · intro group
    rw [made.groups group]
    constructor
    · rintro ⟨old | pointed, belongs⟩
      · exact absurd belongs (noGroup group old)
      · exact pointed
    · intro pointed
      exact ⟨.inr pointed, pointed.elim (fun here => (made.published group here).1)
        fun here => (made.subscribed group here).1⟩
  · intro group
    exact ⟨fun here => (made.published group here).2, fun here => (made.subscribed group here).2⟩
  · intro data member belongs
    rw [made.endpoints] at member
    exact absurd belongs (noEndpoint data member).1

/-- Every state reached from a constructor that got its participant is consistent and rooted. -/
theorem reachable_settled (contract : Contract api) {middleware : σ} {domainId : Int}
    {participantQos : Qos}
    (created : (World.construct api middleware domainId participantQos).self.participant =
      some participant)
    {world : World σ}
    (reached : Reachable (World.step api) (World.construct api middleware domainId participantQos)
      world) :
    Consistent api participant world ∧ Rooted api participant world :=
  Machine.reachable_invariant (step_settled contract)
    ⟨construct_consistent contract created, construct_rooted contract created⟩ reached

/-! ## The stores in step -/

/-- The map, the participant's topics and the endpoints on them tell one story. -/
structure InStep (api : Middleware σ Qos Message) (participant : DomainParticipant)
    (world : World σ) : Prop where
  /-- The map lists exactly the participant's topics, each under its own name. -/
  topics : ∀ name topic, world.self.mapTopics.lookup name = some (some topic) ↔
    topic ∈ (api.holdings world.middleware).topics ∧ topic.participant = participant ∧
      topic.name = name
  /-- No entry of the map is null. -/
  pointed : ∀ name, world.self.mapTopics.lookup name ≠ some none
  /-- What an endpoint object wraps exists and is on the topic the map has under its name. -/
  objects : ∀ endpoint ∈ world.endpoints, ∀ data, endpoint.data = some data →
    data ∈ (api.holdings world.middleware).endpoints ∧
      world.self.mapTopics.lookup endpoint.topicName = some (some data.topic)
  /-- So is every data endpoint on a topic of the participant, wrapped or not. -/
  endpoints : ∀ data ∈ (api.holdings world.middleware).endpoints,
    data.topic.participant = participant →
      world.self.mapTopics.lookup data.topic.name = some (some data.topic)
  /-- Endpoint objects of one topic name share one topic. -/
  shared : ∀ first ∈ world.endpoints, ∀ second ∈ world.endpoints,
    first.topicName = second.topicName → ∀ left right, first.data = some left →
      second.data = some right → left.topic = right.topic

/-- A consistent process tells one story. -/
theorem Consistent.inStep {world : World σ} (consistent : Consistent api participant world) :
    InStep api participant world := by
  obtain ⟨coupled, sound⟩ := consistent
  have bound : ∀ data ∈ (api.holdings world.middleware).endpoints,
      data.topic.participant = participant →
        (directory api participant world).binding data = some data.topic := by
    intro data member belongs
    exact directory_binding.mpr ⟨member, belongs, rfl⟩
  have listed : ∀ data ∈ (api.holdings world.middleware).endpoints,
      data.topic.participant = participant →
        world.self.mapTopics.lookup data.topic.name = some (some data.topic) := by
    intro data member belongs
    exact directory_entry.mp (sound.listed data data.topic (bound data member belongs))
  refine ⟨?_, ?_, ?_, listed, ?_⟩
  · intro name topic
    constructor
    · intro found
      obtain rfl := sound.labelled name topic (directory_entry.mpr found)
      obtain ⟨member, belongs⟩ := (coupled.topics topic).mpr found
      exact ⟨member, belongs, rfl⟩
    · rintro ⟨member, belongs, rfl⟩
      exact (coupled.topics topic).mp ⟨member, belongs⟩
  · intro name found
    exact coupled.pointed name none found rfl
  · intro endpoint member data made
    obtain ⟨present, belongs, named⟩ := coupled.objects endpoint member data made
    rw [← named]
    exact ⟨present, listed data present belongs⟩
  · intro first here second there same left right one two
    obtain ⟨left_held, left_owned, left_named⟩ := coupled.objects first here left one
    obtain ⟨right_held, right_owned, right_named⟩ := coupled.objects second there right two
    apply sound.shared (bound left left_held left_owned) (bound right right_held right_owned)
    rw [left_named, right_named, same]

/-- A creating method finds all it needs for a name in the map and returns an endpoint object. -/
theorem createEndpoint_returns
    (create : σ → Group → Topic → Qos → Nat → Option DataEndpoint × σ) (kind : EndpointKind)
    {pointer : Pointer Group} {world : World σ} (consistent : Consistent api participant world)
    (rooted : Rooted api participant world) {group : Group} (source : pointer = .address group)
    (pointed : world.self.publisher = .address group ∨ world.self.subscriber = .address group)
    {topicName : String} (known : topicName ∈ world.self.mapTopics) (qos : Qos) (object : Nat) :
    ∃ endpoint next, createEndpoint api create kind pointer world.toHost topicName qos object =
        .ok (some endpoint, next) ∧ endpoint.topicName = topicName := by
  obtain ⟨entry, found⟩ := Finmap.mem_iff.mp known
  cases entry with
  | none => exact absurd found (consistent.inStep.pointed topicName)
  | some topic =>
    have alive := ((rooted.groups group).mpr pointed).1
    have listed := ((consistent.inStep.topics topicName topic).mp found).1
    rcases answered : create world.middleware group topic qos object with ⟨data, next⟩
    exact ⟨_, next, createEndpoint_ok.mpr
      (.constructed group topic data next found source alive listed answered), rfl⟩

/-- The same middleware with another `create_topic`. -/
def Middleware.withCreateTopic (api : Middleware σ Qos Message)
    (createTopic : σ → DomainParticipant → String → String → Qos → Option Topic × σ) :
    Middleware σ Qos Message :=
  { api with createTopic }

/-- Another `create_topic` differs at most where the name already has a topic. -/
def AgreesOnFreeNames (api : Middleware σ Qos Message)
    (createTopic : σ → DomainParticipant → String → String → Qos → Option Topic × σ) : Prop :=
  ∀ state participant name typeName qos,
    (∀ topic ∈ (api.holdings state).topics, topic.participant = participant →
      topic.name ≠ name) →
    createTopic state participant name typeName qos =
      api.createTopic state participant name typeName qos

/-- `registerTopic` calls `create_topic` only for a free name: what `create_topic` does for a taken
name makes no difference. -/
theorem registerTopic_free (contract : Contract api) {world : World σ}
    (coupled : Coupled api participant world)
    {createTopic : σ → DomainParticipant → String → String → Qos → Option Topic × σ}
    (agrees : AgreesOnFreeNames api createTopic) (topicName : String)
    (dataType : Option TopicDataType) (topicQos : Qos) :
    registerTopic (api.withCreateTopic createTopic) world.toHost topicName dataType topicQos =
      registerTopic api world.toHost topicName dataType topicQos := by
  cases dataType with
  | none => rfl
  | some dataType =>
    by_cases intact : dataType ∈ world.destroyed
    · simp only [registerTopic, intact, ↓reduceIte]
    by_cases known : topicName ∈ world.self.mapTopics
    · simp only [registerTopic, intact, known, ↓reduceIte]
    have same : Host.derefParticipant (api.withCreateTopic createTopic) world.toHost =
        world.toHost.derefParticipant api := rfl
    simp only [registerTopic, intact, known, ↓reduceIte, same]
    cases live : world.toHost.derefParticipant api with
    | error fault => rfl
    | ok source =>
      obtain ⟨set, _⟩ := derefParticipant_ok.mp live
      obtain rfl : source = participant := Option.some.inj (set.symm.trans coupled.owner)
      rcases answered : api.registerType world.middleware source dataType with
        ⟨⟨_ | errcode, kept⟩, registered⟩
      · have untaken : ∀ topic ∈ (api.holdings registered).topics,
            topic.participant = source → topic.name ≠ topicName := by
          obtain ⟨types, held⟩ := registerType_held contract answered
          rw [held]
          exact coupled.untaken known
        have created := agrees registered source topicName dataType.name topicQos untaken
        simp only [Middleware.withCreateTopic, bind, Except.bind, answered, created]
      · simp only [Middleware.withCreateTopic, bind, Except.bind, answered]

/-- No step of a consistent process depends on what `create_topic` does for a taken name. -/
theorem step_free (contract : Contract api) {world : World σ}
    (coupled : Coupled api participant world)
    {createTopic : σ → DomainParticipant → String → String → Qos → Option Topic × σ}
    (agrees : AgreesOnFreeNames api createTopic) (call : Call Qos Message) :
    World.step (api.withCreateTopic createTopic) world call = World.step api world call := by
  cases call with
  | registerTopic topicName dataType topicQos =>
    simp only [World.step, registerTopic_free contract coupled agrees]
  | unregisterTopic topicName => rfl
  | createDataWriter topicName dataWriterQos => rfl
  | createDataReader topicName dataReaderQos => rfl
  | writeMessage object message => rfl
  | destroyEndpoint kind object => rfl

/-- In every state any interleaving of calls reaches, the map, the middleware's topics and the
endpoints are in step, and no further call would create a topic under a taken name. -/
theorem topics_in_step (contract : Contract api) (middleware : σ) (domainId : Int)
    (participantQos : Qos) (participant : DomainParticipant)
    (created : (World.construct api middleware domainId participantQos).self.participant =
      some participant)
    (world : World σ)
    (reached : Reachable (World.step api) (World.construct api middleware domainId participantQos)
      world) :
    InStep api participant world ∧
      ∀ createTopic, AgreesOnFreeNames api createTopic → ∀ call,
        World.step (api.withCreateTopic createTopic) world call = World.step api world call := by
  obtain ⟨consistent, _⟩ := reachable_settled contract created reached
  constructor
  · exact consistent.inStep
  · intro createTopic agrees call
    exact step_free contract consistent.coupled agrees call

/-- A process right after the constructor, over the middleware that never refuses by script. -/
def started : World Reference :=
  World.construct (reference false) (Reference.fresh []) 0 ()

/-- Two names, a type clash, a refused deletion, and a name registered again after its removal. -/
def clashCalls : List (Call Unit String) :=
  [.registerTopic "a" (some ⟨1, "T"⟩) (), .createDataReader "a" (),
    .registerTopic "b" (some ⟨2, "T"⟩) (), .registerTopic "b" (some ⟨3, "U"⟩) (),
    .unregisterTopic "a", .destroyEndpoint .reader 0, .unregisterTopic "a",
    .registerTopic "a" (some ⟨4, "V"⟩) (), .createDataWriter "a" ()]

/-- The topic of the last registration. -/
def clashTopic : Topic := ⟨⟨1⟩, 3, "a", "V"⟩

/-- The topic the second name got at its second registration. -/
def secondTopic : Topic := ⟨⟨1⟩, 2, "b", "U"⟩

/-- The data writer created at the end. -/
def clashWriter : DataEndpoint := ⟨⟨.writer, ⟨1⟩, 2⟩, clashTopic, 1, 1⟩

/-- These calls run to the end, and there the map, the topics and the endpoints are in step. -/
theorem topics_in_step_clash :
    ∃ world, run (World.step (reference false)) started clashCalls = .ok world ∧
      InStep (reference false) ⟨1⟩ world ∧
      world.self.mapTopics.keys = {"a", "b"} ∧
      world.self.mapTopics.lookup "a" = some (some clashTopic) ∧
      world.self.mapTopics.lookup "b" = some (some secondTopic) ∧
      world.middleware.held.topics = {clashTopic, secondTopic} ∧
      world.endpoints = [⟨.writer, 1, "a", clashWriter.group, some clashWriter⟩] ∧
      world.middleware.held.endpoints = {clashWriter} := by
  have mapped : ((run (World.step (reference false)) started clashCalls).map fun world =>
      (world.self.mapTopics.keys, world.self.mapTopics.lookup "a",
        world.self.mapTopics.lookup "b")) =
      .ok ({"a", "b"}, some (some clashTopic), some (some secondTopic)) := by decide
  have held : ((run (World.step (reference false)) started clashCalls).map fun world =>
      (world.middleware.held.topics, world.endpoints, world.middleware.held.endpoints)) =
      .ok ({clashTopic, secondTopic},
        [⟨.writer, 1, "a", clashWriter.group, some clashWriter⟩], {clashWriter}) := by decide
  obtain ⟨world, ran, seen⟩ := Machine.map_ok.mp mapped
  simp only [ran, Except.map, Except.ok.injEq, Prod.mk.injEq] at seen held
  obtain ⟨inStep, _⟩ := topics_in_step (reference_contract false) (Reference.fresh []) 0 () ⟨1⟩
    (by decide) world ⟨clashCalls, ran⟩
  exact ⟨world, ran, inStep, seen.1, seen.2.1, seen.2.2, held⟩

end FastDdsWrapper
