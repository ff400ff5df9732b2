import FastDdsWrapper.TopicDirectory

/-!
# What the destructor leaves in the factory

`~DDSDomainParticipant` makes one call, `delete_participant`, and drops the code it answers. The
factory refuses that call while the participant owns anything, so what the constructor and the
topic calls left inside the participant decides whether anything is deleted at all.
-/

namespace FastDdsWrapper

open Machine (run Reachable)

variable {σ Qos Message : Type} {api : Middleware σ Qos Message}
variable {participant : DomainParticipant}

/-- The factory holds neither the participant nor anything that belongs to it. -/
def Gone (api : Middleware σ Qos Message) (participant : DomainParticipant) (middleware : σ) :
    Prop :=
  participant ∉ (api.holdings middleware).participants ∧
    ¬ (api.holdings middleware).Owns participant

/-- The object has neither a publisher nor a subscriber nor a topic. -/
def Bare (object : DDSDomainParticipant) : Prop :=
  object.publisher = .null ∧ object.subscriber = .null ∧ object.mapTopics = ∅

/-- In a settled process the participant owns nothing exactly when the object is bare. -/
theorem owns_iff {world : World σ} (consistent : Consistent api participant world)
    (rooted : Rooted api participant world) :
    ¬ (api.holdings world.middleware).Owns participant ↔ Bare world.self := by
  constructor
  · intro bare
    simp only [Holdings.Owns, not_or, not_exists, not_and] at bare
    obtain ⟨noGroup, noTopic, _⟩ := bare
    have pointless : ∀ group, ¬ (world.self.publisher = .address group ∨
        world.self.subscriber = .address group) := by
      intro group pointed
      obtain ⟨member, belongs⟩ := (rooted.groups group).mpr pointed
      exact noGroup group member belongs
    refine ⟨?_, ?_, ?_⟩
    · cases pointer : world.self.publisher with
      | unassigned => exact absurd pointer rooted.assigned.1
      | null => rfl
      | address group => exact absurd (.inl pointer) (pointless group)
    · cases pointer : world.self.subscriber with
      | unassigned => exact absurd pointer rooted.assigned.2
      | null => rfl
      | address group => exact absurd (.inr pointer) (pointless group)
    · apply Finmap.ext_lookup
      intro name
      rw [Finmap.lookup_empty]
      cases entry : world.self.mapTopics.lookup name with
      | none => rfl
      | some pointed =>
        cases pointed with
        | none => exact absurd rfl (consistent.coupled.pointed name none entry)
        | some topic =>
          obtain rfl := consistent.sound.labelled name topic (directory_entry.mpr entry)
          obtain ⟨member, belongs⟩ := (consistent.coupled.topics topic).mpr entry
          exact absurd belongs (noTopic topic member)
  · intro bare owns
    obtain ⟨noPublisher, noSubscriber, noTopics⟩ := bare
    have noGroup : ∀ group ∈ (api.holdings world.middleware).groups,
        group.participant ≠ participant := by
      intro group member belongs
      have pointed := (rooted.groups group).mp ⟨member, belongs⟩
      rw [noPublisher, noSubscriber] at pointed
      rcases pointed with pointed | pointed <;> cases pointed
    have noTopic : ∀ topic ∈ (api.holdings world.middleware).topics,
        topic.participant ≠ participant := by
      intro topic member belongs
      have entry := (consistent.coupled.topics topic).mp ⟨member, belongs⟩
      rw [noTopics, Finmap.lookup_empty] at entry
      cases entry
    rcases owns with ⟨group, member, belongs⟩ | ⟨topic, member, belongs⟩ |
      ⟨data, member, belongs | belongs⟩
    · exact noGroup group member belongs
    · exact noTopic topic member belongs
    · exact noGroup data.group (rooted.enclosed data member belongs) belongs
    · have bound := directory_binding.mpr ⟨member, belongs, rfl⟩
      have entry := directory_entry.mp (consistent.sound.listed data data.topic bound)
      rw [noTopics, Finmap.lookup_empty] at entry
      cases entry

/-- The destructor removes the participant exactly when it owned nothing. -/
theorem destruct_gone_iff (contract : Contract api) (deletes : DeletesBareParticipants api)
    {object : DDSDomainParticipant} {middleware next : σ}
    (owner : object.participant = some participant)
    (alive : participant ∈ (api.holdings middleware).participants)
    (returned : object.destruct api middleware = .ok next) :
    Gone api participant next ↔ ¬ (api.holdings middleware).Owns participant := by
  simp only [DDSDomainParticipant.destruct, owner, alive, ↓reduceIte, Except.ok.injEq] at returned
  have promised := contract.deleteParticipant middleware participant
  rcases answered : api.deleteParticipant middleware participant with ⟨_ | errcode, after⟩
  · simp only [answered] at promised returned
    obtain ⟨bare, removed⟩ := promised
    subst returned
    refine iff_of_true ⟨?_, ?_⟩ bare
    · rw [removed]
      exact Finset.notMem_erase participant _
    · rw [removed]
      exact bare
  · simp only [answered] at promised returned
    subst returned
    constructor
    · intro gone
      rw [Gone, promised] at gone
      exact absurd alive gone.1
    · intro bare
      have accepted := deletes middleware participant alive bare
      rw [answered] at accepted
      cases accepted

/-- While the participant owns anything the destructor returns and deletes nothing. -/
theorem destruct_owning (contract : Contract api) {world : World σ}
    (rooted : Rooted api participant world)
    (owns : (api.holdings world.middleware).Owns participant) :
    ∃ next, world.self.destruct api world.middleware = .ok next ∧
      api.holdings next = api.holdings world.middleware := by
  have returned : world.self.destruct api world.middleware =
      .ok (api.deleteParticipant world.middleware participant).2 := by
    simp only [DDSDomainParticipant.destruct, rooted.owner, rooted.alive, ↓reduceIte]
  refine ⟨_, returned, ?_⟩
  have promised := contract.deleteParticipant world.middleware participant
  rcases answered : api.deleteParticipant world.middleware participant with ⟨_ | errcode, after⟩
  · simp only [answered] at promised
    exact absurd owns promised.1
  · simp only [answered] at promised
    exact promised

/-- After any run the destructor returns, and the factory holds nothing of the object exactly when
the object was bare. -/
theorem destruct_complete_iff (contract : Contract api) (deletes : DeletesBareParticipants api)
    (middleware : σ) (domainId : Int) (participantQos : Qos) (participant : DomainParticipant)
    (created : (World.construct api middleware domainId participantQos).self.participant =
      some participant)
    (world : World σ)
    (reached : Reachable (World.step api) (World.construct api middleware domainId participantQos)
      world) :
    ∃ next, world.self.destruct api world.middleware = .ok next ∧
      (Gone api participant next ↔ Bare world.self) := by
  obtain ⟨consistent, rooted⟩ := reachable_settled contract created reached
  have returned : world.self.destruct api world.middleware =
      .ok (api.deleteParticipant world.middleware participant).2 := by
    simp only [DDSDomainParticipant.destruct, rooted.owner, rooted.alive, ↓reduceIte]
  refine ⟨_, returned, ?_⟩
  rw [destruct_gone_iff contract deletes rooted.owner rooted.alive returned]
  exact owns_iff consistent rooted

/-- A process whose publisher and subscriber were both refused. -/
def refusedGroups : World Reference :=
  World.construct (reference true) (Reference.fresh [false, true, true]) 0 ()

/-- A topic comes and goes, and without publisher and subscriber the participant goes too. -/
theorem destruct_complete_bare :
    ∃ named world next,
      run (World.step (reference true)) refusedGroups [.registerTopic "a" (some ⟨1, "T"⟩) ()] =
        .ok named ∧
      "a" ∈ named.self.mapTopics ∧
      run (World.step (reference true)) named [.unregisterTopic "a"] = .ok world ∧
      world.self.destruct (reference true) world.middleware = .ok next ∧
      Gone (reference true) ⟨1⟩ next := by
  have registered : ((run (World.step (reference true)) refusedGroups
      [.registerTopic "a" (some ⟨1, "T"⟩) ()]).map fun world =>
        decide ("a" ∈ world.self.mapTopics)) = .ok true := by decide
  have removed : ((run (World.step (reference true)) refusedGroups
      ([.registerTopic "a" (some ⟨1, "T"⟩) ()] ++ [.unregisterTopic "a"])).map fun world =>
        (world.self.publisher, world.self.subscriber, world.self.mapTopics.keys)) =
          .ok (.null, .null, ∅) := by decide
  obtain ⟨named, early, known⟩ := Machine.map_ok.mp registered
  obtain ⟨world, ran, seen⟩ := Machine.map_ok.mp removed
  obtain ⟨noPublisher, noSubscriber, noTopics⟩ : world.self.publisher = .null ∧
      world.self.subscriber = .null ∧ world.self.mapTopics.keys = ∅ := by
    simpa only [Prod.mk.injEq] using seen
  have late := ran
  rw [Machine.run_append _ early] at late
  obtain ⟨next, returned, exactly⟩ := destruct_complete_iff (reference_contract true)
    (reference_deletesBareParticipants true) (Reference.fresh [false, true, true]) 0 () ⟨1⟩
    (by decide) world ⟨_, ran⟩
  have empty : world.self.mapTopics = ∅ := by
    apply Finmap.ext_lookup
    intro name
    rw [Finmap.lookup_empty, Finmap.lookup_eq_none, ← Finmap.mem_keys, noTopics]
    exact Finset.notMem_empty name
  exact ⟨named, world, next, early, of_decide_eq_true known, late, returned,
    exactly.mpr ⟨noPublisher, noSubscriber, empty⟩⟩

/-- Everything the run created is destroyed again, and the destructor leaves the participant. -/
theorem destruct_leaks_participant :
    ∃ world next,
      run (World.step (reference false)) started
        [.registerTopic "a" (some ⟨1, "T"⟩) (), .createDataReader "a" (),
          .destroyEndpoint .reader 0, .unregisterTopic "a"] = .ok world ∧
      world.endpoints = [] ∧
      world.self.destruct (reference false) world.middleware = .ok next ∧
      ¬ Gone (reference false) ⟨1⟩ next := by
  refine ⟨_, _, rfl, rfl, rfl, ?_⟩
  unfold Gone
  decide

/-- The group pointers never change. -/
theorem pointers_fixed (contract : Contract api) {middleware : σ} {domainId : Int}
    {participantQos : Qos}
    (created : (World.construct api middleware domainId participantQos).self.participant =
      some participant)
    {world : World σ}
    (reached : Reachable (World.step api) (World.construct api middleware domainId participantQos)
      world) :
    world.self.publisher = (World.construct api middleware domainId participantQos).self.publisher ∧
      world.self.subscriber =
        (World.construct api middleware domainId participantQos).self.subscriber := by
  obtain ⟨calls, ran⟩ := reached
  refine Machine.run_relation
    (fun before after : World σ => after.self.publisher = before.self.publisher ∧
      after.self.subscriber = before.self.subscriber)
    (fun world => ⟨rfl, rfl⟩) ?_ ?_ (step_rooted contract) (construct_rooted contract created) ran
  · intro first second third one two
    exact ⟨two.1.trans one.1, two.2.trans one.2⟩
  · intro before call answer after rooted stepped
    exact (step_effect contract rooted.owner stepped).pointers

/-- Where the constructor got a publisher or a subscriber, the destructor leaves the participant in
the factory whatever was done in between. -/
theorem destruct_incomplete (contract : Contract api) {middleware : σ} {domainId : Int}
    {participantQos : Qos}
    (created : (World.construct api middleware domainId participantQos).self.participant =
      some participant)
    {group : Group}
    (made : (World.construct api middleware domainId participantQos).self.publisher =
        .address group ∨
      (World.construct api middleware domainId participantQos).self.subscriber = .address group)
    {world : World σ}
    (reached : Reachable (World.step api) (World.construct api middleware domainId participantQos)
      world)
    {next : σ} (returned : world.self.destruct api world.middleware = .ok next) :
    participant ∈ (api.holdings next).participants := by
  obtain ⟨_, rooted⟩ := reachable_settled contract created reached
  obtain ⟨publisher, subscriber⟩ := pointers_fixed contract created reached
  rw [← publisher, ← subscriber] at made
  obtain ⟨member, belongs⟩ := (rooted.groups group).mpr made
  have owns : (api.holdings world.middleware).Owns participant := .inl ⟨group, member, belongs⟩
  obtain ⟨other, again, held⟩ := destruct_owning contract rooted owns
  obtain rfl := Except.ok.inj (returned.symm.trans again)
  rw [held]
  exact rooted.alive

end FastDdsWrapper
