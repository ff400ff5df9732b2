import FastDdsWrapper.Ownership

/-!
# Cleaning up

An endpoint object keeps its topic in the middleware, so the topic can only be unregistered after
all endpoint objects of its name are destroyed. `CleansUp` is the rule a caller has to follow: it
destroys every endpoint object and unregisters every name, in any order in which a name comes after
its endpoint objects. Followed after any run, the rule brings object and middleware back to where
the constructor left them, except that registered types stay.
-/

namespace FastDdsWrapper

open Machine (run attempts bind_ok)

variable {σ Qos Message : Type} {api : Middleware σ Qos Message}
variable {participant : DomainParticipant}

/-- A data endpoint of an existing group can be deleted. -/
def DeletesEndpoints (api : Middleware σ Qos Message) : Prop :=
  ∀ state, ∀ data ∈ (api.holdings state).endpoints, data.group ∈ (api.holdings state).groups →
    (api.deleteEndpoint data.group.kind state data.group data).1 = .ok

/-- So can a data reader. -/
theorem DeletesEndpoints.readers (deletes : DeletesEndpoints api) : DeletesReaders api := by
  intro state data member inside reader
  have accepted := deletes state data member inside
  rwa [reader] at accepted

/-- The call that destroys an endpoint object. -/
def Endpoint.destroy (endpoint : Endpoint) : Call Qos Message :=
  .destroyEndpoint endpoint.kind endpoint.object

/-- Calls that destroy every endpoint object and unregister every topic name, each name after its
endpoint objects. -/
structure CleansUp (world : World σ) (calls : List (Call Qos Message)) : Prop where
  /-- They do nothing else. -/
  only : ∀ call ∈ calls, (∃ kind object, call = .destroyEndpoint kind object) ∨
    ∃ topicName, call = .unregisterTopic topicName
  /-- Every endpoint object is destroyed. -/
  destroys : ∀ endpoint ∈ world.endpoints, endpoint.destroy ∈ calls
  /-- Every name is unregistered. -/
  unregisters : ∀ topicName ∈ world.self.mapTopics, .unregisterTopic topicName ∈ calls
  /-- A name comes after its endpoint objects. -/
  ordered : ∀ early topicName late, calls = early ++ .unregisterTopic topicName :: late →
    ∀ endpoint ∈ world.endpoints, endpoint.topicName = topicName → endpoint.destroy ∈ early

/-! ## The process to clean up -/

/-- Every endpoint object has its data endpoint, and every data endpoint of the participant its
object. -/
structure Tended (api : Middleware σ Qos Message) (participant : DomainParticipant)
    (world : World σ) : Prop where
  /-- No endpoint object is half made and no data endpoint lost. -/
  covered : Covered api participant world
  /-- The endpoint objects have identities of their own. -/
  wrapped : Wrapped api participant world
  /-- All that belongs to the participant is in step. -/
  owned : Owned api participant world

/-- An endpoint object is found under its class and identity. -/
theorem Tended.finds {world : World σ} (tended : Tended api participant world) {endpoint : Endpoint}
    (member : endpoint ∈ world.endpoints) :
    world.find endpoint.kind endpoint.object = some endpoint := by
  cases found : world.find endpoint.kind endpoint.object with
  | none =>
    have differs := List.find?_eq_none.mp found endpoint member
    simp at differs
  | some other =>
    have same := (World.find_matches found).2
    have alike := List.inj_on_of_nodup_map tended.wrapped.single (World.find_mem found) member same
    rw [alike]

/-- The data endpoint of an endpoint object can be deleted. -/
theorem Tended.deletable (deletes : DeletesEndpoints api) {world : World σ}
    (tended : Tended api participant world) {endpoint : Endpoint} {data : DataEndpoint}
    (member : endpoint ∈ world.endpoints) (made : endpoint.data = some data) :
    (api.deleteEndpoint endpoint.kind world.middleware endpoint.group data).1 = .ok := by
  have present := (tended.owned.consistent.coupled.objects endpoint member data made).1
  obtain ⟨alive, alike⟩ := tended.owned.rooted.sheltersGroup (tended.owned.source endpoint member)
  have inside := tended.owned.inside endpoint member data made
  have accepted := deletes world.middleware data present (inside ▸ alive)
  rwa [inside, alike] at accepted

/-- Every call is carried out that is answered. -/
theorem Tended.carriedOut (deletes : DeletesEndpoints api) {world : World σ}
    (tended : Tended api participant world) {call : Call Qos Message}
    (answered : Answered api world call) : CarriedOut api world call := by
  cases call with
  | destroyEndpoint kind object =>
    intro endpoint data found made
    have accepted := tended.deletable deletes (World.find_mem found) made
    rwa [(World.find_matches found).1] at accepted
  | registerTopic topicName dataType topicQos => exact answered
  | unregisterTopic topicName => exact answered
  | createDataWriter topicName dataWriterQos => exact answered
  | createDataReader topicName dataReaderQos => exact answered
  | writeMessage object message => exact answered

/-- An answered call keeps a process tended. -/
theorem Tended.step (contract : Contract api) (deletes : DeletesEndpoints api)
    {before after : World σ} {call : Call Qos Message} {answer : Answer}
    (tended : Tended api participant before)
    (stepped : World.step api before call = .ok (answer, after))
    (answered : Answered api before call) : Tended api participant after := by
  have covered := tended.covered.step contract stepped (tended.carriedOut deletes answered)
  have effect := step_effect contract tended.owned.rooted.owner stepped
  exact ⟨covered, effect.wrapped deletes.readers tended.owned.consistent.coupled
    tended.owned.rooted tended.wrapped covered.filled, tended.owned.step contract stepped⟩

/-- The constructor leaves a tended process. -/
theorem construct_tended (contract : Contract api) {middleware : σ} {domainId : Int}
    {participantQos : Qos}
    (created : (World.construct api middleware domainId participantQos).self.participant =
      some participant) :
    Tended api participant (World.construct api middleware domainId participantQos) := by
  have owned := construct_owned contract created
  obtain ⟨self, next, world, made⟩ := World.construct_constructed contract created
  have bare : ∀ data ∈ (api.holdings
      (World.construct api middleware domainId participantQos).middleware).endpoints,
      data.topic.participant ≠ participant ∧ data.group.participant ≠ participant := by
    rw [world]
    intro data member
    rw [made.endpoints] at member
    exact ⟨fun belongs => made.bare (.inr (.inr ⟨data, member, .inr belongs⟩)),
      fun belongs => made.bare (.inr (.inr ⟨data, member, .inl belongs⟩))⟩
  have none : (World.construct api middleware domainId participantQos).endpoints = [] := by
    rw [world]
  refine ⟨⟨owned.consistent, owned.rooted, ?_, ?_⟩, ⟨?_, owned.source, ?_, ?_, ?_⟩, owned⟩
  · simp [none]
  · exact fun data member belongs => absurd belongs (bare data member).1
  · simp [none]
  · simp [none]
  · simp [none]
  · exact fun data member belongs => absurd belongs (bare data member).2

/-- A run whose creations are answered reaches tended processes only. -/
theorem run_tended (contract : Contract api) (deletes : DeletesEndpoints api) {middleware : σ}
    {domainId : Int} {participantQos : Qos}
    (created : (World.construct api middleware domainId participantQos).self.participant =
      some participant)
    {calls : List (Call Qos Message)} {world : World σ}
    (ran : run (World.step api) (World.construct api middleware domainId participantQos) calls =
      .ok world)
    (answered : ∀ attempt ∈ attempts (World.step api)
      (World.construct api middleware domainId participantQos) calls,
        Answered api attempt.before attempt.event) : Tended api participant world := by
  refine Machine.run_while ?_ (construct_tended contract created) answered ran
  intro before call answer after tended stepped allowed
  exact tended.step contract deletes stepped allowed

/-! ## One cleaning call -/

/-- What a cleaning call does. -/
structure Cleaned (api : Middleware σ Qos Message) (call : Call Qos Message)
    (before after : World σ) : Prop where
  /-- The endpoint object it destroys is gone, and no other. -/
  endpoints : ∀ endpoint, endpoint ∈ after.endpoints ↔
    endpoint ∈ before.endpoints ∧ endpoint.destroy ≠ call
  /-- The name it unregisters is gone, and no other. -/
  names : ∀ topicName, topicName ∈ after.self.mapTopics ↔
    topicName ∈ before.self.mapTopics ∧ .unregisterTopic topicName ≠ call
  /-- No type goes. -/
  types : (api.holdings after.middleware).types = (api.holdings before.middleware).types

/-- After one cleaning call the others clean up the rest. -/
theorem CleansUp.rest {before after : World σ} {call : Call Qos Message}
    {calls : List (Call Qos Message)} (cleans : CleansUp before (call :: calls))
    (cleaned : Cleaned api call before after) : CleansUp after calls := by
  have later : ∀ {list : List (Call Qos Message)} {other : Call Qos Message}, other ≠ call →
      other ∈ call :: list → other ∈ list :=
    fun apart member => (List.mem_cons.mp member).resolve_left apart
  refine ⟨fun other member => cleans.only other (List.mem_cons_of_mem call member), ?_, ?_, ?_⟩
  · intro endpoint member
    obtain ⟨old, apart⟩ := (cleaned.endpoints endpoint).mp member
    exact later apart (cleans.destroys endpoint old)
  · intro topicName known
    obtain ⟨old, apart⟩ := (cleaned.names topicName).mp known
    exact later apart (cleans.unregisters topicName old)
  · intro early topicName late same endpoint member named
    obtain ⟨old, apart⟩ := (cleaned.endpoints endpoint).mp member
    exact later apart
      (cleans.ordered (call :: early) topicName late (by rw [same]; rfl) endpoint old named)

/-- The destructor of an endpoint object finds all it uses. -/
theorem Tended.destructs {world : World σ} (tended : Tended api participant world)
    {endpoint : Endpoint} (member : endpoint ∈ world.endpoints) :
    ∃ next, destructEndpoint api world.middleware endpoint = .ok next := by
  obtain ⟨data, made⟩ := Option.ne_none_iff_exists'.mp (tended.covered.filled endpoint member)
  have present := (tended.owned.consistent.coupled.objects endpoint member data made).1
  have alive := (tended.owned.rooted.sheltersGroup (tended.owned.source endpoint member)).1
  cases kind : endpoint.kind with
  | writer =>
    exact ⟨_, by simp only [destructEndpoint, kind, destructDataWriter, made, Pointer.ofOption,
      Pointer.deref_address alive, Pointer.deref_address present]; rfl⟩
  | reader =>
    exact ⟨_, by simp only [destructEndpoint, kind, destructDataReader, made,
      Pointer.deref_address alive, Pointer.deref_address present]; rfl⟩

/-- A destruction takes out the endpoint object it names. -/
theorem Tended.destroys (contract : Contract api) {world : World σ}
    (tended : Tended api participant world) (kind : EndpointKind) (object : Nat) :
    ∃ after, World.step api world (.destroyEndpoint kind object) = .ok (.none, after) ∧
      Cleaned api (.destroyEndpoint kind object) world after := by
  have names : ∀ topicName, topicName ∈ world.self.mapTopics ↔ topicName ∈ world.self.mapTopics ∧
      Call.unregisterTopic topicName ≠ (.destroyEndpoint kind object : Call Qos Message) := by
    simp
  cases found : world.find kind object with
  | none =>
    refine ⟨world, by simp only [World.step, found], fun endpoint => ⟨fun member => ⟨member, ?_⟩,
      And.left⟩, names, rfl⟩
    intro same
    obtain ⟨rfl, rfl⟩ := Call.destroyEndpoint.inj same
    cases found.symm.trans (tended.finds member)
  | some target =>
    obtain ⟨next, returned⟩ := tended.destructs (World.find_mem found)
    refine ⟨{ world with middleware := next, endpoints := world.endpoints.erase target },
      by simp only [World.step, found, returned, bind, Except.bind], fun endpoint => ?_, names, ?_⟩
    · have matched := World.find_matches found
      rw [(List.Nodup.of_map _ tended.wrapped.single).mem_erase_iff, and_comm]
      refine and_congr_right fun member => not_congr ⟨?_, fun same => ?_⟩
      · rintro rfl
        rw [Endpoint.destroy, matched.1, matched.2]
      · obtain ⟨rfl, rfl⟩ := Call.destroyEndpoint.inj same
        exact Option.some.inj ((tended.finds member).symm.trans found)
    · rcases destructEndpoint_held contract returned with ⟨held, _⟩ | ⟨data, _, held⟩
      · simp only [held]
      · simp only [held]
        rfl

/-- Without endpoint objects of its name, a topic is unregistered. -/
theorem Tended.unregisters (contract : Contract api) (deletes : DeletesUnusedTopics api)
    {world : World σ} (tended : Tended api participant world) {topicName : String}
    (idle : ∀ endpoint ∈ world.endpoints, endpoint.topicName ≠ topicName) :
    ∃ after, World.step api world (.unregisterTopic topicName) = .ok (.flag true, after) ∧
      Cleaned api (.unregisterTopic topicName) world after := by
  obtain ⟨value, after, stepped, decides⟩ := tended.covered.decides contract deletes topicName
  obtain rfl := decides.answer.mpr idle
  obtain ⟨self, held⟩ := decides.removed rfl
  refine ⟨after, stepped, fun endpoint => ?_, fun name => ?_, by rw [held]; rfl⟩
  · rw [decides.kept]
    simp [Endpoint.destroy]
  · rw [self, Finmap.mem_erase, and_comm]
    simp

/-! ## All of them -/

/-- Two processes around one object with the same publisher and subscriber, where the other
participants have what they had. -/
structure Framed (api : Middleware σ Qos Message) (participant : DomainParticipant)
    (before after : World σ) : Prop where
  /-- The object differs in its topic map at most. -/
  self : after.self = { before.self with mapTopics := after.self.mapTopics }
  /-- The participants are the same. -/
  participants : (api.holdings after.middleware).participants =
    (api.holdings before.middleware).participants
  /-- So are the publishers and subscribers. -/
  groups : (api.holdings after.middleware).groups = (api.holdings before.middleware).groups
  /-- Nothing of another participant changed. -/
  others : (api.holdings before.middleware).AgreeBut participant (api.holdings after.middleware)

/-- A run stays in the frame. -/
theorem run_framed (contract : Contract api) {start final : World σ}
    {calls : List (Call Qos Message)} (owned : Owned api participant start)
    (ran : run (World.step api) start calls = .ok final) : Framed api participant start final := by
  refine Machine.run_relation (Framed api participant) (fun world => ⟨rfl, rfl, rfl, .of_eq rfl⟩)
    (fun first second third early late => ?_) (fun before call answer after inside stepped => ?_)
    (fun before call answer after inside stepped => inside.step contract stepped) owned ran
  · refine ⟨?_, late.participants.trans early.participants, late.groups.trans early.groups,
      early.others.trans late.others⟩
    rw [late.self, early.self]
  · obtain ⟨self, participants, groups, _⟩ :=
      (step_effect contract inside.rooted.owner stepped).frame
    exact ⟨self, participants, groups, inside.step_elsewhere contract stepped⟩

/-- The cleaning calls run to the end, none of them is refused, and neither an endpoint object nor a
name is left. -/
theorem Tended.clean (contract : Contract api) (deletesEndpoints : DeletesEndpoints api)
    (deletesTopics : DeletesUnusedTopics api) (calls : List (Call Qos Message)) {world : World σ}
    (tended : Tended api participant world) (cleans : CleansUp world calls) :
    ∃ final, run (World.step api) world calls = .ok final ∧
      (∀ attempt ∈ attempts (World.step api) world calls, ∃ answer after,
        attempt.outcome = .ok (answer, after) ∧ answer ≠ .flag false) ∧
      Tended api participant final ∧ final.endpoints = [] ∧ final.self.mapTopics = ∅ ∧
      (api.holdings final.middleware).types = (api.holdings world.middleware).types := by
  induction calls generalizing world with
  | nil =>
    refine ⟨world, rfl, (fun attempt member => by cases member), tended, ?_, ?_, rfl⟩
    · refine List.eq_nil_iff_forall_not_mem.mpr fun endpoint member => ?_
      cases cleans.destroys endpoint member
    · refine Finmap.ext_lookup fun topicName => ?_
      rw [Finmap.lookup_empty, Finmap.lookup_eq_none]
      intro known
      cases cleans.unregisters topicName known
  | cons call calls ih =>
    have done : ∃ answer after, World.step api world call = .ok (answer, after) ∧
        answer ≠ .flag false ∧ Answered api world call ∧ Cleaned api call world after := by
      rcases cleans.only call List.mem_cons_self with ⟨kind, object, rfl⟩ | ⟨topicName, rfl⟩
      · obtain ⟨after, stepped, cleaned⟩ := tended.destroys contract kind object
        exact ⟨.none, after, stepped, by simp, trivial, cleaned⟩
      · -- No endpoint object of the name is left for a later call to destroy.
        have idle : ∀ endpoint ∈ world.endpoints, endpoint.topicName ≠ topicName := by
          intro endpoint member named
          cases cleans.ordered [] topicName calls rfl endpoint member named
        obtain ⟨after, stepped, cleaned⟩ := tended.unregisters contract deletesTopics idle
        exact ⟨.flag true, after, stepped, by simp, trivial, cleaned⟩
    obtain ⟨answer, after, stepped, granted, answered, cleaned⟩ := done
    obtain ⟨final, ran, all, ended, objects, names, types⟩ :=
      ih (tended.step contract deletesEndpoints stepped answered) (cleans.rest cleaned)
    refine ⟨final, by rw [Machine.run_cons calls stepped, ran], ?_, ended, objects, names,
      types.trans cleaned.types⟩
    intro attempt member
    simp only [attempts, stepped, List.mem_cons] at member
    rcases member with rfl | later
    · exact ⟨answer, after, rfl, granted⟩
    · exact all attempt later

/-! ## Back to the start -/

/-- Without endpoint objects and names, nothing of the participant is left but its groups. -/
theorem Tended.swept {world : World σ} (tended : Tended api participant world)
    (objects : world.endpoints = []) (names : world.self.mapTopics = ∅) :
    (∀ topic ∈ (api.holdings world.middleware).topics, topic.participant ≠ participant) ∧
      ∀ data ∈ (api.holdings world.middleware).endpoints, data.topic.participant ≠ participant := by
  constructor
  · intro topic member belongs
    have found := (tended.owned.consistent.coupled.topics topic).mp ⟨member, belongs⟩
    rw [names, Finmap.lookup_empty] at found
    cases found
  · intro data member belongs
    obtain ⟨endpoint, present, _⟩ := tended.covered.covered data member belongs
    rw [objects] at present
    cases present

/-- Two swept processes in one frame hold the same entities but for the participant's types. -/
theorem Framed.restored {before after : World σ} (framed : Framed api participant before after)
    (first : Tended api participant before) (last : Tended api participant after)
    (objects : before.endpoints = []) (names : before.self.mapTopics = ∅)
    (noObjects : after.endpoints = []) (noNames : after.self.mapTopics = ∅) :
    api.holdings after.middleware = { api.holdings before.middleware with
      types := Function.update (api.holdings before.middleware).types participant
        ((api.holdings after.middleware).types participant) } := by
  obtain ⟨noTopic, noData⟩ := first.swept objects names
  obtain ⟨topicless, dataless⟩ := last.swept noObjects noNames
  have topics : (api.holdings after.middleware).topics =
      (api.holdings before.middleware).topics := by
    ext topic
    by_cases belongs : topic.participant = participant
    · exact iff_of_false (fun member => topicless topic member belongs)
        fun member => noTopic topic member belongs
    · exact (framed.others _ belongs).topics topic rfl
  have endpoints : (api.holdings after.middleware).endpoints =
      (api.holdings before.middleware).endpoints := by
    ext data
    by_cases belongs : data.topic.participant = participant
    · exact iff_of_false (fun member => dataless data member belongs)
        fun member => noData data member belongs
    · exact (framed.others _ belongs).endpoints data (.inl rfl)
  have types : (api.holdings after.middleware).types =
      Function.update (api.holdings before.middleware).types participant
        ((api.holdings after.middleware).types participant) := by
    refine Function.eq_update_iff.mpr ⟨rfl, fun other apart => ?_⟩
    exact (framed.others other apart).types
  rw [← types]
  dsimp only
  rw [← topics, ← endpoints, ← framed.participants, ← framed.groups]

/-- After any run whose creations were answered, calls that destroy every endpoint object and
unregister every name, each name after its endpoint objects, run to the end and are never refused.
They leave the object as its constructor did, without endpoint objects, and the middleware holds
what it held then, together with the participant's types. -/
theorem clean_up_restores (contract : Contract api) (deletesEndpoints : DeletesEndpoints api)
    (deletesTopics : DeletesUnusedTopics api) (middleware : σ) (domainId : Int)
    (participantQos : Qos) (participant : DomainParticipant)
    (created : (World.construct api middleware domainId participantQos).self.participant =
      some participant)
    (calls : List (Call Qos Message)) (world : World σ)
    (ran : run (World.step api) (World.construct api middleware domainId participantQos) calls =
      .ok world)
    (answered : ∀ attempt ∈ attempts (World.step api)
      (World.construct api middleware domainId participantQos) calls,
        Answered api attempt.before attempt.event)
    (cleaning : List (Call Qos Message)) (cleans : CleansUp world cleaning) :
    ∃ final, run (World.step api) world cleaning = .ok final ∧
      (∀ attempt ∈ attempts (World.step api) world cleaning, ∃ answer after,
        attempt.outcome = .ok (answer, after) ∧ answer ≠ .flag false) ∧
      final.endpoints = [] ∧
      final.self = (World.construct api middleware domainId participantQos).self ∧
      api.holdings final.middleware =
        { api.holdings (World.construct api middleware domainId participantQos).middleware with
          types := Function.update
            (api.holdings (World.construct api middleware domainId
              participantQos).middleware).types
            participant ((api.holdings world.middleware).types participant) } := by
  have start := construct_tended contract created
  have tended := run_tended contract deletesEndpoints created ran answered
  obtain ⟨final, finished, granted, ended, objects, names, types⟩ :=
    tended.clean contract deletesEndpoints deletesTopics cleaning cleans
  obtain ⟨self, next, constructed, made⟩ := World.construct_constructed contract created
  have fresh : (World.construct api middleware domainId participantQos).endpoints = [] ∧
      (World.construct api middleware domainId participantQos).self.mapTopics = ∅ := by
    rw [constructed]
    exact ⟨rfl, made.empty⟩
  have whole := run_framed contract start.owned ((Machine.run_append cleaning ran).trans finished)
  refine ⟨final, finished, granted, objects, ?_, ?_⟩
  · rw [whole.self, names, ← fresh.2]
  · rw [whole.restored start ended fresh.1 fresh.2 objects names, types]

/-- The middleware in memory deletes every data endpoint. -/
theorem reference_deletesEndpoints (scripted : Bool) : DeletesEndpoints (reference scripted) := by
  intro state data _ _
  cases kind : data.group.kind <;> simp [Middleware.deleteEndpoint, reference, Reference.delete]

/-- The two names and the writer that `clashCalls` leaves. -/
def clashCleaning : List (Call Unit String) :=
  [.unregisterTopic "b", .destroyEndpoint .writer 1, .unregisterTopic "a"]

/-- These calls clean up after the run. -/
theorem clean_up_restores_clash :
    ∃ world final, run (World.step (reference false)) started clashCalls = .ok world ∧
      run (World.step (reference false)) world clashCleaning = .ok final ∧
      final.endpoints = [] ∧ final.self = started.self ∧
      final.middleware.held = { started.middleware.held with
        types := Function.update started.middleware.held.types ⟨1⟩
          (world.middleware.held.types ⟨1⟩) } := by
  have done : (run (World.step (reference false)) started clashCalls).isOk = true := by decide
  obtain ⟨world, ran⟩ := Machine.run_finishes done
  have seen : ((run (World.step (reference false)) started clashCalls).map fun world =>
      (world.endpoints.map fun endpoint => (endpoint.kind, endpoint.object, endpoint.topicName),
        world.self.mapTopics.keys)).toOption =
      some ([(.writer, 1, "a")], {"a", "b"}) := by decide
  simp only [ran, Except.map, Except.toOption, Option.some.injEq, Prod.mk.injEq] at seen
  obtain ⟨objects, keys⟩ := seen
  have single : ∀ endpoint ∈ world.endpoints,
      endpoint.kind = .writer ∧ endpoint.object = 1 ∧ endpoint.topicName = "a" := by
    intro endpoint member
    have listed := List.mem_map_of_mem (f := fun endpoint : Endpoint =>
      (endpoint.kind, endpoint.object, endpoint.topicName)) member
    simpa [objects] using listed
  have cleans : CleansUp world clashCleaning := by
    refine ⟨by simp [clashCleaning], ?_, ?_, ?_⟩
    · intro endpoint member
      obtain ⟨kind, object, _⟩ := single endpoint member
      simp [Endpoint.destroy, kind, object, clashCleaning]
    · intro topicName known
      have listed : topicName = "a" ∨ topicName = "b" := by
        simpa [keys] using Finmap.mem_keys.mpr known
      rcases listed with rfl | rfl <;> simp [clashCleaning]
    · intro early topicName late same endpoint member named
      obtain ⟨kind, object, name⟩ := single endpoint member
      rw [Endpoint.destroy, kind, object]
      rw [named] at name
      subst name
      rcases early with _ | ⟨first, _ | ⟨second, early⟩⟩
      · simp [clashCleaning] at same
      · simp [clashCleaning] at same
      · simp only [clashCleaning, List.cons_append, List.cons.injEq] at same
        rw [← same.2.1]
        simp
  obtain ⟨final, finished, _, none, self, held⟩ := clean_up_restores (reference_contract false)
    (reference_deletesEndpoints false) (reference_deletesUnusedTopics false) (Reference.fresh []) 0
    () ⟨1⟩ (by decide) clashCalls world ran
    (fun attempt _ => reference_answered attempt.before attempt.event) clashCleaning cleans
  exact ⟨world, final, ran, finished, none, self, held⟩

end FastDdsWrapper
