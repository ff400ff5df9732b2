import FastDdsWrapper.Ownership

/-!
# Participant objects on one factory

All participant objects of a process make their participants with the one factory, so they act on
one middleware. `Factory` is such a process: any number of participant objects, each with the
endpoint objects it returned, which may outlive it. Between events the objects share no participant
(`Arranged`), so each stays in step with the middleware in whatever order they are made, used and
destroyed, and what happens to one leaves the others and their entities alone. What two objects can
share is a data type object that was handed to both.
-/

namespace FastDdsWrapper

open Machine (run attempts bind_ok)

variable {σ Qos Message : Type} {api : Middleware σ Qos Message}
variable {participant : DomainParticipant}

/-! ## Any number of objects -/

/-- A participant object and the endpoint objects it returned. -/
structure Tenant where
  /-- The object. -/
  self : DDSDomainParticipant
  /-- Whether it still exists. -/
  present : Bool
  /-- Endpoint objects not yet destroyed, oldest first. -/
  endpoints : List Endpoint

/-- Something of it still exists. -/
def Tenant.InUse (tenant : Tenant) : Prop := tenant.present = true ∨ tenant.endpoints ≠ []

/-- Participant objects that share the one factory. -/
structure Factory (ι σ : Type) where
  /-- State of the middleware. -/
  middleware : σ
  /-- Data type objects deleted so far, in order. -/
  destroyed : List TopicDataType
  /-- Identity of the next endpoint object. -/
  nextObject : Nat
  /-- The participant objects made so far. -/
  tenants : ι → Option Tenant

/-- What happens next. -/
inductive FactoryEvent (ι Qos Message : Type)
  /-- A participant object is constructed. -/
  | construct (index : ι) (domainId : Int) (participantQos : Qos)
  /-- A call on a participant object or on an endpoint object of its. -/
  | call (index : ι) (call : Call Qos Message)
  /-- A participant object is destroyed. -/
  | destruct (index : ι)

/-- The participant object it is about. -/
def FactoryEvent.index {ι : Type} : FactoryEvent ι Qos Message → ι
  | .construct index _ _ => index
  | .call index _ => index
  | .destruct index => index

namespace Factory

variable {ι : Type} [DecidableEq ι]

/-- No participant object yet. -/
def vacant (ι : Type) (middleware : σ) : Factory ι σ := ⟨middleware, [], 0, fun _ => none⟩

/-- The process as one participant object sees it. -/
def world (factory : Factory ι σ) (tenant : Tenant) : World σ :=
  ⟨⟨tenant.self, factory.middleware, factory.destroyed⟩, tenant.endpoints, factory.nextObject⟩

/-- Another middleware state and another record of a participant object. -/
def house (factory : Factory ι σ) (index : ι) (tenant : Tenant) (middleware : σ) : Factory ι σ :=
  { factory with middleware, tenants := Function.update factory.tenants index (some tenant) }

/-- The process after a call on a participant object. -/
def settle (factory : Factory ι σ) (index : ι) (present : Bool) (world : World σ) : Factory ι σ :=
  { factory.house index ⟨world.self, present, world.endpoints⟩ world.middleware with
    destroyed := world.destroyed
    nextObject := world.nextObject }

/-- The record of the object itself is the new one. -/
@[simp] theorem house_self (factory : Factory ι σ) (index : ι) (tenant : Tenant) (middleware : σ) :
    (factory.house index tenant middleware).tenants index = some tenant :=
  Function.update_self ..

/-- The other records stay. -/
theorem house_other (factory : Factory ι σ) {index other : ι} (apart : other ≠ index)
    (tenant : Tenant) (middleware : σ) :
    (factory.house index tenant middleware).tenants other = factory.tenants other :=
  Function.update_of_ne apart ..

/-- After a call the object's record is what the call left. -/
@[simp] theorem settle_self (factory : Factory ι σ) (index : ι) (present : Bool)
    (world : World σ) : (factory.settle index present world).tenants index =
      some ⟨world.self, present, world.endpoints⟩ := Function.update_self ..

/-- A call leaves the other records. -/
theorem settle_other (factory : Factory ι σ) {index other : ι} (apart : other ≠ index)
    (present : Bool) (world : World σ) :
    (factory.settle index present world).tenants other = factory.tenants other :=
  Function.update_of_ne apart ..

/-- One event. What is asked of an object that does not exist, or of an index that has its object
already, is no event and changes nothing. -/
def step (api : Middleware σ Qos Message) :
    Machine.Step (Factory ι σ) (FactoryEvent ι Qos Message) Answer Fault := fun factory event =>
  match event with
  | .construct index domainId participantQos =>
    match factory.tenants index with
    | some _ => .ok (.none, factory)
    | none =>
      match DDSDomainParticipant.construct api factory.middleware domainId participantQos with
      | (self, middleware) => .ok (.none, factory.house index ⟨self, true, []⟩ middleware)
  | .call index call =>
    match factory.tenants index with
    | none => .ok (.none, factory)
    | some tenant =>
      if tenant.present = false ∧ call.Locked then .ok (.none, factory)
      else do
        let (answer, world) ← World.step api (factory.world tenant) call
        .ok (answer, factory.settle index tenant.present world)
  | .destruct index =>
    match factory.tenants index with
    | none => .ok (.none, factory)
    | some tenant =>
      if tenant.present then do
        let middleware ← tenant.self.destruct api factory.middleware
        .ok (.none, factory.house index { tenant with present := false } middleware)
      else .ok (.none, factory)

/-- The ways an event goes. -/
inductive Outcome (api : Middleware σ Qos Message) (before : Factory ι σ) :
    FactoryEvent ι Qos Message → Factory ι σ → Prop
  /-- It is no event. -/
  | idle (event : FactoryEvent ι Qos Message) : Outcome api before event before
  /-- A constructor returns. -/
  | constructed (index : ι) (domainId : Int) (participantQos : Qos) (self : DDSDomainParticipant)
      (middleware : σ) (free : before.tenants index = none)
      (returned : DDSDomainParticipant.construct api before.middleware domainId participantQos =
        (self, middleware)) :
      Outcome api before (.construct index domainId participantQos)
        (before.house index ⟨self, true, []⟩ middleware)
  /-- A call returns. -/
  | called (index : ι) (call : Call Qos Message) (tenant : Tenant) (answer : Answer)
      (world : World σ) (found : before.tenants index = some tenant)
      (admitted : tenant.present = false → ¬ call.Locked)
      (stepped : World.step api (before.world tenant) call = .ok (answer, world)) :
      Outcome api before (.call index call) (before.settle index tenant.present world)
  /-- A destructor returns. -/
  | destructed (index : ι) (tenant : Tenant) (middleware : σ)
      (found : before.tenants index = some tenant) (present : tenant.present = true)
      (returned : tenant.self.destruct api before.middleware = .ok middleware) :
      Outcome api before (.destruct index)
        (before.house index { tenant with present := false } middleware)

/-- An event that does not fault goes in one of these ways. -/
theorem step_outcome {before after : Factory ι σ} {event : FactoryEvent ι Qos Message}
    {answer : Answer} (stepped : step api before event = .ok (answer, after)) :
    Outcome api before event after := by
  cases event with
  | construct index domainId participantQos =>
    cases found : before.tenants index with
    | none =>
      rcases returned : DDSDomainParticipant.construct api before.middleware domainId
        participantQos with ⟨self, middleware⟩
      simp only [step, found, returned, Except.ok.injEq, Prod.mk.injEq] at stepped
      obtain ⟨_, rfl⟩ := stepped
      exact .constructed index domainId participantQos self middleware found returned
    | some tenant =>
      simp only [step, found, Except.ok.injEq, Prod.mk.injEq] at stepped
      obtain ⟨_, rfl⟩ := stepped
      exact .idle _
  | call index call =>
    cases found : before.tenants index with
    | none =>
      simp only [step, found, Except.ok.injEq, Prod.mk.injEq] at stepped
      obtain ⟨_, rfl⟩ := stepped
      exact .idle _
    | some tenant =>
      by_cases barred : tenant.present = false ∧ call.Locked
      · simp only [step, found, if_pos barred, Except.ok.injEq, Prod.mk.injEq] at stepped
        obtain ⟨_, rfl⟩ := stepped
        exact .idle _
      · simp only [step, found, if_neg barred, bind_ok, Except.ok.injEq, Prod.mk.injEq] at stepped
        obtain ⟨⟨given, world⟩, returned, _, rfl⟩ := stepped
        exact .called index call tenant given world found (fun gone locked => barred ⟨gone, locked⟩)
          returned
  | destruct index =>
    cases found : before.tenants index with
    | none =>
      simp only [step, found, Except.ok.injEq, Prod.mk.injEq] at stepped
      obtain ⟨_, rfl⟩ := stepped
      exact .idle _
    | some tenant =>
      by_cases present : tenant.present = true
      · simp only [step, found, if_pos present, bind_ok, Except.ok.injEq, Prod.mk.injEq] at stepped
        obtain ⟨middleware, returned, _, rfl⟩ := stepped
        exact .destructed index tenant middleware found present returned
      · simp only [step, found, if_neg present, Except.ok.injEq, Prod.mk.injEq] at stepped
        obtain ⟨_, rfl⟩ := stepped
        exact .idle _

end Factory

/-! ## What one object does to the others -/

variable {ι : Type}

/-- Between events every object that is in use has its own participant, or none. -/
structure Arranged (api : Middleware σ Qos Message) (factory : Factory ι σ) : Prop where
  /-- All that belongs to the participant is in step with the object. -/
  settled : ∀ index tenant, factory.tenants index = some tenant → tenant.InUse →
    Vacant (factory.world tenant) ∨ ∃ participant, Owned api participant (factory.world tenant)
  /-- No two objects in use have the same participant. -/
  apart : ∀ first second left right participant, factory.tenants first = some left →
    factory.tenants second = some right → left.InUse → right.InUse →
      left.self.participant = some participant → right.self.participant = some participant →
        first = second

/-- An object, the entities of its participant and the participant's type table are as before. The
data type objects in that table are not covered: another object's refused registration of one of
them deletes it. -/
structure Untouched (api : Middleware σ Qos Message) (index : ι) (before after : Factory ι σ) :
    Prop where
  /-- The object and its endpoint objects. -/
  tenant : after.tenants index = before.tenants index
  /-- The entities. -/
  held : ∀ tenant participant, before.tenants index = some tenant → tenant.InUse →
    tenant.self.participant = some participant →
      (api.holdings before.middleware).AgreeOn participant (api.holdings after.middleware)

/-- An arranged process in which an object is as given and its participant has what it had among the
given entities. -/
structure Standing (api : Middleware σ Qos Message) (index : ι) (tenant : Tenant)
    (participant : DomainParticipant) (held : Holdings) (factory : Factory ι σ) : Prop where
  /-- The process is arranged. -/
  arranged : Arranged api factory
  /-- The object and its endpoint objects. -/
  found : factory.tenants index = some tenant
  /-- The entities. -/
  agree : held.AgreeOn participant (api.holdings factory.middleware)

/-- An object in use with a participant owns what belongs to it. -/
theorem Arranged.owned {factory : Factory ι σ} (arranged : Arranged api factory) {index : ι}
    {tenant : Tenant} (found : factory.tenants index = some tenant) (used : tenant.InUse)
    (owner : tenant.self.participant = some participant) :
    Owned api participant (factory.world tenant) := by
  rcases arranged.settled index tenant found used with vacant | ⟨source, owned⟩
  · cases vacant.missing.symm.trans owner
  · obtain rfl : source = participant := Option.some.inj (owned.rooted.owner.symm.trans owner)
    exact owned

/-- A call of an object that is not in use, or has no participant, changes nothing. -/
theorem Arranged.called {factory : Factory ι σ} (arranged : Arranged api factory) {index : ι}
    {tenant : Tenant} {call : Call Qos Message} {answer : Answer} {world : World σ}
    (found : factory.tenants index = some tenant)
    (admitted : tenant.present = false → ¬ call.Locked)
    (stepped : World.step api (factory.world tenant) call = .ok (answer, world)) :
    world = factory.world tenant ∨
      tenant.InUse ∧ ∃ participant, Owned api participant (factory.world tenant) := by
  by_cases used : tenant.InUse
  · rcases arranged.settled index tenant found used with vacant | owned
    · exact .inl (vacant.still stepped)
    · exact .inr ⟨used, owned⟩
  · left
    obtain ⟨gone, none⟩ : tenant.present = false ∧ tenant.endpoints = [] := by
      simpa [Tenant.InUse] using used
    have absent : ∀ kind object, (factory.world tenant).find kind object = .none := by
      intro kind object
      simp [World.find, Factory.world, none]
    -- Nothing is left to call but endpoint objects, and there are none.
    cases call with
    | registerTopic topicName dataType topicQos => exact absurd trivial (admitted gone)
    | unregisterTopic topicName => exact absurd trivial (admitted gone)
    | createDataWriter topicName dataWriterQos => exact absurd trivial (admitted gone)
    | createDataReader topicName dataReaderQos => exact absurd trivial (admitted gone)
    | writeMessage object message =>
      simp only [World.step, absent, Except.ok.injEq, Prod.mk.injEq] at stepped
      exact stepped.2.symm
    | destroyEndpoint kind object =>
      simp only [World.step, absent, Except.ok.injEq, Prod.mk.injEq] at stepped
      exact stepped.2.symm

/-- An object that is left alone is settled as before. -/
theorem Untouched.settled {before after : Factory ι σ} {index : ι} {tenant : Tenant}
    (untouched : Untouched api index before after) (arranged : Arranged api before)
    (found : after.tenants index = some tenant) (used : tenant.InUse) :
    Vacant (after.world tenant) ∨ ∃ participant, Owned api participant (after.world tenant) := by
  rw [untouched.tenant] at found
  rcases arranged.settled index tenant found used with vacant | ⟨participant, owned⟩
  · exact .inl ⟨vacant.missing, vacant.empty, vacant.objects⟩
  · exact .inr ⟨participant, owned.agree rfl rfl
      (untouched.held tenant participant found used owned.rooted.owner)⟩

/-- A process without objects is arranged. -/
theorem vacant_arranged (middleware : σ) : Arranged api (Factory.vacant ι middleware) := by
  constructor
  · intro index tenant found
    cases found
  · intro first second left right participant found
    cases found

variable [DecidableEq ι]

/-- An event leaves every object alone that it is not about. -/
theorem Arranged.untouched (contract : Contract api) {before after : Factory ι σ}
    {event : FactoryEvent ι Qos Message} (arranged : Arranged api before)
    (outcome : Factory.Outcome api before event after) {other : ι} (apart : other ≠ event.index) :
    Untouched api other before after := by
  cases outcome with
  | idle event => exact ⟨rfl, fun _ _ _ _ _ => .of_eq rfl⟩
  | constructed index domainId participantQos self middleware free returned =>
    refine ⟨Factory.house_other _ apart .., fun tenant participant found used owner => ?_⟩
    have alive := (arranged.owned found used owner).rooted.alive
    have touched := construct_elsewhere contract returned
    rcases construct_cases contract returned with ⟨missing, _⟩ | ⟨source, made⟩
    · simp only [missing] at touched
      exact .of_eq touched
    · simp only [made.owner] at touched
      exact touched participant fun same => made.new (same ▸ alive)
  | called index call tenant answer world found admitted stepped =>
    refine ⟨Factory.settle_other _ apart .., fun neighbour participant here used owner => ?_⟩
    rcases arranged.called found admitted stepped with rfl | ⟨caller, source, owned⟩
    · exact .of_eq rfl
    · refine owned.step_elsewhere contract stepped participant ?_
      rintro rfl
      exact apart (arranged.apart _ _ _ _ _ here found used caller owner owned.rooted.owner)
  | destructed index tenant middleware found present returned =>
    refine ⟨Factory.house_other _ apart .., fun neighbour participant here used owner => ?_⟩
    rcases arranged.settled index tenant found (.inl present) with vacant | ⟨source, owned⟩
    · have missing : tenant.self.participant = none := vacant.missing
      simp only [DDSDomainParticipant.destruct, missing, Except.ok.injEq] at returned
      exact .of_eq (congrArg api.holdings returned.symm)
    · refine (owned.destruct contract returned).1 participant ?_
      rintro rfl
      exact apart (arranged.apart _ _ _ _ _ here found used (.inl present) owner
        owned.rooted.owner)

/-- If the object an event is about ends up settled, with the participant it had or a new one, the
process stays arranged. -/
theorem Arranged.next (contract : Contract api) {before after : Factory ι σ}
    {event : FactoryEvent ι Qos Message} (arranged : Arranged api before)
    (outcome : Factory.Outcome api before event after)
    (own : ∀ tenant, after.tenants event.index = some tenant → tenant.InUse →
      Vacant (after.world tenant) ∨ ∃ participant, Owned api participant (after.world tenant) ∧
        (participant ∉ (api.holdings before.middleware).participants ∨
          ∃ old, before.tenants event.index = some old ∧ old.InUse ∧
            old.self.participant = some participant)) : Arranged api after := by
  have others : ∀ index, index ≠ event.index → Untouched api index before after :=
    fun index apart => arranged.untouched contract outcome apart
  -- The object the event is about shares its participant with no other.
  have alone : ∀ index left right participant, index ≠ event.index →
      after.tenants index = some left → after.tenants event.index = some right → left.InUse →
        right.InUse → left.self.participant = some participant →
          right.self.participant ≠ some participant := by
    intro index left right participant apart here there used busy owner same
    rw [(others index apart).tenant] at here
    rcases own right there busy with vacant | ⟨source, owned, new | ⟨old, was, before, had⟩⟩
    · cases vacant.missing.symm.trans same
    · obtain rfl : source = participant := Option.some.inj (owned.rooted.owner.symm.trans same)
      exact new (arranged.owned here used owner).rooted.alive
    · obtain rfl : source = participant := Option.some.inj (owned.rooted.owner.symm.trans same)
      exact apart (arranged.apart _ _ _ _ _ here was used before owner had)
  refine ⟨fun index tenant found used => ?_,
    fun first second left right participant here there used busy owner same => ?_⟩
  · by_cases about : index = event.index
    · subst about
      exact (own tenant found used).imp_right fun ⟨participant, owned, _⟩ => ⟨participant, owned⟩
    · exact (others index about).settled arranged found used
  · by_cases left_about : first = event.index
    · by_cases right_about : second = event.index
      · exact left_about.trans right_about.symm
      · subst left_about
        exact absurd owner
          (alone second right left participant right_about there here busy used same)
    · by_cases right_about : second = event.index
      · subst right_about
        exact absurd same (alone first left right participant left_about here there used busy owner)
      · rw [(others first left_about).tenant] at here
        rw [(others second right_about).tenant] at there
        exact arranged.apart first second left right participant here there used busy owner same

/-- Every event keeps a process arranged. -/
theorem Arranged.step (contract : Contract api) {before after : Factory ι σ}
    {event : FactoryEvent ι Qos Message} (arranged : Arranged api before)
    (outcome : Factory.Outcome api before event after) : Arranged api after := by
  refine arranged.next contract outcome fun tenant found used => ?_
  cases outcome with
  | idle event =>
    refine (arranged.settled event.index tenant found used).imp_right ?_
    rintro ⟨participant, owned⟩
    exact ⟨participant, owned, .inr ⟨tenant, found, used, owned.rooted.owner⟩⟩
  | constructed index domainId participantQos self middleware free returned =>
    obtain rfl := Option.some.inj ((Factory.house_self ..).symm.trans found)
    have world : World.construct api before.middleware domainId participantQos =
        ⟨⟨self, middleware, []⟩, [], 0⟩ := by
      simp only [World.construct, returned]
    rcases construct_cases contract returned with ⟨missing, same, _⟩ | ⟨participant, made⟩
    · exact .inl ⟨missing, by subst same; rfl, rfl⟩
    · have owned : Owned api participant
          (World.construct api before.middleware domainId participantQos) :=
        construct_owned contract (by rw [world]; exact made.owner)
      rw [world] at owned
      exact .inr ⟨participant, owned.agree rfl rfl (.of_eq rfl), .inl made.new⟩
  | called index call caller answer world there admitted stepped =>
    obtain rfl := Option.some.inj ((Factory.settle_self ..).symm.trans found)
    rcases arranged.called there admitted stepped with rfl | ⟨busy, participant, owned⟩
    · refine (arranged.settled index caller there used).imp_right ?_
      rintro ⟨participant, owned⟩
      exact ⟨participant, owned, .inr ⟨caller, there, used, owned.rooted.owner⟩⟩
    · exact .inr ⟨participant, owned.step contract stepped,
        .inr ⟨caller, there, busy, owned.rooted.owner⟩⟩
  | destructed index owner middleware there present returned =>
    obtain rfl := Option.some.inj ((Factory.house_self ..).symm.trans found)
    have filled : owner.endpoints ≠ [] := by
      simpa [Tenant.InUse] using used
    rcases arranged.settled index owner there (.inl present) with vacant | ⟨participant, owned⟩
    · exact absurd vacant.objects filled
    · have held := (owned.destruct contract returned).2 filled
      exact .inr ⟨participant, owned.agree rfl rfl (.of_eq held),
        .inr ⟨owner, there, .inl present, owned.rooted.owner⟩⟩

/-- Events keep a process arranged. -/
theorem step_arranged (contract : Contract api) :
    Machine.Preserves (Factory.step api) (Arranged (ι := ι) api) :=
  fun _ _ _ _ arranged stepped => arranged.step contract (Factory.step_outcome stepped)

/-- A stretch of events about other objects leaves an object and its entities as they were. -/
theorem Arranged.stretch (contract : Contract api) {factory final : Factory ι σ}
    (arranged : Arranged api factory) {index : ι} {tenant : Tenant}
    (found : factory.tenants index = some tenant) (used : tenant.InUse)
    (owner : tenant.self.participant = some participant)
    {events : List (FactoryEvent ι Qos Message)}
    (ran : run (Factory.step api) factory events = .ok final)
    (elsewhere : ∀ event ∈ events, event.index ≠ index) :
    final.tenants index = some tenant ∧
      (api.holdings factory.middleware).AgreeOn participant (api.holdings final.middleware) := by
  have granted : ∀ attempt ∈ attempts (Factory.step api) factory events,
      attempt.event.index ≠ index :=
    fun attempt member => elsewhere attempt.event (Machine.attempts_event member)
  have kept : Standing api index tenant participant (api.holdings factory.middleware) final := by
    refine Machine.run_while ?_ ⟨arranged, found, .of_eq rfl⟩ granted ran
    intro before event answer after standing stepped apart
    have outcome := Factory.step_outcome stepped
    have untouched := standing.arranged.untouched contract outcome apart.symm
    exact ⟨standing.arranged.step contract outcome, untouched.tenant.trans standing.found,
      standing.agree.trans (untouched.held tenant participant standing.found used owner)⟩
  exact ⟨kept.found, kept.agree⟩

/-- Whatever participant objects a process makes, uses and destroys in whatever order: as long as an
object or one of its endpoint objects exists, its topic map is in step with the middleware, no other
object has its participant, and events about other objects change neither the object nor any entity
of its participant. The data type objects its participant's types stand for are no entities: another
object's refused registration of one of them deletes it. -/
theorem objects_isolated (contract : Contract api) (middleware : σ)
    (events : List (FactoryEvent ι Qos Message)) (factory : Factory ι σ)
    (ran : run (Factory.step api) (Factory.vacant ι middleware) events = .ok factory) (index : ι)
    (tenant : Tenant) (found : factory.tenants index = some tenant) (used : tenant.InUse)
    (participant : DomainParticipant) (owner : tenant.self.participant = some participant) :
    InStep api participant (factory.world tenant) ∧
      (∀ other neighbour, factory.tenants other = some neighbour → neighbour.InUse →
        neighbour.self.participant = some participant → other = index) ∧
      ∀ later final, run (Factory.step api) factory later = .ok final →
        (∀ event ∈ later, event.index ≠ index) → final.tenants index = some tenant ∧
          (api.holdings factory.middleware).AgreeOn participant
            (api.holdings final.middleware) := by
  have arranged : Arranged api factory :=
    Machine.run_invariant (step_arranged contract) (vacant_arranged middleware) ran
  refine ⟨(arranged.owned found used owner).consistent.inStep, ?_, ?_⟩
  · intro other neighbour there busy same
    exact arranged.apart other index neighbour tenant participant there found busy used same owner
  · intro later final rest elsewhere
    exact arranged.stretch contract found used owner rest elsewhere

/-- Two objects register one topic name with types of one name, and the first one is destroyed
before its reader. -/
def sharedEvents : List (FactoryEvent Bool Unit String) :=
  [.construct false 0 (), .construct true 0 (),
    .call false (.registerTopic "a" (some ⟨1, "T"⟩) ()),
    .call true (.registerTopic "a" (some ⟨2, "T"⟩) ()),
    .call false (.createDataReader "a" ()), .destruct false]

/-- The reader object outlives its participant object, whose topic the other object leaves alone
when it drops its own. -/
theorem objects_isolated_pair :
    ∃ factory tenant, run (Factory.step (reference false))
        (Factory.vacant Bool (Reference.fresh [])) sharedEvents = .ok factory ∧
      factory.tenants false = some tenant ∧ tenant.present = false ∧
      InStep (reference false) ⟨1⟩ (factory.world tenant) ∧
      ∀ final, run (Factory.step (reference false)) factory
          [.call true (.unregisterTopic "a"), .destruct true] = .ok final →
        final.tenants false = some tenant ∧
          factory.middleware.held.AgreeOn ⟨1⟩ final.middleware.held := by
  have done : (run (Factory.step (reference false)) (Factory.vacant Bool (Reference.fresh []))
    sharedEvents).isOk = true := by decide
  obtain ⟨factory, ran⟩ := Machine.run_finishes done
  have seen : ((run (Factory.step (reference false)) (Factory.vacant Bool (Reference.fresh []))
      sharedEvents).map fun factory => (factory.tenants false).map fun tenant =>
        (tenant.present, tenant.self.participant, tenant.endpoints.length)).toOption =
      some (some (false, some ⟨1⟩, 1)) := by decide
  simp only [ran, Except.map, Except.toOption, Option.some.injEq, Option.map_eq_some_iff,
    Prod.mk.injEq] at seen
  obtain ⟨tenant, found, gone, owner, single⟩ := seen
  have used : tenant.InUse := .inr (List.ne_nil_of_length_pos (single ▸ Nat.one_pos))
  have held := objects_isolated (reference_contract false) (Reference.fresh []) sharedEvents factory
    ran false tenant found used ⟨1⟩ owner
  refine ⟨factory, tenant, ran, found, gone, held.1, fun final rest => ?_⟩
  exact held.2.2 _ final rest (by decide)

end FastDdsWrapper
