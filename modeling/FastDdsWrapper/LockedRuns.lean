import FastDdsWrapper.TopicLock

/-!
# The stores stay in step under every interleaving of statements

Between the middleware call and the statement on the map that belongs to it, the map is behind the
middleware. Only the holder of `m_topicLock` stands there, so the process is read as `settled`: with
the holder's pending statement on the map already done. Every statement of every thread, those
without the lock included, is one of the effects a whole call can have on the settled process, or
none, and so the settled process stays consistent and its directory makes at most one move.
-/

namespace FastDdsWrapper

open Monitor (Threads Held)
open Machine (run)

variable {σ Qos Message : Type} {api : Middleware σ Qos Message}
variable {participant : DomainParticipant}

/-- The process once the statement on the map that a thread is about to execute is done. -/
def Point.settle (world : World σ) : Point Qos → World σ
  | .guarded (.insertTopic topicName _ _ topic) =>
    { world with toHost := world.insertTopic topicName topic }
  | .guarded (.eraseTopic topicName) => { world with toHost := world.eraseTopic topicName }
  | _ => world

/-- What a statement under the lock may rely on since the lookup its call began with. -/
def Guarded.Backed (world : World σ) : Guarded Qos → Prop
  | .registerFind _ _ _ => True
  | .registerType topicName _ _ => topicName ∉ world.self.mapTopics
  | .createTopic topicName _ _ _ => topicName ∉ world.self.mapTopics
  | .insertTopic topicName _ _ _ => topicName ∉ world.self.mapTopics
  | .unregisterFind _ => True
  | .deleteTopic topicName topic => world.self.mapTopics.lookup topicName = some (some topic)
  | .eraseTopic _ => True
  | .createFind _ _ _ => True
  | .construct _ topicName _ topic => world.self.mapTopics.lookup topicName = some topic

/-- A thread relies on its lookup only under the lock. -/
def Point.Backed (world : World σ) : Point Qos → Prop
  | .guarded statement => statement.Backed world
  | _ => True

/-- Settling changes the map alone. -/
theorem Point.settle_same (world : World σ) (point : Point Qos) :
    point.settle world = { world with toHost := { world.toHost with
      self := (point.settle world).self } } := by
  cases point with
  | guarded statement => cases statement <;> rfl
  | _ => rfl

/-- The settled object is settled from the object. -/
theorem Point.settle_self {first second : World σ} (same : first.self = second.self)
    (point : Point Qos) : (point.settle first).self = (point.settle second).self := by
  cases point with
  | guarded statement =>
    cases statement <;> simp only [Point.settle, Host.insertTopic_self, Host.eraseTopic_self, same]
  | _ => exact same

/-- Settling leaves the participant. -/
theorem Point.settle_participant (world : World σ) (point : Point Qos) :
    (point.settle world).self.participant = world.self.participant := by
  cases point with
  | guarded statement => cases statement <;> rfl
  | _ => rfl

/-- The end of a `TypeSupport` does on the settled process what it does on the process. -/
theorem Point.settle_leaveScope (world : World σ) (point : Point Qos) (dataType : TopicDataType)
    (kept : Bool) :
    point.settle { world with toHost := world.leaveScope dataType kept } =
      { point.settle world with toHost := (point.settle world).leaveScope dataType kept } := by
  cases point with
  | guarded statement => cases statement <;> cases kept <;> rfl
  | _ => rfl

/-- What a thread relies on is in the map. -/
theorem Point.backed_same {first second : World σ} (same : first.self = second.self)
    (point : Point Qos) : point.Backed first ↔ point.Backed second := by
  cases point with
  | guarded statement => cases statement <;> simp only [Point.Backed, Guarded.Backed, same]
  | _ => exact Iff.rfl

/-- Outside the lock a thread relies on nothing. -/
theorem Point.backed_outside {point : Point Qos} (outside : ¬ point.Inside) (world : World σ) :
    point.Backed world := by
  cases point with
  | guarded statement => exact absurd trivial outside
  | _ => trivial

/-- A call enters the lock at a lookup: nothing is pending and nothing is relied on. -/
theorem Call.guarded_first {call : Call Qos Message} {statement : Guarded Qos}
    (takes : call.guarded = some statement) (world : World σ) :
    (Point.guarded statement).settle world = world ∧ statement.Backed world := by
  cases call with
  | registerTopic topicName dataType topicQos =>
    cases dataType with
    | none => cases takes
    | some dataType =>
      obtain rfl := Option.some.inj takes
      exact ⟨rfl, trivial⟩
  | unregisterTopic topicName =>
    obtain rfl := Option.some.inj takes
    exact ⟨rfl, trivial⟩
  | createDataWriter topicName dataWriterQos =>
    obtain rfl := Option.some.inj takes
    exact ⟨rfl, trivial⟩
  | createDataReader topicName dataReaderQos =>
    obtain rfl := Option.some.inj takes
    exact ⟨rfl, trivial⟩
  | writeMessage object message => cases takes
  | destroyEndpoint kind object => cases takes

/-! ## Statements under the lock -/

/-- What a statement relies on is there for the next one. -/
theorem GuardedOutcome.backed {before after : World σ} {statement : Guarded Qos}
    {point : Point Qos} (outcome : GuardedOutcome api before statement point after)
    (backed : statement.Backed before) : point.Backed after := by
  cases outcome with
  | known topicName dataType topicQos known => trivial
  | unknown topicName dataType topicQos unknown => exact unknown
  | typeRefused topicName dataType topicQos source errcode kept middleware => trivial
  | typeRegistered topicName dataType topicQos source kept middleware => exact backed
  | topicRefused topicName dataType topicQos kept source middleware => trivial
  | topicCreated topicName dataType topicQos kept source middleware topic => exact backed
  | occupied topicName dataType kept topic known => trivial
  | inserted topicName dataType kept topic unknown => trivial
  | absent topicName missing => trivial
  | nullEntry topicName entry => trivial
  | pointed topicName topic entry => exact entry
  | deletionRefused topicName topic source errcode middleware => trivial
  | deleted topicName topic source middleware => trivial
  | erased topicName => trivial
  | unlisted kind topicName qos missing => trivial
  | listed kind topicName qos topic entry => exact entry
  | constructed kind topicName qos topic group data middleware => trivial

/-- A statement under the lock has one of the effects of a call on the settled process. -/
theorem GuardedOutcome.effect (contract : Contract api) {before after : World σ}
    {statement : Guarded Qos} {point : Point Qos}
    (owner : before.self.participant = some participant) (backed : statement.Backed before)
    (outcome : GuardedOutcome api before statement point after) :
    Effect api participant ((Point.guarded statement).settle before) (point.settle after) := by
  cases outcome with
  | known topicName dataType topicQos known => exact .quiet _ rfl rfl rfl rfl
  | unknown topicName dataType topicQos unknown => exact .quiet _ rfl rfl rfl rfl
  | typeRefused topicName dataType topicQos source errcode kept middleware _ _ answered =>
    obtain ⟨types, held⟩ := registerType_held contract answered
    exact .quiet types rfl rfl held rfl
  | typeRegistered topicName dataType topicQos source kept middleware _ _ answered =>
    obtain ⟨types, held⟩ := registerType_held contract answered
    exact .quiet types rfl rfl held rfl
  | topicRefused topicName dataType topicQos kept source middleware _ _ answered =>
    have promised := contract.createTopic before.middleware source topicName dataType.name topicQos
    simp only [answered] at promised
    exact .quiet _ rfl rfl promised rfl
  | topicCreated topicName dataType topicQos kept source middleware topic _ live answered =>
    have promised := contract.createTopic before.middleware source topicName dataType.name topicQos
    simp only [answered] at promised
    obtain ⟨belongs, named, _, fresh, added⟩ := promised
    obtain rfl := Option.some.inj ((derefParticipant_ok.mp live).1.symm.trans owner)
    subst named
    exact .topicCreated _ topic backed belongs fresh rfl rfl added rfl
  | occupied topicName dataType kept topic known => exact absurd known backed
  | inserted topicName dataType kept topic unknown => exact .quiet _ rfl rfl rfl rfl
  | absent topicName missing => exact .quiet _ rfl rfl rfl rfl
  | nullEntry topicName entry => exact .nullErased topicName entry rfl rfl rfl rfl
  | pointed topicName topic entry => exact .quiet _ rfl rfl rfl rfl
  | deletionRefused topicName topic source errcode middleware _ _ answered =>
    have promised := contract.deleteTopic before.middleware source topic
    simp only [answered] at promised
    exact .quiet _ rfl rfl promised rfl
  | deleted topicName topic source middleware _ _ answered =>
    have promised := contract.deleteTopic before.middleware source topic
    simp only [answered] at promised
    exact .topicDeleted topicName topic backed promised.1 rfl rfl promised.2 rfl
  | erased topicName => exact .quiet _ rfl rfl rfl rfl
  | unlisted kind topicName qos missing => exact .quiet _ rfl rfl rfl rfl
  | listed kind topicName qos topic entry => exact .quiet _ rfl rfl rfl rfl
  | constructed kind topicName qos topic group data middleware source alive present answered =>
    refine createEndpoint_effect (createDataEndpoint_adds contract kind) ?_
      (.constructed group topic data middleware backed source alive present answered)
    intro endpoint alike pointed
    cases kind with
    | writer => exact .inl ⟨alike, pointed⟩
    | reader => exact .inr ⟨alike, pointed⟩

/-! ## Calls without the lock -/

/-- The process with another state of the participant object. -/
def World.withObject (world : World σ) (object : DDSDomainParticipant) : World σ :=
  { world with toHost := { world.toHost with self := object } }

/-- The middleware is the same. -/
@[simp] theorem World.withObject_middleware (world : World σ) (object : DDSDomainParticipant) :
    (world.withObject object).middleware = world.middleware := rfl

/-- A call without a part under the lock does not look at the participant object. -/
theorem lockless_step {world : World σ} {call : Call Qos Message} (lockless : call.guarded = none)
    (object : DDSDomainParticipant) :
    World.step api (world.withObject object) call =
      (World.step api world call).map fun result => (result.1, result.2.withObject object) := by
  cases call with
  | registerTopic topicName dataType topicQos =>
    cases dataType with
    | none => rfl
    | some dataType => cases lockless
  | unregisterTopic topicName => cases lockless
  | createDataWriter topicName dataWriterQos => cases lockless
  | createDataReader topicName dataReaderQos => cases lockless
  | writeMessage target message =>
    have same : (world.withObject object).find .writer target = world.find .writer target := rfl
    cases found : world.find .writer target with
    | none => simp only [World.step, same, found, Except.map]
    | some endpoint =>
      simp only [World.step, same, found, World.withObject_middleware]
      cases writeMessage api world.middleware endpoint message <;> rfl
  | destroyEndpoint kind target =>
    have same : (world.withObject object).find kind target = world.find kind target := rfl
    cases found : world.find kind target with
    | none => simp only [World.step, same, found, Except.map]
    | some endpoint =>
      simp only [World.step, same, found, World.withObject_middleware]
      cases destructEndpoint api world.middleware endpoint <;> rfl

/-- Nor does it change the participant object. -/
theorem lockless_self {world after : World σ} {call : Call Qos Message} {answer : Answer}
    (lockless : call.guarded = none) (stepped : World.step api world call = .ok (answer, after)) :
    after.self = world.self := by
  have unchanged : world.withObject world.self = world := rfl
  have same : World.step api (world.withObject world.self) call = _ :=
    lockless_step lockless world.self
  rw [unchanged, stepped, Except.map, Except.ok.injEq, Prod.mk.injEq] at same
  exact congrArg (fun world => world.self) same.2

/-- It does on the settled process what it does on the process. -/
theorem lockless_settles {world after : World σ} {call : Call Qos Message} {answer : Answer}
    (lockless : call.guarded = none) (stepped : World.step api world call = .ok (answer, after))
    (point : Point Qos) :
    World.step api (point.settle world) call = .ok (answer, point.settle after) := by
  have same := point.settle_self (lockless_self lockless stepped)
  rw [point.settle_same world, point.settle_same after, same]
  have moved : World.step api (world.withObject (point.settle world).self) call = _ :=
    lockless_step lockless (point.settle world).self
  rw [stepped] at moved
  exact moved

/-! ## The settled process -/

variable {ι : Type}

/-- Where the holder of the lock stands; nobody else has anything pending. -/
def pending (threads : Threads ι (Position Qos) (World σ)) : Point Qos :=
  match threads.holder with
  | none => .idle
  | some holder => (threads.position holder).point

/-- The process once the statement on the map that the holder of the lock is about to execute is
done. -/
def settled (threads : Threads ι (Position Qos) (World σ)) : World σ :=
  (pending threads).settle threads.shared

/-- With the lock free nothing is pending. -/
theorem settled_free {threads : Threads ι (Position Qos) (World σ)}
    (free : threads.holder = none) : settled threads = threads.shared := by
  simp only [settled, pending, free, Point.settle]

/-- The thread under the lock is the one with something pending. -/
theorem Monitor.Held.pending {threads : Threads ι (Position Qos) (World σ)}
    (held : Held Position.Inside threads) {thread : ι} {point : Point Qos} {answers : List Answer}
    (here : threads.position thread = ⟨point, answers⟩) (inside : point.Inside) :
    threads.holder = some thread ∧ pending threads = point := by
  have holds := (held thread).mp (by rw [here]; exact inside)
  simp only [FastDdsWrapper.pending, holds, here, and_self]

/-- The lock is held by the thread inside, its lookup still stands, and the settled process is
consistent and rooted. -/
structure Guarding (api : Middleware σ Qos Message) (participant : DomainParticipant)
    (threads : Threads ι (Position Qos) (World σ)) : Prop where
  /-- The holder of the lock is the thread inside. -/
  held : Held Position.Inside threads
  /-- What a thread looked up is still so. -/
  backed : ∀ thread, (threads.position thread).point.Backed threads.shared
  /-- The settled process is consistent. -/
  consistent : Consistent api participant (settled threads)
  /-- The settled process is rooted. -/
  rooted : Rooted api participant (settled threads)

/-- All that holds right after the constructor. -/
theorem construct_guarding (contract : Contract api) {middleware : σ} {domainId : Int}
    {participantQos : Qos}
    (created : (World.construct api middleware domainId participantQos).self.participant =
      some participant) :
    Guarding api participant
      (idleThreads ι Qos (World.construct api middleware domainId participantQos)) :=
  ⟨idleThreads_held _, fun _ => trivial, construct_consistent contract created,
    construct_rooted contract created⟩

/-- The statement reads or writes the map. -/
def Guarded.Looks : Guarded Qos → Prop
  | .registerFind _ _ _ => True
  | .unregisterFind _ => True
  | .createFind _ _ _ => True
  | _ => False

/-- What holds between any two statements of any threads. -/
structure LockedInStep (api : Middleware σ Qos Message) (participant : DomainParticipant)
    (threads : Threads ι (Position Qos) (World σ)) : Prop where
  /-- At most one thread is under the lock. -/
  exclusive : ∀ first second, (threads.position first).Inside →
    (threads.position second).Inside → first = second
  /-- The settled stores are in step. -/
  inStep : InStep api participant (settled threads)
  /-- With the lock free the stores are in step as they are. -/
  free : threads.holder = none → InStep api participant threads.shared
  /-- A thread that looks a name up sees the settled map. -/
  looks : ∀ thread statement, (threads.position thread).point = .guarded statement →
    statement.Looks → threads.shared = settled threads
  /-- A thread that inserts a name finds it free. -/
  inserts : ∀ thread topicName dataType kept topic, (threads.position thread).point =
    .guarded (.insertTopic topicName dataType kept topic) →
      topicName ∉ threads.shared.self.mapTopics
  /-- The topic a thread deletes is the one the map has under its name. -/
  deletes : ∀ thread topicName topic, (threads.position thread).point =
    .guarded (.deleteTopic topicName topic) →
      threads.shared.self.mapTopics.lookup topicName = some (some topic)

/-- The invariant says what holds between any two statements. -/
theorem Guarding.lockedInStep {threads : Threads ι (Position Qos) (World σ)}
    (guarding : Guarding api participant threads) : LockedInStep api participant threads := by
  obtain ⟨held, backed, consistent, _⟩ := guarding
  refine ⟨fun first second => held.exclusive, consistent.inStep, ?_, ?_, ?_, ?_⟩
  · intro free
    rw [← settled_free free]
    exact consistent.inStep
  · intro thread statement here looks
    have place : threads.position thread =
        ⟨.guarded statement, (threads.position thread).answers⟩ := by rw [← here]
    rw [settled, (held.pending place trivial).2]
    cases statement <;> first | rfl | cases looks
  · intro thread topicName dataType kept topic here
    have relied := backed thread
    rwa [here] at relied
  · intro thread topicName topic here
    have relied := backed thread
    rwa [here] at relied

/-! ## Every statement of every thread -/

variable [DecidableEq ι]

/-- A thread without the lock moves nothing that is pending. -/
theorem Monitor.Held.pending_elsewhere {threads : Threads ι (Position Qos) (World σ)}
    (held : Held Position.Inside threads) {thread : ι}
    (outside : ¬ (threads.position thread).Inside) (next : Position Qos) (shared : World σ) :
    FastDdsWrapper.pending { threads.move thread next with shared } =
      FastDdsWrapper.pending threads := by
  simp only [FastDdsWrapper.pending, Threads.move_holder]
  cases holds : threads.holder with
  | none => rfl
  | some holder =>
    have apart : holder ≠ thread := by
      rintro rfl
      exact outside ((held holder).mpr holds)
    simp only [Threads.move_other threads apart]

variable {clients : ι → Client Qos Message}
variable {before after : Threads ι (Position Qos) (World σ)} {thread : ι} {moved : Bool}

/-- Every statement has one of the effects of a call on the settled process. -/
theorem statement_effect (contract : Contract api) (held : Held Position.Inside before)
    (backed : ∀ thread, (before.position thread).point.Backed before.shared)
    (owner : (settled before).self.participant = some participant)
    (stepped : statementStep api clients before thread = .ok (moved, after)) :
    Effect api participant (settled before) (settled after) := by
  cases statement_cases stepped with
  | finished answers here done => exact .quiet _ rfl rfl rfl rfl
  | waits answers call statement here calls takes => exact .quiet _ rfl rfl rfl rfl
  | called answers call answer shared here calls lockless returned =>
    have outside : ¬ (before.position thread).Inside := by
      rw [here]
      exact id
    rw [settled, settled, held.pending_elsewhere outside]
    exact step_effect contract owner (lockless_settles lockless returned (pending before))
  | entered answers call statement here calls takes free =>
    have nothing := (Call.guarded_first takes before.shared).1
    rw [settled_free free]
    simp only [settled, pending, Threads.move_own, Threads.move_shared, nothing]
    exact .quiet _ rfl rfl rfl rfl
  | guarded statement answers point shared here went =>
    obtain ⟨holds, waiting⟩ := held.pending here trivial
    have relied := backed thread
    rw [here] at relied
    rw [settled, waiting, Point.settle_participant] at owner
    have effect := (Guarded.effect_cases went).effect contract owner relied
    have next : settled { before.move thread ⟨point, answers⟩ with shared } =
        point.settle shared := by
      simp only [settled, pending, Threads.move_holder, holds, Threads.move_own]
    rw [next, settled, waiting]
    exact effect
  | registerUnlocked dataType kept value answers here =>
    have same : settled before = before.shared := by
      rw [settled, (held.pending here trivial).2]
      rfl
    rw [same]
    exact .quiet _ rfl rfl rfl rfl
  | unlocked answer answers here =>
    have same : settled before = before.shared := by
      rw [settled, (held.pending here trivial).2]
      rfl
    rw [same]
    exact .quiet _ rfl rfl rfl rfl
  | scopeLeft dataType kept value answers here once =>
    have outside : ¬ (before.position thread).Inside := by
      rw [here]
      exact id
    rw [settled, settled, held.pending_elsewhere outside, Point.settle_leaveScope]
    exact .quiet _ (by simp) rfl (by rw [Host.leaveScope_middleware]) rfl

/-- What the threads rely on stays true under every statement. -/
theorem statement_backed (held : Held Position.Inside before)
    (backed : ∀ thread, (before.position thread).point.Backed before.shared)
    (stepped : statementStep api clients before thread = .ok (moved, after)) :
    ∀ thread, (after.position thread).point.Backed after.shared := by
  intro other
  have moves : ∀ {next : Position Qos} {shared : World σ}, next.point.Backed shared →
      (other ≠ thread → (before.position other).point.Backed shared) →
        ((before.move thread next).position other).point.Backed shared := by
    intro next shared own rest
    rw [Threads.move_position]
    split
    · exact own
    · rename_i apart
      exact rest apart
  cases statement_cases stepped with
  | finished answers here done => exact backed other
  | waits answers call statement here calls takes => exact backed other
  | called answers call answer shared here calls lockless returned =>
    have same := lockless_self lockless returned
    exact moves trivial fun _ => (Point.backed_same same _).mpr (backed other)
  | entered answers call statement here calls takes free =>
    exact moves (Call.guarded_first takes before.shared).2 fun _ => backed other
  | guarded statement answers point shared here went =>
    have relied := backed thread
    rw [here] at relied
    refine moves ((Guarded.effect_cases went).backed relied) fun apart => ?_
    -- Only the thread under the lock relies on anything.
    have inside : (before.position thread).Inside := by
      rw [here]
      trivial
    exact Point.backed_outside (fun also => apart (held.exclusive also inside)) shared
  | registerUnlocked dataType kept value answers here =>
    exact moves trivial fun _ => backed other
  | unlocked answer answers here => exact moves trivial fun _ => backed other
  | scopeLeft dataType kept value answers here once =>
    refine moves trivial fun _ => (Point.backed_same ?_ _).mpr (backed other)
    exact Host.leaveScope_self before.shared.toHost dataType kept

/-- Every statement of every thread keeps all that. -/
theorem guarding_preserved (contract : Contract api) :
    Machine.Preserves (statementStep api clients) (Guarding api participant) := by
  intro before thread moved after ⟨held, backed, consistent, rooted⟩ stepped
  have effect := statement_effect contract held backed rooted.owner stepped
  exact ⟨Monitor.held_preserved (code_bracketed api clients) before thread moved after held stepped,
    statement_backed held backed stepped, effect.consistent consistent, effect.rooted rooted⟩

/-- However the statements of any number of threads interleave, at most one is under the lock, a
lookup sees a map that is in step with the middleware, no insertion meets a taken name, and whatever
statement comes next makes at most one permitted move of the directory. -/
theorem topics_in_step_interleaved (contract : Contract api) (middleware : σ) (domainId : Int)
    (participantQos : Qos) (participant : DomainParticipant)
    (created : (World.construct api middleware domainId participantQos).self.participant =
      some participant)
    (clients : ι → Client Qos Message) (schedule : List ι)
    (threads : Threads ι (Position Qos) (World σ))
    (ran : run (statementStep api clients)
      (idleThreads ι Qos (World.construct api middleware domainId participantQos)) schedule =
        .ok threads) :
    LockedInStep api participant threads ∧
      ∀ thread moved after, statementStep api clients threads thread = .ok (moved, after) →
        Relation.ReflGen (Catalogue.Move Topic.name)
          (directory api participant (settled threads))
          (directory api participant (settled after)) := by
  have start := construct_guarding (ι := ι) contract created
  have preserved : Machine.Preserves (statementStep api clients)
      (Guarding api participant) := guarding_preserved contract
  have guarding := Machine.run_invariant preserved start ran
  constructor
  · exact guarding.lockedInStep
  · intro thread moved after stepped
    obtain ⟨held, backed, consistent, rooted⟩ := guarding
    exact step_moves consistent.coupled consistent.sound
      (statement_effect contract held backed rooted.owner stepped)

/-- Two threads on one participant object. The first registers a name, creates a reader and destroys
it; the second registers the same name with another type and removes it again. -/
def rivals : Bool → Client Unit String
  | false => Client.script [.registerTopic "a" (some ⟨1, "T"⟩) (), .createDataReader "a" (),
      .destroyEndpoint .reader 0]
  | true => Client.script [.registerTopic "a" (some ⟨2, "U"⟩) (), .unregisterTopic "a",
      .registerTopic "b" (some ⟨3, "V"⟩) ()]

/-- They take turns in the middle of their calls, and the second waits twice. -/
def rivalTurns : List Bool :=
  [false, false, true, false, false, true, false, false, true, true, false, true, true,
    false, true, false, true, false, true, true, false, true]

/-- The fifth statement is the first thread's `create_topic`: it lists its topic, the one permitted
move it makes, while the second thread waits. The stores are in step before it and at the end. -/
theorem topics_in_step_interleaved_rivals :
    ∃ middle moved after final,
      run (statementStep (reference false) rivals) (idleThreads Bool Unit started)
        (rivalTurns.take 4) = .ok middle ∧
      statementStep (reference false) rivals middle false = .ok (moved, after) ∧
      run (statementStep (reference false) rivals) after (rivalTurns.drop 5) = .ok final ∧
      LockedInStep (reference false) ⟨1⟩ middle ∧
      Relation.ReflGen (Catalogue.Move Topic.name)
        (directory (reference false) ⟨1⟩ (settled middle))
        (directory (reference false) ⟨1⟩ (settled after)) ∧
      (directory (reference false) ⟨1⟩ (settled middle)).entry "a" = none ∧
      (directory (reference false) ⟨1⟩ (settled after)).entry "a" = some ⟨⟨1⟩, 1, "a", "T"⟩ ∧
      LockedInStep (reference false) ⟨1⟩ final := by
  have begun : ((run (statementStep (reference false) rivals) (idleThreads Bool Unit started)
      (rivalTurns.take 4)).map fun threads =>
        (directory (reference false) ⟨1⟩ (settled threads)).entry "a") = .ok none := by decide
  have listed : ((run (statementStep (reference false) rivals) (idleThreads Bool Unit started)
      (rivalTurns.take 4 ++ [false])).map fun threads =>
        (directory (reference false) ⟨1⟩ (settled threads)).entry "a") =
          .ok (some ⟨⟨1⟩, 1, "a", "T"⟩) := by decide
  have done : (run (statementStep (reference false) rivals) (idleThreads Bool Unit started)
      (rivalTurns.take 4 ++ false :: rivalTurns.drop 5)).isOk = true := by decide
  obtain ⟨middle, early, free⟩ := Machine.map_ok.mp begun
  obtain ⟨final, ran⟩ := Machine.run_finishes done
  have whole := ran
  rw [Machine.run_append _ early] at ran listed
  obtain ⟨moved, after, stepped, late⟩ := Machine.run_cons_ok ran
  rw [Machine.run_cons [] stepped] at listed
  have held := topics_in_step_interleaved (reference_contract false) (Reference.fresh []) 0 () ⟨1⟩
    (by decide) rivals
  obtain ⟨inStep, moves⟩ := held (rivalTurns.take 4) middle early
  exact ⟨middle, moved, after, final, early, stepped, late, inStep, moves false moved after stepped,
    free, Except.ok.inj listed, (held _ final whole).1⟩

end FastDdsWrapper
