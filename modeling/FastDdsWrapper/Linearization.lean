import FastDdsWrapper.CallStatements

/-!
# Locked calls take effect one after another

When statements of calls of the four locked methods interleave, all answers and the final state are
those of the whole calls made one after another, in the order in which they release `m_topicLock`.
A fault of one statement is the fault of a whole call made in that order. `Linear` relates the
threads to the whole calls made so far: what the holder's call comes to from where it stands, it
comes to from its beginning after them.
-/

namespace FastDdsWrapper

open Monitor (Threads Held Section)
open Machine (run)

variable {σ Qos Message : Type} {api : Middleware σ Qos Message}

/-! ## Data type objects on the way -/

/-- The data type object a statement still works on. -/
def Guarded.dataType : Guarded Qos → Option TopicDataType
  | .registerFind _ dataType _ => some dataType
  | .registerType _ dataType _ => some dataType
  | .createTopic _ dataType _ _ => some dataType
  | .insertTopic _ dataType _ _ => some dataType
  | _ => none

/-- The data type object a thread still works on. -/
def Point.dataType : Point Qos → Option TopicDataType
  | .guarded statement => statement.dataType
  | .registerUnlock dataType _ _ => some dataType
  | .leaveScope dataType _ _ => some dataType
  | _ => none

/-- The data type object a thread is about to destroy. -/
def Point.dropped : Point Qos → List TopicDataType
  | .leaveScope dataType false _ => [dataType]
  | _ => []

/-- The answers of a thread, the one `registerTopic` is about to give included. -/
def Position.returned : Position Qos → List Answer
  | ⟨.leaveScope _ _ value, answers⟩ => answers ++ [.flag value]
  | ⟨_, answers⟩ => answers

/-- The process with another list of deleted data type objects. -/
def World.withDestroyed (world : World σ) (destroyed : List TopicDataType) : World σ :=
  { world with toHost := { world.toHost with destroyed } }

/-- The list is the one given. -/
@[simp] theorem World.withDestroyed_destroyed (world : World σ) (destroyed : List TopicDataType) :
    (world.withDestroyed destroyed).destroyed = destroyed := rfl

/-- The participant object is the same. -/
@[simp] theorem World.withDestroyed_self (world : World σ) (destroyed : List TopicDataType) :
    (world.withDestroyed destroyed).self = world.self := rfl

/-- So is the middleware. -/
@[simp] theorem World.withDestroyed_middleware (world : World σ)
    (destroyed : List TopicDataType) :
    (world.withDestroyed destroyed).middleware = world.middleware := rfl

/-- So is what `m_participant` points to. -/
@[simp] theorem World.withDestroyed_live (world : World σ) (destroyed : List TopicDataType) :
    (world.withDestroyed destroyed).derefParticipant api = world.derefParticipant api := rfl

/-- The end of a scope appends to the list what it destroys. -/
theorem World.withDestroyed_leaveScope (world : World σ) (destroyed : List TopicDataType)
    (dataType : TopicDataType) (kept value : Bool) :
    { world.withDestroyed destroyed with
      toHost := (world.withDestroyed destroyed).leaveScope dataType kept } =
      world.withDestroyed
        (destroyed ++ (Point.leaveScope dataType kept value : Point Qos).dropped) := by
  cases kept with
  | false => rfl
  | true => simp [World.withDestroyed, Point.dropped, Host.leaveScope]

/-- Apart from the list, the end of a scope changes nothing. -/
theorem World.leaveScope_withDestroyed (world : World σ) (destroyed : List TopicDataType)
    (dataType : TopicDataType) (kept : Bool) :
    World.withDestroyed { world with toHost := world.leaveScope dataType kept } destroyed =
      world.withDestroyed destroyed := by
  cases kept <;> rfl

/-- The end of a scope destroys what was about to be destroyed. -/
theorem World.leaveScope_destroyed (world : World σ) (dataType : TopicDataType)
    (kept value : Bool) : (world.leaveScope dataType kept).destroyed =
      world.destroyed ++ (Point.leaveScope dataType kept value : Point Qos).dropped := by
  cases kept with
  | false => rfl
  | true => simp [Point.dropped]

/-- A statement destroys no data type object. -/
theorem GuardedOutcome.destroyed {world after : World σ} {statement : Guarded Qos}
    {point : Point Qos} (outcome : GuardedOutcome api world statement point after) :
    after.destroyed = world.destroyed := by
  cases outcome <;> rfl

/-- A statement goes on with the data type object it worked on. -/
theorem GuardedOutcome.dataType {world after : World σ} {statement : Guarded Qos}
    {point : Point Qos} (outcome : GuardedOutcome api world statement point after)
    {dataType : TopicDataType} (works : point.dataType = some dataType) :
    statement.dataType = some dataType := by
  cases outcome <;> exact works

/-- Under the lock nothing is about to be destroyed. -/
theorem Point.dropped_inside {point : Point Qos} (inside : point.Inside) : point.dropped = [] := by
  cases point with
  | leaveScope dataType kept value => cases inside
  | _ => rfl

/-- Under the lock no answer is about to be given. -/
theorem Position.returned_inside {point : Point Qos} (inside : point.Inside)
    (answers : List Answer) : Position.returned ⟨point, answers⟩ = answers := by
  cases point with
  | leaveScope dataType kept value => cases inside
  | _ => rfl

/-- What is about to be destroyed is what the thread works on. -/
theorem Point.dropped_works {point : Point Qos} {dataType : TopicDataType}
    (member : dataType ∈ point.dropped) : point.dataType = some dataType := by
  cases point with
  | leaveScope other kept value =>
    cases kept with
    | false => rw [List.mem_singleton.mp member, Point.dataType]
    | true => cases member
  | _ => cases member

/-- A statement on an undestroyed data type object does not look at the deleted ones. -/
theorem Guarded.effect_withDestroyed {world : World σ} {statement : Guarded Qos}
    {destroyed : List TopicDataType}
    (intact : ∀ dataType, statement.dataType = some dataType → dataType ∉ world.destroyed)
    (fit : ∀ dataType, statement.dataType = some dataType → dataType ∉ destroyed) :
    statement.effect api (world.withDestroyed destroyed) =
      (statement.effect api world).map fun result =>
        (result.1, result.2.withDestroyed destroyed) := by
  cases statement with
  | registerFind topicName dataType topicQos =>
    by_cases known : topicName ∈ world.self.mapTopics <;>
      simp only [Guarded.effect, World.withDestroyed_self, known, ↓reduceIte] <;> rfl
  | registerType topicName dataType topicQos =>
    simp only [Guarded.effect, World.withDestroyed_destroyed, intact dataType rfl, fit dataType rfl,
      ↓reduceIte, World.withDestroyed_live, World.withDestroyed_middleware]
    cases world.derefParticipant api with
    | error fault => rfl
    | ok participant =>
      rcases answered : api.registerType world.middleware participant dataType with
        ⟨⟨_ | errcode, kept⟩, middleware⟩ <;> simp only [bind, Except.bind, answered] <;> rfl
  | createTopic topicName dataType topicQos kept =>
    simp only [Guarded.effect, World.withDestroyed_destroyed, intact dataType rfl, fit dataType rfl,
      ↓reduceIte, World.withDestroyed_live, World.withDestroyed_middleware]
    cases world.derefParticipant api with
    | error fault => rfl
    | ok participant =>
      rcases answered : api.createTopic world.middleware participant topicName dataType.name
        topicQos with ⟨_ | topic, middleware⟩ <;> simp only [bind, Except.bind, answered] <;> rfl
  | insertTopic topicName dataType kept topic =>
    by_cases known : topicName ∈ world.self.mapTopics <;>
      simp only [Guarded.effect, World.withDestroyed_self, known, ↓reduceIte] <;> rfl
  | unregisterFind topicName =>
    simp only [Guarded.effect, World.withDestroyed_self]
    rcases world.self.mapTopics.lookup topicName with _ | _ | topic <;> rfl
  | deleteTopic topicName topic =>
    simp only [Guarded.effect, World.withDestroyed_live, World.withDestroyed_middleware]
    cases world.derefParticipant api with
    | error fault => rfl
    | ok participant =>
      cases (Pointer.address topic).deref (api.holdings world.middleware).topics with
      | error fault => rfl
      | ok target =>
        rcases answered : api.deleteTopic world.middleware participant target with
          ⟨_ | errcode, middleware⟩ <;> simp only [bind, Except.bind, answered] <;> rfl
  | eraseTopic topicName => rfl
  | createFind kind topicName qos =>
    simp only [Guarded.effect, World.withDestroyed_self]
    cases world.self.mapTopics.lookup topicName <;> rfl
  | construct kind topicName qos topic =>
    have same : (world.withDestroyed destroyed).nextObject = world.nextObject := rfl
    simp only [Guarded.effect, World.withDestroyed_self, World.withDestroyed_middleware, same]
    cases constructEndpoint api (api.createDataEndpoint kind) kind world.middleware
      (world.self.group kind) topic qos topicName world.nextObject <;> rfl

/-! ## Whole calls one after another -/

variable {ι : Type}

/-- Threads that make whole calls. -/
structure Sequential (ι σ : Type) where
  /-- The process. -/
  world : World σ
  /-- What the calls of each thread returned. -/
  answers : ι → List Answer

/-- Nobody has called anything yet. -/
def Sequential.start (ι : Type) (world : World σ) : Sequential ι σ := ⟨world, fun _ => []⟩

/-- Every registration is given a data type object of its own that nobody has deleted yet. -/
structure HandsOver (clients : ι → Client Qos Message) (owner : TopicDataType → ι × Nat)
    (destroyed : List TopicDataType) : Prop where
  /-- The object belongs to this call of this thread. -/
  own : ∀ thread answers topicName dataType topicQos,
    clients thread answers = some (.registerTopic topicName (some dataType) topicQos) →
      owner dataType = (thread, answers.length)
  /-- It is not deleted at the start. -/
  intact : ∀ thread answers topicName dataType topicQos,
    clients thread answers = some (.registerTopic topicName (some dataType) topicQos) →
      dataType ∉ destroyed

/-- The call hands over the data type object. -/
def Call.Brings (dataType : TopicDataType) : Call Qos Message → Prop
  | .registerTopic _ given _ => given = some dataType
  | _ => False

/-- A call enters the lock with the data type object it hands over. -/
theorem Call.guarded_brings {call : Call Qos Message} {statement : Guarded Qos}
    (takes : call.guarded = some statement) {dataType : TopicDataType}
    (works : statement.dataType = some dataType) : call.Brings dataType := by
  cases call with
  | registerTopic topicName given topicQos =>
    cases given with
    | none => cases takes
    | some given =>
      obtain rfl := Option.some.inj takes
      exact works
  | unregisterTopic topicName =>
    obtain rfl := Option.some.inj takes
    cases works
  | createDataWriter topicName dataWriterQos =>
    obtain rfl := Option.some.inj takes
    cases works
  | createDataReader topicName dataReaderQos =>
    obtain rfl := Option.some.inj takes
    cases works
  | writeMessage object message => cases takes
  | destroyEndpoint kind object => cases takes

variable {clients : ι → Client Qos Message} {owner : TopicDataType → ι × Nat}
variable {spent : List TopicDataType}

/-- A handed over object belongs to its call and is intact. -/
theorem HandsOver.brought (handed : HandsOver clients owner spent) {thread : ι}
    {answers : List Answer} {call : Call Qos Message} {dataType : TopicDataType}
    (calls : clients thread answers = some call) (brings : call.Brings dataType) :
    owner dataType = (thread, answers.length) ∧ dataType ∉ spent := by
  cases call with
  | registerTopic topicName given topicQos =>
    subst brings
    exact ⟨handed.own thread answers topicName dataType topicQos calls,
      handed.intact thread answers topicName dataType topicQos calls⟩
  | _ => cases brings

/-- Where interleaved threads stand against the threads whose calls took effect as a whole. -/
structure Linear (api : Middleware σ Qos Message) (clients : ι → Client Qos Message)
    (owner : TopicDataType → ι × Nat) (spent : List TopicDataType)
    (threads : Threads ι (Position Qos) (World σ)) (sequential : Sequential ι σ) : Prop where
  /-- The holder of the lock is the thread inside. -/
  held : Held Position.Inside threads
  /-- The answers agree. -/
  answers : ∀ thread, sequential.answers thread = (threads.position thread).returned
  /-- A thread works on the data type object its call handed over. -/
  works : ∀ thread dataType, (threads.position thread).point.dataType = some dataType →
    ∃ call, clients thread (threads.position thread).answers = some call ∧ call.Brings dataType
  /-- An object is deleted after the call that handed it over. -/
  destroyed : ∀ dataType ∈ threads.shared.destroyed, dataType ∈ spent ∨
    (owner dataType).2 < (threads.position (owner dataType).1).answers.length
  /-- The whole calls have deleted what is deleted or about to be. -/
  counted : ∀ dataType, sequential.world.destroyed.count dataType =
    threads.shared.destroyed.count dataType +
      (threads.position (owner dataType).1).point.dropped.count dataType
  /-- With the lock free the processes agree but for that. -/
  free : threads.holder = none →
    sequential.world = threads.shared.withDestroyed sequential.world.destroyed
  /-- What the holder's call comes to from here, it comes to from its beginning after the calls that
  took effect. -/
  locked : ∀ holder, threads.holder = some holder → ∃ call statement,
    clients holder (threads.position holder).answers = some call ∧
      call.guarded = some statement ∧
      ∀ result, Section ((clients holder).code api) (threads.position holder)
        (threads.shared.withDestroyed sequential.world.destroyed) result →
          Section ((clients holder).code api)
            ⟨.guarded statement, (threads.position holder).answers⟩ sequential.world result

/-- Nothing is between the threads at the start. -/
theorem linear_start (world : World σ) :
    Linear api clients owner world.destroyed (idleThreads ι Qos world)
      (Sequential.start ι world) where
  held := idleThreads_held world
  answers := fun _ => rfl
  works := fun _ _ works => by cases works
  destroyed := fun _ member => .inl member
  counted := fun _ => rfl
  free := fun _ => rfl
  locked := fun _ holds => by cases holds

variable {threads : Threads ι (Position Qos) (World σ)} {sequential : Sequential ι σ}

/-- The object a call hands over is not deleted before the call returns. -/
theorem Linear.intact (linear : Linear api clients owner spent threads sequential)
    (handed : HandsOver clients owner spent) {thread : ι} {call : Call Qos Message}
    {dataType : TopicDataType}
    (calls : clients thread (threads.position thread).answers = some call)
    (brings : call.Brings dataType) : dataType ∉ threads.shared.destroyed := by
  obtain ⟨own, fit⟩ := handed.brought calls brings
  intro gone
  rcases linear.destroyed dataType gone with early | late
  · exact fit early
  · rw [own] at late
    exact late.ne rfl

/-- Nor do the whole calls delete it before the lock is released. -/
theorem Linear.fit (linear : Linear api clients owner spent threads sequential)
    (handed : HandsOver clients owner spent) {thread : ι} {call : Call Qos Message}
    {dataType : TopicDataType} (inside : (threads.position thread).Inside)
    (calls : clients thread (threads.position thread).answers = some call)
    (brings : call.Brings dataType) : dataType ∉ sequential.world.destroyed := by
  have counted := linear.counted dataType
  rw [(handed.brought calls brings).1, Point.dropped_inside inside, List.count_nil, Nat.add_zero,
    List.count_eq_zero_of_not_mem (linear.intact handed calls brings)] at counted
  exact List.count_eq_zero.mp counted

/-- The object a thread works on is its own. -/
theorem Linear.own (linear : Linear api clients owner spent threads sequential)
    (handed : HandsOver clients owner spent) {thread : ι} {dataType : TopicDataType}
    (works : (threads.position thread).point.dataType = some dataType) :
    owner dataType = (thread, (threads.position thread).answers.length) := by
  obtain ⟨call, calls, brings⟩ := linear.works thread dataType works
  exact (handed.brought calls brings).1

/-- A statement under the lock does after the whole calls what it does. -/
theorem Linear.effect (linear : Linear api clients owner spent threads sequential)
    (handed : HandsOver clients owner spent) {thread : ι} {statement : Guarded Qos}
    {answers : List Answer} (here : threads.position thread = ⟨.guarded statement, answers⟩) :
    statement.effect api (threads.shared.withDestroyed sequential.world.destroyed) =
      (statement.effect api threads.shared).map fun result =>
        (result.1, result.2.withDestroyed sequential.world.destroyed) := by
  have inside : (threads.position thread).Inside := by
    rw [here]
    trivial
  have brought : ∀ dataType, statement.dataType = some dataType → ∃ call : Call Qos Message,
      clients thread (threads.position thread).answers = some call ∧ call.Brings dataType := by
    intro dataType works
    refine linear.works thread dataType ?_
    rw [here]
    exact works
  apply Guarded.effect_withDestroyed
  · intro dataType works
    obtain ⟨_, calls, brings⟩ := brought dataType works
    exact linear.intact handed calls brings
  · intro dataType works
    obtain ⟨_, calls, brings⟩ := brought dataType works
    exact linear.fit handed inside calls brings

/-- What a thread is about to destroy is its own. -/
theorem Linear.dropped (linear : Linear api clients owner spent threads sequential)
    (handed : HandsOver clients owner spent) {thread : ι} {point : Point Qos}
    {dataType : TopicDataType} (works : ∀ other, point.dataType = some other →
      (threads.position thread).point.dataType = some other)
    (apart : (owner dataType).1 ≠ thread) : point.dropped.count dataType = 0 := by
  apply List.count_eq_zero_of_not_mem
  intro member
  have own := linear.own handed (works dataType (Point.dropped_works member))
  exact apart (congrArg Prod.fst own)

/-- What the whole call of the holder comes to once its statements are executed. -/
theorem linear_concluded (contract : Contract api) (handed : HandsOver clients owner spent)
    (linear : Linear api clients owner spent threads sequential) {thread : ι}
    (inside : (threads.position thread).Inside)
    {result : Except Fault (Position Qos × World σ)}
    (comes : Section ((clients thread).code api) (threads.position thread)
      (threads.shared.withDestroyed sequential.world.destroyed) result) :
    ∃ call, clients thread (threads.position thread).answers = some call ∧
      ¬ Misused sequential.world call ∧
        Concluded api sequential.world call (threads.position thread).answers result := by
  obtain ⟨call, statement, calls, takes, continues⟩ :=
    linear.locked thread ((linear.held thread).mp inside)
  have fit : ¬ Misused sequential.world call := by
    intro misused
    cases call with
    | registerTopic topicName dataType topicQos =>
      cases dataType with
      | none => exact misused
      | some dataType => exact linear.fit handed inside calls rfl misused
    | _ => exact misused
  exact ⟨call, calls, fit, section_call contract takes fit (continues result comes)⟩

/-- What interleaved threads have in common with threads that made whole calls. -/
structure Accords (threads : Threads ι (Position Qos) (World σ)) (sequential : Sequential ι σ) :
    Prop where
  /-- A thread in no call has got the same answers. -/
  answers : ∀ thread, (threads.position thread).point = .idle →
    sequential.answers thread = (threads.position thread).answers
  /-- With the lock free, object, middleware and endpoint objects are the same. -/
  free : threads.holder = none →
    sequential.world = threads.shared.withDestroyed sequential.world.destroyed
  /-- With no thread in a call the same data type objects are deleted. -/
  quiet : (∀ thread, (threads.position thread).point = .idle) →
    threads.holder = none ∧ sequential.world.destroyed.Perm threads.shared.destroyed

/-- Threads that stand against each other have that in common. -/
theorem Linear.accords (linear : Linear api clients owner spent threads sequential) :
    Accords threads sequential where
  answers := by
    intro thread idle
    have place : threads.position thread = ⟨.idle, (threads.position thread).answers⟩ := by
      rw [← idle]
    rw [linear.answers thread, place]
    rfl
  free := linear.free
  quiet := by
    intro idle
    constructor
    · cases holds : threads.holder with
      | none => rfl
      | some holder =>
        have inside := (linear.held holder).mpr holds
        rw [Position.Inside, idle holder] at inside
        exact absurd inside id
    · rw [List.perm_iff_count]
      intro dataType
      rw [linear.counted dataType, idle]
      rfl

/-! ## One statement against whole calls -/

variable [DecidableEq ι]

/-- A thread makes its next call, if it makes one. -/
def sequentialStep (api : Middleware σ Qos Message) (clients : ι → Client Qos Message) :
    Machine.Step (Sequential ι σ) ι Unit Fault := fun before thread =>
  match clients thread (before.answers thread) with
  | none => .ok ((), before)
  | some call => (World.step api before.world call).map fun result =>
    ((), ⟨result.2, Function.update before.answers thread
      (before.answers thread ++ [result.1])⟩)

/-- The statement at which a call takes effect: the release of the lock, or the whole call where it
takes none. -/
def Client.commits (client : Client Qos Message) : Position Qos → Bool
  | ⟨.idle, answers⟩ =>
    match client answers with
    | none => false
    | some call => call.guarded.isNone
  | ⟨.registerUnlock _ _ _, _⟩ => true
  | ⟨.unlock _, _⟩ => true
  | _ => false

/-- The threads in the order in which their calls take effect. -/
def commitOrder (api : Middleware σ Qos Message) (clients : ι → Client Qos Message) :
    Threads ι (Position Qos) (World σ) → List ι → List ι
  | _, [] => []
  | threads, thread :: schedule =>
    (if (clients thread).commits (threads.position thread) then [thread] else []) ++
      match statementStep api clients threads thread with
      | .error _ => []
      | .ok (_, next) => commitOrder api clients next schedule

/-- A thread that has returned from as many calls has not returned from fewer. -/
theorem destroyed_move {next : Position Qos} {thread : ι}
    (longer : (threads.position thread).answers.length ≤ next.answers.length)
    {dataType : TopicDataType}
    (gone : (owner dataType).2 < (threads.position (owner dataType).1).answers.length) :
    (owner dataType).2 <
      ((threads.move thread next).position (owner dataType).1).answers.length := by
  rw [Threads.move_position]
  split
  · rename_i same
    rw [same] at gone
    exact gone.trans_le longer
  · exact gone

/-- A call that releases the lock takes effect. -/
theorem linear_release (linear : Linear api clients owner spent threads sequential)
    (handed : HandsOver clients owner spent) {thread : ι} {next : Position Qos} {answer : Answer}
    (inside : (threads.position thread).Inside)
    (still : Held Position.Inside { threads.move thread next with holder := none })
    (gives : next.returned = (threads.position thread).returned ++ [answer])
    (longer : (threads.position thread).answers.length ≤ next.answers.length)
    (works : ∀ dataType, next.point.dataType = some dataType →
      (threads.position thread).point.dataType = some dataType ∧
        next.answers = (threads.position thread).answers) :
    Linear api clients owner spent { threads.move thread next with holder := none }
      ⟨threads.shared.withDestroyed (sequential.world.destroyed ++ next.point.dropped),
        Function.update sequential.answers thread (sequential.answers thread ++ [answer])⟩ where
  held := still
  answers := by
    intro other
    simp only [Function.update_apply, Threads.move_position, linear.answers thread, ← gives]
    split
    · rfl
    · exact linear.answers other
  works := by
    intro other dataType
    rw [Threads.move_position]
    split
    · rename_i same
      intro worked
      obtain ⟨before, kept⟩ := works dataType worked
      rw [same, kept]
      exact linear.works thread dataType before
    · exact linear.works other dataType
  destroyed := by
    intro dataType gone
    exact (linear.destroyed dataType gone).imp_right (destroyed_move longer)
  counted := by
    intro dataType
    have counted := linear.counted dataType
    rw [World.withDestroyed_destroyed, List.count_append, Threads.move_position]
    split
    · rename_i same
      rw [same, Point.dropped_inside inside, List.count_nil] at counted
      rw [counted, Nat.add_zero]
      rfl
    · rename_i apart
      rw [counted, linear.dropped handed (fun other worked => (works other worked).1) apart]
      rfl
  free := fun _ => rfl
  locked := fun holder holds => by cases holds

/-- A call that takes the lock stands at its beginning. -/
theorem linear_enter (linear : Linear api clients owner spent threads sequential) {thread : ι}
    {answers : List Answer} {call : Call Qos Message} {statement : Guarded Qos}
    (here : threads.position thread = ⟨.idle, answers⟩) (calls : clients thread answers = some call)
    (takes : call.guarded = some statement) (free : threads.holder = none)
    (still : Held Position.Inside
      { threads.move thread ⟨.guarded statement, answers⟩ with holder := some thread }) :
    Linear api clients owner spent
      { threads.move thread ⟨.guarded statement, answers⟩ with holder := some thread }
      sequential where
  held := still
  answers := by
    intro other
    rw [linear.answers other, Threads.move_position]
    split
    · rename_i same
      rw [same, here]
      rfl
    · rfl
  works := by
    intro other dataType
    rw [Threads.move_position]
    split
    · rename_i same
      rw [same]
      exact fun worked => ⟨call, calls, Call.guarded_brings takes worked⟩
    · exact linear.works other dataType
  destroyed := by
    intro dataType gone
    refine (linear.destroyed dataType gone).imp_right (destroyed_move ?_)
    rw [here]
  counted := by
    intro dataType
    rw [linear.counted dataType, Threads.move_position]
    split
    · rename_i same
      rw [same, here]
      rfl
    · rfl
  free := fun freed => by cases freed
  locked := by
    intro holder holds
    obtain rfl := Option.some.inj holds
    simp only [Threads.move_own, Threads.move_shared]
    refine ⟨call, statement, calls, takes, fun result comes => ?_⟩
    rw [linear.free free]
    exact comes

/-- A statement under the lock leaves less of its call. -/
theorem linear_guarded (linear : Linear api clients owner spent threads sequential)
    (handed : HandsOver clients owner spent) {thread : ι} {statement : Guarded Qos}
    {answers : List Answer} {point : Point Qos} {shared : World σ}
    (here : threads.position thread = ⟨.guarded statement, answers⟩)
    (went : statement.effect api threads.shared = .ok (point, shared))
    (still : Held Position.Inside { threads.move thread ⟨point, answers⟩ with shared }) :
    Linear api clients owner spent { threads.move thread ⟨point, answers⟩ with shared }
      sequential where
  held := still
  answers := by
    intro other
    rw [linear.answers other, Threads.move_position]
    split
    · rename_i same
      rw [same, here, Position.returned_inside (Guarded.effect_cases went).inside]
      rfl
    · rfl
  works := by
    intro other dataType
    rw [Threads.move_position]
    split
    · rename_i same
      intro worked
      have before := linear.works thread dataType
      rw [here] at before
      rw [same]
      exact before ((Guarded.effect_cases went).dataType worked)
    · exact linear.works other dataType
  destroyed := by
    intro dataType gone
    rw [(Guarded.effect_cases went).destroyed] at gone
    refine (linear.destroyed dataType gone).imp_right (destroyed_move ?_)
    rw [here]
  counted := by
    intro dataType
    rw [linear.counted dataType, Threads.move_position, (Guarded.effect_cases went).destroyed]
    split
    · rename_i same
      rw [same, here, Point.dropped_inside (Guarded.effect_cases went).inside]
      rfl
    · rfl
  free := by
    intro free
    have inside : (threads.position thread).Inside := by
      rw [here]
      trivial
    exact absurd inside (linear.held.outside free thread)
  locked := by
    intro holder holds
    have inside : (threads.position thread).Inside := by
      rw [here]
      trivial
    obtain rfl := Option.some.inj (((linear.held thread).mp inside).symm.trans holds)
    obtain ⟨call, first, calls, takes, continues⟩ := linear.locked thread holds
    simp only [here] at calls continues
    simp only [Threads.move_own]
    refine ⟨call, first, calls, takes, fun result comes => continues result ?_⟩
    refine .act rfl ?_ comes
    simp only [linear.effect handed here, went, Except.map]

/-- The end of a scope destroys what the whole call has destroyed. -/
theorem linear_scopeLeft (linear : Linear api clients owner spent threads sequential)
    (handed : HandsOver clients owner spent) {thread : ι} {dataType : TopicDataType}
    {kept value : Bool} {answers : List Answer}
    (here : threads.position thread = ⟨.leaveScope dataType kept value, answers⟩)
    (still : Held Position.Inside { threads.move thread ⟨.idle, answers ++ [.flag value]⟩ with
      shared := { threads.shared with toHost := threads.shared.leaveScope dataType kept } }) :
    Linear api clients owner spent { threads.move thread ⟨.idle, answers ++ [.flag value]⟩ with
      shared := { threads.shared with toHost := threads.shared.leaveScope dataType kept } }
      sequential := by
  have works : ∀ other, (Point.leaveScope dataType kept value : Point Qos).dataType = some other →
      (threads.position thread).point.dataType = some other := by
    rw [here]
    exact fun other worked => worked
  refine ⟨still, ?_, ?_, ?_, ?_, ?_, ?_⟩
  · intro other
    rw [linear.answers other, Threads.move_position]
    split
    · rename_i same
      rw [same, here]
      rfl
    · rfl
  · intro other worked
    rw [Threads.move_position]
    split
    · exact fun none => by cases none
    · exact linear.works other worked
  · intro other gone
    rw [World.leaveScope_destroyed _ _ _ value, List.mem_append] at gone
    rcases gone with old | new
    · refine (linear.destroyed other old).imp_right (destroyed_move ?_)
      simp [here]
    · have own := linear.own handed (works other (Point.dropped_works new))
      right
      rw [own, Threads.move_own, here]
      simp
  · intro other
    rw [linear.counted other, World.leaveScope_destroyed _ _ _ value, List.count_append,
      Threads.move_position]
    split
    · rename_i same
      rw [same, here]
      rfl
    · rename_i apart
      rw [linear.dropped handed works apart, Nat.add_zero]
  · intro free
    rw [World.leaveScope_withDestroyed]
    exact linear.free free
  · intro holder holds
    have apart : holder ≠ thread := by
      rintro rfl
      have inside := (linear.held holder).mpr holds
      rw [here] at inside
      exact inside
    simp only [Threads.move_other threads apart, World.leaveScope_withDestroyed]
    exact linear.locked holder holds

/-- Of the locked methods only a registration without a data type object takes no lock. -/
theorem Call.Locked.lockless {call : Call Qos Message} (locked : call.Locked)
    (lockless : call.guarded = none) :
    ∃ topicName topicQos, call = .registerTopic topicName none topicQos := by
  cases call with
  | registerTopic topicName dataType topicQos =>
    cases dataType with
    | none => exact ⟨topicName, topicQos, rfl⟩
    | some dataType => cases lockless
  | unregisterTopic topicName => cases lockless
  | createDataWriter topicName dataWriterQos => cases lockless
  | createDataReader topicName dataReaderQos => cases lockless
  | writeMessage object message => cases locked
  | destroyEndpoint kind object => cases locked

/-- A call that returns at once takes effect at once and changes nothing. -/
theorem linear_called (linear : Linear api clients owner spent threads sequential) {thread : ι}
    {answers : List Answer} {answer : Answer}
    (here : threads.position thread = ⟨.idle, answers⟩)
    (still : Held Position.Inside (threads.move thread ⟨.idle, answers ++ [answer]⟩)) :
    Linear api clients owner spent (threads.move thread ⟨.idle, answers ++ [answer]⟩)
      ⟨sequential.world,
        Function.update sequential.answers thread (sequential.answers thread ++ [answer])⟩ where
  held := still
  answers := by
    intro other
    simp only [Function.update_apply, Threads.move_position, linear.answers thread, here]
    split
    · rfl
    · exact linear.answers other
  works := by
    intro other dataType
    rw [Threads.move_position]
    split
    · exact fun none => by cases none
    · exact linear.works other dataType
  destroyed := by
    intro dataType gone
    refine (linear.destroyed dataType gone).imp_right (destroyed_move ?_)
    simp [here]
  counted := by
    intro dataType
    rw [linear.counted dataType, Threads.move_position]
    split
    · rename_i same
      rw [same, here]
      rfl
    · rfl
  free := linear.free
  locked := by
    intro holder holds
    have apart : holder ≠ thread := by
      rintro rfl
      have inside := (linear.held holder).mpr holds
      rw [here] at inside
      exact inside
    simp only [Threads.move_other threads apart]
    exact linear.locked holder holds

/-- A thread that makes a whole call. -/
theorem sequential_call {thread : ι} {call : Call Qos Message} {answer : Answer} {world : World σ}
    (calls : clients thread (sequential.answers thread) = some call)
    (stepped : World.step api sequential.world call = .ok (answer, world)) :
    run (sequentialStep api clients) sequential [thread] = .ok ⟨world,
      Function.update sequential.answers thread (sequential.answers thread ++ [answer])⟩ := by
  have made : sequentialStep api clients sequential thread = .ok ((), ⟨world,
      Function.update sequential.answers thread (sequential.answers thread ++ [answer])⟩) := by
    simp only [sequentialStep, calls, stepped, Except.map]
  exact Machine.run_cons [] made

/-- The call of the holder that releases the lock is made as a whole. -/
theorem linear_released (contract : Contract api) (handed : HandsOver clients owner spent)
    (linear : Linear api clients owner spent threads sequential) {thread : ι} {next : Position Qos}
    {answer : Answer} (inside : (threads.position thread).Inside)
    (releases : (clients thread).code api (threads.position thread) = .release next)
    (gives : next.returned = (threads.position thread).returned ++ [answer]) :
    run (sequentialStep api clients) sequential [thread] =
      .ok ⟨threads.shared.withDestroyed (sequential.world.destroyed ++ next.point.dropped),
        Function.update sequential.answers thread (sequential.answers thread ++ [answer])⟩ := by
  obtain ⟨call, calls, _, concluded⟩ := linear_concluded contract handed linear inside
    (Section.release _ releases)
  have same : (threads.position thread).returned = (threads.position thread).answers :=
    Position.returned_inside inside _
  have nextCall : clients thread (sequential.answers thread) = some call := by
    rw [linear.answers thread, same]
    exact calls
  rw [same] at gives
  refine sequential_call nextCall ?_
  cases concluded with
  | returned given after stepped =>
    obtain rfl := List.singleton_injective (List.append_cancel_left gives)
    rw [stepped]
    simp [Point.dropped]
  | leaving dataType kept value after stepped =>
    obtain rfl := List.singleton_injective (List.append_cancel_left gives)
    rw [stepped, World.withDestroyed_leaveScope]

/-- One statement: the whole calls that take effect with it are made, and the two keep standing
against each other. -/
theorem linear_step (contract : Contract api)
    (locked : ∀ thread answers call, clients thread answers = some call → call.Locked)
    (handed : HandsOver clients owner spent)
    (linear : Linear api clients owner spent threads sequential) {thread : ι} {moved : Bool}
    {after : Threads ι (Position Qos) (World σ)}
    (stepped : statementStep api clients threads thread = .ok (moved, after)) :
    ∃ next, run (sequentialStep api clients) sequential
        (if (clients thread).commits (threads.position thread) then [thread] else []) = .ok next ∧
      Linear api clients owner spent after next := by
  have still := Monitor.held_preserved (code_bracketed api clients) threads thread moved after
    linear.held stepped
  cases statement_cases stepped with
  | finished answers here done =>
    refine ⟨sequential, ?_, linear⟩
    simp only [here, Client.commits, done]
    rfl
  | waits answers call statement here calls takes =>
    refine ⟨sequential, ?_, linear⟩
    simp only [here, Client.commits, calls, takes]
    rfl
  | called answers call answer shared here calls lockless returned =>
    obtain ⟨topicName, topicQos, rfl⟩ := (locked thread answers call calls).lockless lockless
    obtain ⟨rfl, rfl⟩ := Prod.mk.inj (Except.ok.inj returned)
    have nextCall : clients thread (sequential.answers thread) =
        some (.registerTopic topicName none topicQos) := by
      rw [linear.answers thread, here]
      exact calls
    refine ⟨_, ?_, linear_called linear here still⟩
    simp only [here, Client.commits, calls]
    exact sequential_call nextCall rfl
  | entered answers call statement here calls takes free =>
    refine ⟨sequential, ?_, linear_enter linear here calls takes free still⟩
    simp only [here, Client.commits, calls, takes]
    rfl
  | guarded statement answers point shared here went =>
    refine ⟨sequential, ?_, linear_guarded linear handed here went still⟩
    simp only [here, Client.commits]
    rfl
  | registerUnlocked dataType kept value answers here =>
    have inside : (threads.position thread).Inside := by
      rw [here]
      trivial
    have gives : (⟨.leaveScope dataType kept value, answers⟩ : Position Qos).returned =
        (threads.position thread).returned ++ [.flag value] := by
      rw [here]
      rfl
    refine ⟨_, ?_, linear_release linear handed inside still gives (by rw [here]) ?_⟩
    · simp only [here, Client.commits]
      exact linear_released contract handed linear inside (by rw [here]; rfl) gives
    · rw [here]
      exact fun other worked => ⟨worked, rfl⟩
  | unlocked answer answers here =>
    have inside : (threads.position thread).Inside := by
      rw [here]
      trivial
    have gives : (⟨.idle, answers ++ [answer]⟩ : Position Qos).returned =
        (threads.position thread).returned ++ [answer] := by
      rw [here]
      rfl
    refine ⟨_, ?_, linear_release linear handed inside still gives (by simp [here]) ?_⟩
    · simp only [here, Client.commits]
      exact linear_released contract handed linear inside (by rw [here]; rfl) gives
    · exact fun other worked => by cases worked
  | scopeLeft dataType kept value answers here once =>
    refine ⟨sequential, ?_, linear_scopeLeft linear handed here still⟩
    simp only [here, Client.commits]
    rfl

/-- A statement that faults is in a call that faults as a whole. -/
theorem linear_fault (contract : Contract api)
    (locked : ∀ thread answers call, clients thread answers = some call → call.Locked)
    (handed : HandsOver clients owner spent)
    (linear : Linear api clients owner spent threads sequential) {thread : ι} {fault : Fault}
    (faulted : statementStep api clients threads thread = .error fault) :
    (clients thread).commits (threads.position thread) = false ∧ ∃ call,
      clients thread (sequential.answers thread) = some call ∧ ¬ Misused sequential.world call ∧
        World.step api sequential.world call = .error fault := by
  rcases statement_faults faulted with ⟨answers, call, here, calls, lockless, stepped⟩ |
    ⟨statement, answers, here, went⟩ | ⟨dataType, value, answers, here, gone⟩
  · obtain ⟨topicName, topicQos, rfl⟩ := (locked thread answers call calls).lockless lockless
    cases stepped
  · have inside : (threads.position thread).Inside := by
      rw [here]
      trivial
    have comes : Section ((clients thread).code api) (threads.position thread)
        (threads.shared.withDestroyed sequential.world.destroyed) (.error fault) := by
      rw [here]
      refine .fault rfl ?_
      simp only [linear.effect handed here, went, Except.map]
    obtain ⟨call, calls, fit, concluded⟩ := linear_concluded contract handed linear inside comes
    refine ⟨by simp only [here, Client.commits], call, ?_, fit, ?_⟩
    · rw [linear.answers thread, here]
      rw [here] at calls
      exact calls
    · cases concluded with
      | faulted _ stepped => exact stepped
  · have works : (threads.position thread).point.dataType = some dataType := by
      rw [here]
      rfl
    obtain ⟨call, calls, brings⟩ := linear.works thread dataType works
    exact absurd gone (linear.intact handed calls brings)

/-- A schedule of statements against whole calls in the order in which they take effect. -/
theorem linear_run (contract : Contract api)
    (locked : ∀ thread answers call, clients thread answers = some call → call.Locked)
    (handed : HandsOver clients owner spent) (schedule : List ι)
    {threads : Threads ι (Position Qos) (World σ)} {sequential : Sequential ι σ}
    (linear : Linear api clients owner spent threads sequential) :
    (∀ final, run (statementStep api clients) threads schedule = .ok final →
      ∃ next, run (sequentialStep api clients) sequential
        (commitOrder api clients threads schedule) = .ok next ∧
          Linear api clients owner spent final next) ∧
    ∀ fault, run (statementStep api clients) threads schedule = .error fault →
      ∃ thread, run (sequentialStep api clients) sequential
        (commitOrder api clients threads schedule ++ [thread]) = .error fault := by
  induction schedule generalizing threads sequential with
  | nil =>
    constructor
    · intro final ran
      obtain rfl := Except.ok.inj ran
      exact ⟨sequential, rfl, linear⟩
    · intro fault ran
      cases ran
  | cons thread schedule ih =>
    cases stepped : statementStep api clients threads thread with
    | error fault =>
      obtain ⟨quiet, call, calls, _, faulted⟩ :=
        linear_fault contract locked handed linear stepped
      have made : sequentialStep api clients sequential thread = .error fault := by
        simp only [sequentialStep, calls, faulted, Except.map]
      constructor
      · intro final ran
        simp [run, stepped] at ran
      · intro other ran
        refine ⟨thread, ?_⟩
        simp only [run, stepped, Except.error.injEq] at ran
        simp [commitOrder, quiet, stepped, run, made, ran]
    | ok result =>
      obtain ⟨moved, after⟩ := result
      obtain ⟨next, made, related⟩ := linear_step contract locked handed linear stepped
      have order : commitOrder api clients threads (thread :: schedule) =
          (if (clients thread).commits (threads.position thread) then [thread] else []) ++
            commitOrder api clients after schedule := by
        simp only [commitOrder, stepped]
      obtain ⟨finishes, faults⟩ := ih related
      rw [order, Machine.run_cons _ stepped]
      constructor
      · intro final ran
        rw [Machine.run_append _ made]
        exact finishes final ran
      · intro fault ran
        obtain ⟨last, faulted⟩ := faults fault ran
        refine ⟨last, ?_⟩
        rw [List.append_assoc, Machine.run_append _ made]
        exact faulted

/-- However the statements of calls of the four locked methods interleave, answers and effects are
those of the whole calls one after another, in the order in which they release the lock; where a
statement faults, the next whole call does. -/
theorem calls_linearise (contract : Contract api)
    (locked : ∀ thread answers call, clients thread answers = some call → call.Locked)
    (start : World σ) (handed : HandsOver clients owner start.destroyed) (schedule : List ι) :
    (∀ threads, run (statementStep api clients) (idleThreads ι Qos start) schedule = .ok threads →
      ∃ sequential, run (sequentialStep api clients) (Sequential.start ι start)
        (commitOrder api clients (idleThreads ι Qos start) schedule) = .ok sequential ∧
          Accords threads sequential) ∧
    ∀ fault, run (statementStep api clients) (idleThreads ι Qos start) schedule = .error fault →
      ∃ thread, run (sequentialStep api clients) (Sequential.start ι start)
        (commitOrder api clients (idleThreads ι Qos start) schedule ++ [thread]) =
          .error fault := by
  obtain ⟨finishes, faults⟩ := linear_run contract locked handed schedule (linear_start start)
  refine ⟨fun threads ran => ?_, faults⟩
  obtain ⟨next, made, linear⟩ := finishes threads ran
  exact ⟨next, made, linear.accords⟩

/-- Two threads with locked calls only: one name registered by both, with a type each, removed by
the second and used by the first. -/
def lockedPair : Bool → Client Unit String
  | false => Client.script [.registerTopic "a" (some ⟨0, "T"⟩) (), .createDataReader "a" (),
      .registerTopic "b" (some ⟨2, "U"⟩) ()]
  | true => Client.script [.registerTopic "a" (some ⟨10, "V"⟩) (), .unregisterTopic "a",
      .createDataWriter "b" ()]

/-- They take no call without the lock. -/
theorem lockedPair_locked (thread : Bool) (answers : List Answer) (call : Call Unit String)
    (calls : lockedPair thread answers = some call) : call.Locked := by
  cases thread with
  | false =>
    have member := List.mem_of_getElem? calls
    simp only [List.mem_cons, List.not_mem_nil, or_false] at member
    rcases member with rfl | rfl | rfl <;> trivial
  | true =>
    have member := List.mem_of_getElem? calls
    simp only [List.mem_cons, List.not_mem_nil, or_false] at member
    rcases member with rfl | rfl | rfl <;> trivial

/-- Each makes three calls. -/
theorem lockedPair_stops (thread : Bool) : (lockedPair thread).Stops 3 := by
  intro answers reached
  cases thread <;> exact List.getElem?_eq_none reached

/-- Each registration has a data type object of its own, numbered by its thread and place. -/
theorem lockedPair_handed :
    HandsOver lockedPair (fun dataType => (decide (10 ≤ dataType.id), dataType.id % 10)) [] := by
  refine ⟨?_, fun _ _ _ _ _ _ => List.not_mem_nil⟩
  intro thread answers topicName dataType topicQos calls
  cases thread with
  | false =>
    rcases place : answers.length with _ | _ | _ | later <;>
      simp [lockedPair, Client.script, place] at calls
    · simp [← calls.2]
    · simp [← calls.2]
  | true =>
    rcases place : answers.length with _ | _ | _ | later <;>
      simp [lockedPair, Client.script, place] at calls
    simp [← calls.2]

/-- A schedule that switches threads in the middle of their calls. -/
def lockedTurns : List Bool :=
  [false, false, true, false, false, true, false, false, true, false, true, true, true, false,
    false, true, false, true, false, true, false, true, false, true, true, false, false, false,
    false, true, false, false, true, false, true, true, true]

/-- Its answers and effects are those of the whole calls in the order of their releases. -/
theorem calls_linearise_pair :
    ∃ threads sequential, run (statementStep (reference false) lockedPair)
        (idleThreads Bool Unit started) lockedTurns = .ok threads ∧
      run (sequentialStep (reference false) lockedPair) (Sequential.start Bool started)
        (commitOrder (reference false) lockedPair (idleThreads Bool Unit started) lockedTurns) =
          .ok sequential ∧ Accords threads sequential := by
  have done : (run (statementStep (reference false) lockedPair) (idleThreads Bool Unit started)
      lockedTurns).isOk = true := by decide
  obtain ⟨threads, ran⟩ := Machine.run_finishes done
  obtain ⟨sequential, made, same⟩ := (calls_linearise (reference_contract false) lockedPair_locked
    started lockedPair_handed lockedTurns).1 threads ran
  exact ⟨threads, sequential, ran, made, same⟩

end FastDdsWrapper
