import FastDdsWrapper.DataReaderListener
import FastDdsWrapper.HelloWorldPrograms

/-!
# From the writing program to the reading one

The two programs share nothing but the middleware: it carries what a data writer accepted to the
data reader, may lose messages on the way, and may drop samples from the reader's history. Whatever
it loses and however the turns of the writing loop, the arrivals and the notifications interleave,
the reading program reports messages that were sent, each at most once and by rising index. Where
nothing is lost and each sample gets a notification of its own, it reports all of them.
-/

namespace FastDdsWrapper

open Machine (run bind_ok mapError_ok)

variable {σ κ ρ Qos T : Type}

/-- What lies between a data writer and a data reader. -/
structure Transport (κ T : Type) where
  /-- Messages on their way, oldest first. -/
  underway : κ → List T
  /-- A message that `write` accepted enters. -/
  accept : κ → T → κ
  /-- At most one message comes out. -/
  deliver : κ → Option T × κ

/-- Messages may get lost, but none is made up, doubled or overtaken. -/
structure KeepsOrder (transport : Transport κ T) : Prop where
  /-- An accepted message goes behind the others. -/
  accept : ∀ state message, (transport.underway (transport.accept state message)).Sublist
    (transport.underway state ++ [message])
  /-- The message that comes out was ahead of those that stay. -/
  deliver : ∀ state, ((transport.deliver state).1.toList ++
    transport.underway (transport.deliver state).2).Sublist (transport.underway state)

/-- A history of any depth: an arriving sample goes behind the others, of which some may be
dropped. -/
def DropsOnly (reader : DataReader ρ T) : Prop :=
  ∀ state sample, (reader.untaken (reader.receive state sample)).Sublist
      (reader.untaken state ++ [sample]) ∧
    reader.taken (reader.receive state sample) = reader.taken state

/-- A history of the last few samples is one. -/
theorem historyReader_dropsOnly (depth : Option Nat) :
    DropsOnly (historyReader depth : DataReader (History T) T) :=
  fun _ _ => ⟨List.drop_sublist _ _, rfl⟩

/-! ## The two programs at work -/

/-- Both programs after the calls before their loops. -/
structure Session (σ κ ρ : Type) where
  /-- The loop of `run_dds_data_writer`. -/
  loop : WriterLoop σ
  /-- State of the transport. -/
  transport : κ
  /-- The reader object of `run_dds_data_reader`. -/
  reception : Reception ρ HelloWorldOne

/-- What happens next. -/
inductive SessionEvent
  /-- A turn of the writing loop. -/
  | turn
  /-- The transport delivers a message, if one is there. -/
  | deliver
  /-- The reader learns that the instance changed its state. -/
  | change
  /-- The reader's middleware calls `on_data_available`. -/
  | notify
deriving DecidableEq

namespace Session

/-- Before the first turn, with `processHelloWorldOne` as the callback. -/
def start (middleware : σ) (transport : κ) (state : ρ) : Session σ κ ρ :=
  ⟨⟨middleware, 0, []⟩, transport, .construct true state⟩

/-- Something happens at the reader. -/
def atReader (reader : DataReader ρ HelloWorldOne) (session : Session σ κ ρ)
    (event : ReaderEvent HelloWorldOne) : Except ProgramFault (Unit × Session σ κ ρ) := do
  let (_, reception) ← (Reception.step reader session.reception event).mapError .pointer
  .ok ((), { session with reception })

/-- One event. A turn writes its message and reports it as one event, so nothing is delivered
between the two. -/
def step (api : Middleware σ Qos HelloWorldOne) (dataWriter : Option Endpoint)
    (transport : Transport κ HelloWorldOne) (reader : DataReader ρ HelloWorldOne) :
    Machine.Step (Session σ κ ρ) SessionEvent Unit ProgramFault := fun session event =>
  match event with
  | .turn => do
    let (written, loop) ← WriterLoop.step api dataWriter session.loop ()
    .ok ((), { session with
      loop
      transport := written.elim session.transport (transport.accept session.transport) })
  | .deliver =>
    match transport.deliver session.transport with
    | (none, state) => .ok ((), { session with transport := state })
    | (some message, state) =>
      atReader reader { session with transport := state } (.arrive (.data message))
  | .change => atReader reader session (.arrive .noData)
  | .notify => atReader reader session .notify

end Session

/-! ## What an event does to the messages -/

variable {api : Middleware σ Qos HelloWorldOne} {dataWriter : Option Endpoint}
variable {transport : Transport κ HelloWorldOne} {reader : DataReader ρ HelloWorldOne}

/-- How an event ends. -/
inductive SessionOutcome (api : Middleware σ Qos HelloWorldOne) (dataWriter : Option Endpoint)
    (transport : Transport κ HelloWorldOne) (reader : DataReader ρ HelloWorldOne)
    (before : Session σ κ ρ) : SessionEvent → Session σ κ ρ → Prop
  /-- A turn whose message was refused. -/
  | kept (loop : WriterLoop σ)
      (turned : WriterLoop.step api dataWriter before.loop () = .ok (none, loop)) :
      SessionOutcome api dataWriter transport reader before .turn { before with loop }
  /-- A turn whose message entered the transport. -/
  | sent (message : HelloWorldOne) (loop : WriterLoop σ)
      (turned : WriterLoop.step api dataWriter before.loop () = .ok (some message, loop)) :
      SessionOutcome api dataWriter transport reader before .turn
        { before with loop, transport := transport.accept before.transport message }
  /-- The transport had nothing to deliver. -/
  | idle (state : κ) (delivered : transport.deliver before.transport = (none, state)) :
      SessionOutcome api dataWriter transport reader before .deliver
        { before with transport := state }
  /-- A message arrived. -/
  | arrived (message : HelloWorldOne) (state : κ)
      (delivered : transport.deliver before.transport = (some message, state)) :
      SessionOutcome api dataWriter transport reader before .deliver
        { before with
          transport := state
          reception.state := reader.receive before.reception.state (.data message) }
  /-- A sample without a message arrived. -/
  | changed : SessionOutcome api dataWriter transport reader before .change
      { before with reception.state := reader.receive before.reception.state .noData }
  /-- The listener was notified. -/
  | notified (reception : Reception ρ HelloWorldOne)
      (notified : Reception.step reader before.reception .notify = .ok ((), reception)) :
      SessionOutcome api dataWriter transport reader before .notify { before with reception }

/-- An event that returns ends in one of these ways. -/
theorem session_step {before after : Session σ κ ρ} {event : SessionEvent}
    (stepped : Session.step api dataWriter transport reader before event = .ok ((), after)) :
    SessionOutcome api dataWriter transport reader before event after := by
  cases event with
  | turn =>
    simp only [Session.step, bind_ok, Except.ok.injEq, Prod.mk.injEq, Prod.exists] at stepped
    obtain ⟨written, loop, turned, _, rfl⟩ := stepped
    cases written with
    | none => exact .kept loop turned
    | some message => exact .sent message loop turned
  | deliver =>
    rcases delivered : transport.deliver before.transport with ⟨_ | message, state⟩
    · simp only [Session.step, delivered, Except.ok.injEq, Prod.mk.injEq] at stepped
      obtain ⟨_, rfl⟩ := stepped
      exact .idle state delivered
    · simp only [Session.step, delivered, Session.atReader, bind_ok, mapError_ok, Except.ok.injEq,
        Prod.mk.injEq, Prod.exists] at stepped
      obtain ⟨_, reception, received, _, rfl⟩ := stepped
      obtain ⟨_, rfl⟩ := Prod.mk.inj (Except.ok.inj received)
      exact .arrived message state delivered
  | change =>
    simp only [Session.step, Session.atReader, bind_ok, mapError_ok, Except.ok.injEq,
      Prod.mk.injEq, Prod.exists] at stepped
    obtain ⟨_, reception, received, _, rfl⟩ := stepped
    obtain ⟨_, rfl⟩ := Prod.mk.inj (Except.ok.inj received)
    exact .changed
  | notify =>
    simp only [Session.step, Session.atReader, bind_ok, mapError_ok, Except.ok.injEq,
      Prod.mk.injEq, Prod.exists] at stepped
    obtain ⟨_, reception, notified, _, rfl⟩ := stepped
    exact .notified reception notified

/-- A filter maps one item to what it yields. -/
theorem filterMap_one {α β : Type} (image : α → Option β) (item : α) :
    [item].filterMap image = (image item).toList := by
  cases seen : image item with
  | none => simp [seen]
  | some yielded => simp [seen]

/-- The messages past the transport: those of the samples taken, then those waiting. -/
def arrived (reader : DataReader ρ T) (state : ρ) : List T :=
  (reader.taken state ++ reader.untaken state).filterMap Sample.message?

/-- The data writer's messages flow in order: what arrived and what is underway was sent. -/
structure Session.Flows (transport : Transport κ HelloWorldOne)
    (reader : DataReader ρ HelloWorldOne) (session : Session σ κ ρ) : Prop where
  /-- The loop counts its turns. -/
  turned : ∃ turns, session.loop.Turned turns
  /-- The callback was given what was taken. -/
  delivering : Delivering reader session.reception
  /-- Nothing else arrives than what was sent, and in order. -/
  sent : (arrived reader session.reception.state ++
    transport.underway session.transport).Sublist session.loop.sent

/-- An arriving sample adds at most its message, at the end. -/
theorem arrived_receive (drops : DropsOnly reader) (state : ρ) (sample : Sample HelloWorldOne) :
    (arrived reader (reader.receive state sample)).Sublist
      (arrived reader state ++ sample.message?.toList) := by
  obtain ⟨waiting, recorded⟩ := drops state sample
  have kept : (reader.taken (reader.receive state sample) ++
      reader.untaken (reader.receive state sample)).Sublist
        (reader.taken state ++ reader.untaken state ++ [sample]) := by
    rw [recorded, List.append_assoc]
    exact (List.Sublist.refl _).append waiting
  rw [arrived, arrived, ← filterMap_one, ← List.filterMap_append]
  exact kept.filterMap Sample.message?

/-- An arriving sample leaves the deliveries alone. -/
theorem delivering_arrive (drops : DropsOnly reader) {reception : Reception ρ HelloWorldOne}
    (delivering : Delivering reader reception) (sample : Sample HelloWorldOne) :
    Delivering reader { reception with state := reader.receive reception.state sample } := by
  refine ⟨delivering.set, ?_⟩
  show reception.delivered = _
  rw [(drops reception.state sample).2]
  exact delivering.delivered

/-- A notification moves at most the oldest waiting message to the callback. -/
theorem delivering_notify (takes : TakesOldest reader) {before after : Reception ρ HelloWorldOne}
    (delivering : Delivering reader before)
    (notified : Reception.step reader before .notify = .ok ((), after)) :
    Delivering reader after ∧ arrived reader after.state = arrived reader before.state := by
  obtain ⟨next, again, listener, given, moved, delivered⟩ :=
    reception_step takes delivering.set .notify
  obtain ⟨_, rfl⟩ := Prod.mk.inj (Except.ok.inj (notified.symm.trans again))
  have set : after.listener.callback = true := by
    rw [listener]
    exact delivering.set
  cases moved with
  | took sample _ waiting recorded =>
    refine ⟨⟨set, ?_⟩, ?_⟩
    · rw [delivered, delivering.delivered, recorded, List.filterMap_append, filterMap_one]
    · rw [arrived, arrived, recorded, waiting, List.append_assoc, List.singleton_append]
  | idle _ refused waiting recorded =>
    refine ⟨⟨set, ?_⟩, ?_⟩
    · rw [delivered, delivering.delivered, recorded, Option.toList_none, List.append_nil]
    · rw [arrived, arrived, recorded, waiting]

/-- An event at the reader that adds no message keeps the flow. -/
theorem Session.Flows.atReader {session : Session σ κ ρ} (flows : session.Flows transport reader)
    {reception : Reception ρ HelloWorldOne} (delivering : Delivering reader reception)
    (fewer : (arrived reader reception.state).Sublist
      (arrived reader session.reception.state)) :
    Session.Flows transport reader { session with reception } :=
  ⟨flows.turned, delivering, (fewer.append (List.Sublist.refl _)).trans flows.sent⟩

/-- Every event keeps the flow. -/
theorem Session.Flows.step (takes : TakesOldest reader) (drops : DropsOnly reader)
    (keeps : KeepsOrder transport) :
    Machine.Preserves (Session.step api dataWriter transport reader)
      (Session.Flows transport reader) := by
  intro before event output after flows stepped
  obtain ⟨turns, counted⟩ := flows.turned
  cases session_step stepped with
  | kept loop turned =>
    obtain ⟨more, reported⟩ := counted.step turned
    rw [Option.toList_none, List.append_nil] at reported
    exact ⟨⟨turns + 1, more⟩, flows.delivering, reported ▸ flows.sent⟩
  | sent message loop turned =>
    obtain ⟨more, reported⟩ := counted.step turned
    have entered := (List.Sublist.refl (arrived reader before.reception.state)).append
      (keeps.accept before.transport message)
    rw [← List.append_assoc] at entered
    refine ⟨⟨turns + 1, more⟩, flows.delivering, ?_⟩
    rw [reported]
    exact entered.trans (flows.sent.append (List.Sublist.refl _))
  | idle state delivered =>
    have moved := keeps.deliver before.transport
    rw [delivered, Option.toList_none, List.nil_append] at moved
    exact ⟨flows.turned, flows.delivering, ((List.Sublist.refl _).append moved).trans flows.sent⟩
  | arrived message state delivered =>
    have moved := keeps.deliver before.transport
    rw [delivered, Option.toList_some] at moved
    have added := (arrived_receive drops before.reception.state (.data message)).append
      (List.Sublist.refl (transport.underway state))
    rw [List.append_assoc] at added
    exact ⟨flows.turned, delivering_arrive drops flows.delivering _,
      added.trans (((List.Sublist.refl _).append moved).trans flows.sent)⟩
  | changed =>
    have added := arrived_receive drops before.reception.state .noData
    rw [Sample.message?, Option.toList_none, List.append_nil] at added
    exact flows.atReader (delivering_arrive drops flows.delivering _) added
  | notified reception notified =>
    obtain ⟨delivering, same⟩ := delivering_notify takes flows.delivering notified
    exact flows.atReader delivering (same ▸ List.Sublist.refl _)

/-! ## Interleavings that go through -/

/-- Only a turn can fail, and nothing else moves the writing loop. -/
theorem session_quiet (takes : TakesOldest reader) {before : Session σ κ ρ} {event : SessionEvent}
    (other : event ≠ .turn) (set : before.reception.listener.callback = true) :
    ∃ after, Session.step api dataWriter transport reader before event = .ok ((), after) ∧
      after.loop = before.loop ∧ after.reception.listener.callback = true := by
  have heard : ∀ {session : Session σ κ ρ} (_ : session.reception = before.reception)
      (happened : ReaderEvent HelloWorldOne),
      ∃ after, Session.atReader reader session happened = .ok ((), after) ∧
        after.loop = session.loop ∧ after.reception.listener.callback = true := by
    intro session same happened
    obtain ⟨reception, received, listener, _⟩ := reception_step takes (same ▸ set) happened
    refine ⟨{ session with reception }, ?_, rfl, ?_⟩
    · simp only [Session.atReader, received, Except.mapError, bind, Except.bind]
    · rw [listener, same]
      exact set
  cases event with
  | turn => exact absurd rfl other
  | deliver =>
    rcases delivered : transport.deliver before.transport with ⟨_ | message, state⟩
    · exact ⟨{ before with transport := state }, by simp only [Session.step, delivered], rfl, set⟩
    · have arrives := @heard { before with transport := state } rfl (.arrive (.data message))
      simpa only [Session.step, delivered] using arrives
  | change => exact heard rfl (.arrive .noData)
  | notify => exact heard rfl .notify

/-- With a data writer in place, an interleaving goes through exactly when the writing loop has room
for its turns. -/
theorem session_goes (contract : Contract api) (takes : TakesOldest reader) {endpoint : Endpoint}
    {data : DataEndpoint} (filled : endpoint.data = some data) (events : List SessionEvent)
    {session : Session σ κ ρ} {turns : Nat} (turned : session.loop.Turned turns)
    (set : session.reception.listener.callback = true)
    (live : data ∈ (api.holdings session.loop.middleware).endpoints) :
    (∃ final, run (Session.step api (some endpoint) transport reader) session events =
      .ok final) ↔ turns + events.count .turn < 2 ^ 31 := by
  induction events generalizing session turns with
  | nil => exact iff_of_true ⟨session, rfl⟩ turned.bounded
  | cons event events ih =>
    by_cases writes : event = .turn
    · subst writes
      rw [List.count_cons_self]
      have goes : ∀ {written loop},
          WriterLoop.step api (some endpoint) session.loop () = .ok (written, loop) →
          ((∃ final, run (Session.step api (some endpoint) transport reader) session
            (.turn :: events) = .ok final) ↔ turns + 1 + events.count .turn < 2 ^ 31) := by
        intro written loop wrote
        have stepped : Session.step api (some endpoint) transport reader session .turn =
            .ok ((), { session with
              loop
              transport := written.elim session.transport
                (transport.accept session.transport) }) := by
          simp only [Session.step, wrote, bind, Except.bind]
        have held := WriterLoop.step_held contract wrote
        rw [Machine.run_cons _ stepped]
        exact ih (turned.step wrote).1 set (held ▸ live)
      constructor
      · intro finished
        obtain ⟨final, ran⟩ := finished
        obtain ⟨output, next, stepped, _⟩ := Machine.run_cons_ok ran
        simp only [Session.step, bind_ok, Prod.exists] at stepped
        obtain ⟨written, loop, wrote, _⟩ := stepped
        have room := (goes wrote).mp ⟨final, ran⟩
        omega
      · intro room
        obtain ⟨written, loop, wrote⟩ := turned.goes filled live (by omega)
        exact (goes wrote).mpr (by omega)
    · rw [List.count_cons_of_ne writes]
      obtain ⟨next, stepped, same, kept⟩ := session_quiet takes writes set
      rw [Machine.run_cons _ stepped]
      exact ih (same ▸ turned) kept (same ▸ live)

/-! ## What the reading program reports -/

/-- The index of a turn's message is the turn. -/
theorem helloWorldMessage_index {turn : Nat} (bounded : turn < 2 ^ 31) :
    (helloWorldMessage turn).index.toNat = turn := by
  rw [helloWorldMessage, BitVec.ofInt_natCast, BitVec.toNat_ofNat]
  exact Nat.mod_eq_of_lt (by omega)

/-- The messages of a loop that did not overflow have rising indices. -/
theorem helloWorldMessages_rising {turns : Nat} (bounded : turns < 2 ^ 31) :
    (helloWorldMessages turns).Pairwise fun earlier later => earlier.index < later.index := by
  rw [helloWorldMessages, List.pairwise_map]
  refine List.pairwise_lt_range.imp_of_mem fun {early late} _ member before => ?_
  have room := List.mem_range.mp member
  have first : (helloWorldMessage ((early + 1 : Nat) : Int)).index.toNat = early + 1 :=
    helloWorldMessage_index (by omega)
  have second : (helloWorldMessage ((late + 1 : Nat) : Int)).index.toNat = late + 1 :=
    helloWorldMessage_index (by omega)
  push_cast at first second
  rw [BitVec.lt_def, first, second]
  omega

/-- Before the first turn nothing has flowed. -/
theorem session_start (middleware : σ) {empty : κ} (nothingUnderway : transport.underway empty = [])
    {state : ρ} (nothingTaken : reader.taken state = [])
    (nothingWaiting : reader.untaken state = []) :
    Session.Flows transport reader (Session.start middleware empty state) := by
  refine ⟨⟨0, WriterLoop.turned_start middleware⟩, ⟨rfl, ?_⟩, ?_⟩
  · simp only [Session.start, Reception.construct, nothingTaken, List.filterMap_nil]
  · simp only [Session.start, Reception.construct, arrived, nothingTaken, nothingWaiting,
      nothingUnderway, List.append_nil, List.filterMap_nil, List.Sublist.refl]

/-- The callback was given the messages taken, under the reader's topic name. -/
theorem Delivering.announced {reception : Reception ρ HelloWorldOne}
    (delivering : Delivering reader reception) :
    reception.delivered = ((reader.taken reception.state).filterMap Sample.message?).map
      (fun message => (reader.topicName, message)) := by
  rw [delivering.delivered, List.map_filterMap]
  rfl

/-- Apart from the unsynchronised `runFlag`, every interleaving of the two programs goes through as
long as the writing one has room for its turns. Whatever the middleware loses between them, the
reading program's callback gets messages that were sent, under the reader's topic name, each at most
once and by rising index. -/
theorem received_in_order (contract : Contract api) (takes : TakesOldest reader)
    (drops : DropsOnly reader) (keeps : KeepsOrder transport) (endpoint : Endpoint)
    (data : DataEndpoint) (filled : endpoint.data = some data) (middleware : σ)
    (live : data ∈ (api.holdings middleware).endpoints) (empty : κ)
    (nothingUnderway : transport.underway empty = []) (state : ρ)
    (nothingTaken : reader.taken state = []) (nothingWaiting : reader.untaken state = [])
    (events : List SessionEvent) :
    ((∃ final, run (Session.step api (some endpoint) transport reader)
        (Session.start middleware empty state) events = .ok final) ↔
      events.count .turn < 2 ^ 31) ∧
    ∀ final, run (Session.step api (some endpoint) transport reader)
        (Session.start middleware empty state) events = .ok final →
      ∃ received : List HelloWorldOne, final.reception.delivered =
          received.map (fun message => (reader.topicName, message)) ∧
        received.Sublist final.loop.sent ∧
        received.Pairwise fun earlier later => earlier.index < later.index := by
  have begun : (Session.start middleware empty state : Session σ κ ρ).loop.Turned 0 :=
    WriterLoop.turned_start middleware
  have goes : (∃ final, run (Session.step api (some endpoint) transport reader)
      (Session.start middleware empty state) events = .ok final) ↔
        0 + events.count .turn < 2 ^ 31 :=
    session_goes contract takes filled events begun rfl live
  rw [Nat.zero_add] at goes
  refine ⟨goes, fun final ran => ?_⟩
  have flows := Machine.run_invariant (Session.Flows.step takes drops keeps)
    (session_start middleware nothingUnderway nothingTaken nothingWaiting) ran
  obtain ⟨turns, turned⟩ := flows.turned
  have sent : ((reader.taken final.reception.state).filterMap Sample.message?).Sublist
      final.loop.sent := by
    refine ((List.sublist_append_left _ _).filterMap _).trans
      ((List.sublist_append_left _ _).trans flows.sent)
  exact ⟨_, flows.delivering.announced, sent,
    (helloWorldMessages_rising turned.bounded).sublist (sent.trans turned.sent)⟩

/-- A queue of any length, or one that forgets its oldest messages when it is full. -/
def queueTransport (depth : Option Nat) : Transport (List T) T where
  underway := id
  accept queue message :=
    let messages := queue ++ [message]
    messages.drop (messages.length - depth.getD messages.length)
  deliver queue := (queue.head?, queue.tail)

/-- It keeps the order. -/
theorem queueTransport_keepsOrder (depth : Option Nat) :
    KeepsOrder (queueTransport depth : Transport (List T) T) where
  accept _ _ := List.drop_sublist _ _
  deliver queue := by
    cases queue with
    | nil => exact List.Sublist.refl _
    | cons message rest => exact List.Sublist.refl _

/-- The data writer of the sessions below. -/
def sessionWriter : DataEndpoint := ⟨⟨.writer, ⟨1⟩, 1⟩, ⟨⟨1⟩, 1, "a", "HelloWorldOne"⟩, 0, 1⟩

/-- Five turns, of which every second one is refused, and a reader that keeps one sample. -/
def lossyEvents : List SessionEvent :=
  [.turn, .turn, .turn, .deliver, .notify, .turn, .turn, .deliver, .deliver, .notify, .change,
    .notify]

/-- Of three messages sent, the reading program reports the first and the last. -/
theorem received_in_order_lossy :
    ∃ final, run (Session.step choosyMiddleware (some ⟨.writer, 0, "a", sessionWriter.group,
          some sessionWriter⟩) (queueTransport (some 2)) (historyReader (some 1)))
        (Session.start ⟨⟨∅, ∅, ∅, fun _ _ => none, {sessionWriter}⟩, []⟩ [] ⟨[], []⟩)
        lossyEvents = .ok final ∧
      final.reception.delivered =
        [("a", helloWorldMessage 1), ("a", helloWorldMessage 5)] ∧
      ∃ received : List HelloWorldOne,
        final.reception.delivered = received.map (fun message => ("a", message)) ∧
        received.Sublist final.loop.sent ∧
        received.Pairwise fun earlier later => earlier.index < later.index := by
  obtain ⟨goes, ordered⟩ := received_in_order ((reference_contract true).accepting HelloWorldOne _)
    (historyReader_takesOldest (some 1)) (historyReader_dropsOnly (some 1))
    (queueTransport_keepsOrder (some 2))
    ⟨.writer, 0, "a", sessionWriter.group, some sessionWriter⟩ sessionWriter rfl
    ⟨⟨∅, ∅, ∅, fun _ _ => none, {sessionWriter}⟩, []⟩ (Finset.mem_singleton_self sessionWriter) []
    rfl ⟨[], []⟩ rfl rfl lossyEvents
  obtain ⟨final, ran⟩ := goes.mpr (by decide)
  have shown : (run (Session.step choosyMiddleware (some ⟨.writer, 0, "a", sessionWriter.group,
        some sessionWriter⟩) (queueTransport (some 2)) (historyReader (some 1)))
      (Session.start ⟨⟨∅, ∅, ∅, fun _ _ => none, {sessionWriter}⟩, []⟩ [] ⟨[], []⟩)
      lossyEvents).map (fun session => session.reception.delivered) =
        .ok [("a", helloWorldMessage 1), ("a", helloWorldMessage 5)] := by decide
  obtain ⟨other, again, delivered⟩ := Machine.map_ok.mp shown
  obtain rfl := Except.ok.inj (ran.symm.trans again)
  exact ⟨final, ran, delivered, ordered final ran⟩

/-! ## Without losses -/

/-- No message gets lost either. -/
structure LosesNothing (transport : Transport κ T) : Prop where
  /-- An accepted message goes behind the others. -/
  accept : ∀ state message,
    transport.underway (transport.accept state message) = transport.underway state ++ [message]
  /-- The message that comes out was the oldest. -/
  deliver : ∀ state, (transport.deliver state).1.toList ++
    transport.underway (transport.deliver state).2 = transport.underway state
  /-- While messages are underway one comes out. -/
  delivers : ∀ state, transport.underway state ≠ [] → (transport.deliver state).1 ≠ none

/-- Such a transport keeps the order. -/
theorem LosesNothing.keepsOrder {transport : Transport κ T} (loses : LosesNothing transport) :
    KeepsOrder transport :=
  ⟨fun state message => loses.accept state message ▸ List.Sublist.refl _,
    fun state => (List.Sublist.refl _).trans (loses.deliver state ▸ List.Sublist.refl _)⟩

/-- A history of all samples drops none. -/
theorem KeepsAll.dropsOnly {reader : DataReader ρ T} (keeps : KeepsAll reader) :
    DropsOnly reader :=
  fun state sample => ⟨(keeps state sample).1 ▸ List.Sublist.refl _, (keeps state sample).2⟩

/-- A sample that arrives in a history of all samples adds its message. -/
theorem arrived_receive_all {reader : DataReader ρ T} (keeps : KeepsAll reader) (state : ρ)
    (sample : Sample T) :
    arrived reader (reader.receive state sample) =
      arrived reader state ++ sample.message?.toList := by
  obtain ⟨waiting, recorded⟩ := keeps state sample
  rw [arrived, arrived, recorded, waiting, ← filterMap_one, ← List.filterMap_append,
    List.append_assoc]

/-- The flow without losses. -/
structure Session.Complete (transport : Transport κ HelloWorldOne)
    (reader : DataReader ρ HelloWorldOne) (session : Session σ κ ρ) : Prop extends
    Session.Flows transport reader session where
  /-- What was sent has arrived or is underway. -/
  whole : arrived reader session.reception.state ++ transport.underway session.transport =
    session.loop.sent

/-- Every event keeps it complete. -/
theorem Session.Complete.step (takes : TakesOldest reader) (keeps : KeepsAll reader)
    (loses : LosesNothing transport) :
    Machine.Preserves (Session.step api dataWriter transport reader)
      (Session.Complete transport reader) := by
  intro before event output after complete stepped
  have whole := complete.whole
  refine ⟨Session.Flows.step takes keeps.dropsOnly loses.keepsOrder before event output after
    complete.toFlows stepped, ?_⟩
  obtain ⟨turns, counted⟩ := complete.turned
  cases session_step stepped with
  | kept loop turned =>
    have reported := (counted.step turned).2
    rw [Option.toList_none, List.append_nil] at reported
    exact whole.trans reported.symm
  | sent message loop turned =>
    rw [loses.accept, ← List.append_assoc, whole, (counted.step turned).2, Option.toList_some]
  | idle state delivered =>
    have moved := loses.deliver before.transport
    rw [delivered, Option.toList_none, List.nil_append] at moved
    rw [moved]
    exact whole
  | arrived message state delivered =>
    have moved := loses.deliver before.transport
    rw [delivered] at moved
    rw [arrived_receive_all keeps, List.append_assoc, Sample.message?, moved]
    exact whole
  | changed =>
    rw [arrived_receive_all keeps, Sample.message?, Option.toList_none, List.append_nil]
    exact whole
  | notified reception notified =>
    rw [(delivering_notify takes complete.delivering notified).2]
    exact whole

/-- With nothing underway or waiting, exactly the messages sent have been reported. -/
theorem Session.Complete.reported {session : Session σ κ ρ}
    (complete : session.Complete transport reader)
    (drained : transport.underway session.transport = [])
    (emptied : reader.untaken session.reception.state = []) :
    session.reception.delivered =
      session.loop.sent.map (fun message => (reader.topicName, message)) := by
  have whole := complete.whole
  rw [drained, List.append_nil, arrived, emptied, List.append_nil] at whole
  rw [complete.delivering.announced, whole]

/-! ## One notification for each sample -/

/-- Both programs over a middleware that calls `on_data_available` once for each sample, at any time
after the sample arrived. -/
structure NotifyingSession (σ κ ρ : Type) where
  /-- Both programs. -/
  session : Session σ κ ρ
  /-- Samples that arrived and whose notification is still to come. -/
  owed : Nat

namespace NotifyingSession

/-- Before the first turn no notification is owed. -/
def start (middleware : σ) (transport : κ) (state : ρ) : NotifyingSession σ κ ρ :=
  ⟨.start middleware transport state, 0⟩

/-- The notifications owed after an event. -/
def owes (transport : Transport κ HelloWorldOne) (before : NotifyingSession σ κ ρ) :
    SessionEvent → Nat
  | .turn => before.owed
  | .deliver => before.owed + (transport.deliver before.session.transport).1.toList.length
  | .change => before.owed + 1
  | .notify => before.owed - 1

/-- One event. No notification comes without a sample of its own: where none is owed, it is no event
and changes nothing. -/
def step (api : Middleware σ Qos HelloWorldOne) (dataWriter : Option Endpoint)
    (transport : Transport κ HelloWorldOne) (reader : DataReader ρ HelloWorldOne) :
    Machine.Step (NotifyingSession σ κ ρ) SessionEvent Unit ProgramFault := fun before event =>
  if event = .notify ∧ before.owed = 0 then .ok ((), before)
  else do
    let (_, session) ← Session.step api dataWriter transport reader before.session event
    .ok ((), ⟨session, owes transport before event⟩)

/-- An event that is called for goes as in the session. -/
theorem step_session {before : NotifyingSession σ κ ρ} {event : SessionEvent}
    {session : Session σ κ ρ} (called : event = .notify → before.owed ≠ 0)
    (stepped : Session.step api dataWriter transport reader before.session event =
      .ok ((), session)) :
    step api dataWriter transport reader before event =
      .ok ((), ⟨session, owes transport before event⟩) := by
  have goes : ¬ (event = .notify ∧ before.owed = 0) := fun idle => called idle.1 idle.2
  simp only [step, if_neg goes, stepped, bind, Except.bind]

/-- An event that returns is no event, or is called for and goes as in the session. -/
theorem step_cases {before after : NotifyingSession σ κ ρ} {event : SessionEvent}
    (stepped : step api dataWriter transport reader before event = .ok ((), after)) :
    after = before ∨ (event = .notify → before.owed ≠ 0) ∧
      Session.step api dataWriter transport reader before.session event =
        .ok ((), after.session) ∧
      after.owed = owes transport before event := by
  by_cases idle : event = .notify ∧ before.owed = 0
  · simp only [step, if_pos idle, Except.ok.injEq, Prod.mk.injEq] at stepped
    exact .inl stepped.2.symm
  · simp only [step, if_neg idle, bind_ok, Except.ok.injEq, Prod.mk.injEq, Prod.exists] at stepped
    obtain ⟨_, session, went, _, rfl⟩ := stepped
    exact .inr ⟨fun notifies empty => idle ⟨notifies, empty⟩, went, rfl⟩

/-- The flow without losses, where each sample is taken by its own notification. -/
structure Served (transport : Transport κ HelloWorldOne) (reader : DataReader ρ HelloWorldOne)
    (notifying : NotifyingSession σ κ ρ) : Prop extends
    Session.Complete transport reader notifying.session where
  /-- The samples waiting are those whose notification is still to come. -/
  waiting : (reader.untaken notifying.session.reception.state).length = notifying.owed

/-- Every event keeps each sample with its notification. -/
theorem Served.step (takes : TakesOldest reader) (serves : TakesWhatWaits reader)
    (keeps : KeepsAll reader) (loses : LosesNothing transport) :
    Machine.Preserves (NotifyingSession.step api dataWriter transport reader)
      (Served transport reader) := by
  intro before event output after served stepped
  rcases step_cases stepped with rfl | ⟨called, went, owed⟩
  · exact served
  refine ⟨Session.Complete.step takes keeps loses _ _ _ _ served.toComplete went, ?_⟩
  have waiting := served.waiting
  rw [owed]
  obtain ⟨session, _⟩ := after
  cases session_step went with
  | kept loop turned => exact waiting
  | sent message loop turned => exact waiting
  | idle state delivered =>
    rw [owes, delivered]
    exact waiting
  | arrived message state delivered =>
    show (reader.untaken (reader.receive _ _)).length = _
    rw [owes, delivered, (keeps _ _).1, List.length_append, waiting]
    rfl
  | changed =>
    show (reader.untaken (reader.receive _ _)).length = _
    rw [owes, (keeps _ _).1, List.length_append, waiting]
    rfl
  | notified reception notified =>
    obtain ⟨next, again, _, given, moved, _⟩ :=
      reception_step takes served.delivering.set .notify
    obtain ⟨_, rfl⟩ := Prod.mk.inj (Except.ok.inj (notified.symm.trans again))
    cases moved with
    | took sample _ here recorded =>
      rw [here, List.length_cons] at waiting
      rw [owes]
      exact (Nat.sub_eq_of_eq_add waiting.symm).symm
    | idle _ refused here recorded =>
      have nonempty : reader.untaken before.session.reception.state ≠ [] := by
        intro empty
        rw [empty] at waiting
        exact called rfl waiting.symm
      exact absurd (serves _ default nonempty) refused

/-- A notification goes through and leaves the transport and the writing loop alone. -/
theorem notify_quiet (api : Middleware σ Qos HelloWorldOne) (dataWriter : Option Endpoint)
    (transport : Transport κ HelloWorldOne) (takes : TakesOldest reader) (session : Session σ κ ρ)
    (set : session.reception.listener.callback = true) :
    ∃ next, Session.step api dataWriter transport reader session .notify = .ok ((), next) ∧
      next.reception.listener.callback = true ∧ next.transport = session.transport ∧
      next.loop = session.loop := by
  have other : SessionEvent.notify ≠ .turn := by decide
  obtain ⟨next, went, loop, kept⟩ := session_quiet takes other set
  have same : next.transport = session.transport := by
    cases session_step went with
    | notified reception notified => rfl
  exact ⟨next, went, kept, same, loop⟩

/-- The notifications owed can all be made. -/
theorem catches_up (api : Middleware σ Qos HelloWorldOne) (dataWriter : Option Endpoint)
    (transport : Transport κ HelloWorldOne) (takes : TakesOldest reader) (owed : Nat)
    (session : Session σ κ ρ) (set : session.reception.listener.callback = true) :
    ∃ last, run (step api dataWriter transport reader) ⟨session, owed⟩
        (List.replicate owed .notify) = .ok ⟨last, 0⟩ ∧
      last.reception.listener.callback = true ∧ last.transport = session.transport ∧
      last.loop = session.loop := by
  induction owed generalizing session with
  | zero => exact ⟨session, rfl, set, rfl, rfl⟩
  | succ owed ih =>
    obtain ⟨next, went, kept, same, loop⟩ :=
      notify_quiet api dataWriter transport takes session set
    have stepped : step api dataWriter transport reader ⟨session, owed + 1⟩ .notify =
        .ok ((), ⟨next, owed⟩) := step_session (fun _ => Nat.succ_ne_zero owed) went
    obtain ⟨last, ran, still, untouched, unturned⟩ := ih next kept
    refine ⟨last, ?_, still, untouched.trans same, unturned.trans loop⟩
    rw [List.replicate_succ, Machine.run_cons _ stepped]
    exact ran

/-- With no notification owed, each message underway can be delivered with its notification. -/
theorem delivers_each (api : Middleware σ Qos HelloWorldOne) (dataWriter : Option Endpoint)
    (takes : TakesOldest reader) (loses : LosesNothing transport) (session : Session σ κ ρ)
    (set : session.reception.listener.callback = true) :
    ∃ last, run (step api dataWriter transport reader) ⟨session, 0⟩
        (List.replicate (transport.underway session.transport).length
          [.deliver, .notify]).flatten = .ok ⟨last, 0⟩ ∧
      transport.underway last.transport = [] ∧ last.loop = session.loop := by
  induction left : transport.underway session.transport generalizing session with
  | nil => exact ⟨session, rfl, left, rfl⟩
  | cons oldest rest ih =>
    have quiet : ∃ middle, Session.step api dataWriter transport reader session .deliver =
        .ok ((), middle) ∧ middle.loop = session.loop ∧
          middle.reception.listener.callback = true := session_quiet takes (by decide) set
    obtain ⟨middle, went, loop, kept⟩ := quiet
    have brought : transport.underway middle.transport = rest ∧
        owes transport ⟨session, 0⟩ .deliver = 1 := by
      cases session_step went with
      | idle state delivered =>
        exact absurd (by rw [delivered]) (loses.delivers session.transport (by simp [left]))
      | arrived message state delivered =>
        have moved := loses.deliver session.transport
        rw [delivered, left, Option.toList_some, List.singleton_append] at moved
        refine ⟨(List.cons.inj moved).2, ?_⟩
        rw [owes, delivered]
        rfl
    obtain ⟨underway, owed⟩ := brought
    obtain ⟨next, notified, still, same, unturned⟩ :=
      notify_quiet api dataWriter transport takes middle kept
    have arrives : step api dataWriter transport reader ⟨session, 0⟩ .deliver =
        .ok ((), ⟨middle, 1⟩) := by
      rw [← owed]
      exact step_session (fun notifies => by cases notifies) went
    have taken : step api dataWriter transport reader ⟨middle, 1⟩ .notify =
        .ok ((), ⟨next, 0⟩) := step_session (fun _ => Nat.one_ne_zero) notified
    obtain ⟨last, ran, drained, unmoved⟩ := ih next still (same ▸ underway)
    refine ⟨last, ?_, drained, unmoved.trans (unturned.trans loop)⟩
    rw [List.length_cons, List.replicate_succ, List.flatten_cons, List.cons_append,
      Machine.run_cons _ arrives, List.cons_append, List.nil_append, Machine.run_cons _ taken]
    exact ran

end NotifyingSession

/-- Suppose that nothing is lost between the programs, that the reader keeps all samples, and that
the middleware calls `on_data_available` once for each sample, after its arrival. Then in every
interleaving, whenever nothing is underway and no notification is owed, the callback has been given
exactly the messages sent, in order and once each; and the notifications owed, followed by each
remaining delivery with its own notification, always lead there. -/
theorem received_all (takes : TakesOldest reader) (serves : TakesWhatWaits reader)
    (keeps : KeepsAll reader) (loses : LosesNothing transport) (middleware : σ) (empty : κ)
    (nothingUnderway : transport.underway empty = []) (state : ρ)
    (nothingTaken : reader.taken state = []) (nothingWaiting : reader.untaken state = [])
    (events : List SessionEvent) (final : NotifyingSession σ κ ρ)
    (ran : run (NotifyingSession.step api dataWriter transport reader)
      (NotifyingSession.start middleware empty state) events = .ok final) :
    (transport.underway final.session.transport = [] → final.owed = 0 →
      final.session.reception.delivered =
        final.session.loop.sent.map (fun message => (reader.topicName, message))) ∧
    ∃ last,
      run (NotifyingSession.step api dataWriter transport reader) final
        (List.replicate final.owed .notify ++
          (List.replicate (transport.underway final.session.transport).length
            [.deliver, .notify]).flatten) = .ok ⟨last, 0⟩ ∧
      transport.underway last.transport = [] ∧ last.loop = final.session.loop ∧
      last.reception.delivered =
        final.session.loop.sent.map (fun message => (reader.topicName, message)) := by
  have start : NotifyingSession.Served transport reader
      (NotifyingSession.start middleware empty state : NotifyingSession σ κ ρ) := by
    refine ⟨⟨session_start middleware nothingUnderway nothingTaken nothingWaiting, ?_⟩, ?_⟩
    · simp only [NotifyingSession.start, Session.start, Reception.construct, arrived, nothingTaken,
        nothingWaiting, nothingUnderway, List.append_nil, List.filterMap_nil]
    · simp only [NotifyingSession.start, Session.start, Reception.construct, nothingWaiting,
        List.length_nil]
  have preserved : Machine.Preserves (NotifyingSession.step api dataWriter transport reader)
      (NotifyingSession.Served transport reader) :=
    NotifyingSession.Served.step takes serves keeps loses
  have served := Machine.run_invariant preserved start ran
  obtain ⟨middle, notified, set, same, unturned⟩ := NotifyingSession.catches_up api dataWriter
    transport takes final.owed final.session served.delivering.set
  obtain ⟨last, delivered, drained, unmoved⟩ :=
    NotifyingSession.delivers_each api dataWriter takes loses middle set
  have whole : run (NotifyingSession.step api dataWriter transport reader) final
      (List.replicate final.owed .notify ++
        (List.replicate (transport.underway final.session.transport).length
          [.deliver, .notify]).flatten) = .ok ⟨last, 0⟩ := by
    rw [Machine.run_append _ notified, ← same]
    exact delivered
  have ended := Machine.run_invariant preserved served whole
  refine ⟨fun nothing silent => ?_, last, whole, drained, unmoved.trans unturned, ?_⟩
  · exact served.reported nothing (List.eq_nil_of_length_eq_zero (served.waiting.trans silent))
  · rw [← unturned, ← unmoved]
    exact ended.reported drained (List.eq_nil_of_length_eq_zero ended.waiting)

/-- A queue of any length loses nothing. -/
theorem queueTransport_losesNothing :
    LosesNothing (queueTransport none : Transport (List T) T) where
  accept queue message := by simp [queueTransport]
  deliver queue := by
    cases queue with
    | nil => rfl
    | cons message rest => rfl
  delivers queue waiting := by
    cases queue with
    | nil => exact absurd rfl waiting
    | cons message rest => exact Option.some_ne_none message

/-- Three turns, one of them refused; the second message is still underway and the last sample has
not been notified. -/
def fullEvents : List SessionEvent :=
  [.notify, .turn, .deliver, .turn, .notify, .turn, .change]

/-- One more notification and one more delivery with its own, and both messages sent are
reported. -/
theorem received_all_full :
    ∃ final last, run (NotifyingSession.step choosyMiddleware
          (some ⟨.writer, 0, "a", sessionWriter.group, some sessionWriter⟩) (queueTransport none)
          (historyReader none))
        (.start ⟨⟨∅, ∅, ∅, fun _ _ => none, {sessionWriter}⟩, []⟩ [] ⟨[], []⟩)
        fullEvents = .ok final ∧
      final.owed = 1 ∧ final.session.transport = [helloWorldMessage 3] ∧
      final.session.loop.sent = [helloWorldMessage 1, helloWorldMessage 3] ∧
      final.session.reception.delivered = [("a", helloWorldMessage 1)] ∧
      run (NotifyingSession.step choosyMiddleware
          (some ⟨.writer, 0, "a", sessionWriter.group, some sessionWriter⟩) (queueTransport none)
          (historyReader none)) final [.notify, .deliver, .notify] = .ok ⟨last, 0⟩ ∧
      last.reception.delivered = [("a", helloWorldMessage 1), ("a", helloWorldMessage 3)] := by
  have shown : (run (NotifyingSession.step choosyMiddleware
        (some ⟨.writer, 0, "a", sessionWriter.group, some sessionWriter⟩) (queueTransport none)
        (historyReader none))
      (.start ⟨⟨∅, ∅, ∅, fun _ _ => none, {sessionWriter}⟩, []⟩ [] ⟨[], []⟩)
      fullEvents).map (fun final => (final.owed, final.session.transport, final.session.loop.sent,
        final.session.reception.delivered)) =
      .ok (1, [helloWorldMessage 3], [helloWorldMessage 1, helloWorldMessage 3],
        [("a", helloWorldMessage 1)]) := by decide
  obtain ⟨final, ran, seen⟩ := Machine.map_ok.mp shown
  simp only [Prod.mk.injEq] at seen
  obtain ⟨owed, underway, sent, delivered⟩ := seen
  obtain ⟨_, last, whole, _, _, reported⟩ := received_all (historyReader_takesOldest none)
    (historyReader_takesWhatWaits none) historyReader_keepsAll queueTransport_losesNothing _ [] rfl
    ⟨[], []⟩ rfl rfl fullEvents final ran
  rw [owed, underway] at whole
  rw [sent] at reported
  exact ⟨final, last, ran, owed, underway, sent, delivered, whole, reported⟩

end FastDdsWrapper
