import FastDdsWrapper.FirstCreation
import FastDdsWrapper.ParticipantQosHandler
import FastDdsWrapper.Reference

/-!
# The example's handler and its two programs

`DDSTestHandler` is the manager of the example: two topics, one UDP transport and no peers, whatever
peers it is given. `run_dds_data_writer` sets one up and writes numbered messages until a line is
entered, and `run_dds_data_reader` sets one up and waits for the line. Neither looks at what the
calls before its loop return, so a refusal shows where the first null pointer is used. The plain
`bool` through which a second thread ends the writing loop is not modelled: a program is given the
number of its turns.
-/

namespace FastDdsWrapper

open Machine (run bind_ok mapError_ok)

variable {σ Qos : Type}

/-- `DDS_TOPIC_HELLO_WORLD_ONE`. -/
def ddsTopicHelloWorldOne : String := "TopicHelloWorldOne"

/-- `DDS_TOPIC_HELLO_WORLD_TWO`. -/
def ddsTopicHelloWorldTwo : String := "TopicHelloWorldTwo"

/-- `HelloWorldOne`. -/
structure HelloWorldOne where
  /-- `m_index`. -/
  index : BitVec 32
  /-- `m_points`. -/
  points : List (BitVec 8)
deriving DecidableEq

instance : Inhabited HelloWorldOne := ⟨⟨0, []⟩⟩

namespace DDSTestHandler

/-- `DDSTestHandler::createParticipantQos`. The port and the peers are not read, and without
addresses `addUDPV4Transport` has no loop to run. -/
def createParticipantQos (participantName : String) (_listenPort : UInt16)
    (_peerLocators : List String) : ParticipantQosHandler :=
  (ParticipantQosHandler.construct participantName.toList).pushTransport
    (.udpv4 (1024 * 1024 * 16) (1024 * 1024 * 16) true)

/-- The handler is what one call of `addUDPV4Transport` leaves. -/
theorem createParticipantQos_calls (setIPv4 : Locator → Text → Bool × Locator)
    (participantName : String) (listenPort : UInt16) (peerLocators : List String) :
    (ParticipantQosHandler.construct participantName.toList).addUDPV4Transport setIPv4
        (1024 * 1024 * 16) [] =
      .ok (createParticipantQos participantName listenPort peerLocators) := rfl

/-- `DDSTestHandler::DDSTestHandler`. The middleware's settings are made from the members the
handler sets. -/
def construct (settings : DomainParticipantQos → Qos) (domainId : Int) :
    DDSParticipantManager Qos :=
  let manager : DDSParticipantManager Qos :=
    ⟨domainId, none, ∅, fun participantName listenPort peerLocators =>
      settings (createParticipantQos participantName listenPort peerLocators).getQos⟩
  (manager.addTopicDataTypeCreator ddsTopicHelloWorldOne fun id =>
    some ⟨id, "HelloWorldOne"⟩).addTopicDataTypeCreator ddsTopicHelloWorldTwo fun id =>
      some ⟨id, "HelloWorldTwo"⟩

end DDSTestHandler

/-- A fault of a program. -/
inductive ProgramFault
  /-- A pointer that must not be used. -/
  | pointer (fault : Fault)
  /-- An `int` that overflows. -/
  | number (fault : QosFault)
deriving DecidableEq

/-! ## The writing program -/

/-- The message of a turn of the loop. -/
def helloWorldMessage (index : Int) : HelloWorldOne :=
  { index := BitVec.ofInt 32 index
    points := List.replicate 100 0 }

/-- The loop of `run_dds_data_writer`. -/
structure WriterLoop (σ : Type) where
  /-- State of the middleware. -/
  middleware : σ
  /-- The local `index`. -/
  index : Int
  /-- The messages reported as sent. -/
  sent : List HelloWorldOne

/-- One turn of the loop; its output is the message `write` accepted. Writing the message and
reporting it are one event. The pause at its end changes nothing. -/
def WriterLoop.step (api : Middleware σ Qos HelloWorldOne) (dataWriter : Option Endpoint) :
    Machine.Step (WriterLoop σ) Unit (Option HelloWorldOne) ProgramFault := fun loop _ => do
  let index ← (increment loop.index).mapError .number
  let message := helloWorldMessage index
  match dataWriter with
  | none => .error (.pointer .nullPointer)
  | some dataWriter => do
    let (written, middleware) ←
      (writeMessage api loop.middleware dataWriter message).mapError .pointer
    if written then .ok (some message, ⟨middleware, index, loop.sent ++ [message]⟩)
    else .ok (none, ⟨middleware, index, loop.sent⟩)

/-- `run_dds_data_writer`, with the number of turns until `runFlag` is found false. The flag itself
is left out: the loop reads this plain `bool`, the detached thread writes it, and nothing
synchronises the two. The result is what was reported as sent and the middleware after the handler's
destructor. The writer object is never destroyed. -/
def runDdsDataWriter (api : Middleware σ Qos HelloWorldOne)
    (settings : DomainParticipantQos → Qos) (middleware : σ) (turns : Nat) :
    Except ProgramFault (List HelloWorldOne × σ) := do
  let handler := DDSTestHandler.construct settings 170
  match handler.initDomainParticipant api middleware "test_writer" 10002 ["127.0.0.1:10001"] with
  | (_, handler, middleware) => do
    let (dataWriter, world) ← ((ManagerWorld.start handler middleware 0).createDataWriter api
      ddsTopicHelloWorldOne).mapError .pointer
    let loop ← run (WriterLoop.step api dataWriter) ⟨world.middleware, 0, []⟩
      (List.replicate turns ())
    let middleware ← (world.manager.destruct api loop.middleware).mapError .pointer
    .ok (loop.sent, middleware)

/-- `run_dds_data_reader`: the reader object, if one was made, and the middleware after the
handler's destructor. The reader object is never destroyed. -/
def runDdsDataReader (api : Middleware σ Qos HelloWorldOne)
    (settings : DomainParticipantQos → Qos) (middleware : σ) :
    Except ProgramFault (Option Endpoint × σ) := do
  let handler := DDSTestHandler.construct settings 170
  match handler.initDomainParticipant api middleware "test_reader" 10001 ["127.0.0.1:10002"] with
  | (_, handler, middleware) => do
    let (dataReader, world) ← ((ManagerWorld.start handler middleware 0).createDataReader api
      ddsTopicHelloWorldOne).mapError .pointer
    let middleware ← (world.manager.destruct api world.middleware).mapError .pointer
    .ok (dataReader, middleware)

/-! ## The loop -/

variable {api : Middleware σ Qos HelloWorldOne}

/-- `++index` below the last `int`. -/
theorem increment_ok {value next : Int} :
    increment value = .ok next ↔ value + 1 < 2 ^ 31 ∧ next = value + 1 := by
  by_cases room : value + 1 < 2 ^ 31
  · simp only [increment, room, ↓reduceIte, Except.ok.injEq, true_and]
    exact eq_comm
  · simp only [increment, room, ↓reduceIte, reduceCtorEq, false_and]

/-- A turn returns exactly when `index` has room and the writer object can be used. It reports its
message if `write` accepts it. -/
theorem WriterLoop.step_ok {dataWriter : Option Endpoint} {loop next : WriterLoop σ}
    {output : Option HelloWorldOne} :
    WriterLoop.step api dataWriter loop () = .ok (output, next) ↔
      loop.index + 1 < 2 ^ 31 ∧ ∃ endpoint written middleware, dataWriter = some endpoint ∧
        writeMessage api loop.middleware endpoint (helloWorldMessage (loop.index + 1)) =
          .ok (written, middleware) ∧
        output = (if written then some (helloWorldMessage (loop.index + 1)) else none) ∧
        next = ⟨middleware, loop.index + 1, loop.sent ++ output.toList⟩ := by
  cases dataWriter with
  | none => simp [WriterLoop.step, bind_ok]
  | some endpoint =>
    simp only [WriterLoop.step, bind_ok, mapError_ok, increment_ok, Prod.exists]
    constructor
    · intro turned
      obtain ⟨_, ⟨room, rfl⟩, written, middleware, wrote, returned⟩ := turned
      refine ⟨room, endpoint, written, middleware, rfl, wrote, ?_⟩
      cases written with
      | false =>
        obtain ⟨rfl, rfl⟩ := Prod.mk.inj (Except.ok.inj returned)
        exact ⟨rfl, by rw [Option.toList_none, List.append_nil]⟩
      | true =>
        obtain ⟨rfl, rfl⟩ := Prod.mk.inj (Except.ok.inj returned)
        exact ⟨rfl, rfl⟩
    · intro turned
      obtain ⟨room, _, written, middleware, same, wrote, rfl, rfl⟩ := turned
      obtain rfl := Option.some.inj same
      refine ⟨_, ⟨room, rfl⟩, written, middleware, wrote, ?_⟩
      cases written with
      | false => simp
      | true => simp

/-- The messages of the first turns. -/
def helloWorldMessages (turns : Nat) : List HelloWorldOne :=
  (List.range turns).map fun turn : Nat => helloWorldMessage (turn + 1)

/-- One more turn adds its message at the end. -/
theorem helloWorldMessages_succ (turns : Nat) :
    helloWorldMessages (turns + 1) =
      helloWorldMessages turns ++ [helloWorldMessage (turns + 1)] := by
  rw [helloWorldMessages, List.range_succ, List.map_append]
  rfl

/-- The loop after some turns. -/
structure WriterLoop.Turned (loop : WriterLoop σ) (turns : Nat) : Prop where
  /-- `index` counts the turns. -/
  index : loop.index = turns
  /-- It never left the range of an `int`. -/
  bounded : turns < 2 ^ 31
  /-- Only messages of these turns were reported, in order and once. -/
  sent : loop.sent.Sublist (helloWorldMessages turns)

/-- A turn that returned was one more. -/
theorem WriterLoop.Turned.step {dataWriter : Option Endpoint} {loop next : WriterLoop σ}
    {turns : Nat} {output : Option HelloWorldOne} (turned : loop.Turned turns)
    (stepped : WriterLoop.step api dataWriter loop () = .ok (output, next)) :
    next.Turned (turns + 1) ∧ next.sent = loop.sent ++ output.toList := by
  obtain ⟨room, endpoint, written, middleware, _, _, rfl, rfl⟩ := WriterLoop.step_ok.mp stepped
  rw [turned.index] at room ⊢
  refine ⟨⟨by push_cast; rfl, by omega, ?_⟩, rfl⟩
  rw [helloWorldMessages_succ]
  refine turned.sent.append ?_
  cases written with
  | false => exact List.nil_sublist _
  | true => exact List.Sublist.refl _

/-- With a data writer in place, a turn returns while `index` has room. -/
theorem WriterLoop.Turned.goes {endpoint : Endpoint} {data : DataEndpoint}
    (filled : endpoint.data = some data) {loop : WriterLoop σ} {turns : Nat}
    (turned : loop.Turned turns) (live : data ∈ (api.holdings loop.middleware).endpoints)
    (room : turns + 1 < 2 ^ 31) :
    ∃ output next, WriterLoop.step api (some endpoint) loop () = .ok (output, next) := by
  have wrote : writeMessage api loop.middleware endpoint (helloWorldMessage (loop.index + 1)) =
      .ok (api.write loop.middleware data (helloWorldMessage (loop.index + 1))) := by
    simp [writeMessage, filled, Pointer.ofOption, live, bind, Except.bind]
  have counted : loop.index + 1 < 2 ^ 31 := by
    rw [turned.index]
    omega
  exact ⟨_, _, WriterLoop.step_ok.mpr ⟨counted, endpoint, _, _, rfl, wrote, rfl, rfl⟩⟩

/-- A turn leaves the entities of the middleware alone. -/
theorem WriterLoop.step_held (contract : Contract api) {dataWriter : Option Endpoint}
    {loop next : WriterLoop σ} {output : Option HelloWorldOne}
    (stepped : WriterLoop.step api dataWriter loop () = .ok (output, next)) :
    api.holdings next.middleware = api.holdings loop.middleware := by
  obtain ⟨_, _, _, middleware, _, wrote, _, same⟩ := WriterLoop.step_ok.mp stepped
  rw [same]
  exact writeMessage_held contract wrote

/-- With a data writer in place, turns go on exactly as long as `index` has room, and leave the
entities of the middleware alone. -/
theorem WriterLoop.run_turns (contract : Contract api) {endpoint : Endpoint} {data : DataEndpoint}
    (filled : endpoint.data = some data) (turns : Nat) {loop : WriterLoop σ} {earlier : Nat}
    (turned : loop.Turned earlier) (live : data ∈ (api.holdings loop.middleware).endpoints) :
    (earlier + turns < 2 ^ 31 ↔
      ∃ final, run (WriterLoop.step api (some endpoint)) loop (List.replicate turns ()) =
        .ok final) ∧
    ∀ final, run (WriterLoop.step api (some endpoint)) loop (List.replicate turns ()) =
      .ok final → final.Turned (earlier + turns) ∧
        api.holdings final.middleware = api.holdings loop.middleware := by
  induction turns generalizing loop earlier with
  | zero =>
    refine ⟨iff_of_true turned.bounded ⟨loop, rfl⟩, fun final ran => ?_⟩
    obtain rfl := Except.ok.inj ran
    exact ⟨turned, rfl⟩
  | succ turns ih =>
    rw [List.replicate_succ]
    refine ⟨⟨fun room => ?_, fun finished => ?_⟩, fun final ran => ?_⟩
    · obtain ⟨output, next, stepped⟩ := turned.goes filled live (by omega)
      have held := WriterLoop.step_held contract stepped
      rw [Machine.run_cons _ stepped]
      exact (ih (turned.step stepped).1 (held ▸ live)).1.mp (by omega)
    · obtain ⟨final, ran⟩ := finished
      obtain ⟨output, next, stepped, rest⟩ := Machine.run_cons_ok ran
      have held := WriterLoop.step_held contract stepped
      have room := (ih (turned.step stepped).1 (held ▸ live)).1.mpr ⟨final, rest⟩
      omega
    · obtain ⟨output, next, stepped, rest⟩ := Machine.run_cons_ok ran
      have held := WriterLoop.step_held contract stepped
      obtain ⟨last, same⟩ := (ih (turned.step stepped).1 (held ▸ live)).2 final rest
      rw [Nat.add_assoc, Nat.add_comm 1] at last
      exact ⟨last, same.trans held⟩

/-- A turn that returned found a writer object with a data writer. -/
theorem WriterLoop.step_filled {dataWriter : Option Endpoint} {loop next : WriterLoop σ}
    {output : Option HelloWorldOne}
    (stepped : WriterLoop.step api dataWriter loop () = .ok (output, next)) :
    ∃ endpoint data, dataWriter = some endpoint ∧ endpoint.data = some data ∧
      data ∈ (api.holdings loop.middleware).endpoints := by
  obtain ⟨_, endpoint, written, middleware, made, wrote, _⟩ := WriterLoop.step_ok.mp stepped
  simp only [writeMessage, bind_ok, Pointer.deref_ok, Pointer.ofOption_eq_address] at wrote
  obtain ⟨data, ⟨filled, live⟩, _⟩ := wrote
  exact ⟨endpoint, data, made, filled, live⟩

/-! ## Whole programs -/

/-- The participant settings a program asks for. -/
def exampleQos (settings : DomainParticipantQos → Qos) (participantName : String)
    (listenPort : UInt16) (peerLocators : List String) : Qos :=
  settings (DDSTestHandler.createParticipantQos participantName listenPort peerLocators).getQos

/-- All that a written message needs is granted: the participant, the publisher, the type, the topic
and the data writer. The subscriber may be refused. -/
def GrantsWriter (api : Middleware σ Qos HelloWorldOne) (middleware : σ) (participantQos : Qos) :
    Prop :=
  ∃ participant subscriber publisher opened topic named data last,
    Opens api middleware 170 participantQos participant subscriber (some publisher) opened ∧
    GrantsTopic api opened participant ddsTopicHelloWorldOne ⟨0, "HelloWorldOne"⟩ topic named ∧
    api.createDatawriter named publisher topic api.dataWriterQosDefault 0 = (some data, last)

/-- The participant is granted, and the subscriber unless its topic is refused anyway. -/
def AllowsReader (api : Middleware σ Qos HelloWorldOne) (middleware : σ) (participantQos : Qos) :
    Prop :=
  ∃ participant subscriber publisher opened,
    Opens api middleware 170 participantQos participant subscriber publisher opened ∧
    ∀ topic named,
      GrantsTopic api opened participant ddsTopicHelloWorldOne ⟨0, "HelloWorldOne"⟩ topic named →
        subscriber ≠ none

/-- The test handler around its participant object. -/
def DDSTestHandler.holding (settings : DomainParticipantQos → Qos)
    (object : DDSDomainParticipant) : DDSParticipantManager Qos :=
  { DDSTestHandler.construct settings 170 with participant := some object }

/-- It makes a data type object for the first topic. -/
theorem DDSTestHandler.holding_typed (settings : DomainParticipantQos → Qos)
    (object : DDSDomainParticipant) :
    (DDSTestHandler.holding settings object).getTopicDataType ddsTopicHelloWorldOne 0 =
      some ⟨0, "HelloWorldOne"⟩ := rfl

/-- It is what the initialisation leaves. -/
theorem DDSTestHandler.initDomainParticipant_eq {settings : DomainParticipantQos → Qos}
    {middleware opened : σ} {object : DDSDomainParticipant} {participantName : String}
    {listenPort : UInt16} {peerLocators : List String}
    (built : DDSDomainParticipant.construct api middleware 170
      (exampleQos settings participantName listenPort peerLocators) = (object, opened)) :
    (DDSTestHandler.construct settings 170).initDomainParticipant api middleware participantName
      listenPort peerLocators = (true, DDSTestHandler.holding settings object, opened) := by
  have constructed : DDSDomainParticipant.construct api middleware
      (DDSTestHandler.construct settings 170).domainId
      ((DDSTestHandler.construct settings 170).createParticipantQos participantName listenPort
        peerLocators) = (object, opened) := built
  rw [DDSParticipantManager.initDomainParticipant, constructed]
  rfl

/-- How the writing program returns. -/
theorem runDdsDataWriter_ok {settings : DomainParticipantQos → Qos} {middleware opened last : σ}
    {object : DDSDomainParticipant} {turns : Nat} {sent : List HelloWorldOne}
    (built : DDSDomainParticipant.construct api middleware 170
      (exampleQos settings "test_writer" 10002 ["127.0.0.1:10001"]) = (object, opened)) :
    runDdsDataWriter api settings middleware turns = .ok (sent, last) ↔
      ∃ dataWriter world loop,
        (⟨.writer, ddsTopicHelloWorldOne⟩ : Request).method api
          (.start (DDSTestHandler.holding settings object) opened 0) = .ok (dataWriter, world) ∧
        run (WriterLoop.step api dataWriter) ⟨world.middleware, 0, []⟩
          (List.replicate turns ()) = .ok loop ∧
        world.manager.destruct api loop.middleware = .ok last ∧ loop.sent = sent := by
  simp only [runDdsDataWriter, DDSTestHandler.initDomainParticipant_eq built, bind_ok,
    mapError_ok, Except.ok.injEq, Prod.mk.injEq, Prod.exists]
  constructor
  · intro returned
    obtain ⟨dataWriter, world, created, loop, ran, middleware, destroyed, rfl, rfl⟩ := returned
    exact ⟨dataWriter, world, loop, created, ran, destroyed, rfl⟩
  · intro returned
    obtain ⟨dataWriter, world, loop, created, ran, destroyed, rfl⟩ := returned
    exact ⟨dataWriter, world, created, loop, ran, last, destroyed, rfl, rfl⟩

/-- How the reading program returns. -/
theorem runDdsDataReader_ok {settings : DomainParticipantQos → Qos} {middleware opened last : σ}
    {object : DDSDomainParticipant} {dataReader : Option Endpoint}
    (built : DDSDomainParticipant.construct api middleware 170
      (exampleQos settings "test_reader" 10001 ["127.0.0.1:10002"]) = (object, opened)) :
    runDdsDataReader api settings middleware = .ok (dataReader, last) ↔
      ∃ world, (⟨.reader, ddsTopicHelloWorldOne⟩ : Request).method api
          (.start (DDSTestHandler.holding settings object) opened 0) = .ok (dataReader, world) ∧
        world.manager.destruct api world.middleware = .ok last := by
  simp only [runDdsDataReader, DDSTestHandler.initDomainParticipant_eq built, bind_ok,
    mapError_ok, Except.ok.injEq, Prod.mk.injEq, Prod.exists]
  constructor
  · intro returned
    obtain ⟨_, world, created, _, destroyed, rfl, rfl⟩ := returned
    exact ⟨world, created, destroyed⟩
  · intro returned
    obtain ⟨world, created, destroyed⟩ := returned
    exact ⟨dataReader, world, created, last, destroyed, rfl, rfl⟩

/-- What a program whose creating call returned has been granted. -/
structure ProgramStart (api : Middleware σ Qos HelloWorldOne) (middleware : σ)
    (participantQos : Qos) (object : DDSDomainParticipant) (opened : σ) (kind : EndpointKind)
    (result : Option Endpoint) (next : ManagerWorld σ Qos) (participant : DomainParticipant)
    (subscriber publisher : Option Group) : Prop where
  /-- The three creations of the constructor. -/
  opens : Opens api middleware 170 participantQos participant subscriber publisher opened
  /-- The object they are stored in. -/
  stored : object = ⟨some participant, .ofOption subscriber, .ofOption publisher, ∅⟩
  /-- How the creating call ended. -/
  creation : FirstCreation api opened participant object ⟨kind, ddsTopicHelloWorldOne⟩
    ⟨0, "HelloWorldOne"⟩ result
  /-- What it left. -/
  left : FirstWorld api middleware participant result next

/-- A creating call on a new test handler that returns was granted this much. -/
theorem DDSTestHandler.start (contract : Contract api) {settings : DomainParticipantQos → Qos}
    {middleware opened : σ} {participantQos : Qos} {object : DDSDomainParticipant}
    {kind : EndpointKind} {result : Option Endpoint} {next : ManagerWorld σ Qos}
    (built : DDSDomainParticipant.construct api middleware 170 participantQos = (object, opened))
    (returned : (⟨kind, ddsTopicHelloWorldOne⟩ : Request).method api
      (.start (DDSTestHandler.holding settings object) opened 0) = .ok (result, next)) :
    ∃ participant subscriber publisher, ProgramStart api middleware participantQos object opened
      kind result next participant subscriber publisher := by
  have typed := DDSTestHandler.holding_typed settings object
  rcases construct_cases contract built with ⟨missing, same, _⟩ | ⟨participant, made⟩
  · have empty : object.mapTopics = ∅ := by rw [same]
    obtain ⟨participant, owner⟩ := first_owner rfl empty typed returned
    cases missing.symm.trans owner
  · obtain ⟨subscriber, publisher, opens, stored⟩ := (construct_opens made.owner).mp built
    have creation := first_creation rfl made.owner made.empty typed returned
    obtain ⟨world, again, left⟩ := creation.returns contract made rfl typed
    obtain ⟨_, rfl⟩ := Prod.mk.inj (Except.ok.inj (returned.symm.trans again))
    exact ⟨participant, subscriber, publisher, opens, stored, creation, left⟩

/-- The handler's destructor returns. -/
theorem FirstWorld.destructs {middleware : σ} {participant : DomainParticipant}
    {result : Option Endpoint} {next : ManagerWorld σ Qos}
    (left : FirstWorld api middleware participant result next) {later : σ}
    (held : api.holdings later = api.holdings next.middleware) :
    next.manager.destruct api later = .ok (api.deleteParticipant later participant).2 := by
  obtain ⟨object, present, owner⟩ := left.owner
  have alive : participant ∈ (api.holdings later).participants := held ▸ left.alive
  rw [DDSParticipantManager.destruct, present]
  simp only [DDSDomainParticipant.destruct, owner, alive, ↓reduceIte]

/-- It deletes nothing while the participant's data endpoint exists. -/
theorem FirstWorld.destruct_refused (contract : Contract api) {middleware : σ}
    {participant : DomainParticipant} {endpoint : Endpoint} {data : DataEndpoint}
    {next : ManagerWorld σ Qos}
    (left : FirstWorld api middleware participant (some endpoint) next)
    (filled : endpoint.data = some data) {later : σ}
    (held : api.holdings later = api.holdings next.middleware) :
    api.holdings (api.deleteParticipant later participant).2 = api.holdings later := by
  obtain ⟨_, live, belongs⟩ := left.created endpoint data rfl filled
  have promised := contract.deleteParticipant later participant
  rcases answered : api.deleteParticipant later participant with ⟨_ | errcode, last⟩
  · simp only [answered] at promised
    refine absurd ?_ promised.1
    exact .inr (.inr ⟨data, held ▸ live, .inl belongs⟩)
  · simp only [answered] at promised
    exact promised

/-- The loop before its first turn. -/
theorem WriterLoop.turned_start (middleware : σ) :
    (⟨middleware, 0, []⟩ : WriterLoop σ).Turned 0 :=
  ⟨rfl, Nat.two_pow_pos 31, List.nil_sublist _⟩

/-- A writing program that finished at least one turn was granted its data writer. -/
theorem ProgramStart.granted {middleware opened : σ} {participantQos : Qos}
    {object : DDSDomainParticipant} {result : Option Endpoint} {next : ManagerWorld σ Qos}
    {participant : DomainParticipant} {subscriber publisher : Option Group}
    (started : ProgramStart api middleware participantQos object opened .writer result next
      participant subscriber publisher) {loop final : WriterLoop σ} {turns : Nat}
    (ran : run (WriterLoop.step api result) loop (List.replicate (turns + 1) ()) = .ok final) :
    GrantsWriter api middleware participantQos ∧
      ∃ endpoint data, result = some endpoint ∧ endpoint.data = some data := by
  obtain ⟨output, middle, stepped, _⟩ := Machine.run_cons_ok ran
  obtain ⟨endpoint, data, same, filled, _⟩ := WriterLoop.step_filled stepped
  refine ⟨?_, endpoint, data, same, filled⟩
  cases started.creation with
  | refused never => cases same
  | made topic named last group recorded granted source answered =>
    obtain rfl := Option.some.inj same
    obtain rfl : recorded = some data := filled
    rw [started.stored] at source
    obtain rfl := Pointer.ofOption_eq_address.mp source
    exact ⟨participant, subscriber, group, opened, topic, named, data, last, started.opens, granted,
      answered⟩

/-- Where the data writer is granted, the creating call of the writing program returns it. -/
theorem GrantsWriter.start (contract : Contract api) {settings : DomainParticipantQos → Qos}
    {middleware : σ} {participantQos : Qos}
    (granted : GrantsWriter api middleware participantQos) :
    ∃ object opened participant endpoint data world,
      DDSDomainParticipant.construct api middleware 170 participantQos = (object, opened) ∧
      (⟨.writer, ddsTopicHelloWorldOne⟩ : Request).method api
        (.start (DDSTestHandler.holding settings object) opened 0) = .ok (some endpoint, world) ∧
      endpoint.data = some data ∧
      FirstWorld api middleware participant (some endpoint) world := by
  obtain ⟨participant, subscriber, publisher, opened, topic, named, data, last, opens, topical,
    answered⟩ := granted
  have built := (construct_opens rfl).mpr ⟨subscriber, some publisher, opens, rfl⟩
  rcases construct_cases contract built with ⟨missing, _, _⟩ | ⟨source, made⟩
  · cases missing
  · obtain rfl := Option.some.inj made.owner
    have outcome : FirstCreation api opened participant
        ⟨some participant, .ofOption subscriber, .address publisher, ∅⟩
        ⟨.writer, ddsTopicHelloWorldOne⟩ ⟨0, "HelloWorldOne"⟩
        (some ⟨.writer, 0, ddsTopicHelloWorldOne, publisher, some data⟩) :=
      .made topic named last publisher (some data) topical rfl answered
    obtain ⟨world, returned, left⟩ := outcome.returns contract made rfl
      (DDSTestHandler.holding_typed settings _)
    exact ⟨_, opened, participant, _, data, world, built, returned, rfl, left⟩

/-- With its data writer granted, the writing program goes through any turns that `index` has room
for. -/
theorem GrantsWriter.finishes (contract : Contract api) {settings : DomainParticipantQos → Qos}
    {middleware : σ} (granted : GrantsWriter api middleware
      (exampleQos settings "test_writer" 10002 ["127.0.0.1:10001"])) {turns : Nat}
    (room : turns < 2 ^ 31) :
    ∃ sent last, runDdsDataWriter api settings middleware turns = .ok (sent, last) := by
  obtain ⟨object, opened, participant, endpoint, data, world, built, created, filled, left⟩ :=
    granted.start contract
  obtain ⟨_, live, _⟩ := left.created endpoint data rfl filled
  obtain ⟨goes, ended⟩ := WriterLoop.run_turns contract filled turns
    (WriterLoop.turned_start world.middleware) live
  obtain ⟨loop, ran⟩ := goes.mp (by rwa [Nat.zero_add])
  exact ⟨loop.sent, _, (runDdsDataWriter_ok built).mpr ⟨some endpoint, world, loop, created, ran,
    left.destructs (ended loop ran).2, rfl⟩⟩

/-- A writing program that went through a turn was granted its data writer and had room for all its
turns. It reported messages of these turns, and its participant and data writer outlive the
handler. -/
theorem runDdsDataWriter_finished (contract : Contract api)
    {settings : DomainParticipantQos → Qos} {middleware last : σ} {turns : Nat}
    {sent : List HelloWorldOne}
    (returned : runDdsDataWriter api settings middleware (turns + 1) = .ok (sent, last)) :
    GrantsWriter api middleware
      (exampleQos settings "test_writer" 10002 ["127.0.0.1:10001"]) ∧ turns + 1 < 2 ^ 31 ∧
    sent.Sublist (helloWorldMessages (turns + 1)) ∧
    ∃ data ∈ (api.holdings last).endpoints, data ∉ (api.holdings middleware).endpoints ∧
      data.group.participant ∈ (api.holdings last).participants := by
  rcases built : DDSDomainParticipant.construct api middleware 170
    (exampleQos settings "test_writer" 10002 ["127.0.0.1:10001"]) with ⟨object, opened⟩
  obtain ⟨dataWriter, world, loop, created, ran, destroyed, rfl⟩ :=
    (runDdsDataWriter_ok built).mp returned
  obtain ⟨participant, subscriber, publisher, started⟩ :=
    DDSTestHandler.start contract built created
  obtain ⟨granted, endpoint, data, rfl, filled⟩ := started.granted ran
  have left := started.left
  obtain ⟨new, live, belongs⟩ := left.created endpoint data rfl filled
  obtain ⟨_, ended⟩ := WriterLoop.run_turns contract filled (turns + 1)
    (WriterLoop.turned_start world.middleware) live
  obtain ⟨turned, held⟩ := ended loop ran
  rw [Nat.zero_add] at turned
  -- The destructor's `delete_participant` is refused for the sake of the data writer.
  obtain rfl := Except.ok.inj ((left.destructs held).symm.trans destroyed)
  have kept := (left.destruct_refused contract filled held).trans held
  refine ⟨granted, turned.bounded, turned.sent, data, ?_, new, ?_⟩
  · rw [kept]
    exact live
  · rw [kept, belongs]
    exact left.alive

/-- Apart from the unsynchronised `runFlag`, the writing program finishes some turns without
undefined behaviour exactly when its data writer is granted and `index` never leaves the range of an
`int`. It then reported messages of these turns only, each at most once and in order, and its
handler's destructor has left the participant and the data writer behind. -/
theorem runDdsDataWriter_finishes_iff (contract : Contract api)
    (settings : DomainParticipantQos → Qos) (middleware : σ) (turns : Nat) (turning : 0 < turns) :
    ((∃ sent last, runDdsDataWriter api settings middleware turns = .ok (sent, last)) ↔
      turns < 2 ^ 31 ∧ GrantsWriter api middleware
        (exampleQos settings "test_writer" 10002 ["127.0.0.1:10001"])) ∧
    ∀ sent last, runDdsDataWriter api settings middleware turns = .ok (sent, last) →
      sent.Sublist (helloWorldMessages turns) ∧
      ∃ data ∈ (api.holdings last).endpoints, data ∉ (api.holdings middleware).endpoints ∧
        data.group.participant ∈ (api.holdings last).participants := by
  obtain ⟨later, rfl⟩ := Nat.exists_eq_succ_of_ne_zero (Nat.pos_iff_ne_zero.mp turning)
  refine ⟨⟨fun finishes => ?_, fun allowed => ?_⟩, fun sent last returned => ?_⟩
  · obtain ⟨sent, last, returned⟩ := finishes
    obtain ⟨granted, room, _⟩ := runDdsDataWriter_finished contract returned
    exact ⟨room, granted⟩
  · obtain ⟨room, granted⟩ := allowed
    exact granted.finishes contract room
  · exact (runDdsDataWriter_finished contract returned).2.2

/-- A middleware that refuses the subscriber and every second message. -/
def choosyMiddleware : Middleware Reference Unit HelloWorldOne :=
  (reference true).accepting HelloWorldOne fun _ message => message.index.getLsbD 0

/-- Three turns finish on it, and report at most their three messages. -/
theorem runDdsDataWriter_finishes_iff_choosy :
    ∃ sent last, runDdsDataWriter choosyMiddleware (fun _ => ()) (Reference.fresh [false, true])
        3 = .ok (sent, last) ∧
      sent = [helloWorldMessage 1, helloWorldMessage 3] ∧
      sent.Sublist (helloWorldMessages 3) := by
  have granted : GrantsWriter choosyMiddleware (Reference.fresh [false, true]) () :=
    ⟨_, none, _, _, _, _, _, _, ⟨_, _, rfl, rfl, rfl⟩, ⟨_, _, rfl, rfl⟩, rfl⟩
  obtain ⟨finishes, reported⟩ := runDdsDataWriter_finishes_iff
    ((reference_contract true).accepting HelloWorldOne _) (fun _ => ())
    (Reference.fresh [false, true]) 3 (by decide)
  obtain ⟨sent, last, returned⟩ := finishes.mpr ⟨by decide, granted⟩
  have shown : (runDdsDataWriter choosyMiddleware (fun _ => ()) (Reference.fresh [false, true])
      3).map Prod.fst = .ok [helloWorldMessage 1, helloWorldMessage 3] := by decide
  refine ⟨sent, last, returned, ?_, (reported sent last returned).1⟩
  rw [show runDdsDataWriter choosyMiddleware _ _ 3 = _ from returned] at shown
  exact Except.ok.inj shown

/-- The reading program returns exactly when it gets its participant and, where the topic is
granted, its subscriber. -/
theorem runDdsDataReader_returns_iff (contract : Contract api)
    (settings : DomainParticipantQos → Qos) (middleware : σ) :
    (∃ dataReader last, runDdsDataReader api settings middleware = .ok (dataReader, last)) ↔
      AllowsReader api middleware
        (exampleQos settings "test_reader" 10001 ["127.0.0.1:10002"]) := by
  constructor
  · intro returned
    obtain ⟨dataReader, last, returned⟩ := returned
    rcases built : DDSDomainParticipant.construct api middleware 170
      (exampleQos settings "test_reader" 10001 ["127.0.0.1:10002"]) with ⟨object, opened⟩
    obtain ⟨world, created, _⟩ := (runDdsDataReader_ok built).mp returned
    obtain ⟨participant, subscriber, publisher, started⟩ :=
      DDSTestHandler.start contract built created
    refine ⟨participant, subscriber, publisher, opened, started.opens, ?_⟩
    intro topic named granted
    cases started.creation with
    | refused never => exact absurd granted (never topic named)
    | made _ _ _ group _ _ source _ =>
      rw [started.stored] at source
      rw [Pointer.ofOption_eq_address.mp source]
      exact Option.some_ne_none group
  · intro allowed
    obtain ⟨participant, subscriber, publisher, opened, opens, subscribed⟩ := allowed
    have built := (construct_opens rfl).mpr ⟨subscriber, publisher, opens, rfl⟩
    rcases construct_cases contract built with ⟨missing, _, _⟩ | ⟨source, made⟩
    · cases missing
    obtain rfl := Option.some.inj made.owner
    have outcome : ∃ result, FirstCreation api opened participant
        ⟨some participant, .ofOption subscriber, .ofOption publisher, ∅⟩
        ⟨.reader, ddsTopicHelloWorldOne⟩ ⟨0, "HelloWorldOne"⟩ result := by
      by_cases granted : ∃ topic named, GrantsTopic api opened participant ddsTopicHelloWorldOne
        ⟨0, "HelloWorldOne"⟩ topic named
      · obtain ⟨topic, named, granted⟩ := granted
        obtain ⟨group, rfl⟩ := Option.ne_none_iff_exists'.mp (subscribed topic named granted)
        exact ⟨_, .made topic named _ group _ granted rfl rfl⟩
      · exact ⟨none, .refused fun topic named here => granted ⟨topic, named, here⟩⟩
    obtain ⟨result, outcome⟩ := outcome
    obtain ⟨world, returned, left⟩ := outcome.returns contract made rfl
      (DDSTestHandler.holding_typed settings _)
    exact ⟨result, _, (runDdsDataReader_ok built).mpr ⟨world, returned, left.destructs rfl⟩⟩

end FastDdsWrapper
