import Mathlib.Data.List.ReduceOption
import FastDdsWrapper.PeerLocators

/-!
# What a handler does with any texts

The handler reads its peers with positions that are `int`s and checks nothing. For texts and lists
an `int` can count, all of it comes down to cutting each entry at its first colon: `TcpReading` says
what an entry then asks for, without positions. A whole run of calls reads every entry so, in
order, and differs from the constructor's settings in nothing but the peers and transports asked
for. Its behaviour is undefined exactly where some port number does not fit the `int` that `atoi`
returns.
-/

namespace FastDdsWrapper

open DecimalText (signedNumber)
open Machine (run)

variable {setIPv4 : Locator → Text → Bool × Locator}

/-- The parts before and after the first colon. -/
def cutAtColon : Text → Option (Text × Text)
  | [] => none
  | char :: rest =>
    if char = ':' then some ([], rest)
    else (cutAtColon rest).map fun parts => (char :: parts.1, parts.2)

/-- What an entry for `addTCPV4Transport` asks for. -/
def TcpReading (setIPv4 : Locator → Text → Bool × Locator) (entry : Text) :
    Except QosFault (Option Locator) :=
  match cutAtColon entry with
  | none => .ok none
  | some (address, port) => do
    let number ← atoi port
    .ok (some { (setIPv4 { Locator.new with kind := .tcpv4 } address).2 with
      port := BitVec.ofInt 32 number })

namespace QosCall

/-- An `int` can count its entries, and the characters of each. -/
def Short : QosCall → Prop
  | .addTCPV4Transport _ entries =>
    entries.length < 2 ^ 31 ∧ ∀ entry ∈ entries, entry.length < 2 ^ 31
  | .addUDPV4Transport _ entries => entries.length < 2 ^ 31
  | .addSHMTransport _ | .addTCPV6Transport | .addUDPV6Transport _ => True

/-- The peers it asks for, in order. -/
def peers (setIPv4 : Locator → Text → Bool × Locator) : QosCall → Except QosFault (List Locator)
  | .addTCPV4Transport _ entries => do
    let peers ← entries.mapM (TcpReading setIPv4)
    .ok peers.reduceOption
  | .addUDPV4Transport _ entries => .ok (entries.map fun entry => (setIPv4 Locator.new entry).2)
  | .addSHMTransport _ | .addTCPV6Transport | .addUDPV6Transport _ => .ok []

/-- The transports it asks for: one, or none for `addTCPV6Transport`. -/
def transports : QosCall → List TransportDescriptor
  | .addSHMTransport segmentSize => [.sharedMem segmentSize]
  | .addTCPV4Transport listenPort _ => [.tcpv4 (if listenPort ≠ 0 then [listenPort] else [])]
  | .addTCPV6Transport => []
  | .addUDPV4Transport bufferSize _ => [.udpv4 bufferSize bufferSize true]
  | .addUDPV6Transport bufferSize => [.udpv6 bufferSize bufferSize true]

end QosCall

/-- The number after its first colon, if it has one, fits an `int`. -/
def Representable (entry : Text) : Prop :=
  ∀ address port, cutAtColon entry = some (address, port) →
    -2 ^ 31 ≤ signedNumber port ∧ signedNumber port < 2 ^ 31

/-! ## One entry -/

/-- A text is cut at its first colon, if it has one. -/
theorem cutAtColon_cases (text : Text) :
    match cutAtColon text with
    | none => ':' ∉ text
    | some (early, late) => text = early ++ ':' :: late ∧ ':' ∉ early := by
  induction text with
  | nil => exact List.not_mem_nil
  | cons char rest ih =>
    by_cases colon : char = ':'
    · simp [cutAtColon, colon]
    · have apart : ¬ ':' = char := fun same => colon same.symm
      cases cut : cutAtColon rest with
      | none =>
        simp only [cut] at ih
        simp [cutAtColon, colon, cut, apart, ih]
      | some parts =>
        simp only [cut] at ih
        obtain ⟨same, absent⟩ := ih
        simp [cutAtColon, colon, cut, apart, ← same, absent]

/-- For a short entry the loop body reads what the entry asks for. -/
theorem tcpPeerLocator_short {entry : Text} (short : entry.length < 2 ^ 31) :
    tcpPeerLocator setIPv4 entry = TcpReading setIPv4 entry := by
  have cases := cutAtColon_cases entry
  cases cut : cutAtColon entry with
  | none =>
    simp only [cut] at cases
    have skipped : Skipped entry := by
      rw [Skipped, find_absent cases]
      rfl
    rw [tcpPeerLocator_none.mpr skipped]
    simp only [TcpReading, cut]
  | some parts =>
    obtain ⟨address, port⟩ := parts
    simp only [cut] at cases
    obtain ⟨rfl, absent⟩ := cases
    rw [List.length_append, List.length_cons] at short
    have position : toInt (find (address ++ ':' :: port) ':') = address.length := by
      rw [find_first absent]
      exact toInt_small (by omega)
    have size : toSize (address.length : Int) = address.length := toSize_natCast (by omega)
    have apart : address.length ≠ npos := by
      unfold npos
      omega
    have next : increment (address.length : Int) = .ok ((address.length + 1 : Nat) : Int) := by
      rw [increment, if_pos (by omega)]
      rfl
    have after : toSize ((address.length + 1 : Nat) : Int) = address.length + 1 :=
      toSize_natCast (by omega)
    simp only [tcpPeerLocator, TcpReading, cut, position, size, apart, ↓reduceIte,
      substr_before address _ (by omega), next, after, substr_after, bind, Except.bind]

/-- An entry can be read exactly when its number is representable. -/
theorem TcpReading_ok {entry : Text} :
    (∃ peer, TcpReading setIPv4 entry = .ok peer) ↔ Representable entry := by
  cases cut : cutAtColon entry with
  | none => simp [TcpReading, Representable, cut]
  | some parts =>
    obtain ⟨address, port⟩ := parts
    by_cases fits : -2 ^ 31 ≤ signedNumber port ∧ signedNumber port < 2 ^ 31
    · have known : atoi port = .ok (signedNumber port) := if_pos fits
      refine iff_of_true ?_ ?_
      · simp only [TcpReading, cut, known]
        exact ⟨_, rfl⟩
      · intro _ _ same
        obtain ⟨rfl, rfl⟩ := Prod.mk.inj (Option.some.inj (cut.symm.trans same))
        exact fits
    · have unknown : atoi port = .error .undefined := if_neg fits
      refine iff_of_false ?_ fun representable => fits (representable address port cut)
      simp only [TcpReading, cut, unknown]
      rintro ⟨peer, returned⟩
      cases returned

/-- A list can be read exactly when each of its members can. -/
theorem mapM_ok_iff {Item Gain : Type} {read : Item → Except QosFault Gain} {items : List Item} :
    (∃ gains, items.mapM read = .ok gains) ↔ ∀ item ∈ items, ∃ gain, read item = .ok gain := by
  induction items with
  | nil => simp [pure, Except.pure]
  | cons item items ih =>
    rw [List.forall_mem_cons, ← ih, List.mapM_cons]
    cases read item with
    | error fault => simp [bind, Except.bind]
    | ok gain =>
      cases items.mapM read with
      | error fault => simp [bind, Except.bind]
      | ok gains => simp [bind, Except.bind, pure, Except.pure]

/-! ## One loop -/

/-- The handler with more peers. -/
def ParticipantQosHandler.withPeers (handler : ParticipantQosHandler) (peers : List Locator) :
    ParticipantQosHandler :=
  { handler with
    participantQos.initialPeersList := handler.participantQos.initialPeersList ++ peers }

/-- The handler with more transports. -/
def ParticipantQosHandler.withTransports (handler : ParticipantQosHandler)
    (transports : List TransportDescriptor) : ParticipantQosHandler :=
  { handler with
    participantQos.userTransports := handler.participantQos.userTransports ++ transports }

/-- Where every item yields something nothing is dropped. -/
theorem reduceOption_map_some {α β : Type} (image : α → β) (items : List α) :
    (items.map fun item => some (image item)).reduceOption = items.map image := by
  induction items with
  | nil => rfl
  | cons item items ih => rw [List.map_cons, List.reduceOption_cons_of_some, ih, List.map_cons]

/-- A loop over few entries reads them one by one and appends what it reads. -/
theorem PeerLoop.run_mapM {body read : Text → Except QosFault (Option Locator)}
    {entries : List Text} (reads : ∀ entry ∈ entries, body entry = read entry) (loop : PeerLoop)
    (few : loop.i + entries.length < 2 ^ 31) :
    run (PeerLoop.step body) loop entries = (entries.mapM read).map fun peers =>
      ⟨loop.handler.withPeers peers.reduceOption, loop.i + entries.length⟩ := by
  induction entries generalizing loop with
  | nil =>
    simp [ParticipantQosHandler.withPeers, Except.map, pure, Except.pure]
  | cons entry entries ih =>
    rw [List.length_cons] at few
    have counted : loop.i + 1 < 2 ^ 31 := by omega
    obtain ⟨first, others⟩ := List.forall_mem_cons.mp reads
    rw [List.mapM_cons]
    cases seen : read entry with
    | error fault => simp [run, PeerLoop.step, first, seen, bind, Except.bind, Except.map]
    | ok peer =>
      have stepped : PeerLoop.step body loop entry =
          .ok ((), ⟨loop.handler.pushPeer peer, loop.i + 1⟩) := by
        simp only [PeerLoop.step, first, seen, counted, ↓reduceIte, bind, Except.bind]
      rw [Machine.run_cons _ stepped, ih others _ (by simp only; omega)]
      cases rest : entries.mapM read with
      | error fault => simp [bind, Except.bind, Except.map]
      | ok peers =>
        have counts : loop.i + 1 + entries.length = loop.i + (entries.length + 1) := by omega
        have appended : (loop.handler.pushPeer peer).withPeers peers.reduceOption =
            loop.handler.withPeers (peer :: peers).reduceOption := by
          cases peer <;> simp [ParticipantQosHandler.withPeers, ParticipantQosHandler.pushPeer]
        simp [bind, Except.bind, Except.map, pure, Except.pure, counts, appended]

/-! ## One call -/

/-- A short call appends the peers and the transports it asks for, or is undefined where reading it
is. -/
theorem QosCall.step_short {call : QosCall} (short : call.Short) (handler : ParticipantQosHandler) :
    ParticipantQosHandler.step setIPv4 handler call = (call.peers setIPv4).map fun peers =>
      ((), (handler.withPeers peers).withTransports call.transports) := by
  cases call with
  | addSHMTransport segmentSize =>
    simp [ParticipantQosHandler.step, QosCall.peers, Except.map, ParticipantQosHandler.withPeers,
      QosCall.transports, ParticipantQosHandler.addSHMTransport,
      ParticipantQosHandler.pushTransport, ParticipantQosHandler.withTransports]
  | addTCPV4Transport listenPort entries =>
    obtain ⟨few, all⟩ := short
    have reads : ∀ entry ∈ entries, tcpPeerLocator setIPv4 entry = TcpReading setIPv4 entry :=
      fun entry member => tcpPeerLocator_short (all entry member)
    have looped := PeerLoop.run_mapM reads ⟨handler, 0⟩ (by simpa using few)
    simp only [ParticipantQosHandler.step, ParticipantQosHandler.addTCPV4Transport, looped,
      QosCall.peers]
    cases entries.mapM (TcpReading setIPv4) with
    | error fault => rfl
    | ok peers => rfl
  | addTCPV6Transport =>
    simp [ParticipantQosHandler.step, QosCall.peers, Except.map, ParticipantQosHandler.withPeers,
      QosCall.transports, ParticipantQosHandler.addTCPV6Transport,
      ParticipantQosHandler.withTransports]
  | addUDPV4Transport bufferSize entries =>
    have reads : ∀ entry ∈ entries, udpPeerLocator setIPv4 entry = udpPeerLocator setIPv4 entry :=
      fun _ _ => rfl
    have looped := PeerLoop.run_mapM reads ⟨handler, 0⟩ (by simpa [QosCall.Short] using short)
    have read : entries.mapM (udpPeerLocator setIPv4) =
        .ok (entries.map fun entry => some (setIPv4 Locator.new entry).2) := List.mapM_pure
    simp only [ParticipantQosHandler.step, ParticipantQosHandler.addUDPV4Transport, looped, read,
      QosCall.peers]
    simp [bind, Except.bind, Except.map, QosCall.transports, reduceOption_map_some,
      ParticipantQosHandler.pushTransport, ParticipantQosHandler.withTransports]
  | addUDPV6Transport bufferSize =>
    simp [ParticipantQosHandler.step, QosCall.peers, Except.map, ParticipantQosHandler.withPeers,
      QosCall.transports, ParticipantQosHandler.addUDPV6Transport,
      ParticipantQosHandler.pushTransport, ParticipantQosHandler.withTransports]

/-! ## Any run -/

/-- Short calls one after the other append what they ask for, or are undefined where reading them
is. -/
theorem QosCall.run_short {calls : List QosCall} (short : ∀ call ∈ calls, call.Short)
    (handler : ParticipantQosHandler) :
    run (ParticipantQosHandler.step setIPv4) handler calls =
      (calls.mapM (QosCall.peers setIPv4)).map fun peers =>
        ⟨{ handler.getQos with
          initialPeersList := handler.getQos.initialPeersList ++ peers.flatten
          userTransports :=
            handler.getQos.userTransports ++ calls.flatMap QosCall.transports }⟩ := by
  induction calls generalizing handler with
  | nil => simp [ParticipantQosHandler.getQos, Except.map, pure, Except.pure]
  | cons call calls ih =>
    obtain ⟨first, rest⟩ := List.forall_mem_cons.mp short
    have stepped : ParticipantQosHandler.step setIPv4 handler call = _ :=
      QosCall.step_short first handler
    rw [List.mapM_cons]
    cases read : call.peers setIPv4 with
    | error fault =>
      rw [read] at stepped
      simp [run, stepped, bind, Except.bind, Except.map]
    | ok peers =>
      rw [read] at stepped
      rw [Machine.run_cons _ stepped, ih rest]
      cases calls.mapM (QosCall.peers setIPv4) with
      | error fault => simp [bind, Except.bind, Except.map]
      | ok later =>
        simp [bind, Except.bind, Except.map, pure, Except.pure, ParticipantQosHandler.withPeers,
          ParticipantQosHandler.withTransports, ParticipantQosHandler.getQos]

/-- A call can be read exactly when the entries it has for TCP over IPv4 can. -/
theorem QosCall.peers_ok {call : QosCall} : (∃ peers, call.peers setIPv4 = .ok peers) ↔
    ∀ listenPort entries, call = .addTCPV4Transport listenPort entries →
      ∀ entry ∈ entries, Representable entry := by
  cases call with
  | addSHMTransport segmentSize => simp [QosCall.peers]
  | addTCPV4Transport listenPort entries =>
    have all : (∃ gains, entries.mapM (TcpReading setIPv4) = .ok gains) ↔
        ∀ entry ∈ entries, Representable entry := by
      rw [mapM_ok_iff]
      exact forall₂_congr fun entry _ => TcpReading_ok
    simp only [QosCall.peers, Machine.bind_ok, Except.ok.injEq]
    constructor
    · rintro ⟨_, gains, read, _⟩ _ _ same
      obtain ⟨rfl, rfl⟩ := QosCall.addTCPV4Transport.inj same
      exact all.mp ⟨gains, read⟩
    · intro representable
      obtain ⟨gains, read⟩ := all.mpr (representable listenPort entries rfl)
      exact ⟨_, gains, read, rfl⟩
  | addTCPV6Transport => simp [QosCall.peers]
  | addUDPV4Transport bufferSize entries => simp [QosCall.peers]
  | addUDPV6Transport bufferSize => simp [QosCall.peers]

/-- On a new handler, any calls whose lists and texts an `int` can count leave the constructor's
settings with exactly the peers their entries ask for and one transport for each call but
`addTCPV6Transport`, in order. Their behaviour is defined exactly when every number after the first
colon of a TCP entry fits an `int`: on others the result of `atoi` is undefined. -/
theorem handler_reads (setIPv4 : Locator → Text → Bool × Locator) (participantName : Text)
    (calls : List QosCall) (short : ∀ call ∈ calls, call.Short) :
    run (ParticipantQosHandler.step setIPv4) (.construct participantName) calls =
        (calls.mapM (QosCall.peers setIPv4)).map (fun peers =>
          ⟨{ (ParticipantQosHandler.construct participantName).getQos with
            initialPeersList := peers.flatten
            userTransports := calls.flatMap QosCall.transports }⟩) ∧
      ((∃ final, run (ParticipantQosHandler.step setIPv4) (.construct participantName) calls =
          .ok final) ↔
        ∀ listenPort entries, QosCall.addTCPV4Transport listenPort entries ∈ calls →
          ∀ entry ∈ entries, Representable entry) := by
  have ran : run (ParticipantQosHandler.step setIPv4) (.construct participantName) calls = _ :=
    QosCall.run_short short (.construct participantName)
  refine ⟨ran, ?_⟩
  have finishes : (∃ final, run (ParticipantQosHandler.step setIPv4)
      (.construct participantName) calls = .ok final) ↔
      ∃ peers, calls.mapM (QosCall.peers setIPv4) = .ok peers := by
    rw [ran]
    cases calls.mapM (QosCall.peers setIPv4) <;> simp [Except.map]
  rw [finishes, mapM_ok_iff]
  constructor
  · intro all listenPort entries member
    exact QosCall.peers_ok.mp (all _ member) listenPort entries rfl
  · intro all call member
    refine QosCall.peers_ok.mpr ?_
    rintro listenPort entries rfl
    exact all listenPort entries member

/-- Entries as a careless caller may give them, and a call of each kind. -/
def carelessCalls : List QosCall :=
  [.addTCPV4Transport 0 ["10.0.0.1:abc".toList, "name".toList, ":5".toList, "1.2.3.4:-1:7".toList],
    .addSHMTransport 1024, .addTCPV6Transport, .addUDPV4Transport 65536 ["10.0.0.2:9".toList],
    .addUDPV6Transport 65536]

/-- Every entry with a colon gives a peer, most of them with no address or no port, and
`addTCPV6Transport` gives nothing. A port of 2^31 makes the call undefined. -/
theorem handler_reads_careless :
    run (ParticipantQosHandler.step setQuad) namelessHandler carelessCalls =
      .ok ⟨{ namelessHandler.getQos with
        initialPeersList := [⟨.tcpv4, 0, ⟨10, 0, 0, 1⟩⟩, ⟨.tcpv4, 5, .zero⟩,
          ⟨.tcpv4, 4294967295, ⟨1, 2, 3, 4⟩⟩, ⟨.udpv4, 0, .zero⟩]
        userTransports := [.tcpv4 [], .sharedMem 1024, .udpv4 65536 65536 true,
          .udpv6 65536 65536 true] }⟩ ∧
    ¬ ∃ final, run (ParticipantQosHandler.step setQuad) namelessHandler
      [.addTCPV4Transport 0 ["1.2.3.4:2147483648".toList]] = .ok final := by
  constructor
  · have short : ∀ call ∈ carelessCalls, call.Short := by
      simp [carelessCalls, QosCall.Short]
    rw [namelessHandler, (handler_reads setQuad [] carelessCalls short).1]
    decide
  · have short : ∀ call ∈ [QosCall.addTCPV4Transport 0 ["1.2.3.4:2147483648".toList]],
        call.Short := by
      simp [QosCall.Short]
    rw [namelessHandler, (handler_reads setQuad [] _ short).2]
    intro representable
    have fits := representable 0 _ (.head _) _ (.head _) "1.2.3.4".toList "2147483648".toList
      (by decide)
    exact absurd fits.2 (by decide)

end FastDdsWrapper
