import Mathlib.Algebra.Group.Int.Defs
import Mathlib.Algebra.Group.Nat.Defs
import FastDdsWrapper.DecimalText
import FastDdsWrapper.Machine

/-!
# The participant's transports and initial peers

`ParticipantQosHandler` fills in a `DomainParticipantQos`: each adding method but
`addTCPV6Transport`, which does nothing, appends one transport descriptor, and the two for IPv4 also
append a locator for each peer they are given as text. The peers are read in a loop whose counter
and positions are `int`s next to sizes of 64 bits, so the conversions between them are part of the
model. `IPLocator::setIPv4` belongs to Fast DDS and is a parameter.
-/

namespace FastDdsWrapper

open DecimalText (Quad readQuad signedNumber)

/-- The characters of a `std::string`. -/
abbrev Text := List Char

/-- Why a method of the handler has no defined return. -/
inductive QosFault
  /-- `std::out_of_range`, which `substr` throws. -/
  | outOfRange
  /-- Undefined behaviour: an overflow of an `int`, or a number that `atoi` cannot represent. -/
  | undefined
deriving DecidableEq

/-- `LOCATOR_KIND_UDPv4` and the like, also for the transports that serve them. -/
inductive LocatorKind
  /-- UDP over IPv4. -/
  | udpv4
  /-- UDP over IPv6. -/
  | udpv6
  /-- TCP over IPv4. -/
  | tcpv4
  /-- Shared memory. -/
  | sharedMem
deriving DecidableEq

/-- `Locator_t`, with the IPv4 part of its address. -/
structure Locator where
  /-- `kind`. -/
  kind : LocatorKind
  /-- `port`. -/
  port : BitVec 32
  /-- `address`. -/
  address : Quad
deriving DecidableEq

/-- A new `Locator_t`. -/
def Locator.new : Locator := ⟨.udpv4, 0, .zero⟩

/-- A transport descriptor with the members the handler sets. -/
inductive TransportDescriptor
  /-- `SharedMemTransportDescriptor`. -/
  | sharedMem (segmentSize : BitVec 32)
  /-- `TCPv4TransportDescriptor`. -/
  | tcpv4 (listeningPorts : List (BitVec 16))
  /-- `UDPv4TransportDescriptor`. -/
  | udpv4 (sendBufferSize receiveBufferSize : BitVec 32) (nonBlockingSend : Bool)
  /-- `UDPv6TransportDescriptor`. -/
  | udpv6 (sendBufferSize receiveBufferSize : BitVec 32) (nonBlockingSend : Bool)
deriving DecidableEq

/-- The kind of locator a transport serves. -/
def TransportDescriptor.kind : TransportDescriptor → LocatorKind
  | .sharedMem _ => .sharedMem
  | .tcpv4 _ => .tcpv4
  | .udpv4 _ _ _ => .udpv4
  | .udpv6 _ _ _ => .udpv6

/-- `DiscoveryProtocol_t`, as far as the handler uses it. -/
inductive DiscoveryProtocol
  /-- `DiscoveryProtocol_t::SIMPLE`. -/
  | simple
deriving DecidableEq

/-- `Duration_t`. -/
inductive Duration
  /-- Seconds and nanoseconds. -/
  | finite (seconds : Int) (nanosec : Nat)
  /-- `c_TimeInfinite`. -/
  | infinite
deriving DecidableEq

/-- The members of a `DomainParticipantQos` that the handler sets. -/
structure DomainParticipantQos where
  /-- `name`. -/
  name : Text
  /-- `transport().use_builtin_transports`. -/
  useBuiltinTransports : Bool
  /-- `transport().user_transports`. -/
  userTransports : List TransportDescriptor
  /-- `initialPeersList` of `wire_protocol().builtin`. -/
  initialPeersList : List Locator
  /-- `discovery_config.discoveryProtocol`. -/
  discoveryProtocol : DiscoveryProtocol
  /-- `discovery_config.use_SIMPLE_EndpointDiscoveryProtocol`. -/
  useSimpleEndpointDiscoveryProtocol : Bool
  /-- `m_simpleEDP.use_PublicationReaderANDSubscriptionWriter`. -/
  usePublicationReaderAndSubscriptionWriter : Bool
  /-- `m_simpleEDP.use_PublicationWriterANDSubscriptionReader`. -/
  usePublicationWriterAndSubscriptionReader : Bool
  /-- `discovery_config.leaseDuration_announcementperiod`. -/
  leaseDurationAnnouncementPeriod : Duration
  /-- `discovery_config.leaseDuration`. -/
  leaseDuration : Duration
deriving DecidableEq

/-- `ParticipantQosHandler`. -/
structure ParticipantQosHandler where
  /-- `m_participantQos`. -/
  participantQos : DomainParticipantQos
deriving DecidableEq

/-! ## Strings and integers -/

/-- `std::string::npos`. -/
def npos : Nat := 2 ^ 64 - 1

/-- `std::string::find` of one character. -/
def find (text : Text) (char : Char) : Nat := (text.idxOf? char).getD npos

/-- A `size_t` stored in an `int` keeps its lower half. -/
def toInt (size : Nat) : Int :=
  if size % 2 ^ 32 < 2 ^ 31 then (size % 2 ^ 32 : Nat) else (size % 2 ^ 32 : Nat) - 2 ^ 32

/-- An `int` used as a `size_t`. -/
def toSize (value : Int) : Nat := (value % 2 ^ 64).toNat

/-- `std::string::substr`, where a count of `npos` asks for the rest. -/
def substr (text : Text) (position count : Nat) : Except QosFault Text :=
  if text.length < position then .error .outOfRange
  else .ok ((text.drop position).take (if count = npos then text.length else count))

/-- `value + 1` for an `int`. -/
def increment (value : Int) : Except QosFault Int :=
  if value + 1 < 2 ^ 31 then .ok (value + 1) else .error .undefined

/-- `std::atoi`. -/
def atoi (text : Text) : Except QosFault Int :=
  if -2 ^ 31 ≤ signedNumber text ∧ signedNumber text < 2 ^ 31 then .ok (signedNumber text)
  else .error .undefined

/-! ## The handler -/

namespace ParticipantQosHandler

/-- `ParticipantQosHandler::ParticipantQosHandler`. -/
def construct (participantName : Text) : ParticipantQosHandler where
  participantQos :=
    { name := participantName
      useBuiltinTransports := false
      userTransports := []
      initialPeersList := []
      discoveryProtocol := .simple
      useSimpleEndpointDiscoveryProtocol := true
      usePublicationReaderAndSubscriptionWriter := true
      usePublicationWriterAndSubscriptionReader := true
      leaseDurationAnnouncementPeriod := .finite 3 0
      leaseDuration := .infinite }

/-- `ParticipantQosHandler::getQos`. -/
def getQos (handler : ParticipantQosHandler) : DomainParticipantQos := handler.participantQos

/-- `user_transports.push_back`. -/
def pushTransport (handler : ParticipantQosHandler) (transport : TransportDescriptor) :
    ParticipantQosHandler :=
  { handler with
    participantQos.userTransports := handler.participantQos.userTransports ++ [transport] }

/-- `initialPeersList.push_back`, if there is a locator. -/
def pushPeer (handler : ParticipantQosHandler) (peer : Option Locator) : ParticipantQosHandler :=
  { handler with
    participantQos.initialPeersList := handler.participantQos.initialPeersList ++ peer.toList }

end ParticipantQosHandler

/-- The state of a loop over a list of peers. -/
structure PeerLoop where
  /-- The object. -/
  handler : ParticipantQosHandler
  /-- The counter `i`. -/
  i : Nat

/-- One iteration of such a loop, whose body makes at most one locator of an entry. -/
def PeerLoop.step (body : Text → Except QosFault (Option Locator)) :
    Machine.Step PeerLoop Text Unit QosFault := fun loop entry => do
  let peer ← body entry
  -- `i++` overflows at the last `int`.
  if loop.i + 1 < 2 ^ 31 then .ok ((), ⟨loop.handler.pushPeer peer, loop.i + 1⟩)
  else .error .undefined

/-- The loop body in `addTCPV4Transport`. The `bool` of `setIPv4` is dropped. -/
def tcpPeerLocator (setIPv4 : Locator → Text → Bool × Locator) (entry : Text) :
    Except QosFault (Option Locator) :=
  let position := toInt (find entry ':')
  if toSize position = npos then .ok none
  else do
    let ipv4 ← substr entry 0 (toSize position)
    let next ← increment position
    let port ← substr entry (toSize next) npos
    let initialPeerLocator := (setIPv4 { Locator.new with kind := .tcpv4 } ipv4).2
    let number ← atoi port
    .ok (some { initialPeerLocator with port := BitVec.ofInt 32 number })

/-- The loop body in `addUDPV4Transport`, which drops that `bool` as well. -/
def udpPeerLocator (setIPv4 : Locator → Text → Bool × Locator) (entry : Text) :
    Except QosFault (Option Locator) :=
  .ok (some (setIPv4 Locator.new entry).2)

namespace ParticipantQosHandler

/-- `ParticipantQosHandler::addSHMTransport`. -/
def addSHMTransport (handler : ParticipantQosHandler) (segmentSize : BitVec 32) :
    ParticipantQosHandler :=
  handler.pushTransport (.sharedMem segmentSize)

/-- `ParticipantQosHandler::addTCPV4Transport`. -/
def addTCPV4Transport (setIPv4 : Locator → Text → Bool × Locator)
    (handler : ParticipantQosHandler) (listenPort : BitVec 16) (peerLocators : List Text) :
    Except QosFault ParticipantQosHandler := do
  let loop ← Machine.run (PeerLoop.step (tcpPeerLocator setIPv4)) ⟨handler, 0⟩ peerLocators
  .ok (loop.handler.pushTransport (.tcpv4 (if listenPort ≠ 0 then [listenPort] else [])))

/-- `ParticipantQosHandler::addTCPV6Transport`. Its comment says that it adds a transport; its body
is empty. -/
def addTCPV6Transport (handler : ParticipantQosHandler) : ParticipantQosHandler := handler

/-- `ParticipantQosHandler::addUDPV4Transport`. -/
def addUDPV4Transport (setIPv4 : Locator → Text → Bool × Locator)
    (handler : ParticipantQosHandler) (bufferSize : BitVec 32) (ipaddrs : List Text) :
    Except QosFault ParticipantQosHandler := do
  let loop ← Machine.run (PeerLoop.step (udpPeerLocator setIPv4)) ⟨handler, 0⟩ ipaddrs
  .ok (loop.handler.pushTransport (.udpv4 bufferSize bufferSize true))

/-- `ParticipantQosHandler::addUDPV6Transport`. -/
def addUDPV6Transport (handler : ParticipantQosHandler) (bufferSize : BitVec 32) :
    ParticipantQosHandler :=
  handler.pushTransport (.udpv6 bufferSize bufferSize true)

end ParticipantQosHandler

/-- A call of an adding method. -/
inductive QosCall
  /-- `addSHMTransport`. -/
  | addSHMTransport (segmentSize : BitVec 32)
  /-- `addTCPV4Transport`. -/
  | addTCPV4Transport (listenPort : BitVec 16) (peerLocators : List Text)
  /-- `addTCPV6Transport`. -/
  | addTCPV6Transport
  /-- `addUDPV4Transport`. -/
  | addUDPV4Transport (bufferSize : BitVec 32) (ipaddrs : List Text)
  /-- `addUDPV6Transport`. -/
  | addUDPV6Transport (bufferSize : BitVec 32)

/-- One call. -/
def ParticipantQosHandler.step (setIPv4 : Locator → Text → Bool × Locator) :
    Machine.Step ParticipantQosHandler QosCall Unit QosFault := fun handler call =>
  match call with
  | .addSHMTransport segmentSize => .ok ((), handler.addSHMTransport segmentSize)
  | .addTCPV4Transport listenPort peerLocators => do
    let handler ← handler.addTCPV4Transport setIPv4 listenPort peerLocators
    .ok ((), handler)
  | .addTCPV6Transport => .ok ((), handler.addTCPV6Transport)
  | .addUDPV4Transport bufferSize ipaddrs => do
    let handler ← handler.addUDPV4Transport setIPv4 bufferSize ipaddrs
    .ok ((), handler)
  | .addUDPV6Transport bufferSize => .ok ((), handler.addUDPV6Transport bufferSize)

end FastDdsWrapper
