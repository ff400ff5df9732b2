import FastDdsWrapper.ParticipantQosHandler
import Mathlib.Data.List.Forall2

/-!
# Which peers end up in the list

A peer is documented as an IPv4 address, followed for TCP by a colon and a port. The handler leaves
out TCP entries without a colon and takes every other entry, whatever it says, so only such entries
and well-formed ones are safe to give. Over a run of calls, well-formed peers are all kept, in
order.
-/

namespace FastDdsWrapper

open DecimalText (Quad readQuad signedNumber)
open Machine (run attempts bind_ok bind_error)

variable {setIPv4 : Locator → Text → Bool × Locator}

/-- What `IPLocator::setIPv4` does. -/
structure SetsAddress (setIPv4 : Locator → Text → Bool × Locator) : Prop where
  /-- The address of a well-formed text is stored. -/
  stores : ∀ locator text address, readQuad text = some address →
    setIPv4 locator text = (true, { locator with address })
  /-- On another text it answers false and a zero address stays. -/
  rejects : ∀ locator text, readQuad text = none → locator.address = .zero →
    setIPv4 locator text = (false, locator)

/-- The decimal text of a port. -/
def PortText (digits : Text) (port : Nat) : Prop :=
  (∀ char ∈ digits, char.isDigit = true) ∧ Nat.ofDigitChars 10 digits 0 = port ∧
    1 ≤ port ∧ port ≤ 65535

/-- The locator of a well-formed TCP entry. -/
def TcpPeer (locator : Locator) (entry : Text) : Prop :=
  ∃ host digits address port, entry = host ++ ':' :: digits ∧ readQuad host = some address ∧
    PortText digits port ∧ locator = ⟨.tcpv4, BitVec.ofNat 32 port, address⟩

/-- The locator of a well-formed UDP entry. -/
def UdpPeer (locator : Locator) (entry : Text) : Prop :=
  ∃ address, readQuad entry = some address ∧ locator = ⟨.udpv4, 0, address⟩

/-- The iteration has a defined result, and it appends nothing or the documented locator of its
entry. -/
def Admits (documented : Locator → Text → Prop)
    (iteration : Machine.Attempt PeerLoop Text Unit QosFault) : Prop :=
  iteration.outcome ≠ .error .undefined ∧
    ∀ after, iteration.outcome = .ok ((), after) →
      after.handler.getQos.initialPeersList =
          iteration.before.handler.getQos.initialPeersList ∨
        ∃ locator, documented locator iteration.event ∧
          after.handler.getQos.initialPeersList =
            iteration.before.handler.getQos.initialPeersList ++ [locator]

/-- The entry is left out: `find` sees no colon, or one at a position that an `int` holds as -1. -/
def Skipped (entry : Text) : Prop := toInt (find entry ':') = -1

/-- The colon of the entry is at a position that an `int` holds as a negative number below -1. -/
def Overrun (entry : Text) : Prop := entry.length < toSize (toInt (find entry ':') + 1)

instance (entry : Text) : Decidable (Skipped entry) :=
  inferInstanceAs (Decidable (toInt (find entry ':') = -1))

instance (entry : Text) : Decidable (Overrun entry) :=
  inferInstanceAs (Decidable (entry.length < toSize (toInt (find entry ':') + 1)))

/-! ## Positions -/

/-- An `int` is equal to `npos` exactly when it is -1. -/
theorem toSize_npos {size : Nat} : toSize (toInt size) = npos ↔ toInt size = -1 := by
  have low : -2 ^ 31 ≤ toInt size := by
    unfold toInt
    split <;> omega
  have high : toInt size < 2 ^ 31 := by
    unfold toInt
    split <;> omega
  simp only [toSize, npos]
  omega

/-- A character that is not there is at `npos`. -/
theorem find_absent {text : Text} {char : Char} (absent : char ∉ text) : find text char = npos := by
  rw [find, List.idxOf?_eq_none_iff.mpr absent]
  rfl

/-- The first of a character ends the part before it. -/
theorem find_first {early late : Text} {char : Char} (absent : char ∉ early) :
    find (early ++ char :: late) char = early.length := by
  have found : (early ++ char :: late).idxOf? char = some early.length := by
    rw [List.idxOf?_eq_some_iff]
    refine ⟨by simp, by simp, ?_⟩
    intro place before same
    rw [List.getElem_append_left before] at same
    exact absent (same ▸ List.getElem_mem before)
  rw [find, found]
  rfl

/-- A position that is not negative as an `int` is inside the text. -/
theorem position_inside (text : Text) (char : Char) (positive : 0 ≤ toInt (find text char)) :
    toInt (find text char) < text.length := by
  cases found : text.idxOf? char with
  | none =>
    have missing : find text char = npos := by
      rw [find, found]
      rfl
    rw [missing] at positive
    exact absurd positive (by decide)
  | some place =>
    have inside : place < text.length := (List.idxOf?_eq_some_iff.mp found).1
    have known : find text char = place := by
      rw [find, found]
      rfl
    rw [known] at positive ⊢
    unfold toInt at positive ⊢
    split at positive <;> omega

/-- A small position is the same as an `int`. -/
theorem toInt_small {size : Nat} (small : size < 2 ^ 31) : toInt size = size := by
  unfold toInt
  split <;> omega

/-- It is the same as a `size_t` again. -/
theorem toSize_natCast {size : Nat} (small : size < 2 ^ 32) : toSize size = size := by
  unfold toSize
  omega

/-- The part of a text before a position. -/
theorem substr_before (early late : Text) (small : early.length < 2 ^ 32) :
    substr (early ++ late) 0 early.length = .ok early := by
  have apart : early.length ≠ npos := by
    unfold npos
    omega
  simp [substr, apart]

/-- The part of a text after a character. -/
theorem substr_after (early late : Text) (char : Char) :
    substr (early ++ char :: late) (early.length + 1) npos = .ok late := by
  have inside : ¬ (early ++ char :: late).length < early.length + 1 := by
    rw [List.length_append, List.length_cons]
    omega
  have rest : (early ++ char :: late).drop (early.length + 1) = late :=
    List.drop_length_add_append 1
  have enough : late.length ≤ (early ++ char :: late).length := by
    rw [List.length_append, List.length_cons]
    omega
  rw [substr, if_neg inside, if_pos rfl, rest, List.take_of_length_le enough]

/-- The decimal text of a port in range is a text of it. -/
theorem portText_toDigits {port : Nat} (positive : 1 ≤ port) (bounded : port ≤ 65535) :
    PortText (Nat.toDigits 10 port) port :=
  ⟨DecimalText.toDigits_isDigit port, Nat.ofDigitChars_ten_toDigits, positive, bounded⟩

/-- The text of a port is read as the port. -/
theorem atoi_port {digits : Text} {port : Nat} (decimal : PortText digits port) :
    atoi digits = .ok port := by
  obtain ⟨all, rfl, _, bound⟩ := decimal
  rw [atoi, DecimalText.signedNumber_digits all, if_pos]
  constructor <;> omega

/-- A port's locator has exactly that port, so the upper half of it is zero. -/
theorem TcpPeer.port_small {locator : Locator} {entry : Text} (peer : TcpPeer locator entry) :
    1 ≤ locator.port.toNat ∧ locator.port.toNat < 2 ^ 16 := by
  obtain ⟨host, digits, address, port, _, _, ⟨_, _, positive, bound⟩, rfl⟩ := peer
  rw [BitVec.toNat_ofNat]
  omega

/-! ## The loop bodies -/

/-- A well-formed TCP entry gives its locator. -/
theorem tcpPeerLocator_reads (sets : SetsAddress setIPv4) {locator : Locator} {entry : Text}
    (peer : TcpPeer locator entry) : tcpPeerLocator setIPv4 entry = .ok (some locator) := by
  obtain ⟨host, digits, address, port, rfl, known, decimal, rfl⟩ := peer
  obtain ⟨plain, short⟩ := DecimalText.readQuad_some known
  have absent : ':' ∉ host := by
    intro member
    exact absurd (plain ':' member) (by decide)
  have position : toInt (find (host ++ ':' :: digits) ':') = host.length := by
    rw [find_first absent]
    exact toInt_small (by omega)
  have size : toSize (host.length : Int) = host.length := toSize_natCast (by omega)
  have apart : host.length ≠ npos := by
    unfold npos
    omega
  have next : increment (host.length : Int) = .ok ((host.length + 1 : Nat) : Int) := by
    rw [increment, if_pos (by omega)]
    rfl
  have after : toSize ((host.length + 1 : Nat) : Int) = host.length + 1 :=
    toSize_natCast (by omega)
  have stored := sets.stores { Locator.new with kind := .tcpv4 } host address known
  simp only [tcpPeerLocator, position, size, apart, ↓reduceIte, substr_before host _ (by omega),
    next, after, substr_after, stored, atoi_port decimal, bind, Except.bind, BitVec.ofInt_natCast]

/-- A well-formed UDP entry gives its locator. -/
theorem udpPeerLocator_reads (sets : SetsAddress setIPv4) {locator : Locator} {entry : Text}
    (peer : UdpPeer locator entry) : udpPeerLocator setIPv4 entry = .ok (some locator) := by
  obtain ⟨address, known, rfl⟩ := peer
  rw [udpPeerLocator, sets.stores Locator.new entry address known]
  rfl

/-- A TCP entry is left out exactly when its position is -1. -/
theorem tcpPeerLocator_none {entry : Text} :
    tcpPeerLocator setIPv4 entry = .ok none ↔ Skipped entry := by
  by_cases skipped : toSize (toInt (find entry ':')) = npos
  · rw [tcpPeerLocator, if_pos skipped]
    exact iff_of_true rfl (toSize_npos.mp skipped)
  · rw [tcpPeerLocator, if_neg skipped]
    refine iff_of_false ?_ fun absent => skipped (toSize_npos.mpr absent)
    intro returned
    simp [bind_ok] at returned

/-- `substr` throws exactly for a start past the end. -/
theorem substr_error {text : Text} {position count : Nat} {fault : QosFault} :
    substr text position count = .error fault ↔ fault = .outOfRange ∧ text.length < position := by
  unfold substr
  split
  · simp_all [eq_comm]
  · simp_all

/-- An addition that overflows is undefined. -/
theorem increment_error {value : Int} {fault : QosFault} :
    increment value = .error fault ↔ fault = .undefined ∧ 2 ^ 31 ≤ value + 1 := by
  unfold increment
  split
  · simp_all
  · simp_all [eq_comm]

/-- So is a number that is too large. -/
theorem atoi_error {text : Text} {fault : QosFault} (faulted : atoi text = .error fault) :
    fault = .undefined := by
  unfold atoi at faulted
  split at faulted
  · cases faulted
  · exact (Except.error.inj faulted).symm

/-- A TCP entry ends the loop with an exception exactly when it is overrun. -/
theorem tcpPeerLocator_outOfRange {entry : Text} :
    tcpPeerLocator setIPv4 entry = .error .outOfRange ↔ Overrun entry := by
  by_cases skipped : toSize (toInt (find entry ':')) = npos
  · rw [tcpPeerLocator, if_pos skipped]
    refine iff_of_false (by simp) ?_
    rw [Overrun, toSize_npos.mp skipped]
    simp [toSize]
  rw [tcpPeerLocator, if_neg skipped]
  constructor
  · intro faulted
    simp only [bind_error, substr_error, increment_error, reduceCtorEq, false_and, false_or,
      true_and, Nat.not_lt_zero] at faulted
    obtain ⟨ipv4, _, next, incremented, past | ⟨port, _, overflow | ⟨number, _, impossible⟩⟩⟩ :=
      faulted
    · unfold increment at incremented
      split at incremented
      · rw [← Except.ok.inj incremented] at past
        exact past
      · cases incremented
    · cases atoi_error overflow
    · exact impossible.elim
  · intro past
    have inside := position_inside entry ':'
    have fits : toInt (find entry ':') + 1 < 2 ^ 31 := by
      unfold Overrun toSize at past
      omega
    have before : ∀ count, ∃ ipv4, substr entry 0 count = .ok ipv4 := by
      intro count
      exact ⟨_, if_neg (Nat.not_lt_zero _)⟩
    obtain ⟨ipv4, cut⟩ := before (toSize (toInt (find entry ':')))
    have next : increment (toInt (find entry ':')) = .ok (toInt (find entry ':') + 1) := if_pos fits
    have thrown : substr entry (toSize (toInt (find entry ':') + 1)) npos = .error .outOfRange :=
      if_pos past
    simp only [cut, next, thrown, bind, Except.bind]

/-! ## What an iteration appends -/

/-- Where the body reads every documented entry, an iteration admits its entry exactly when the
entry throws, or the counter has not run out and the entry is left out or documented. -/
theorem admits_iff {documented : Locator → Text → Prop}
    {body : Text → Except QosFault (Option Locator)}
    (reads : ∀ locator entry, documented locator entry → body entry = .ok (some locator))
    (loop : PeerLoop) (entry : Text) :
    Admits documented ⟨loop, entry, PeerLoop.step body loop entry⟩ ↔
      body entry = .error .outOfRange ∨ loop.i + 1 < 2 ^ 31 ∧
        (body entry = .ok none ∨ ∃ locator, documented locator entry) := by
  have unread : ∀ {result}, body entry = result → (∀ locator, result ≠ .ok (some locator)) →
      ¬ ∃ locator, documented locator entry := by
    rintro result taken apart ⟨locator, known⟩
    exact apart locator (taken.symm.trans (reads locator entry known))
  cases taken : body entry with
  | error fault =>
    have stepped : PeerLoop.step body loop entry = .error fault := by
      simp only [PeerLoop.step, taken, bind, Except.bind]
    rw [stepped]
    cases fault with
    | outOfRange => exact iff_of_true ⟨by simp, by simp⟩ (.inl rfl)
    | undefined =>
      refine iff_of_false (fun admitted => admitted.1 rfl) ?_
      rintro (thrown | ⟨_, skipped | known⟩)
      · cases thrown
      · cases skipped
      · exact unread taken (by simp) known
  | ok peer =>
    by_cases counted : loop.i + 1 < 2 ^ 31
    · have stepped : PeerLoop.step body loop entry =
          .ok ((), ⟨loop.handler.pushPeer peer, loop.i + 1⟩) := by
        simp only [PeerLoop.step, taken, counted, ↓reduceIte, bind, Except.bind]
      rw [stepped]
      cases peer with
      | none =>
        refine iff_of_true ⟨by simp, ?_⟩ (.inr ⟨counted, .inl rfl⟩)
        intro after same
        obtain ⟨_, rfl⟩ := Prod.mk.inj (Except.ok.inj same)
        exact .inl (List.append_nil _)
      | some locator =>
        constructor
        · intro admitted
          refine .inr ⟨counted, .inr ?_⟩
          rcases admitted.2 _ rfl with unchanged | ⟨other, known, _⟩
          · exact absurd (List.append_right_eq_self.mp unchanged) (List.cons_ne_nil _ _)
          · exact ⟨other, known⟩
        · rintro (thrown | ⟨_, skipped | ⟨other, known⟩⟩)
          · cases thrown
          · cases skipped
          · refine ⟨by simp, ?_⟩
            intro after same
            obtain ⟨_, rfl⟩ := Prod.mk.inj (Except.ok.inj same)
            obtain rfl :=
              Option.some.inj (Except.ok.inj (taken.symm.trans (reads other entry known)))
            exact .inr ⟨locator, known, rfl⟩
    · have stepped : PeerLoop.step body loop entry = .error .undefined := by
        simp only [PeerLoop.step, taken, counted, ↓reduceIte, bind, Except.bind]
      rw [stepped]
      refine iff_of_false (fun admitted => admitted.1 rfl) ?_
      rintro (thrown | ⟨within, _⟩)
      · cases thrown
      · exact counted within

/-- The entry is safe to give at this point of `addTCPV4Transport`: it throws, or it is one of fewer
than 2^31 and is left out or documented. -/
def TcpSafe (loop : PeerLoop) (entry : Text) : Prop :=
  Overrun entry ∨ loop.i + 1 < 2 ^ 31 ∧ (Skipped entry ∨ ∃ locator, TcpPeer locator entry)

/-- The entry is safe to give at this point of `addUDPV4Transport`: it is one of fewer than 2^31 and
is documented. -/
def UdpSafe (loop : PeerLoop) (entry : Text) : Prop :=
  loop.i + 1 < 2 ^ 31 ∧ ∃ locator, UdpPeer locator entry

/-- The iterations of the loop in `addTCPV4Transport`. -/
def tcpIterations (setIPv4 : Locator → Text → Bool × Locator) (handler : ParticipantQosHandler)
    (peerLocators : List Text) : List (Machine.Attempt PeerLoop Text Unit QosFault) :=
  attempts (PeerLoop.step (tcpPeerLocator setIPv4)) ⟨handler, 0⟩ peerLocators

/-- The iterations of the loop in `addUDPV4Transport`. -/
def udpIterations (setIPv4 : Locator → Text → Bool × Locator) (handler : ParticipantQosHandler)
    (ipaddrs : List Text) : List (Machine.Attempt PeerLoop Text Unit QosFault) :=
  attempts (PeerLoop.step (udpPeerLocator setIPv4)) ⟨handler, 0⟩ ipaddrs

/-- An iteration of `addTCPV4Transport` admits its entry exactly when the entry is safe to give. -/
theorem tcp_admits_iff (sets : SetsAddress setIPv4) (loop : PeerLoop) (entry : Text) :
    Admits TcpPeer ⟨loop, entry, PeerLoop.step (tcpPeerLocator setIPv4) loop entry⟩ ↔
      TcpSafe loop entry := by
  rw [admits_iff fun _ _ known => tcpPeerLocator_reads sets known, tcpPeerLocator_outOfRange,
    tcpPeerLocator_none, TcpSafe]

/-- So does one of `addUDPV4Transport`. -/
theorem udp_admits_iff (sets : SetsAddress setIPv4) (loop : PeerLoop) (entry : Text) :
    Admits UdpPeer ⟨loop, entry, PeerLoop.step (udpPeerLocator setIPv4) loop entry⟩ ↔
      UdpSafe loop entry := by
  rw [admits_iff fun _ _ known => udpPeerLocator_reads sets known, UdpSafe]
  simp [udpPeerLocator]

/-- When every iteration admits its entry and the loop ends, what it appended is in the order of the
entries it stems from. -/
theorem admitted_appended {documented : Locator → Text → Prop}
    {body : Text → Except QosFault (Option Locator)} {loop final : PeerLoop} {entries : List Text}
    (admitted : ∀ iteration ∈ attempts (PeerLoop.step body) loop entries,
      Admits documented iteration)
    (ran : run (PeerLoop.step body) loop entries = .ok final) :
    ∃ appended, final.handler.getQos.initialPeersList =
        loop.handler.getQos.initialPeersList ++ appended ∧
      List.SublistForall₂ documented appended entries := by
  induction entries generalizing loop with
  | nil =>
    obtain rfl := Except.ok.inj ran
    exact ⟨[], (List.append_nil _).symm, .nil⟩
  | cons entry entries ih =>
    obtain ⟨_, next, stepped, rest⟩ := Machine.run_cons_ok ran
    simp only [attempts, stepped, List.mem_cons, forall_eq_or_imp] at admitted
    obtain ⟨first, later⟩ := admitted
    obtain ⟨appended, list, related⟩ := ih later rest
    rcases first.2 next rfl with unchanged | ⟨locator, known, added⟩
    · exact ⟨appended, list.trans (congrArg (· ++ appended) unchanged), .cons_right related⟩
    · refine ⟨locator :: appended, ?_, .cons known related⟩
      rw [list, added, List.append_assoc]
      rfl

/-- All iterations of `addTCPV4Transport` admit their entries exactly when all these are safe. -/
theorem tcpIterations_iff (sets : SetsAddress setIPv4) (handler : ParticipantQosHandler)
    (peerLocators : List Text) :
    (∀ iteration ∈ tcpIterations setIPv4 handler peerLocators, Admits TcpPeer iteration) ↔
      ∀ iteration ∈ tcpIterations setIPv4 handler peerLocators,
        TcpSafe iteration.before iteration.event := by
  have free : Machine.Preserves (PeerLoop.step (tcpPeerLocator setIPv4)) fun _ => True :=
    fun _ _ _ _ _ _ => trivial
  exact Machine.attempts_iff free (fun loop entry _ => tcp_admits_iff sets loop entry) peerLocators
    trivial

/-- So do those of `addUDPV4Transport`. -/
theorem udpIterations_iff (sets : SetsAddress setIPv4) (handler : ParticipantQosHandler)
    (ipaddrs : List Text) :
    (∀ iteration ∈ udpIterations setIPv4 handler ipaddrs, Admits UdpPeer iteration) ↔
      ∀ iteration ∈ udpIterations setIPv4 handler ipaddrs,
        UdpSafe iteration.before iteration.event := by
  have free : Machine.Preserves (PeerLoop.step (udpPeerLocator setIPv4)) fun _ => True :=
    fun _ _ _ _ _ _ => trivial
  exact Machine.attempts_iff free (fun loop entry _ => udp_admits_iff sets loop entry) ipaddrs
    trivial

/-- Given safe entries, a call of `addTCPV4Transport` that returns has appended documented locators
of some of them, in order. -/
theorem addTCPV4Transport_appends (sets : SetsAddress setIPv4)
    {handler final : ParticipantQosHandler} {listenPort : BitVec 16} {peerLocators : List Text}
    (safe : ∀ iteration ∈ tcpIterations setIPv4 handler peerLocators,
      TcpSafe iteration.before iteration.event)
    (returned : handler.addTCPV4Transport setIPv4 listenPort peerLocators = .ok final) :
    ∃ appended, final.getQos.initialPeersList = handler.getQos.initialPeersList ++ appended ∧
      List.SublistForall₂ TcpPeer appended peerLocators := by
  obtain ⟨loop, ran, same⟩ := bind_ok.mp returned
  obtain rfl := Except.ok.inj same
  exact admitted_appended ((tcpIterations_iff sets handler peerLocators).mpr safe) ran

/-- Given addresses, so has one of `addUDPV4Transport`. -/
theorem addUDPV4Transport_appends (sets : SetsAddress setIPv4)
    {handler final : ParticipantQosHandler} {bufferSize : BitVec 32} {ipaddrs : List Text}
    (safe : ∀ iteration ∈ udpIterations setIPv4 handler ipaddrs,
      UdpSafe iteration.before iteration.event)
    (returned : handler.addUDPV4Transport setIPv4 bufferSize ipaddrs = .ok final) :
    ∃ appended, final.getQos.initialPeersList = handler.getQos.initialPeersList ++ appended ∧
      List.SublistForall₂ UdpPeer appended ipaddrs := by
  obtain ⟨loop, ran, same⟩ := bind_ok.mp returned
  obtain rfl := Except.ok.inj same
  exact admitted_appended ((udpIterations_iff sets handler ipaddrs).mpr safe) ran

/-- A `setIPv4` that reads dotted addresses. -/
def setQuad (locator : Locator) (text : Text) : Bool × Locator :=
  match readQuad text with
  | some address => (true, { locator with address })
  | none => (false, { locator with address := .zero })

/-- It does what `IPLocator::setIPv4` does. -/
theorem setQuad_sets : SetsAddress setQuad := by
  constructor
  · intro locator text address known
    simp only [setQuad, known]
  · intro locator text unknown zero
    simp only [setQuad, unknown]
    rw [← zero]

/-- A new handler of no name. -/
def namelessHandler : ParticipantQosHandler := .construct []

/-- The text 127.0.0.1. -/
def loopbackText : Text := ['1', '2', '7', '.', '0', '.', '0', '.', '1']

/-- For every handler and all lists of texts, the two methods append documented locators of their
entries and nothing else exactly when every entry their loops reach is safe to give. -/
theorem peers_admitted_iff (sets : SetsAddress setIPv4) (handler : ParticipantQosHandler)
    (peerLocators ipaddrs : List Text) :
    ((∀ iteration ∈ tcpIterations setIPv4 handler peerLocators, Admits TcpPeer iteration) ↔
      ∀ iteration ∈ tcpIterations setIPv4 handler peerLocators,
        TcpSafe iteration.before iteration.event) ∧
    ((∀ iteration ∈ udpIterations setIPv4 handler ipaddrs, Admits UdpPeer iteration) ↔
      ∀ iteration ∈ udpIterations setIPv4 handler ipaddrs,
        UdpSafe iteration.before iteration.event) :=
  ⟨tcpIterations_iff sets handler peerLocators, udpIterations_iff sets handler ipaddrs⟩

/-- One well-formed entry and one without a colon are admitted, and so is an address. -/
theorem peers_admitted_loopback :
    (run (PeerLoop.step (tcpPeerLocator setQuad)) ⟨namelessHandler, 0⟩
        [loopbackText ++ [':', '8', '0'], loopbackText]).isOk = true ∧
      (∀ iteration ∈ tcpIterations setQuad namelessHandler
        [loopbackText ++ [':', '8', '0'], loopbackText], Admits TcpPeer iteration) ∧
      ∀ iteration ∈ udpIterations setQuad namelessHandler [loopbackText],
        Admits UdpPeer iteration := by
  have exactly := peers_admitted_iff setQuad_sets namelessHandler
    [loopbackText ++ [':', '8', '0'], loopbackText] [loopbackText]
  refine ⟨rfl, exactly.1.mpr ?_, exactly.2.mpr ?_⟩
  · intro iteration member
    rcases member with _ | ⟨_, _ | ⟨_, member⟩⟩
    · exact .inr ⟨by decide, .inr ⟨_, loopbackText, Nat.toDigits 10 80, ⟨127, 0, 0, 1⟩, 80, rfl,
        by decide, portText_toDigits (by decide) (by decide), rfl⟩⟩
    · exact .inr ⟨by decide, .inl rfl⟩
    · cases member
  · intro iteration member
    rcases member with _ | ⟨_, member⟩
    · exact ⟨by decide, _, ⟨127, 0, 0, 1⟩, by decide, rfl⟩
    · cases member

/-- A port above 65535 and a host name: both give a locator all the same. -/
theorem malformed_peers_admitted :
    ¬ (∀ iteration ∈ tcpIterations setQuad namelessHandler
        [loopbackText ++ [':', '7', '0', '0', '0', '0']], Admits TcpPeer iteration) ∧
      ¬ ∀ iteration ∈ udpIterations setQuad namelessHandler [['h', 'o', 's', 't']],
        Admits UdpPeer iteration := by
  constructor
  · intro admitted
    rcases (tcp_admits_iff setQuad_sets _ _).mp (admitted _ (.head _)) with
      past | ⟨_, absent | ⟨locator, peer⟩⟩
    · exact absurd past (by decide)
    · exact absurd absent (by decide)
    · have taken : tcpPeerLocator setQuad (loopbackText ++ [':', '7', '0', '0', '0', '0']) =
          .ok (some ⟨.tcpv4, 70000, ⟨127, 0, 0, 1⟩⟩) := rfl
      have read := tcpPeerLocator_reads setQuad_sets peer
      obtain rfl := Option.some.inj (Except.ok.inj (taken.symm.trans read))
      exact absurd peer.port_small.2 (by decide)
  · intro admitted
    obtain ⟨_, locator, address, known, _⟩ :=
      (udp_admits_iff setQuad_sets _ _).mp (admitted _ (.head _))
    have unknown : readQuad ['h', 'o', 's', 't'] = none := by decide
    cases unknown.symm.trans known

/-! ## Runs of calls with well-formed peers -/

/-- The text of an IPv4 address. -/
structure AddressText where
  /-- The text. -/
  text : Text
  /-- The address. -/
  address : Quad
  /-- The text is one of the address. -/
  reads : readQuad text = some address

/-- An entry for `addTCPV4Transport` without a colon, or with an address and a port. -/
inductive TcpEntry
  /-- Some text without a colon. -/
  | portless (text : Text) (plain : ':' ∉ text)
  /-- An address, a colon and a port. -/
  | peer (host : AddressText) (digits : Text) (port : Nat) (decimal : PortText digits port)

/-- The text given to the handler. -/
def TcpEntry.text : TcpEntry → Text
  | .portless text _ => text
  | .peer host digits _ _ => host.text ++ ':' :: digits

/-- The locator asked for, if any. -/
def TcpEntry.locator : TcpEntry → Option Locator
  | .portless _ _ => none
  | .peer host _ port _ => some ⟨.tcpv4, BitVec.ofNat 32 port, host.address⟩

/-- The locator an entry for `addUDPV4Transport` asks for. -/
def AddressText.locator (entry : AddressText) : Locator := ⟨.udpv4, 0, entry.address⟩

/-- A call of a method that adds a transport, with well-formed peers. -/
inductive PeerCall
  /-- `addSHMTransport`. -/
  | addSHMTransport (segmentSize : BitVec 32)
  /-- `addTCPV4Transport`. -/
  | addTCPV4Transport (listenPort : BitVec 16) (entries : List TcpEntry)
      (few : entries.length < 2 ^ 31)
  /-- `addUDPV4Transport`. -/
  | addUDPV4Transport (bufferSize : BitVec 32) (entries : List AddressText)
      (few : entries.length < 2 ^ 31)
  /-- `addUDPV6Transport`. -/
  | addUDPV6Transport (bufferSize : BitVec 32)

namespace PeerCall

/-- The call with its peers as text. -/
def call : PeerCall → QosCall
  | .addSHMTransport segmentSize => .addSHMTransport segmentSize
  | .addTCPV4Transport listenPort entries _ =>
    .addTCPV4Transport listenPort (entries.map TcpEntry.text)
  | .addUDPV4Transport bufferSize entries _ =>
    .addUDPV4Transport bufferSize (entries.map AddressText.text)
  | .addUDPV6Transport bufferSize => .addUDPV6Transport bufferSize

/-- The locators it asks for, in order. -/
def locators : PeerCall → List Locator
  | .addTCPV4Transport _ entries _ => entries.filterMap TcpEntry.locator
  | .addUDPV4Transport _ entries _ => entries.map AddressText.locator
  | .addSHMTransport _ | .addUDPV6Transport _ => []

/-- The kind of transport it asks for. -/
def kind : PeerCall → LocatorKind
  | .addSHMTransport _ => .sharedMem
  | .addTCPV4Transport _ _ _ => .tcpv4
  | .addUDPV4Transport _ _ _ => .udpv4
  | .addUDPV6Transport _ => .udpv6

/-- A call asks for locators of its own kind. -/
theorem locators_kind {call : PeerCall} {locator : Locator} (member : locator ∈ call.locators) :
    locator.kind = call.kind := by
  cases call with
  | addSHMTransport segmentSize => cases member
  | addTCPV4Transport listenPort entries few =>
    obtain ⟨entry, _, asked⟩ := List.mem_filterMap.mp member
    cases entry with
    | portless text plain => cases asked
    | peer host digits port decimal =>
      obtain rfl := Option.some.inj asked
      rfl
  | addUDPV4Transport bufferSize entries few =>
    obtain ⟨entry, _, rfl⟩ := List.mem_map.mp member
    rfl
  | addUDPV6Transport bufferSize => cases member

end PeerCall

/-- A loop over few entries that its body reads appends what they ask for, in order. -/
theorem PeerLoop.run_reads {Entry : Type} {body : Text → Except QosFault (Option Locator)}
    (text : Entry → Text) (asked : Entry → Option Locator)
    (reads : ∀ entry, body (text entry) = .ok (asked entry)) (entries : List Entry)
    (loop : PeerLoop) (few : loop.i + entries.length < 2 ^ 31) :
    ∃ final, run (PeerLoop.step body) loop (entries.map text) = .ok final ∧
      final.handler.getQos.userTransports = loop.handler.getQos.userTransports ∧
      final.handler.getQos.initialPeersList =
        loop.handler.getQos.initialPeersList ++ entries.filterMap asked := by
  induction entries generalizing loop with
  | nil => exact ⟨loop, rfl, rfl, (List.append_nil _).symm⟩
  | cons entry entries ih =>
    rw [List.length_cons] at few
    have counted : loop.i + 1 < 2 ^ 31 := by omega
    have stepped : PeerLoop.step body loop (text entry) =
        .ok ((), ⟨loop.handler.pushPeer (asked entry), loop.i + 1⟩) := by
      simp only [PeerLoop.step, reads entry, counted, ↓reduceIte, bind, Except.bind]
    obtain ⟨final, ran, transports, peers⟩ :=
      ih ⟨loop.handler.pushPeer (asked entry), loop.i + 1⟩ (by simp only; omega)
    refine ⟨final, ?_, transports, ?_⟩
    · rw [List.map_cons, Machine.run_cons _ stepped]
      exact ran
    · rw [peers]
      cases wanted : asked entry with
      | none =>
        rw [List.filterMap_cons_none wanted]
        exact congrArg (· ++ entries.filterMap asked) (List.append_nil _)
      | some locator =>
        rw [List.filterMap_cons_some wanted]
        exact List.append_assoc _ [locator] _

/-- The loop of `addTCPV4Transport` reads its entries. -/
theorem TcpEntry.reads (sets : SetsAddress setIPv4) (entry : TcpEntry) :
    tcpPeerLocator setIPv4 entry.text = .ok entry.locator := by
  cases entry with
  | portless text plain =>
    refine tcpPeerLocator_none.mpr ?_
    rw [Skipped, TcpEntry.text, find_absent plain]
    rfl
  | peer host digits port decimal =>
    exact tcpPeerLocator_reads sets
      ⟨host.text, digits, host.address, port, rfl, host.reads, decimal, rfl⟩

/-- One call appends its locators and a transport of its kind. -/
theorem PeerCall.step (sets : SetsAddress setIPv4) (handler : ParticipantQosHandler)
    (call : PeerCall) :
    ∃ next, ParticipantQosHandler.step setIPv4 handler call.call = .ok ((), next) ∧
      next.getQos.initialPeersList = handler.getQos.initialPeersList ++ call.locators ∧
      next.getQos.userTransports.map TransportDescriptor.kind =
        handler.getQos.userTransports.map TransportDescriptor.kind ++ [call.kind] := by
  -- A pushed transport comes after those that were there.
  have pushed : ∀ (other : ParticipantQosHandler) (transport : TransportDescriptor),
      other.getQos.userTransports = handler.getQos.userTransports →
      (other.pushTransport transport).getQos.userTransports.map TransportDescriptor.kind =
        handler.getQos.userTransports.map TransportDescriptor.kind ++ [transport.kind] := by
    intro other transport same
    rw [← same]
    exact List.map_append
  cases call with
  | addSHMTransport segmentSize =>
    exact ⟨_, rfl, (List.append_nil _).symm, pushed handler (.sharedMem segmentSize) rfl⟩
  | addTCPV4Transport listenPort entries few =>
    obtain ⟨final, ran, transports, peers⟩ := PeerLoop.run_reads TcpEntry.text TcpEntry.locator
      (fun entry => entry.reads sets) entries ⟨handler, 0⟩ (by simpa using few)
    refine ⟨final.handler.pushTransport (.tcpv4 (if listenPort ≠ 0 then [listenPort] else [])), ?_,
      peers, pushed final.handler (.tcpv4 _) transports⟩
    simp only [PeerCall.call, ParticipantQosHandler.step, ParticipantQosHandler.addTCPV4Transport,
      ran, bind, Except.bind]
  | addUDPV4Transport bufferSize entries few =>
    obtain ⟨final, ran, transports, peers⟩ := PeerLoop.run_reads AddressText.text
      (fun entry => some entry.locator)
      (fun entry => udpPeerLocator_reads sets ⟨entry.address, entry.reads, rfl⟩) entries
      ⟨handler, 0⟩ (by simpa using few)
    rw [List.filterMap_eq_map'] at peers
    refine ⟨final.handler.pushTransport (.udpv4 bufferSize bufferSize true), ?_, peers,
      pushed final.handler (.udpv4 _ _ _) transports⟩
    simp only [PeerCall.call, ParticipantQosHandler.step, ParticipantQosHandler.addUDPV4Transport,
      ran, bind, Except.bind]
  | addUDPV6Transport bufferSize =>
    exact ⟨_, rfl, (List.append_nil _).symm, pushed handler (.udpv6 _ _ _) rfl⟩

/-- Calls one after the other append their locators and transports in order. -/
theorem PeerCall.run_appends (sets : SetsAddress setIPv4) (handler : ParticipantQosHandler)
    (calls : List PeerCall) :
    ∃ final, run (ParticipantQosHandler.step setIPv4) handler (calls.map PeerCall.call) =
        .ok final ∧
      final.getQos.initialPeersList =
        handler.getQos.initialPeersList ++ calls.flatMap PeerCall.locators ∧
      final.getQos.userTransports.map TransportDescriptor.kind =
        handler.getQos.userTransports.map TransportDescriptor.kind ++ calls.map PeerCall.kind := by
  induction calls generalizing handler with
  | nil => exact ⟨handler, rfl, (List.append_nil _).symm, (List.append_nil _).symm⟩
  | cons call calls ih =>
    obtain ⟨next, stepped, peers, transports⟩ := call.step sets handler
    obtain ⟨final, ran, laterPeers, laterTransports⟩ := ih next
    refine ⟨final, ?_, ?_, ?_⟩
    · rw [List.map_cons, Machine.run_cons _ stepped]
      exact ran
    · rw [laterPeers, peers, List.flatMap_cons, List.append_assoc]
    · rw [laterTransports, transports, List.map_cons, List.append_assoc, List.singleton_append]

/-- Any sequence of calls on a new handler keeps every well-formed peer, in the order of the calls
and of their entries, with one transport for each call and one for each peer's kind. -/
theorem peers_kept (sets : SetsAddress setIPv4) (participantName : Text) (calls : List PeerCall) :
    ∃ final, run (ParticipantQosHandler.step setIPv4)
        (ParticipantQosHandler.construct participantName) (calls.map PeerCall.call) = .ok final ∧
      final.getQos.initialPeersList = calls.flatMap PeerCall.locators ∧
      final.getQos.userTransports.map TransportDescriptor.kind = calls.map PeerCall.kind ∧
      ∀ locator ∈ final.getQos.initialPeersList,
        ∃ transport ∈ final.getQos.userTransports, transport.kind = locator.kind := by
  obtain ⟨final, ran, peers, transports⟩ := PeerCall.run_appends sets
    (ParticipantQosHandler.construct participantName) calls
  refine ⟨final, ran, peers, transports, ?_⟩
  intro locator member
  rw [peers] at member
  obtain ⟨call, made, asked⟩ := List.mem_flatMap.mp member
  have served : call.kind ∈ final.getQos.userTransports.map TransportDescriptor.kind := by
    rw [transports]
    exact List.mem_map_of_mem made
  obtain ⟨transport, present, same⟩ := List.mem_map.mp served
  exact ⟨transport, present, same.trans (PeerCall.locators_kind asked).symm⟩

/-- The printed text of an address. -/
def AddressText.ofQuad (address : Quad) : AddressText :=
  ⟨address.text, address, DecimalText.readQuad_text address⟩

/-- Calls of all four kinds, with an entry that is left out. -/
def mixedPeerCalls : List PeerCall :=
  [.addUDPV4Transport 65536 [.ofQuad ⟨10, 0, 0, 1⟩] (by decide),
    .addTCPV4Transport 5100 [.portless [] (by decide),
      .peer (.ofQuad ⟨127, 0, 0, 1⟩) (Nat.toDigits 10 10001) 10001
        (portText_toDigits (by decide) (by decide))] (by decide),
    .addSHMTransport 1024, .addUDPV6Transport 65536]

/-- On a new handler they leave two peers and four transports. -/
theorem peers_kept_mixed :
    ∃ final, run (ParticipantQosHandler.step setQuad) namelessHandler
        (mixedPeerCalls.map PeerCall.call) = .ok final ∧
      final.getQos.initialPeersList =
        [⟨.udpv4, 0, ⟨10, 0, 0, 1⟩⟩, ⟨.tcpv4, 10001, ⟨127, 0, 0, 1⟩⟩] ∧
      final.getQos.userTransports.map TransportDescriptor.kind =
        [.udpv4, .tcpv4, .sharedMem, .udpv6] := by
  obtain ⟨final, ran, peers, transports, _⟩ := peers_kept setQuad_sets [] mixedPeerCalls
  exact ⟨final, ran, peers, transports⟩

end FastDdsWrapper
