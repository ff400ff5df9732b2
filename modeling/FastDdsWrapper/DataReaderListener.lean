import FastDdsWrapper.DomainParticipant

/-!
# What a data reader hands to the callback

The middleware keeps the samples a reader received until they are taken, and notifies the reader's
listener. `DDSDataReaderListener::on_data_available` takes one sample per notification and gives a
valid one to `m_callback`. Over any interleaving of arrivals and notifications nothing that was
taken is lost, doubled or reordered, but a notification that finds several samples leaves all but
the oldest behind.
-/

namespace FastDdsWrapper

open Machine (run attempts)

/-- A received sample: data, or only a change of the instance's state. -/
inductive Sample (T : Type)
  /-- A message. -/
  | data (message : T)
  /-- A disposal or an unregistration. -/
  | noData
deriving DecidableEq

/-- `SampleInfo`, as far as the listener reads it. -/
structure SampleInfo where
  /-- `valid_data`. -/
  validData : Bool

namespace Sample

variable {T : Type}

/-- The message of a sample, if it has one. -/
def message? : Sample T → Option T
  | .data message => some message
  | .noData => none

/-- What `m_callback` is to be given for a sample. -/
def announced (topicName : String) (sample : Sample T) : Option (String × T) :=
  sample.message?.map fun message => (topicName, message)

end Sample

/-- The calls of a middleware `DataReader` that the listener makes, and the samples it holds. -/
structure DataReader (ρ T : Type) where
  /-- `get_topicdescription()->get_name()`. -/
  topicName : String
  /-- Samples received and not taken, oldest first. -/
  untaken : ρ → List (Sample T)
  /-- Samples taken so far, in the order they were taken. -/
  taken : ρ → List (Sample T)
  /-- A sample arrives. -/
  receive : ρ → Sample T → ρ
  /-- `take_next_sample`, from the content of the message buffer to its new content. -/
  takeNextSample : ρ → T → (ReturnCode × T × SampleInfo) × ρ

variable {ρ T : Type} {reader : DataReader ρ T}

/-- `take_next_sample` removes the oldest untaken sample and fills message and info from it, or
answers something else than OK and removes nothing. -/
def TakesOldest (reader : DataReader ρ T) : Prop :=
  ∀ state buffer,
    match reader.takeNextSample state buffer with
    | ((.ok, message, info), next) =>
      ∃ sample, reader.untaken state = sample :: reader.untaken next ∧
        reader.taken next = reader.taken state ++ [sample] ∧
        sample.message? = if info.validData then some message else none
    | ((.failed _, _, _), next) =>
      reader.untaken next = reader.untaken state ∧ reader.taken next = reader.taken state

/-- `take_next_sample` answers something else than OK only when no sample is left. -/
def TakesWhatWaits (reader : DataReader ρ T) : Prop :=
  ∀ state buffer, reader.untaken state ≠ [] → (reader.takeNextSample state buffer).1.1 = .ok

/-- A keep-all history: an arriving sample is put behind the others. -/
def KeepsAll (reader : DataReader ρ T) : Prop :=
  ∀ state sample, reader.untaken (reader.receive state sample) = reader.untaken state ++ [sample] ∧
    reader.taken (reader.receive state sample) = reader.taken state

/-! ## A reader in memory -/

/-- The two sample lists of a reader. -/
structure History (T : Type) where
  /-- Not taken yet. -/
  untaken : List (Sample T)
  /-- Taken. -/
  taken : List (Sample T)

/-- A reader that keeps all samples, or the last few. -/
def historyReader (depth : Option Nat) : DataReader (History T) T where
  topicName := "a"
  untaken := History.untaken
  taken := History.taken
  receive history sample :=
    let samples := history.untaken ++ [sample]
    { history with untaken := samples.drop (samples.length - depth.getD samples.length) }
  takeNextSample history buffer :=
    match history.untaken with
    | [] => ((.failed 11, buffer, ⟨false⟩), history)
    | sample :: rest =>
      ((.ok, sample.message?.getD buffer, ⟨sample.message?.isSome⟩),
        ⟨rest, history.taken ++ [sample]⟩)

/-- It takes the oldest sample. -/
theorem historyReader_takesOldest (depth : Option Nat) :
    TakesOldest (historyReader depth : DataReader (History T) T) := by
  intro history buffer
  cases waiting : history.untaken with
  | nil => simp [historyReader, waiting]
  | cons sample rest => cases sample <;> simp [historyReader, waiting, Sample.message?]

/-- It takes while a sample waits. -/
theorem historyReader_takesWhatWaits (depth : Option Nat) :
    TakesWhatWaits (historyReader depth : DataReader (History T) T) := by
  intro history buffer nonempty
  cases waiting : history.untaken with
  | nil => exact absurd waiting nonempty
  | cons sample rest => simp [historyReader, waiting]

/-- Without a depth it keeps all samples. -/
theorem historyReader_keepsAll : KeepsAll (historyReader none : DataReader (History T) T) := by
  intro history sample
  simp [historyReader]

/-! ## The listener -/

/-- `DDSDataReaderListener`. -/
structure DDSDataReaderListener where
  /-- Whether `m_callback` holds a function. -/
  callback : Bool

/-- `DDSDataReaderListener::on_data_available`; the result is what `m_callback` is given, if it is
called. -/
def DDSDataReaderListener.onDataAvailable [Inhabited T] (listener : DDSDataReaderListener)
    (reader : DataReader ρ T) (state : ρ) : Except Fault (Option (String × T) × ρ) :=
  match reader.takeNextSample state default with
  | ((retCode, message, info), state) =>
    if retCode = .ok ∧ info.validData then
      if listener.callback then .ok (some (reader.topicName, message), state)
      else .error .emptyCallback
    else .ok (none, state)

/-! ## A reader object over time -/

/-- A reader object at work. -/
structure Reception (ρ T : Type) where
  /-- `m_readerListener`. -/
  listener : DDSDataReaderListener
  /-- State of the middleware's data reader. -/
  state : ρ
  /-- What `m_callback` was given so far. -/
  delivered : List (String × T)

/-- What happens at a reader. -/
inductive ReaderEvent (T : Type)
  /-- A sample arrives. -/
  | arrive (sample : Sample T)
  /-- The middleware calls `on_data_available`. -/
  | notify

namespace Reception

/-- Right after the constructor of `DDSTopicDataReader`, which stored the given callback. -/
def construct (callback : Bool) (state : ρ) : Reception ρ T := ⟨⟨callback⟩, state, []⟩

/-- One event. -/
def step [Inhabited T] (reader : DataReader ρ T) :
    Machine.Step (Reception ρ T) (ReaderEvent T) Unit Fault := fun reception event =>
  match event with
  | .arrive sample => .ok ((), { reception with state := reader.receive reception.state sample })
  | .notify => do
    let (given, state) ← reception.listener.onDataAvailable reader reception.state
    .ok ((), { reception with state, delivered := reception.delivered ++ given.toList })

end Reception

/-- The sample an event brings. -/
def ReaderEvent.arrivals : ReaderEvent T → List (Sample T)
  | .arrive sample => [sample]
  | .notify => []

variable [Inhabited T]

/-- One notification with a set callback returns: it takes the oldest sample and delivers its
message, or takes nothing. -/
inductive Notified (reader : DataReader ρ T) (before : ρ) : Option (String × T) → ρ → Prop
  /-- The oldest sample is taken. -/
  | took (sample : Sample T) (after : ρ)
      (waiting : reader.untaken before = sample :: reader.untaken after)
      (recorded : reader.taken after = reader.taken before ++ [sample]) :
      Notified reader before (sample.announced reader.topicName) after
  /-- Nothing is taken. -/
  | idle (after : ρ) (refused : (reader.takeNextSample before default).1.1 ≠ .ok)
      (waiting : reader.untaken after = reader.untaken before)
      (recorded : reader.taken after = reader.taken before) :
      Notified reader before none after

/-- What a notification does. -/
theorem onDataAvailable_notified (takes : TakesOldest reader) {listener : DDSDataReaderListener}
    (set : listener.callback = true) (before : ρ) :
    ∃ given after, listener.onDataAvailable reader before = .ok (given, after) ∧
      Notified reader before given after := by
  have promised := takes before default
  rcases answered : reader.takeNextSample before default with
    ⟨⟨_ | errcode, message, ⟨validData⟩⟩, after⟩
  · simp only [answered] at promised
    obtain ⟨sample, waiting, recorded, filled⟩ := promised
    have took := Notified.took sample after waiting recorded
    rw [Sample.announced] at took
    cases validData with
    | true =>
      rw [if_pos rfl] at filled
      rw [filled] at took
      refine ⟨_, after, ?_, took⟩
      simp [DDSDataReaderListener.onDataAvailable, answered, set]
    | false =>
      rw [if_neg Bool.false_ne_true] at filled
      rw [filled] at took
      refine ⟨_, after, ?_, took⟩
      simp [DDSDataReaderListener.onDataAvailable, answered]
  · simp only [answered] at promised
    obtain ⟨waiting, recorded⟩ := promised
    refine ⟨none, after, ?_, .idle after ?_ waiting recorded⟩
    · simp [DDSDataReaderListener.onDataAvailable, answered]
    · simp [answered]

/-- What one event does while the callback is set. -/
theorem reception_step (takes : TakesOldest reader) {before : Reception ρ T}
    (set : before.listener.callback = true) (event : ReaderEvent T) :
    ∃ after, Reception.step reader before event = .ok ((), after) ∧
      after.listener = before.listener ∧
      match event with
      | .arrive sample => after.state = reader.receive before.state sample ∧
          after.delivered = before.delivered
      | .notify => ∃ given, Notified reader before.state given after.state ∧
          after.delivered = before.delivered ++ given.toList := by
  cases event with
  | arrive sample => exact ⟨_, rfl, rfl, rfl, rfl⟩
  | notify =>
    obtain ⟨given, state, returned, notified⟩ := onDataAvailable_notified takes set before.state
    refine ⟨{ before with state, delivered := before.delivered ++ given.toList }, ?_, rfl, given,
      notified, rfl⟩
    simp only [Reception.step, returned, bind, Except.bind]

/-- The callback is set and was given the data among the samples taken, in order. -/
structure Delivering (reader : DataReader ρ T) (reception : Reception ρ T) : Prop where
  /-- `m_callback` holds a function. -/
  set : reception.listener.callback = true
  /-- Every message that was taken has been delivered, in order and once. -/
  delivered : reception.delivered =
    (reader.taken reception.state).filterMap (Sample.announced reader.topicName)

/-- One event keeps the delivery in step with the taking, and what is taken or waiting grows by the
sample the event brings. -/
theorem delivering_step (takes : TakesOldest reader) (keeps : KeepsAll reader)
    {before : Reception ρ T} (delivering : Delivering reader before) (event : ReaderEvent T) :
    ∃ after, Reception.step reader before event = .ok ((), after) ∧ Delivering reader after ∧
      reader.taken after.state ++ reader.untaken after.state =
        (reader.taken before.state ++ reader.untaken before.state) ++ event.arrivals := by
  obtain ⟨after, stepped, listener, done⟩ := reception_step takes delivering.set event
  have set : after.listener.callback = true := by
    rw [listener]
    exact delivering.set
  refine ⟨after, stepped, ?_⟩
  cases event with
  | arrive sample =>
    obtain ⟨state, delivered⟩ := done
    obtain ⟨waiting, recorded⟩ := keeps before.state sample
    refine ⟨⟨set, ?_⟩, ?_⟩
    · rw [delivered, state, recorded]
      exact delivering.delivered
    · rw [state, waiting, recorded, ReaderEvent.arrivals, List.append_assoc]
  | notify =>
    obtain ⟨given, notified, delivered⟩ := done
    cases notified with
    | took sample _ waiting recorded =>
      refine ⟨⟨set, ?_⟩, ?_⟩
      · rw [delivered, delivering.delivered, recorded, List.filterMap_append]
        cases announced : sample.announced reader.topicName with
        | none => simp [announced]
        | some pair => simp [announced]
      · rw [recorded, waiting, ReaderEvent.arrivals]
        simp
    | idle _ refused waiting recorded =>
      refine ⟨⟨set, ?_⟩, ?_⟩
      · rw [delivered, delivering.delivered, recorded]
        simp
      · rw [recorded, waiting, ReaderEvent.arrivals, List.append_nil]

/-- Every run of a fresh keep-all reader goes through, `m_callback` was given exactly the data among
the samples taken, and the samples taken and those waiting are exactly the samples that arrived. -/
theorem delivery_conserved (takes : TakesOldest reader) (keeps : KeepsAll reader) (state : ρ)
    (nothingTaken : reader.taken state = []) (nothingWaiting : reader.untaken state = [])
    (events : List (ReaderEvent T)) :
    ∃ final, run (Reception.step reader) (Reception.construct true state) events = .ok final ∧
      final.delivered =
        (reader.taken final.state).filterMap (Sample.announced reader.topicName) ∧
      reader.taken final.state ++ reader.untaken final.state =
        events.flatMap ReaderEvent.arrivals := by
  have start : Delivering reader (Reception.construct true state) := by
    refine ⟨rfl, ?_⟩
    simp only [Reception.construct, nothingTaken, List.filterMap_nil]
  have stepped : ∀ before event output after, Delivering reader before →
      Reception.step reader before event = .ok (output, after) → Delivering reader after ∧
        reader.taken after.state ++ reader.untaken after.state =
          (reader.taken before.state ++ reader.untaken before.state) ++ event.arrivals := by
    intro before event output after delivering returned
    obtain ⟨other, again, next⟩ := delivering_step takes keeps delivering event
    rw [returned, Except.ok.injEq, Prod.mk.injEq] at again
    obtain ⟨_, rfl⟩ := again
    exact next
  have preserved : Machine.Preserves (Reception.step reader) (Delivering reader) :=
    fun before event output after delivering returned =>
      (stepped before event output after delivering returned).1
  obtain ⟨final, ran⟩ := Machine.run_progress
    (fun before event delivering => by
      obtain ⟨after, returned, _⟩ := delivering_step takes keeps delivering event
      exact ⟨(), after, returned⟩)
    preserved events start
  refine ⟨final, ran, (Machine.run_invariant preserved start ran).delivered, ?_⟩
  have total := Machine.run_accumulates
    (fun reception : Reception ρ T =>
      reader.taken reception.state ++ reader.untaken reception.state)
    ReaderEvent.arrivals
    (fun before event output after delivering returned =>
      (stepped before event output after delivering returned).2)
    preserved start ran
  rw [total, Reception.construct, nothingTaken, nothingWaiting, List.nil_append, List.nil_append]

/-- Valid and invalid samples, and a notification with nothing waiting. -/
def mixedEvents : List (ReaderEvent Nat) :=
  [.notify, .arrive (.data 1), .arrive .noData, .arrive (.data 2), .notify, .notify]

/-- Of these three samples two are taken, and the message of the one with data is delivered. -/
theorem delivery_conserved_mixed :
    ∃ final, run (Reception.step (historyReader none))
        (Reception.construct true (⟨[], []⟩ : History Nat)) mixedEvents = .ok final ∧
      final.delivered =
        final.state.taken.filterMap (Sample.announced "a") ∧
      final.state.taken ++ final.state.untaken = [.data 1, .noData, .data 2] ∧
      final.state.taken = [.data 1, .noData] ∧ final.delivered = [("a", 1)] := by
  obtain ⟨final, ran, delivered, conserved⟩ := delivery_conserved (historyReader_takesOldest none)
    historyReader_keepsAll (⟨[], []⟩ : History Nat) rfl rfl mixedEvents
  have taken : (run (Reception.step (historyReader none))
      (Reception.construct true (⟨[], []⟩ : History Nat)) mixedEvents).map
        (fun reception => reception.state.taken) = .ok [.data 1, .noData] := rfl
  rw [ran] at taken
  have both : final.state.taken = [.data 1, .noData] := Except.ok.inj taken
  refine ⟨final, ran, delivered, conserved, both, ?_⟩
  rw [delivered]
  show final.state.taken.filterMap (Sample.announced "a") = _
  rw [both]
  rfl

/-- A notification leaves no sample behind and delivers every message that was waiting. -/
def Drained (reader : DataReader ρ T)
    (attempt : Machine.Attempt (Reception ρ T) (ReaderEvent T) Unit Fault) : Prop :=
  match attempt.event with
  | .arrive _ => True
  | .notify => ∃ after, attempt.outcome = .ok ((), after) ∧ reader.untaken after.state = [] ∧
      ∀ message, .data message ∈ reader.untaken attempt.before.state →
        (reader.topicName, message) ∈ after.delivered

/-- A notification finds at most one sample. -/
def FindsAtMostOne (reader : DataReader ρ T) (before : Reception ρ T) : ReaderEvent T → Prop
  | .arrive _ => True
  | .notify => (reader.untaken before.state).length ≤ 1

/-- A notification drains the reader exactly when it finds at most one sample. -/
theorem notify_drained_iff (takes : TakesOldest reader) (all : TakesWhatWaits reader)
    {before : Reception ρ T} (set : before.listener.callback = true) (event : ReaderEvent T) :
    Drained reader ⟨before, event, Reception.step reader before event⟩ ↔
      FindsAtMostOne reader before event := by
  cases event with
  | arrive sample => exact Iff.rfl
  | notify =>
    obtain ⟨after, stepped, _, given, notified, delivered⟩ :=
      reception_step takes set ReaderEvent.notify
    have own : Drained reader ⟨before, .notify, Reception.step reader before .notify⟩ ↔
        reader.untaken after.state = [] ∧
          ∀ message, .data message ∈ reader.untaken before.state →
            (reader.topicName, message) ∈ after.delivered := by
      constructor
      · intro drained
        obtain ⟨other, again, rest⟩ := drained
        simp only at again
        rw [stepped, Except.ok.injEq, Prod.mk.injEq] at again
        obtain ⟨_, rfl⟩ := again
        exact rest
      · intro rest
        exact ⟨after, stepped, rest⟩
    rw [own, FindsAtMostOne]
    cases notified with
    | took sample _ waiting recorded =>
      rw [waiting, List.length_cons]
      constructor
      · intro drained
        have empty := drained.1
        rw [empty, List.length_nil]
      · intro bound
        have empty : reader.untaken after.state = [] := by
          apply List.eq_nil_of_length_eq_zero
          omega
        refine ⟨empty, fun message member => ?_⟩
        rw [empty, List.mem_singleton] at member
        rw [delivered, ← member]
        simp [Sample.announced, Sample.message?]
    | idle _ refused waiting recorded =>
      have empty : reader.untaken before.state = [] := by
        by_contra nonempty
        exact refused (all before.state default nonempty)
      rw [waiting, empty]
      refine iff_of_true ⟨rfl, fun message member => ?_⟩ (Nat.zero_le 1)
      cases member

/-- In every run, whatever history the reader keeps, each notification leaves no sample behind
exactly when each finds at most one. -/
theorem drained_iff (takes : TakesOldest reader) (all : TakesWhatWaits reader) (state : ρ)
    (events : List (ReaderEvent T)) :
    (∀ attempt ∈ attempts (Reception.step reader) (Reception.construct true state) events,
        Drained reader attempt) ↔
      ∀ attempt ∈ attempts (Reception.step reader) (Reception.construct true state) events,
        FindsAtMostOne reader attempt.before attempt.event := by
  have preserved : Machine.Preserves (Reception.step reader)
      (fun reception => reception.listener.callback = true) := by
    intro before event output after set returned
    obtain ⟨other, again, listener, _⟩ := reception_step takes set event
    rw [returned, Except.ok.injEq, Prod.mk.injEq] at again
    obtain ⟨_, rfl⟩ := again
    rw [listener]
    exact set
  exact Machine.attempts_iff preserved
    (fun before event set => notify_drained_iff takes all set event) events rfl

/-- Valid and invalid samples, each with its own notification. -/
def alternatingEvents : List (ReaderEvent Nat) :=
  [.arrive (.data 1), .notify, .arrive .noData, .notify]

/-- These events run to the end, and each notification drains the reader. -/
theorem drained_iff_alternating :
    (run (Reception.step (historyReader none)) (Reception.construct true ⟨[], []⟩)
        alternatingEvents).isOk = true ∧
      ∀ attempt ∈ attempts (Reception.step (historyReader none))
        (Reception.construct true ⟨[], []⟩) alternatingEvents,
          Drained (historyReader none) attempt := by
  refine ⟨rfl, (drained_iff (historyReader_takesOldest none) (historyReader_takesWhatWaits none)
    ⟨[], []⟩ alternatingEvents).mpr ?_⟩
  intro attempt member
  rcases member with _ | ⟨_, _ | ⟨_, _ | ⟨_, _ | ⟨_, member⟩⟩⟩⟩
  · trivial
  · exact Nat.le_refl 1
  · trivial
  · exact Nat.le_refl 1
  · cases member

/-- Two samples and one notification for both: the second stays behind. -/
theorem notify_leaves_backlog :
    ¬ ∀ attempt ∈ attempts (Reception.step (historyReader none))
      (Reception.construct true (⟨[], []⟩ : History Nat))
      [.arrive (.data 1), .arrive (.data 2), .notify], Drained (historyReader none) attempt := by
  intro drained
  obtain ⟨after, returned, empty, _⟩ := drained
    ⟨⟨⟨true⟩, ⟨[.data 1, .data 2], []⟩, []⟩, .notify, .ok ((), ⟨⟨true⟩, ⟨[.data 2], [.data 1]⟩,
      [("a", 1)]⟩)⟩ (.tail _ (.tail _ (.head _)))
  obtain ⟨_, rfl⟩ := Prod.mk.inj (Except.ok.inj returned)
  cases empty

end FastDdsWrapper
