import FastDdsWrapper.EndpointObjects
import FastDdsWrapper.TopicLock

/-!
# The statements of a call on their own

Elsewhere each call of the wrapper is one step. Here that step is derived: the statements of a call
under the lock, executed without interruption, do what the call does. They fault as it does, and
end in the same state with the same answer, for `registerTopic` up to the end of its scope.
-/

namespace FastDdsWrapper

open Monitor (Section)

variable {σ Qos Message : Type} {api : Middleware σ Qos Message} {client : Client Qos Message}

/-- What the statements of a call under the lock come to, against the call as one step. -/
inductive Concluded (api : Middleware σ Qos Message) (world : World σ) (call : Call Qos Message)
    (answers : List Answer) : Except Fault (Position Qos × World σ) → Prop
  /-- They fault as the call does. -/
  | faulted (fault : Fault) (stepped : World.step api world call = .error fault) :
      Concluded api world call answers (.error fault)
  /-- They end in the state and with the answer of the call. -/
  | returned (answer : Answer) (after : World σ)
      (stepped : World.step api world call = .ok (answer, after)) :
      Concluded api world call answers (.ok (⟨.idle, answers ++ [answer]⟩, after))
  /-- Only the end of the scope of the `TypeSupport` is missing. -/
  | leaving (dataType : TopicDataType) (kept value : Bool) (after : World σ)
      (stepped : World.step api world call =
        .ok (.flag value, { after with toHost := after.leaveScope dataType kept })) :
      Concluded api world call answers (.ok (⟨.leaveScope dataType kept value, answers⟩, after))

variable {world after : World σ} {answers : List Answer} {point : Point Qos}
variable {statement : Guarded Qos} {result : Except Fault (Position Qos × World σ)}

/-- A statement under the lock is executed first. -/
theorem section_guarded
    (comes : Section (client.code api) ⟨.guarded statement, answers⟩ world result)
    (outcome : GuardedOutcome api world statement point after) :
    Section (client.code api) ⟨point, answers⟩ after result :=
  comes.acted rfl (by simp only [outcome.went, Except.map])

/-- A statement under the lock that faults ends the section. -/
theorem section_fault (fault : Fault)
    (comes : Section (client.code api) ⟨.guarded statement, answers⟩ world result)
    (faulted : statement.effect api world = .error fault) : result = .error fault :=
  comes.faulted rfl (by simp only [faulted, Except.map])

/-- `registerTopic` ends its section with the lock. -/
theorem section_registerUnlock {dataType : TopicDataType} {kept value : Bool}
    (comes : Section (client.code api) ⟨.registerUnlock dataType kept value, answers⟩ world
      result) : result = .ok (⟨.leaveScope dataType kept value, answers⟩, world) :=
  comes.released rfl

/-- So does every other call. -/
theorem section_unlock {answer : Answer}
    (comes : Section (client.code api) ⟨.unlock answer, answers⟩ world result) :
    result = .ok (⟨.idle, answers ++ [answer]⟩, world) :=
  comes.released rfl

/-- `unregisterTopic` as a sequence of statements. -/
theorem section_unregisterTopic {topicName : String}
    (comes : Section (client.code api) ⟨.guarded (.unregisterFind topicName), answers⟩ world
      result) : Concluded api world (.unregisterTopic topicName) answers result := by
  have returns : ∀ {value : Bool} {host : Host σ},
      UnregisterOutcome api world.toHost topicName value host →
      World.step api world (.unregisterTopic topicName) =
        .ok (.flag value, { world with toHost := host }) := by
    intro value host outcome
    simp only [World.step, unregisterTopic_ok.mpr outcome, bind, Except.bind]
  rcases entry : world.self.mapTopics.lookup topicName with _ | _ | topic
  · obtain rfl := section_unlock (section_guarded comes (.absent topicName entry))
    exact .returned _ _ (returns (.absent entry))
  · have erases := section_guarded comes (.nullEntry topicName entry)
    obtain rfl := section_unlock (section_guarded erases (.erased topicName))
    exact .returned _ _ (returns (.nullEntry entry))
  have deletes := section_guarded comes (.pointed topicName topic entry)
  cases live : world.derefParticipant api with
  | error fault =>
    obtain rfl := section_fault fault deletes
      (by simp only [Guarded.effect, live, bind, Except.bind])
    refine .faulted fault ?_
    simp only [World.step, unregisterTopic, entry, live, bind, Except.bind]
  | ok participant =>
    by_cases present : topic ∈ (api.holdings world.middleware).topics
    · rcases answered : api.deleteTopic world.middleware participant topic with
        ⟨_ | errcode, middleware⟩
      · have erases := section_guarded deletes
          (.deleted topicName topic participant middleware live present answered)
        obtain rfl := section_unlock (section_guarded erases (.erased topicName))
        exact .returned _ _ (returns
          (.deleted topic participant middleware entry live present answered))
      · have ends := section_guarded deletes
          (.deletionRefused topicName topic participant errcode middleware live present answered)
        obtain rfl := section_unlock ends
        exact .returned _ _ (returns
          (.refused topic participant errcode middleware entry live present answered))
    · have dangling : (Pointer.address topic).deref (api.holdings world.middleware).topics =
          .error .danglingPointer := by
        simp [Pointer.deref, present]
      obtain rfl := section_fault .danglingPointer deletes
        (by simp only [Guarded.effect, live, dangling, bind, Except.bind])
      refine .faulted _ ?_
      simp only [World.step, unregisterTopic, entry, live, dangling, bind, Except.bind]

/-- A creating method as a sequence of statements. -/
theorem section_createEndpoint {kind : EndpointKind} {topicName : String} {qos : Qos}
    {call : Call Qos Message}
    (same : World.step api world call = (createEndpoint api (api.createDataEndpoint kind) kind
      (world.self.group kind) world.toHost topicName qos world.nextObject).map world.adopt)
    (comes : Section (client.code api) ⟨.guarded (.createFind kind topicName qos), answers⟩ world
      result) : Concluded api world call answers result := by
  cases entry : world.self.mapTopics.lookup topicName with
  | none =>
    obtain rfl := section_unlock (section_guarded comes (.unlisted kind topicName qos entry))
    refine .returned _ _ (same.trans ?_)
    simp only [createEndpoint, entry, Except.map]
    rfl
  | some topic =>
    have constructs := section_guarded comes (.listed kind topicName qos topic entry)
    cases made : constructEndpoint api (api.createDataEndpoint kind) kind world.middleware
      (world.self.group kind) topic qos topicName world.nextObject with
    | error fault =>
      obtain rfl := section_fault fault constructs
        (by simp only [Guarded.effect, made, bind, Except.bind])
      refine .faulted fault (same.trans ?_)
      simp only [createEndpoint, entry, made, bind, Except.bind, Except.map]
    | ok created =>
      obtain ⟨endpoint, middleware⟩ := created
      have went : (Guarded.construct kind topicName qos topic).effect api world =
          .ok (.unlock (.endpoint (some endpoint)),
            (world.adopt (some endpoint, middleware)).2) := by
        simp only [Guarded.effect, made, bind, Except.bind]
      have ends := section_guarded constructs (Guarded.effect_cases went)
      obtain rfl := section_unlock ends
      refine .returned _ _ (same.trans ?_)
      simp only [createEndpoint, entry, made, bind, Except.bind, Except.map]
      rfl

/-- `registerTopic` as a sequence of statements, up to the end of its scope. -/
theorem section_registerTopic (contract : Contract api) {topicName : String}
    {dataType : TopicDataType} {topicQos : Qos} (intact : dataType ∉ world.destroyed)
    (comes : Section (client.code api)
      ⟨.guarded (.registerFind topicName dataType topicQos), answers⟩ world result) :
    Concluded api world (.registerTopic topicName (some dataType) topicQos) answers result := by
  have returns : ∀ {value : Bool} {host : Host σ},
      RegisterOutcome api world.toHost topicName topicQos (some dataType) value host →
      World.step api world (.registerTopic topicName (some dataType) topicQos) =
        .ok (.flag value, { world with toHost := host }) := by
    intro value host outcome
    simp only [World.step, registerTopic_ok.mpr outcome, bind, Except.bind]
  by_cases known : topicName ∈ world.self.mapTopics
  · have ends := section_guarded comes (.known topicName dataType topicQos known)
    obtain rfl := section_registerUnlock ends
    exact .leaving dataType false true world (returns (.alreadyRegistered dataType known intact))
  have registers := section_guarded comes (.unknown topicName dataType topicQos known)
  cases live : world.derefParticipant api with
  | error fault =>
    obtain rfl := section_fault fault registers
      (by simp only [Guarded.effect, intact, ↓reduceIte, live, bind, Except.bind])
    refine .faulted fault ?_
    simp only [World.step, registerTopic, intact, known, ↓reduceIte, live, bind, Except.bind]
  | ok participant =>
    rcases answered : api.registerType world.middleware participant dataType with
      ⟨⟨_ | errcode, kept⟩, registered⟩
    · have creates := section_guarded registers (.typeRegistered topicName dataType topicQos
        participant kept registered intact live answered)
      -- Registering a type leaves the participant alive.
      have still : Host.derefParticipant api { world.toHost with middleware := registered } =
          .ok participant := by
        obtain ⟨set, alive⟩ := derefParticipant_ok.mp live
        obtain ⟨types, held⟩ := registerType_held contract answered
        refine derefParticipant_ok.mpr ⟨set, ?_⟩
        rw [held]
        exact alive
      rcases created : api.createTopic registered participant topicName dataType.name topicQos with
        ⟨_ | topic, middleware⟩
      · have ends := section_guarded creates (.topicRefused topicName dataType topicQos kept
          participant middleware intact still created)
        obtain rfl := section_registerUnlock ends
        exact .leaving dataType kept true _ (returns (.topicRefused dataType participant kept
          registered middleware known live intact answered created))
      · have inserts := section_guarded creates (.topicCreated topicName dataType topicQos kept
          participant middleware topic intact still created)
        have ends := section_guarded inserts (.inserted topicName dataType kept topic known)
        obtain rfl := section_registerUnlock ends
        exact .leaving dataType kept true _ (returns (.topicCreated dataType participant kept
          registered middleware topic known live intact answered created))
    · have ends := section_guarded registers (.typeRefused topicName dataType topicQos participant
        errcode kept registered intact live answered)
      obtain rfl := section_registerUnlock ends
      exact .leaving dataType kept false _ (returns (.typeRefused dataType participant errcode kept
        registered known live intact answered))

/-- The statements of a call, executed without interruption, do what the call does. -/
theorem section_call (contract : Contract api) {call : Call Qos Message}
    (takes : call.guarded = some statement) (fit : ¬ Misused world call)
    (comes : Section (client.code api) ⟨.guarded statement, answers⟩ world result) :
    Concluded api world call answers result := by
  cases call with
  | registerTopic topicName dataType topicQos =>
    cases dataType with
    | none => cases takes
    | some dataType =>
      obtain rfl := Option.some.inj takes
      exact section_registerTopic contract fit comes
  | unregisterTopic topicName =>
    obtain rfl := Option.some.inj takes
    exact section_unregisterTopic comes
  | createDataWriter topicName dataWriterQos =>
    obtain rfl := Option.some.inj takes
    refine section_createEndpoint ?_ comes
    simp only [World.step, createDataWriter, Middleware.createDataEndpoint,
      DDSDomainParticipant.group]
    cases createEndpoint api api.createDatawriter .writer world.self.publisher world.toHost
      topicName dataWriterQos world.nextObject <;> rfl
  | createDataReader topicName dataReaderQos =>
    obtain rfl := Option.some.inj takes
    refine section_createEndpoint ?_ comes
    simp only [World.step, createDataReader, Middleware.createDataEndpoint,
      DDSDomainParticipant.group]
    cases createEndpoint api api.createDatareader .reader world.self.subscriber world.toHost
      topicName dataReaderQos world.nextObject <;> rfl
  | writeMessage object message => cases takes
  | destroyEndpoint kind object => cases takes

end FastDdsWrapper
