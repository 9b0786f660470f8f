import Ros2Graph.Registry.InspectionPlan

/-! An inspection goes as planned: what a scope has to do with the endpoints the
inspection started from, visit after visit. -/

set_option autoImplicit false

namespace Ros2Graph

open Foundation

/-- The scope agrees with what the plan knows about it: the inspection has
started from `start` and gone through the earlier visits. -/
structure Tracks (dds : Dds) (start : Scope) (earlier : List Visit) (registered : Nat)
    (scope : Scope) : Prop where
  writers : ∀ dw, detectEndpointType (dds.writerTopicName dw) true ≠ .unknown →
    scope.node.endpoints.any (GraphEndpoint.holdsWriter dw) =
      (start.node.endpoints.any (GraphEndpoint.holdsWriter dw) || earlier.contains (.writer dw))
  readers : ∀ dr, detectEndpointType (dds.readerTopicName dr) false ≠ .unknown →
    scope.node.endpoints.any (GraphEndpoint.holdsReader dr) =
      (start.node.endpoints.any (GraphEndpoint.holdsReader dr) || earlier.contains (.reader dr))
  topics : ∀ topicName, isServiceTopic topicName = true →
    scope.node.endpoints.any (GraphEndpoint.readsTopic dds topicName) =
      (start.node.endpoints.any (GraphEndpoint.readsTopic dds topicName) ||
        earlier.any (Visit.readsTopic dds topicName))
  -- while no reader has been visited, the first endpoint on a topic stays in place
  firstReading : earlier.any Visit.isReader = false → ∀ topicName, isServiceTopic topicName = true →
    (locate (GraphEndpoint.readsTopic dds topicName) scope.node.endpoints).map
        (fun found => found.2.ddsWriter.isSome) =
      (locate (GraphEndpoint.readsTopic dds topicName) start.node.endpoints).map
        (fun found => found.2.ddsWriter.isSome ||
          earlier.any (Visit.newWriterOn dds start.node.endpoints topicName))
  used : RoomUsed start.node start.pool registered scope.pool scope.node
  flag : (scope.endpHandle != EndpointHandle.invalid) = decide (0 < registered)

theorem Tracks.start {dds : Dds} {start : Scope}
    (flag : start.endpHandle = EndpointHandle.invalid) : Tracks dds start [] 0 start where
  writers := by simp
  readers := by simp
  topics := by simp
  firstReading := by simp
  used := ⟨rfl, rfl⟩
  flag := by simp [flag]

section

variable {dds : Dds} {env : CallEnv} {start scope left : Scope} {earlier : List Visit}
  {registered : Nat}

private theorem contains_writer (earlier : List Visit) (dw other : DataWriter) :
    (earlier ++ [Visit.writer dw]).contains (.writer other) =
      (earlier.contains (.writer other) || some dw == some other) := by
  rw [Bool.eq_iff_iff]
  simp [@eq_comm _ other dw]

private theorem contains_reader (earlier : List Visit) (dr other : DataReader) :
    (earlier ++ [Visit.reader dr]).contains (.reader other) =
      (earlier.contains (.reader other) || some dr == some other) := by
  rw [Bool.eq_iff_iff]
  simp [@eq_comm _ other dr]

/-- A writer visited before any reader, on a topic where no endpoint reads,
leaves the first endpoint of every topic in place. -/
private theorem Tracks.firstReading_writer (tracks : Tracks dds start earlier registered scope)
    {dw : DataWriter}
    (alone : isServiceTopic (dds.writerTopicName dw) = true →
      locate (GraphEndpoint.readsTopic dds (dds.writerTopicName dw)) scope.node.endpoints = none)
    (noReader : earlier.any Visit.isReader = false) (topicName : CString)
    (service : isServiceTopic topicName = true) :
    (locate (GraphEndpoint.readsTopic dds topicName) scope.node.endpoints).map
        (fun found => found.2.ddsWriter.isSome) =
      (locate (GraphEndpoint.readsTopic dds topicName) start.node.endpoints).map
        (fun found => found.2.ddsWriter.isSome ||
          (earlier ++ [Visit.writer dw]).any
            (Visit.newWriterOn dds start.node.endpoints topicName)) := by
  have tracked := tracks.firstReading noReader topicName service
  cases same : dds.writerTopicName dw == topicName with
  | false => simpa [Visit.newWriterOn, same] using tracked
  | true =>
      have equal : dds.writerTopicName dw = topicName := by simpa using same
      rw [← equal] at tracked service ⊢
      rw [alone service, Option.map_none] at tracked ⊢
      rw [Option.map_eq_none_iff.mp tracked.symm]
      rfl

theorem Tracks.registerWriter (tracks : Tracks dds start earlier registered scope)
    {dw : DataWriter} {endp : GraphEndpoint}
    (alone : isServiceTopic (dds.writerTopicName dw) = true →
      locate (GraphEndpoint.readsTopic dds (dds.writerTopicName dw)) scope.node.endpoints = none)
    (endpoints : left.node.endpoints = scope.node.endpoints ++ [endp])
    (reader : endp.ddsReader = none) (writer : endp.ddsWriter = some dw)
    (used : RoomUsed start.node start.pool (registered + 1) left.pool left.node)
    (flag : (left.endpHandle != EndpointHandle.invalid) = true) :
    Tracks dds start (earlier ++ [.writer dw]) (registered + 1) left where
  writers := by
    intro other conforming
    rw [contains_writer, ← Bool.or_assoc, ← tracks.writers other conforming]
    simp [endpoints, GraphEndpoint.holdsWriter, writer]
  readers := by
    intro other conforming
    simp [endpoints, tracks.readers other conforming, GraphEndpoint.holdsReader, reader]
  topics := by
    intro topicName service
    simp [endpoints, tracks.topics topicName service, GraphEndpoint.readsTopic, reader,
      Visit.readsTopic]
  firstReading := by
    intro noReader topicName service
    have rejected : endp.readsTopic dds topicName = false := by
      simp [GraphEndpoint.readsTopic, reader]
    rw [endpoints, locate_append_of_rejected _ rejected]
    exact tracks.firstReading_writer alone (by simpa [Visit.isReader] using noReader)
      topicName service
  used := used
  flag := by simp [flag]

theorem Tracks.registerReader (tracks : Tracks dds start earlier registered scope)
    {dr : DataReader} {endp : GraphEndpoint}
    (endpoints : left.node.endpoints = scope.node.endpoints ++ [endp])
    (reader : endp.ddsReader = some dr) (writer : endp.ddsWriter = none)
    (used : RoomUsed start.node start.pool (registered + 1) left.pool left.node)
    (flag : (left.endpHandle != EndpointHandle.invalid) = true) :
    Tracks dds start (earlier ++ [.reader dr]) (registered + 1) left where
  writers := by
    intro other conforming
    simp [endpoints, tracks.writers other conforming, GraphEndpoint.holdsWriter, writer]
  readers := by
    intro other conforming
    rw [contains_reader, ← Bool.or_assoc, ← tracks.readers other conforming]
    simp [endpoints, GraphEndpoint.holdsReader, reader]
  topics := by
    intro topicName service
    simp only [endpoints, List.any_append, tracks.topics topicName service, Bool.or_assoc]
    simp [GraphEndpoint.readsTopic, reader, Visit.readsTopic]
  firstReading := by
    intro noReader
    simp [Visit.isReader] at noReader
  used := used
  flag := by simp [flag]

/-- Attaching a writer that is not held to the first endpoint on its topic keeps
the scope tracked: the endpoint now counts as taken by a new writer. -/
theorem Tracks.attach (tracks : Tracks dds start earlier registered scope)
    {dw : DataWriter} {ptr : EndpointPtr} {endp : GraphEndpoint}
    (conforming : detectEndpointType (dds.writerTopicName dw) true ≠ .unknown)
    (unheld : locate (GraphEndpoint.holdsWriter dw) scope.node.endpoints = none)
    (first : locate (GraphEndpoint.readsTopic dds (dds.writerTopicName dw))
      scope.node.endpoints = some (ptr, endp))
    (vacant : endp.ddsWriter = none)
    (result : left = { scope with node := { scope.node with
      endpoints := scope.node.endpoints.set ptr { endp with ddsWriter := some dw } } }) :
    Tracks dds start (earlier ++ [.writer dw]) registered left := by
  obtain ⟨front, rest, split, length, onTopic, before⟩ := locate_eq_some_iff.mp first
  have attached : left.node.endpoints =
      front ++ { endp with ddsWriter := some dw } :: rest := by
    rw [result, split, ← length]
    exact set_at_split front rest endp _
  have handlesSame : (front ++ { endp with ddsWriter := some dw } :: rest).map (·.handle) =
      scope.node.endpoints.map (·.handle) := by simp [split]
  have fresh : start.node.endpoints.any (GraphEndpoint.holdsWriter dw) = false := by
    have tracked := tracks.writers dw conforming
    rw [← locate_isSome_eq_any, unheld, Option.isSome_none] at tracked
    exact (Bool.or_eq_false_iff.mp tracked.symm).1
  refine ⟨?_, ?_, ?_, ?_, ⟨?_, result ▸ tracks.used.outstanding⟩, result ▸ tracks.flag⟩
  · intro other otherConforming
    rw [contains_writer, ← Bool.or_assoc, ← tracks.writers other otherConforming, attached, split,
      Bool.eq_iff_iff]
    simp [GraphEndpoint.holdsWriter, vacant, or_assoc, @or_comm (dw = other)]
  · intro other otherConforming
    have tracked := tracks.readers other otherConforming
    rw [split] at tracked
    rw [attached]
    simpa [GraphEndpoint.holdsReader] using tracked
  · intro topicName service
    have tracked := tracks.topics topicName service
    rw [split] at tracked
    rw [attached]
    simpa [GraphEndpoint.readsTopic, Visit.readsTopic] using tracked
  · intro noReader topicName service
    have tracked := tracks.firstReading (by simpa [Visit.isReader] using noReader)
      topicName service
    rw [attached]
    cases same : dds.writerTopicName dw == topicName with
    | false =>
        have rejected : endp.readsTopic dds topicName = false := by
          unfold GraphEndpoint.readsTopic at onTopic ⊢
          rw [beq_iff_eq.mp onTopic]
          simpa using same
        rw [@locate_replace_rejected _ _ front rest endp { endp with ddsWriter := some dw }
          rejected rejected, ← split]
        simpa [Visit.newWriterOn, same] using tracked
    | true =>
        have equal : dds.writerTopicName dw = topicName := by simpa using same
        subst equal
        have stillFirst : locate (GraphEndpoint.readsTopic dds (dds.writerTopicName dw))
            (front ++ { endp with ddsWriter := some dw } :: rest) =
              some (front.length, { endp with ddsWriter := some dw }) :=
          locate_eq_some_iff.mpr ⟨front, rest, rfl, rfl, onTopic, before⟩
        rw [stillFirst]
        rw [first] at tracked
        cases initially : locate (GraphEndpoint.readsTopic dds (dds.writerTopicName dw))
            start.node.endpoints with
        | none => simp [initially] at tracked
        | some found => simp [Visit.newWriterOn, fresh]
  · rw [tracks.used.handles]
    unfold GraphNode.handleSpace
    rw [attached, handlesSame, result]

theorem Tracks.passed (tracks : Tracks dds start earlier registered scope) {visit : Visit}
    (passes : plannedAction dds start.node.endpoints earlier visit = .pass) :
    Tracks dds start (earlier ++ [visit]) registered scope := by
  cases visit with
  | failed => cases passes
  | writer dw =>
      have seen := plannedAction_writer_pass passes
      refine ⟨?_, ?_, ?_, ?_, tracks.used, tracks.flag⟩
      · intro other conforming
        rw [contains_writer, ← Bool.or_assoc, ← tracks.writers other conforming]
        cases same : some dw == some other with
        | false => simp
        | true =>
            have equal : dw = other := by simpa using same
            rw [Bool.or_true, ← equal, tracks.writers dw (equal ▸ conforming)]
            exact seen (equal ▸ conforming)
      · intro other conforming
        simp [tracks.readers other conforming]
      · intro topicName service
        simp [tracks.topics topicName service, Visit.readsTopic]
      · intro noReader topicName service
        rw [tracks.firstReading (by simpa [Visit.isReader] using noReader) topicName service]
        have known : (earlier ++ [Visit.writer dw]).any
            (Visit.newWriterOn dds start.node.endpoints topicName) =
              earlier.any (Visit.newWriterOn dds start.node.endpoints topicName) := by
          cases new : (Visit.writer dw).newWriterOn dds start.node.endpoints topicName with
          | false => simp [new]
          | true =>
              obtain ⟨onTopic, fresh⟩ : dds.writerTopicName dw = topicName ∧
                  start.node.endpoints.any (GraphEndpoint.holdsWriter dw) = false := by
                simpa [Visit.newWriterOn] using new
              have earlierToo := seen (onTopic ▸ (conforming_of_service service).2)
              rw [fresh, Bool.false_or] at earlierToo
              have present : earlier.any
                  (Visit.newWriterOn dds start.node.endpoints topicName) = true :=
                List.any_eq_true.mpr ⟨_, by simpa using earlierToo, new⟩
              simp [present]
        rw [known]
  | reader dr =>
      have seen := plannedAction_reader_pass passes
      refine ⟨?_, ?_, ?_, ?_, tracks.used, tracks.flag⟩
      · intro other conforming
        simp [tracks.writers other conforming]
      · intro other conforming
        rw [contains_reader, ← Bool.or_assoc, ← tracks.readers other conforming]
        cases same : some dr == some other with
        | false => simp
        | true =>
            have equal : dr = other := by simpa using same
            rw [Bool.or_true, ← equal, tracks.readers dr (equal ▸ conforming)]
            exact seen (equal ▸ conforming)
      · intro topicName service
        rw [tracks.topics topicName service, List.any_append]
        cases onTopic : (Visit.reader dr).readsTopic dds topicName with
        | false => simp [onTopic]
        | true =>
            have equal : dds.readerTopicName dr = topicName := by
              simpa [Visit.readsTopic] using onTopic
            have already := seen (equal ▸ (conforming_of_service service).1)
            have present : (start.node.endpoints.any (GraphEndpoint.readsTopic dds topicName) ||
                earlier.any (Visit.readsTopic dds topicName)) = true := by
              rcases Bool.or_eq_true_iff.mp already with held | visited
              · obtain ⟨endp, member, holds⟩ := List.any_eq_true.mp held
                refine Bool.or_eq_true_iff.mpr (.inl (List.any_eq_true.mpr ⟨endp, member, ?_⟩))
                simp [GraphEndpoint.readsTopic, beq_iff_eq.mp holds, equal]
              · exact Bool.or_eq_true_iff.mpr
                  (.inr (List.any_eq_true.mpr ⟨_, by simpa using visited, onTopic⟩))
            rw [← Bool.or_assoc, present, Bool.true_or]
      · intro noReader
        simp [Visit.isReader] at noReader

/-- The visit takes the planned action, and goes on when the plan says so. -/
structure PlannedVisit (dds : Dds) (env : CallEnv) (start : Scope) (earlier : List Visit)
    (registered : Nat) (scope : Scope) (visit : Visit) (action : Action) (continues : Bool)
    (left : Scope) : Prop where
  action_eq : action = plannedAction dds start.node.endpoints earlier visit
  continues_eq : continues = action.proceeds (start.node.hasRoom env start.pool) registered
  tracked : continues = true →
    Tracks dds start (earlier ++ [visit]) (registered + action.registrations) left
  stopped : continues = false →
    left.node.endpoints.length = scope.node.endpoints.length

private theorem Tracks.plannedPass (tracks : Tracks dds start earlier registered scope)
    {visit : Visit} (passes : plannedAction dds start.node.endpoints earlier visit = .pass) :
    PlannedVisit dds env start earlier registered scope visit .pass true scope where
  action_eq := passes.symm
  continues_eq := rfl
  tracked := fun _ => tracks.passed passes
  stopped := fun impossible => absurd impossible.symm Bool.false_ne_true

private theorem Tracks.plannedRefusal {visit : Visit}
    (refuses : plannedAction dds start.node.endpoints earlier visit = .refuse) :
    PlannedVisit dds env start earlier registered scope visit .refuse false scope where
  action_eq := refuses.symm
  continues_eq := rfl
  tracked := fun impossible => absurd impossible Bool.false_ne_true
  stopped := fun _ => rfl

theorem Tracks.writer_unseen (tracks : Tracks dds start earlier registered scope)
    {dw : DataWriter} (conforming : detectEndpointType (dds.writerTopicName dw) true ≠ .unknown)
    (unheld : locate (GraphEndpoint.holdsWriter dw) scope.node.endpoints = none) :
    (start.node.endpoints.any (GraphEndpoint.holdsWriter dw) ||
      earlier.contains (.writer dw)) = false := by
  rw [← tracks.writers dw conforming, ← locate_isSome_eq_any, unheld]
  rfl

theorem Tracks.reader_unseen (tracks : Tracks dds start earlier registered scope)
    {dr : DataReader} (conforming : detectEndpointType (dds.readerTopicName dr) false ≠ .unknown)
    (unheld : locate (GraphEndpoint.holdsReader dr) scope.node.endpoints = none) :
    (start.node.endpoints.any (GraphEndpoint.holdsReader dr) ||
      earlier.contains (.reader dr)) = false := by
  rw [← tracks.readers dr conforming, ← locate_isSome_eq_any, unheld]
  rfl

private theorem Tracks.writer_found (tracks : Tracks dds start earlier registered scope)
    {dw : DataWriter} {ptr : EndpointPtr} {endp : GraphEndpoint}
    (noReader : earlier.any Visit.isReader = false)
    (unheld : locate (GraphEndpoint.holdsWriter dw) scope.node.endpoints = none)
    (service : isServiceTopic (dds.writerTopicName dw) = true)
    (first : locate (GraphEndpoint.readsTopic dds (dds.writerTopicName dw))
      scope.node.endpoints = some (ptr, endp)) :
    plannedAction dds start.node.endpoints earlier (.writer dw) =
      if endp.ddsWriter.isSome then .refuse else .attach := by
  have conforming := (conforming_of_service service).2
  rw [plannedAction_writer_new (tracks.writer_unseen conforming unheld) conforming, service,
    if_pos rfl]
  have tracked := tracks.firstReading noReader (dds.writerTopicName dw) service
  rw [first] at tracked
  cases initially : locate (GraphEndpoint.readsTopic dds (dds.writerTopicName dw))
      start.node.endpoints with
  | none => simp [initially] at tracked
  | some found =>
      rw [initially, Option.map_some, Option.map_some, Option.some.injEq] at tracked
      simp only [← tracked]

private theorem Tracks.plannedRegistration (tracks : Tracks dds start earlier registered scope)
    {visit : Visit} {endpType : EndpointType} {ddsReader : Option DataReader}
    {ddsWriter : Option DataWriter} {pool : FastBufferPool} {node : GraphNode}
    {added : Option GraphEndpoint}
    (registering : plannedAction dds start.node.endpoints earlier visit = .register)
    (admitted : scope.node.Admits dds endpType ddsReader ddsWriter)
    (ran : scope.node.registerEndpoint dds env scope.pool endpType ddsReader ddsWriter =
      (pool, node, added))
    (tracked : ∀ endp : GraphEndpoint, node.endpoints = scope.node.endpoints ++ [endp] →
      endp.ddsReader = ddsReader → endp.ddsWriter = ddsWriter →
      RoomUsed start.node start.pool (registered + 1) pool node →
      (endp.handle != EndpointHandle.invalid) = true →
      Tracks dds start (earlier ++ [visit]) (registered + 1) ⟨pool, node, endp.handle⟩) :
    PlannedVisit dds env start earlier registered scope visit .register added.isSome
      ⟨pool, node, (added.map (·.handle)).getD scope.endpHandle⟩ := by
  obtain ⟨room, registers⟩ := tracks.used.registration admitted ran
  refine ⟨registering.symm, room, ?_, ?_⟩
  · intro succeeded
    cases added with
    | none => cases succeeded
    | some endp =>
        obtain ⟨endpoints, shape, nonnegative, used⟩ := registers endp rfl
        exact tracked endp endpoints (by rw [shape]) (by rw [shape]) used
          (handle_ne_invalid nonnegative)
  · intro failed
    cases added with
    | none =>
        obtain ⟨counter, moved⟩ := GraphNode.registerEndpoint_none ran
        rw [moved]
    | some endp => cases failed

theorem VisitEffect.planned {visit : Visit} {action : Action} {continues : Bool}
    (effect : VisitEffect dds env scope visit action continues left)
    (tracks : Tracks dds start earlier registered scope)
    (writersFirst : ∀ dw, visit = .writer dw → earlier.any Visit.isReader = false) :
    PlannedVisit dds env start earlier registered scope visit action continues left := by
  cases effect with
  | failed => exact Tracks.plannedRefusal rfl
  | @heldWriter dw found held =>
      apply tracks.plannedPass
      by_cases foreign : detectEndpointType (dds.writerTopicName dw) true = .unknown
      · exact plannedAction_writer_foreign foreign
      · apply plannedAction_writer_seen
        rw [← tracks.writers dw foreign, ← locate_isSome_eq_any, held]
        rfl
  | @heldReader dr found held =>
      apply tracks.plannedPass
      by_cases foreign : detectEndpointType (dds.readerTopicName dr) false = .unknown
      · exact plannedAction_reader_foreign foreign
      · apply plannedAction_reader_seen
        rw [← tracks.readers dr foreign, ← locate_isSome_eq_any, held]
        rfl
  | foreignWriter foreign => exact tracks.plannedPass (plannedAction_writer_foreign foreign)
  | foreignReader foreign => exact tracks.plannedPass (plannedAction_reader_foreign foreign)
  | @registerWriter dw endpType pool node added unheld kind known alone ran =>
      have conforming : detectEndpointType (dds.writerTopicName dw) true ≠ .unknown :=
        kind ▸ known
      have admitted : scope.node.Admits dds endpType none (some dw) := by
        refine ⟨(GraphNode.lookup_writer_eq _ _).trans unheld, by simp, ?_⟩
        intro writer member
        cases member
        exact kind
      have registering : plannedAction dds start.node.endpoints earlier (.writer dw) =
          .register := by
        rw [plannedAction_writer_new (tracks.writer_unseen conforming unheld) conforming]
        cases service : isServiceTopic (dds.writerTopicName dw) with
        | false => rfl
        | true =>
            have tracked := tracks.firstReading (writersFirst dw rfl) _ service
            rw [alone service, Option.map_none] at tracked
            rw [Option.map_eq_none_iff.mp tracked.symm]
            rfl
      apply tracks.plannedRegistration registering admitted ran
      intro endp endpoints reader writer used flag
      exact tracks.registerWriter alone endpoints reader writer used flag
  | @registerReader dr endpType pool node added unheld kind known alone ran =>
      have conforming : detectEndpointType (dds.readerTopicName dr) false ≠ .unknown :=
        kind ▸ known
      have admitted : scope.node.Admits dds endpType (some dr) none := by
        refine ⟨(GraphNode.lookup_reader_eq _ _).trans unheld, ?_, by simp⟩
        intro reader member
        cases member
        exact kind
      have registering : plannedAction dds start.node.endpoints earlier (.reader dr) =
          .register := by
        rw [plannedAction_reader_new (tracks.reader_unseen conforming unheld) conforming]
        cases service : isServiceTopic (dds.readerTopicName dr) with
        | false => rfl
        | true =>
            rw [← tracks.topics _ service, ← locate_isSome_eq_any, alone service]
            rfl
      apply tracks.plannedRegistration registering admitted ran
      intro endp endpoints reader writer used flag
      exact tracks.registerReader endpoints reader writer used flag
  | @occupied dw ptr endp unheld service first taken =>
      apply Tracks.plannedRefusal
      rw [tracks.writer_found (writersFirst dw rfl) unheld service first, taken]
      rfl
  | @attached dw ptr endp unheld service first vacant =>
      refine ⟨?_, tracks.flag, ?_, ?_⟩
      · rw [tracks.writer_found (writersFirst dw rfl) unheld service first, vacant]
        rfl
      · intro _
        exact tracks.attach (conforming_of_service service).2 unheld first vacant rfl
      · intro _
        simp
  | @duplicateReader dr found unheld service first =>
      apply Tracks.plannedRefusal
      have conforming := (conforming_of_service service).1
      rw [plannedAction_reader_new (tracks.reader_unseen conforming unheld) conforming,
        ← tracks.topics _ service, ← locate_isSome_eq_any, first, service]
      rfl

def WritersFirst (visits : List Visit) : Prop :=
  ∀ front dw rest, visits = front ++ Visit.writer dw :: rest →
    front.any Visit.isReader = false

structure PlannedLoop (dds : Dds) (env : CallEnv) (start : Scope) (earlier visits : List Visit)
    (registered : Nat) (actions : List Action) (continues : Bool) (left : Scope)
    (outcome : PlanOutcome) : Prop where
  outcome_eq : outcome = followPlan (start.node.hasRoom env start.pool) registered
    (plannedActions dds start.node.endpoints earlier visits)
  continues_eq : continues = outcome.completed
  attaches : .attach ∈ actions ↔ outcome.attached = true
  added : left.node.endpoints.length = start.node.endpoints.length + outcome.registered
  tracked : outcome.completed = true →
    Tracks dds start (earlier ++ visits) outcome.registered left

theorem Tracks.length (tracks : Tracks dds start earlier registered scope) :
    scope.node.endpoints.length = start.node.endpoints.length + registered := by
  simpa [GraphNode.handleSpace] using HandleSpace.takeMany_live tracks.used.handles

theorem VisitedAll.planned {visits : List Visit} {actions : List Action} {continues : Bool}
    (effects : VisitedAll dds env scope visits actions continues left)
    (tracks : Tracks dds start earlier registered scope)
    (ordered : WritersFirst (earlier ++ visits)) :
    ∃ outcome, PlannedLoop dds env start earlier visits registered actions continues left
      outcome := by
  induction effects generalizing earlier registered with
  | nil =>
      refine ⟨_, rfl, rfl, by simp [plannedActions, followPlan], ?_, fun _ => ?_⟩
      · exact tracks.length
      · simpa [plannedActions, followPlan] using tracks
  | @stop scope visit rest action left effect =>
      have planned := effect.planned tracks (fun dw same => ordered _ dw rest (by rw [same]))
      have proceeds := planned.continues_eq.symm
      rw [planned.action_eq] at proceeds
      refine ⟨⟨false, registered, action == .attach⟩, ?_, rfl, ?_, ?_,
        fun impossible => absurd impossible Bool.false_ne_true⟩
      · simp only [plannedActions, followPlan, proceeds, Bool.false_eq_true, if_false,
          planned.action_eq]
      · rw [List.mem_singleton, beq_iff_eq]
        exact eq_comm
      · rw [planned.stopped rfl]
        exact tracks.length
  | @next scope visit rest action middle actions continues left effect effects ih =>
      have planned := effect.planned tracks (fun dw same => ordered _ dw rest (by rw [same]))
      have proceeds := planned.continues_eq.symm
      rw [planned.action_eq] at proceeds
      obtain ⟨outcome, onward⟩ := ih (planned.tracked rfl) (by simpa using ordered)
      refine ⟨{ outcome with attached := action == .attach || outcome.attached },
        ?_, onward.continues_eq, ?_, onward.added, ?_⟩
      · simp only [plannedActions, followPlan, proceeds, if_true, planned.action_eq,
          onward.outcome_eq]
      · rw [List.mem_cons, onward.attaches, Bool.or_eq_true, beq_iff_eq]
        exact or_congr_left eq_comm
      · intro completed
        simpa using onward.tracked completed

end

namespace Enumeration

variable (enumeration : Enumeration) (participant : DomainParticipant)

theorem writerPass_isReader :
    ∀ visit ∈ enumeration.writerPass participant, visit.isReader = false := by
  intro visit member
  unfold writerPass at member
  split at member
  · cases List.mem_singleton.mp member
    rfl
  · obtain ⟨pub, _, visited⟩ := List.mem_flatMap.mp member
    unfold writerVisits at visited
    split at visited
    · cases List.mem_singleton.mp visited
      rfl
    · obtain ⟨dw, _, rfl⟩ := List.mem_map.mp visited
      rfl

theorem readerPass_ne_writer :
    ∀ visit ∈ enumeration.readerPass participant, ∀ dw, visit ≠ .writer dw := by
  intro visit member dw
  unfold readerPass at member
  split at member
  · cases List.mem_singleton.mp member
    simp
  · obtain ⟨sub, _, visited⟩ := List.mem_flatMap.mp member
    unfold readerVisits at visited
    split at visited
    · cases List.mem_singleton.mp visited
      simp
    · obtain ⟨dr, _, rfl⟩ := List.mem_map.mp visited
      simp

theorem visits_writersFirst : WritersFirst (enumeration.visits participant) := by
  intro front dw rest split
  unfold visits at split
  rcases List.append_eq_append_iff.mp split with ⟨between, frontEq, restEq⟩ | ⟨between, passEq, restEq⟩
  · have member : Visit.writer dw ∈ enumeration.readerPass participant := by
      rw [restEq]
      simp
    exact absurd rfl (readerPass_ne_writer enumeration participant _ member dw)
  · rw [List.any_eq_false]
    intro visit member
    simp [writerPass_isReader enumeration participant visit (by rw [passEq]; simp [member])]

end Enumeration

/-- An inspection goes as planned from the endpoints it starts with. -/
theorem Graph.inspectLocalNodeEA_planned {dds : Dds} {env : CallEnv} {graph : Graph}
    {ptr : NodePtr} {node : GraphNode} (distinct : graph.HandlesDistinct)
    (present : graph.nodes[ptr]? = some node) :
    ∃ actions left,
      VisitedAll dds env ⟨graph.endpointsPool, node, EndpointHandle.invalid⟩
        (env.enumeration.visits node.ddsParticipant) actions
        (graph.inspectionPlan dds env node).completed left ∧
      PlannedLoop dds env ⟨graph.endpointsPool, node, EndpointHandle.invalid⟩ []
        (env.enumeration.visits node.ddsParticipant) 0 actions
        (graph.inspectionPlan dds env node).completed left (graph.inspectionPlan dds env node) ∧
      graph.inspectLocalNodeEA dds env ptr =
        (graph.storeNode ptr left.pool left.node,
          if (graph.inspectionPlan dds env node).completed then ReturnCode.ok
          else ReturnCode.error) := by
  obtain ⟨actions, continues, left, effects, ended⟩ :=
    Graph.inspectLocalNodeEA_visited distinct present
  obtain ⟨outcome, planned⟩ := effects.planned (Tracks.start rfl)
    (env.enumeration.visits_writersFirst node.ddsParticipant)
  have same : outcome = graph.inspectionPlan dds env node := planned.outcome_eq
  subst same
  have continuesEq := planned.continues_eq
  subst continuesEq
  exact ⟨actions, left, effects, planned, ended⟩

end Ros2Graph
