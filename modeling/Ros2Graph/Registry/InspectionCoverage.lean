import Ros2Graph.Registry.Exclusive

/-! What an inspection leaves untouched, when it goes through to its end, and
what it covers then. -/

set_option autoImplicit false

namespace Ros2Graph

open Foundation Relation

def CString.Conforming (topicName : CString) : Prop :=
  topicName.startsWith topicPrefixDefault = true ∨
    topicName.startsWith topicPrefixRequest = true ∨
    topicName.startsWith topicPrefixResponse = true

theorem CString.conforming_iff {topicName : CString} (writer : Bool) :
    topicName.Conforming ↔ detectEndpointType topicName writer ≠ .unknown := by
  unfold CString.Conforming detectEndpointType
  split
  · next plain => cases writer <;> simp [plain]
  · next notPlain =>
    split
    · next response => cases writer <;> simp [response]
    · next notResponse =>
      split
      · next request => cases writer <;> simp [request]
      · next notRequest => simp [notPlain, notResponse, notRequest]

/-- The endpoint is still there: it may have been given a writer. -/
structure GraphEndpoint.KeptAs (endp later : GraphEndpoint) : Prop where
  handle : later.handle = endp.handle
  endpType : later.endpType = endp.endpType
  ddsReader : later.ddsReader = endp.ddsReader
  ddsWriter : ∀ writer, endp.ddsWriter = some writer → later.ddsWriter = some writer

/-- What every inspection leaves of the node it started with. -/
structure GraphNode.Grows (dds : Dds) (node left : GraphNode) : Prop where
  kept : ∀ endp ∈ node.endpoints, ∃ later ∈ left.endpoints, endp.KeptAs later
  readers : ∀ reader, node.endpoints.countP (GraphEndpoint.holdsReader reader) ≤
    left.endpoints.countP (GraphEndpoint.holdsReader reader)
  writers : ∀ writer, node.endpoints.countP (GraphEndpoint.holdsWriter writer) ≤
    left.endpoints.countP (GraphEndpoint.holdsWriter writer)
  foreignReaders : ∀ reader, ¬ (dds.readerTopicName reader).Conforming →
    left.endpoints.any (GraphEndpoint.holdsReader reader) = true →
    node.endpoints.any (GraphEndpoint.holdsReader reader) = true
  foreignWriters : ∀ writer, ¬ (dds.writerTopicName writer).Conforming →
    left.endpoints.any (GraphEndpoint.holdsWriter writer) = true →
    node.endpoints.any (GraphEndpoint.holdsWriter writer) = true

namespace GraphNode.Grows

variable {dds : Dds} {env : CallEnv} {node middle left : GraphNode}

theorem refl (node : GraphNode) : node.Grows dds node where
  kept := fun endp listed => ⟨endp, listed, rfl, rfl, rfl, fun _ same => same⟩
  readers := fun _ => Nat.le_refl _
  writers := fun _ => Nat.le_refl _
  foreignReaders := fun _ _ held => held
  foreignWriters := fun _ _ held => held

theorem trans (first : node.Grows dds middle) (second : middle.Grows dds left) :
    node.Grows dds left where
  kept := by
    intro endp listed
    obtain ⟨between, betweenListed, earlier⟩ := first.kept endp listed
    obtain ⟨later, laterListed, last⟩ := second.kept between betweenListed
    exact ⟨later, laterListed, last.handle.trans earlier.handle,
      last.endpType.trans earlier.endpType, last.ddsReader.trans earlier.ddsReader,
      fun writer held => last.ddsWriter writer (earlier.ddsWriter writer held)⟩
  readers := fun reader => (first.readers reader).trans (second.readers reader)
  writers := fun writer => (first.writers writer).trans (second.writers writer)
  foreignReaders := fun reader foreign held =>
    first.foreignReaders reader foreign (second.foreignReaders reader foreign held)
  foreignWriters := fun writer foreign held =>
    first.foreignWriters writer foreign (second.foreignWriters writer foreign held)

end GraphNode.Grows

section

variable {dds : Dds} {env : CallEnv}

theorem VisitChange.grows {node left : GraphNode} {action : Action}
    (change : VisitChange dds node action left) : node.Grows dds left := by
  cases change with
  | @kept _ counter =>
      have same := @GraphNode.Grows.refl dds node
      exact ⟨same.kept, same.readers, same.writers, same.foreignReaders, same.foreignWriters⟩
  | @linked endp counter admitted known _ _ _ =>
      constructor
      · intro old listed
        exact ⟨old, List.mem_append_left _ listed, rfl, rfl, rfl, fun _ same => same⟩
      · intro reader
        simp [GraphNode.linkEndpoint]
      · intro writer
        simp [GraphNode.linkEndpoint]
      · intro reader foreign held
        rw [GraphNode.linkEndpoint, List.any_append, Bool.or_eq_true] at held
        apply held.resolve_right
        intro new
        have kind := admitted.readerKind reader (by simpa [GraphEndpoint.holdsReader] using new)
        exact foreign ((CString.conforming_iff false).mpr (kind ▸ known))
      · intro writer foreign held
        rw [GraphNode.linkEndpoint, List.any_append, Bool.or_eq_true] at held
        apply held.resolve_right
        intro new
        have kind := admitted.writerKind writer (by simpa [GraphEndpoint.holdsWriter] using new)
        exact foreign ((CString.conforming_iff true).mpr (kind ▸ known))
  | @attached dw ptr endp _ service first vacant =>
      obtain ⟨front, rest, split, rfl⟩ := split_at_position (locate_getElem? first)
      constructor
      · intro old listed
        rw [split] at listed
        simp only [split, set_at_split]
        rcases List.mem_append.mp listed with earlier | here
        · exact ⟨old, by simp [earlier], rfl, rfl, rfl, fun _ same => same⟩
        · rcases List.mem_cons.mp here with rfl | later
          · refine ⟨_, List.mem_append_right _ List.mem_cons_self, rfl, rfl, rfl,
              fun writer held => ?_⟩
            exact absurd (vacant.symm.trans held) (by simp)
          · exact ⟨old, by simp [later], rfl, rfl, rfl, fun _ same => same⟩
      · intro reader
        simp [split, List.countP_cons, GraphEndpoint.holdsReader]
      · intro writer
        simp [split, List.countP_cons, GraphEndpoint.holdsWriter, vacant]
      · intro reader foreign held
        simpa [split, GraphEndpoint.holdsReader] using held
      · intro writer foreign held
        have different : dw ≠ writer := by
          intro same
          apply foreign
          rw [CString.conforming_iff true, ← same]
          exact (conforming_of_service service).2
        simpa [split, GraphEndpoint.holdsWriter, vacant, different] using held

theorem VisitedAll.grows {scope left : Scope} {visits : List Visit} {actions : List Action}
    {continues : Bool} (effects : VisitedAll dds env scope visits actions continues left) :
    scope.node.Grows dds left.node := by
  induction effects with
  | nil => exact .refl _
  | stop effect => exact effect.nodeChange.grows
  | next effect _ ih => exact effect.nodeChange.grows.trans ih

end

theorem followPlan_completed_iff {room : Nat → Bool} {registered : Nat} {actions : List Action} :
    (followPlan room registered actions).completed = true ↔
      ∀ front action rest, actions = front ++ action :: rest →
        action.proceeds room (registered + front.count .register) = true := by
  induction actions generalizing registered with
  | nil => simp [followPlan]
  | cons first rest ih =>
      constructor
      · intro completed front action others split
        simp only [followPlan] at completed
        split at completed
        · next proceeds =>
          cases front with
          | nil =>
              obtain ⟨rfl, _⟩ := List.cons.inj split
              exact proceeds
          | cons head front =>
              obtain ⟨rfl, tail⟩ := List.cons.inj split
              have later := ih.mp completed front action others tail
              have counted : first.registrations + front.count .register =
                  (first :: front).count .register := by
                cases first <;> simp [Action.registrations, Nat.add_comm]
              rwa [← counted, ← Nat.add_assoc]
        · cases completed
      · intro all
        have proceeds := all [] first rest rfl
        simp only [List.count_nil, Nat.add_zero] at proceeds
        simp only [followPlan, proceeds, if_true]
        apply ih.mpr
        intro front action others split
        have later := all (first :: front) action others (by rw [split]; rfl)
        have counted : first.registrations + front.count .register =
            (first :: front).count .register := by
          cases first <;> simp [Action.registrations, Nat.add_comm]
        rwa [← counted, ← Nat.add_assoc] at later

theorem plannedActions_append (dds : Dds) (endpoints : List GraphEndpoint)
    (earlier front rest : List Visit) :
    plannedActions dds endpoints earlier (front ++ rest) =
      plannedActions dds endpoints earlier front ++
        plannedActions dds endpoints (earlier ++ front) rest := by
  induction front generalizing earlier with
  | nil => simp [plannedActions]
  | cons visit front ih => simp [plannedActions, ih]

theorem plannedActions_split {dds : Dds} {endpoints : List GraphEndpoint}
    {earlier visits : List Visit} {front rest : List Action} {action : Action}
    (split : plannedActions dds endpoints earlier visits = front ++ action :: rest) :
    ∃ before visit after, visits = before ++ visit :: after ∧
      front = plannedActions dds endpoints earlier before ∧
      action = plannedAction dds endpoints (earlier ++ before) visit := by
  induction visits generalizing earlier front with
  | nil => simp [plannedActions] at split
  | cons visit visits ih =>
      cases front with
      | nil =>
          obtain ⟨same, _⟩ := List.cons.inj split
          exact ⟨[], visit, visits, rfl, rfl, by simpa using same.symm⟩
      | cons head front =>
          obtain ⟨same, tail⟩ := List.cons.inj split
          obtain ⟨before, chosen, after, rfl, frontEq, actionEq⟩ := ih tail
          exact ⟨visit :: before, chosen, after, rfl, by rw [← same, frontEq]; rfl,
            by simpa using actionEq⟩

theorem plannedActions_length (dds : Dds) (endpoints : List GraphEndpoint)
    (earlier visits : List Visit) :
    (plannedActions dds endpoints earlier visits).length = visits.length := by
  induction visits generalizing earlier with
  | nil => rfl
  | cons visit visits ih => simp [plannedActions, ih]

theorem followPlan_planned_iff {dds : Dds} {endpoints : List GraphEndpoint} {visits : List Visit}
    {room : Nat → Bool} :
    (followPlan room 0 (plannedActions dds endpoints [] visits)).completed = true ↔
      ∀ before visit after, visits = before ++ visit :: after →
        (plannedAction dds endpoints before visit).proceeds room
          ((plannedActions dds endpoints [] before).count .register) = true := by
  rw [followPlan_completed_iff]
  constructor
  · intro all before visit after split
    have proceeds := all (plannedActions dds endpoints [] before)
      (plannedAction dds endpoints before visit)
      (plannedActions dds endpoints (before ++ [visit]) after)
      (by rw [split, plannedActions_append]; rfl)
    rwa [Nat.zero_add] at proceeds
  · intro all front action rest split
    obtain ⟨before, visit, after, visitsEq, rfl, rfl⟩ := plannedActions_split split
    rw [Nat.zero_add]
    exact all before visit after visitsEq

/-- The visit is about an entity of a conforming topic that no endpoint holds; a
writer on a service topic must not find an endpoint reading it. -/
def Visit.Registrable (dds : Dds) (endpoints : List GraphEndpoint) : Visit → Prop
  | .failed => False
  | .writer dw =>
      (dds.writerTopicName dw).Conforming ∧
      endpoints.any (GraphEndpoint.holdsWriter dw) = false ∧
      (isServiceTopic (dds.writerTopicName dw) = true →
        endpoints.any (GraphEndpoint.readsTopic dds (dds.writerTopicName dw)) = false)
  | .reader dr =>
      (dds.readerTopicName dr).Conforming ∧
      endpoints.any (GraphEndpoint.holdsReader dr) = false

theorem plannedAction_register {dds : Dds} {endpoints : List GraphEndpoint}
    {earlier : List Visit} {visit : Visit}
    (registers : plannedAction dds endpoints earlier visit = .register) :
    visit.Registrable dds endpoints := by
  cases visit with
  | failed => cases registers
  | writer dw =>
      cases seen : endpoints.any (GraphEndpoint.holdsWriter dw) ||
          earlier.contains (.writer dw) with
      | true =>
          rw [plannedAction_writer_seen seen] at registers
          cases registers
      | false =>
          by_cases foreign : detectEndpointType (dds.writerTopicName dw) true = .unknown
          · rw [plannedAction_writer_foreign foreign] at registers
            cases registers
          · rw [plannedAction_writer_new seen foreign] at registers
            refine ⟨(CString.conforming_iff true).mpr foreign,
              (Bool.or_eq_false_iff.mp seen).1, fun service => ?_⟩
            rw [service, if_pos rfl] at registers
            rw [← locate_isSome_eq_any]
            cases found : locate (GraphEndpoint.readsTopic dds (dds.writerTopicName dw))
                endpoints with
            | none => rfl
            | some chosen =>
                rw [found] at registers
                dsimp only at registers
                split at registers <;> cases registers
  | reader dr =>
      cases seen : endpoints.any (GraphEndpoint.holdsReader dr) ||
          earlier.contains (.reader dr) with
      | true =>
          rw [plannedAction_reader_seen seen] at registers
          cases registers
      | false =>
          by_cases foreign : detectEndpointType (dds.readerTopicName dr) false = .unknown
          · rw [plannedAction_reader_foreign foreign] at registers
            cases registers
          · exact ⟨(CString.conforming_iff false).mpr foreign, (Bool.or_eq_false_iff.mp seen).1⟩

/-- Nothing among the visits stops an inspection that has room: a service topic
has at most one reader, and a writer on the topic of a listed reader comes alone,
finds that endpoint without a writer, and follows an entity that is registered. -/
structure Inspectable (dds : Dds) (endpoints : List GraphEndpoint) (visits : List Visit) :
    Prop where
  readers : ∀ earlier reader rest, visits = earlier ++ .reader reader :: rest →
    endpoints.any (GraphEndpoint.holdsReader reader) = false → .reader reader ∉ earlier →
    isServiceTopic (dds.readerTopicName reader) = true →
      endpoints.any (GraphEndpoint.readsTopic dds (dds.readerTopicName reader)) = false ∧
      earlier.any (Visit.readsTopic dds (dds.readerTopicName reader)) = false
  writers : ∀ earlier writer rest, visits = earlier ++ .writer writer :: rest →
    endpoints.any (GraphEndpoint.holdsWriter writer) = false → .writer writer ∉ earlier →
    isServiceTopic (dds.writerTopicName writer) = true →
    ∀ ptr endp, locate (GraphEndpoint.readsTopic dds (dds.writerTopicName writer)) endpoints =
        some (ptr, endp) →
      endp.ddsWriter = none ∧
      earlier.any (Visit.newWriterOn dds endpoints (dds.writerTopicName writer)) = false ∧
      ∃ visit ∈ earlier, visit.Registrable dds endpoints

theorem Inspectable.registers {dds : Dds} {endpoints : List GraphEndpoint}
    {visits earlier rest : List Visit} (inspectable : Inspectable dds endpoints visits)
    (split : visits = earlier ++ rest) {visit : Visit} (member : visit ∈ earlier)
    (registrable : visit.Registrable dds endpoints) :
    .register ∈ plannedActions dds endpoints [] earlier := by
  -- the first of several visits to one entity is the one that registers it
  obtain ⟨before, after, rfl, first⟩ := List.eq_append_cons_of_mem member
  have action : plannedAction dds endpoints before visit = .register := by
    cases visit with
    | failed => exact registrable.elim
    | writer dw =>
        obtain ⟨conforming, unheld, alone⟩ := registrable
        rw [plannedAction_writer_new (by simp [unheld, first])
          ((CString.conforming_iff true).mp conforming)]
        cases service : isServiceTopic (dds.writerTopicName dw) with
        | false => rfl
        | true =>
            have unread := alone service
            rw [← locate_isSome_eq_any, Option.isSome_eq_false_iff,
              Option.isNone_iff_eq_none] at unread
            rw [unread]
            rfl
    | reader dr =>
        obtain ⟨conforming, unheld⟩ := registrable
        rw [plannedAction_reader_new (by simp [unheld, first])
          ((CString.conforming_iff false).mp conforming)]
        cases service : isServiceTopic (dds.readerTopicName dr) with
        | false => rfl
        | true =>
            obtain ⟨unread, unvisited⟩ := inspectable.readers before dr (after ++ rest)
              (by simp [split]) unheld first service
            rw [unread, unvisited]
            rfl
  rw [plannedActions_append, plannedActions, List.nil_append, action]
  simp

theorem inspectable_iff {dds : Dds} {endpoints : List GraphEndpoint} {visits : List Visit}
    {room : Nat → Bool} (enumerated : .failed ∉ visits)
    (roomy : ∀ registered, registered < visits.length → room registered = true) :
    (followPlan room 0 (plannedActions dds endpoints [] visits)).completed = true ↔
      Inspectable dds endpoints visits := by
  rw [followPlan_planned_iff]
  constructor
  · intro all
    constructor
    · intro earlier reader rest split unheld unseen service
      have proceeds := all earlier (.reader reader) rest split
      rw [plannedAction_reader_new (by simp [unheld, unseen]) (conforming_of_service service).1,
        service, Bool.true_and] at proceeds
      split at proceeds
      · cases proceeds
      · next clear => exact Bool.or_eq_false_iff.mp (Bool.eq_false_iff.mpr clear)
    · intro earlier writer rest split unheld unseen service ptr endp found
      have proceeds := all earlier (.writer writer) rest split
      rw [plannedAction_writer_new (by simp [unheld, unseen]) (conforming_of_service service).2,
        service, if_pos rfl, found] at proceeds
      dsimp only at proceeds
      split at proceeds
      · cases proceeds
      · next clear =>
        obtain ⟨vacant, alone⟩ := Bool.or_eq_false_iff.mp (Bool.eq_false_iff.mpr clear)
        have registered := List.count_pos_iff.mp (of_decide_eq_true proceeds)
        obtain ⟨front, back, actions⟩ := List.append_of_mem registered
        obtain ⟨before, visit, after, earlierEq, _, action⟩ := plannedActions_split actions
        exact ⟨by simpa using vacant, alone, visit, by simp [earlierEq],
          plannedAction_register action.symm⟩
  · intro inspectable before visit after split
    have fewer : (plannedActions dds endpoints [] before).count .register < visits.length := by
      have bound := @List.count_le_length _ _ .register (plannedActions dds endpoints [] before)
      rw [plannedActions_length] at bound
      rw [split, List.length_append, List.length_cons]
      omega
    have registers := roomy _ fewer
    cases visit with
    | failed => exact absurd (by rw [split]; simp) enumerated
    | reader reader =>
        cases seen : endpoints.any (GraphEndpoint.holdsReader reader) ||
            before.contains (.reader reader) with
        | true => rw [plannedAction_reader_seen seen]; rfl
        | false =>
            by_cases foreign : detectEndpointType (dds.readerTopicName reader) false = .unknown
            · rw [plannedAction_reader_foreign foreign]; rfl
            · rw [plannedAction_reader_new seen foreign]
              obtain ⟨unheld, unseen⟩ := Bool.or_eq_false_iff.mp seen
              cases service : isServiceTopic (dds.readerTopicName reader) with
              | false => exact registers
              | true =>
                  obtain ⟨noEndpoint, noEarlier⟩ := inspectable.readers before reader after split
                    unheld (by simpa using unseen) service
                  rw [noEndpoint, noEarlier]
                  exact registers
    | writer writer =>
        cases seen : endpoints.any (GraphEndpoint.holdsWriter writer) ||
            before.contains (.writer writer) with
        | true => rw [plannedAction_writer_seen seen]; rfl
        | false =>
            by_cases foreign : detectEndpointType (dds.writerTopicName writer) true = .unknown
            · rw [plannedAction_writer_foreign foreign]; rfl
            · rw [plannedAction_writer_new seen foreign]
              obtain ⟨unheld, unseen⟩ := Bool.or_eq_false_iff.mp seen
              cases service : isServiceTopic (dds.writerTopicName writer) with
              | false => exact registers
              | true =>
                  cases found : locate (GraphEndpoint.readsTopic dds (dds.writerTopicName writer))
                      endpoints with
                  | none => exact registers
                  | some chosen =>
                      obtain ⟨ptr, endp⟩ := chosen
                      obtain ⟨vacant, alone, visit, member, registrable⟩ :=
                        inspectable.writers before writer after split unheld
                          (by simpa using unseen) service ptr endp found
                      have registered := inspectable.registers split member registrable
                      simp only [vacant, alone, if_true, Option.isSome_none, Bool.or_self,
                        Bool.false_eq_true, if_false]
                      exact decide_eq_true (List.count_pos_iff.mpr registered)

/-- What an inspection is for: it holds every conforming entity exactly once,
keeps every endpoint and adds no foreign entity. -/
structure GraphNode.Covers (dds : Dds) (visits : List Visit) (node left : GraphNode) : Prop where
  readers : ∀ reader, .reader reader ∈ visits → (dds.readerTopicName reader).Conforming →
    left.endpoints.countP (GraphEndpoint.holdsReader reader) = 1
  writers : ∀ writer, .writer writer ∈ visits → (dds.writerTopicName writer).Conforming →
    left.endpoints.countP (GraphEndpoint.holdsWriter writer) = 1
  kept : ∀ endp ∈ node.endpoints, ∃ later ∈ left.endpoints, endp.KeptAs later
  foreignReaders : ∀ reader, ¬ (dds.readerTopicName reader).Conforming →
    left.endpoints.any (GraphEndpoint.holdsReader reader) = true →
    node.endpoints.any (GraphEndpoint.holdsReader reader) = true
  foreignWriters : ∀ writer, ¬ (dds.writerTopicName writer).Conforming →
    left.endpoints.any (GraphEndpoint.holdsWriter writer) = true →
    node.endpoints.any (GraphEndpoint.holdsWriter writer) = true

structure GraphNode.HeldOnce (dds : Dds) (visits : List Visit) (node : GraphNode) : Prop where
  readers : ∀ reader, .reader reader ∈ visits → (dds.readerTopicName reader).Conforming →
    node.endpoints.countP (GraphEndpoint.holdsReader reader) ≤ 1
  writers : ∀ writer, .writer writer ∈ visits → (dds.writerTopicName writer).Conforming →
    node.endpoints.countP (GraphEndpoint.holdsWriter writer) ≤ 1

section

variable {dds : Dds} {env : CallEnv} {graph : Graph} {ptr : NodePtr} {node : GraphNode}

theorem Tracks.covered {start scope : Scope} {visits : List Visit} {registered : Nat}
    (tracks : Tracks dds start visits registered scope) :
    (∀ reader, .reader reader ∈ visits → (dds.readerTopicName reader).Conforming →
      0 < scope.node.endpoints.countP (GraphEndpoint.holdsReader reader)) ∧
    (∀ writer, .writer writer ∈ visits → (dds.writerTopicName writer).Conforming →
      0 < scope.node.endpoints.countP (GraphEndpoint.holdsWriter writer)) := by
  constructor
  · intro reader visited conforming
    have held := tracks.readers reader ((CString.conforming_iff false).mp conforming)
    rw [List.contains_iff_mem.mpr visited, Bool.or_true] at held
    exact List.countP_pos_iff.mpr (List.any_eq_true.mp held)
  · intro writer visited conforming
    have held := tracks.writers writer ((CString.conforming_iff true).mp conforming)
    rw [List.contains_iff_mem.mpr visited, Bool.or_true] at held
    exact List.countP_pos_iff.mpr (List.any_eq_true.mp held)

/-- With room for every visited entity, an inspection succeeds and covers its
participant exactly when nothing stops it and no entity was held twice. -/
theorem inspection_covers_iff (reachable : graph.Reachable dds)
    (present : graph.nodes[ptr]? = some node)
    (enumerated : .failed ∉ env.enumeration.visits node.ddsParticipant)
    (room : ∀ registered, registered < (env.enumeration.visits node.ddsParticipant).length →
      node.hasRoom env graph.endpointsPool registered = true) :
    ((graph.inspectLocalNodeEA dds env ptr).2 = .ok ∧
      ∃ left, (graph.inspectLocalNodeEA dds env ptr).1.nodes[ptr]? = some left ∧
        node.Covers dds (env.enumeration.visits node.ddsParticipant) left) ↔
    Inspectable dds node.endpoints (env.enumeration.visits node.ddsParticipant) ∧
      node.HeldOnce dds (env.enumeration.visits node.ddsParticipant) := by
  obtain ⟨past, run⟩ := reachable
  obtain ⟨actions, left, effects, planned, ended⟩ :=
    @Graph.inspectLocalNodeEA_planned dds env graph ptr node run.distinct present
  have stored := Graph.storeNode_getElem? present left.pool left.node
  have goesThrough := @inspectable_iff dds node.endpoints
    (env.enumeration.visits node.ddsParticipant) (node.hasRoom env graph.endpointsPool)
    enumerated room
  have grows := effects.grows
  rw [ended]
  constructor
  · rintro ⟨ok, result, found, covers⟩
    cases stored.symm.trans found
    have completed : (graph.inspectionPlan dds env node).completed = true := by
      cases ended : (graph.inspectionPlan dds env node).completed with
      | true => rfl
      | false => simp [ended] at ok
    refine ⟨goesThrough.mp completed, ⟨?_, ?_⟩⟩
    · intro reader visited conforming
      exact (grows.readers reader).trans (covers.readers reader visited conforming).le
    · intro writer visited conforming
      exact (grows.writers writer).trans (covers.writers writer visited conforming).le
  · rintro ⟨inspectable, heldOnce⟩
    have completed : (graph.inspectionPlan dds env node).completed = true :=
      goesThrough.mpr inspectable
    have changes : ReflTransGen (NodeChange dds True False) node left.node :=
      effects.changes (fun _ => trivial)
    have covered := (planned.tracked completed).covered
    refine ⟨by rw [completed]; rfl, left.node, stored, ⟨?_, ?_, grows.kept,
      grows.foreignReaders, grows.foreignWriters⟩⟩
    · intro reader visited conforming
      exact Nat.le_antisymm
        (nodeChanges_readerOnce changes (heldOnce.readers reader visited conforming))
        (covered.1 reader visited conforming)
    · intro writer visited conforming
      exact Nat.le_antisymm
        (nodeChanges_writerOnce changes (heldOnce.writers writer visited conforming))
        (covered.2 writer visited conforming)

end

def clientsDds : Dds :=
  .onTopics (fun _ => replyTopic) (fun _ => requestTopic)

def oneNodeGraph : Graph :=
  (Graph.initial ⟨0⟩ Duration.infinite).after clientsDds
    [.call (.granting (.answering [] [])) (.registerLocalNode (some firstName) none none)]

def oneNode : GraphNode where
  handle := 0
  endpoints := []
  endpointsLen := 0
  writersLen := 0
  readersLen := 0
  endpHandleNext := 0
  nodeName := some firstName
  nodeNamespace := some rootNamespace
  ddsParticipant := ⟨0⟩

theorem oneNodeGraph_reachable : oneNodeGraph.Reachable clientsDds := by
  obtain ⟨past, run, _⟩ := Graph.Run.replay clientsDds ⟨0⟩ Duration.infinite _
  exact ⟨past, run⟩

/-- A reader and a writer of one request topic, and entities of plain data. -/
def requestDds : Dds :=
  .onTopics (fun reader => if reader.address = 1 then requestTopic else topicPrefixDefault)
    (fun writer => if writer.address = 2 then requestTopic else topicPrefixDefault)

/-- The reader of requests has been inspected alone. -/
def requestNode : GraphNode :=
  { oneNode with
    endpoints := [⟨0, some ⟨1⟩, none, .service⟩]
    endpointsLen := 1
    readersLen := 1
    endpHandleNext := 1 }

def requestGraph : Graph :=
  (Graph.initial ⟨0⟩ Duration.infinite).after requestDds
    [.call (.granting (.answering [] [])) (.registerLocalNode (some firstName) none none),
      .call (.granting (.answering [] [⟨1⟩])) (.inspectLocalNode 0)]

theorem requestGraph_reachable : requestGraph.Reachable requestDds := by
  obtain ⟨past, run, _⟩ := Graph.Run.replay requestDds ⟨0⟩ Duration.infinite _
  exact ⟨past, run⟩

/-- One writer is registered and one attached; one reader is passed over and one registered. -/
theorem inspection_covers_iff_attaching :
    (requestGraph.inspectLocalNodeEA requestDds
        (.granting (.answering [⟨6⟩, ⟨2⟩] [⟨1⟩, ⟨5⟩])) 0).2 = .ok ∧
      ∃ left, (requestGraph.inspectLocalNodeEA requestDds
          (.granting (.answering [⟨6⟩, ⟨2⟩] [⟨1⟩, ⟨5⟩])) 0).1.nodes[0]? = some left ∧
        requestNode.Covers requestDds [.writer ⟨6⟩, .writer ⟨2⟩, .reader ⟨1⟩, .reader ⟨5⟩]
          left := by
  refine (@inspection_covers_iff requestDds (.granting (.answering [⟨6⟩, ⟨2⟩] [⟨1⟩, ⟨5⟩]))
    requestGraph 0 requestNode requestGraph_reachable (by decide +kernel) (by decide)
    (by decide)).mpr ⟨?_, ?_⟩
  · exact (@inspectable_iff requestDds requestNode.endpoints _ (fun _ => true) (by decide)
      (fun _ _ => rfl)).mp (by decide +kernel)
  · refine ⟨fun reader _ _ => ?_, fun writer _ _ => ?_⟩
    · exact List.countP_le_length
    · exact List.countP_le_length

/-- With two clients of one service in the participant, the inspection fails. -/
theorem inspection_fails_for_two_clients :
    ¬ ∀ (dds : Dds) (env : CallEnv) (graph : Graph) (ptr : NodePtr) (node : GraphNode),
      graph.Reachable dds → graph.nodes[ptr]? = some node →
      .failed ∉ env.enumeration.visits node.ddsParticipant →
      (∀ registered, registered < (env.enumeration.visits node.ddsParticipant).length →
        node.hasRoom env graph.endpointsPool registered = true) →
      (graph.inspectLocalNodeEA dds env ptr).2 = .ok ∧
        ∃ left, (graph.inspectLocalNodeEA dds env ptr).1.nodes[ptr]? = some left ∧
          node.Covers dds (env.enumeration.visits node.ddsParticipant) left := by
  intro covers
  -- the second reply reader finds the endpoint of the first one
  have ok := (covers clientsDds (.granting (.answering [⟨3⟩, ⟨4⟩] [⟨1⟩, ⟨2⟩])) oneNodeGraph 0
    oneNode oneNodeGraph_reachable (by decide) (by decide) (by decide)).1
  revert ok
  decide

end Ros2Graph
