import Ros2Graph.Registry.Atomicity
import Ros2Graph.Registry.InspectionReach

/-! An inspection that is repeated, and one that fails. What both come to is
decided by the visits that an inspection passes over. -/

set_option autoImplicit false

namespace Ros2Graph

open Foundation

namespace GraphNode

/-- The inspection goes on to the next visit without doing anything. -/
def passesOver (dds : Dds) (node : GraphNode) (visit : Visit) : Bool :=
  visit != .failed && (!visit.conforming dds || node.holds visit)

/-- The visit comes to a writer that is attached to an endpoint of the node. -/
def attachesVisit (dds : Dds) (node : GraphNode) : Visit → Bool
  | .writer dw =>
      let topicName := dds.writerTopicName dw
      (node.lookupLocalEndpointByDdsEndpoints none (some dw)).isNone && isServiceTopic topicName &&
        match node.lookupLocalEndpointByTopicName dds topicName false with
        | some (_, endp) => endp.ddsWriter.isNone
        | none => false
  | _ => false

/-- The visit adds its entity to the node: an endpoint is registered, which takes
a handle and a buffer, or a writer is attached. -/
def takesIn (dds : Dds) (env : CallEnv) (pool : FastBufferPool) (node : GraphNode)
    (visit : Visit) : Bool :=
  (node.registersVisit dds visit && node.hasRoom env pool 0) || node.attachesVisit dds visit

/-- How many readers and writers the endpoints hold. -/
def entitiesHeld (node : GraphNode) : Nat :=
  (node.endpoints.map fun endp =>
    (if endp.ddsReader.isSome then 1 else 0) + (if endp.ddsWriter.isSome then 1 else 0)).sum

theorem entitiesHeld_settled (node : GraphNode) : node.settled.entitiesHeld = node.entitiesHeld :=
  rfl

theorem locate_writer_isSome (node : GraphNode) (dw : DataWriter) :
    (locate (GraphEndpoint.holdsWriter dw) node.endpoints).isSome = node.holds (.writer dw) :=
  locate_isSome_eq_any _ _

theorem locate_reader_isSome (node : GraphNode) (dr : DataReader) :
    (locate (GraphEndpoint.holdsReader dr) node.endpoints).isSome = node.holds (.reader dr) :=
  locate_isSome_eq_any _ _

end GraphNode

/-- The three things a visit can come to. -/
inductive VisitVerdict (dds : Dds) (env : CallEnv) (scope : Scope) (visit : Visit) :
    Bool → Scope → Prop where
  | passed : scope.node.passesOver dds visit = true →
      VisitVerdict dds env scope visit true scope
  | taken {continues left} : scope.node.passesOver dds visit = false →
      scope.node.takesIn dds env scope.pool visit = true →
      left.node.entitiesHeld = scope.node.entitiesHeld + 1 →
      VisitVerdict dds env scope visit continues left
  | refused {left} : scope.node.passesOver dds visit = false →
      scope.node.takesIn dds env scope.pool visit = false →
      left.pool = scope.pool → left.node.settled = scope.node.settled →
      VisitVerdict dds env scope visit false left

section

variable {dds : Dds} {env : CallEnv} {scope left : Scope} {visit : Visit} {action : Action}
  {continues : Bool}

theorem VisitEffect.attaches (effect : VisitEffect dds env scope visit action continues left) :
    scope.node.attachesVisit dds visit = (action == .attach) := by
  cases effect with
  | heldWriter held => simp [GraphNode.attachesVisit, GraphNode.lookup_writer_eq, held]
  | @foreignWriter dw foreign =>
      have plain : isServiceTopic (dds.writerTopicName dw) = false := by
        rw [Bool.eq_false_iff, ne_eq, isServiceTopic_writer, foreign]
        simp
      simp [GraphNode.attachesVisit, plain]
  | @registerWriter dw _ _ _ _ _ _ _ alone _ =>
      cases service : isServiceTopic (dds.writerTopicName dw) with
      | false => simp [GraphNode.attachesVisit, service]
      | true => simp [GraphNode.attachesVisit, GraphNode.lookup_topic_eq, alone service]
  | occupied _ _ first busy =>
      have written := Option.isNone_eq_false_iff.mpr busy
      simp [GraphNode.attachesVisit, GraphNode.lookup_topic_eq, first, written]
  | attached unheld service first vacant =>
      simp [GraphNode.attachesVisit, GraphNode.lookup_writer_eq, GraphNode.lookup_topic_eq, unheld,
        service, first, vacant]
  | _ => rfl

/-- A registration that a visit comes to adds its entity, or finds no room. -/
private theorem VisitVerdict.ofRegistration {endpType : EndpointType}
    {ddsReader : Option DataReader} {ddsWriter : Option DataWriter} {pool : FastBufferPool}
    {node : GraphNode} {added : Option GraphEndpoint} {endpHandle : EndpointHandle}
    (admitted : scope.node.Admits dds endpType ddsReader ddsWriter)
    (oneSided : (ddsReader = none ∧ ddsWriter.isSome = true) ∨
      (ddsReader.isSome = true ∧ ddsWriter = none))
    (ahead : scope.node.passesOver dds visit = false)
    (takes : scope.node.takesIn dds env scope.pool visit = scope.node.hasRoom env scope.pool 0)
    (ran : scope.node.registerEndpoint dds env scope.pool endpType ddsReader ddsWriter =
      (pool, node, added)) :
    VisitVerdict dds env scope visit added.isSome ⟨pool, node, endpHandle⟩ := by
  have room := @GraphNode.registerEndpoint_isSome_iff dds env scope.pool scope.node endpType
    ddsReader ddsWriter
  rw [ran] at room
  cases added with
  | none =>
      obtain ⟨samePool, sameNode⟩ := GraphNode.registerEndpoint_refusal ran
      have full : scope.node.hasRoom env scope.pool 0 = false :=
        Bool.eq_false_iff.mpr fun roomy => absurd (room.mpr ⟨admitted, roomy⟩) (by simp)
      exact .refused ahead (takes.trans full) samePool sameNode
  | some endp =>
      obtain ⟨handle, counter, rfl, _, _, _, _, rfl⟩ := GraphNode.registerEndpoint_addition ran
      refine .taken ahead (takes.trans (room.mp rfl).2) ?_
      rcases oneSided with ⟨rfl, sided⟩ | ⟨sided, rfl⟩
      · simp [GraphNode.entitiesHeld, GraphNode.linkEndpoint, sided]
      · simp [GraphNode.entitiesHeld, GraphNode.linkEndpoint, sided]

theorem VisitEffect.verdict (effect : VisitEffect dds env scope visit action continues left) :
    VisitVerdict dds env scope visit continues left := by
  have registers := effect.registers
  have attaches := effect.attaches
  cases effect with
  | failed => exact .refused rfl rfl rfl rfl
  | heldWriter held =>
      refine .passed ?_
      simp [GraphNode.passesOver, ← GraphNode.locate_writer_isSome, held]
  | heldReader held =>
      refine .passed ?_
      simp [GraphNode.passesOver, ← GraphNode.locate_reader_isSome, held]
  | foreignWriter foreign | foreignReader foreign =>
      refine .passed ?_
      simp [GraphNode.passesOver, Visit.conforming, foreign]
  | registerWriter unheld kind known _ ran =>
      refine .ofRegistration ⟨?_, by simp, ?_⟩ (.inl ⟨rfl, rfl⟩) ?_ ?_ ran
      · rw [GraphNode.lookup_writer_eq, unheld]
      · intro writer member
        cases member
        exact kind
      · simp [GraphNode.passesOver, ← GraphNode.locate_writer_isSome, unheld, Visit.conforming, kind,
          known]
      · simp [GraphNode.takesIn, registers, attaches]
  | registerReader unheld kind known _ ran =>
      refine .ofRegistration ⟨?_, ?_, by simp⟩ (.inr ⟨rfl, rfl⟩) ?_ ?_ ran
      · rw [GraphNode.lookup_reader_eq, unheld]
      · intro reader member
        cases member
        exact kind
      · simp [GraphNode.passesOver, ← GraphNode.locate_reader_isSome, unheld, Visit.conforming, kind,
          known]
      · simp [GraphNode.takesIn, registers, attaches]
  | occupied unheld service =>
      refine .refused ?_ ?_ rfl rfl
      · simp [GraphNode.passesOver, ← GraphNode.locate_writer_isSome, unheld, Visit.conforming,
          (conforming_of_service service).2]
      · simp [GraphNode.takesIn, registers, attaches]
  | duplicateReader unheld service =>
      refine .refused ?_ ?_ rfl rfl
      · simp [GraphNode.passesOver, ← GraphNode.locate_reader_isSome, unheld, Visit.conforming,
          (conforming_of_service service).1]
      · simp [GraphNode.takesIn, registers, attaches]
  | attached unheld service first vacant =>
      refine .taken ?_ ?_ ?_
      · simp [GraphNode.passesOver, ← GraphNode.locate_writer_isSome, unheld, Visit.conforming,
          (conforming_of_service service).2]
      · simp [GraphNode.takesIn, registers, attaches]
      · obtain ⟨front, rest, split, rfl⟩ := split_at_position (locate_getElem? first)
        simp only [GraphNode.entitiesHeld, split, set_at_split, List.map_append, List.map_cons,
          List.sum_append, List.sum_cons, vacant]
        simp
        omega

theorem VisitedAll.identity {visits : List Visit} {actions : List Action}
    (effects : VisitedAll dds env scope visits actions continues left) :
    left.node.handle = scope.node.handle ∧
      left.node.ddsParticipant = scope.node.ddsParticipant :=
  ⟨nodeChanges_handle (@VisitedAll.changes dds env True False _ _ _ _ _ effects fun _ => trivial),
    effects.participant⟩

theorem VisitVerdict.entitiesHeld_le (verdict : VisitVerdict dds env scope visit continues left) :
    scope.node.entitiesHeld ≤ left.node.entitiesHeld := by
  cases verdict with
  | passed => exact Nat.le_refl _
  | taken _ _ more => omega
  | refused _ _ _ same => exact (congrArg GraphNode.entitiesHeld same).ge

theorem VisitedAll.entitiesHeld_le {visits : List Visit} {actions : List Action}
    (effects : VisitedAll dds env scope visits actions continues left) :
    scope.node.entitiesHeld ≤ left.node.entitiesHeld := by
  induction effects with
  | nil => exact Nat.le_refl _
  | stop effect => exact effect.verdict.entitiesHeld_le
  | next effect _ ih => exact effect.verdict.entitiesHeld_le.trans ih

/-- Of the visits that the node as it is does not pass over, the first one is
taken in. -/
def GraphNode.takesInFirst (dds : Dds) (env : CallEnv) (pool : FastBufferPool) (node : GraphNode)
    (visits : List Visit) : Bool :=
  (visits.find? fun visit => !node.passesOver dds visit).any (node.takesIn dds env pool)

/-- Nothing that was taken in is ever given back, so the first visit that is not
passed over decides. -/
theorem VisitedAll.unchanged_iff {visits : List Visit} {actions : List Action}
    (effects : VisitedAll dds env scope visits actions continues left) :
    left.node.settled = scope.node.settled ↔
      scope.node.takesInFirst dds env scope.pool visits = false := by
  have grown : ∀ {before after : GraphNode}, before.entitiesHeld + 1 ≤ after.entitiesHeld →
      after.settled ≠ before.settled := by
    intro before after more same
    have equal := congrArg GraphNode.entitiesHeld same
    rw [GraphNode.entitiesHeld_settled, GraphNode.entitiesHeld_settled] at equal
    omega
  induction effects with
  | nil => simp [GraphNode.takesInFirst]
  | stop effect =>
      cases effect.verdict with
      | taken ahead takes more => simp [GraphNode.takesInFirst, ahead, takes, grown more.ge]
      | refused ahead takes _ same => simp [GraphNode.takesInFirst, ahead, takes, same]
  | next effect effects ih =>
      cases effect.verdict with
      | passed passes => simpa [GraphNode.takesInFirst, passes] using ih
      | taken ahead takes more =>
          simp [GraphNode.takesInFirst, ahead, takes,
            grown (more.ge.trans effects.entitiesHeld_le)]

theorem VisitEffect.passesOver_kept
    (effect : VisitEffect dds env scope visit action continues left) {other : Visit}
    (passes : scope.node.passesOver dds other = true) :
    left.node.passesOver dds other = true := by
  unfold GraphNode.passesOver at passes ⊢
  cases conforming : other.conforming dds with
  | false => simpa [conforming] using passes
  | true =>
      rw [effect.holds conforming]
      rw [conforming] at passes
      simp only [Bool.not_true, Bool.false_or, Bool.and_eq_true] at passes ⊢
      simp [passes.1, passes.2]

theorem VisitEffect.passesOver_own (effect : VisitEffect dds env scope visit action true left) :
    left.node.passesOver dds visit = true := by
  have entity : visit ≠ .failed := by
    rintro rfl
    cases effect
  cases conforming : visit.conforming dds with
  | false => simp [GraphNode.passesOver, entity, conforming]
  | true => simp [GraphNode.passesOver, entity, effect.holds conforming]

/-- An inspection that gets to its end would pass over all it has visited. -/
theorem VisitedAll.settles {visits : List Visit} {actions : List Action}
    (effects : VisitedAll dds env scope visits actions continues left)
    (completed : continues = true) :
    ∀ visit ∈ visits, left.node.passesOver dds visit = true := by
  have kept : ∀ {scope left : Scope} {visits : List Visit} {actions : List Action}
      {continues : Bool} {other : Visit},
      VisitedAll dds env scope visits actions continues left →
        scope.node.passesOver dds other = true → left.node.passesOver dds other = true := by
    intro scope left visits actions continues other effects passes
    induction effects with
    | nil => exact passes
    | stop effect => exact effect.passesOver_kept passes
    | next effect _ ih => exact ih (effect.passesOver_kept passes)
  induction effects with
  | nil => simp
  | stop => cases completed
  | next effect effects ih =>
      intro visit member
      rcases List.mem_cons.mp member with rfl | later
      · exact kept effects effect.passesOver_own
      · exact ih completed visit later

theorem VisitedAll.passedOver {visits : List Visit} {actions : List Action}
    (effects : VisitedAll dds env scope visits actions continues left)
    (settled : ∀ visit ∈ visits, scope.node.passesOver dds visit = true) :
    continues = true ∧ left = scope := by
  induction effects with
  | nil => exact ⟨rfl, rfl⟩
  | stop effect =>
      have passes := settled _ List.mem_cons_self
      cases effect.verdict with
      | taken ahead | refused ahead =>
          rw [ahead] at passes
          cases passes
  | next effect effects ih =>
      have passes := settled _ List.mem_cons_self
      cases effect.verdict with
      | passed => exact ih fun visit member => settled visit (List.mem_cons_of_mem _ member)
      | taken ahead =>
          rw [ahead] at passes
          cases passes

end

section

variable {dds : Dds} {graph : Graph} {ptr : NodePtr} {node : GraphNode}

/-- After an inspection that succeeded, another one finds nothing left to do, as
long as it is shown no other entities. -/
theorem inspection_idempotent (reachable : graph.Reachable dds)
    (present : graph.nodes[ptr]? = some node) (env again : CallEnv)
    (succeeded : (graph.inspectLocalNodeEA dds env ptr).2 = .ok)
    (same : ∀ visit ∈ again.enumeration.visits node.ddsParticipant,
      visit ∈ env.enumeration.visits node.ddsParticipant) :
    (graph.inspectLocalNodeEA dds env ptr).1.inspectLocalNodeEA dds again ptr =
      ((graph.inspectLocalNodeEA dds env ptr).1, .ok) := by
  obtain ⟨past, run⟩ := reachable
  obtain ⟨actions, continues, left, effects, ended⟩ :=
    @Graph.inspectLocalNodeEA_visited dds env graph ptr node run.distinct present
  rw [ended] at succeeded ⊢
  have completed : continues = true := by
    cases continues with
    | true => rfl
    | false => cases succeeded
  have identity := effects.identity
  dsimp only
  have stored := Graph.storeNode_getElem? present left.pool left.node
  have distinct : (graph.storeNode ptr left.pool left.node).HandlesDistinct := by
    unfold Graph.HandlesDistinct
    rw [Graph.storeNode_handles present identity.1]
    exact run.distinct
  obtain ⟨actions, continues, unmoved, effects', ended'⟩ :=
    @Graph.inspectLocalNodeEA_visited dds again _ ptr left.node distinct stored
  rw [identity.2] at effects'
  obtain ⟨rfl, rfl⟩ := effects'.passedOver fun visit member =>
    effects.settles completed visit (same visit member)
  rw [ended']
  exact Prod.ext (Graph.storeNode_self stored) rfl

theorem inspection_idempotent_two_topics :
    ((oneNodeGraph.inspectLocalNodeEA clientsDds (.granting (.answering [⟨3⟩] [⟨1⟩])) 0).2 = .ok) ∧
      (oneNodeGraph.inspectLocalNodeEA clientsDds (.granting (.answering [⟨3⟩] [⟨1⟩]))
          0).1.inspectLocalNodeEA clientsDds (.granting (.answering [⟨3⟩] [⟨1⟩])) 0 =
        ((oneNodeGraph.inspectLocalNodeEA clientsDds (.granting (.answering [⟨3⟩] [⟨1⟩])) 0).1,
          .ok) :=
  ⟨by decide, @inspection_idempotent clientsDds oneNodeGraph 0 oneNode oneNodeGraph_reachable
    (by decide) _ _ (by decide) (fun _ member => member)⟩

theorem VisitedAll.keeps_pool {env : CallEnv} {scope left : Scope} {visits : List Visit}
    {actions : List Action} {continues : Bool}
    (effects : VisitedAll dds env scope visits actions continues left)
    (same : left.node.settled = scope.node.settled) : left.pool = scope.pool := by
  have balanced := effects.balances
  have settled := congrArg GraphNode.endpoints same
  have endpoints : left.node.endpoints = scope.node.endpoints := settled
  unfold Balances at balanced
  rw [endpoints] at balanced
  have outstanding := Nat.add_right_cancel balanced
  cases leftPool : left.pool
  cases scopePool : scope.pool
  simpa [leftPool, scopePool] using outstanding

/-- A failed inspection leaves its node alone exactly when it fails before it has
taken anything in, and then it leaves the whole registry alone. -/
theorem failed_inspection_unchanged_iff (reachable : graph.Reachable dds) (env : CallEnv)
    {nodeHandle : NodeHandle} (listed : graph.lookupLocalNodeByHandle nodeHandle = some (ptr, node)) :
    (graph.inspectLocalNode dds env nodeHandle).result ≠ .ok →
    ((graph.inspectLocalNode dds env nodeHandle).graph.nodes[ptr]?.map GraphNode.settled =
        some node.settled ↔
      node.takesInFirst dds env graph.endpointsPool
        (env.enumeration.visits node.ddsParticipant) = false) ∧
    (node.takesInFirst dds env graph.endpointsPool
        (env.enumeration.visits node.ddsParticipant) = false →
      (graph.inspectLocalNode dds env nodeHandle).graph.registry = graph.registry) := by
  intro _
  obtain ⟨past, run⟩ := reachable
  have present := (Graph.lookup_node_found listed).1
  obtain ⟨actions, continues, left, effects, ended⟩ :=
    @Graph.inspectLocalNodeEA_visited dds env graph ptr node run.distinct present
  rw [Graph.inspectLocalNode_graph listed, ended]
  dsimp only
  rw [Graph.storeNode_getElem? present, Option.map_some, Option.some.injEq]
  refine ⟨effects.unchanged_iff, fun quiet => ?_⟩
  have same := effects.unchanged_iff.mpr quiet
  rw [effects.keeps_pool same]
  exact Graph.storeNode_registry present same

end

/-- The only writer is one that the publisher holds already. -/
theorem failed_inspection_unchanged_iff_halting :
    ((publishingGraph.inspectLocalNode dataDds (.granting haltingEnumeration) 0).result ≠ .ok) ∧
      (publishingGraph.inspectLocalNode dataDds (.granting haltingEnumeration) 0).graph.registry =
        publishingGraph.registry :=
  ⟨by decide, (failed_inspection_unchanged_iff publishingGraph_reachable _
    (by rfl : publishingGraph.lookupLocalNodeByHandle 0 = some (0, _)) (by decide)).2 (by decide)⟩

/-- One publisher has one other DataWriter, and the subscribers cannot be listed. -/
def haltingLater : Enumeration :=
  { Enumeration.answering [⟨2⟩] [] with getSubscribers := fun _ => none }

/-- The writer that was found before the failure stays. -/
theorem failed_inspection_changes_node :
    ¬ ∀ (dds : Dds) (env : CallEnv) (graph : Graph) (nodeHandle : NodeHandle) (ptr : NodePtr)
        (node : GraphNode),
      graph.Reachable dds → graph.lookupLocalNodeByHandle nodeHandle = some (ptr, node) →
      (graph.inspectLocalNode dds env nodeHandle).result ≠ .ok →
      (graph.inspectLocalNode dds env nodeHandle).graph.nodes[ptr]?.map GraphNode.settled =
        some node.settled := by
  intro unchanged
  have same := unchanged dataDds (.granting haltingLater) publishingGraph 0 0 _
    publishingGraph_reachable (by rfl) (by decide)
  have lengths := congrArg (Option.map fun node => node.endpoints.length) same
  revert lengths
  decide

end Ros2Graph
