import Ros2Graph.Registry.Representation

/-! How far an inspection gets: the entities that its loop goes through are, with
those its node had, the ones that the node holds afterwards. -/

set_option autoImplicit false

namespace Ros2Graph

open Foundation

namespace Visit

/-- The entity that is visited is on a topic of the naming conventions. -/
def conforming (dds : Dds) : Visit → Bool
  | .failed => false
  | .writer dw => detectEndpointType (dds.writerTopicName dw) true != .unknown
  | .reader dr => detectEndpointType (dds.readerTopicName dr) false != .unknown

end Visit

def GraphEndpoint.holds (endp : GraphEndpoint) : Visit → Bool
  | .failed => false
  | .writer dw => endp.holdsWriter dw
  | .reader dr => endp.holdsReader dr

def GraphNode.holds (node : GraphNode) (entity : Visit) : Bool :=
  node.endpoints.any (fun endp => endp.holds entity)

/-- The visits that the loop goes through when it takes these actions; one that
attaches a writer does so even where the loop is left. -/
def followedVisits (room : Nat → Bool) : Nat → List (Visit × Action) → List Visit
  | _, [] => []
  | registered, (visit, action) :: rest =>
      if action.proceeds room registered then
        visit :: followedVisits room (registered + action.registrations) rest
      else if action == .attach then [visit]
      else []

def Graph.inspectionReach (dds : Dds) (env : CallEnv) (graph : Graph) (node : GraphNode) :
    List Visit :=
  let visits := env.enumeration.visits node.ddsParticipant
  followedVisits (node.hasRoom env graph.endpointsPool) 0
    (visits.zip (plannedActions dds node.endpoints [] visits))

theorem followedVisits_mem {room : Nat → Bool} {registered : Nat} {visits : List Visit}
    {actions : List Action} {visit : Visit}
    (followed : visit ∈ followedVisits room registered (visits.zip actions)) : visit ∈ visits := by
  induction visits generalizing registered actions with
  | nil => simp [followedVisits] at followed
  | cons head rest ih =>
      cases actions with
      | nil => simp [followedVisits] at followed
      | cons action actions =>
          simp only [List.zip_cons_cons, followedVisits] at followed
          split at followed
          · rcases List.mem_cons.mp followed with rfl | later
            · exact List.mem_cons_self
            · exact List.mem_cons_of_mem _ (ih later)
          · split at followed
            · cases List.mem_singleton.mp followed
              exact List.mem_cons_self
            · cases followed

section

variable {dds : Dds} {env : CallEnv} {entity : Visit}

theorem GraphEndpoint.holds_eq (endp : GraphEndpoint) (entity : Visit) :
    endp.holds entity = (endp.ddsReader.map Visit.reader == some entity ||
      endp.ddsWriter.map Visit.writer == some entity) := by
  rw [Bool.eq_iff_iff]
  cases entity <;> simp [GraphEndpoint.holds, holdsReader, holdsWriter]

theorem holds_registered {node left : GraphNode} {pool after : FastBufferPool}
    {endpType : EndpointType} {ddsReader : Option DataReader} {ddsWriter : Option DataWriter}
    {added : Option GraphEndpoint}
    (ran : node.registerEndpoint dds env pool endpType ddsReader ddsWriter =
      (after, left, added)) :
    left.holds entity = (node.holds entity || (added.isSome &&
      (ddsReader.map Visit.reader == some entity || ddsWriter.map Visit.writer == some entity))) := by
  rcases GraphNode.registerEndpoint_cases with
    ⟨counter, failed⟩ | ⟨handle, counter, _, _, _, _, done⟩
  · cases ran.symm.trans failed
    simp [GraphNode.holds]
  · cases ran.symm.trans done
    simp [GraphNode.holds, GraphNode.linkEndpoint, GraphEndpoint.holds_eq]

private theorem holds_absorbs {node : GraphNode} {visit : Visit} (flag : Bool)
    (already : entity = visit → node.holds entity = true) :
    node.holds entity = (node.holds entity || (flag && entity == visit)) := by
  cases same : entity == visit with
  | false => simp
  | true =>
      rw [already (beq_iff_eq.mp same)]
      rfl

/-- A visit adds its own entity, when the loop gets past it. -/
theorem VisitEffect.holds {scope left : Scope} {visit : Visit} {action : Action}
    {continues : Bool} (effect : VisitEffect dds env scope visit action continues left)
    (conforming : entity.conforming dds = true) :
    left.node.holds entity =
      (scope.node.holds entity || ((continues || action == .attach) && entity == visit)) := by
  have notAttach : (Action.register == Action.attach) = false := rfl
  cases effect with
  | heldWriter held =>
      apply holds_absorbs
      rintro rfl
      exact List.any_eq_true.mpr ⟨_, (locate_mem held).1, (locate_mem held).2⟩
  | heldReader held =>
      apply holds_absorbs
      rintro rfl
      exact List.any_eq_true.mpr ⟨_, (locate_mem held).1, (locate_mem held).2⟩
  | foreignWriter foreign | foreignReader foreign =>
      apply holds_absorbs
      rintro rfl
      simp [Visit.conforming, foreign] at conforming
  | registerWriter _ _ _ _ ran | registerReader _ _ _ _ ran =>
      rw [holds_registered ran, @Bool.beq_comm _ _ _ entity]
      simp [notAttach]
  | @attached dw ptr endp _ _ first vacant =>
      obtain ⟨front, rest, split, rfl⟩ := split_at_position (locate_getElem? first)
      simp only [GraphNode.holds, split, set_at_split, List.any_append, List.any_cons]
      cases entity with
      | failed => simp [GraphEndpoint.holds]
      | reader dr => simp [GraphEndpoint.holds, GraphEndpoint.holdsReader]
      | writer other =>
          rw [Bool.eq_iff_iff]
          simp [GraphEndpoint.holds, GraphEndpoint.holdsWriter, vacant, or_comm, or_left_comm,
            @eq_comm _ other]
  | failed | occupied | duplicateReader =>
      have refuses : (Action.refuse == Action.attach) = false := rfl
      simp [refuses]

theorem VisitedAll.reached {start scope left : Scope} {earlier visits : List Visit}
    {registered : Nat} {actions : List Action} {continues : Bool}
    (effects : VisitedAll dds env scope visits actions continues left)
    (tracks : Tracks dds start earlier registered scope)
    (ordered : WritersFirst (earlier ++ visits)) (conforming : entity.conforming dds = true) :
    left.node.holds entity = (scope.node.holds entity ||
      (followedVisits (start.node.hasRoom env start.pool) registered
        (visits.zip (plannedActions dds start.node.endpoints earlier visits))).contains entity) := by
  induction effects generalizing earlier registered with
  | nil => simp [followedVisits]
  | @stop scope visit rest action left effect =>
      have planned := effect.planned tracks (fun dw same => ordered _ dw rest (by rw [same]))
      have proceeds := planned.continues_eq.symm
      rw [planned.action_eq] at proceeds
      rw [effect.holds conforming, planned.action_eq]
      simp only [plannedActions, List.zip_cons_cons, followedVisits, proceeds, Bool.false_eq_true,
        if_false, Bool.false_or]
      split
      · next attaches => simp only [attaches, List.contains_cons, List.contains_nil,
          Bool.or_false, Bool.true_and]
      · next stays => simp [Bool.eq_false_iff.mpr stays]
  | @next scope visit rest action middle actions continues left effect effects ih =>
      have planned := effect.planned tracks (fun dw same => ordered _ dw rest (by rw [same]))
      have proceeds := planned.continues_eq.symm
      rw [planned.action_eq] at proceeds
      have onward := ih (planned.tracked rfl) (by simpa using ordered)
      rw [onward, effect.holds conforming]
      simp only [plannedActions, List.zip_cons_cons, followedVisits, proceeds, if_true,
        planned.action_eq, List.contains_cons, Bool.true_or, Bool.true_and, Bool.or_assoc]

/-- After an inspection its node holds what it went through, and what it held. -/
theorem Graph.inspectLocalNodeEA_reached {graph : Graph} {ptr : NodePtr} {node : GraphNode}
    (distinct : graph.HandlesDistinct) (present : graph.nodes[ptr]? = some node) :
    ∃ pool left, (graph.inspectLocalNodeEA dds env ptr).1 = graph.storeNode ptr pool left ∧
      left.handle = node.handle ∧ ∀ entity : Visit, entity.conforming dds = true →
        left.holds entity =
          (node.holds entity || (graph.inspectionReach dds env node).contains entity) := by
  obtain ⟨actions, continues, left, effects, ended⟩ :=
    @inspectLocalNodeEA_visited dds env graph ptr node distinct present
  have changes : Relation.ReflTransGen (NodeChange dds True False) node left.node :=
    effects.changes (fun _ => trivial)
  refine ⟨left.pool, left.node, by rw [ended], nodeChanges_handle changes, ?_⟩
  intro entity conforming
  exact effects.reached (Tracks.start rfl)
    (env.enumeration.visits_writersFirst node.ddsParticipant) conforming

end

namespace Graph

/-- The node that a registration lists, and inspects when polling is enabled,
unless a check or an allocation fails before. -/
def admittedNode (env : CallEnv) (graph : Graph) (nodeName nodeNamespace : Option CString)
    (ddsParticipant : Option DomainParticipant) : Option GraphNode :=
  match nodeName, refusesNames nodeName nodeNamespace with
  | some name, false =>
    if (graph.lookupLocalNodeByName name nodeNamespace).isSome then none
    else
      match graph.nextNodeHandle.1 with
      | none => none
      | some handle =>
        if env.nodeBuffer graph.nodesPool.outstanding && env.dupName && env.dupNamespace then
          some {
            handle := handle
            endpoints := []
            endpointsLen := 0
            writersLen := 0
            readersLen := 0
            endpHandleNext := 0
            nodeName := some name
            nodeNamespace := some (nodeNamespace.getD rootNamespace)
            ddsParticipant := ddsParticipant.getD graph.graphParticipant }
        else none
  | _, _ => none

/-- What a registration of a node does to the list of nodes. -/
inductive NodesAfter (dds : Dds) (env : CallEnv) (graph : Graph) :
    Option GraphNode → List GraphNode → Prop where
  | refused : NodesAfter dds env graph none graph.nodes
  | listed {node} : graph.isPollingEnabled = false →
      NodesAfter dds env graph (some node) (graph.nodes ++ [node])
  | abandoned {node} : graph.isPollingEnabled = true →
      (graph.inspectionPlan dds env node).completed = false →
      NodesAfter dds env graph (some node) graph.nodes
  | inspected {node left : GraphNode} : graph.isPollingEnabled = true →
      (graph.inspectionPlan dds env node).completed = true → left.handle = node.handle →
      (∀ entity : Visit, entity.conforming dds = true →
        left.holds entity = (graph.inspectionReach dds env node).contains entity) →
      NodesAfter dds env graph (some node) (graph.nodes ++ [left])

section

variable {dds : Dds} {env : CallEnv} {graph : Graph}

/-- What the inspection of a node that has just been given its names leaves. -/
private theorem inspectNamed_after {node : GraphNode}
    {named final : Graph} {retcode : ReturnCode} (namedDistinct : named.HandlesDistinct)
    (nodes : named.nodes = graph.nodes ++ [node]) (pool : named.endpointsPool = graph.endpointsPool)
    (blank : node.endpoints = [])
    (ended : named.inspectLocalNodeEA dds env graph.nodes.length = (final, retcode)) :
    (retcode = .ok ↔ (graph.inspectionPlan dds env node).completed = true) ∧
      ∃ left : GraphNode, final.nodes = graph.nodes ++ [left] ∧ left.handle = node.handle ∧
        ∀ entity : Visit, entity.conforming dds = true →
          left.holds entity = (graph.inspectionReach dds env node).contains entity := by
  have present : named.nodes[graph.nodes.length]? = some node := by simp [nodes]
  obtain ⟨actions, left, effects, _, done⟩ :=
    @inspectLocalNodeEA_planned dds env named _ _ namedDistinct present
  have plan : named.inspectionPlan dds env node = graph.inspectionPlan dds env node := by
    simp only [inspectionPlan, pool]
  have changes : Relation.ReflTransGen (NodeChange dds True False) node left.node :=
    effects.changes (fun _ => trivial)
  rw [plan] at done effects
  cases done.symm.trans ended
  refine ⟨by simp, left.node, by simp [storeNode, nodes], nodeChanges_handle changes, ?_⟩
  intro entity conforming
  have reached := effects.reached (Tracks.start rfl)
    (env.enumeration.visits_writersFirst node.ddsParticipant) conforming
  simpa [GraphNode.holds, blank, inspectionReach, pool] using reached

private theorem LinksNode.admitted {name : CString} {space : Option CString}
    {given : Option DomainParticipant} {handle : NodeHandle} {linked : Graph}
    (links : graph.LinksNode env name space given handle linked)
    (copied : (env.dupName && env.dupNamespace) = true) :
    ∃ node, graph.admittedNode env (some name) space given = some node ∧ node.endpoints = [] ∧
      (linked.nameNode graph.nodes.length (some name) (some (space.getD rootNamespace))).nodes =
        graph.nodes ++ [node] ∧ linked.endpointsPool = graph.endpointsPool := by
  cases links with
  | linked accepted unknown found granted =>
      have answered := (FastBufferPool.getBuffer_eq_some granted).1
      refine ⟨_, ?_, rfl, modify_last _ _ _, rfl⟩
      simp [admittedNode, accepted, unknown, found, answered, copied]

theorem registerLocalNode_nodes (distinct : graph.HandlesDistinct)
    (name space : Option CString) (given : Option DomainParticipant) :
    NodesAfter dds env graph (graph.admittedNode env name space given)
      (graph.registerLocalNode dds env name space given).graph.nodes := by
  have registration := @registerLocalNode_registration dds env graph name space given
  generalize graph.registerLocalNode dds env name space given = outcome at registration ⊢
  cases registration with
  | unnamed => exact .refused
  | refused refuses =>
      simp only [admittedNode, refuses]
      exact .refused
  | known accepted listed =>
      simp only [admittedNode, accepted, listed, Option.isSome_some, if_true]
      exact .refused
  | unnumbered accepted unknown found =>
      simp only [admittedNode, accepted, unknown, found, Option.isSome_none, Bool.false_eq_true,
        if_false]
      exact .refused
  | unallocated accepted unknown found refused =>
      have unanswered := FastBufferPool.getBuffer_eq_none refused
      simp only [admittedNode, accepted, unknown, found, unanswered, Option.isSome_none,
        Bool.false_eq_true, Bool.false_and, if_false]
      exact .refused
  | uncopied links uncopied =>
      cases links with
      | linked accepted unknown found =>
          simp only [admittedNode, accepted, unknown, found, Bool.and_assoc, uncopied,
            Option.isSome_none, Bool.false_eq_true, Bool.and_false, if_false]
          simpa [linkNode, nameNode, modify_last, List.eraseIdx_append_of_length_le] using
            NodesAfter.refused
  | listed links copied quiet =>
      obtain ⟨node, admitted, _, nodes, _⟩ := links.admitted copied
      rw [admitted, nodes]
      exact .listed quiet
  | inspected links copied polling ended =>
      obtain ⟨node, admitted, blank, nodes, pool⟩ := links.admitted copied
      obtain ⟨completed, left, leftNodes, same, reached⟩ :=
        inspectNamed_after (links.namedDistinct distinct _ _) nodes pool blank ended
      rw [admitted, leftNodes]
      exact .inspected polling (completed.mp rfl) same reached
  | abandoned links copied polling ended failed =>
      obtain ⟨node, admitted, blank, nodes, pool⟩ := links.admitted copied
      obtain ⟨completed, left, leftNodes, _, _⟩ :=
        inspectNamed_after (links.namedDistinct distinct _ _) nodes pool blank ended
      rw [admitted, finalizeNode_nodes, leftNodes,
        List.eraseIdx_append_of_length_le (Nat.le_refl _), Nat.sub_self]
      have incomplete := Bool.eq_false_iff.mpr fun done => failed (completed.mpr done)
      simpa using NodesAfter.abandoned polling incomplete

end

end Graph

end Ros2Graph
