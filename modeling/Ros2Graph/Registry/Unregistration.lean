import Ros2Graph.Registry.Accessors
import Ros2Graph.Registry.HandleHistory

/-! A handle keeps its meaning for good: what has been unregistered is not found
again under its handle, and a call that is given the handle changes nothing. -/

set_option autoImplicit false

namespace Ros2Graph

open Foundation

namespace Operation

/-- The node handle that the operation is given. -/
def nodeHandle : Operation → Option NodeHandle
  | .registerLocalNode _ _ _ => none
  | .inspectLocalNode node => some node
  | .registerLocalSubscription node _ => some node
  | .registerLocalPublisher node _ => some node
  | .registerLocalClient node _ _ => some node
  | .registerLocalService node _ _ => some node
  | .unregisterLocalNode node => some node
  | .unregisterLocalSubscription node _ => some node
  | .unregisterLocalPublisher node _ => some node
  | .unregisterLocalClient node _ _ => some node
  | .unregisterLocalService node _ _ => some node
  | .unregisterLocalSubscriptionByHandle node _ => some node
  | .unregisterLocalPublisherByHandle node _ => some node
  | .unregisterLocalClientByHandle node _ => some node
  | .unregisterLocalServiceByHandle node _ => some node

/-- The node and endpoint handles that the operation is given. -/
def endpointHandle : Operation → Option (NodeHandle × EndpointHandle)
  | .unregisterLocalSubscriptionByHandle node handle => some (node, handle)
  | .unregisterLocalPublisherByHandle node handle => some (node, handle)
  | .unregisterLocalClientByHandle node handle => some (node, handle)
  | .unregisterLocalServiceByHandle node handle => some (node, handle)
  | _ => none

theorem registration_nodeHandle {operation : Operation}
    {asked : NodeHandle × EndpointType × Option DataReader × Option DataWriter}
    (registers : operation.registration = some asked) : operation.nodeHandle = some asked.1 := by
  unfold registration at registers
  split at registers <;> cases registers <;> rfl

theorem removal_nodeHandle {operation : Operation}
    {asked : NodeHandle × (GraphNode → Option (EndpointPtr × GraphEndpoint))}
    (removes : operation.removal = some asked) : operation.nodeHandle = some asked.1 := by
  unfold removal at removes
  split at removes <;> cases removes <;> rfl

end Operation

namespace Graph

/-! What is listed has been listed from the start or given out since. -/

section

variable {dds : Dds} {initial : Graph → Prop} {past : List (Graph × Event)} {graph : Graph}

theorem returned_since
    (run : Execution initial (fun graph event next => next = graph.next dds event) past graph)
    (distinct : ∀ start, initial start → start.HandlesDistinct) :
    graph.HandlesDistinct ∧ ∀ node ∈ graph.nodes,
      (∃ start, initial start ∧ ∃ origin ∈ start.nodes, origin.handle = node.handle) ∨
        node.handle ∈ returnedNodeHandles dds past := by
  induction run with
  | @start state started =>
      exact ⟨distinct state started, fun node listed => .inl ⟨state, started, node, listed, rfl⟩⟩
  | @extend past state following event earlier stepped ih =>
      subst stepped
      refine ⟨(next_evolves ih.1 event).distinct, fun node member => ?_⟩
      rw [returnedNodeHandles_concat, List.mem_append]
      rcases next_origin ih.1 event member with ⟨origin, listed, same, _⟩ | registers
      · rw [same]
        exact (ih.2 origin listed).imp id .inl
      · exact .inr (.inr (by simp [Registers.returned registers]))

theorem assigned_since
    (run : Execution initial (fun graph event next => next = graph.next dds event) past graph)
    {nodeHandle : NodeHandle} {handle : EndpointHandle}
    (listed : handle ∈ graph.endpointHandlesOf nodeHandle) :
    (∃ start, initial start ∧ handle ∈ start.endpointHandlesOf nodeHandle) ∨
      handle ∈ assignedEndpointHandles dds nodeHandle past := by
  induction run with
  | @start state started => exact .inl ⟨state, started, listed⟩
  | @extend past state following event earlier stepped ih =>
      subst stepped
      rw [assignedEndpointHandles_concat, List.mem_append]
      by_cases before : handle ∈ state.endpointHandlesOf nodeHandle
      · exact (ih before).imp id .inl
      · refine .inr (.inr ?_)
        rw [Event.assignedEndpointHandles, List.mem_filter]
        exact ⟨listed, by simpa using before⟩

end

/-- No operation that is given the handle finds a node. -/
structure RefusesNode (dds : Dds) (graph : Graph) (nodeHandle : NodeHandle) : Prop where
  operations : ∀ (env : CallEnv) (operation : Operation), operation.nodeHandle = some nodeHandle →
    (operation.perform dds env graph).result.succeeded = false ∧
      (operation.perform dds env graph).graph = graph
  participant : graph.getNodeParticipant nodeHandle = none
  name : ∀ nameOut namespaceOut, (graph.getNodeName nodeHandle nameOut namespaceOut).1 ≠ .ok ∧
    (graph.getNodeName nodeHandle nameOut namespaceOut).2 = (nameOut, namespaceOut)
  endpoints : ∀ endpHandle, graph.getEndpointReader nodeHandle endpHandle = none ∧
    graph.getEndpointWriter nodeHandle endpHandle = none ∧
    graph.getEndpointType nodeHandle endpHandle = .unknown

/-- No operation that is given both handles finds an endpoint. -/
structure RefusesEndpoint (dds : Dds) (graph : Graph) (nodeHandle : NodeHandle)
    (endpHandle : EndpointHandle) : Prop where
  operations : ∀ (env : CallEnv) (operation : Operation), operation.endpointHandle = some (nodeHandle, endpHandle) →
    (operation.perform dds env graph).result.succeeded = false ∧
      (operation.perform dds env graph).graph = graph
  reader : graph.getEndpointReader nodeHandle endpHandle = none
  writer : graph.getEndpointWriter nodeHandle endpHandle = none
  endpType : graph.getEndpointType nodeHandle endpHandle = .unknown

section

variable {dds : Dds} {env : CallEnv} {graph : Graph} {nodeHandle : NodeHandle}
  {endpHandle : EndpointHandle}

theorem registration_refused {operation : Operation} {endpType : EndpointType}
    {ddsReader : Option DataReader} {ddsWriter : Option DataWriter}
    (absent : graph.lookupLocalNodeByHandle nodeHandle = none)
    (registers : operation.registration = some (nodeHandle, endpType, ddsReader, ddsWriter)) :
    (operation.perform dds env graph).result.succeeded = false ∧
      (operation.perform dds env graph).graph = graph := by
  rw [Operation.perform_registration registers]
  simp only [registerAndQueue, registerLocalEndpoint, absent]
  exact ⟨rfl, rfl⟩

theorem removal_refused {operation : Operation}
    {search : GraphNode → Option (EndpointPtr × GraphEndpoint)}
    (removes : operation.removal = some (nodeHandle, search))
    (absent : ∀ ptr node, graph.lookupLocalNodeByHandle nodeHandle = some (ptr, node) →
      search node = none) :
    (operation.perform dds env graph).result.succeeded = false ∧
      (operation.perform dds env graph).graph = graph := by
  rw [Operation.perform_removal removes]
  cases listed : graph.lookupLocalNodeByHandle nodeHandle with
  | none => exact ⟨rfl, rfl⟩
  | some found =>
      simp only [absent found.1 found.2 listed]
      exact ⟨rfl, rfl⟩

theorem refusesNode_of_absent (absent : graph.lookupLocalNodeByHandle nodeHandle = none) :
    graph.RefusesNode dds nodeHandle := by
  have nowhere : ∀ search : GraphNode → Option (EndpointPtr × GraphEndpoint), ∀ ptr node,
      graph.lookupLocalNodeByHandle nodeHandle = some (ptr, node) → search node = none := by
    intro search ptr node listed
    rw [absent] at listed
    cases listed
  constructor
  · intro env operation asked
    cases operation.family with
    | registersNode => cases asked
    | inspectsNode node =>
        cases asked
        simp only [Operation.perform, inspectLocalNode, absent]
        exact ⟨rfl, rfl⟩
    | removesNode node =>
        cases asked
        simp only [Operation.perform, unregisterLocalNode, absent]
        exact ⟨rfl, rfl⟩
    | registers registers =>
        cases (Operation.registration_nodeHandle registers).symm.trans asked
        exact registration_refused absent registers
    | removes removes =>
        cases (Operation.removal_nodeHandle removes).symm.trans asked
        exact removal_refused removes (nowhere _)
    | null failed performed =>
        rw [performed]
        exact ⟨failed, rfl⟩
  · simp only [getNodeParticipant, absent]
  · intro nameOut namespaceOut
    simp only [getNodeName, absent]
    split <;> simp
  · intro endpHandle
    simp [getEndpointReader, getEndpointWriter, getEndpointType, endpointAt, absent]

theorem refusesEndpoint_of_absent (absent : endpHandle ∉ graph.endpointHandlesOf nodeHandle) :
    graph.RefusesEndpoint dds nodeHandle endpHandle := by
  have unfound : ∀ ptr node, graph.lookupLocalNodeByHandle nodeHandle = some (ptr, node) →
      node.lookupLocalEndpointByHandle endpHandle = none := by
    intro ptr node listed
    rw [← Option.not_isSome_iff_eq_none, GraphNode.lookup_handle_isSome_iff]
    exact fun present => absent (mem_endpointHandlesOf.mpr ⟨ptr, node, listed, present⟩)
  have nothing : graph.endpointAt nodeHandle endpHandle = none := by
    unfold endpointAt
    cases listed : graph.lookupLocalNodeByHandle nodeHandle with
    | none => rfl
    | some found => simp only [unfound found.1 found.2 listed, Option.map_none]
  constructor
  · intro env operation asked
    cases operation with
    | unregisterLocalSubscriptionByHandle | unregisterLocalPublisherByHandle
    | unregisterLocalClientByHandle | unregisterLocalServiceByHandle =>
        cases asked
        exact removal_refused rfl unfound
    | _ => cases asked
  · simp only [getEndpointReader, nothing]
  · simp only [getEndpointWriter, nothing]
  · simp only [getEndpointType, nothing]

end

/-! Unregistration as it is seen in the lists of the graph. -/

def UnregistersNode (dds : Dds) (graph : Graph) (event : Event) (nodeHandle : NodeHandle) : Prop :=
  (graph.lookupLocalNodeByHandle nodeHandle).isSome = true ∧
    ((graph.next dds event).lookupLocalNodeByHandle nodeHandle).isSome = false

def UnregistersEndpoint (dds : Dds) (graph : Graph) (event : Event) (nodeHandle : NodeHandle)
    (endpHandle : EndpointHandle) : Prop :=
  endpHandle ∈ graph.endpointHandlesOf nodeHandle ∧
    endpHandle ∉ (graph.next dds event).endpointHandlesOf nodeHandle

section

variable {dds : Dds} {env : CallEnv} {graph : Graph}

/-- A call that has removed the node has unregistered it. -/
theorem unregisterLocalNode_unregisters (distinct : graph.HandlesDistinct)
    {nodeHandle : NodeHandle} (succeeded : (graph.unregisterLocalNode nodeHandle).result = .ok) :
    graph.UnregistersNode dds (.call env (.unregisterLocalNode nodeHandle)) nodeHandle := by
  cases listed : graph.lookupLocalNodeByHandle nodeHandle with
  | none => simp [unregisterLocalNode, listed] at succeeded
  | some found =>
      obtain ⟨ptr, node⟩ := found
      obtain ⟨position, handleEq⟩ := lookup_node_found listed
      refine ⟨by rw [listed]; rfl, ?_⟩
      have removed : graph.next dds (.call env (.unregisterLocalNode nodeHandle)) =
          graph.finalizeNode ptr := by
        simp [next, Operation.perform, unregisterLocalNode, listed, Outcome.ofRetcode]
      rw [removed, Bool.eq_false_iff, ne_eq, lookup_node_isSome_iff, finalizeNode_nodes]
      obtain ⟨front, rest, split, rfl⟩ := split_at_position position
      unfold HandlesDistinct at distinct
      rw [split, List.map_append, List.map_cons, List.nodup_middle, handleEq, ← List.map_append]
        at distinct
      rw [split, eraseIdx_at_split]
      rintro ⟨other, member, same⟩
      exact (List.nodup_cons.mp distinct).1 (same ▸ List.mem_map_of_mem member)

/-- A call that has removed an endpoint, however it asked for it, has
unregistered the endpoint's handle. -/
theorem removal_unregisters (distinct : graph.HandlesDistinct)
    (numbered : ∀ node ∈ graph.nodes, node.Numbered) {operation : Operation}
    {nodeHandle : NodeHandle} {search : GraphNode → Option (EndpointPtr × GraphEndpoint)}
    {ptr : NodePtr} {node : GraphNode} {endpPtr : EndpointPtr} {endp : GraphEndpoint}
    (removes : operation.removal = some (nodeHandle, search))
    (listed : graph.lookupLocalNodeByHandle nodeHandle = some (ptr, node))
    (located : search node = some (endpPtr, endp)) :
    graph.UnregistersEndpoint dds (.call env operation) nodeHandle endp.handle := by
  obtain ⟨position, rfl⟩ := lookup_node_found listed
  have member := List.mem_of_getElem? position
  have present := Operation.removal_getElem? removes located
  refine ⟨?_, ?_⟩
  · rw [distinct.endpointHandlesOf member]
    exact List.mem_map_of_mem (List.mem_of_getElem? present)
  · have removed : graph.next dds (.call env operation) =
        graph.finalizeEndpointAt ptr node endpPtr := by
      simp only [next, Operation.perform_removal removes, listed, located]
      rfl
    have nextDistinct := (@next_evolves dds graph distinct (.call env operation)).distinct
    rw [removed] at nextDistinct ⊢
    have kept := List.mem_of_getElem? (storeNode_getElem? position
      (node.finalizeEndpoint graph.endpointsPool endpPtr).1
      (node.finalizeEndpoint graph.endpointsPool endpPtr).2)
    have handles := nextDistinct.endpointHandlesOf kept
    have same : (node.finalizeEndpoint graph.endpointsPool endpPtr).2.handle = node.handle := by
      simp [GraphNode.finalizeEndpoint, present]
    rw [same] at handles
    rw [handles, GraphNode.finalizeEndpoint_endpoints]
    obtain ⟨front, rest, split, rfl⟩ := split_at_position present
    have apart := (numbered node member).distinct
    rw [split, List.map_append, List.map_cons, List.nodup_middle, ← List.map_append] at apart
    rw [split, eraseIdx_at_split]
    exact (List.nodup_cons.mp apart).1

end

structure NeverRebound (dds : Dds) (past : List (Graph × Event)) (graph : Graph) : Prop where
  nodeHandles : (returnedNodeHandles dds past).Nodup
  endpointHandles : ∀ nodeHandle, (assignedEndpointHandles dds nodeHandle past).Nodup
  unregisteredNode : ∀ visit ∈ past, ∀ nodeHandle,
    visit.1.UnregistersNode dds visit.2 nodeHandle → graph.RefusesNode dds nodeHandle
  unregisteredEndpoint : ∀ visit ∈ past, ∀ nodeHandle endpHandle,
    visit.1.UnregistersEndpoint dds visit.2 nodeHandle endpHandle →
      graph.RefusesEndpoint dds nodeHandle endpHandle

end Graph

/-- In every run that draws fewer than 2^31 node handles, and fewer than 2^31
endpoint handles for each node, no handle is given out twice, so what has been
unregistered is never reached through its handle again. -/
theorem handles_never_rebound {dds : Dds} {past : List (Graph × Event)} {graph : Graph}
    (run : Graph.Run dds past graph) (fewNodes : nodeAllocations past < 2 ^ 31)
    (fewEndpoints : ∀ nodeHandle, endpointAllocations dds nodeHandle past < 2 ^ 31) :
    graph.NeverRebound dds past := by
  have nodes := run.nodeHistory fewNodes
  have endpoints := fun nodeHandle => run.endpointHistory fewNodes (fewEndpoints nodeHandle)
  refine ⟨nodes.distinct, fun nodeHandle => (endpoints nodeHandle).distinct, ?_, ?_⟩
  · intro visit member nodeHandle unregisters
    obtain ⟨front, rest, rfl⟩ := List.append_of_mem member
    obtain ⟨before, next, stepped, onward⟩ := Execution.split run
    subst stepped
    apply Graph.refusesNode_of_absent
    rw [← Option.not_isSome_iff_eq_none, Graph.lookup_node_isSome_iff]
    rintro ⟨node, listed, rfl⟩
    obtain ⟨old, oldListed, oldSame⟩ := Graph.lookup_node_isSome_iff.mp unregisters.1
    have earlier : node.handle ∈ returnedNodeHandles dds front := by
      rw [← oldSame]
      apply ((Graph.returned_since before fun _ started => started.distinct).2 old
        oldListed).resolve_left
      rintro ⟨start, ⟨participant, period, rfl⟩, origin, listed, _⟩
      cases listed
    have later : node.handle ∈ returnedNodeHandles dds rest := by
      have distinct := (@Graph.next_evolves dds visit.1 (Graph.Run.distinct before) visit.2).distinct
      apply ((Graph.returned_since onward fun _ same => same ▸ distinct).2 node
        listed).resolve_left
      rintro ⟨start, rfl, origin, originListed, same⟩
      have listedNext := Graph.lookup_node_isSome_iff.mpr ⟨origin, originListed, same⟩
      rw [unregisters.2] at listedNext
      cases listedNext
    have distinct := nodes.distinct
    have onward : node.handle ∈ returnedNodeHandles dds (visit :: rest) :=
      ((List.sublist_cons_self visit rest).filterMap _).mem later
    rw [returnedNodeHandles, List.filterMap_append, List.nodup_append] at distinct
    exact distinct.2.2 _ earlier _ onward rfl
  · intro visit member nodeHandle endpHandle unregisters
    obtain ⟨front, rest, rfl⟩ := List.append_of_mem member
    obtain ⟨before, next, stepped, onward⟩ := Execution.split run
    subst stepped
    apply Graph.refusesEndpoint_of_absent
    intro listed
    have earlier : endpHandle ∈ assignedEndpointHandles dds nodeHandle front := by
      apply (Graph.assigned_since before unregisters.1).resolve_left
      rintro ⟨start, ⟨participant, period, rfl⟩, initially⟩
      cases initially
    have later : endpHandle ∈ assignedEndpointHandles dds nodeHandle rest := by
      apply (Graph.assigned_since onward listed).resolve_left
      rintro ⟨start, rfl, present⟩
      exact unregisters.2 present
    have distinct := (endpoints nodeHandle).distinct
    rw [assignedEndpointHandles, List.flatMap_append, List.flatMap_cons, List.nodup_append]
      at distinct
    exact distinct.2.2 _ earlier _ (List.mem_append_right _ later) rfl

/-- A subscription is registered, unregistered by its handle and replaced. -/
def replacingEvents : List Event :=
  [.call (.granting (.answering [] [])) (.registerLocalNode (some firstName) none none),
    .call (.granting (.answering [] [])) (.registerLocalSubscription 0 (some ⟨1⟩)),
    .call (.granting (.answering [] [])) (.unregisterLocalSubscriptionByHandle 0 0),
    .call (.granting (.answering [] [])) (.registerLocalSubscription 0 (some ⟨2⟩))]

theorem handles_never_rebound_replacing :
    ((Graph.initial ⟨0⟩ Duration.infinite).after dataDds replacingEvents).NeverRebound dataDds
        ((Graph.initial ⟨0⟩ Duration.infinite).history dataDds replacingEvents) ∧
      ((Graph.initial ⟨0⟩ Duration.infinite).after dataDds replacingEvents).RefusesEndpoint
        dataDds 0 0 := by
  have run := Graph.Run.ofInitial dataDds ⟨0⟩ Duration.infinite replacingEvents
  have never := handles_never_rebound run (by decide) (by
    intro nodeHandle
    by_cases first : nodeHandle = 0
    · subst first
      decide
    · have other : ((0 : NodeHandle) == nodeHandle) = false := by
        simpa using fun same => first same.symm
      -- every handle drawn in this run is drawn for the only node, whose handle is 0
      change (if ((0 : NodeHandle) == nodeHandle) = true then _ else 0) +
        ((if ((0 : NodeHandle) == nodeHandle) = true ∧ _ then 1 else 0) +
          (0 + ((if ((0 : NodeHandle) == nodeHandle) = true ∧ _ then 1 else 0) + 0))) < _
      simp [other])
  refine ⟨never, never.unregisteredEndpoint _ (@List.mem_of_getElem? _ _ 2 _ rfl) 0 0 ?_⟩
  exact ⟨by decide, by decide⟩

end Ros2Graph
