import Ros2Graph.Registry.Advertised
import Ros2Graph.Registry.Representation

/-! What a call leaves behind when it fails or is undone: the registry as it was,
but for the counters that handles are drawn from. -/

set_option autoImplicit false

namespace Ros2Graph

open Foundation SemEvent

/-- The node but for the counter that its endpoint handles are drawn from. -/
def GraphNode.settled (node : GraphNode) : GraphNode := { node with endpHandleNext := 0 }

/-- The graph but for the counters that handles are drawn from. -/
def Graph.registry (graph : Graph) : Graph :=
  { graph with nodes := graph.listing, nodeHandleNext := 0 }

namespace GraphNode

section

variable {dds : Dds} {env : CallEnv} {pool after : FastBufferPool} {node left : GraphNode}
  {endpType : EndpointType} {ddsReader : Option DataReader} {ddsWriter : Option DataWriter}

theorem registerEndpoint_refusal
    (ran : node.registerEndpoint dds env pool endpType ddsReader ddsWriter = (after, left, none)) :
    after = pool ∧ left.settled = node.settled := by
  rcases registerEndpoint_cases with ⟨counter, refused⟩ | ⟨_, _, _, _, _, _, done⟩
  · cases ran.symm.trans refused
    exact ⟨rfl, rfl⟩
  · cases ran.symm.trans done

/-- An endpoint that is registered was not found before, under a handle that no
other endpoint of the node has. -/
theorem registerEndpoint_addition {endp : GraphEndpoint}
    (ran : node.registerEndpoint dds env pool endpType ddsReader ddsWriter =
      (after, left, some endp)) :
    ∃ handle counter, endp = ⟨handle, ddsReader, ddsWriter, endpType⟩ ∧ 0 ≤ handle ∧
      (∀ listed ∈ node.endpoints, listed.handle ≠ handle) ∧
      node.lookupLocalEndpointByDdsEndpoints ddsReader ddsWriter = none ∧
      after = ⟨pool.outstanding + 1⟩ ∧
      left = { node with endpHandleNext := counter }.linkEndpoint endp := by
  rcases registerEndpoint_cases with
    ⟨_, refused⟩ | ⟨handle, counter, admitted, nonnegative, fresh, _, done⟩
  · cases ran.symm.trans refused
  · cases ran.symm.trans done
    exact ⟨handle, counter, rfl, nonnegative, fresh, admitted.unused, rfl, rfl⟩

end

end GraphNode

namespace Graph

section

variable {graph final : Graph} {participant : DomainParticipant}

theorem storeNode_registry {ptr : NodePtr} {node left : GraphNode}
    (present : graph.nodes[ptr]? = some node) (same : left.settled = node.settled) :
    (graph.storeNode ptr graph.endpointsPool left).registry = graph.registry := by
  obtain ⟨front, rest, split, rfl⟩ := split_at_position present
  unfold GraphNode.settled at same
  simp [registry, listing, storeNode, split, same]

theorem listedEndpoints_registry : graph.registry.listedEndpoints = graph.listedEndpoints := by
  simp only [listedEndpoints, registry, listing, List.map_map]
  rfl

/-- What is accounted for by the lists agrees where the lists do. -/
theorem Accounted.registry_eq (before : graph.Accounted participant)
    (after : final.Accounted participant)
    (nodes : final.listing = graph.listing)
    (period : final.pollPeriod = graph.pollPeriod) : final.registry = graph.registry := by
  have lengths : final.nodes.length = graph.nodes.length := by
    simpa [listing] using congrArg List.length nodes
  have listed : final.listedEndpoints = graph.listedEndpoints := by
    rw [← @listedEndpoints_registry final, ← @listedEndpoints_registry graph]
    simp only [listedEndpoints, registry, nodes]
  have pools : ∀ {pool other : FastBufferPool}, pool.outstanding = other.outstanding →
      pool = other := by
    rintro ⟨_⟩ ⟨_⟩ rfl
    rfl
  have nodesLen := after.nodesLen.trans ((congrArg UInt64.ofNat lengths).trans
    before.nodesLen.symm)
  have nodesPool := pools (after.nodesPool.trans (lengths.trans before.nodesPool.symm))
  have endpointsPool := pools (after.endpointsPool.trans (listed.trans before.endpointsPool.symm))
  have graphParticipant := after.graphParticipant.trans before.graphParticipant.symm
  simp only [registry, nodes, nodesLen, nodesPool, endpointsPool, graphParticipant, period]

end

end Graph

/-- A registration or removal that fails, of a node or of an endpoint, has no
effect on the registry, wherever it fails. -/
theorem failed_call_atomic {dds : Dds} {graph : Graph} (reachable : graph.Reachable dds)
    (env : CallEnv) (operation : Operation)
    (changes : ∀ nodeHandle, operation ≠ .inspectLocalNode nodeHandle)
    (failed : (operation.perform dds env graph).result.succeeded = false) :
    (operation.perform dds env graph).graph.registry = graph.registry := by
  obtain ⟨past, run⟩ := reachable
  have distinct := Graph.Run.distinct run
  have accounted := run.accounted.1
  have after := @Graph.Accounted.perform dds env _ graph accounted distinct operation
  have effect := @Operation.perform_effect dds env graph distinct operation
  generalize operation.perform dds env graph = outcome at effect failed after ⊢
  cases effect with
  | refused => rfl
  | nodeRolledBack nodes period =>
      have listed := congrArg (List.map GraphNode.settled) nodes
      exact accounted.registry_eq after listed period
  | nodeRegistered _ _ nonnegative =>
      exact absurd (handle_ne_invalid nonnegative) (Bool.eq_false_iff.mp failed)
  | nodeRemoved | endpointRemoved => cases failed
  | inspected => exact absurd rfl (changes _)
  | endpointRefused _ listed ran =>
      obtain ⟨rfl, same⟩ := GraphNode.registerEndpoint_refusal ran
      exact Graph.storeNode_registry (Graph.lookup_node_found listed).1 same
  | endpointRegistered _ _ ran =>
      obtain ⟨handle, _, rfl, nonnegative, _⟩ := GraphNode.registerEndpoint_addition ran
      exact absurd (handle_ne_invalid nonnegative) (Bool.eq_false_iff.mp failed)

/-- One publisher has one DataWriter, and the subscribers cannot be listed. -/
def haltingEnumeration : Enumeration :=
  { Enumeration.answering [⟨1⟩] [] with getSubscribers := fun _ => none }

/-- The inspection fails after it has registered a publisher. -/
theorem failed_call_atomic_halting :
    ((Operation.registerLocalNode (some firstName) none none).perform dataDds
        (.granting haltingEnumeration) (Graph.initial ⟨0⟩ ⟨1, 0⟩)).result.succeeded = false ∧
      ((Operation.registerLocalNode (some firstName) none none).perform dataDds
        (.granting haltingEnumeration) (Graph.initial ⟨0⟩ ⟨1, 0⟩)).graph.registry =
        (Graph.initial ⟨0⟩ ⟨1, 0⟩).registry :=
  ⟨by decide, failed_call_atomic ⟨[], .start ⟨_, _, rfl⟩⟩ _ _ (by simp) (by decide)⟩

/-! Registration followed by its own removal. -/

namespace Operation

def removalsByHandle (nodeHandle : NodeHandle) (endpHandle : EndpointHandle) : List Operation :=
  [.unregisterLocalSubscriptionByHandle nodeHandle endpHandle,
    .unregisterLocalPublisherByHandle nodeHandle endpHandle,
    .unregisterLocalClientByHandle nodeHandle endpHandle,
    .unregisterLocalServiceByHandle nodeHandle endpHandle]

/-- The calls that undo a registration that has returned the handle. -/
def undos (handle : Int32) : Operation → List Operation
  | .registerLocalNode _ _ _ => [.unregisterLocalNode handle]
  | .registerLocalSubscription node reader =>
      .unregisterLocalSubscription node reader :: removalsByHandle node handle
  | .registerLocalPublisher node writer =>
      .unregisterLocalPublisher node writer :: removalsByHandle node handle
  | .registerLocalClient node reader writer =>
      .unregisterLocalClient node reader writer :: removalsByHandle node handle
  | .registerLocalService node reader writer =>
      .unregisterLocalService node reader writer :: removalsByHandle node handle
  | _ => []

theorem removalsByHandle_removal {nodeHandle : NodeHandle} {endpHandle : EndpointHandle}
    {undo : Operation} (member : undo ∈ removalsByHandle nodeHandle endpHandle) :
    undo.removal = some (nodeHandle, fun found => found.lookupLocalEndpointByHandle endpHandle) := by
  simp only [removalsByHandle, List.mem_cons, List.not_mem_nil, or_false] at member
  rcases member with rfl | rfl | rfl | rfl <;> rfl

theorem undos_removal {operation undo : Operation} {handle : Int32} {nodeHandle : NodeHandle}
    {endpType : EndpointType} {ddsReader : Option DataReader} {ddsWriter : Option DataWriter}
    (registers : operation.registration = some (nodeHandle, endpType, ddsReader, ddsWriter))
    (member : undo ∈ operation.undos handle) :
    undo.removal = some (nodeHandle, fun found =>
        found.lookupLocalEndpointByDdsEndpoints ddsReader ddsWriter) ∨
      undo.removal = some (nodeHandle, fun found => found.lookupLocalEndpointByHandle handle) := by
  unfold registration at registers
  split at registers
  all_goals
    cases registers
  all_goals
    rcases List.mem_cons.mp member with rfl | byHandle
    · exact .inl rfl
    · exact .inr (removalsByHandle_removal byHandle)

end Operation

namespace GraphNode

/-- The endpoint that was linked last is unlinked without a trace. -/
theorem finalizeEndpoint_linkEndpoint (node : GraphNode) (endp : GraphEndpoint)
    (pool : FastBufferPool) :
    (node.linkEndpoint endp).finalizeEndpoint pool node.endpoints.length =
      (pool.returnBuffer, node) := by
  have listed : (node.linkEndpoint endp).endpoints[node.endpoints.length]? = some endp := by
    simp [linkEndpoint]
  have erased : (node.linkEndpoint endp).endpoints.eraseIdx node.endpoints.length =
      node.endpoints := by
    simp [linkEndpoint, List.eraseIdx_append_of_length_le]
  unfold finalizeEndpoint
  simp only [listed, erased]
  cases reader : endp.ddsReader <;> cases writer : endp.ddsWriter <;>
    simp [linkEndpoint, reader, writer]

end GraphNode

namespace Graph

variable {dds : Dds} {env : CallEnv} {graph : Graph}

theorem lookup_storeNode {nodeHandle : NodeHandle} {ptr : NodePtr} {node left : GraphNode}
    (listed : graph.lookupLocalNodeByHandle nodeHandle = some (ptr, node))
    (same : left.handle = node.handle) (pool : FastBufferPool) :
    (graph.storeNode ptr pool left).lookupLocalNodeByHandle nodeHandle = some (ptr, left) := by
  obtain ⟨front, rest, split, length, accepted, rejected⟩ := locate_eq_some_iff.mp listed
  subst length
  refine locate_eq_some_iff.mpr ⟨front, rest, by simp [storeNode, split], rfl, ?_, rejected⟩
  simpa [same] using accepted

/-- A removal that finds the endpoint registered last undoes its registration. -/
theorem removal_restores {undo : Operation} {nodeHandle : NodeHandle}
    {search : GraphNode → Option (EndpointPtr × GraphEndpoint)} {ptr : NodePtr}
    {node counted : GraphNode} {endp : GraphEndpoint}
    (removes : undo.removal = some (nodeHandle, search))
    (listed : graph.lookupLocalNodeByHandle nodeHandle = some (ptr, node))
    (same : counted.settled = node.settled) (sameHandle : counted.handle = node.handle)
    (located : search (counted.linkEndpoint endp) = some (counted.endpoints.length, endp)) :
    let registered := graph.storeNode ptr ⟨graph.endpointsPool.outstanding + 1⟩
      (counted.linkEndpoint endp)
    (undo.perform dds env registered).result = .retcode .ok ∧
      (undo.perform dds env registered).graph.registry = graph.registry := by
  intro registered
  have found : registered.lookupLocalNodeByHandle nodeHandle =
      some (ptr, counted.linkEndpoint endp) :=
    @lookup_storeNode graph nodeHandle ptr node (counted.linkEndpoint endp) listed sameHandle _
  rw [Operation.perform_removal removes]
  simp only [found, located]
  refine ⟨rfl, ?_⟩
  have restored : registered.finalizeEndpointAt ptr (counted.linkEndpoint endp)
      counted.endpoints.length = graph.storeNode ptr graph.endpointsPool counted := by
    simp only [finalizeEndpointAt, GraphNode.finalizeEndpoint_linkEndpoint, registered,
      storeNode_storeNode]
    rfl
  exact (congrArg registry restored).trans (storeNode_registry (lookup_node_found listed).1 same)

theorem registration_undone {operation undo : Operation} {nodeHandle : NodeHandle}
    {endpType : EndpointType} {ddsReader : Option DataReader} {ddsWriter : Option DataWriter}
    {handle : EndpointHandle} {later : CallEnv}
    (registers : operation.registration = some (nodeHandle, endpType, ddsReader, ddsWriter))
    (returned : (operation.perform dds env graph).result = .handle handle)
    (succeeded : handle ≠ EndpointHandle.invalid) (member : undo ∈ operation.undos handle) :
    (undo.perform dds later (operation.perform dds env graph).graph).result = .retcode .ok ∧
      (undo.perform dds later (operation.perform dds env graph).graph).graph.registry =
        graph.registry := by
  rw [Operation.perform_registration registers] at returned ⊢
  unfold registerAndQueue registerLocalEndpoint at returned ⊢
  cases listed : graph.lookupLocalNodeByHandle nodeHandle with
  | none =>
      simp only [listed] at returned
      cases returned
      exact absurd rfl succeeded
  | some found =>
      obtain ⟨ptr, node⟩ := found
      simp only [listed] at returned
      dsimp only
      cases ran : node.registerEndpoint dds env graph.endpointsPool endpType ddsReader
          ddsWriter with
      | mk pool rest =>
          obtain ⟨left, added⟩ := rest
          simp only [ran] at returned
          cases added with
          | none =>
              cases returned
              exact absurd rfl succeeded
          | some endp =>
              obtain ⟨drawn, counter, rfl, _, fresh, unused, rfl, rfl⟩ :=
                GraphNode.registerEndpoint_addition ran
              cases returned
              rcases Operation.undos_removal registers member with removes | removes
              · refine removal_restores removes listed rfl rfl (locate_append_accepted unused ?_)
                simp
              · refine removal_restores removes listed rfl rfl (locate_append_accepted ?_ ?_)
                · exact locate_eq_none_iff.mpr fun endp member => by simpa using fresh endp member
                · simp

theorem LinksNode.finalized {name : CString} {space : Option CString}
    {given : Option DomainParticipant} {handle : NodeHandle} {linked : Graph}
    (links : graph.LinksNode env name space given handle linked)
    (nodeName nodeNamespace : Option CString) :
    ((linked.nameNode graph.nodes.length nodeName nodeNamespace).unregisterLocalNode
        handle).result = .ok ∧
      ((linked.nameNode graph.nodes.length nodeName nodeNamespace).unregisterLocalNode
        handle).graph.registry = graph.registry := by
  cases links with
  | @linked counter pool _ _ found granted =>
      obtain ⟨_, free⟩ := nextNodeHandle_found (congrArg Prod.fst found)
      have returned : pool.returnBuffer = graph.nodesPool := by
        rw [(FastBufferPool.getBuffer_eq_some granted).2]
        rfl
      have absent : locate (fun node : GraphNode => node.handle == handle) graph.nodes = none :=
        locate_eq_none_iff.mpr fun node member => by simpa using free node member
      unfold unregisterLocalNode lookupLocalNodeByHandle
      simp only [nameNode, linkNode, modify_last]
      rw [locate_append_accepted absent (by simp)]
      refine ⟨rfl, ?_⟩
      simp [finalizeNode, registry, listing, returned, List.eraseIdx_append_of_length_le]

theorem nodeRegistration_undone {name space : Option CString} {given : Option DomainParticipant}
    {handle : NodeHandle} (quiet : graph.isPollingEnabled = false)
    (returned : (graph.registerLocalNode dds env name space given).result = handle)
    (succeeded : handle ≠ NodeHandle.invalid) :
    (((graph.registerLocalNode dds env name space given).graph.unregisterLocalNode
        handle).result = .ok) ∧
      ((graph.registerLocalNode dds env name space given).graph.unregisterLocalNode
        handle).graph.registry = graph.registry := by
  have registration := @registerLocalNode_registration dds env graph name space given
  generalize graph.registerLocalNode dds env name space given = outcome at registration returned ⊢
  cases registration with
  | listed links =>
      cases returned
      exact links.finalized _ _
  | inspected _ _ polling | abandoned _ _ polling =>
      rw [quiet] at polling
      cases polling
  | _ => exact absurd returned.symm succeeded

end Graph

/-- What a registration of an endpoint has added, or that of a node while polling
is disabled, its removal takes away again, whichever way it asks for it. -/
theorem unregister_undoes_register {dds : Dds} {graph : Graph} (env later : CallEnv)
    (operation : Operation) {handle : Int32}
    (returned : (operation.perform dds env graph).result = .handle handle)
    (succeeded : (operation.perform dds env graph).result.succeeded = true)
    (quiet : ∀ name space given, operation = .registerLocalNode name space given →
      graph.isPollingEnabled = false) :
    ∀ undo ∈ operation.undos handle,
      (undo.perform dds later (operation.perform dds env graph).graph).result = .retcode .ok ∧
      (undo.perform dds later (operation.perform dds env graph).graph).graph.registry =
        graph.registry := by
  have valid : handle ≠ -1 := by
    rw [returned] at succeeded
    simpa [Answer.succeeded] using succeeded
  intro undo member
  cases operation.family with
  | registersNode name space given =>
      cases List.mem_singleton.mp member
      obtain ⟨done, restored⟩ := @Graph.nodeRegistration_undone dds env graph name space given
        handle (quiet name space given rfl) (by injection returned) valid
      exact ⟨congrArg Answer.retcode done, restored⟩
  | registers registers => exact Graph.registration_undone registers returned valid member
  | inspectsNode | removesNode => cases returned
  | removes removes =>
      rw [Operation.perform_removal removes] at returned
      cases returned
  | null failed performed =>
      rw [performed, failed] at succeeded
      cases succeeded

def publishingEvents : List Event :=
  [.call (.granting (.answering [] [])) (.registerLocalNode (some firstName) none none),
    .call (.granting (.answering [] [])) (.registerLocalPublisher 0 (some ⟨1⟩))]

/-- One node with a publisher. -/
def publishingGraph : Graph := (Graph.initial ⟨0⟩ Duration.zero).after dataDds publishingEvents

theorem publishingGraph_reachable : publishingGraph.Reachable dataDds := by
  obtain ⟨past, run, _⟩ := Graph.Run.replay dataDds ⟨0⟩ Duration.zero publishingEvents
  exact ⟨past, run⟩

def subscribedGraph : Graph :=
  ((Operation.registerLocalSubscription 0 (some ⟨1⟩)).perform dataDds
    (.granting (.answering [] [])) publishingGraph).graph

/-- A subscription comes and goes beside the publisher. -/
theorem unregister_undoes_register_subscription :
    ((Operation.unregisterLocalSubscriptionByHandle 0 1).perform dataDds
        (.granting (.answering [] [])) subscribedGraph).result = .retcode .ok ∧
      ((Operation.unregisterLocalSubscriptionByHandle 0 1).perform dataDds
        (.granting (.answering [] [])) subscribedGraph).graph.registry =
        publishingGraph.registry :=
  @unregister_undoes_register dataDds publishingGraph (.granting (.answering [] []))
    (.granting (.answering [] [])) (.registerLocalSubscription 0 (some ⟨1⟩)) 1
    (by decide) (by decide) (by simp) _ (by decide)

end Ros2Graph
