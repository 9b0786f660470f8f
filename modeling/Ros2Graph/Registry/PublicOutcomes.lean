import Ros2Graph.Registry.LockDiscipline

/-! On a graph the public functions do what the operations on its registry do. -/

set_option autoImplicit false

namespace Ros2Graph

open Foundation

/-- Two names that are given one after the other are those of one call. -/
theorem Graph.nameNode_nameNode (registry : Graph) (ptr : NodePtr)
    (nodeName first second : Option CString) :
    (registry.nameNode ptr nodeName first).nameNode ptr nodeName second =
      registry.nameNode ptr nodeName second := by
  unfold nameNode
  simp only [List.modify_modify_eq]
  rfl

namespace GraphCall

variable {Result Next : Type} {graph : CreatedGraph}

/-- The call on the graph has the outcome on its registry. -/
def Performs (call : GraphCall Result) (graph : CreatedGraph) (outcome : Outcome Result) : Prop :=
  call ⟨some graph, []⟩ =
    some (outcome.result, ⟨some { graph with registry := outcome.graph }, outcome.events⟩)

theorem Performs.map {call : GraphCall Result} {outcome : Outcome Result}
    (performs : call.Performs graph outcome) (read : Result → Next) :
    (read <$> call).Performs graph ⟨outcome.graph, read outcome.result, outcome.events⟩ := by
  unfold Performs at performs ⊢
  rw [run_map, performs, Option.bind_some]

section

variable (dds : Dds) (env : CallEnv)

theorem inspectLocalNode_performs (nodeHandle : NodeHandle) :
    (inspectLocalNode dds env nodeHandle).Performs graph
      (graph.registry.inspectLocalNode dds env nodeHandle) := by
  unfold Performs inspectLocalNode Graph.inspectLocalNode takeMutexSelf giveMutexSelf queueUpdate
  cases found : graph.registry.lookupLocalNodeByHandle nodeHandle with
  | none => simp [found]
  | some located =>
      obtain ⟨ptr, node⟩ := located
      cases inspected : graph.registry.inspectLocalNodeEA dds env ptr with
      | mk registry retcode => cases retcode <;> simp [found, inspected]

theorem unregisterLocalNode_performs (nodeHandle : NodeHandle) :
    (unregisterLocalNode nodeHandle).Performs graph
      (graph.registry.unregisterLocalNode nodeHandle) := by
  unfold Performs unregisterLocalNode Graph.unregisterLocalNode takeMutexSelf giveMutexSelf
  cases found : graph.registry.lookupLocalNodeByHandle nodeHandle with
  | none => simp [found]
  | some located => simp [found]

theorem registerEndpoint_performs (nodeHandle : NodeHandle) (endpType : EndpointType)
    (ddsReader : Option DataReader) (ddsWriter : Option DataWriter) :
    (registerEndpoint dds env false nodeHandle endpType ddsReader ddsWriter).Performs graph
      (graph.registry.registerAndQueue dds env nodeHandle endpType ddsReader ddsWriter) := by
  unfold Performs registerEndpoint Graph.registerAndQueue takeMutexSelf giveMutexSelf queueUpdate
  cases registered : graph.registry.registerLocalEndpoint dds env nodeHandle endpType ddsReader
      ddsWriter with
  | mk registry endp =>
      cases endp with
      | none => simp [registered]
      | some endp => simp [registered]

theorem registerLocalNode_performs (nodeName nodeNamespace : Option CString)
    (ddsParticipant : Option DomainParticipant) :
    (registerLocalNode dds env nodeName nodeNamespace ddsParticipant).Performs graph
      (graph.registry.registerLocalNode dds env nodeName nodeNamespace ddsParticipant) := by
  unfold Performs registerLocalNode Graph.registerLocalNode takeMutexSelf giveMutexSelf
  -- one way through the function is closed after the other
  rcases nodeName with _ | name
  · rfl
  rcases refused : Graph.refusesNames (some name) nodeNamespace with _ | _
  swap
  · simp
  unfold linkLocalNode queueUpdate
  rcases listed : (graph.registry.lookupLocalNodeByName name nodeNamespace).isSome with _ | _
  swap
  · simp [listed]
  have polling : graph.registry.nextNodeHandle.2.isPollingEnabled =
      graph.registry.isPollingEnabled := rfl
  rcases drawn : graph.registry.nextNodeHandle with ⟨_ | handle, registry⟩
  · simp [listed, drawn]
  rw [drawn] at polling
  rcases buffer : registry.nodesPool.getBuffer env.nodeBuffer with _ | pool
  · simp [listed, drawn, buffer]
  rcases env.dupName with _ | _
  · simp [listed, drawn, buffer]
  rcases env.dupNamespace with _ | _
  · simp [listed, drawn, buffer]
  rcases polled : graph.registry.isPollingEnabled with _ | _
  · simp [listed, drawn, buffer, polling, polled, Graph.nameNode_nameNode]
  rcases inspected : ((registry.linkNode pool handle ddsParticipant).nameNode registry.nodes.length
    (some name) (some (nodeNamespace.getD rootNamespace))).inspectLocalNodeEA dds env
    registry.nodes.length with ⟨left, retcode⟩
  by_cases succeeded : retcode = .ok
  · simp [listed, drawn, buffer, polling, polled, Graph.nameNode_nameNode, inspected, succeeded]
  · simp [listed, drawn, buffer, polling, polled, Graph.nameNode_nameNode, inspected, succeeded]

end

theorem unregisterEndpoint_performs (nodeHandle : NodeHandle)
    (lookup : GraphNode → Option (EndpointPtr × GraphEndpoint)) :
    (unregisterEndpoint nodeHandle lookup).Performs graph
      (match graph.registry.lookupLocalNodeByHandle nodeHandle with
        | none => ⟨graph.registry, .badParameter, [.takeMutexSelf, .giveMutexSelf]⟩
        | some (ptr, node) =>
          match lookup node with
          | none => ⟨graph.registry, .badParameter, [.takeMutexSelf, .giveMutexSelf]⟩
          | some (endpPtr, _) =>
            ⟨graph.registry.finalizeEndpointAt ptr node endpPtr, .ok,
              [.takeMutexSelf, .giveSemPinfo, .giveMutexSelf]⟩) := by
  unfold Performs unregisterEndpoint takeMutexSelf giveMutexSelf queueUpdate
  cases found : graph.registry.lookupLocalNodeByHandle nodeHandle with
  | none => simp [found]
  | some located =>
      obtain ⟨ptr, node⟩ := located
      cases located : lookup node with
      | none => simp [found, located]
      | some endp => simp [found, located]

theorem unregisterByEntities_performs (nodeHandle : NodeHandle) (endpReader : Option DataReader)
    (endpWriter : Option DataWriter) :
    (unregisterByEntities false nodeHandle endpReader endpWriter).Performs graph
      (graph.registry.unregisterLocalEndpoint nodeHandle endpReader endpWriter) :=
  unregisterEndpoint_performs nodeHandle _

theorem unregisterByHandle_performs (nodeHandle : NodeHandle) (endpHandle : EndpointHandle) :
    (unregisterByHandle nodeHandle endpHandle).Performs graph
      (graph.registry.unregisterLocalEndpointByHandle nodeHandle endpHandle) :=
  unregisterEndpoint_performs nodeHandle _

/-- The call answers from the registry, and leaves it as it is. -/
def Answers (call : GraphCall Result) (graph : CreatedGraph) (result : Result) : Prop :=
  call.Performs graph ⟨graph.registry, result, [.takeMutexSelf, .giveMutexSelf]⟩

theorem getNodeParticipant_answers (nodeHandle : NodeHandle) :
    (getNodeParticipant nodeHandle).Answers graph
      (graph.registry.getNodeParticipant nodeHandle) := by
  unfold Answers Performs getNodeParticipant Graph.getNodeParticipant takeMutexSelf giveMutexSelf
  cases found : graph.registry.lookupLocalNodeByHandle nodeHandle with
  | none => simp [found]
  | some located => simp [found]

/-- Without an output the name is not asked for. -/
theorem getNodeName_answers (nodeHandle : NodeHandle)
    (nameOut namespaceOut : Option (Option CString))
    (asked : (nameOut.isNone && namespaceOut.isNone) = false) :
    (getNodeName nodeHandle nameOut namespaceOut).Answers graph
      (graph.registry.getNodeName nodeHandle nameOut namespaceOut) := by
  unfold Answers Performs getNodeName Graph.getNodeName takeMutexSelf giveMutexSelf
  cases found : graph.registry.lookupLocalNodeByHandle nodeHandle with
  | none => simp [found, asked]
  | some located => simp [found, asked]

theorem readEndpoint_answers {Member : Type} (failure : Member) (member : GraphEndpoint → Member)
    (nodeHandle : NodeHandle) (endpHandle : EndpointHandle) :
    (readEndpoint failure member nodeHandle endpHandle).Answers graph
      (match graph.registry.endpointAt nodeHandle endpHandle with
        | none => failure
        | some endp => member endp) := by
  unfold Answers Performs readEndpoint Graph.endpointAt takeMutexSelf giveMutexSelf
  cases found : graph.registry.lookupLocalNodeByHandle nodeHandle with
  | none => simp [found]
  | some located =>
      obtain ⟨ptr, node⟩ := located
      cases located : node.lookupLocalEndpointByHandle endpHandle with
      | none => simp [found, located]
      | some endp => simp [found, located]

end GraphCall

/-- On a graph the function as it is called is the operation on the registry, with the
semaphore calls in the same order. -/
theorem Operation.call_performs (dds : Dds) (env : CallEnv) (graph : CreatedGraph)
    (operation : Operation) :
    (operation.call dds env).Performs graph (operation.perform dds env graph.registry) := by
  open GraphCall in
  cases operation with
  | registerLocalNode name space participant =>
      exact (registerLocalNode_performs dds env name space participant).map _
  | inspectLocalNode node => exact (inspectLocalNode_performs dds env node).map _
  | registerLocalSubscription node reader =>
      cases reader with
      | none => rfl
      | some reader => exact (registerEndpoint_performs dds env node _ _ _).map _
  | registerLocalPublisher node writer =>
      cases writer with
      | none => rfl
      | some writer => exact (registerEndpoint_performs dds env node _ _ _).map _
  | registerLocalClient node reader writer =>
      cases reader <;> cases writer <;>
        first | rfl | exact (registerEndpoint_performs dds env node _ _ _).map _
  | registerLocalService node reader writer =>
      cases reader <;> cases writer <;>
        first | rfl | exact (registerEndpoint_performs dds env node _ _ _).map _
  | unregisterLocalNode node => exact (unregisterLocalNode_performs node).map _
  | unregisterLocalSubscription node reader =>
      cases reader with
      | none => rfl
      | some reader => exact (unregisterByEntities_performs node _ _).map _
  | unregisterLocalPublisher node writer =>
      cases writer with
      | none => rfl
      | some writer => exact (unregisterByEntities_performs node _ _).map _
  | unregisterLocalClient node reader writer =>
      cases reader <;> cases writer <;>
        first | rfl | exact (unregisterByEntities_performs node _ _).map _
  | unregisterLocalService node reader writer =>
      cases reader <;> cases writer <;>
        first | rfl | exact (unregisterByEntities_performs node _ _).map _
  | unregisterLocalSubscriptionByHandle node handle =>
      exact (unregisterByHandle_performs node handle).map _
  | unregisterLocalPublisherByHandle node handle =>
      exact (unregisterByHandle_performs node handle).map _
  | unregisterLocalClientByHandle node handle =>
      exact (unregisterByHandle_performs node handle).map _
  | unregisterLocalServiceByHandle node handle =>
      exact (unregisterByHandle_performs node handle).map _

end Ros2Graph
