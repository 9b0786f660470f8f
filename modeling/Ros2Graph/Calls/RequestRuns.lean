import Ros2Graph.Calls.Requests
import Ros2Graph.Calls.StatementRuns

/-! Every request is a disciplined routine, and undisturbed it does what it asks for. -/

set_option autoImplicit false

namespace Ros2Graph

open Foundation

section

variable {Result Next : Type} {graph : Graph}

namespace GraphRoutine

theorem run_linkNode (graph : Graph) (pool : FastBufferPool) (handle : NodeHandle)
    (ddsParticipant : Option DomainParticipant) :
    (linkNode pool handle ddsParticipant).run graph =
      ⟨graph.linkNode pool handle ddsParticipant, graph.nodes.length, []⟩ := by
  simp [linkNode, assignNode, Graph.linkNode, modify_last, defNode]

/-- The name is copied while the namespace is still NULL. -/
theorem run_copyName (graph : Graph) (pool : FastBufferPool) (handle : NodeHandle)
    (ddsParticipant : Option DomainParticipant) (nodeName : CString) :
    (copyName graph.nodes.length nodeName).run (graph.linkNode pool handle ddsParticipant) =
      ⟨(graph.linkNode pool handle ddsParticipant).nameNode graph.nodes.length (some nodeName)
        none, (), []⟩ := by
  simp [copyName, assignNode, Graph.linkNode, Graph.nameNode, modify_last]

theorem run_copyNamespace (graph : Graph) (pool : FastBufferPool) (handle : NodeHandle)
    (ddsParticipant : Option DomainParticipant) (nodeName nodeNamespace : CString) :
    (copyNamespace graph.nodes.length nodeNamespace).run
        ((graph.linkNode pool handle ddsParticipant).nameNode graph.nodes.length (some nodeName)
          none) =
      ⟨(graph.linkNode pool handle ddsParticipant).nameNode graph.nodes.length (some nodeName)
        (some nodeNamespace), (), []⟩ := by
  simp [copyNamespace, assignNode, Graph.linkNode, Graph.nameNode, modify_last]

end GraphRoutine

namespace CallRoutine

/-- The routine has the outcome on the registry, when nobody interferes. -/
def Yields (routine : CallRoutine Result) (graph : Graph) (outcome : Outcome Result) : Prop :=
  routine.run graph = ⟨outcome.graph, outcome.result, outcome.events⟩

theorem Yields.map {routine : CallRoutine Result} {outcome : Outcome Result}
    (yields : routine.Yields graph outcome) (read : Result → Next) :
    (read <$> routine).Yields graph ⟨outcome.graph, read outcome.result, outcome.events⟩ := by
  unfold Yields at yields ⊢
  rw [Routine.run_map, yields]

theorem run_locked (body : GraphRoutine Result) (graph : Graph) :
    (locked body).run graph =
      ⟨(body.run graph).memory, (body.run graph).result,
        .takeMutexSelf :: ((body.run graph).events.map Notice.event ++ [.giveMutexSelf])⟩ :=
  Routine.run_locked body graph

theorem locked_disciplined (body : GraphRoutine Result) :
    (locked body).Disciplined .takeMutexSelf .giveMutexSelf :=
  Routine.locked_disciplined (by intro event; cases event; decide)
    (by intro event; cases event; decide) body

/-- A call that can be refused its arguments. -/
theorem unless_disciplined (refused : Bool) (failure : Result) (body : GraphRoutine Result) :
    (if refused then return failure else locked body : CallRoutine Result).Disciplined
      .takeMutexSelf .giveMutexSelf := by
  cases refused with
  | true => exact .done
  | false => exact locked_disciplined body

section

variable (dds : Dds) (env : CallEnv)

theorem registerLocalNode_disciplined (nodeName nodeNamespace : Option CString)
    (ddsParticipant : Option DomainParticipant) :
    (registerLocalNode dds env nodeName nodeNamespace ddsParticipant).Disciplined
      .takeMutexSelf .giveMutexSelf := by
  unfold registerLocalNode
  split
  · exact locked_disciplined _
  · exact .done

theorem inspectLocalNode_yields (nodeHandle : NodeHandle) :
    (inspectLocalNode dds env nodeHandle).Yields graph
      (graph.inspectLocalNode dds env nodeHandle) := by
  unfold Yields inspectLocalNode Graph.inspectLocalNode
  rw [run_locked]
  cases found : graph.lookupLocalNodeByHandle nodeHandle with
  | none => simp [found]
  | some located =>
      obtain ⟨ptr, node⟩ := located
      have inspects := GraphRoutine.run_inspectLocalNodeEA dds env ptr graph
      cases inspected : graph.inspectLocalNodeEA dds env ptr with
      | mk after retcode =>
          rw [inspected] at inspects
          cases retcode <;> simp [found, inspects, inspected, Notice.event]

theorem unregisterLocalNode_yields (nodeHandle : NodeHandle) :
    (unregisterLocalNode nodeHandle).Yields graph (graph.unregisterLocalNode nodeHandle) := by
  unfold Yields unregisterLocalNode Graph.unregisterLocalNode
  rw [run_locked]
  cases found : graph.lookupLocalNodeByHandle nodeHandle with
  | none => simp [found]
  | some located => simp [found, GraphRoutine.run_finalizeNode]

theorem registerEndpoint_yields (nodeHandle : NodeHandle) (endpType : EndpointType)
    (ddsReader : Option DataReader) (ddsWriter : Option DataWriter) :
    (registerEndpoint dds env false nodeHandle endpType ddsReader ddsWriter).Yields graph
      (graph.registerAndQueue dds env nodeHandle endpType ddsReader ddsWriter) := by
  have registers := GraphRoutine.run_registerLocalEndpoint dds env graph nodeHandle endpType
    ddsReader ddsWriter
  unfold Yields registerEndpoint Graph.registerAndQueue
  rw [if_neg (by simp), run_locked]
  cases registered : graph.registerLocalEndpoint dds env nodeHandle endpType ddsReader
      ddsWriter with
  | mk after endp =>
      rw [registered] at registers
      cases endp with
      | none => simp [registers]
      | some endp => simp [registers, Notice.event]

theorem registerLocalNode_yields (nodeName nodeNamespace : Option CString)
    (ddsParticipant : Option DomainParticipant) :
    (registerLocalNode dds env nodeName nodeNamespace ddsParticipant).Yields graph
      (graph.registerLocalNode dds env nodeName nodeNamespace ddsParticipant) := by
  unfold Yields registerLocalNode Graph.registerLocalNode
  -- one way through the function is closed after the other
  rcases nodeName with _ | name
  · rfl
  rcases refused : Graph.refusesNames (some name) nodeNamespace with _ | _
  swap
  · rfl
  simp only [run_locked]
  unfold GraphRoutine.linkLocalNode
  rcases listed : (graph.lookupLocalNodeByName name nodeNamespace).isSome with _ | _
  swap
  · simp [listed]
  have draws := GraphRoutine.run_nextNodeHandle intMax graph
  unfold Graph.nextNodeHandle
  rcases search : searchHandle (fun handle => (graph.lookupLocalNodeByHandle handle).isSome) intMax
    graph.nodeHandleNext with ⟨_ | handle, counter⟩
  · simp [listed, draws, search]
  rcases buffer : graph.nodesPool.getBuffer env.nodeBuffer with _ | pool
  · simp [listed, draws, search, buffer]
  have links := GraphRoutine.run_linkNode { graph with nodeHandleNext := counter } pool handle
    ddsParticipant
  have copies := GraphRoutine.run_copyName { graph with nodeHandleNext := counter } pool handle
    ddsParticipant name
  have copiesToo := GraphRoutine.run_copyNamespace { graph with nodeHandleNext := counter } pool
    handle ddsParticipant name (nodeNamespace.getD rootNamespace)
  dsimp only at links copies copiesToo
  rcases env.dupName with _ | _
  · simp [listed, draws, search, buffer, links, GraphRoutine.run_finalizeNode]
  rcases env.dupNamespace with _ | _
  · simp [listed, draws, search, buffer, links, copies, GraphRoutine.run_finalizeNode]
  have polling : Graph.isPollingEnabled { graph with nodeHandleNext := counter } =
      graph.isPollingEnabled := rfl
  rcases polled : graph.isPollingEnabled with _ | _
  · simp [listed, draws, search, buffer, links, copies, copiesToo, polling, polled, Notice.event]
  have inspects := GraphRoutine.run_inspectLocalNodeEA dds env graph.nodes.length
    ((Graph.linkNode { graph with nodeHandleNext := counter } pool handle ddsParticipant).nameNode
      graph.nodes.length (some name) (some (nodeNamespace.getD rootNamespace)))
  rcases inspected : ((Graph.linkNode { graph with nodeHandleNext := counter } pool handle
    ddsParticipant).nameNode graph.nodes.length (some name)
      (some (nodeNamespace.getD rootNamespace))).inspectLocalNodeEA dds env graph.nodes.length
    with ⟨left, retcode⟩
  rw [inspected] at inspects
  by_cases succeeded : retcode = .ok
  · simp [listed, draws, search, buffer, links, copies, copiesToo, polling, polled, Notice.event,
      inspects, inspected, succeeded]
  · simp [listed, draws, search, buffer, links, copies, copiesToo, polling, polled, Notice.event,
      inspects, inspected, succeeded, GraphRoutine.run_finalizeNode]

end

theorem unregisterEndpoint_yields (nodeHandle : NodeHandle)
    (lookup : GraphNode → Option (EndpointPtr × GraphEndpoint))
    (pointed : ∀ node endpPtr endp, lookup node = some (endpPtr, endp) →
      node.endpoints[endpPtr]? = some endp) :
    (unregisterEndpoint false nodeHandle lookup).Yields graph
      (match graph.lookupLocalNodeByHandle nodeHandle with
        | none => ⟨graph, .badParameter, [.takeMutexSelf, .giveMutexSelf]⟩
        | some (ptr, node) =>
          match lookup node with
          | none => ⟨graph, .badParameter, [.takeMutexSelf, .giveMutexSelf]⟩
          | some (endpPtr, _) =>
            ⟨graph.finalizeEndpointAt ptr node endpPtr, .ok,
              [.takeMutexSelf, .giveSemPinfo, .giveMutexSelf]⟩) := by
  unfold Yields unregisterEndpoint
  rw [if_neg (by simp), run_locked]
  cases found : graph.lookupLocalNodeByHandle nodeHandle with
  | none => simp [found]
  | some located =>
      obtain ⟨ptr, node⟩ := located
      cases searched : lookup node with
      | none => simp [found, searched]
      | some endp =>
          obtain ⟨endpPtr, endp⟩ := endp
          have finalizes := GraphRoutine.run_finalizeEndpoint (locate_getElem? found)
            (pointed node endpPtr endp searched)
          simp [found, searched, finalizes, Notice.event]

theorem unregisterByEntities_yields (nodeHandle : NodeHandle) (endpReader : Option DataReader)
    (endpWriter : Option DataWriter) :
    (unregisterEndpoint false nodeHandle
      (·.lookupLocalEndpointByDdsEndpoints endpReader endpWriter)).Yields graph
      (graph.unregisterLocalEndpoint nodeHandle endpReader endpWriter) :=
  unregisterEndpoint_yields nodeHandle _ fun _ _ _ => locate_getElem?

theorem unregisterByHandle_yields (nodeHandle : NodeHandle) (endpHandle : EndpointHandle) :
    (unregisterEndpoint false nodeHandle (·.lookupLocalEndpointByHandle endpHandle)).Yields graph
      (graph.unregisterLocalEndpointByHandle nodeHandle endpHandle) :=
  unregisterEndpoint_yields nodeHandle _ fun _ _ _ => locate_getElem?

/-- The call answers from the registry, and leaves it as it is. -/
def Answers (routine : CallRoutine Result) (graph : Graph) (result : Result) : Prop :=
  routine.Yields graph ⟨graph, result, [.takeMutexSelf, .giveMutexSelf]⟩

theorem getNodeParticipant_answers (nodeHandle : NodeHandle) :
    (getNodeParticipant nodeHandle).Answers graph (graph.getNodeParticipant nodeHandle) := by
  unfold Answers Yields getNodeParticipant Graph.getNodeParticipant
  rw [run_locked]
  cases found : graph.lookupLocalNodeByHandle nodeHandle with
  | none => simp [found]
  | some located => simp [found]

theorem getNodeName_answers (nodeHandle : NodeHandle)
    (nameOut namespaceOut : Option (Option CString))
    (asked : (nameOut.isNone && namespaceOut.isNone) = false) :
    (getNodeName nodeHandle nameOut namespaceOut).Answers graph
      (graph.getNodeName nodeHandle nameOut namespaceOut) := by
  unfold Answers Yields getNodeName Graph.getNodeName
  simp only [asked, run_locked, Bool.false_eq_true, if_false]
  cases found : graph.lookupLocalNodeByHandle nodeHandle with
  | none => simp [found]
  | some located => simp [found]

theorem readEndpoint_answers {Member : Type} (failure : Member) (member : GraphEndpoint → Member)
    (nodeHandle : NodeHandle) (endpHandle : EndpointHandle) :
    (readEndpoint failure member nodeHandle endpHandle).Answers graph
      (match graph.endpointAt nodeHandle endpHandle with
        | none => failure
        | some endp => member endp) := by
  unfold Answers Yields readEndpoint Graph.endpointAt
  rw [run_locked]
  cases found : graph.lookupLocalNodeByHandle nodeHandle with
  | none => simp [found]
  | some located =>
      obtain ⟨ptr, node⟩ := located
      cases searched : node.lookupLocalEndpointByHandle endpHandle with
      | none => simp [found, searched]
      | some endp => simp [found, searched]

end CallRoutine

end

/-- Undisturbed, the statements of an operation do what it does in one piece. -/
theorem Operation.routine_yields (dds : Dds) (env : CallEnv) (graph : Graph)
    (operation : Operation) :
    (operation.routine dds env).Yields graph (operation.perform dds env graph) := by
  open CallRoutine in
  cases operation with
  | registerLocalNode name space participant =>
      exact (registerLocalNode_yields dds env name space participant).map _
  | inspectLocalNode node => exact (inspectLocalNode_yields dds env node).map _
  | registerLocalSubscription node reader =>
      cases reader with
      | none => rfl
      | some reader => exact (registerEndpoint_yields dds env node _ _ _).map _
  | registerLocalPublisher node writer =>
      cases writer with
      | none => rfl
      | some writer => exact (registerEndpoint_yields dds env node _ _ _).map _
  | registerLocalClient node reader writer =>
      cases reader <;> cases writer <;>
        first | rfl | exact (registerEndpoint_yields dds env node _ _ _).map _
  | registerLocalService node reader writer =>
      cases reader <;> cases writer <;>
        first | rfl | exact (registerEndpoint_yields dds env node _ _ _).map _
  | unregisterLocalNode node => exact (unregisterLocalNode_yields node).map _
  | unregisterLocalSubscription node reader =>
      cases reader with
      | none => rfl
      | some reader => exact (unregisterByEntities_yields node _ _).map _
  | unregisterLocalPublisher node writer =>
      cases writer with
      | none => rfl
      | some writer => exact (unregisterByEntities_yields node _ _).map _
  | unregisterLocalClient node reader writer =>
      cases reader <;> cases writer <;>
        first | rfl | exact (unregisterByEntities_yields node _ _).map _
  | unregisterLocalService node reader writer =>
      cases reader <;> cases writer <;>
        first | rfl | exact (unregisterByEntities_yields node _ _).map _
  | unregisterLocalSubscriptionByHandle node handle =>
      exact (unregisterByHandle_yields node handle).map _
  | unregisterLocalPublisherByHandle node handle =>
      exact (unregisterByHandle_yields node handle).map _
  | unregisterLocalClientByHandle node handle =>
      exact (unregisterByHandle_yields node handle).map _
  | unregisterLocalServiceByHandle node handle =>
      exact (unregisterByHandle_yields node handle).map _

namespace Request

theorem routine_yields (dds : Dds) (env : CallEnv) (graph : Graph) (request : Request) :
    (request.routine dds env).Yields graph (request.outcome dds env graph) := by
  open CallRoutine in
  cases request with
  | perform operation => exact (operation.routine_yields dds env graph).map _
  | getNodeParticipant node => exact (getNodeParticipant_answers node).map _
  | getNodeName node nameOut namespaceOut =>
      cases asked : nameOut.isNone && namespaceOut.isNone with
      | true =>
          simp [CallRoutine.Yields, routine, outcome, CallRoutine.getNodeName, Graph.getNodeName,
            asked]
      | false =>
          have answers : (CallRoutine.getNodeName node nameOut namespaceOut).Answers graph _ :=
            getNodeName_answers node nameOut namespaceOut asked
          simp only [outcome, asked, Bool.false_eq_true, if_false]
          exact answers.map PublicAnswer.nodeName
  | getEndpointReader node endp => exact (readEndpoint_answers none (·.ddsReader) node endp).map _
  | getEndpointWriter node endp => exact (readEndpoint_answers none (·.ddsWriter) node endp).map _
  | getEndpointType node endp => exact (readEndpoint_answers .unknown (·.endpType) node endp).map _

theorem routine_disciplined (dds : Dds) (env : CallEnv) (request : Request) :
    (request.routine dds env).Disciplined .takeMutexSelf .giveMutexSelf := by
  open CallRoutine in
  cases request with
  | perform operation =>
      refine .map _ ?_
      cases operation with
      | registerLocalNode name space participant =>
          exact (registerLocalNode_disciplined dds env name space participant).map _
      | inspectLocalNode | unregisterLocalNode => exact (locked_disciplined _).map _
      | registerLocalSubscription | registerLocalPublisher | registerLocalClient
      | registerLocalService => exact (unless_disciplined _ _ _).map _
      | unregisterLocalSubscription | unregisterLocalPublisher | unregisterLocalClient
      | unregisterLocalService | unregisterLocalSubscriptionByHandle
      | unregisterLocalPublisherByHandle | unregisterLocalClientByHandle
      | unregisterLocalServiceByHandle => exact (unless_disciplined _ _ _).map _
  | getNodeName => exact (unless_disciplined _ _ _).map _
  | getNodeParticipant | getEndpointReader | getEndpointWriter | getEndpointType =>
      exact (locked_disciplined _).map _

end Request

end Ros2Graph
