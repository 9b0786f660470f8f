import Ros2Graph.Registry.Inspection
import Ros2Graph.Foundation.Execution

/-! The public operations of the graph, with the semaphore calls each one makes
in order. A call that returns before `mutex_self` is taken makes none. -/

set_option autoImplicit false

namespace Ros2Graph

open Foundation

inductive SemEvent where
  | takeMutexSelf
  | giveMutexSelf
  -- `RTIROS2_Graph_queue_update`
  | giveSemPinfo
  deriving DecidableEq, Repr

structure Outcome (Result : Type) where
  graph : Graph
  result : Result
  events : List SemEvent

namespace Graph

open SemEvent

def nextNodeHandle (graph : Graph) : Option NodeHandle × Graph :=
  let found := searchHandle
    (fun handle => (graph.lookupLocalNodeByHandle handle).isSome) intMax graph.nodeHandleNext
  (found.1, { graph with nodeHandleNext := found.2 })

def linkNode (graph : Graph) (pool : FastBufferPool) (handle : NodeHandle)
    (ddsParticipant : Option DomainParticipant) : Graph :=
  { graph with
    nodesPool := pool
    nodesLen := graph.nodesLen + 1
    nodes := graph.nodes ++ [{
      handle := handle
      endpoints := []
      endpointsLen := 0
      writersLen := 0
      readersLen := 0
      endpHandleNext := 0
      nodeName := none
      nodeNamespace := none
      ddsParticipant := ddsParticipant.getD graph.graphParticipant }] }

def nameNode (graph : Graph) (ptr : NodePtr) (nodeName nodeNamespace : Option CString) : Graph :=
  { graph with nodes := graph.nodes.modify ptr fun node => { node with nodeName, nodeNamespace } }

/-- The user arguments that registration of a node refuses. -/
def refusesNames (nodeName nodeNamespace : Option CString) : Bool :=
  (match nodeName with
    | none => true
    | some name => name.strlen == 0 || decide (maxNameLength < name.strlen)) ||
  (match nodeNamespace with
    | none => false
    | some space => space.strlen == 0 || decide (maxNamespaceLength < space.strlen))

def registerLocalNode (dds : Dds) (env : CallEnv) (graph : Graph)
    (nodeName nodeNamespace : Option CString) (ddsParticipant : Option DomainParticipant) :
    Outcome NodeHandle :=
  match nodeName, refusesNames nodeName nodeNamespace with
  | some name, false =>
    if (graph.lookupLocalNodeByName name nodeNamespace).isSome then
      ⟨graph, .invalid, [takeMutexSelf, giveMutexSelf]⟩
    else
      match graph.nextNodeHandle with
      | (none, graph) => ⟨graph, .invalid, [takeMutexSelf, giveMutexSelf]⟩
      | (some handle, graph) =>
        match graph.nodesPool.getBuffer env.nodeBuffer with
        | none => ⟨graph, .invalid, [takeMutexSelf, giveMutexSelf]⟩
        | some pool =>
          let ptr := graph.nodes.length
          let linked := graph.linkNode pool handle ddsParticipant
          if !env.dupName then
            ⟨linked.finalizeNode ptr, .invalid, [takeMutexSelf, giveMutexSelf]⟩
          else if !env.dupNamespace then
            ⟨(linked.nameNode ptr (some name) none).finalizeNode ptr, .invalid,
              [takeMutexSelf, giveMutexSelf]⟩
          else
            let named := linked.nameNode ptr (some name) (some (nodeNamespace.getD rootNamespace))
            if graph.isPollingEnabled then
              match named.inspectLocalNodeEA dds env ptr with
              | (inspected, .ok) =>
                ⟨inspected, handle, [takeMutexSelf, giveSemPinfo, giveMutexSelf]⟩
              | (inspected, _) =>
                ⟨inspected.finalizeNode ptr, .invalid,
                  [takeMutexSelf, giveSemPinfo, giveMutexSelf]⟩
            else ⟨named, handle, [takeMutexSelf, giveSemPinfo, giveMutexSelf]⟩
  | _, _ => ⟨graph, .invalid, []⟩

def inspectLocalNode (dds : Dds) (env : CallEnv) (graph : Graph) (nodeHandle : NodeHandle) :
    Outcome ReturnCode :=
  match graph.lookupLocalNodeByHandle nodeHandle with
  | none => ⟨graph, .error, [takeMutexSelf, giveMutexSelf]⟩
  | some (ptr, _) =>
    match graph.inspectLocalNodeEA dds env ptr with
    | (inspected, .ok) => ⟨inspected, .ok, [takeMutexSelf, giveSemPinfo, giveMutexSelf]⟩
    | (inspected, retcode) => ⟨inspected, retcode, [takeMutexSelf, giveMutexSelf]⟩

/-- What the four functions that register an endpoint do once their arguments
are known not to be NULL. -/
def registerAndQueue (dds : Dds) (env : CallEnv) (graph : Graph) (nodeHandle : NodeHandle)
    (endpType : EndpointType) (ddsReader : Option DataReader) (ddsWriter : Option DataWriter) :
    Outcome EndpointHandle :=
  match graph.registerLocalEndpoint dds env nodeHandle endpType ddsReader ddsWriter with
  | (graph, none) => ⟨graph, .invalid, [takeMutexSelf, giveMutexSelf]⟩
  | (graph, some endp) => ⟨graph, endp.handle, [takeMutexSelf, giveSemPinfo, giveMutexSelf]⟩

def registerLocalSubscription (dds : Dds) (env : CallEnv) (graph : Graph)
    (nodeHandle : NodeHandle) (subReader : Option DataReader) : Outcome EndpointHandle :=
  match subReader with
  | some reader => graph.registerAndQueue dds env nodeHandle .subscription (some reader) none
  | none => ⟨graph, .invalid, []⟩

def registerLocalPublisher (dds : Dds) (env : CallEnv) (graph : Graph)
    (nodeHandle : NodeHandle) (pubWriter : Option DataWriter) : Outcome EndpointHandle :=
  match pubWriter with
  | some writer => graph.registerAndQueue dds env nodeHandle .publisher none (some writer)
  | none => ⟨graph, .invalid, []⟩

def registerLocalClient (dds : Dds) (env : CallEnv) (graph : Graph) (nodeHandle : NodeHandle)
    (clientReader : Option DataReader) (clientWriter : Option DataWriter) :
    Outcome EndpointHandle :=
  match clientReader, clientWriter with
  | some reader, some writer =>
    graph.registerAndQueue dds env nodeHandle .client (some reader) (some writer)
  | _, _ => ⟨graph, .invalid, []⟩

def registerLocalService (dds : Dds) (env : CallEnv) (graph : Graph) (nodeHandle : NodeHandle)
    (serviceReader : Option DataReader) (serviceWriter : Option DataWriter) :
    Outcome EndpointHandle :=
  match serviceReader, serviceWriter with
  | some reader, some writer =>
    graph.registerAndQueue dds env nodeHandle .service (some reader) (some writer)
  | _, _ => ⟨graph, .invalid, []⟩

/-- Removal of a node gives `mutex_self` back without queueing an update. -/
def unregisterLocalNode (graph : Graph) (nodeHandle : NodeHandle) : Outcome ReturnCode :=
  match graph.lookupLocalNodeByHandle nodeHandle with
  | none => ⟨graph, .badParameter, [takeMutexSelf, giveMutexSelf]⟩
  | some (ptr, _) => ⟨graph.finalizeNode ptr, .ok, [takeMutexSelf, giveMutexSelf]⟩

def finalizeEndpointAt (graph : Graph) (ptr : NodePtr) (node : GraphNode)
    (endpPtr : EndpointPtr) : Graph :=
  let finalized := node.finalizeEndpoint graph.endpointsPool endpPtr
  graph.storeNode ptr finalized.1 finalized.2

def unregisterLocalEndpoint (graph : Graph) (nodeHandle : NodeHandle)
    (endpReader : Option DataReader) (endpWriter : Option DataWriter) : Outcome ReturnCode :=
  match graph.lookupLocalNodeByHandle nodeHandle with
  | none => ⟨graph, .badParameter, [takeMutexSelf, giveMutexSelf]⟩
  | some (ptr, node) =>
    match node.lookupLocalEndpointByDdsEndpoints endpReader endpWriter with
    | none => ⟨graph, .badParameter, [takeMutexSelf, giveMutexSelf]⟩
    | some (endpPtr, _) =>
      ⟨graph.finalizeEndpointAt ptr node endpPtr, .ok,
        [takeMutexSelf, giveSemPinfo, giveMutexSelf]⟩

def unregisterLocalEndpointByHandle (graph : Graph) (nodeHandle : NodeHandle)
    (endpHandle : EndpointHandle) : Outcome ReturnCode :=
  match graph.lookupLocalNodeByHandle nodeHandle with
  | none => ⟨graph, .badParameter, [takeMutexSelf, giveMutexSelf]⟩
  | some (ptr, node) =>
    match node.lookupLocalEndpointByHandle endpHandle with
    | none => ⟨graph, .badParameter, [takeMutexSelf, giveMutexSelf]⟩
    | some (endpPtr, _) =>
      ⟨graph.finalizeEndpointAt ptr node endpPtr, .ok,
        [takeMutexSelf, giveSemPinfo, giveMutexSelf]⟩

def unregisterLocalSubscription (graph : Graph) (nodeHandle : NodeHandle)
    (subReader : Option DataReader) : Outcome ReturnCode :=
  match subReader with
  | some reader => graph.unregisterLocalEndpoint nodeHandle (some reader) none
  | none => ⟨graph, .badParameter, []⟩

def unregisterLocalPublisher (graph : Graph) (nodeHandle : NodeHandle)
    (pubWriter : Option DataWriter) : Outcome ReturnCode :=
  match pubWriter with
  | some writer => graph.unregisterLocalEndpoint nodeHandle none (some writer)
  | none => ⟨graph, .badParameter, []⟩

def unregisterLocalClient (graph : Graph) (nodeHandle : NodeHandle)
    (clientReader : Option DataReader) (clientWriter : Option DataWriter) : Outcome ReturnCode :=
  match clientReader, clientWriter with
  | some reader, some writer =>
    graph.unregisterLocalEndpoint nodeHandle (some reader) (some writer)
  | _, _ => ⟨graph, .badParameter, []⟩

def unregisterLocalService (graph : Graph) (nodeHandle : NodeHandle)
    (serviceReader : Option DataReader) (serviceWriter : Option DataWriter) :
    Outcome ReturnCode :=
  match serviceReader, serviceWriter with
  | some reader, some writer =>
    graph.unregisterLocalEndpoint nodeHandle (some reader) (some writer)
  | _, _ => ⟨graph, .badParameter, []⟩

def unregisterLocalSubscriptionByHandle (graph : Graph) (nodeHandle : NodeHandle)
    (subHandle : EndpointHandle) : Outcome ReturnCode :=
  graph.unregisterLocalEndpointByHandle nodeHandle subHandle

def unregisterLocalPublisherByHandle (graph : Graph) (nodeHandle : NodeHandle)
    (pubHandle : EndpointHandle) : Outcome ReturnCode :=
  graph.unregisterLocalEndpointByHandle nodeHandle pubHandle

def unregisterLocalClientByHandle (graph : Graph) (nodeHandle : NodeHandle)
    (clientHandle : EndpointHandle) : Outcome ReturnCode :=
  graph.unregisterLocalEndpointByHandle nodeHandle clientHandle

def unregisterLocalServiceByHandle (graph : Graph) (nodeHandle : NodeHandle)
    (serviceHandle : EndpointHandle) : Outcome ReturnCode :=
  graph.unregisterLocalEndpointByHandle nodeHandle serviceHandle

end Graph

inductive Operation where
  | registerLocalNode (nodeName nodeNamespace : Option CString)
      (ddsParticipant : Option DomainParticipant)
  | inspectLocalNode (nodeHandle : NodeHandle)
  | registerLocalSubscription (nodeHandle : NodeHandle) (subReader : Option DataReader)
  | registerLocalPublisher (nodeHandle : NodeHandle) (pubWriter : Option DataWriter)
  | registerLocalClient (nodeHandle : NodeHandle) (clientReader : Option DataReader)
      (clientWriter : Option DataWriter)
  | registerLocalService (nodeHandle : NodeHandle) (serviceReader : Option DataReader)
      (serviceWriter : Option DataWriter)
  | unregisterLocalNode (nodeHandle : NodeHandle)
  | unregisterLocalSubscription (nodeHandle : NodeHandle) (subReader : Option DataReader)
  | unregisterLocalPublisher (nodeHandle : NodeHandle) (pubWriter : Option DataWriter)
  | unregisterLocalClient (nodeHandle : NodeHandle) (clientReader : Option DataReader)
      (clientWriter : Option DataWriter)
  | unregisterLocalService (nodeHandle : NodeHandle) (serviceReader : Option DataReader)
      (serviceWriter : Option DataWriter)
  | unregisterLocalSubscriptionByHandle (nodeHandle : NodeHandle) (subHandle : EndpointHandle)
  | unregisterLocalPublisherByHandle (nodeHandle : NodeHandle) (pubHandle : EndpointHandle)
  | unregisterLocalClientByHandle (nodeHandle : NodeHandle) (clientHandle : EndpointHandle)
  | unregisterLocalServiceByHandle (nodeHandle : NodeHandle) (serviceHandle : EndpointHandle)
  deriving DecidableEq

inductive Answer where
  | handle (value : Int32)
  | retcode (value : ReturnCode)
  deriving DecidableEq, Repr

/-- A handle other than the invalid one, or `DDS_RETCODE_OK`. -/
def Answer.succeeded : Answer → Bool
  | .handle value => value != -1
  | .retcode value => value == .ok

namespace Outcome

def ofHandle (outcome : Outcome Int32) : Outcome Answer :=
  { outcome with result := .handle outcome.result }

def ofRetcode (outcome : Outcome ReturnCode) : Outcome Answer :=
  { outcome with result := .retcode outcome.result }

end Outcome

def Operation.perform (dds : Dds) (env : CallEnv) (graph : Graph) : Operation → Outcome Answer
  | .registerLocalNode name space participant =>
      .ofHandle (graph.registerLocalNode dds env name space participant)
  | .inspectLocalNode node => .ofRetcode (graph.inspectLocalNode dds env node)
  | .registerLocalSubscription node reader =>
      .ofHandle (graph.registerLocalSubscription dds env node reader)
  | .registerLocalPublisher node writer =>
      .ofHandle (graph.registerLocalPublisher dds env node writer)
  | .registerLocalClient node reader writer =>
      .ofHandle (graph.registerLocalClient dds env node reader writer)
  | .registerLocalService node reader writer =>
      .ofHandle (graph.registerLocalService dds env node reader writer)
  | .unregisterLocalNode node => .ofRetcode (graph.unregisterLocalNode node)
  | .unregisterLocalSubscription node reader =>
      .ofRetcode (graph.unregisterLocalSubscription node reader)
  | .unregisterLocalPublisher node writer =>
      .ofRetcode (graph.unregisterLocalPublisher node writer)
  | .unregisterLocalClient node reader writer =>
      .ofRetcode (graph.unregisterLocalClient node reader writer)
  | .unregisterLocalService node reader writer =>
      .ofRetcode (graph.unregisterLocalService node reader writer)
  | .unregisterLocalSubscriptionByHandle node handle =>
      .ofRetcode (graph.unregisterLocalSubscriptionByHandle node handle)
  | .unregisterLocalPublisherByHandle node handle =>
      .ofRetcode (graph.unregisterLocalPublisherByHandle node handle)
  | .unregisterLocalClientByHandle node handle =>
      .ofRetcode (graph.unregisterLocalClientByHandle node handle)
  | .unregisterLocalServiceByHandle node handle =>
      .ofRetcode (graph.unregisterLocalServiceByHandle node handle)

/-- One change of the registry: a call, or the inspection of one node by a poll
of the update thread, which ignores its return code. Every change comes with
the answers of the libraries, so DDS entities may appear between any two. -/
inductive Event where
  | call (env : CallEnv) (operation : Operation)
  | poll (env : CallEnv) (ptr : NodePtr)

namespace Graph

def next (dds : Dds) (graph : Graph) : Event → Graph
  | .call env operation => (operation.perform dds env graph).graph
  | .poll env ptr => (graph.inspectLocalNodeEA dds env ptr).1

def IsInitial (graph : Graph) : Prop :=
  ∃ participant period, graph = Graph.initial participant period

abbrev Run (dds : Dds) : List (Graph × Event) → Graph → Prop :=
  Execution IsInitial (fun graph event next => next = graph.next dds event)

def Reachable (dds : Dds) (graph : Graph) : Prop := ∃ past, Run dds past graph

def after (dds : Dds) (graph : Graph) (events : List Event) : Graph :=
  events.foldl (next dds) graph

/-- What `after` visits on its way. -/
def history (dds : Dds) : Graph → List Event → List (Graph × Event)
  | _, [] => []
  | graph, event :: rest => (graph, event) :: history dds (graph.next dds event) rest

theorem Run.history {dds : Dds} {first : Graph → Prop} {past : List (Graph × Event)}
    {graph : Graph}
    (run : Execution first (fun graph event next => next = graph.next dds event) past graph)
    (events : List Event) :
    Execution first (fun graph event next => next = graph.next dds event)
      (past ++ graph.history dds events) (graph.after dds events) := by
  induction events generalizing past graph with
  | nil => simpa [Graph.history, Graph.after] using run
  | cons event rest ih =>
      simpa [Graph.history, Graph.after] using ih (run.extend rfl)

theorem Run.ofInitial (dds : Dds) (participant : DomainParticipant) (period : Duration)
    (events : List Event) :
    Run dds ((initial participant period).history dds events)
      ((initial participant period).after dds events) :=
  @Run.history dds IsInitial [] _ (.start ⟨participant, period, rfl⟩) events

theorem Run.after {dds : Dds} {past : List (Graph × Event)} {graph : Graph}
    (run : Run dds past graph) (events : List Event) :
    ∃ later, Run dds (past ++ later) (graph.after dds events) ∧
      ∀ visit ∈ later, visit.2 ∈ events := by
  induction events generalizing past graph with
  | nil => exact ⟨[], by simpa [Graph.after] using run, by simp⟩
  | cons event rest ih =>
      obtain ⟨later, reached, among⟩ := ih (.extend run rfl)
      refine ⟨(graph, event) :: later, by simpa [Graph.after] using reached, ?_⟩
      intro visit member
      rcases List.mem_cons.mp member with rfl | onward
      · exact List.mem_cons_self
      · exact List.mem_cons_of_mem _ (among visit onward)

theorem Run.replay (dds : Dds) (participant : DomainParticipant) (period : Duration)
    (events : List Event) :
    ∃ past, Run dds past ((initial participant period).after dds events) ∧
      ∀ visit ∈ past, visit.2 ∈ events := by
  obtain ⟨later, reached, among⟩ := Run.after (.start ⟨participant, period, rfl⟩) events
  exact ⟨later, by simpa using reached, among⟩

end Graph

end Ros2Graph
