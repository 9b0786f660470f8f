import Ros2Graph.Calls.Statements
import Ros2Graph.Registry.PublicOutcomes

/-! The requests that callers make of a graph, as routines that take and give
`mutex_self`, and what each request asks for in one piece. -/

set_option autoImplicit false

namespace Ros2Graph

open Foundation

/-- A call, from its first statement to its result. -/
abbrev CallRoutine := Routine Graph SemEvent

namespace CallRoutine

def locked {Result : Type} (body : GraphRoutine Result) : CallRoutine Result :=
  Routine.locked Notice.event .takeMutexSelf .giveMutexSelf body

end CallRoutine

namespace GraphRoutine

variable (dds : Dds) (env : CallEnv)

/-- `def_node`. A participant that is NULL has no model: until it is given its own, a
linked node has that of the graph. -/
def defNode (graphParticipant : DomainParticipant) : GraphNode where
  handle := NodeHandle.invalid
  endpoints := []
  endpointsLen := 0
  writersLen := 0
  readersLen := 0
  endpHandleNext := 0
  nodeName := none
  nodeNamespace := none
  ddsParticipant := graphParticipant

/-- The node is linked before its members are set. -/
def linkNode (pool : FastBufferPool) (handle : NodeHandle)
    (ddsParticipant : Option DomainParticipant) : GraphRoutine NodePtr := do
  assign fun graph => { graph with nodesPool := pool }
  let node := (← registry).nodes.length
  assign fun graph => { graph with nodes := graph.nodes ++ [defNode graph.graphParticipant] }
  assign fun graph => { graph with nodesLen := graph.nodesLen + 1 }
  let participant := ddsParticipant.getD (← registry).graphParticipant
  assignNode node fun node => { node with ddsParticipant := participant }
  assignNode node fun node => { node with handle }
  return node

def copyName (node : NodePtr) (nodeName : CString) : GraphRoutine Unit :=
  assignNode node fun node => { node with nodeName := some nodeName }

def copyNamespace (node : NodePtr) (nodeNamespace : CString) : GraphRoutine Unit :=
  assignNode node fun node => { node with nodeNamespace := some nodeNamespace }

/-- What `register_local_node` does between taking the mutex and its label. -/
def linkLocalNode (nodeName : CString) (nodeNamespace : Option CString)
    (ddsParticipant : Option DomainParticipant) :
    GraphRoutine (ReturnCode × Option NodePtr × NodeHandle) := do
  let enablePoll := (← registry).isPollingEnabled
  if ((← registry).lookupLocalNodeByName nodeName nodeNamespace).isSome then
    return (.preconditionNotMet, none, .invalid)
  match ← nextNodeHandle intMax with
  | none => return (.outOfResources, none, .invalid)
  | some handle =>
    match (← registry).nodesPool.getBuffer env.nodeBuffer with
    | none => return (.outOfResources, none, handle)
    | some pool =>
      let node ← linkNode pool handle ddsParticipant
      if !env.dupName then return (.error, some node, handle)
      copyName node nodeName
      if !env.dupNamespace then return (.error, some node, handle)
      copyNamespace node (nodeNamespace.getD rootNamespace)
      queueUpdate
      if enablePoll then
        let retcode ← inspectLocalNodeEA dds env node
        if retcode != .ok then return (.error, some node, handle)
      return (.ok, some node, handle)

end GraphRoutine

namespace CallRoutine

open GraphRoutine (registry queueUpdate finalizeNode finalizeEndpoint)

section

variable (dds : Dds) (env : CallEnv)

def registerLocalNode (nodeName nodeNamespace : Option CString)
    (ddsParticipant : Option DomainParticipant) : CallRoutine NodeHandle :=
  match nodeName, Graph.refusesNames nodeName nodeNamespace with
  | some nodeName, false => locked do
    let (retcode, node, result) ←
      GraphRoutine.linkLocalNode dds env nodeName nodeNamespace ddsParticipant
    -- done:
    if retcode != .ok then
      match node with
      | none => return .invalid
      | some node =>
        finalizeNode node
        return .invalid
    return result
  | _, _ => return .invalid

def inspectLocalNode (nodeHandle : NodeHandle) : CallRoutine ReturnCode := locked do
  match (← registry).lookupLocalNodeByHandle nodeHandle with
  | none => return .error
  | some (node, _) =>
    let retcode ← GraphRoutine.inspectLocalNodeEA dds env node
    if retcode == .ok then queueUpdate
    return retcode

def unregisterLocalNode (nodeHandle : NodeHandle) : CallRoutine ReturnCode := locked do
  match (← registry).lookupLocalNodeByHandle nodeHandle with
  | none => return .badParameter
  | some (node, _) =>
    finalizeNode node
    return .ok

def registerEndpoint (missing : Bool) (nodeHandle : NodeHandle) (endpType : EndpointType)
    (ddsReader : Option DataReader) (ddsWriter : Option DataWriter) :
    CallRoutine EndpointHandle :=
  if missing then return .invalid
  else locked do
    match ← GraphRoutine.registerLocalEndpoint dds env nodeHandle endpType ddsReader ddsWriter with
    | none => return .invalid
    | some handle =>
      queueUpdate
      return handle

end

def unregisterEndpoint (missing : Bool) (nodeHandle : NodeHandle)
    (lookup : GraphNode → Option (EndpointPtr × GraphEndpoint)) : CallRoutine ReturnCode :=
  if missing then return .badParameter
  else locked do
    match (← registry).lookupLocalNodeByHandle nodeHandle with
    | none => return .badParameter
    | some (ptr, node) =>
      match lookup node with
      | none => return .badParameter
      | some (endpPtr, endp) =>
        finalizeEndpoint ptr endpPtr endp
        queueUpdate
        return .ok

def getNodeParticipant (nodeHandle : NodeHandle) : CallRoutine (Option DomainParticipant) :=
  locked do
    match (← registry).lookupLocalNodeByHandle nodeHandle with
    | none => return none
    | some (_, node) => return some node.ddsParticipant

def getNodeName (nodeHandle : NodeHandle) (nameOut namespaceOut : Option (Option CString)) :
    CallRoutine (ReturnCode × Option (Option CString) × Option (Option CString)) :=
  if nameOut.isNone && namespaceOut.isNone then return (.badParameter, nameOut, namespaceOut)
  else locked do
    match (← registry).lookupLocalNodeByHandle nodeHandle with
    | none => return (.preconditionNotMet, nameOut, namespaceOut)
    | some (_, node) =>
      return (.ok, nameOut.map fun _ => node.nodeName,
        namespaceOut.map fun _ => node.nodeNamespace)

def readEndpoint {Member : Type} (failure : Member) (member : GraphEndpoint → Member)
    (nodeHandle : NodeHandle) (endpHandle : EndpointHandle) : CallRoutine Member := locked do
  match (← registry).lookupLocalNodeByHandle nodeHandle with
  | none => return failure
  | some (_, node) =>
    match node.lookupLocalEndpointByHandle endpHandle with
    | none => return failure
    | some (_, endp) => return member endp

end CallRoutine

/-- The functions that register, inspect and unregister, each with its own lookup. -/
def Operation.routine (dds : Dds) (env : CallEnv) : Operation → CallRoutine Answer
  | .registerLocalNode name space participant =>
      .handle <$> CallRoutine.registerLocalNode dds env name space participant
  | .inspectLocalNode node => .retcode <$> CallRoutine.inspectLocalNode dds env node
  | .registerLocalSubscription node reader =>
      .handle <$> CallRoutine.registerEndpoint dds env reader.isNone node .subscription reader none
  | .registerLocalPublisher node writer =>
      .handle <$> CallRoutine.registerEndpoint dds env writer.isNone node .publisher none writer
  | .registerLocalClient node reader writer =>
      .handle <$> CallRoutine.registerEndpoint dds env (reader.isNone || writer.isNone) node
        .client reader writer
  | .registerLocalService node reader writer =>
      .handle <$> CallRoutine.registerEndpoint dds env (reader.isNone || writer.isNone) node
        .service reader writer
  | .unregisterLocalNode node => .retcode <$> CallRoutine.unregisterLocalNode node
  | .unregisterLocalSubscription node reader =>
      .retcode <$> CallRoutine.unregisterEndpoint reader.isNone node
        (·.lookupLocalEndpointByDdsEndpoints reader none)
  | .unregisterLocalPublisher node writer =>
      .retcode <$> CallRoutine.unregisterEndpoint writer.isNone node
        (·.lookupLocalEndpointByDdsEndpoints none writer)
  | .unregisterLocalClient node reader writer
  | .unregisterLocalService node reader writer =>
      .retcode <$> CallRoutine.unregisterEndpoint (reader.isNone || writer.isNone) node
        (·.lookupLocalEndpointByDdsEndpoints reader writer)
  | .unregisterLocalSubscriptionByHandle node handle
  | .unregisterLocalPublisherByHandle node handle
  | .unregisterLocalClientByHandle node handle
  | .unregisterLocalServiceByHandle node handle =>
      .retcode <$> CallRoutine.unregisterEndpoint false node (·.lookupLocalEndpointByHandle handle)

/-- What a caller asks of a graph, with the arguments that it gives. -/
inductive Request where
  | perform (operation : Operation)
  | getNodeParticipant (nodeHandle : NodeHandle)
  | getNodeName (nodeHandle : NodeHandle) (nameOut namespaceOut : Option (Option CString))
  | getEndpointReader (nodeHandle : NodeHandle) (endpHandle : EndpointHandle)
  | getEndpointWriter (nodeHandle : NodeHandle) (endpHandle : EndpointHandle)
  | getEndpointType (nodeHandle : NodeHandle) (endpHandle : EndpointHandle)
  deriving DecidableEq

namespace Request

def routine (dds : Dds) (env : CallEnv) : Request → CallRoutine PublicAnswer
  | .perform operation => .answer <$> operation.routine dds env
  | .getNodeParticipant node => .participant <$> CallRoutine.getNodeParticipant node
  | .getNodeName node nameOut namespaceOut =>
      .nodeName <$> CallRoutine.getNodeName node nameOut namespaceOut
  | .getEndpointReader node endp => .reader <$> CallRoutine.readEndpoint none (·.ddsReader) node endp
  | .getEndpointWriter node endp => .writer <$> CallRoutine.readEndpoint none (·.ddsWriter) node endp
  | .getEndpointType node endp =>
      .endpointType <$> CallRoutine.readEndpoint .unknown (·.endpType) node endp

/-- The request in one piece: the registry after it, the answer, and the calls on the
semaphores in order. -/
def outcome (dds : Dds) (env : CallEnv) (graph : Graph) : Request → Outcome PublicAnswer
  | .perform operation =>
      let performed := operation.perform dds env graph
      ⟨performed.graph, .answer performed.result, performed.events⟩
  | .getNodeParticipant node => reading (.participant (graph.getNodeParticipant node))
  | .getNodeName node nameOut namespaceOut =>
      let answer := .nodeName (graph.getNodeName node nameOut namespaceOut)
      if nameOut.isNone && namespaceOut.isNone then ⟨graph, answer, []⟩ else reading answer
  | .getEndpointReader node endp => reading (.reader (graph.getEndpointReader node endp))
  | .getEndpointWriter node endp => reading (.writer (graph.getEndpointWriter node endp))
  | .getEndpointType node endp => reading (.endpointType (graph.getEndpointType node endp))
where
  reading (answer : PublicAnswer) : Outcome PublicAnswer :=
    ⟨graph, answer, [.takeMutexSelf, .giveMutexSelf]⟩

end Request

end Ros2Graph
