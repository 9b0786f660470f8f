import Ros2Graph.Creation.CGraph
import Ros2Graph.Registry.Accessors
import Ros2Graph.Registry.Operations

/-! The public functions of a graph as they are called, with a pointer that may be
NULL. Every function takes and gives `mutex_self` by itself; the label `done` is what
stands behind the block that a `goto` leaves. -/

set_option autoImplicit false

namespace Ros2Graph

open Foundation

/-- The graph that the caller points to, or `none` for NULL, and the semaphore calls
that have been made. -/
structure CallState where
  self : Option CreatedGraph
  events : List SemEvent
  deriving DecidableEq

/-- A call under way; `none` is a call that has dereferenced NULL. -/
abbrev GraphCall := StateT CallState Option

namespace GraphCall

def isNull : GraphCall Bool := fun state => some (state.self.isNone, state)

def deref : GraphCall CreatedGraph := fun state => state.self.map (·, state)

def registry : GraphCall Graph := return (← deref).registry

def store (registry : Graph) : GraphCall Unit := fun state =>
  state.self.map fun graph => ((), { state with self := some { graph with registry } })

/-- The semaphores are members of the graph. -/
def semaphore (event : SemEvent) : GraphCall Unit := fun state =>
  state.self.map fun _ => ((), { state with events := state.events ++ [event] })

def takeMutexSelf : GraphCall Unit := semaphore .takeMutexSelf
def giveMutexSelf : GraphCall Unit := semaphore .giveMutexSelf
def queueUpdate : GraphCall Unit := semaphore .giveSemPinfo

/-- Memory that is freed is not pointed to any more. -/
def free : GraphCall Unit := fun state => state.self.map fun _ => ((), { state with self := none })

/-! The calls that do not take `mutex_self`. -/

def finalizeNodes : Nat → GraphCall Unit
  | 0 => return
  | count + 1 => do
    store ((← registry).finalizeNode 0)
    finalizeNodes count

/-- `RTIROS2_Graph_finalize`, less the wait for the thread to exit and the release of the
semaphores and entities. Nodes are finalized from the front of the list. -/
def finalize : GraphCall Unit := do
  semaphore .giveSemPinfo
  finalizeNodes (← registry).nodes.length

def delete : GraphCall Unit := do
  if ← isNull then return
  finalize
  free

def getGraphParticipant : GraphCall (Option DomainParticipant) := do
  if ← isNull then return none
  return some (← deref).registry.graphParticipant

def getGraphPublisher : GraphCall (Option Publisher) := do
  if ← isNull then return none
  return some (← deref).graphPublisher

def getGraphTopic : GraphCall (Option Topic) := do
  if ← isNull then return none
  return some (← deref).graphTopic

def getGraphWriter : GraphCall (Option DataWriter) := do
  if ← isNull then return none
  return some (← deref).graphWriter.writer

/-! The calls on nodes. -/

section

variable (dds : Dds) (env : CallEnv)

/-- What `register_local_node` does up to its label: the return code, the node that has
been linked and the handle. -/
def linkLocalNode (nodeName : CString) (nodeNamespace : Option CString)
    (ddsParticipant : Option DomainParticipant) :
    GraphCall (ReturnCode × Option NodePtr × NodeHandle) := do
  let enablePoll := (← registry).isPollingEnabled
  if ((← registry).lookupLocalNodeByName nodeName nodeNamespace).isSome then
    return (.preconditionNotMet, none, .invalid)
  let next := (← registry).nextNodeHandle
  store next.2
  match next.1 with
  | none => return (.outOfResources, none, .invalid)
  | some handle =>
    match (← registry).nodesPool.getBuffer env.nodeBuffer with
    | none => return (.outOfResources, none, handle)
    | some pool =>
      let node := (← registry).nodes.length
      store ((← registry).linkNode pool handle ddsParticipant)
      if !env.dupName then return (.error, some node, handle)
      store ((← registry).nameNode node (some nodeName) none)
      if !env.dupNamespace then return (.error, some node, handle)
      store ((← registry).nameNode node (some nodeName) (some (nodeNamespace.getD rootNamespace)))
      queueUpdate
      if enablePoll then
        let inspected := (← registry).inspectLocalNodeEA dds env node
        store inspected.1
        if inspected.2 != .ok then return (.error, some node, handle)
      return (.ok, some node, handle)

def registerLocalNode (nodeName nodeNamespace : Option CString)
    (ddsParticipant : Option DomainParticipant) : GraphCall NodeHandle := do
  if ← isNull then return .invalid
  match nodeName, Graph.refusesNames nodeName nodeNamespace with
  | some nodeName, false =>
    takeMutexSelf
    let (retcode, node, result) ← linkLocalNode dds env nodeName nodeNamespace ddsParticipant
    -- done:
    if retcode != .ok then
      match node with
      | none => pure ()
      | some node => store ((← registry).finalizeNode node)
    giveMutexSelf
    return if retcode != .ok then .invalid else result
  | _, _ => return .invalid

/-- NULL goes to the label too. -/
def inspectLocalNode (nodeHandle : NodeHandle) : GraphCall ReturnCode := do
  let retcode ← (do
    if ← isNull then return .badParameter
    takeMutexSelf
    match (← registry).lookupLocalNodeByHandle nodeHandle with
    | none => return .error
    | some (node, _) =>
      let inspected := (← registry).inspectLocalNodeEA dds env node
      store inspected.1
      if inspected.2 == .ok then queueUpdate
      return inspected.2)
  -- done:
  giveMutexSelf
  return retcode

/-- NULL goes to the label too. -/
def unregisterLocalNode (nodeHandle : NodeHandle) : GraphCall ReturnCode := do
  let retcode ← (do
    if ← isNull then return .badParameter
    takeMutexSelf
    match (← registry).lookupLocalNodeByHandle nodeHandle with
    | none => return .badParameter
    | some (node, _) =>
      store ((← registry).finalizeNode node)
      return .ok)
  -- done:
  giveMutexSelf
  return retcode

/-! The calls on endpoints, first what the functions of the four kinds share. An entity
that must not be NULL is `missing` when it is. -/

def registerEndpoint (missing : Bool) (nodeHandle : NodeHandle) (endpType : EndpointType)
    (ddsReader : Option DataReader) (ddsWriter : Option DataWriter) : GraphCall EndpointHandle := do
  if (← isNull) || missing then return .invalid
  takeMutexSelf
  let result ← (do
    let registered := (← registry).registerLocalEndpoint dds env nodeHandle endpType ddsReader
      ddsWriter
    store registered.1
    match registered.2 with
    | none => return .invalid
    | some endp =>
      queueUpdate
      return endp.handle)
  -- done:
  giveMutexSelf
  return result

def registerLocalSubscription (nodeHandle : NodeHandle) (subReader : Option DataReader) :
    GraphCall EndpointHandle :=
  registerEndpoint dds env subReader.isNone nodeHandle .subscription subReader none

def registerLocalPublisher (nodeHandle : NodeHandle) (pubWriter : Option DataWriter) :
    GraphCall EndpointHandle :=
  registerEndpoint dds env pubWriter.isNone nodeHandle .publisher none pubWriter

def registerLocalClient (nodeHandle : NodeHandle) (clientReader : Option DataReader)
    (clientWriter : Option DataWriter) : GraphCall EndpointHandle :=
  registerEndpoint dds env (clientReader.isNone || clientWriter.isNone) nodeHandle .client
    clientReader clientWriter

def registerLocalService (nodeHandle : NodeHandle) (serviceReader : Option DataReader)
    (serviceWriter : Option DataWriter) : GraphCall EndpointHandle :=
  registerEndpoint dds env (serviceReader.isNone || serviceWriter.isNone) nodeHandle .service
    serviceReader serviceWriter

end

/-- `RTIROS2_Graph_unregister_local_endpoint` and its sibling by handle, by the search that
they make. -/
def unregisterEndpoint (nodeHandle : NodeHandle)
    (lookup : GraphNode → Option (EndpointPtr × GraphEndpoint)) : GraphCall ReturnCode := do
  takeMutexSelf
  let retcode ← (do
    match (← registry).lookupLocalNodeByHandle nodeHandle with
    | none => return .badParameter
    | some (ptr, node) =>
      match lookup node with
      | none => return .badParameter
      | some (endpPtr, _) =>
        store ((← registry).finalizeEndpointAt ptr node endpPtr)
        queueUpdate
        return .ok)
  -- done:
  giveMutexSelf
  return retcode

def unregisterByEntities (missing : Bool) (nodeHandle : NodeHandle)
    (endpReader : Option DataReader) (endpWriter : Option DataWriter) : GraphCall ReturnCode := do
  if (← isNull) || missing then return .badParameter
  unregisterEndpoint nodeHandle (·.lookupLocalEndpointByDdsEndpoints endpReader endpWriter)

def unregisterByHandle (nodeHandle : NodeHandle) (endpHandle : EndpointHandle) :
    GraphCall ReturnCode := do
  if ← isNull then return .badParameter
  unregisterEndpoint nodeHandle (·.lookupLocalEndpointByHandle endpHandle)

def unregisterLocalSubscription (nodeHandle : NodeHandle) (subReader : Option DataReader) :
    GraphCall ReturnCode :=
  unregisterByEntities subReader.isNone nodeHandle subReader none

def unregisterLocalPublisher (nodeHandle : NodeHandle) (pubWriter : Option DataWriter) :
    GraphCall ReturnCode :=
  unregisterByEntities pubWriter.isNone nodeHandle none pubWriter

def unregisterLocalClient (nodeHandle : NodeHandle) (clientReader : Option DataReader)
    (clientWriter : Option DataWriter) : GraphCall ReturnCode :=
  unregisterByEntities (clientReader.isNone || clientWriter.isNone) nodeHandle clientReader
    clientWriter

def unregisterLocalService (nodeHandle : NodeHandle) (serviceReader : Option DataReader)
    (serviceWriter : Option DataWriter) : GraphCall ReturnCode :=
  unregisterByEntities (serviceReader.isNone || serviceWriter.isNone) nodeHandle serviceReader
    serviceWriter

def unregisterLocalSubscriptionByHandle (nodeHandle : NodeHandle) (subHandle : EndpointHandle) :
    GraphCall ReturnCode :=
  unregisterByHandle nodeHandle subHandle

def unregisterLocalPublisherByHandle (nodeHandle : NodeHandle) (pubHandle : EndpointHandle) :
    GraphCall ReturnCode :=
  unregisterByHandle nodeHandle pubHandle

def unregisterLocalClientByHandle (nodeHandle : NodeHandle) (clientHandle : EndpointHandle) :
    GraphCall ReturnCode :=
  unregisterByHandle nodeHandle clientHandle

def unregisterLocalServiceByHandle (nodeHandle : NodeHandle) (serviceHandle : EndpointHandle) :
    GraphCall ReturnCode :=
  unregisterByHandle nodeHandle serviceHandle

/-! The calls that answer questions. -/

def getNodeParticipant (nodeHandle : NodeHandle) : GraphCall (Option DomainParticipant) := do
  if ← isNull then return none
  takeMutexSelf
  let result ← (do
    match (← registry).lookupLocalNodeByHandle nodeHandle with
    | none => return none
    | some (_, node) => return some node.ddsParticipant)
  -- done:
  giveMutexSelf
  return result

def getNodeName (nodeHandle : NodeHandle) (nameOut namespaceOut : Option (Option CString)) :
    GraphCall (ReturnCode × Option (Option CString) × Option (Option CString)) := do
  if (← isNull) || (nameOut.isNone && namespaceOut.isNone) then
    return (.badParameter, nameOut, namespaceOut)
  takeMutexSelf
  let result ← (do
    match (← registry).lookupLocalNodeByHandle nodeHandle with
    | none => return (.preconditionNotMet, nameOut, namespaceOut)
    | some (_, node) =>
      return (.ok, nameOut.map fun _ => node.nodeName, namespaceOut.map fun _ => node.nodeNamespace))
  -- done:
  giveMutexSelf
  return result

/-- The three functions that ask for a member of an endpoint. -/
def readEndpoint {Member : Type} (failure : Member) (member : GraphEndpoint → Member)
    (nodeHandle : NodeHandle) (endpHandle : EndpointHandle) : GraphCall Member := do
  if ← isNull then return failure
  takeMutexSelf
  let result ← (do
    match (← registry).lookupLocalNodeByHandle nodeHandle with
    | none => return failure
    | some (_, node) =>
      match node.lookupLocalEndpointByHandle endpHandle with
      | none => return failure
      | some (_, endp) => return member endp)
  -- done:
  giveMutexSelf
  return result

def getEndpointReader (nodeHandle : NodeHandle) (endpHandle : EndpointHandle) :
    GraphCall (Option DataReader) :=
  readEndpoint none (·.ddsReader) nodeHandle endpHandle

def getEndpointWriter (nodeHandle : NodeHandle) (endpHandle : EndpointHandle) :
    GraphCall (Option DataWriter) :=
  readEndpoint none (·.ddsWriter) nodeHandle endpHandle

def getEndpointType (nodeHandle : NodeHandle) (endpHandle : EndpointHandle) :
    GraphCall EndpointType :=
  readEndpoint .unknown (·.endpType) nodeHandle endpHandle

end GraphCall

/-- The functions that register, inspect and unregister, as they are called. -/
def Operation.call (dds : Dds) (env : CallEnv) : Operation → GraphCall Answer
  | .registerLocalNode name space participant =>
      .handle <$> GraphCall.registerLocalNode dds env name space participant
  | .inspectLocalNode node => .retcode <$> GraphCall.inspectLocalNode dds env node
  | .registerLocalSubscription node reader =>
      .handle <$> GraphCall.registerLocalSubscription dds env node reader
  | .registerLocalPublisher node writer =>
      .handle <$> GraphCall.registerLocalPublisher dds env node writer
  | .registerLocalClient node reader writer =>
      .handle <$> GraphCall.registerLocalClient dds env node reader writer
  | .registerLocalService node reader writer =>
      .handle <$> GraphCall.registerLocalService dds env node reader writer
  | .unregisterLocalNode node => .retcode <$> GraphCall.unregisterLocalNode node
  | .unregisterLocalSubscription node reader =>
      .retcode <$> GraphCall.unregisterLocalSubscription node reader
  | .unregisterLocalPublisher node writer =>
      .retcode <$> GraphCall.unregisterLocalPublisher node writer
  | .unregisterLocalClient node reader writer =>
      .retcode <$> GraphCall.unregisterLocalClient node reader writer
  | .unregisterLocalService node reader writer =>
      .retcode <$> GraphCall.unregisterLocalService node reader writer
  | .unregisterLocalSubscriptionByHandle node handle =>
      .retcode <$> GraphCall.unregisterLocalSubscriptionByHandle node handle
  | .unregisterLocalPublisherByHandle node handle =>
      .retcode <$> GraphCall.unregisterLocalPublisherByHandle node handle
  | .unregisterLocalClientByHandle node handle =>
      .retcode <$> GraphCall.unregisterLocalClientByHandle node handle
  | .unregisterLocalServiceByHandle node handle =>
      .retcode <$> GraphCall.unregisterLocalServiceByHandle node handle

/-- What registration answers when it fails, or a call that is refused its arguments. -/
def Operation.failure : Operation → Answer
  | .registerLocalNode .. => .handle NodeHandle.invalid
  | .registerLocalSubscription .. | .registerLocalPublisher .. | .registerLocalClient ..
  | .registerLocalService .. => .handle EndpointHandle.invalid
  | .inspectLocalNode .. | .unregisterLocalNode .. | .unregisterLocalSubscription ..
  | .unregisterLocalPublisher .. | .unregisterLocalClient .. | .unregisterLocalService ..
  | .unregisterLocalSubscriptionByHandle .. | .unregisterLocalPublisherByHandle ..
  | .unregisterLocalClientByHandle .. | .unregisterLocalServiceByHandle .. =>
      .retcode .badParameter

/-- All functions of the library that are called on a graph. -/
inductive PublicCall where
  | delete
  | getGraphParticipant
  | getGraphPublisher
  | getGraphTopic
  | getGraphWriter
  | perform (operation : Operation)
  | getNodeParticipant (nodeHandle : NodeHandle)
  | getNodeName (nodeHandle : NodeHandle) (nameOut namespaceOut : Option (Option CString))
  | getEndpointReader (nodeHandle : NodeHandle) (endpHandle : EndpointHandle)
  | getEndpointWriter (nodeHandle : NodeHandle) (endpHandle : EndpointHandle)
  | getEndpointType (nodeHandle : NodeHandle) (endpHandle : EndpointHandle)
  deriving DecidableEq

inductive PublicAnswer where
  | nothing
  | participant (value : Option DomainParticipant)
  | publisher (value : Option Publisher)
  | topic (value : Option Topic)
  | writer (value : Option DataWriter)
  | reader (value : Option DataReader)
  | answer (value : Answer)
  | nodeName (value : ReturnCode × Option (Option CString) × Option (Option CString))
  | endpointType (value : EndpointType)
  deriving DecidableEq

namespace PublicCall

def run (dds : Dds) (env : CallEnv) : PublicCall → GraphCall PublicAnswer
  | .delete => (fun _ => .nothing) <$> GraphCall.delete
  | .getGraphParticipant => .participant <$> GraphCall.getGraphParticipant
  | .getGraphPublisher => .publisher <$> GraphCall.getGraphPublisher
  | .getGraphTopic => .topic <$> GraphCall.getGraphTopic
  | .getGraphWriter => .writer <$> GraphCall.getGraphWriter
  | .perform operation => .answer <$> operation.call dds env
  | .getNodeParticipant node => .participant <$> GraphCall.getNodeParticipant node
  | .getNodeName node nameOut namespaceOut =>
      .nodeName <$> GraphCall.getNodeName node nameOut namespaceOut
  | .getEndpointReader node endp => .reader <$> GraphCall.getEndpointReader node endp
  | .getEndpointWriter node endp => .writer <$> GraphCall.getEndpointWriter node endp
  | .getEndpointType node endp => .endpointType <$> GraphCall.getEndpointType node endp

/-- What the caller is told when the call fails; outputs are as they were. -/
def failure : PublicCall → PublicAnswer
  | .delete => .nothing
  | .getGraphParticipant => .participant none
  | .getGraphPublisher => .publisher none
  | .getGraphTopic => .topic none
  | .getGraphWriter => .writer none
  | .perform operation => .answer operation.failure
  | .getNodeParticipant _ => .participant none
  | .getNodeName _ nameOut namespaceOut => .nodeName (.badParameter, nameOut, namespaceOut)
  | .getEndpointReader _ _ => .reader none
  | .getEndpointWriter _ _ => .writer none
  | .getEndpointType _ _ => .endpointType .unknown

end PublicCall

end Ros2Graph
