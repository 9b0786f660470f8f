import Ros2Graph.Foundation.Routine
import Ros2Graph.Registry.PublicCalls

/-! The public functions of a graph statement by statement, as routines on the
registry that all callers share. An assignment is a load and a store. -/

set_option autoImplicit false

namespace Ros2Graph

open Foundation

/-- What a call signals between the two calls on `mutex_self`. -/
inductive Notice where
  | queueUpdate
  deriving DecidableEq, Repr

def Notice.event : Notice → SemEvent
  | .queueUpdate => .giveSemPinfo

/-- A part of a call that works under `mutex_self`. -/
abbrev GraphRoutine := Routine Graph Notice

namespace GraphRoutine

def registry : GraphRoutine Graph := .load .done

def assign (change : Graph → Graph) : GraphRoutine Unit :=
  .load fun graph => .store (change graph) (.done ())

def assignNode (ptr : NodePtr) (change : GraphNode → GraphNode) : GraphRoutine Unit :=
  assign fun graph => { graph with nodes := graph.nodes.modify ptr change }

def assignEndpoint (ptr : NodePtr) (endpPtr : EndpointPtr)
    (change : GraphEndpoint → GraphEndpoint) : GraphRoutine Unit :=
  assignNode ptr fun node => { node with endpoints := node.endpoints.modify endpPtr change }

def assignEndpointsPool (change : FastBufferPool → FastBufferPool) : GraphRoutine Unit :=
  assign fun graph => { graph with endpointsPool := change graph.endpointsPool }

def queueUpdate : GraphRoutine Unit := .signal .queueUpdate (.done ())

/-- A `for` loop that can be left early. -/
def forEach {Item Local : Type} (body : Local → Item → GraphRoutine (Bool × Local)) :
    Local → List Item → GraphRoutine (Bool × Local)
  | locals, [] => return (true, locals)
  | locals, item :: rest => do
    let (continues, locals) ← body locals item
    if continues then forEach body locals rest else return (false, locals)

/-! Handles. -/

def nextNodeHandle : Nat → GraphRoutine (Option NodeHandle)
  | 0 => return none
  | tries + 1 => do
    let drawn := (← registry).nodeHandleNext
    assign fun graph => { graph with nodeHandleNext := drawn + 1 }
    let candidate := if drawn < 0 then 0 else drawn
    if drawn < 0 then assign fun graph => { graph with nodeHandleNext := 0 }
    if ((← registry).lookupLocalNodeByHandle candidate).isSome then nextNodeHandle tries
    else return some candidate

def nextEndpointHandle (ptr : NodePtr) : Nat → GraphRoutine (Option EndpointHandle)
  | 0 => return none
  | tries + 1 => do
    match (← registry).nodes[ptr]? with
    | none => return none
    | some node =>
      let drawn := node.endpHandleNext
      assignNode ptr fun node => { node with endpHandleNext := drawn + 1 }
      let candidate := if drawn < 0 then 0 else drawn
      if drawn < 0 then assignNode ptr fun node => { node with endpHandleNext := 0 }
      match (← registry).nodes[ptr]? with
      | none => return none
      | some node =>
        if (node.lookupLocalEndpointByHandle candidate).isSome then nextEndpointHandle ptr tries
        else return some candidate

/-! Endpoints. -/

section

variable (dds : Dds) (env : CallEnv)

/-- The endpoint is linked before its members are set. -/
def linkEndpoint (ptr : NodePtr) (endpPtr : EndpointPtr) (handle : EndpointHandle)
    (endpType : EndpointType) (ddsReader : Option DataReader) (ddsWriter : Option DataWriter) :
    GraphRoutine Unit := do
  let endp : GraphEndpoint :=
    { handle, ddsReader := none, ddsWriter := none, endpType := .unknown }
  assignNode ptr fun node => { node with endpoints := node.endpoints ++ [endp] }
  assignNode ptr fun node => { node with endpointsLen := node.endpointsLen + 1 }
  assignEndpoint ptr endpPtr fun endp => { endp with endpType }
  if ddsReader.isSome then
    assignEndpoint ptr endpPtr fun endp => { endp with ddsReader }
    assignNode ptr fun node => { node with readersLen := node.readersLen + 1 }
  if ddsWriter.isSome then
    assignEndpoint ptr endpPtr fun endp => { endp with ddsWriter }
    assignNode ptr fun node => { node with writersLen := node.writersLen + 1 }

/-- The checks that stand before the handle of the endpoint is drawn. -/
def refusesEndpoint (node : GraphNode) (endpType : EndpointType) (ddsReader : Option DataReader)
    (ddsWriter : Option DataWriter) : Bool :=
  (node.lookupLocalEndpointByDdsEndpoints ddsReader ddsWriter).isSome ||
    (ddsReader.any fun reader =>
      endpType != detectEndpointType (dds.readerTopicName reader) false) ||
    ddsWriter.any fun writer => endpType != detectEndpointType (dds.writerTopicName writer) true

def registerLocalEndpoint (nodeHandle : NodeHandle) (endpType : EndpointType)
    (ddsReader : Option DataReader) (ddsWriter : Option DataWriter) :
    GraphRoutine (Option EndpointHandle) := do
  match (← registry).lookupLocalNodeByHandle nodeHandle with
  | none => return none
  | some (ptr, node) =>
    if refusesEndpoint dds node endpType ddsReader ddsWriter then return none
    match ← nextEndpointHandle ptr intMax with
    | none => return none
    | some handle =>
      match (← registry).endpointsPool.getBuffer env.endpointBuffer with
      | none => return none
      | some pool =>
        assignEndpointsPool fun _ => pool
        linkEndpoint ptr node.endpoints.length handle endpType ddsReader ddsWriter
        return some handle

/-- The endpoint is a local of the caller until its buffer is returned. -/
def finalizeEndpoint (ptr : NodePtr) (endpPtr : EndpointPtr) (endp : GraphEndpoint) :
    GraphRoutine Unit := do
  assignNode ptr fun node => { node with endpoints := node.endpoints.eraseIdx endpPtr }
  assignNode ptr fun node => { node with endpointsLen := node.endpointsLen - 1 }
  if endp.ddsWriter.isSome then
    assignNode ptr fun node => { node with writersLen := node.writersLen - 1 }
  if endp.ddsReader.isSome then
    assignNode ptr fun node => { node with readersLen := node.readersLen - 1 }
  assignEndpointsPool (·.returnBuffer)

/-- Of a node that is not listed any more, only the buffers of its endpoints are shared. -/
def finalizeEndpoints : List GraphEndpoint → GraphRoutine Unit
  | [] => return
  | _ :: rest => do
    assignEndpointsPool (·.returnBuffer)
    finalizeEndpoints rest

def finalizeNode (ptr : NodePtr) : GraphRoutine Unit := do
  match (← registry).nodes[ptr]? with
  | none => return
  | some node =>
    assign fun graph => { graph with nodes := graph.nodes.eraseIdx ptr }
    assign fun graph => { graph with nodesLen := graph.nodesLen - 1 }
    finalizeEndpoints node.endpoints
    assign fun graph => { graph with nodesPool := graph.nodesPool.returnBuffer }

/-! Inspection. The local that outlives an iteration is `endp_handle`. -/

def checkEndpHandle (endpHandle : EndpointHandle) : Bool × EndpointHandle :=
  (endpHandle != EndpointHandle.invalid, endpHandle)

def registerInspected (endpHandle : EndpointHandle) (nodeHandle : NodeHandle)
    (endpType : EndpointType) (ddsReader : Option DataReader) (ddsWriter : Option DataWriter) :
    GraphRoutine (Bool × EndpointHandle) := do
  match ← registerLocalEndpoint dds env nodeHandle endpType ddsReader ddsWriter with
  | none => return (false, endpHandle)
  | some endpHandle => return checkEndpHandle endpHandle

def inspectServiceWriter (ptr : NodePtr) (endpHandle : EndpointHandle) (node : GraphNode)
    (endpType : EndpointType) (dw : DataWriter) : GraphRoutine (Bool × EndpointHandle) := do
  match node.lookupLocalEndpointByTopicName dds (dds.writerTopicName dw) false with
  | none => registerInspected dds env endpHandle node.handle endpType none (some dw)
  | some (endpPtr, endp) =>
    match endp.ddsWriter with
    | some _ => return (false, endpHandle)
    | none =>
      assignEndpoint ptr endpPtr fun endp => { endp with ddsWriter := some dw }
      return checkEndpHandle endpHandle

def inspectServiceReader (ptr : NodePtr) (endpHandle : EndpointHandle) (node : GraphNode)
    (endpType : EndpointType) (dr : DataReader) : GraphRoutine (Bool × EndpointHandle) := do
  match node.lookupLocalEndpointByTopicName dds (dds.readerTopicName dr) false with
  | none => registerInspected dds env endpHandle node.handle endpType (some dr) none
  | some (endpPtr, endp) =>
    match endp.ddsReader with
    | some _ => return (false, endpHandle)
    | none =>
      assignEndpoint ptr endpPtr fun endp => { endp with ddsReader := some dr }
      return checkEndpHandle endpHandle

def inspectWriter (ptr : NodePtr) (endpHandle : EndpointHandle) (dw : DataWriter) :
    GraphRoutine (Bool × EndpointHandle) := do
  match (← registry).nodes[ptr]? with
  | none => return (false, endpHandle)
  | some node =>
    match node.lookupLocalEndpointByDdsEndpoints none (some dw) with
    | some _ => return (true, endpHandle)
    | none =>
      match detectEndpointType (dds.writerTopicName dw) true with
      | .publisher => registerInspected dds env endpHandle node.handle .publisher none (some dw)
      | .client => inspectServiceWriter dds env ptr endpHandle node .client dw
      | .service => inspectServiceWriter dds env ptr endpHandle node .service dw
      | _ => return (true, endpHandle)

def inspectReader (ptr : NodePtr) (endpHandle : EndpointHandle) (dr : DataReader) :
    GraphRoutine (Bool × EndpointHandle) := do
  match (← registry).nodes[ptr]? with
  | none => return (false, endpHandle)
  | some node =>
    match node.lookupLocalEndpointByDdsEndpoints (some dr) none with
    | some _ => return (true, endpHandle)
    | none =>
      match detectEndpointType (dds.readerTopicName dr) false with
      | .subscription =>
          registerInspected dds env endpHandle node.handle .subscription (some dr) none
      | .client => inspectServiceReader dds env ptr endpHandle node .client dr
      | .service => inspectServiceReader dds env ptr endpHandle node .service dr
      | _ => return (true, endpHandle)

def inspectPublisher (ptr : NodePtr) (endpHandle : EndpointHandle) (pub : Publisher) :
    GraphRoutine (Bool × EndpointHandle) :=
  match env.enumeration.getAllDatawriters pub with
  | none => return (false, endpHandle)
  | some writers => forEach (inspectWriter dds env ptr) endpHandle writers

def inspectSubscriber (ptr : NodePtr) (endpHandle : EndpointHandle) (sub : Subscriber) :
    GraphRoutine (Bool × EndpointHandle) :=
  match env.enumeration.getAllDatareaders sub with
  | none => return (false, endpHandle)
  | some readers => forEach (inspectReader dds env ptr) endpHandle readers

def inspectLocalNodeEA (ptr : NodePtr) : GraphRoutine ReturnCode := do
  match (← registry).nodes[ptr]? with
  | none => return .error
  | some node =>
    match env.enumeration.getPublishers node.ddsParticipant with
    | none => return .error
    | some publishers =>
      match ← forEach (inspectPublisher dds env ptr) EndpointHandle.invalid publishers with
      | (false, _) => return .error
      | (true, endpHandle) =>
        match env.enumeration.getSubscribers node.ddsParticipant with
        | none => return .error
        | some subscribers =>
          match ← forEach (inspectSubscriber dds env ptr) endpHandle subscribers with
          | (false, _) => return .error
          | (true, _) => return .ok

end

end GraphRoutine

end Ros2Graph
