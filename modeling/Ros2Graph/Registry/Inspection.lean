import Ros2Graph.Registry.Endpoint
import Ros2Graph.Foundation.EarlyExit

/-! Inspection of a node: every DataWriter and DataReader of the node's
participant whose topic name follows the naming conventions is taken into the
node. Writers are visited before readers. -/

set_option autoImplicit false

namespace Ros2Graph

open Foundation

/-- The locals of `RTIROS2_Graph_inspect_local_nodeEA` that outlive one iteration. -/
structure InspectState where
  graph : Graph
  endpHandle : EndpointHandle

namespace InspectState

/-- The check after the `switch`: only an invalid `endp_handle` leaves the loop. -/
def checkEndpHandle (state : InspectState) : Bool × InspectState :=
  (state.endpHandle != EndpointHandle.invalid, state)

def registerInspected (dds : Dds) (env : CallEnv) (state : InspectState) (nodeHandle : NodeHandle)
    (endpType : EndpointType) (ddsReader : Option DataReader) (ddsWriter : Option DataWriter) :
    Bool × InspectState :=
  match state.graph.registerLocalEndpoint dds env nodeHandle endpType ddsReader ddsWriter with
  | (graph, none) => (false, { state with graph })
  | (graph, some endp) => checkEndpHandle { graph, endpHandle := endp.handle }

/-- The CLIENT and SERVICE cases of the writers' `switch`. The search asks for
an endpoint whose reader is on the writer's own topic. -/
def inspectServiceWriter (dds : Dds) (env : CallEnv) (ptr : NodePtr) (state : InspectState)
    (node : GraphNode) (endpType : EndpointType) (dw : DataWriter) : Bool × InspectState :=
  match node.lookupLocalEndpointByTopicName dds (dds.writerTopicName dw) false with
  | none => state.registerInspected dds env node.handle endpType none (some dw)
  | some (endpPtr, endp) =>
    match endp.ddsWriter with
    | some _ => (false, state)
    | none =>
      -- attached in place: no counter moves and `endp_handle` keeps its value
      let attached := { node with
        endpoints := node.endpoints.set endpPtr { endp with ddsWriter := some dw } }
      checkEndpHandle { state with graph := state.graph.setNode ptr attached }

def inspectServiceReader (dds : Dds) (env : CallEnv) (ptr : NodePtr) (state : InspectState)
    (node : GraphNode) (endpType : EndpointType) (dr : DataReader) : Bool × InspectState :=
  match node.lookupLocalEndpointByTopicName dds (dds.readerTopicName dr) false with
  | none => state.registerInspected dds env node.handle endpType (some dr) none
  | some (endpPtr, endp) =>
    match endp.ddsReader with
    | some _ => (false, state)
    | none =>
      let attached := { node with
        endpoints := node.endpoints.set endpPtr { endp with ddsReader := some dr } }
      checkEndpHandle { state with graph := state.graph.setNode ptr attached }

def inspectWriter (dds : Dds) (env : CallEnv) (ptr : NodePtr) (state : InspectState)
    (dw : DataWriter) : Bool × InspectState :=
  match state.graph.nodes[ptr]? with
  | none => (false, state)
  | some node =>
    match node.lookupLocalEndpointByDdsEndpoints none (some dw) with
    | some _ => (true, state)
    | none =>
      match detectEndpointType (dds.writerTopicName dw) true with
      | .publisher => state.registerInspected dds env node.handle .publisher none (some dw)
      | .client => state.inspectServiceWriter dds env ptr node .client dw
      | .service => state.inspectServiceWriter dds env ptr node .service dw
      | _ => (true, state)

def inspectReader (dds : Dds) (env : CallEnv) (ptr : NodePtr) (state : InspectState)
    (dr : DataReader) : Bool × InspectState :=
  match state.graph.nodes[ptr]? with
  | none => (false, state)
  | some node =>
    match node.lookupLocalEndpointByDdsEndpoints (some dr) none with
    | some _ => (true, state)
    | none =>
      match detectEndpointType (dds.readerTopicName dr) false with
      | .subscription => state.registerInspected dds env node.handle .subscription (some dr) none
      | .client => state.inspectServiceReader dds env ptr node .client dr
      | .service => state.inspectServiceReader dds env ptr node .service dr
      | _ => (true, state)

def inspectPublisher (dds : Dds) (env : CallEnv) (ptr : NodePtr) (state : InspectState)
    (pub : Publisher) : Bool × InspectState :=
  match env.enumeration.getAllDatawriters pub with
  | none => (false, state)
  | some writers => runLoop (inspectWriter dds env ptr) state writers

def inspectSubscriber (dds : Dds) (env : CallEnv) (ptr : NodePtr) (state : InspectState)
    (sub : Subscriber) : Bool × InspectState :=
  match env.enumeration.getAllDatareaders sub with
  | none => (false, state)
  | some readers => runLoop (inspectReader dds env ptr) state readers

end InspectState

namespace Graph

/-- The graph is returned as the inspection left it, also when it failed. -/
def inspectLocalNodeEA (dds : Dds) (env : CallEnv) (graph : Graph) (ptr : NodePtr) :
    Graph × ReturnCode :=
  match graph.nodes[ptr]? with
  | none => (graph, .error)
  | some node =>
    match env.enumeration.getPublishers node.ddsParticipant with
    | none => (graph, .error)
    | some publishers =>
      match runLoop (InspectState.inspectPublisher dds env ptr)
          ⟨graph, EndpointHandle.invalid⟩ publishers with
      | (false, state) => (state.graph, .error)
      | (true, state) =>
        match env.enumeration.getSubscribers node.ddsParticipant with
        | none => (state.graph, .error)
        | some subscribers =>
          match runLoop (InspectState.inspectSubscriber dds env ptr) state subscribers with
          | (false, state) => (state.graph, .error)
          | (true, state) => (state.graph, .ok)

end Graph

end Ros2Graph
