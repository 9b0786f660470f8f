import Ros2Graph.Registry.Lookup

/-! Registration and removal of one endpoint of a node. -/

set_option autoImplicit false

namespace Ros2Graph

open Foundation

def detectEndpointType (topicName : CString) (writer : Bool) : EndpointType :=
  if topicName.startsWith topicPrefixDefault then
    if writer then .publisher else .subscription
  else if topicName.startsWith topicPrefixResponse then
    if writer then .service else .client
  else if topicName.startsWith topicPrefixRequest then
    if writer then .client else .service
  else .unknown

namespace GraphNode

def nextEndpointHandle (node : GraphNode) : Option EndpointHandle × GraphNode :=
  let found := searchHandle
    (fun handle => (node.lookupLocalEndpointByHandle handle).isSome) intMax node.endpHandleNext
  (found.1, { node with endpHandleNext := found.2 })

/-- Adds an endpoint at the back of the list and counts its two sides. -/
def linkEndpoint (node : GraphNode) (endp : GraphEndpoint) : GraphNode :=
  { node with
    endpoints := node.endpoints ++ [endp]
    endpointsLen := node.endpointsLen + 1
    readersLen := if endp.ddsReader.isSome then node.readersLen + 1 else node.readersLen
    writersLen := if endp.ddsWriter.isSome then node.writersLen + 1 else node.writersLen }

/-- `RTIROS2_Graph_register_local_endpoint` from where the node has been found. -/
def registerEndpoint (dds : Dds) (env : CallEnv) (pool : FastBufferPool) (node : GraphNode)
    (endpType : EndpointType) (ddsReader : Option DataReader) (ddsWriter : Option DataWriter) :
    FastBufferPool × GraphNode × Option GraphEndpoint :=
  if (node.lookupLocalEndpointByDdsEndpoints ddsReader ddsWriter).isSome then (pool, node, none)
  else if ddsReader.any fun reader =>
      endpType != detectEndpointType (dds.readerTopicName reader) false then (pool, node, none)
  else if ddsWriter.any fun writer =>
      endpType != detectEndpointType (dds.writerTopicName writer) true then (pool, node, none)
  else
    match node.nextEndpointHandle with
    | (none, node) => (pool, node, none)
    | (some handle, node) =>
      match pool.getBuffer env.endpointBuffer with
      | none => (pool, node, none)
      | some pool =>
        let endp : GraphEndpoint := { handle, ddsReader, ddsWriter, endpType }
        (pool, node.linkEndpoint endp, some endp)

/-- `RTIROS2_Graph_finalize_endpoint`, which always succeeds. -/
def finalizeEndpoint (pool : FastBufferPool) (node : GraphNode) (ptr : EndpointPtr) :
    FastBufferPool × GraphNode :=
  match node.endpoints[ptr]? with
  | none => (pool, node)
  | some endp =>
    (pool.returnBuffer,
      { node with
        endpoints := node.endpoints.eraseIdx ptr
        endpointsLen := node.endpointsLen - 1
        writersLen := if endp.ddsWriter.isSome then node.writersLen - 1 else node.writersLen
        readersLen := if endp.ddsReader.isSome then node.readersLen - 1 else node.readersLen })

end GraphNode

namespace Graph

def storeNode (graph : Graph) (ptr : NodePtr) (pool : FastBufferPool) (node : GraphNode) : Graph :=
  { graph with nodes := graph.nodes.set ptr node, endpointsPool := pool }

def registerLocalEndpoint (dds : Dds) (env : CallEnv) (graph : Graph) (nodeHandle : NodeHandle)
    (endpType : EndpointType) (ddsReader : Option DataReader) (ddsWriter : Option DataWriter) :
    Graph × Option GraphEndpoint :=
  match graph.lookupLocalNodeByHandle nodeHandle with
  | none => (graph, none)
  | some (ptr, node) =>
    match node.registerEndpoint dds env graph.endpointsPool endpType ddsReader ddsWriter with
    | (pool, node, endp) => (graph.storeNode ptr pool node, endp)

/-- `RTIROS2_Graph_finalize_node`: unlinks the node, finalizes its endpoints from
the front of its list and returns its buffer. It always succeeds. -/
def finalizeNode (graph : Graph) (ptr : NodePtr) : Graph :=
  match graph.nodes[ptr]? with
  | none => graph
  | some node =>
    let finalized := node.endpoints.foldl
      (fun scope _ => GraphNode.finalizeEndpoint scope.1 scope.2 0) (graph.endpointsPool, node)
    { graph with
      nodes := graph.nodes.eraseIdx ptr
      nodesLen := graph.nodesLen - 1
      endpointsPool := finalized.1
      nodesPool := graph.nodesPool.returnBuffer }

end Graph

end Ros2Graph
