import Ros2Graph.Registry.Data

/-! First-match searches of the graph over its nodes and of a node over its
endpoints. Each returns the pointer found with what it points to. -/

set_option autoImplicit false

namespace Ros2Graph

open Foundation

namespace GraphNode

def lookupLocalEndpointByHandle (node : GraphNode) (endpHandle : EndpointHandle) :
    Option (EndpointPtr × GraphEndpoint) :=
  locate (fun endp => endp.handle == endpHandle) node.endpoints

/-- A NULL reader or writer matches every endpoint. -/
def lookupLocalEndpointByDdsEndpoints (node : GraphNode) (ddsReader : Option DataReader)
    (ddsWriter : Option DataWriter) : Option (EndpointPtr × GraphEndpoint) :=
  locate (fun endp => (ddsReader.isNone || endp.ddsReader == ddsReader) &&
    (ddsWriter.isNone || endp.ddsWriter == ddsWriter)) node.endpoints

end GraphNode

namespace GraphEndpoint

/-- The topic name that the search by topic name compares: the writer's when a
writer is asked for and present, else the reader's. -/
def topicName (dds : Dds) (endp : GraphEndpoint) (writer : Bool) : Option CString :=
  match writer, endp.ddsWriter, endp.ddsReader with
  | true, some ddsWriter, _ => some (dds.writerTopicName ddsWriter)
  | _, _, some ddsReader => some (dds.readerTopicName ddsReader)
  | _, _, none => none

end GraphEndpoint

namespace GraphNode

def lookupLocalEndpointByTopicName (dds : Dds) (node : GraphNode) (topicName : CString)
    (writer : Bool) : Option (EndpointPtr × GraphEndpoint) :=
  locate (fun endp => endp.topicName dds writer == some topicName) node.endpoints

end GraphNode

namespace Graph

/-- A NULL namespace stands for the root namespace. -/
def lookupLocalNodeByName (graph : Graph) (nodeName : CString)
    (nodeNamespace : Option CString) : Option (NodePtr × GraphNode) :=
  locate (fun node => node.nodeName == some nodeName &&
    ((node.nodeNamespace == some rootNamespace &&
        (nodeNamespace.isNone || nodeNamespace == some rootNamespace)) ||
      (node.nodeNamespace.isSome && nodeNamespace.isSome &&
        node.nodeNamespace == nodeNamespace))) graph.nodes

def lookupLocalNodeByHandle (graph : Graph) (nodeHandle : NodeHandle) :
    Option (NodePtr × GraphNode) :=
  locate (fun node => node.handle == nodeHandle) graph.nodes

end Graph

/-! What an endpoint, or a list of endpoints, holds. -/

namespace GraphEndpoint

def holdsReader (ddsReader : DataReader) (endp : GraphEndpoint) : Bool :=
  endp.ddsReader == some ddsReader

def holdsWriter (ddsWriter : DataWriter) (endp : GraphEndpoint) : Bool :=
  endp.ddsWriter == some ddsWriter

def readsTopic (dds : Dds) (topicName : CString) (endp : GraphEndpoint) : Bool :=
  endp.ddsReader.map dds.readerTopicName == some topicName

@[simp] theorem topicName_reader (dds : Dds) (endp : GraphEndpoint) :
    endp.topicName dds false = endp.ddsReader.map dds.readerTopicName := by
  cases present : endp.ddsReader <;> simp [topicName, present]

end GraphEndpoint

namespace GraphNode

theorem lookup_reader_eq (node : GraphNode) (ddsReader : DataReader) :
    node.lookupLocalEndpointByDdsEndpoints (some ddsReader) none =
      locate (GraphEndpoint.holdsReader ddsReader) node.endpoints := by
  simp [lookupLocalEndpointByDdsEndpoints]
  rfl

theorem lookup_writer_eq (node : GraphNode) (ddsWriter : DataWriter) :
    node.lookupLocalEndpointByDdsEndpoints none (some ddsWriter) =
      locate (GraphEndpoint.holdsWriter ddsWriter) node.endpoints := by
  simp [lookupLocalEndpointByDdsEndpoints]
  rfl

/-- Asked for a reader's topic, the search never looks at a writer. -/
theorem lookup_topic_eq (dds : Dds) (node : GraphNode) (topicName : CString) :
    node.lookupLocalEndpointByTopicName dds topicName false =
      locate (GraphEndpoint.readsTopic dds topicName) node.endpoints := by
  simp [lookupLocalEndpointByTopicName]
  rfl

end GraphNode

end Ros2Graph
