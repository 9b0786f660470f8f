import Ros2Graph.Registry.Lookup

/-! The calls that answer a question about a listed node or endpoint. They take
and give `mutex_self` and leave the graph as it is. -/

set_option autoImplicit false

namespace Ros2Graph.Graph

def getNodeParticipant (graph : Graph) (nodeHandle : NodeHandle) : Option DomainParticipant :=
  match graph.lookupLocalNodeByHandle nodeHandle with
  | none => none
  | some (_, node) => some node.ddsParticipant

/-- An output argument is the string it points to before and after the call, or
`none` when it is NULL. -/
def getNodeName (graph : Graph) (nodeHandle : NodeHandle)
    (nameOut namespaceOut : Option (Option CString)) :
    ReturnCode × Option (Option CString) × Option (Option CString) :=
  if nameOut.isNone && namespaceOut.isNone then (.badParameter, nameOut, namespaceOut)
  else
    match graph.lookupLocalNodeByHandle nodeHandle with
    | none => (.preconditionNotMet, nameOut, namespaceOut)
    | some (_, node) =>
      (.ok, nameOut.map (fun _ => node.nodeName), namespaceOut.map (fun _ => node.nodeNamespace))

/-- The endpoint that the last three calls look up, by both handles. -/
def endpointAt (graph : Graph) (nodeHandle : NodeHandle) (endpHandle : EndpointHandle) :
    Option GraphEndpoint :=
  match graph.lookupLocalNodeByHandle nodeHandle with
  | none => none
  | some (_, node) => (node.lookupLocalEndpointByHandle endpHandle).map (·.2)

def getEndpointReader (graph : Graph) (nodeHandle : NodeHandle) (endpHandle : EndpointHandle) :
    Option DataReader :=
  match graph.endpointAt nodeHandle endpHandle with
  | none => none
  | some endp => endp.ddsReader

def getEndpointWriter (graph : Graph) (nodeHandle : NodeHandle) (endpHandle : EndpointHandle) :
    Option DataWriter :=
  match graph.endpointAt nodeHandle endpHandle with
  | none => none
  | some endp => endp.ddsWriter

def getEndpointType (graph : Graph) (nodeHandle : NodeHandle) (endpHandle : EndpointHandle) :
    EndpointType :=
  match graph.endpointAt nodeHandle endpHandle with
  | none => .unknown
  | some endp => endp.endpType

end Ros2Graph.Graph
