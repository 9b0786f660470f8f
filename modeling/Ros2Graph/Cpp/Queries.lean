import Ros2Graph.Cpp.Graph
import Ros2Graph.Registry.Accessors

/-! The questions of the C++ API. Each asks the C function of the same name, and has its own
way to say that there is no answer. -/

set_option autoImplicit false

namespace Ros2Graph

/-- `GraphEndpointType`. -/
inductive CppEndpointType where
  | unknown
  | subscription
  | publisher
  | client
  | service
  deriving DecidableEq, Repr

/-- `GraphEndpointType_from_c`. -/
def CppEndpointType.fromC : EndpointType → CppEndpointType
  | .subscription => .subscription
  | .publisher => .publisher
  | .client => .client
  | .service => .service
  | .unknown => .unknown

namespace CppGraph

variable (graph : CppGraph)

def getNodeParticipant (nodeHandle : NodeHandle) : Except CppException DomainParticipant :=
  match graph.cGraph.registry.getNodeParticipant nodeHandle with
  | none => .error (.error "failed to get node participant")
  | some participant => .ok participant

/-- The outputs after the call, which leaves them as they are when it throws. -/
def getNodeName (nodeHandle : NodeHandle) (nameOut namespaceOut : Option (Option CString)) :
    Except CppException (Option (Option CString) × Option (Option CString)) :=
  match graph.cGraph.registry.getNodeName nodeHandle nameOut namespaceOut with
  | (retcode, names) =>
    if retcode != .ok then .error (.error "failed to get node name") else .ok names

/-- No reader is an empty `optional`. -/
def getEndpointReader (nodeHandle : NodeHandle) (endpHandle : EndpointHandle) :
    Option DataReader :=
  match graph.cGraph.registry.getEndpointReader nodeHandle endpHandle with
  | none => none
  | some reader => some reader

def getEndpointWriter (nodeHandle : NodeHandle) (endpHandle : EndpointHandle) :
    Option DataWriter :=
  match graph.cGraph.registry.getEndpointWriter nodeHandle endpHandle with
  | none => none
  | some writer => some writer

def getEndpointType (nodeHandle : NodeHandle) (endpHandle : EndpointHandle) : CppEndpointType :=
  .fromC (graph.cGraph.registry.getEndpointType nodeHandle endpHandle)

end CppGraph

inductive CppQuery where
  | getNodeParticipant (nodeHandle : NodeHandle)
  | getNodeName (nodeHandle : NodeHandle) (nameOut namespaceOut : Option (Option CString))
  | getEndpointReader (nodeHandle : NodeHandle) (endpHandle : EndpointHandle)
  | getEndpointWriter (nodeHandle : NodeHandle) (endpHandle : EndpointHandle)
  | getEndpointType (nodeHandle : NodeHandle) (endpHandle : EndpointHandle)
  deriving DecidableEq

inductive CppReply where
  | participant (value : DomainParticipant)
  | names (nameOut namespaceOut : Option (Option CString))
  | reader (value : Option DataReader)
  | writer (value : Option DataWriter)
  | endpointType (value : CppEndpointType)
  | thrown (exception : CppException)
  deriving DecidableEq

/-- What a call returns, or what it throws. -/
def CppReply.of {Result : Type} (read : Result → CppReply) :
    Except CppException Result → CppReply
  | .ok result => read result
  | .error exception => .thrown exception

def CppGraph.reply (graph : CppGraph) : CppQuery → CppReply
  | .getNodeParticipant node => .of .participant (graph.getNodeParticipant node)
  | .getNodeName node nameOut namespaceOut =>
      .of (fun names => .names names.1 names.2) (graph.getNodeName node nameOut namespaceOut)
  | .getEndpointReader node endp => .reader (graph.getEndpointReader node endp)
  | .getEndpointWriter node endp => .writer (graph.getEndpointWriter node endp)
  | .getEndpointType node endp => .endpointType (graph.getEndpointType node endp)

end Ros2Graph
