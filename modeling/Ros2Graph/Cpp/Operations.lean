import Ros2Graph.Cpp.Graph
import Ros2Graph.Registry.Operations

/-! The operations of the C++ API. Each calls the C operation of the same name
on the C graph, and throws where that one returns a code other than
`DDS_RETCODE_OK`. References to readers and writers are never null. -/

set_option autoImplicit false

namespace Ros2Graph

inductive CppAnswer where
  | handle (value : Int32)
  | returned
  | thrown (exception : CppException)
  deriving DecidableEq, Repr

namespace Outcome

def returning (outcome : Outcome Int32) : Outcome CppAnswer :=
  { outcome with result := .handle outcome.result }

def orThrow (outcome : Outcome ReturnCode) (what : String) : Outcome CppAnswer :=
  { outcome with
    result := if outcome.result != .ok then .thrown (.error what) else .returned }

end Outcome

namespace CppGraph

variable (dds : Dds) (env : CallEnv) (graph : CppGraph)

def registerLocalNode (nodeName nodeNamespace : StdString)
    (ddsParticipant : Option DomainParticipant) : Outcome CppAnswer :=
  let ddsParticipant :=
    match ddsParticipant with
    | none => graph.graphParticipant
    | some participant => participant
  .returning (graph.cGraph.registry.registerLocalNode dds env (some nodeName.cStr)
    (if 0 < nodeNamespace.length then some nodeNamespace.cStr else none) (some ddsParticipant))

def inspectLocalNode (nodeHandle : NodeHandle) : Outcome CppAnswer :=
  .orThrow (graph.cGraph.registry.inspectLocalNode dds env nodeHandle) "failed to inspect node"

def registerLocalSubscription (nodeHandle : NodeHandle) (subReader : DataReader) :
    Outcome CppAnswer :=
  .returning (graph.cGraph.registry.registerLocalSubscription dds env nodeHandle (some subReader))

def registerLocalPublisher (nodeHandle : NodeHandle) (pubWriter : DataWriter) :
    Outcome CppAnswer :=
  .returning (graph.cGraph.registry.registerLocalPublisher dds env nodeHandle (some pubWriter))

def registerLocalClient (nodeHandle : NodeHandle) (clientReader : DataReader)
    (clientWriter : DataWriter) : Outcome CppAnswer :=
  .returning (graph.cGraph.registry.registerLocalClient dds env nodeHandle (some clientReader)
    (some clientWriter))

def registerLocalService (nodeHandle : NodeHandle) (serviceReader : DataReader)
    (serviceWriter : DataWriter) : Outcome CppAnswer :=
  .returning (graph.cGraph.registry.registerLocalService dds env nodeHandle (some serviceReader)
    (some serviceWriter))

def unregisterLocalNode (nodeHandle : NodeHandle) : Outcome CppAnswer :=
  .orThrow (graph.cGraph.registry.unregisterLocalNode nodeHandle)
    "failed to unregiter local node"

def unregisterLocalSubscription (nodeHandle : NodeHandle) (subReader : DataReader) :
    Outcome CppAnswer :=
  .orThrow (graph.cGraph.registry.unregisterLocalSubscription nodeHandle (some subReader))
    "failed to unregiter local subscription"

def unregisterLocalPublisher (nodeHandle : NodeHandle) (pubWriter : DataWriter) :
    Outcome CppAnswer :=
  .orThrow (graph.cGraph.registry.unregisterLocalPublisher nodeHandle (some pubWriter))
    "failed to unregiter local publisher"

def unregisterLocalClient (nodeHandle : NodeHandle) (clientReader : DataReader)
    (clientWriter : DataWriter) : Outcome CppAnswer :=
  .orThrow (graph.cGraph.registry.unregisterLocalClient nodeHandle (some clientReader)
    (some clientWriter)) "failed to unregiter local client"

def unregisterLocalService (nodeHandle : NodeHandle) (serviceReader : DataReader)
    (serviceWriter : DataWriter) : Outcome CppAnswer :=
  .orThrow (graph.cGraph.registry.unregisterLocalService nodeHandle (some serviceReader)
    (some serviceWriter)) "failed to unregiter local service"

/-! The next four are overloads of the same names in the source, except for the
last one. -/

def unregisterLocalSubscriptionByHandle (nodeHandle : NodeHandle) (subHandle : EndpointHandle) :
    Outcome CppAnswer :=
  .orThrow (graph.cGraph.registry.unregisterLocalSubscriptionByHandle nodeHandle subHandle)
    "failed to unregiter local subscription"

def unregisterLocalPublisherByHandle (nodeHandle : NodeHandle) (pubHandle : EndpointHandle) :
    Outcome CppAnswer :=
  .orThrow (graph.cGraph.registry.unregisterLocalPublisherByHandle nodeHandle pubHandle)
    "failed to unregiter local publisher"

def unregisterLocalClientByHandle (nodeHandle : NodeHandle) (clientHandle : EndpointHandle) :
    Outcome CppAnswer :=
  .orThrow (graph.cGraph.registry.unregisterLocalClientByHandle nodeHandle clientHandle)
    "failed to unregiter local client"

def unregisterLocalServiceByHandle (nodeHandle : NodeHandle) (serviceHandle : EndpointHandle) :
    Outcome CppAnswer :=
  .orThrow (graph.cGraph.registry.unregisterLocalServiceByHandle nodeHandle serviceHandle)
    "failed to unregiter local service"

end CppGraph

inductive CppOperation where
  | registerLocalNode (nodeName nodeNamespace : StdString)
      (ddsParticipant : Option DomainParticipant)
  | inspectLocalNode (nodeHandle : NodeHandle)
  | registerLocalSubscription (nodeHandle : NodeHandle) (subReader : DataReader)
  | registerLocalPublisher (nodeHandle : NodeHandle) (pubWriter : DataWriter)
  | registerLocalClient (nodeHandle : NodeHandle) (clientReader : DataReader)
      (clientWriter : DataWriter)
  | registerLocalService (nodeHandle : NodeHandle) (serviceReader : DataReader)
      (serviceWriter : DataWriter)
  | unregisterLocalNode (nodeHandle : NodeHandle)
  | unregisterLocalSubscription (nodeHandle : NodeHandle) (subReader : DataReader)
  | unregisterLocalPublisher (nodeHandle : NodeHandle) (pubWriter : DataWriter)
  | unregisterLocalClient (nodeHandle : NodeHandle) (clientReader : DataReader)
      (clientWriter : DataWriter)
  | unregisterLocalService (nodeHandle : NodeHandle) (serviceReader : DataReader)
      (serviceWriter : DataWriter)
  | unregisterLocalSubscriptionByHandle (nodeHandle : NodeHandle) (subHandle : EndpointHandle)
  | unregisterLocalPublisherByHandle (nodeHandle : NodeHandle) (pubHandle : EndpointHandle)
  | unregisterLocalClientByHandle (nodeHandle : NodeHandle) (clientHandle : EndpointHandle)
  | unregisterLocalServiceByHandle (nodeHandle : NodeHandle) (serviceHandle : EndpointHandle)
  deriving DecidableEq

namespace CppOperation

def perform (dds : Dds) (env : CallEnv) (graph : CppGraph) : CppOperation → Outcome CppAnswer
  | .registerLocalNode name space participant =>
      graph.registerLocalNode dds env name space participant
  | .inspectLocalNode node => graph.inspectLocalNode dds env node
  | .registerLocalSubscription node reader => graph.registerLocalSubscription dds env node reader
  | .registerLocalPublisher node writer => graph.registerLocalPublisher dds env node writer
  | .registerLocalClient node reader writer =>
      graph.registerLocalClient dds env node reader writer
  | .registerLocalService node reader writer =>
      graph.registerLocalService dds env node reader writer
  | .unregisterLocalNode node => graph.unregisterLocalNode node
  | .unregisterLocalSubscription node reader => graph.unregisterLocalSubscription node reader
  | .unregisterLocalPublisher node writer => graph.unregisterLocalPublisher node writer
  | .unregisterLocalClient node reader writer => graph.unregisterLocalClient node reader writer
  | .unregisterLocalService node reader writer => graph.unregisterLocalService node reader writer
  | .unregisterLocalSubscriptionByHandle node handle =>
      graph.unregisterLocalSubscriptionByHandle node handle
  | .unregisterLocalPublisherByHandle node handle =>
      graph.unregisterLocalPublisherByHandle node handle
  | .unregisterLocalClientByHandle node handle => graph.unregisterLocalClientByHandle node handle
  | .unregisterLocalServiceByHandle node handle =>
      graph.unregisterLocalServiceByHandle node handle

/-- The same operation of the C API: an empty namespace is NULL there, and so is
a null participant. -/
def inC : CppOperation → Operation
  | .registerLocalNode name space participant =>
      .registerLocalNode (some name.cStr) (if space.bytes = [] then none else some space.cStr)
        participant
  | .inspectLocalNode node => .inspectLocalNode node
  | .registerLocalSubscription node reader => .registerLocalSubscription node (some reader)
  | .registerLocalPublisher node writer => .registerLocalPublisher node (some writer)
  | .registerLocalClient node reader writer =>
      .registerLocalClient node (some reader) (some writer)
  | .registerLocalService node reader writer =>
      .registerLocalService node (some reader) (some writer)
  | .unregisterLocalNode node => .unregisterLocalNode node
  | .unregisterLocalSubscription node reader => .unregisterLocalSubscription node (some reader)
  | .unregisterLocalPublisher node writer => .unregisterLocalPublisher node (some writer)
  | .unregisterLocalClient node reader writer =>
      .unregisterLocalClient node (some reader) (some writer)
  | .unregisterLocalService node reader writer =>
      .unregisterLocalService node (some reader) (some writer)
  | .unregisterLocalSubscriptionByHandle node handle =>
      .unregisterLocalSubscriptionByHandle node handle
  | .unregisterLocalPublisherByHandle node handle => .unregisterLocalPublisherByHandle node handle
  | .unregisterLocalClientByHandle node handle => .unregisterLocalClientByHandle node handle
  | .unregisterLocalServiceByHandle node handle => .unregisterLocalServiceByHandle node handle

end CppOperation

/-- The two answers say the same: one handle, or success in both, or a return
code other than `DDS_RETCODE_OK` and an exception. -/
def SameAnswer : Answer → CppAnswer → Prop
  | .handle value, .handle other => value = other
  | .retcode code, .returned => code = .ok
  | .retcode code, .thrown _ => code ≠ .ok
  | _, _ => False

theorem sameAnswer_orThrow (outcome : Outcome ReturnCode) (what : String) :
    SameAnswer outcome.ofRetcode.result (outcome.orThrow what).result := by
  by_cases ok : outcome.result = .ok
  · simp [Outcome.ofRetcode, Outcome.orThrow, SameAnswer, ok]
  · simp [Outcome.ofRetcode, Outcome.orThrow, SameAnswer, ok]

/-- A participant that is not given is the participant of the graph. -/
theorem Graph.registerLocalNode_ownParticipant {dds : Dds} {env : CallEnv} {graph : Graph}
    (nodeName nodeNamespace : Option CString) :
    graph.registerLocalNode dds env nodeName nodeNamespace (some graph.graphParticipant) =
      graph.registerLocalNode dds env nodeName nodeNamespace none := by
  unfold registerLocalNode
  split
  · split
    · rfl
    · cases found : graph.nextNodeHandle with
      | mk handle counted =>
          obtain ⟨counter, rfl⟩ : ∃ counter, counted = { graph with nodeHandleNext := counter } :=
            ⟨_, (congrArg Prod.snd found).symm⟩
          cases handle <;> rfl
  · rfl

/-- An operation does to the C graph what its C counterpart does to it. -/
theorem CppOperation.perform_inC {dds : Dds} {env : CallEnv} {graph : CppGraph}
    (participant : graph.cGraph.registry.graphParticipant = graph.graphParticipant)
    (operation : CppOperation) :
    (operation.perform dds env graph).graph =
        (operation.inC.perform dds env graph.cGraph.registry).graph ∧
      SameAnswer (operation.inC.perform dds env graph.cGraph.registry).result
        (operation.perform dds env graph).result := by
  cases operation with
  | registerLocalNode name space given =>
      have spaces : (if 0 < space.length then some space.cStr else none) =
          if space.bytes = [] then none else some space.cStr := by
        cases bytes : space.bytes <;> simp [StdString.length, bytes]
      simp only [perform, CppGraph.registerLocalNode, spaces]
      cases given with
      | some participant => exact ⟨rfl, rfl⟩
      | none =>
          rw [← participant, Graph.registerLocalNode_ownParticipant]
          exact ⟨rfl, rfl⟩
  | registerLocalSubscription | registerLocalPublisher | registerLocalClient
  | registerLocalService => exact ⟨rfl, rfl⟩
  | _ => exact ⟨rfl, sameAnswer_orThrow _ _⟩

end Ros2Graph
