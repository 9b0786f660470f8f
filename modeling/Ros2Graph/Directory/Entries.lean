import Mathlib.Logic.Relation
import Ros2Graph.Calls.Requests
import Ros2Graph.Foundation.Execution
import Ros2Graph.Foundation.KeyedList
import Ros2Graph.Registry.OperationEffects

/-! What the registry is for: a directory of nodes by handle, each with a directory of
endpoints by handle. It knows of no lists, counters or pools. Where the registry depends
on what it runs out of, or on what the libraries answer, the directory may do either. -/

set_option autoImplicit false

namespace Ros2Graph

open Foundation Relation

structure EndpointListing where
  endpType : EndpointType
  ddsReader : Option DataReader
  ddsWriter : Option DataWriter
  known : endpType ≠ .unknown
  sided : ddsReader.isSome = true ∨ ddsWriter.isSome = true

namespace EndpointListing

/-- The endpoint has the entities that are asked for. -/
def Matches (ddsReader : Option DataReader) (ddsWriter : Option DataWriter)
    (endp : EndpointListing) : Prop :=
  (∀ reader ∈ ddsReader, endp.ddsReader = some reader) ∧
    ∀ writer ∈ ddsWriter, endp.ddsWriter = some writer

/-- The topics of the entities are of the kind that the endpoint is. -/
structure Conforms (dds : Dds) (endp : EndpointListing) : Prop where
  reader : ∀ reader ∈ endp.ddsReader,
    detectEndpointType (dds.readerTopicName reader) false = endp.endpType
  writer : ∀ writer ∈ endp.ddsWriter,
    detectEndpointType (dds.writerTopicName writer) true = endp.endpType

/-- The endpoint once a writer has been found for its reader. -/
def completed (endp : EndpointListing) (dw : DataWriter) : EndpointListing :=
  { endp with ddsWriter := some dw, sided := .inr rfl }

end EndpointListing

structure NodeListing where
  nodeName : CString
  nodeNamespace : CString
  ddsParticipant : DomainParticipant
  endpoints : EndpointHandle → Option EndpointListing
  accepted : Graph.refusesNames (some nodeName) (some nodeNamespace) = false
  valid : ∀ handle endp, endpoints handle = some endp → 0 ≤ handle

namespace NodeListing

def fullName (node : NodeListing) : CString × CString := (node.nodeName, node.nodeNamespace)

/-- No endpoint of the node matches the new one, which has the kind of its topics. -/
structure Admits (dds : Dds) (node : NodeListing) (endp : EndpointListing) : Prop where
  unmatched : ∀ handle listed, node.endpoints handle = some listed →
    ¬ listed.Matches endp.ddsReader endp.ddsWriter
  conforms : endp.Conforms dds

def put (node : NodeListing) (handle : EndpointHandle) (nonnegative : 0 ≤ handle)
    (endp : EndpointListing) : NodeListing :=
  { node with
    endpoints := Function.update node.endpoints handle (some endp)
    valid := by
      intro other listed found
      by_cases same : other = handle
      · exact same ▸ nonnegative
      · exact node.valid other listed ((Function.update_of_ne same ..).symm.trans found) }

def drop (node : NodeListing) (handle : EndpointHandle) : NodeListing :=
  { node with
    endpoints := Function.update node.endpoints handle none
    valid := fun other listed found => node.valid other listed (update_none found) }

/-- What an inspection can learn of a node by one entity: an endpoint that nobody has
registered, or the writer of a client or service whose reader it knows. -/
inductive Learns (dds : Dds) (node : NodeListing) : NodeListing → Prop where
  | listed {handle endp} (nonnegative : 0 ≤ handle) : node.endpoints handle = none →
      node.Admits dds endp → endp.ddsReader = none ∨ endp.ddsWriter = none →
      Learns dds node (node.put handle nonnegative endp)
  | completed {handle endp reader dw} (found : node.endpoints handle = some endp) :
      endp.ddsWriter = none → endp.ddsReader = some reader →
      dds.readerTopicName reader = dds.writerTopicName dw →
      isServiceTopic (dds.writerTopicName dw) = true →
      (∀ other listed, node.endpoints other = some listed → listed.ddsWriter ≠ some dw) →
      Learns dds node (node.put handle (node.valid handle endp found) (endp.completed dw))

theorem learns_fullName {dds : Dds} {node later : NodeListing}
    (learnt : ReflTransGen (Learns dds) node later) : later.fullName = node.fullName := by
  induction learnt with
  | refl => rfl
  | tail _ one ih =>
      cases one with
      | listed | completed => exact ih

end NodeListing

structure Directory where
  nodes : NodeHandle → Option NodeListing
  valid : ∀ handle node, nodes handle = some node → 0 ≤ handle
  -- a full name is a key as well
  unique : ∀ {first second one other}, nodes first = some one → nodes second = some other →
    one.fullName = other.fullName → first = second

namespace Directory

def empty : Directory where
  nodes := fun _ => none
  valid := by simp
  unique := by simp

/-- A node goes under a handle when no other node has its name. -/
def put (directory : Directory) (handle : NodeHandle) (nonnegative : 0 ≤ handle)
    (node : NodeListing) (apart : ∀ other listed, directory.nodes other = some listed →
      listed.fullName = node.fullName → other = handle) : Directory where
  nodes := Function.update directory.nodes handle (some node)
  valid := by
    intro other listed found
    by_cases same : other = handle
    · exact same ▸ nonnegative
    · exact directory.valid other listed ((Function.update_of_ne same ..).symm.trans found)
  unique := by
    intro first second one another found present sameName
    by_cases here : first = handle
    · subst here
      cases (Function.update_self ..).symm.trans found
      by_cases there : second = first
      · exact there.symm
      · exact (apart second another ((Function.update_of_ne there ..).symm.trans present)
          sameName.symm).symm
    · have earlier := (Function.update_of_ne here ..).symm.trans found
      by_cases there : second = handle
      · subst there
        cases (Function.update_self ..).symm.trans present
        exact apart first one earlier sameName
      · exact directory.unique earlier ((Function.update_of_ne there ..).symm.trans present)
          sameName

/-- A node that keeps its name. -/
def replace (directory : Directory) {handle : NodeHandle} {node : NodeListing}
    (found : directory.nodes handle = some node) (later : NodeListing)
    (same : later.fullName = node.fullName) : Directory :=
  directory.put handle (directory.valid handle node found) later fun _ _ listed sameName =>
    directory.unique listed found (sameName.trans same)

def remove (directory : Directory) (handle : NodeHandle) : Directory where
  nodes := Function.update directory.nodes handle none
  valid := fun other listed found => directory.valid other listed (update_none found)
  unique := fun found present => directory.unique (update_none found) (update_none present)

def endpointAt (directory : Directory) (nodeHandle : NodeHandle) (endpHandle : EndpointHandle) :
    Option EndpointListing :=
  (directory.nodes nodeHandle).bind (·.endpoints endpHandle)

/-- The answer to a question, which the entries of the directory determine. -/
def answer (directory : Directory) : Request → Option PublicAnswer
  | .perform _ => none
  | .getNodeParticipant nodeHandle =>
      some (.participant ((directory.nodes nodeHandle).map (·.ddsParticipant)))
  | .getNodeName nodeHandle nameOut namespaceOut =>
      some (.nodeName (
        if nameOut.isNone && namespaceOut.isNone then (.badParameter, nameOut, namespaceOut)
        else
          match directory.nodes nodeHandle with
          | none => (.preconditionNotMet, nameOut, namespaceOut)
          | some node => (.ok, nameOut.map fun _ => some node.nodeName,
              namespaceOut.map fun _ => some node.nodeNamespace)))
  | .getEndpointReader nodeHandle endpHandle =>
      some (.reader ((directory.endpointAt nodeHandle endpHandle).bind (·.ddsReader)))
  | .getEndpointWriter nodeHandle endpHandle =>
      some (.writer ((directory.endpointAt nodeHandle endpHandle).bind (·.ddsWriter)))
  | .getEndpointType nodeHandle endpHandle =>
      some (.endpointType
        (((directory.endpointAt nodeHandle endpHandle).map (·.endpType)).getD .unknown))

end Directory

/-- The endpoints that a removal may take, past its NULL checks. -/
def Operation.target : Operation →
    Option (NodeHandle × (EndpointHandle → EndpointListing → Prop))
  | .unregisterLocalSubscription node (some reader) =>
      some (node, fun _ endp => endp.Matches (some reader) none)
  | .unregisterLocalPublisher node (some writer) =>
      some (node, fun _ endp => endp.Matches none (some writer))
  | .unregisterLocalClient node (some reader) (some writer)
  | .unregisterLocalService node (some reader) (some writer) =>
      some (node, fun _ endp => endp.Matches (some reader) (some writer))
  | .unregisterLocalSubscriptionByHandle node given
  | .unregisterLocalPublisherByHandle node given
  | .unregisterLocalClientByHandle node given
  | .unregisterLocalServiceByHandle node given => some (node, fun handle _ => handle = given)
  | _ => none

/-- What is seen of an event from outside: a call with its answer, or that the update
thread has polled a node. -/
inductive Occurrence where
  | answered (operation : Operation) (answer : Answer)
  | polled
  deriving DecidableEq

def Event.occurrence (dds : Dds) (graph : Graph) : Event → Occurrence
  | .call env operation => .answered operation (operation.perform dds env graph).result
  | .poll _ _ => .polled

namespace Directory

/-- Nothing in the directory is what the operation asks to remove. -/
structure Lacks (directory : Directory) (operation : Operation) : Prop where
  node : ∀ nodeHandle, operation = .unregisterLocalNode nodeHandle →
    directory.nodes nodeHandle = none
  endpoint : ∀ nodeHandle wanted, operation.target = some (nodeHandle, wanted) →
    ∀ handle endp, directory.endpointAt nodeHandle handle = some endp → ¬ wanted handle endp

/-- What may happen to the directory of a graph. Calls may be refused at any time, except
that what is there can be removed. -/
inductive Step (dds : Dds) (graphParticipant : DomainParticipant) (directory : Directory) :
    Occurrence → Directory → Prop where
  | refused {operation answer} : answer.succeeded = false → directory.Lacks operation →
      Step dds graphParticipant directory (.answered operation answer) directory
  | nodeRegistered {name space participant handle} {blank node : NodeListing}
      {next : Directory} :
      directory.nodes handle = none → blank.nodeName = name →
      blank.nodeNamespace = space.getD rootNamespace →
      blank.ddsParticipant = participant.getD graphParticipant →
      blank.endpoints = (fun _ => none) → ReflTransGen (NodeListing.Learns dds) blank node →
      next.nodes = Function.update directory.nodes handle (some node) →
      Step dds graphParticipant directory
        (.answered (.registerLocalNode (some name) space participant) (.handle handle)) next
  | nodeRemoved {nodeHandle} {node : NodeListing} {next : Directory} :
      directory.nodes nodeHandle = some node →
      next.nodes = Function.update directory.nodes nodeHandle none →
      Step dds graphParticipant directory
        (.answered (.unregisterLocalNode nodeHandle) (.retcode .ok)) next
  | inspected {nodeHandle retcode} {node later : NodeListing} {next : Directory} :
      directory.nodes nodeHandle = some node → ReflTransGen (NodeListing.Learns dds) node later →
      next.nodes = Function.update directory.nodes nodeHandle (some later) →
      Step dds graphParticipant directory
        (.answered (.inspectLocalNode nodeHandle) (.retcode retcode)) next
  | polled {nodeHandle} {node later : NodeListing} {next : Directory} :
      directory.nodes nodeHandle = some node → ReflTransGen (NodeListing.Learns dds) node later →
      next.nodes = Function.update directory.nodes nodeHandle (some later) →
      Step dds graphParticipant directory .polled next
  | polledNothing : Step dds graphParticipant directory .polled directory
  | endpointRegistered {operation nodeHandle endpType ddsReader ddsWriter handle}
      {node : NodeListing} {endp : EndpointListing} {next : Directory} (nonnegative : 0 ≤ handle) :
      operation.registration = some (nodeHandle, endpType, ddsReader, ddsWriter) →
      directory.nodes nodeHandle = some node → node.endpoints handle = none →
      node.Admits dds endp → endp.endpType = endpType → endp.ddsReader = ddsReader →
      endp.ddsWriter = ddsWriter →
      next.nodes =
        Function.update directory.nodes nodeHandle (some (node.put handle nonnegative endp)) →
      Step dds graphParticipant directory (.answered operation (.handle handle)) next
  | endpointRemoved {operation nodeHandle wanted handle} {node : NodeListing}
      {endp : EndpointListing} {next : Directory} :
      operation.target = some (nodeHandle, wanted) → directory.nodes nodeHandle = some node →
      node.endpoints handle = some endp → wanted handle endp →
      next.nodes = Function.update directory.nodes nodeHandle (some (node.drop handle)) →
      Step dds graphParticipant directory (.answered operation (.retcode .ok)) next

abbrev Run (dds : Dds) (graphParticipant : DomainParticipant) :
    List (Directory × Occurrence) → Directory → Prop :=
  Execution (· = empty) (Step dds graphParticipant)

end Directory

end Ros2Graph
