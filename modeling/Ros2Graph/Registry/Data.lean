import Mathlib.Data.List.Basic
import Ros2Graph.Foundation.Locate
import Ros2Graph.Foundation.HandleSearch

/-! Data model of the local ROS 2 graph: DDS entities, endpoints, nodes and the
graph that lists them. -/

set_option autoImplicit false

namespace Ros2Graph

open Foundation

/-- The characters of a NUL-terminated string, its terminator left out. -/
structure CString where
  chars : List UInt8
  noNul : 0 ∉ chars
  deriving DecidableEq, Repr

namespace CString

def strlen (string : CString) : Nat := string.chars.length

/-- `strncmp(string, prefix, strlen(prefix)) == 0`. -/
def startsWith (string leading : CString) : Bool := leading.chars.isPrefixOf string.chars

def ofChars (chars : List Char) (noNul : 0 ∉ chars.map Char.toUInt8 := by decide) : CString :=
  ⟨chars.map Char.toUInt8, noNul⟩

end CString

/-! Entities of the DDS library are known by address only. -/

structure DataReader where
  address : Nat
  deriving DecidableEq, Repr

structure DataWriter where
  address : Nat
  deriving DecidableEq, Repr

structure Publisher where
  address : Nat
  deriving DecidableEq, Repr

structure Subscriber where
  address : Nat
  deriving DecidableEq, Repr

structure DomainParticipant where
  address : Nat
  deriving DecidableEq, Repr

/-- `DDS_InstanceHandle_t`, by its `keyHash.value`. -/
structure InstanceHandle where
  keyHash : Vector UInt8 16
  deriving DecidableEq, Repr

/-- What the DDS library answers about an entity throughout its life. -/
structure Dds where
  readerTopicName : DataReader → CString
  writerTopicName : DataWriter → CString
  readerInstanceHandle : DataReader → InstanceHandle
  writerInstanceHandle : DataWriter → InstanceHandle
  participantInstanceHandle : DomainParticipant → InstanceHandle

/-- A library that tells entities apart by the lowest byte of their address. -/
def Dds.onTopics (readerTopicName : DataReader → CString) (writerTopicName : DataWriter → CString) :
    Dds where
  readerTopicName := readerTopicName
  writerTopicName := writerTopicName
  readerInstanceHandle := fun dr => ⟨Vector.replicate 16 (UInt8.ofNat dr.address)⟩
  writerInstanceHandle := fun dw => ⟨Vector.replicate 16 (UInt8.ofNat dw.address)⟩
  participantInstanceHandle := fun dp => ⟨Vector.replicate 16 (UInt8.ofNat dp.address)⟩

/-- What the enumeration calls of the DDS library answer during one inspection;
`none` is a return code other than `DDS_RETCODE_OK`. -/
structure Enumeration where
  getPublishers : DomainParticipant → Option (List Publisher)
  getAllDatawriters : Publisher → Option (List DataWriter)
  getSubscribers : DomainParticipant → Option (List Subscriber)
  getAllDatareaders : Subscriber → Option (List DataReader)

def Enumeration.answering (writers : List DataWriter) (readers : List DataReader) : Enumeration where
  getPublishers := fun _ => some [⟨0⟩]
  getAllDatawriters := fun _ => some writers
  getSubscribers := fun _ => some [⟨0⟩]
  getAllDatareaders := fun _ => some readers

/-- What the libraries answer during one call. The pools answer by the number
of buffers outstanding when the request is made. -/
structure CallEnv where
  enumeration : Enumeration
  nodeBuffer : Nat → Bool
  endpointBuffer : Nat → Bool
  dupName : Bool
  dupNamespace : Bool

def CallEnv.granting (enumeration : Enumeration) : CallEnv where
  enumeration := enumeration
  nodeBuffer := fun _ => true
  endpointBuffer := fun _ => true
  dupName := true
  dupNamespace := true

/-- `DDS_ReturnCode_t`, the values the graph returns. -/
inductive ReturnCode where
  | ok
  | error
  | badParameter
  | preconditionNotMet
  | outOfResources
  deriving DecidableEq, Repr

abbrev NodeHandle := Int32
abbrev EndpointHandle := Int32

def NodeHandle.invalid : NodeHandle := -1
def EndpointHandle.invalid : EndpointHandle := -1

/-- `size_t`. -/
abbrev SizeT := UInt64

inductive EndpointType where
  | unknown
  | subscription
  | publisher
  | client
  | service
  deriving DecidableEq, Repr

structure GraphEndpoint where
  handle : EndpointHandle
  ddsReader : Option DataReader
  ddsWriter : Option DataWriter
  endpType : EndpointType
  deriving DecidableEq, Repr

/-- The two names are NULL only while the node is being registered. -/
structure GraphNode where
  handle : NodeHandle
  endpoints : List GraphEndpoint
  endpointsLen : SizeT
  writersLen : SizeT
  readersLen : SizeT
  endpHandleNext : EndpointHandle
  nodeName : Option CString
  nodeNamespace : Option CString
  ddsParticipant : DomainParticipant
  deriving DecidableEq, Repr

/-- A `REDAFastBufferPool`, by the number of buffers it has handed out. -/
structure FastBufferPool where
  outstanding : Nat
  deriving DecidableEq, Repr

namespace FastBufferPool

def getBuffer (pool : FastBufferPool) (answer : Nat → Bool) : Option FastBufferPool :=
  if answer pool.outstanding then some ⟨pool.outstanding + 1⟩ else none

def returnBuffer (pool : FastBufferPool) : FastBufferPool := ⟨pool.outstanding - 1⟩

variable {pool taken : FastBufferPool} {answer : Nat → Bool}

theorem getBuffer_eq_some (granted : pool.getBuffer answer = some taken) :
    answer pool.outstanding = true ∧ taken = ⟨pool.outstanding + 1⟩ := by
  obtain ⟨answered, same⟩ := Option.ite_none_right_eq_some.mp granted
  exact ⟨answered, (Option.some.inj same).symm⟩

theorem getBuffer_eq_none (refused : pool.getBuffer answer = none) :
    answer pool.outstanding = false := by
  simpa [getBuffer] using refused

end FastBufferPool

structure Duration where
  sec : Int32
  nanosec : UInt32
  deriving DecidableEq, Repr

namespace Duration

def zero : Duration := ⟨0, 0⟩
def infinite : Duration := ⟨0x7fffffff, 0xffffffff⟩

end Duration

structure Graph where
  nodes : List GraphNode
  nodesLen : SizeT
  nodesPool : FastBufferPool
  endpointsPool : FastBufferPool
  nodeHandleNext : NodeHandle
  graphParticipant : DomainParticipant
  pollPeriod : Duration
  deriving DecidableEq, Repr

/-- A pointer to a listed node: its position in the list of nodes. -/
abbrev NodePtr := Nat

/-- A pointer to an endpoint of a node: its position in the list of endpoints. -/
abbrev EndpointPtr := Nat

namespace Graph

def initial (graphParticipant : DomainParticipant) (pollPeriod : Duration) : Graph where
  nodes := []
  nodesLen := 0
  nodesPool := ⟨0⟩
  endpointsPool := ⟨0⟩
  nodeHandleNext := 0
  graphParticipant := graphParticipant
  pollPeriod := pollPeriod

def isPollingEnabled (graph : Graph) : Bool :=
  graph.pollPeriod != Duration.zero && graph.pollPeriod != Duration.infinite

def setNode (graph : Graph) (ptr : NodePtr) (node : GraphNode) : Graph :=
  { graph with nodes := graph.nodes.set ptr node }

end Graph

def topicPrefixDefault : CString := .ofChars ['r', 't', '/']
def topicPrefixRequest : CString := .ofChars ['r', 'q', '/']
def topicPrefixResponse : CString := .ofChars ['r', 'r', '/']

def maxNameLength : Nat := 256
def maxNamespaceLength : Nat := 256

def rootNamespace : CString := .ofChars ['/']

/-! Names for concrete runs: of two nodes, and of the topics of one service. -/

def firstName : CString := .ofChars ['n']
def secondName : CString := .ofChars ['m']
def requestTopic : CString := .ofChars ['r', 'q', '/', 's']
def replyTopic : CString := .ofChars ['r', 'r', '/', 's']

/-- Every topic carries plain data. -/
def dataDds : Dds := .onTopics (fun _ => topicPrefixDefault) (fun _ => topicPrefixDefault)

end Ros2Graph
