import Ros2Graph.Creation.CGraph
import Ros2Graph.Foundation.Ledger
import Ros2Graph.Foundation.ReusedSeq
import Ros2Graph.Registry.Representation

/-! From `RTIROS2_Graph_new` to `RTIROS2_Graph_delete`: the members of the graph that
refer to something that has to be released, and what is acquired and released on every
path. -/

set_option autoImplicit false

namespace Ros2Graph

open Foundation

/-- What the library acquires for a graph. -/
inductive Resource where
  | graph
  -- All that is in the list `nodes`, with the endpoints and the names in it.
  | nodes
  | nodesPool
  | endpointsPool
  | publisher
  | topic
  | writer
  | sample
  | mutexSelf
  | semPinfo
  | semPinfoExit
  | thread
  -- The buffer of the sequence `participants`.
  | participants
  -- `c_pinfo_`, of a C++ graph.
  | cSample
  deriving DecidableEq, Repr

/-- What must not outlive the resource: the update thread works with all of them, nodes and
endpoints are buffers of the pools, and a DataWriter belongs to its Publisher and its Topic. -/
def Resource.users : Resource → List Resource
  | .thread => []
  | .nodesPool | .endpointsPool => [.nodes, .thread]
  | .publisher | .topic => [.writer, .thread]
  | _ => [.thread]

/-- `RTIROS2_GraphI`, less its registry. -/
structure GraphMembers where
  nodesPool : Bool
  endpointsPool : Bool
  graphParticipant : Option DomainParticipant
  graphPublisher : Option Publisher
  graphPublisherOwn : Bool
  graphTopic : Option Topic
  graphTopicOwn : Bool
  graphWriter : Option GraphWriter
  graphWriterOwn : Bool
  pinfo : Bool
  mutexSelf : Bool
  semPinfo : Bool
  semPinfoExit : Bool
  threadPinfo : Bool
  threadPinfoActive : Bool
  sampleAdapter : GraphSampleAdapter
  participants : ReusedSeq DomainParticipant

namespace GraphMembers

/-- `RTIROS2_Graph_INITIALIZER`. -/
def initializer : GraphMembers where
  nodesPool := false
  endpointsPool := false
  graphParticipant := none
  graphPublisher := none
  graphPublisherOwn := false
  graphTopic := none
  graphTopicOwn := false
  graphWriter := none
  graphWriterOwn := false
  pinfo := false
  mutexSelf := false
  semPinfo := false
  semPinfoExit := false
  threadPinfo := false
  threadPinfoActive := false
  sampleAdapter := .initializer
  participants := ⟨0, 0, fun _ => ⟨0⟩⟩

/-- What the members refer to and have to release. -/
def owns (self : GraphMembers) : Resource → Bool
  | .graph => true
  -- The list is in the registry.
  | .nodes => false
  | .nodesPool => self.nodesPool
  | .endpointsPool => self.endpointsPool
  | .publisher => self.graphPublisher.isSome && self.graphPublisherOwn
  | .topic => self.graphTopic.isSome && self.graphTopicOwn
  | .writer => self.graphWriter.isSome && self.graphWriterOwn
  | .sample => self.pinfo
  | .mutexSelf => self.mutexSelf
  | .semPinfo => self.semPinfo
  | .semPinfoExit => self.semPinfoExit
  | .thread => self.threadPinfo
  | .participants => self.participants.maximum != 0
  | .cSample => false

end GraphMembers

/-- What the libraries answer from the creation of a graph to its deletion, and what the
memory for it contains when it is allocated. -/
structure LifecycleEnv extends CreationEnv where
  heap : GraphMembers
  heapRegistry : Graph
  thread : Bool
  deleteDatawriter : Bool
  deleteTopic : Bool
  deletePublisher : Bool

/-- A graph in memory, and what has been acquired and released for it. -/
structure Setup where
  members : GraphMembers
  registry : Graph
  log : List (Entry Resource)

/-- What the graph refers to and has to release. -/
def Setup.owns (setup : Setup) : Resource → Bool
  | .nodes => !setup.registry.nodes.isEmpty
  | resource => setup.members.owns resource

/-- Statements of a function with a label `done`, to which they may jump. -/
abbrev Statements := OptionT (StateM Setup)

namespace Statements

def exec {Result : Type} (code : Statements Result) (setup : Setup) : Option Result × Setup :=
  code.run.run setup

def assign (assignment : GraphMembers → GraphMembers) : Statements Unit :=
  modify fun setup => { setup with members := assignment setup.members }

def acquire (granted : Bool) (resource : Resource) (assignment : GraphMembers → GraphMembers) :
    Statements Unit := do
  if !granted then failure
  modify fun setup =>
    { setup with
      members := assignment setup.members
      log := setup.log ++ [.acquired resource] }

/-- `NULL` is not an entity. -/
def create {Entity : Type} (answer : Option Entity) (resource : Resource)
    (assignment : Entity → GraphMembers → GraphMembers) : Statements Entity := do
  let some entity := answer | failure
  acquire true resource (assignment entity)
  return entity

def release (resource : Resource) : Statements Unit :=
  modify fun setup => { setup with log := setup.log ++ [.released resource] }

def releaseIf (condition : Bool) (resource : Resource) : Statements Unit := do
  if condition then release resource

/-- The release of an entity may fail. -/
def deleteIf (condition deleted : Bool) (resource : Resource) : Statements Unit := do
  if condition then
    if !deleted then failure
    release resource

end Statements

/-- The nodes are finalized from the front of the list. -/
def Graph.finalizeNodes (graph : Graph) : Nat → Graph
  | 0 => graph
  | count + 1 => (graph.finalizeNode 0).finalizeNodes count

namespace Lifecycle

open Statements

section

variable (env : LifecycleEnv) (properties : GraphProperties)

/-! `RTIROS2_Graph_initialize`, first its parts. -/

def initializePublisher (graphParticipant : DomainParticipant) : Statements Publisher :=
  match properties.graphPublisher with
  | some publisher => do
    assign ({ · with graphPublisher := some publisher })
    return publisher
  | none =>
    create (env.createPublisher graphParticipant) .publisher fun publisher self =>
      { self with graphPublisher := some publisher, graphPublisherOwn := true }

def initializeTopic (graphParticipant : DomainParticipant) : Statements Topic :=
  match properties.graphTopic with
  | some topic => do
    assign ({ · with graphTopic := some topic })
    return topic
  | none => do
    if !env.registerType graphParticipant graphTypeName then failure
    let found := env.findTopic graphParticipant graphTopicName
    create (found <|> env.createTopic graphParticipant graphTopicName graphTypeName) .topic
      fun topic self => { self with graphTopic := some topic, graphTopicOwn := true }

def initializeWriter (graphPublisher : Publisher) (graphTopic : Topic) :
    Statements GraphWriter :=
  match properties.graphWriter with
  | some writer => do
    assign ({ · with graphWriter := some writer })
    return writer
  | none => do
    let some qos := getGraphWriterQos env.toCreationEnv graphPublisher graphTopic | failure
    create ((env.createDatawriter graphPublisher graphTopic qos).map (⟨·, qos⟩)) .writer
      fun writer self => { self with graphWriter := some writer, graphWriterOwn := true }

def initializeMembers (graphParticipant : DomainParticipant) : Statements Unit := do
  acquire env.nodesPool .nodesPool ({ · with nodesPool := true })
  acquire env.endpointsPool .endpointsPool ({ · with endpointsPool := true })
  assign ({ · with graphParticipant := some graphParticipant })
  let graphPublisher ← initializePublisher env properties graphParticipant
  let graphTopic ← initializeTopic env properties graphParticipant
  let _ ← initializeWriter env properties graphPublisher graphTopic
  acquire env.allocSample .sample ({ · with pinfo := true })
  acquire env.mutexSelf .mutexSelf ({ · with mutexSelf := true })
  acquire env.semPinfo .semPinfo ({ · with semPinfo := true })
  acquire env.semPinfoExit .semPinfoExit ({ · with semPinfoExit := true })
  assign ({ · with threadPinfoActive := true })
  -- Nobody looks whether there is a thread.
  if env.thread then acquire true .thread ({ · with threadPinfo := true })

/-- The thread is told to stop, waited for and deleted. -/
def finalizeThread (threadPinfo : Bool) : Statements Unit := do
  if threadPinfo then
    assign ({ · with threadPinfoActive := false })
    release .thread

/-- Every node that the list comes to is finalized. -/
def finalizeNodes : Statements Unit :=
  modify fun setup =>
    { setup with
      registry := setup.registry.finalizeNodes setup.registry.nodes.length
      log := setup.log ++ if !setup.registry.nodes.isEmpty then [.released .nodes] else [] }

def finalizeMembers (self : GraphMembers) : Statements Unit := do
  finalizeThread self.threadPinfo
  finalizeNodes
  releaseIf self.mutexSelf .mutexSelf
  releaseIf self.semPinfo .semPinfo
  releaseIf self.semPinfoExit .semPinfoExit
  releaseIf self.pinfo .sample
  deleteIf (self.graphWriter.isSome && self.graphWriterOwn) env.deleteDatawriter .writer
  deleteIf (self.graphTopic.isSome && self.graphTopicOwn) env.deleteTopic .topic
  deleteIf (self.graphPublisher.isSome && self.graphPublisherOwn) env.deletePublisher .publisher
  releaseIf self.nodesPool .nodesPool
  releaseIf self.endpointsPool .endpointsPool

/-- `RTIROS2_Graph_finalize`. The members are left as they are. -/
def finalizeGraph (setup : Setup) : ReturnCode × Setup :=
  match (finalizeMembers env setup.members).exec setup with
  | (some _, setup) => (.ok, setup)
  | (none, setup) => (.error, setup)

/-- `RTIROS2_Graph_initialize`. -/
def initializeGraph (setup : Setup) : ReturnCode × Setup :=
  match properties.graphParticipant with
  | none => (.badParameter, (finalizeGraph env setup).2)
  | some graphParticipant =>
    let setup :=
      { setup with
        members :=
          { GraphMembers.initializer with sampleAdapter := initializeSampleAdapter properties }
        registry := .initial graphParticipant properties.pollPeriod }
    match (initializeMembers env properties graphParticipant).exec setup with
    | (some _, setup) => (.ok, setup)
    | (none, setup) => (.error, (finalizeGraph env setup).2)

/-- `RTIROS2_Graph_new`: whether it returns a graph, and what is left in memory. -/
def new (properties : Option GraphProperties) : Bool × Setup :=
  let setup := ⟨env.heap, env.heapRegistry, []⟩
  match properties with
  | none => (false, setup)
  | some properties =>
    if !env.allocGraph then (false, setup)
    else
      match initializeGraph env properties { setup with log := [.acquired .graph] } with
      | (.ok, setup) => (true, setup)
      | (_, setup) => (false, { setup with log := setup.log ++ [.released .graph] })

/-- `RTIROS2_Graph_delete`. -/
def delete (setup : Setup) : Setup :=
  let setup := (finalizeGraph env setup).2
  { setup with log := setup.log ++ [.released .graph] }

end

end Lifecycle

end Ros2Graph
