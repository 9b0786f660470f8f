import Ros2Graph.Creation.WriterQos

/-! Creation of a graph by the C library. Entities that the properties do not
supply are created, and then belong to the graph. -/

set_option autoImplicit false

namespace Ros2Graph

structure Topic where
  address : Nat
  deriving DecidableEq, Repr

/-- A DataWriter with the QoS it was created with. -/
structure GraphWriter where
  writer : DataWriter
  qos : DataWriterQos
  deriving DecidableEq, Repr

def graphTopicName : CString :=
  .ofChars ['r', 'o', 's', '_', 'd', 'i', 's', 'c', 'o', 'v', 'e', 'r', 'y', '_', 'i', 'n', 'f',
    'o']

def graphTypeName : CString :=
  .ofChars ['r', 'm', 'w', '_', 'd', 'd', 's', '_', 'c', 'o', 'm', 'm', 'o', 'n', ':', ':', 'm',
    's', 'g', ':', ':', 'd', 'd', 's', '_', ':', ':', 'P', 'a', 'r', 't', 'i', 'c', 'i', 'p', 'a',
    'n', 't', 'E', 'n', 't', 'i', 't', 'i', 'e', 's', 'I', 'n', 'f', 'o', '_']

/-- A function of a sample adapter: one of the two that the library has for
that purpose, or another one. -/
inductive AdapterFunction where
  | cGraphSampleAdapter
  | cppGraphSampleAdapter
  | supplied (address : Nat)
  deriving DecidableEq, Repr

/-- `RTIROS2_GraphSampleAdapter`, less the data of the adapter. -/
structure GraphSampleAdapter where
  convertToSample : Option AdapterFunction
  publishSample : Option AdapterFunction
  allocSample : Option AdapterFunction
  freeSample : Option AdapterFunction
  deriving DecidableEq, Repr

namespace GraphSampleAdapter

def initializer : GraphSampleAdapter := ⟨none, none, none, none⟩

def allOf (adapterFunction : AdapterFunction) : GraphSampleAdapter :=
  ⟨some adapterFunction, some adapterFunction, some adapterFunction, some adapterFunction⟩

def isValid (adapter : GraphSampleAdapter) : Bool :=
  adapter.convertToSample.isSome && adapter.publishSample.isSome &&
    adapter.allocSample.isSome && adapter.freeSample.isSome

end GraphSampleAdapter

structure GraphProperties where
  graphParticipant : Option DomainParticipant
  graphPublisher : Option Publisher
  graphTopic : Option Topic
  graphWriter : Option GraphWriter
  pollPeriod : Duration
  sampleAdapter : GraphSampleAdapter
  deriving DecidableEq, Repr

def GraphProperties.initializer : GraphProperties where
  graphParticipant := none
  graphPublisher := none
  graphTopic := none
  graphWriter := none
  pollPeriod := ⟨0, 0⟩
  sampleAdapter := .initializer

/-- What the libraries answer while a graph is created; `none` and `false` are
failures. -/
structure CreationEnv where
  allocGraph : Bool
  nodesPool : Bool
  endpointsPool : Bool
  createPublisher : DomainParticipant → Option Publisher
  registerType : DomainParticipant → CString → Bool
  findTopic : DomainParticipant → CString → Option Topic
  createTopic : DomainParticipant → CString → CString → Option Topic
  topicName : Topic → Option CString
  defaultDatawriterQos : Publisher → CString → Option DataWriterQos
  assertProperty : Bool
  createDatawriter : Publisher → Topic → DataWriterQos → Option DataWriter
  createData : Bool
  allocSample : Bool
  mutexSelf : Bool
  semPinfo : Bool
  semPinfoExit : Bool

structure CreatedGraph where
  registry : Graph
  graphPublisher : Publisher
  graphPublisherOwn : Bool
  graphTopic : Topic
  graphTopicOwn : Bool
  graphWriter : GraphWriter
  graphWriterOwn : Bool
  sampleAdapter : GraphSampleAdapter
  deriving DecidableEq, Repr

section

variable (env : CreationEnv) (properties : GraphProperties)

/-- `RTIROS2_Graph_get_graph_writer_qos`. -/
def getGraphWriterQos (graphPublisher : Publisher) (graphTopic : Topic) : Option DataWriterQos :=
  match env.topicName graphTopic with
  | none => none
  | some graphTopicName =>
    match env.defaultDatawriterQos graphPublisher graphTopicName with
    | none => none
    | some writerQos =>
      match customizeDatawriterQos env.assertProperty (some writerQos) with
      | (.ok, some writerQos) =>
        some { writerQos with
          history := { writerQos.history with depth := graphHistoryDepth }
          resourceLimits := ⟨graphHistoryDepth, 1, 1, 1, graphHistoryDepth⟩ }
      | _ => none

/-! `RTIROS2_Graph_initialize`, first its parts. Each entity comes with whether
the graph owns it. -/

def initializePublisher (graphParticipant : DomainParticipant) : Option (Publisher × Bool) :=
  match properties.graphPublisher with
  | some publisher => some (publisher, false)
  | none => (env.createPublisher graphParticipant).map (·, true)

def initializeTopic (graphParticipant : DomainParticipant) : Option (Topic × Bool) :=
  match properties.graphTopic with
  | some topic => some (topic, false)
  | none =>
    if !env.registerType graphParticipant graphTypeName then none
    else
      match env.findTopic graphParticipant graphTopicName with
      | some topic => some (topic, true)
      | none => (env.createTopic graphParticipant graphTopicName graphTypeName).map (·, true)

def initializeWriter (graphPublisher : Publisher) (graphTopic : Topic) :
    Option (GraphWriter × Bool) :=
  match properties.graphWriter with
  | some writer => some (writer, false)
  | none =>
    match getGraphWriterQos env graphPublisher graphTopic with
    | none => none
    | some qos => (env.createDatawriter graphPublisher graphTopic qos).map (⟨·, qos⟩, true)

def initializeSampleAdapter : GraphSampleAdapter :=
  if !properties.sampleAdapter.isValid then .allOf .cGraphSampleAdapter
  else properties.sampleAdapter

/-- A graph whose initialization fails is finalized and never seen. -/
def CreatedGraph.initializeGraph : Except ReturnCode CreatedGraph :=
  match properties.graphParticipant with
  | none => .error .badParameter
  | some graphParticipant =>
    if !(env.nodesPool && env.endpointsPool) then .error .error
    else
      match initializePublisher env properties graphParticipant with
      | none => .error .error
      | some (graphPublisher, graphPublisherOwn) =>
        match initializeTopic env properties graphParticipant with
        | none => .error .error
        | some (graphTopic, graphTopicOwn) =>
          match initializeWriter env properties graphPublisher graphTopic with
          | none => .error .error
          | some (graphWriter, graphWriterOwn) =>
            if !(env.allocSample && env.mutexSelf && env.semPinfo && env.semPinfoExit) then
              .error .error
            else
              .ok {
                registry := .initial graphParticipant properties.pollPeriod
                graphPublisher, graphPublisherOwn, graphTopic, graphTopicOwn, graphWriter,
                graphWriterOwn
                sampleAdapter := initializeSampleAdapter properties }

/-- `RTIROS2_Graph_new`. -/
def CreatedGraph.new (properties : Option GraphProperties) : Option CreatedGraph :=
  match properties with
  | none => none
  | some properties =>
    if !env.allocGraph then none
    else
      match CreatedGraph.initializeGraph env properties with
      | .error _ => none
      | .ok created => some created

end

section

variable {env : CreationEnv} {properties : GraphProperties} {created : CreatedGraph}

theorem getGraphWriterQos_history {graphPublisher : Publisher} {graphTopic : Topic}
    {qos : DataWriterQos} (got : getGraphWriterQos env graphPublisher graphTopic = some qos) :
    qos.history = ⟨.keepLast, graphHistoryDepth⟩ := by
  unfold getGraphWriterQos at got
  split at got
  · cases got
  · split at got
    · cases got
    · split at got
      · next ran =>
        cases got
        rw [customizeDatawriterQos_history ran]
      · cases got

/-- What a graph takes over from its properties, and what its writer keeps when
the library creates it. -/
structure CreatedGraph.FollowsProperties (properties : GraphProperties) (created : CreatedGraph) :
    Prop where
  registry : ∃ participant, properties.graphParticipant = some participant ∧
    created.registry = .initial participant properties.pollPeriod
  suppliedWriter : ∀ writer, properties.graphWriter = some writer → created.graphWriter = writer
  ownWriter : properties.graphWriter = none →
    created.graphWriter.qos.history = ⟨.keepLast, graphHistoryDepth⟩
  sampleAdapter : created.sampleAdapter = initializeSampleAdapter properties

theorem initializeWriter_history {graphPublisher : Publisher} {graphTopic : Topic}
    {writer : GraphWriter × Bool} (missing : properties.graphWriter = none)
    (initialized : initializeWriter env properties graphPublisher graphTopic = some writer) :
    writer.1.qos.history = ⟨.keepLast, graphHistoryDepth⟩ := by
  simp only [initializeWriter, missing] at initialized
  split at initialized
  · cases initialized
  · next qos got =>
    obtain ⟨dw, _, rfl⟩ := Option.map_eq_some_iff.mp initialized
    exact getGraphWriterQos_history got

theorem CreatedGraph.initializeGraph_followsProperties
    (initialized : CreatedGraph.initializeGraph env properties = .ok created) :
    created.FollowsProperties properties := by
  unfold CreatedGraph.initializeGraph at initialized
  split at initialized
  · cases initialized
  · next participant known =>
    split at initialized
    · cases initialized
    · split at initialized
      · cases initialized
      · split at initialized
        · cases initialized
        · split at initialized
          · cases initialized
          · next writer own initializedWriter =>
            split at initialized
            · cases initialized
            · cases initialized
              refine ⟨⟨participant, known, rfl⟩, ?_, fun missing => ?_, rfl⟩
              · intro supplied same
                simp only [initializeWriter, same, Option.some.injEq, Prod.mk.injEq]
                  at initializedWriter
                exact initializedWriter.1.symm
              · exact initializeWriter_history missing initializedWriter

theorem CreatedGraph.new_followsProperties
    (isNew : CreatedGraph.new env (some properties) = some created) :
    created.FollowsProperties properties := by
  unfold CreatedGraph.new at isNew
  dsimp only at isNew
  split at isNew
  · cases isNew
  · split at isNew
    · cases isNew
    · next other initialized =>
      cases isNew
      exact initializeGraph_followsProperties initialized

end

end Ros2Graph
