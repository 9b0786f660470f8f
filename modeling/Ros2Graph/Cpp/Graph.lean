import Ros2Graph.Creation.CGraph
import Ros2Graph.Foundation.Buffer

/-! Creation of a graph through the C++ API. The constructor has all entities
before it creates the C graph, and passes them on as properties of that. -/

set_option autoImplicit false

namespace Ros2Graph

/-- `std::string`, which may contain NUL characters. -/
structure StdString where
  bytes : List UInt8
  deriving DecidableEq, Repr

namespace StdString

def length (string : StdString) : Nat := string.bytes.length

/-- `c_str()` as C reads it, up to the first NUL. -/
def cStr (string : StdString) : CString where
  chars := string.bytes.takeWhile (· != 0)
  noNul := fun member => absurd (List.mem_takeWhile_imp member) (by decide)

def ofCString (string : CString) : StdString := ⟨string.chars⟩

@[simp] theorem cStr_ofCString (string : CString) : (ofCString string).cStr = string := by
  obtain ⟨chars, noNul⟩ := string
  have all : chars.takeWhile (· != 0) = chars := by
    simpa using Foundation.takeWhile_text_append noNul []
  simp only [cStr, ofCString, all]

end StdString

inductive CppException where
  | invalidArgumentError (what : String)
  | error (what : String)
  | runtimeError (what : String)
  -- One that the DDS library throws.
  | dds
  deriving DecidableEq, Repr

/-- `rti::ros2::GraphProperties`. -/
structure CppGraphProperties where
  graphParticipant : Option DomainParticipant
  graphPublisher : Option Publisher
  graphTopic : Option Topic
  graphWriter : Option GraphWriter
  pollPeriod : Duration
  deriving DecidableEq, Repr

/-- The same properties for a graph of the C API. -/
def CppGraphProperties.inC (properties : CppGraphProperties) : GraphProperties where
  graphParticipant := properties.graphParticipant
  graphPublisher := properties.graphPublisher
  graphTopic := properties.graphTopic
  graphWriter := properties.graphWriter
  pollPeriod := properties.pollPeriod
  sampleAdapter := .initializer

structure CppGraph where
  graphParticipant : DomainParticipant
  graphPublisher : Publisher
  graphTopic : Topic
  graphWriter : GraphWriter
  pollPeriod : Duration
  cGraph : CreatedGraph
  deriving DecidableEq, Repr

section

variable (env : CreationEnv) (properties : CppGraphProperties)

/-! `Graph::Graph`, first its parts. -/

def cppPublisher (graphParticipant : DomainParticipant) : Option Publisher :=
  match properties.graphPublisher with
  | some publisher => some publisher
  | none => env.createPublisher graphParticipant

def cppTopic (graphParticipant : DomainParticipant) : Option Topic :=
  match properties.graphTopic with
  | some topic => some topic
  | none =>
    match env.findTopic graphParticipant graphTopicName with
    | some topic => some topic
    | none => env.createTopic graphParticipant graphTopicName graphTypeName

def cppWriter (graphPublisher : Publisher) (graphTopic : Topic) :
    Except CppException GraphWriter :=
  match properties.graphWriter with
  | some writer => .ok writer
  | none =>
    match env.defaultDatawriterQos graphPublisher graphTopicName with
    | none => .error (.runtimeError "failed to get C writer qos")
    | some writerQos =>
      match customizeDatawriterQos env.assertProperty (some writerQos) with
      | (.ok, some writerQos) =>
        match env.createDatawriter graphPublisher graphTopic writerQos with
        | none => .error .dds
        | some writer => .ok ⟨writer, writerQos⟩
      | _ => .error (.error "failed to customize writer qos")

/-- `c_props`. -/
def cppProperties (graphParticipant : DomainParticipant) (graphPublisher : Publisher)
    (graphTopic : Topic) (graphWriter : GraphWriter) : GraphProperties :=
  { GraphProperties.initializer with
    graphParticipant := some graphParticipant
    graphPublisher := some graphPublisher
    graphTopic := some graphTopic
    graphWriter := some graphWriter
    sampleAdapter := .allOf .cppGraphSampleAdapter }

def CppGraph.new : Except CppException CppGraph :=
  match properties.graphParticipant with
  | none => .error (.invalidArgumentError "no domain participant")
  | some graphParticipant =>
    match cppPublisher env properties graphParticipant with
    | none => .error .dds
    | some graphPublisher =>
      match cppTopic env properties graphParticipant with
      | none => .error .dds
      | some graphTopic =>
        match cppWriter env properties graphPublisher graphTopic with
        | .error exception => .error exception
        | .ok graphWriter =>
          if !env.createData then .error (.error "failed to allocate C sample")
          else
            match CreatedGraph.new env
                (some (cppProperties graphParticipant graphPublisher graphTopic graphWriter)) with
            | none => .error (.error "failed to initialize C graph")
            | some cGraph =>
              .ok {
                graphParticipant, graphPublisher, graphTopic, graphWriter
                pollPeriod := properties.pollPeriod
                cGraph }

end

section

variable {env : CreationEnv} {properties : CppGraphProperties} {graph : CppGraph}

theorem cppWriter_history {graphPublisher : Publisher} {graphTopic : Topic} {writer : GraphWriter}
    (missing : properties.graphWriter = none)
    (created : cppWriter env properties graphPublisher graphTopic = .ok writer) :
    writer.qos.history = ⟨.keepLast, 1⟩ := by
  simp only [cppWriter, missing] at created
  split at created
  · cases created
  · split at created
    · next ran =>
      split at created
      · cases created
      · cases created
        exact customizeDatawriterQos_history ran
    · cases created

/-- What the C graph of a C++ graph has of the properties. The poll period is
not among them. -/
structure CppGraph.FollowsProperties (properties : CppGraphProperties) (graph : CppGraph) :
    Prop where
  participant : properties.graphParticipant = some graph.graphParticipant
  registry : graph.cGraph.registry = .initial graph.graphParticipant Duration.zero
  suppliedWriter : ∀ writer, properties.graphWriter = some writer →
    graph.cGraph.graphWriter = writer
  ownWriter : properties.graphWriter = none →
    graph.cGraph.graphWriter.qos.history = ⟨.keepLast, 1⟩
  sampleAdapter : graph.cGraph.sampleAdapter = .allOf .cppGraphSampleAdapter

theorem CppGraph.new_followsProperties (isNew : CppGraph.new env properties = .ok graph) :
    graph.FollowsProperties properties := by
  unfold CppGraph.new at isNew
  split at isNew
  · cases isNew
  · next participant known =>
    split at isNew
    · cases isNew
    · split at isNew
      · cases isNew
      · split at isNew
        · cases isNew
        · next writer created =>
          split at isNew
          · cases isNew
          · split at isNew
            · cases isNew
            · next cGraph inC =>
              cases isNew
              obtain ⟨⟨_, same, registry⟩, supplied, _, adapter⟩ :=
                CreatedGraph.new_followsProperties inC
              cases same
              have writerKept := supplied writer rfl
              refine ⟨known, registry, fun other same => ?_, fun missing => ?_, adapter⟩
              · rw [writerKept]
                simp only [cppWriter, same, Except.ok.injEq] at created
                exact created.symm
              · rw [writerKept]
                exact cppWriter_history missing created

end

/-! A library that grants all that the creation of a graph asks for, and the two
graphs that it creates. -/

def volatileQos : DataWriterQos where
  durability := .volatile
  history := ⟨.keepLast, 1⟩
  reliability := .reliable
  rtpsReliableWriter := customRtpsReliableWriter
  resourceLimits := ⟨1, 1, 1, 1, 1⟩
  property := []

def CreationEnv.granting : CreationEnv where
  allocGraph := true
  nodesPool := true
  endpointsPool := true
  createPublisher := fun _ => some ⟨0⟩
  registerType := fun _ _ => true
  findTopic := fun _ _ => none
  createTopic := fun _ _ _ => some ⟨0⟩
  topicName := fun _ => some graphTopicName
  defaultDatawriterQos := fun _ _ => some volatileQos
  assertProperty := true
  createDatawriter := fun _ _ _ => some ⟨0⟩
  createData := true
  allocSample := true
  mutexSelf := true
  semPinfo := true
  semPinfoExit := true

def participantOnly (pollPeriod : Duration) : CppGraphProperties where
  graphParticipant := some ⟨0⟩
  graphPublisher := none
  graphTopic := none
  graphWriter := none
  pollPeriod := pollPeriod

def grantedGraph (pollPeriod : Duration) : CreatedGraph :=
  (CreatedGraph.new .granting (some (participantOnly pollPeriod).inC)).get rfl

def grantedCppGraph (pollPeriod : Duration) : CppGraph :=
  (CppGraph.new .granting (participantOnly pollPeriod)).toOption.get rfl

theorem grantedGraph_new (pollPeriod : Duration) :
    CreatedGraph.new .granting (some (participantOnly pollPeriod).inC) =
      some (grantedGraph pollPeriod) := rfl

theorem grantedCppGraph_new (pollPeriod : Duration) :
    CppGraph.new .granting (participantOnly pollPeriod) = .ok (grantedCppGraph pollPeriod) := rfl

end Ros2Graph
