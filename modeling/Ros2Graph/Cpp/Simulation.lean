import Ros2Graph.Cpp.Operations
import Ros2Graph.Cpp.SampleAdapter
import Ros2Graph.Foundation.LockStep
import Ros2Graph.Registry.PollPeriod
import Ros2Graph.Registry.Representation

/-! A graph of the C++ API next to one of the C API, created with the same
properties and driven by the same events. -/

set_option autoImplicit false

namespace Ros2Graph

open Foundation

/-- What happens to both graphs. Every event comes with the answers of the
libraries, so DDS entities may appear between any two. -/
inductive DriverEvent where
  | call (env : CallEnv) (operation : CppOperation)
  -- The poll period has passed with no update queued.
  | pollPeriodOver (envs : NodePtr → CallEnv)
  | convert (env : CppSampleEnv) (ddsParticipant : DomainParticipant)

/-- A C graph with the sample that it keeps for its conversions. -/
structure CSession where
  registry : Graph
  pinfo : ParticipantEntitiesInfo

structure CppSession where
  graph : CppGraph
  pinfo : CppPinfo

/-- What a conversion gives that returns `DDS_RETCODE_OK`. -/
def convertedTo {Pinfo : Type} (content : Pinfo → SampleContent)
    (converted : Option (ReturnCode × Pinfo)) : Option SampleContent :=
  match converted with
  | some (.ok, pinfo) => some (content pinfo)
  | _ => none

theorem convertedTo_failed {Pinfo : Type} (content : Pinfo → SampleContent) {retcode : ReturnCode}
    (failed : retcode ≠ .ok) (pinfo : Pinfo) :
    convertedTo content (some (retcode, pinfo)) = none := by
  cases retcode with
  | ok => exact absurd rfl failed
  | _ => rfl

namespace CSession

def next (dds : Dds) (session : CSession) : DriverEvent → CSession
  | .call env operation =>
      { session with registry := (operation.inC.perform dds env session.registry).graph }
  | .pollPeriodOver envs => { session with registry := session.registry.pollLocalNodes dds envs }
  | .convert env ddsParticipant =>
      match session.registry.convertToSample dds env.cSample ddsParticipant session.pinfo with
      | none => session
      | some (_, pinfo) => { session with pinfo }

def convertedContent (dds : Dds) (session : CSession) (env : CppSampleEnv)
    (ddsParticipant : DomainParticipant) : Option SampleContent :=
  convertedTo ParticipantEntitiesInfo.content
    (session.registry.convertToSample dds env.cSample ddsParticipant session.pinfo)

end CSession

namespace CppSession

def withRegistry (session : CppSession) (registry : Graph) : CppSession :=
  { session with
    graph := { session.graph with cGraph := { session.graph.cGraph with registry } } }

def next (dds : Dds) (session : CppSession) : DriverEvent → CppSession
  | .call env operation => session.withRegistry (operation.perform dds env session.graph).graph
  | .pollPeriodOver envs =>
      session.withRegistry (session.graph.cGraph.registry.pollLocalNodes dds envs)
  | .convert env ddsParticipant =>
      match cppGraphSampleAdapter dds env session.graph.cGraph.registry ddsParticipant
          session.pinfo with
      | none => session
      | some (_, pinfo) => { session with pinfo }

def convertedContent (dds : Dds) (session : CppSession) (env : CppSampleEnv)
    (ddsParticipant : DomainParticipant) : Option SampleContent :=
  convertedTo (·.sample.content)
    (cppGraphSampleAdapter dds env session.graph.cGraph.registry ddsParticipant session.pinfo)

end CppSession

/-- The registries are the same, apart from the poll period. -/
def SameRegistry (here : CSession) (there : CppSession) : Prop :=
  ∃ period, there.graph.cGraph.registry = here.registry.withPollPeriod period

/-- Calls answer the same. A C++ conversion that succeeds gives what the C one
gives, and it succeeds where that one does, unless memory runs out. -/
def Alike (dds : Dds) : DriverEvent → CSession → CppSession → Prop
  | .call env operation, here, there =>
      SameAnswer (operation.inC.perform dds env here.registry).result
        (operation.perform dds env there.graph).result
  | .pollPeriodOver _, _, _ => True
  | .convert env participant, here, there =>
      (∀ content, there.convertedContent dds env participant = some content →
        here.convertedContent dds env participant = some content) ∧
      (env.Sufficient →
        there.convertedContent dds env participant = here.convertedContent dds env participant)

/-- The C++ graph does all that the C graph does, along these events. -/
def Simulates (dds : Dds) : CSession → CppSession → List DriverEvent → Prop :=
  InStep (CSession.next dds) (CppSession.next dds) SameRegistry (Alike dds)

/-- What two graphs that do not poll keep of each other. -/
structure Unpolled (dds : Dds) (here : CSession) (there : CppSession) : Prop where
  registry : there.graph.cGraph.registry = here.registry.withPollPeriod Duration.zero
  unpolled : here.registry.isPollingEnabled = false
  participant : there.graph.graphParticipant = here.registry.graphParticipant
  reachable : here.registry.Reachable dds
  sample : there.pinfo.cSample = some here.pinfo

section

variable {dds : Dds}

theorem Graph.Reachable.named {graph : Graph} (reachable : graph.Reachable dds) :
    ∀ node ∈ graph.nodes, node.nodeName.isSome = true ∧ node.nodeNamespace.isSome = true := by
  obtain ⟨past, run⟩ := reachable
  intro node listed
  obtain ⟨_, _, _, name, space, given, _, _, _, _, identity⟩ := Graph.Run.registered run node listed
  have names := congrArg Prod.fst identity
  exact ⟨Option.isSome_iff_exists.mpr ⟨name, congrArg Prod.fst names⟩,
    Option.isSome_iff_exists.mpr ⟨_, congrArg Prod.snd names⟩⟩

/-- A call leaves the settings of the graph alone. -/
theorem Graph.Reachable.call {graph : Graph} (reachable : graph.Reachable dds) (env : CallEnv)
    (operation : Operation) :
    (operation.perform dds env graph).graph.Reachable dds ∧
      (operation.perform dds env graph).graph.graphParticipant = graph.graphParticipant ∧
      (operation.perform dds env graph).graph.pollPeriod = graph.pollPeriod := by
  obtain ⟨past, run⟩ := reachable
  have onward : Graph.Run dds (past ++ [(graph, .call env operation)])
      (operation.perform dds env graph).graph := run.extend rfl
  have participants := (Graph.Run.accounted onward).2 (graph, .call env operation) (by simp)
  have same := @Operation.perform_withPollPeriod dds env graph graph.pollPeriod rfl operation
  exact ⟨⟨_, onward⟩, participants.symm, congrArg (Graph.pollPeriod ∘ Outcome.graph) same⟩

theorem converted_named {graph : Graph} (reachable : graph.Reachable dds) {env : SampleEnv}
    {participant : DomainParticipant} {sample result : ParticipantEntitiesInfo}
    (converted : graph.convertToSample dds env participant sample = some (.ok, result)) :
    ∀ info ∈ result.nodeEntitiesInfoSeq.toList,
      info.nodeName.isSome = true ∧ info.nodeNamespace.isSome = true := by
  intro info member
  have named : (info.nodeName, info.nodeNamespace) ∈ result.nodeNames :=
    List.mem_map_of_mem member
  rw [convertToSample_nodeNames converted, Graph.advertised] at named
  simp only [List.map_map, List.mem_map, List.mem_filter] at named
  obtain ⟨node, ⟨listed, _⟩, same⟩ := named
  have nodeNamed := reachable.named node listed
  obtain ⟨name, space⟩ := Prod.mk.inj same
  rw [← name, ← space]
  exact nodeNamed

theorem Unpolled.call {here : CSession} {there : CppSession} (unpolled : Unpolled dds here there)
    (env : CallEnv) (operation : CppOperation) :
    Alike dds (.call env operation) here there ∧
      Unpolled dds (here.next dds (.call env operation)) (there.next dds (.call env operation)) := by
  obtain ⟨registry, disabled, participant, reachable, sample⟩ := unpolled
  have agree : there.graph.cGraph.registry.graphParticipant = there.graph.graphParticipant := by
    rw [registry, participant]
    rfl
  have polling : (here.registry.withPollPeriod Duration.zero).isPollingEnabled =
      here.registry.isPollingEnabled := disabled.symm
  obtain ⟨sameGraph, sameAnswer⟩ := @CppOperation.perform_inC dds env there.graph agree operation
  rw [registry, Operation.perform_withPollPeriod polling] at sameGraph sameAnswer
  obtain ⟨onward, participantKept, periodKept⟩ := reachable.call env operation.inC
  refine ⟨sameAnswer, sameGraph, ?_, ?_, onward, sample⟩
  · rw [Graph.isPollingEnabled] at disabled ⊢
    rwa [show (here.next dds (.call env operation)).registry.pollPeriod = here.registry.pollPeriod
      from periodKept]
  · exact participant.trans participantKept.symm

theorem Unpolled.poll {here : CSession} {there : CppSession} (unpolled : Unpolled dds here there)
    (envs : NodePtr → CallEnv) :
    Unpolled dds (here.next dds (.pollPeriodOver envs)) (there.next dds (.pollPeriodOver envs)) := by
  have sameHere : here.registry.pollLocalNodes dds envs = here.registry := by
    rw [Graph.pollLocalNodes, unpolled.unpolled]
    rfl
  have sameThere : there.graph.cGraph.registry.pollLocalNodes dds envs =
      there.graph.cGraph.registry := by
    rw [unpolled.registry]
    rfl
  simp only [CSession.next, CppSession.next, CppSession.withRegistry, sameHere, sameThere]
  exact unpolled

theorem Unpolled.convert {here : CSession} {there : CppSession}
    (unpolled : Unpolled dds here there) (env : CppSampleEnv) (participant : DomainParticipant) :
    Alike dds (.convert env participant) here there ∧
      Unpolled dds (here.next dds (.convert env participant))
        (there.next dds (.convert env participant)) := by
  have sameConversion : there.graph.cGraph.registry.convertToSample dds env.cSample participant
      here.pinfo = here.registry.convertToSample dds env.cSample participant here.pinfo := by
    rw [unpolled.registry]
    rfl
  cases ran : here.registry.convertToSample dds env.cSample participant here.pinfo with
  | none =>
      have undefinedThere : cppGraphSampleAdapter dds env there.graph.cGraph.registry participant
          there.pinfo = none := by
        simp only [cppGraphSampleAdapter, unpolled.sample, sameConversion, ran]
      simp only [Alike, CSession.next, CppSession.next, CSession.convertedContent,
        CppSession.convertedContent, ran, undefinedThere]
      exact ⟨⟨fun _ same => same, fun _ => rfl⟩, unpolled⟩
  | some converted =>
      obtain ⟨retcode, after⟩ := converted
      rw [ran] at sameConversion
      have named : retcode = .ok → ∀ info ∈ after.nodeEntitiesInfoSeq.toList,
          info.nodeName.isSome = true ∧ info.nodeNamespace.isSome = true := by
        intro ok
        rw [ok] at ran
        exact converted_named unpolled.reachable ran
      obtain ⟨code, result, copied, cSample, succeeded, whole⟩ :=
        cppGraphSampleAdapter_spec unpolled.sample sameConversion named
      obtain ⟨registry, disabled, owner, reachable, sample⟩ := unpolled
      have kept : Unpolled dds (here.next dds (.convert env participant))
          (there.next dds (.convert env participant)) := by
        simp only [CSession.next, CppSession.next, ran, copied]
        exact ⟨registry, disabled, owner, reachable, cSample⟩
      refine ⟨?_, kept⟩
      simp only [Alike, CSession.convertedContent, CppSession.convertedContent, ran, copied]
      by_cases ok : code = .ok
      · obtain ⟨rfl, content⟩ := succeeded ok
        subst ok
        have same : convertedTo (·.sample.content) (some (ReturnCode.ok, result)) =
            convertedTo ParticipantEntitiesInfo.content (some (ReturnCode.ok, after)) :=
          congrArg some content
        rw [same]
        exact ⟨fun _ given => given, fun _ => rfl⟩
      · rw [convertedTo_failed _ ok]
        refine ⟨by simp, fun sufficient => ?_⟩
        exact (convertedTo_failed _ (fun same => ok (whole sufficient same)) _).symm

theorem Unpolled.simulates {here : CSession} {there : CppSession}
    (unpolled : Unpolled dds here there) (events : List DriverEvent) :
    Simulates dds here there events := by
  apply InStep.of_simulation _ _ _ unpolled
  · exact fun _ _ related => ⟨_, related.registry⟩
  · intro here there event related
    cases event with
    | call env operation => exact (related.call env operation).1
    | pollPeriodOver envs => exact trivial
    | convert env participant => exact (related.convert env participant).1
  · intro here there event related
    cases event with
    | call env operation => exact (related.call env operation).2
    | pollPeriodOver envs => exact related.poll envs
    | convert env participant => exact (related.convert env participant).2

/-- A node whose participant has one reader, registered with both graphs. -/
def registeringEvent : DriverEvent :=
  .call (.granting (.answering [] [⟨1⟩]))
    (.registerLocalNode (.ofCString firstName) ⟨[]⟩ none)

theorem polling_diverges {participant : DomainParticipant} {period : Duration}
    (polls : (Graph.initial participant period).isPollingEnabled = true)
    {pinfo : ParticipantEntitiesInfo} {there : CppSession}
    (registry : there.graph.cGraph.registry = .initial participant Duration.zero)
    (owner : there.graph.graphParticipant = participant) :
    ¬ SameRegistry ((⟨.initial participant period, pinfo⟩ : CSession).next dataDds registeringEvent)
      (there.next dataDds registeringEvent) := by
  have polling : ((Graph.initial participant ⟨1, 0⟩).withPollPeriod period).isPollingEnabled =
      (Graph.initial participant ⟨1, 0⟩).isPollingEnabled := polls
  have here := @Operation.perform_withPollPeriod dataDds (.granting (.answering [] [⟨1⟩])) _ _
    polling (.registerLocalNode (some firstName) none none)
  have agree : there.graph.cGraph.registry.graphParticipant = there.graph.graphParticipant := by
    rw [registry, owner]
    rfl
  obtain ⟨sameGraph, _⟩ := @CppOperation.perform_inC dataDds (.granting (.answering [] [⟨1⟩]))
    there.graph agree (.registerLocalNode (.ofCString firstName) ⟨[]⟩ none)
  rw [registry] at sameGraph
  intro sameRegistry
  obtain ⟨other, same⟩ := sameRegistry
  have withoutPoll : (there.next dataDds registeringEvent).graph.cGraph.registry.nodes.map
      (·.endpoints.length) = [0] := by
    change ((CppOperation.perform _ _ there.graph _).graph.nodes.map _) = _
    rw [sameGraph]
    rfl
  have withPoll : ((⟨.initial participant period, pinfo⟩ : CSession).next dataDds
      registeringEvent).registry.nodes.map (·.endpoints.length) = [1] := by
    change (Operation.perform dataDds _ ((Graph.initial participant ⟨1, 0⟩).withPollPeriod period)
      (.registerLocalNode (some firstName) none none)).graph.nodes.map _ = _
    rw [here]
    rfl
  have counted := congrArg (fun graph => graph.nodes.map (·.endpoints.length)) same
  exact absurd (withoutPoll.symm.trans (counted.trans withPoll)) (by decide)

/-- The C++ graph simulates the C graph with the same properties along every
sequence of events exactly when the properties do not ask for polling. -/
theorem cpp_simulates_c_iff {env : CreationEnv} {properties : CppGraphProperties}
    {created : CreatedGraph} {graph : CppGraph} {pinfo : ParticipantEntitiesInfo}
    {sample : CppParticipantEntitiesInfo}
    (inC : CreatedGraph.new env (some properties.inC) = some created)
    (inCpp : CppGraph.new env properties = .ok graph) :
    (∀ dds events, Simulates dds ⟨created.registry, pinfo⟩ ⟨graph, ⟨some pinfo, sample⟩⟩ events) ↔
      properties.pollPeriod = Duration.zero ∨ properties.pollPeriod = Duration.infinite := by
  obtain ⟨participant, known, registry⟩ := (CreatedGraph.new_followsProperties inC).registry
  have follows := CppGraph.new_followsProperties inCpp
  have owner : participant = graph.graphParticipant :=
    Option.some.inj (known.symm.trans follows.participant)
  subst owner
  have polls : created.registry.isPollingEnabled = false ↔
      properties.pollPeriod = Duration.zero ∨ properties.pollPeriod = Duration.infinite := by
    rw [registry, Graph.isPollingEnabled]
    simp only [Graph.initial, Bool.and_eq_false_iff, bne_eq_false_iff_eq]
    exact Iff.rfl
  rw [← polls]
  constructor
  · intro simulates
    cases polling : created.registry.isPollingEnabled with
    | false => rfl
    | true =>
        have first := (simulates dataDds [registeringEvent]).2.2
        rw [registry] at first polling
        exact absurd first (polling_diverges polling follows.registry rfl)
  · intro disabled dds events
    refine Unpolled.simulates ⟨?_, disabled, ?_, ⟨[], .start ⟨_, _, registry⟩⟩, rfl⟩ events
    · rw [follows.registry, registry]
      rfl
    · rw [registry]
      rfl

end

theorem cpp_simulates_c_unpolled :
    Simulates dataDds ⟨(grantedGraph Duration.infinite).registry, default⟩
      ⟨grantedCppGraph Duration.infinite, ⟨some default, default⟩⟩
      [registeringEvent, .convert .granting ⟨0⟩] :=
  (cpp_simulates_c_iff (grantedGraph_new _) (grantedCppGraph_new _)).mpr (.inr rfl) dataDds _

/-- With a poll period of one second, registration of a node inspects it in the
C graph only. -/
theorem cpp_graph_never_polls :
    ¬ ∀ (env : CreationEnv) (properties : CppGraphProperties) (created : CreatedGraph)
      (graph : CppGraph) (pinfo : ParticipantEntitiesInfo) (sample : CppParticipantEntitiesInfo),
      CreatedGraph.new env (some properties.inC) = some created →
      CppGraph.new env properties = .ok graph →
      ∀ dds events,
        Simulates dds ⟨created.registry, pinfo⟩ ⟨graph, ⟨some pinfo, sample⟩⟩ events := by
  intro simulates
  have first := (simulates .granting (participantOnly ⟨1, 0⟩) _ _ default default
    (grantedGraph_new _) (grantedCppGraph_new _) dataDds [registeringEvent]).2.2
  exact absurd first (polling_diverges rfl rfl rfl)

end Ros2Graph
