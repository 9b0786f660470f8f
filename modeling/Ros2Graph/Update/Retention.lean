import Ros2Graph.Cpp.SampleAdapter
import Ros2Graph.Update.Partition

/-! What late joiners are told. The DataWriter of the graph keeps the last
samples only, and an update publishes one for each participant. -/

set_option autoImplicit false

namespace Ros2Graph

open Foundation

/-- The two ways to create a graph. -/
inductive GraphApi where
  | c
  | cpp
  deriving DecidableEq, Repr

/-- A graph whose DataWriter the library has created, none being supplied in
the properties. -/
inductive CreatedGraph.WithOwnWriter (env : CreationEnv) : GraphApi → CreatedGraph → Prop where
  | c {properties : GraphProperties} {created : CreatedGraph} :
      properties.graphWriter = none → CreatedGraph.new env (some properties) = some created →
      WithOwnWriter env .c created
  | cpp {properties : CppGraphProperties} {graph : CppGraph} :
      properties.graphWriter = none → CppGraph.new env properties = .ok graph →
      WithOwnWriter env .cpp graph.cGraph

def GraphApi.historyDepth : GraphApi → Nat
  | .c => 100
  | .cpp => 1

namespace GraphSystem

variable {Sample Answers : Type}

/-- One call of `RTIROS2_Graph_publish_update` that returns `DDS_RETCODE_OK`,
by a graph with any sample adapter. -/
structure CompletedCycle (dds : Dds) (convert : ConvertToSampleFn Sample Answers)
    (start : GraphSystem Sample) (visits : List (GraphSystem Sample × Step Answers))
    (last : GraphSystem Sample) : Prop where
  gathering : start.pc = .gather
  run : RunFrom dds convert start visits last
  inside : ∀ visit ∈ visits, visit.1.pc.inUpdate = true
  returned : last.pc = .updated
  succeeded : last.retcode = .ok

/-- The DataWriter keeps, for each participant registered as the cycle began,
the sample that the cycle has published for it. -/
def LatestRetained (history : HistoryQosPolicy) (start last : GraphSystem Sample) : Prop :=
  ∀ participant ∈ participantsOf start.graph.nodes, ∃ sample,
    (participant, sample) ∈ last.published.drop start.published.length ∧
      (participant, sample) ∈ history.retained last.published

def PublishedSamples (start : GraphSystem Sample) (published : List (DomainParticipant × Sample))
    (served : List DomainParticipant) : Prop :=
  ∃ samples, published = start.published ++ samples ∧ samples.map (·.1) = served

/-- What holds during a cycle, with other calls in between. -/
structure Cycling (start sys : GraphSystem Sample) : Prop where
  gathering : sys.pc = .gather → sys.graph = start.graph
  gathered : sys.pc = .gather ∨ sys.served = none ∨
    sys.participants.toList = participantsOf start.graph.nodes
  published : ∀ served, sys.served = some served → PublishedSamples start sys.published served

end GraphSystem

section

open GraphSystem

variable {Sample Answers : Type} {dds : Dds} {convert : ConvertToSampleFn Sample Answers}
  {start sys following last : GraphSystem Sample} {step : Step Answers}
  {past visits : List (GraphSystem Sample × Step Answers)}

theorem CreatedGraph.WithOwnWriter.history {env : CreationEnv} {api : GraphApi}
    {created : CreatedGraph} (own : created.WithOwnWriter env api) (written : List Sample) :
    created.graphWriter.qos.history.retained written = written.rtake api.historyDepth := by
  cases own with
  | c missing isNew =>
      rw [(CreatedGraph.new_followsProperties isNew).ownWriter missing]
      exact KeepLast.items_ofAll written
  | cpp missing isNew =>
      rw [(CppGraph.new_followsProperties isNew).ownWriter missing]
      exact KeepLast.items_ofAll written

theorem CreatedGraph.WithOwnWriter.registry {env : CreationEnv} {api : GraphApi}
    {created : CreatedGraph} (own : created.WithOwnWriter env api) :
    created.registry.IsInitial := by
  cases own with
  | c _ isNew =>
      obtain ⟨participant, _, registry⟩ := (CreatedGraph.new_followsProperties isNew).registry
      exact ⟨participant, _, registry⟩
  | cpp _ isNew => exact ⟨_, _, (CppGraph.new_followsProperties isNew).registry⟩

theorem GraphSystem.PublishedSamples.more {published : List (DomainParticipant × Sample)}
    {served : List DomainParticipant} {dp : DomainParticipant} {sample : Sample}
    (done : PublishedSamples start published served) :
    PublishedSamples start (published ++ [(dp, sample)]) (served ++ [dp]) := by
  obtain ⟨samples, appended, participants⟩ := done
  refine ⟨samples ++ [(dp, sample)], ?_, ?_⟩
  · rw [appended, List.append_assoc]
  · rw [List.map_append, participants]
    rfl

theorem StepEffect.cycling (effect : StepEffect dds convert sys step following)
    (excluded : sys.Excluded) (inside : sys.pc.inUpdate = true) (cycling : Cycling start sys) :
    Cycling start following := by
  have serving : Serving (· = participantsOf start.graph.nodes) (fun _ _ => True)
      (PublishedSamples start) following := by
    refine effect.serving inside ?_ (fun _ _ _ _ _ => trivial) (fun _ _ _ _ done _ => done.more)
      ⟨cycling.gathered, fun _ _ _ => trivial, cycling.published⟩
    intro granted participants here ran
    have listed := gathered_toList ran
    rwa [cycling.gathering here] at listed
  refine ⟨fun here => ?_, serving.gathered, serving.published⟩
  obtain ⟨before, same⟩ := effect.still_gathering excluded inside here
  exact same.trans (cycling.gathering before)

namespace GraphSystem

theorem RunFrom.cycling (run : Run dds convert past start) (gathering : start.pc = .gather)
    (onward : RunFrom dds convert start visits sys)
    (inside : ∀ visit ∈ visits, visit.1.pc.inUpdate = true) : Cycling start sys := by
  induction onward with
  | start same =>
      subst same
      refine ⟨fun _ => rfl, .inl gathering, ?_⟩
      intro list same
      cases (served_gathering gathering).symm.trans same
      exact ⟨[], by simp, rfl⟩
  | extend onward stepped ih =>
      exact (Steps.effect stepped).cycling (Run.excluded (run.append onward))
        (inside _ (List.mem_append_right _ List.mem_cons_self))
        (ih fun visit member => inside visit (List.mem_append_left _ member))

/-- A completed cycle has published one sample for each participant that was
registered as it began. -/
theorem CompletedCycle.publishedSamples (run : Run dds convert past start)
    (cycle : CompletedCycle dds convert start visits last) :
    PublishedSamples start last.published (participantsOf start.graph.nodes) := by
  have cycling := RunFrom.cycling run cycle.gathering cycle.run cycle.inside
  obtain ⟨all, gathered⟩ := served_completed cycle.returned cycle.succeeded cycling.gathered
  exact cycling.published _ (all.trans (congrArg some gathered))

/-- Of the samples of one cycle, a history keeps all exactly when they fit. -/
theorem PublishedSamples.latestRetained_iff {history : HistoryQosPolicy} {depth : Nat}
    (keeps : ∀ written : List (DomainParticipant × Sample),
      history.retained written = written.rtake depth)
    (done : PublishedSamples start last.published (participantsOf start.graph.nodes)) :
    LatestRetained history start last ↔ (participantsOf start.graph.nodes).length ≤ depth := by
  obtain ⟨samples, appended, participants⟩ := done
  have participantsApart : (samples.map (·.1)).Nodup := participants ▸ eraseDups_nodup _
  have samplesApart : samples.Nodup := participantsApart.of_map _
  have inBatch : LatestRetained history start last ↔
      ∀ sample ∈ samples, sample ∈ (start.published ++ samples).rtake depth := by
    unfold LatestRetained
    rw [← participants, appended, List.drop_left, keeps]
    constructor
    · intro retained sample member
      obtain ⟨value, cycled, kept⟩ := retained sample.1 (List.mem_map_of_mem member)
      have same : (sample.1, value) = sample :=
        List.inj_on_of_nodup_map participantsApart cycled member rfl
      exact same ▸ kept
    · intro kept participant member
      obtain ⟨sample, cycled, rfl⟩ := List.mem_map.mp member
      exact ⟨sample.2, cycled, kept sample cycled⟩
  rw [inBatch, KeepLast.keeps_batch_iff samplesApart, ← participants, List.length_map]

end GraphSystem

/-- After a completed cycle for at most 100 participants, the DataWriter that
the library has created keeps the latest sample of each of them exactly when it
was created through the C API, or there are not two of them. -/
theorem latest_samples_retained_iff {env : CreationEnv} {api : GraphApi} {created : CreatedGraph}
    {participants : ReusedSeq DomainParticipant} {pinfo : Sample}
    (own : created.WithOwnWriter env api)
    (run : RunFrom dds convert (GraphSystem.initial created.registry participants pinfo) past start)
    (cycle : CompletedCycle dds convert start visits last)
    (few : (participantsOf start.graph.nodes).length ≤ 100) :
    LatestRetained created.graphWriter.qos.history start last ↔
      api = .c ∨ (participantsOf start.graph.nodes).length ≤ 1 := by
  have initialRun : Run dds convert []
      (GraphSystem.initial created.registry participants pinfo) :=
    .start ⟨_, _, _, own.registry, rfl⟩
  rw [(cycle.publishedSamples (initialRun.append run)).latestRetained_iff own.history]
  cases api with
  | c => simpa [GraphApi.historyDepth] using few
  | cpp => simp [GraphApi.historyDepth]

end

/-! A cycle over two nodes of two participants. -/

def twoParticipantSteps {Answers : Type} : List (Step Answers) :=
  .testActive :: callSteps (.registerLocalNode (some firstName) none none) ++
    callSteps (.registerLocalNode (some secondName) none (some ⟨1⟩)) ++
    [.takePermit, .retest, .drain, .drain, .lockGather]

def servingSteps {Answers : Type} (answers : Answers) : List (Step Answers) :=
  [.pick, .lockConvert, .convert answers, .unlockConvert, .publish .ok]

def twoParticipantCycle {Answers : Type} (answers : Answers) : List (Step Answers) :=
  .gather (fun _ => true) :: .unlockGather :: servingSteps answers ++ servingSteps answers ++
    [.pick]

def emptyPinfo : CppPinfo := ⟨some default, default⟩

namespace CreatedGraph

variable {Sample Answers : Type} (created : CreatedGraph)
  (convert : ConvertToSampleFn Sample Answers) (pinfo : Sample)

def system : GraphSystem Sample :=
  .initial created.registry ⟨0, 0, fun _ => ⟨0⟩⟩ pinfo

/-- Two nodes have been registered, and the update thread is about to gather. -/
def atTwoParticipants : GraphSystem Sample :=
  (created.system pinfo).after clientsDds convert twoParticipantSteps

def afterTwoParticipants (answers : Answers) : GraphSystem Sample :=
  (created.atTwoParticipants convert pinfo).after clientsDds convert (twoParticipantCycle answers)

variable {created convert pinfo}

theorem twoParticipants_cycle {answers : Answers}
    (reaches : ((created.system pinfo).replay clientsDds convert
      twoParticipantSteps).isSome = true)
    (cycles : ((created.atTwoParticipants convert pinfo).replay clientsDds convert
      (twoParticipantCycle answers)).isSome = true)
    (gathering : (created.atTwoParticipants convert pinfo).pc = .gather)
    (returned : (created.afterTwoParticipants convert pinfo answers).pc = .updated)
    (succeeded : (created.afterTwoParticipants convert pinfo answers).retcode = .ok) :
    ∃ past visits, GraphSystem.RunFrom clientsDds convert (created.system pinfo) past
        (created.atTwoParticipants convert pinfo) ∧
      GraphSystem.CompletedCycle clientsDds convert (created.atTwoParticipants convert pinfo)
        visits (created.afterTwoParticipants convert pinfo answers) := by
  obtain ⟨past, run, _⟩ := GraphSystem.RunFrom.ofReplay reaches
  obtain ⟨visits, cycle, among⟩ := GraphSystem.RunFrom.ofReplay cycles
  refine ⟨past, visits, run, gathering, cycle, ?_, returned, succeeded⟩
  intro visit member
  have updates : ((twoParticipantCycle answers).all Step.ofUpdate) = true := rfl
  exact GraphSystem.enabled_inUpdate (among visit member).1
    (List.all_eq_true.mp updates _ (among visit member).2)

end CreatedGraph

theorem grantedGraph_own (pollPeriod : Duration) :
    (grantedGraph pollPeriod).WithOwnWriter .granting .c :=
  .c rfl (grantedGraph_new pollPeriod)

theorem grantedCppGraph_own (pollPeriod : Duration) :
    (grantedCppGraph pollPeriod).cGraph.WithOwnWriter .granting .cpp :=
  .cpp rfl (grantedCppGraph_new pollPeriod)

/-- The graph at its gathering, created through the C API. -/
def twoParticipantsInC : GraphSystem ParticipantEntitiesInfo :=
  (grantedGraph Duration.infinite).atTwoParticipants (cGraphSampleAdapter clientsDds) default

/-- Through the C API, the samples of both participants are kept. -/
theorem latest_samples_retained_in_c :
    (participantsOf twoParticipantsInC.graph.nodes).length = 2 ∧
      GraphSystem.LatestRetained (grantedGraph Duration.infinite).graphWriter.qos.history
        twoParticipantsInC (twoParticipantsInC.after clientsDds (cGraphSampleAdapter clientsDds)
          (twoParticipantCycle .granting)) := by
  obtain ⟨past, visits, run, cycle⟩ := @CreatedGraph.twoParticipants_cycle _ _
    (grantedGraph Duration.infinite) (cGraphSampleAdapter clientsDds) default .granting
    rfl rfl rfl rfl rfl
  exact ⟨rfl, (latest_samples_retained_iff (grantedGraph_own _) run cycle (by decide)).mpr
    (.inl rfl)⟩

/-- Through the C++ API, the second participant's sample pushes out the first's. -/
theorem latest_sample_pushed_out :
    ¬ ∀ (env : CreationEnv) (api : GraphApi) (created : CreatedGraph)
      (past visits : List (GraphSystem CppPinfo × Step CppSampleEnv))
      (participants : ReusedSeq DomainParticipant) (pinfo : CppPinfo)
      (start last : GraphSystem CppPinfo), created.WithOwnWriter env api →
      GraphSystem.RunFrom clientsDds (cppGraphSampleAdapter clientsDds)
        (GraphSystem.initial created.registry participants pinfo) past start →
      GraphSystem.CompletedCycle clientsDds (cppGraphSampleAdapter clientsDds) start visits last →
      (participantsOf start.graph.nodes).length ≤ 100 →
      GraphSystem.LatestRetained created.graphWriter.qos.history start last := by
  intro retained
  obtain ⟨past, visits, run, cycle⟩ := @CreatedGraph.twoParticipants_cycle _ _
    (grantedCppGraph Duration.infinite).cGraph (cppGraphSampleAdapter clientsDds) emptyPinfo
    .granting rfl rfl rfl rfl rfl
  have own := grantedCppGraph_own Duration.infinite
  have kept := retained _ _ _ past visits _ _ _ _ own run cycle (by decide)
  have initialRun : GraphSystem.Run clientsDds (cppGraphSampleAdapter clientsDds) []
      ((grantedCppGraph Duration.infinite).cGraph.system emptyPinfo) :=
    .start ⟨_, _, _, own.registry, rfl⟩
  rw [(cycle.publishedSamples (initialRun.append run)).latestRetained_iff own.history] at kept
  exact absurd kept (by decide)

end Ros2Graph
