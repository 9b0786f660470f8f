import Ros2Graph.Update.Removal

/-! One update cycle over a registry that nobody changes meanwhile: one sample
for each participant, and each node in the sample of its participant. -/

set_option autoImplicit false

namespace Ros2Graph

open Foundation

/-- What a node's entry in a sample must show, next to its GIDs: the two names
and the lengths of the two sequences. -/
abbrev NodeEntry := (Option CString × Option CString) × Nat × Nat

def NodeEntitiesInfo.entry (info : NodeEntitiesInfo) : NodeEntry :=
  ((info.nodeName, info.nodeNamespace), info.readerGidSeq.length, info.writerGidSeq.length)

def GraphNode.entry (node : GraphNode) : NodeEntry :=
  (node.fullName, node.readersLen.toNat, node.writersLen.toNat)

def ParticipantEntitiesInfo.entries (sample : ParticipantEntitiesInfo) : List NodeEntry :=
  sample.nodeEntitiesInfoSeq.toList.map (·.entry)

def entriesOf (nodes : List GraphNode) (participant : DomainParticipant) : List NodeEntry :=
  (nodes.filter (·.ddsParticipant == participant)).map (·.entry)

/-- The distinct participants of the nodes, in order of first appearance. -/
def participantsOf (nodes : List GraphNode) : List DomainParticipant :=
  (nodes.map (·.ddsParticipant)).eraseDups

theorem convertToSample_entries {dds : Dds} {env : SampleEnv} {graph : Graph}
    {participant : DomainParticipant} {sample result : ParticipantEntitiesInfo}
    (converted : graph.convertToSample dds env participant sample = some (.ok, result)) :
    result.entries = entriesOf graph.nodes participant := by
  apply (convertToSample_view _ converted).2
  intro nodeEnv node nsample written ran
  obtain ⟨nodeName, nodeNamespace, readersLen, writersLen, _⟩ := GraphNode.nodeToSample_ok ran
  rw [NodeEntitiesInfo.entry, nodeName, nodeNamespace, readersLen, writersLen]
  rfl

theorem entries_names (sample : ParticipantEntitiesInfo) :
    sample.entries.map (·.1) = sample.nodeNames := by
  rw [ParticipantEntitiesInfo.entries, List.map_map]
  rfl

def Step.actsOnRegistry {Answers : Type} : Step Answers → Bool
  | .perform _ _ | .inspect _ => true
  | _ => false

namespace GraphSystem

/-- The samples published since the start are for these participants, in this
order, and each lists the nodes of its own. -/
structure PublishedFor (start : GraphSystem ParticipantEntitiesInfo)
    (published : List (DomainParticipant × ParticipantEntitiesInfo))
    (served : List DomainParticipant)
    (samples : List (DomainParticipant × ParticipantEntitiesInfo)) : Prop where
  published : published = start.published ++ samples
  participants : samples.map (·.1) = served
  entries : ∀ sample ∈ samples, sample.2.entries = entriesOf start.graph.nodes sample.1

/-- What holds during an update of a registry that does not change. -/
structure Partitioning (start sys : GraphSystem ParticipantEntitiesInfo) : Prop where
  gathered : sys.pc = .gather ∨ sys.served = none ∨
    sys.participants.toList = participantsOf start.graph.nodes
  converted : sys.pc = .unlockConvert ∨ sys.pc = .publish → ∀ dp, sys.picked = some dp →
    sys.pinfo.entries = entriesOf start.graph.nodes dp
  published : ∀ served, sys.served = some served → ∃ samples, PublishedFor start sys.published served samples

end GraphSystem

section

open GraphSystem

variable {dds : Dds} {start sys following : GraphSystem ParticipantEntitiesInfo}
  {step : Step SampleEnv} {visits : List (GraphSystem ParticipantEntitiesInfo × Step SampleEnv)}

theorem GraphSystem.PublishedFor.more
    {published samples : List (DomainParticipant × ParticipantEntitiesInfo)}
    {served : List DomainParticipant} {dp : DomainParticipant} {sample : ParticipantEntitiesInfo}
    (done : PublishedFor start published served samples)
    (converted : sample.entries = entriesOf start.graph.nodes dp) :
    PublishedFor start (published ++ [(dp, sample)]) (served ++ [dp])
      (samples ++ [(dp, sample)]) where
  published := by rw [done.published, List.append_assoc]
  participants := by rw [List.map_append, done.participants]; rfl
  entries := by
    intro entry member
    rcases List.mem_append.mp member with before | now
    · exact done.entries entry before
    · exact List.mem_singleton.mp now ▸ converted

theorem StepEffect.partitioning
    (effect : StepEffect dds (cGraphSampleAdapter dds) sys step following)
    (unchanged : sys.graph.nodes = start.graph.nodes) (inside : sys.pc.inUpdate = true)
    (partitioning : Partitioning start sys) : Partitioning start following := by
  have serving : Serving (· = participantsOf start.graph.nodes)
      (fun dp sample => sample.entries = entriesOf start.graph.nodes dp)
      (fun published served => ∃ samples, PublishedFor start published served samples)
      following := by
    refine effect.serving inside ?_ ?_ ?_
      ⟨partitioning.gathered, partitioning.converted, partitioning.published⟩
    · intro granted participants here ran
      have listed := gathered_toList ran
      rwa [unchanged] at listed
    · intro answers dp pinfo picked ran
      exact unchanged ▸ convertToSample_entries ran
    · intro published served dp sample before converted
      obtain ⟨samples, done⟩ := before
      exact ⟨_, done.more converted⟩
  exact ⟨serving.gathered, serving.converted, serving.published⟩

namespace GraphSystem

theorem RunFrom.partitioning (onward : RunFrom dds (cGraphSampleAdapter dds) start visits sys)
    (gathering : start.pc = .gather) (inside : ∀ visit ∈ visits, visit.1.pc.inUpdate = true)
    (unchanged : ∀ visit ∈ visits, visit.1.graph.nodes = start.graph.nodes) :
    Partitioning start sys := by
  induction onward with
  | start same =>
      subst same
      refine ⟨.inl gathering, by simp [gathering], ?_⟩
      intro list same
      cases (served_gathering gathering).symm.trans same
      exact ⟨[], by simp, rfl, by simp⟩
  | extend onward stepped ih =>
      exact (Steps.effect stepped).partitioning
        (unchanged _ (List.mem_append_right _ List.mem_cons_self))
        (inside _ (List.mem_append_right _ List.mem_cons_self))
        (ih (fun visit member => inside visit (List.mem_append_left _ member))
          (fun visit member => unchanged visit (List.mem_append_left _ member)))

/-- The samples that a completed update has published, with the participants
they are for. -/
theorem CompletedUpdate.publishedFor {last : GraphSystem ParticipantEntitiesInfo}
    (update : CompletedUpdate dds start visits last)
    (unchanged : ∀ visit ∈ visits, visit.1.graph.nodes = start.graph.nodes) :
    ∃ samples, PublishedFor start last.published (participantsOf start.graph.nodes) samples := by
  have partitioning := RunFrom.partitioning update.run update.gathering update.inside unchanged
  obtain ⟨all, gathered⟩ :=
    served_completed update.returned update.succeeded partitioning.gathered
  exact partitioning.published _ (all.trans (congrArg some gathered))

theorem PublishedFor.mem_nodeNames_iff
    {published samples : List (DomainParticipant × ParticipantEntitiesInfo)}
    {served : List DomainParticipant} (done : PublishedFor start published served samples)
    {sample : DomainParticipant × ParticipantEntitiesInfo} (member : sample ∈ samples)
    {fullName : Option CString × Option CString} :
    fullName ∈ sample.2.nodeNames ↔
      ∃ node ∈ start.graph.nodes, node.ddsParticipant = sample.1 ∧ node.fullName = fullName := by
  rw [← entries_names, done.entries sample member, entriesOf, List.map_map]
  simp [GraphNode.entry, and_assoc]

/-- Among samples for distinct participants, each node is in one. -/
theorem PublishedFor.node_once {published : List (DomainParticipant × ParticipantEntitiesInfo)}
    {samples : List (DomainParticipant × ParticipantEntitiesInfo)}
    (done : PublishedFor start published (participantsOf start.graph.nodes) samples)
    (names : start.graph.NamesDistinct) {node : GraphNode} (listed : node ∈ start.graph.nodes) :
    ∃! sample, sample ∈ samples ∧ node.fullName ∈ sample.2.nodeNames := by
  have namesApart : (start.graph.nodes.map (·.fullName)).Nodup := by
    unfold Graph.NamesDistinct Graph.identities at names
    rwa [List.map_map] at names
  have samplesApart : (samples.map (·.1)).Nodup := by
    rw [done.participants]
    exact eraseDups_nodup _
  have owner : node.ddsParticipant ∈ samples.map (·.1) := by
    rw [done.participants]
    exact List.mem_eraseDups.mpr (List.mem_map_of_mem listed)
  obtain ⟨sample, member, same⟩ := List.mem_map.mp owner
  refine ⟨sample, ⟨member, (done.mem_nodeNames_iff member).mpr ⟨node, listed, same.symm, rfl⟩⟩, ?_⟩
  rintro other ⟨otherMember, named⟩
  obtain ⟨twin, twinListed, twinOwner, twinName⟩ := (done.mem_nodeNames_iff otherMember).mp named
  have twinSame : twin = node := List.inj_on_of_nodup_map namesApart twinListed listed twinName
  apply List.inj_on_of_nodup_map samplesApart otherMember member
  rw [← twinOwner, twinSame, same]

end GraphSystem

/-- An update of a registry that does not change publishes one sample for each
participant, in the order in which the nodes name them, with the nodes of that
participant in the order of their registration. -/
theorem update_partitions {last : GraphSystem ParticipantEntitiesInfo}
    (registry : start.graph.Reachable dds) (update : CompletedUpdate dds start visits last)
    (unchanged : ∀ visit ∈ visits, visit.1.graph.nodes = start.graph.nodes) :
    ∃ samples, last.published = start.published ++ samples ∧
      samples.map (·.1) = participantsOf start.graph.nodes ∧ (samples.map (·.1)).Nodup ∧
      (∀ sample ∈ samples, sample.2.entries = entriesOf start.graph.nodes sample.1) ∧
      ∀ node ∈ start.graph.nodes,
        ∃! sample, sample ∈ samples ∧ node.fullName ∈ sample.2.nodeNames := by
  obtain ⟨past, run⟩ := registry
  obtain ⟨samples, done⟩ := update.publishedFor unchanged
  refine ⟨samples, done.published, done.participants, ?_, done.entries, ?_⟩
  · rw [done.participants]
    exact eraseDups_nodup _
  · exact fun node listed => done.node_once run.namesDistinct listed

theorem StepEffect.registry_kept {Sample Answers : Type} {dds : Dds}
    {convert : ConvertToSampleFn Sample Answers} {sys following : GraphSystem Sample}
    {step : Step Answers} (effect : StepEffect dds convert sys step following)
    (idle : step.actsOnRegistry = false) : following.graph = sys.graph := by
  cases effect with
  | performed | inspected => cases idle
  | _ => rfl

theorem RunFrom.registry_kept (onward : RunFrom dds (cGraphSampleAdapter dds) start visits sys)
    (idle : ∀ visit ∈ visits, visit.2.actsOnRegistry = false) :
    (∀ visit ∈ visits, visit.1.graph = start.graph) ∧ sys.graph = start.graph := by
  induction onward with
  | start same => exact ⟨by simp, congrArg GraphSystem.graph same⟩
  | extend onward stepped ih =>
      obtain ⟨before, now⟩ := ih fun visit member => idle visit (List.mem_append_left _ member)
      have kept := (Steps.effect stepped).registry_kept
        (idle _ (List.mem_append_right _ List.mem_cons_self))
      refine ⟨?_, kept.trans now⟩
      intro visit member
      rcases List.mem_append.mp member with earlier | last
      · exact before visit earlier
      · cases List.mem_singleton.mp last
        exact now

end

/-! A cycle over three nodes of two participants, two of them sharing one. -/

def atSharedGather : GraphSystem ParticipantEntitiesInfo :=
  (GraphSystem.started Duration.infinite default).after clientsDds (cGraphSampleAdapter clientsDds)
    (.testActive :: callSteps (.registerLocalNode (some firstName) none none) ++
      callSteps (.registerLocalNode (some secondName) none (some ⟨1⟩)) ++
      callSteps (.registerLocalNode (some firstName) (some secondName) none) ++
      [.takePermit, .retest, .drain, .drain, .drain, .lockGather])

def publishSteps : List (Step SampleEnv) :=
  [.pick, .lockConvert, .convert .granting, .unlockConvert, .publish .ok]

def sharedCycle : List (Step SampleEnv) :=
  .gather (fun _ => true) :: .unlockGather :: publishSteps ++ publishSteps ++ [.pick]

def afterSharedCycle : GraphSystem ParticipantEntitiesInfo :=
  atSharedGather.after clientsDds (cGraphSampleAdapter clientsDds) sharedCycle

theorem update_partitions_shared :
    atSharedGather.graph.nodes.length = 3 ∧ ∃ samples,
      afterSharedCycle.published = atSharedGather.published ++ samples ∧
      samples.map (·.1) = [⟨0⟩, ⟨1⟩] := by
  obtain ⟨past, run, _⟩ := @GraphSystem.Run.ofReplay _ _ clientsDds
    (cGraphSampleAdapter clientsDds) Duration.infinite default
    (.testActive :: callSteps (.registerLocalNode (some firstName) none none) ++
      callSteps (.registerLocalNode (some secondName) none (some ⟨1⟩)) ++
      callSteps (.registerLocalNode (some firstName) (some secondName) none) ++
      [.takePermit, .retest, .drain, .drain, .drain, .lockGather]) rfl
  obtain ⟨visits, cycle, among⟩ := @GraphSystem.RunFrom.ofReplay _ _ clientsDds
    (cGraphSampleAdapter clientsDds) atSharedGather sharedCycle rfl
  have kept := RunFrom.registry_kept cycle fun visit member => by
    have idle := List.all_eq_true.mp
      (rfl : sharedCycle.all (fun step => !step.actsOnRegistry) = true) _ (among visit member).2
    simpa using idle
  obtain ⟨samples, published, participants, _⟩ :=
    @update_partitions clientsDds atSharedGather visits afterSharedCycle (GraphSystem.Run.graph run)
      ⟨rfl, cycle, fun visit member => GraphSystem.enabled_inUpdate (among visit member).1
        (List.all_eq_true.mp (rfl : sharedCycle.all Step.ofUpdate = true) _ (among visit member).2),
        rfl, rfl⟩ (fun visit member => congrArg Graph.nodes (kept.1 visit member))
  exact ⟨rfl, samples, published, participants⟩

end Ros2Graph
