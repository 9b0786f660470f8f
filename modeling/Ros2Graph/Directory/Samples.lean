import Ros2Graph.Calls.Publication
import Ros2Graph.Cpp.SampleAdapter
import Ros2Graph.Directory.Calls
import Ros2Graph.Update.Removal

/-! What the update thread publishes is an advertisement of the directory: whatever calls
run beside it, each sample shows the nodes that the directory has at one moment. -/

set_option autoImplicit false

namespace Ros2Graph

open Foundation

section

variable {dds : Dds} {env : SampleEnv} {participant : DomainParticipant}

/-- The slots that the loop fills are conversions of the nodes of the participant, in their
order, and the slots before them are left alone. -/
theorem fillNodeInfos_made {nodes : List GraphNode} {nodeI last : Nat}
    {infos filled : ReusedSeq NodeEntitiesInfo}
    (ran : Graph.fillNodeInfos dds env participant nodes nodeI infos =
      some (.ok, last, filled)) :
    List.Forall₂ (fun node info => ∃ nodeEnv before,
        GraphNode.nodeToSample dds nodeEnv node before = some (.ok, info))
      (nodes.filter (·.ddsParticipant == participant))
      ((List.range' nodeI (last - nodeI)).map filled.slot) ∧
      nodeI ≤ last ∧ ∀ index, index < nodeI → filled.slot index = infos.slot index := by
  induction nodes generalizing nodeI infos with
  | nil =>
      cases ran
      simp
  | cons node rest ih =>
      unfold Graph.fillNodeInfos at ran
      cases own : node.ddsParticipant == participant with
      | false =>
          simp only [own, Bool.false_eq_true, if_false] at ran
          simpa [own] using ih ran
      | true =>
          simp only [own, if_true] at ran
          split at ran
          · cases ran
          · next nsample _ =>
            split at ran
            · cases ran
            · next written converted =>
              obtain ⟨made, further, kept⟩ := ih ran
              have here : filled.slot nodeI = written := by
                rw [kept nodeI (Nat.lt_succ_self nodeI), ReusedSeq.write_slot_self]
              have count : last - nodeI = (last - (nodeI + 1)) + 1 := by omega
              refine ⟨?_, by omega, ?_⟩
              · rw [count, List.range'_succ, List.map_cons, here, List.filter_cons, if_pos own]
                exact .cons ⟨_, _, converted⟩ made
              · intro index before
                rw [kept index (Nat.lt_succ_of_lt before),
                  ReusedSeq.write_slot_ne _ _ (Nat.ne_of_lt before)]
            · cases ran

theorem convertToSample_made {graph : Graph} {sample result : ParticipantEntitiesInfo}
    (converted : graph.convertToSample dds env participant sample = some (.ok, result)) :
    result.gid = ihToGid (dds.participantInstanceHandle participant) ∧
      List.Forall₂ (fun node info => ∃ nodeEnv before,
          GraphNode.nodeToSample dds nodeEnv node before = some (.ok, info))
        (graph.nodes.filter (·.ddsParticipant == participant))
        result.nodeEntitiesInfoSeq.toList := by
  unfold Graph.convertToSample at converted
  dsimp only at converted
  split at converted
  · simp at converted
  · split at converted
    · simp at converted
    · next nodeI filled ran =>
      split at converted
      · simp at converted
      · next trimmed sized =>
        obtain ⟨_, rfl⟩ := Prod.mk.inj (Option.some.inj converted)
        obtain ⟨length, slots⟩ := ReusedSeq.setLength_eq_some sized
        refine ⟨rfl, ?_⟩
        unfold ReusedSeq.toList
        rw [length, slots, List.range_eq_range']
        exact (fillNodeInfos_made ran).1
    · simp at converted

end

/-- What a subscriber reads of a node is what the directory has: its names, and where the
counters are `exact` the identifiers of its writers. Those of its readers as well, unless one
of its endpoints has both. -/
structure NodeListing.ToldBy (dds : Dds) (exact : Prop) (node : NodeListing)
    (content : NodeContent) : Prop where
  nodeName : content.nodeName = some node.nodeName
  nodeNamespace : content.nodeNamespace = some node.nodeNamespace
  writerGids : exact → Enumerates (·.ddsWriter.isSome = true)
    (fun endp gid => endp.ddsWriter.map dds.computeWriterGid = some gid) node.endpoints
    content.writerGids
  readerGids : exact → (∀ handle endp, node.endpoints handle = some endp →
      endp.ddsReader = none ∨ endp.ddsWriter = none) →
    Enumerates (·.ddsReader.isSome = true)
      (fun endp gid => endp.ddsReader.map dds.computeReaderGid = some gid) node.endpoints
      content.readerGids

structure Directory.Advertises (dds : Dds) (exact : Prop) (directory : Directory)
    (participant : DomainParticipant) (content : SampleContent) : Prop where
  gid : content.gid = ihToGid (dds.participantInstanceHandle participant)
  nodes : Enumerates (·.ddsParticipant = participant) (NodeListing.ToldBy dds exact)
    directory.nodes content.nodes

namespace NodeListing.Describes

variable {dds : Dds} {entry : NodeListing} {node : GraphNode}

/-- The identifiers of the entities on one side of the endpoints. -/
theorem gidsOf {Entity : Type} (describes : entry.Describes node) (numbered : node.Numbered)
    {side : GraphEndpoint → Option Entity} {sideOf : EndpointListing → Option Entity}
    (same : ∀ {known endp}, EndpointListing.Describes known endp → side endp = sideOf known)
    (gidOf : Entity → Gid) :
    Enumerates (fun endp => (sideOf endp).isSome = true)
      (fun endp gid => (sideOf endp).map gidOf = some gid) entry.endpoints
      ((node.endpoints.filterMap side).map gidOf) := by
  refine describes.endpoints.enumerates numbered.distinct
    (fun endp => (side endp).isSome) (fun told => by rw [same told]) ?_
  refine List.forall₂_map_right_iff.mpr ((forall₂_filterMap side node.endpoints).imp ?_)
  intro endp entity present listing told
  rw [← same told, present, Option.map_some]

theorem told {exact : Prop} {nodeEnv : NodeSampleEnv} {before info : NodeEntitiesInfo}
    (describes : entry.Describes node) (numbered : node.Numbered)
    (counted : exact → node.Counted)
    (converted : node.nodeToSample dds nodeEnv before = some (.ok, info)) :
    entry.ToldBy dds exact info.content := by
  obtain ⟨nodeName, nodeNamespace, _⟩ := GraphNode.nodeToSample_ok converted
  refine ⟨nodeName.trans describes.nodeName, nodeNamespace.trans describes.nodeNamespace,
    fun holds => ?_, fun holds oneSided => ?_⟩
  · have written := nodeToSample_writerGids (counted holds).writersLen converted
    rw [NodeEntitiesInfo.content, written]
    exact describes.gidsOf numbered (fun told => told.ddsWriter) dds.computeWriterGid
  · -- no slot is passed over where no endpoint has a writer beside its reader
    have fresh : node.StaleReadersMatch dds before.readerGidSeq := by
      intro index endp ddsReader found reader both
      have member := (List.mem_filter.mp (List.mem_of_getElem? found)).1
      obtain ⟨position, present⟩ := List.mem_iff_getElem?.mp member
      obtain ⟨listing, known, same⟩ := describes.known numbered present
      rcases oneSided _ listing known with absent | absent
      · cases (same.ddsReader.trans absent).symm.trans reader
      · simp [GraphEndpoint.hasWriter, same.ddsWriter, absent] at both
    have written :=
      (nodeToSample_readerGids_iff (counted holds).readersLen converted).mpr fresh
    rw [NodeEntitiesInfo.content, written]
    exact describes.gidsOf numbered (fun told => told.ddsReader) dds.computeReaderGid

end NodeListing.Describes

/-- A conversion of the registry advertises the directory that describes it. -/
theorem Directory.Describes.advertised {dds : Dds} {env : SampleEnv} {exact : Prop}
    {graph : Graph} {directory : Directory} {participant : DomainParticipant}
    {before after : ParticipantEntitiesInfo} (describes : directory.Describes graph)
    (distinct : graph.HandlesDistinct) (numbered : ∀ node ∈ graph.nodes, node.Numbered)
    (counted : exact → ∀ node ∈ graph.nodes, node.Counted)
    (converted : graph.convertToSample dds env participant before = some (.ok, after)) :
    directory.Advertises dds exact participant after.content := by
  obtain ⟨gid, made⟩ := convertToSample_made converted
  refine ⟨gid, Agrees.enumerates describes distinct (·.ddsParticipant == participant)
    (fun told => ?_) ?_⟩
  · rw [beq_iff_eq, told.ddsParticipant]
  · have inside : ∀ node ∈ graph.nodes.filter (·.ddsParticipant == participant),
        node ∈ graph.nodes := fun node => List.mem_of_mem_filter
    refine List.forall₂_map_right_iff.mpr
      (((List.forall₂_and_left _ _).mpr ⟨inside, made⟩).imp ?_)
    rintro node info ⟨member, nodeEnv, earlier, ran⟩ entry told
    exact told.told (numbered node member) (fun holds => counted holds node member) ran

/-- A conversion of the graph to samples of its own, made of the conversion to C samples, with
what subscribers read of them. -/
structure SampleConversion (dds : Dds) where
  Sample : Type
  Answers : Type
  convertToSample : ConvertToSampleFn Sample Answers
  content : Sample → SampleContent
  throughC : ∀ {answers graph participant sample result},
    convertToSample answers graph participant sample = some (.ok, result) →
      ∃ env before after, graph.convertToSample dds env participant before = some (.ok, after) ∧
        content result = after.content

namespace SampleConversion

/-- `RTIROS2_CGraphSampleAdapter_convert_to_sample`. -/
def ofC (dds : Dds) : SampleConversion dds where
  Sample := ParticipantEntitiesInfo
  Answers := SampleEnv
  convertToSample := cGraphSampleAdapter dds
  content := (·.content)
  throughC := fun converted => ⟨_, _, _, converted, rfl⟩

/-- `RTIROS2_CppGraphSampleAdapter_convert_to_sample`. -/
def ofCpp (dds : Dds) : SampleConversion dds where
  Sample := CppPinfo
  Answers := CppSampleEnv
  convertToSample := cppGraphSampleAdapter dds
  content := (·.sample.content)
  throughC := by
    intro env graph participant pinfo result converted
    unfold cppGraphSampleAdapter at converted
    split at converted
    · simp at converted
    · split at converted
      · cases converted
      · next cSample made =>
        split at converted
        · cases converted
        · next sample copied =>
          cases converted
          exact ⟨_, _, _, made, copySample_true copied⟩
        · simp at converted
      · simp at converted

end SampleConversion

section

open CallSystem

variable {dds : Dds} {conversion : SampleConversion dds}
  {start sys : CallSystem conversion.Sample}
  {past : List (CallSystem conversion.Sample × CallStep conversion.Answers)}

/-- None of the events attaches a writer to an endpoint that is listed already. -/
def Unattached (dds : Dds) (graph : Graph) (events : List Event) : Prop :=
  Execution.Guarded (fun state event => ¬ event.Attaches dds state) (graph.history dds events)

/-- The sample advertises the directory at one position of its run. -/
def SampleConversion.AdvertisedAt (conversion : SampleConversion dds) (graph : Graph)
    (events : List Event) (records : List (Directory × Occurrence)) (directory : Directory)
    (position : Nat) (entry : DomainParticipant × conversion.Sample) : Prop :=
  ∃ now, (Execution.states records directory)[position]? = some now ∧
    now.Advertises dds (Unattached dds graph (events.take position)) entry.1
      (conversion.content entry.2)

theorem CallSystem.IsInitial.serialRun (initial : start.IsInitial) (events : List Event) :
    Graph.Run dds (start.system.graph.history dds events)
      (start.system.graph.after dds events) := by
  obtain ⟨⟨graph, _, _, first, same⟩, _⟩ := initial
  rw [same]
  exact @Graph.Run.history dds Graph.IsInitial [] _ (.start first) events

/-- A sample advertises the directory at the moment that it shows. -/
theorem ShowsMoment.advertised {records : List (Directory × Occurrence)} {directory : Directory}
    {moment : Nat} {entry : DomainParticipant × conversion.Sample}
    (shows : ShowsMoment dds conversion.convertToSample start past moment entry)
    (initial : start.IsInitial)
    (accompanies : directory.Accompanies dds start.system.graph (serialHistory past) records) :
    conversion.AdvertisedAt start.system.graph (serialHistory past) records directory
      (serialHistory (past.take moment)).length entry := by
  obtain ⟨answers, earlier, converted⟩ := shows.converted
  obtain ⟨env, before, after, made, same⟩ := conversion.throughC converted
  have whole : serialHistory past =
      serialHistory (past.take moment) ++ serialHistory (past.drop moment) := by
    rw [← serialHistory_append, List.take_append_drop]
  rw [whole] at accompanies ⊢
  obtain ⟨now, present, describes⟩ :=
    Execution.forall₂_getElem? accompanies.states (Graph.history_states _ _ _)
  have run : Graph.Run dds _ _ := initial.serialRun (serialHistory (past.take moment))
  refine ⟨now, present, ?_⟩
  rw [List.take_left, same]
  exact describes.advertised run.distinct run.numbered run.counted made

/-- Whatever callers do at the same time, in either API: there is one run of a directory, of
which their calls are the steps, in the order in which they take the mutex; and each sample
that is published advertises the directory at one position of it, none an earlier position
than the samples before it. -/
theorem samples_advertise_directory
    (run : CallSystem.RunFrom dds conversion.convertToSample start past sys)
    (initial : start.IsInitial) :
    ∃ records directory,
      Directory.Run dds start.system.graph.graphParticipant records directory ∧
      records.map (·.2) = (start.system.graph.history dds (serialHistory past)).map
        (fun visit => visit.2.occurrence dds visit.1) ∧
      ∃ positions : List Nat, positions.Pairwise (· ≤ ·) ∧
        List.Forall₂ (conversion.AdvertisedAt start.system.graph (serialHistory past) records
          directory) positions sys.system.published := by
  obtain ⟨records, directory, reached, accompanies⟩ := initial.accompanied past
  obtain ⟨moments, ascending, shown⟩ := samples_show_order run initial
  refine ⟨records, directory, reached, accompanies.labels,
    moments.map fun moment => (serialHistory (past.take moment)).length, ?_, ?_⟩
  · refine List.pairwise_map.mpr (ascending.imp fun before => ?_)
    exact ((List.take_prefix_take_left before).filterMap _).length_le
  · exact List.forall₂_map_left_iff.mpr
      (shown.imp fun moment entry shows => shows.advertised initial accompanies)

end

/-! A caller registers a node, and the update thread publishes it. -/

def advertisingRun (conversion : SampleConversion clientsDds) (pinfo : conversion.Sample)
    (answers : conversion.Answers) :
    List (CallSystem conversion.Sample × CallStep conversion.Answers) ×
      CallSystem conversion.Sample :=
  (CallSystem.started Duration.infinite pinfo).runOf clientsDds conversion.convertToSample
    ([.invoke 0 (.granting (.answering [] [])) (.perform registration), .other .testActive] ++
      List.replicate 26 (.advance 0) ++ [.answer 0 (.answer (.handle 0))] ++
      (updateSteps answers).map .other)

theorem samples_advertise_directory_registered :
    let start := Graph.initial ⟨0⟩ Duration.infinite
    let cRun := advertisingRun (.ofC clientsDds) ⟨default, .empty⟩ .granting
    let cppRun := advertisingRun (.ofCpp clientsDds) ⟨some default, default⟩ .granting
    (∃ records directory, Directory.Run clientsDds ⟨0⟩ records directory ∧
      records.map (·.2) =
        [.answered (.registerLocalNode (some firstName) none none) (.handle 0)] ∧
      ∃ positions : List Nat, positions.Pairwise (· ≤ ·) ∧
        List.Forall₂ ((SampleConversion.ofC clientsDds).AdvertisedAt start
          (CallSystem.serialHistory cRun.1) records directory) positions
          cRun.2.system.published) ∧
      cRun.2.system.published.map (·.2.content.nodes) =
        [[⟨some rootNamespace, some firstName, [], []⟩]] ∧
    (∃ records directory, Directory.Run clientsDds ⟨0⟩ records directory ∧
      records.map (·.2) =
        [.answered (.registerLocalNode (some firstName) none none) (.handle 0)] ∧
      ∃ positions : List Nat, positions.Pairwise (· ≤ ·) ∧
        List.Forall₂ ((SampleConversion.ofCpp clientsDds).AdvertisedAt start
          (CallSystem.serialHistory cppRun.1) records directory) positions
          cppRun.2.system.published) ∧
      cppRun.2.system.published.map (·.2.sample.content.nodes) =
        [[⟨some rootNamespace, some firstName, [], []⟩]] := by
  intro start cRun cppRun
  have inC : CallSystem.RunFrom clientsDds (SampleConversion.ofC clientsDds).convertToSample
      (.started Duration.infinite ⟨default, .empty⟩) cRun.1 cRun.2 := .ofReplay rfl
  have inCpp : CallSystem.RunFrom clientsDds (SampleConversion.ofCpp clientsDds).convertToSample
      (.started Duration.infinite ⟨some default, default⟩) cppRun.1 cppRun.2 := .ofReplay rfl
  exact ⟨samples_advertise_directory inC (CallSystem.started_initial _ _), by decide +kernel,
    samples_advertise_directory inCpp (CallSystem.started_initial _ _), by decide +kernel⟩

end Ros2Graph
