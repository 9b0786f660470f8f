import Ros2Graph.Foundation.FirstAppearance
import Ros2Graph.Registry.Advertised
import Ros2Graph.Sample.NodeFidelity

/-! Conversion of the registry to the sample of one participant, and the
participants that an update is published for. -/

set_option autoImplicit false

namespace Ros2Graph

open Foundation

/-- `RTIROS2_ParticipantEntitiesInfo`. -/
structure ParticipantEntitiesInfo where
  gid : Gid
  nodeEntitiesInfoSeq : ReusedSeq NodeEntitiesInfo

instance : Inhabited ParticipantEntitiesInfo := ⟨⟨default, .empty⟩⟩

def ParticipantEntitiesInfo.nodeNames (sample : ParticipantEntitiesInfo) :
    List (Option CString × Option CString) :=
  sample.nodeEntitiesInfoSeq.toList.map fun info => (info.nodeName, info.nodeNamespace)

/-- What the libraries answer during one conversion of a participant: for its
sequence of nodes, and for each node by its place in that sequence. -/
structure SampleEnv where
  nodeInfos : Bool
  node : Nat → NodeSampleEnv

def NodeSampleEnv.granting : NodeSampleEnv := ⟨true, true, true, true⟩

def SampleEnv.granting : SampleEnv := ⟨true, fun _ => .granting⟩

namespace Graph

/-- The loop over the nodes, from `node_i`. Nodes of other participants are
passed over; `none` stands for a write through a NULL reference. -/
def fillNodeInfos (dds : Dds) (env : SampleEnv) (ddsParticipant : DomainParticipant) :
    List GraphNode → Nat → ReusedSeq NodeEntitiesInfo →
      Option (ReturnCode × Nat × ReusedSeq NodeEntitiesInfo)
  | [], nodeI, infos => some (.ok, nodeI, infos)
  | node :: rest, nodeI, infos =>
    if node.ddsParticipant == ddsParticipant then
      match infos.getReference nodeI with
      | none => none
      | some nsample =>
        match node.nodeToSample dds (env.node nodeI) nsample with
        | none => none
        | some (.ok, nsample) =>
          fillNodeInfos dds env ddsParticipant rest (nodeI + 1) (infos.write nodeI nsample)
        | some (_, nsample) => some (.error, nodeI, infos.write nodeI nsample)
    else fillNodeInfos dds env ddsParticipant rest nodeI infos

/-- `RTIROS2_CGraphSampleAdapter_convert_to_sample`. The sample is returned as
the conversion left it, also when it failed. -/
def convertToSample (dds : Dds) (env : SampleEnv) (graph : Graph)
    (ddsParticipant : DomainParticipant) (sample : ParticipantEntitiesInfo) :
    Option (ReturnCode × ParticipantEntitiesInfo) :=
  let sample := { sample with gid := ihToGid (dds.participantInstanceHandle ddsParticipant) }
  let nodesLen := graph.nodesLen.toNat
  match sample.nodeEntitiesInfoSeq.ensureLength env.nodeInfos nodesLen nodesLen with
  | none => some (.error, sample)
  | some infos =>
    match fillNodeInfos dds env ddsParticipant graph.nodes 0 infos with
    | none => none
    | some (.ok, nodeI, infos) =>
      match infos.setLength nodeI with
      | none => some (.error, { sample with nodeEntitiesInfoSeq := infos })
      | some infos => some (.ok, { sample with nodeEntitiesInfoSeq := infos })
    | some (_, _, infos) => some (.error, { sample with nodeEntitiesInfoSeq := infos })

def appendParticipant (granted : Bool) (participants : ReusedSeq DomainParticipant)
    (participant : DomainParticipant) : Option (ReusedSeq DomainParticipant) :=
  if participants.toList.contains participant then some participants
  else
    let seqLen := participants.length
    (participants.ensureLength granted (seqLen + 1) (seqLen + 1)).map
      (·.write seqLen participant)

/-- The loop of the gathering. The sequence is returned as it was left. -/
def appendParticipants (granted : Nat → Bool) :
    List GraphNode → ReusedSeq DomainParticipant → ReturnCode × ReusedSeq DomainParticipant
  | [], participants => (.ok, participants)
  | node :: rest, participants =>
    match appendParticipant (granted participants.length) participants node.ddsParticipant with
    | none => (.error, participants)
    | some participants => appendParticipants granted rest participants

/-- `granted` answers the allocations by the length the sequence has then. -/
def gatherDomainParticipants (granted : Nat → Bool) (graph : Graph)
    (participants : ReusedSeq DomainParticipant) : ReturnCode × ReusedSeq DomainParticipant :=
  match participants.setLength 0 with
  | none => (.error, participants)
  | some participants => appendParticipants granted graph.nodes participants

def Owns (graph : Graph) (participant : DomainParticipant) : Prop :=
  ∃ node ∈ graph.nodes, node.ddsParticipant = participant

variable {graph : Graph} {participant : DomainParticipant}

theorem owns_iff : graph.Owns participant ↔ graph.advertised participant ≠ [] := by
  unfold Owns advertised
  rw [Ne, List.map_eq_nil_iff, List.filter_eq_nil_iff]
  simp

end Graph

section

variable {dds : Dds} {env : SampleEnv} {participant : DomainParticipant}

/-- The slots that the loop fills show the nodes of the participant, in order,
and the slots before them are left alone. `view` reads of a slot what every
conversion of a node writes there anew. -/
theorem fillNodeInfos_view {View : Type} {view : NodeEntitiesInfo → View}
    {expected : GraphNode → View}
    (agrees : ∀ {nodeEnv : NodeSampleEnv} {node : GraphNode} {nsample written : NodeEntitiesInfo},
      node.nodeToSample dds nodeEnv nsample = some (.ok, written) → view written = expected node)
    {nodes : List GraphNode} {nodeI last : Nat} {infos filled : ReusedSeq NodeEntitiesInfo}
    (ran : Graph.fillNodeInfos dds env participant nodes nodeI infos =
      some (.ok, last, filled)) :
    ((List.range' nodeI (last - nodeI)).map fun index => view (filled.slot index)) =
      (nodes.filter (·.ddsParticipant == participant)).map expected ∧
      nodeI ≤ last ∧ ∀ index, index < nodeI → filled.slot index = infos.slot index := by
  induction nodes generalizing nodeI infos with
  | nil =>
      cases ran
      simp
  | cons node rest ih =>
      unfold Graph.fillNodeInfos at ran
      cases own : node.ddsParticipant == participant with
      | false =>
          simp only [own, Bool.false_eq_true, if_false] at ran
          simpa [own] using ih ran
      | true =>
          simp only [own, if_true] at ran
          split at ran
          · cases ran
          · next nsample _ =>
            split at ran
            · cases ran
            · next written converted =>
              obtain ⟨shown, further, kept⟩ := ih ran
              have here : filled.slot nodeI = written := by
                rw [kept nodeI (Nat.lt_succ_self nodeI), ReusedSeq.write_slot_self]
              have count : last - nodeI = (last - (nodeI + 1)) + 1 := by omega
              refine ⟨?_, by omega, ?_⟩
              · rw [count, List.range'_succ, List.map_cons, shown, here, agrees converted]
                simp [own]
              · intro index before
                rw [kept index (Nat.lt_succ_of_lt before),
                  ReusedSeq.write_slot_ne _ _ (Nat.ne_of_lt before)]
            · cases ran

theorem convertToSample_view {View : Type} {view : NodeEntitiesInfo → View}
    {expected : GraphNode → View}
    (agrees : ∀ {nodeEnv : NodeSampleEnv} {node : GraphNode} {nsample written : NodeEntitiesInfo},
      node.nodeToSample dds nodeEnv nsample = some (.ok, written) → view written = expected node)
    {graph : Graph} {sample result : ParticipantEntitiesInfo}
    (converted : graph.convertToSample dds env participant sample = some (.ok, result)) :
    result.gid = ihToGid (dds.participantInstanceHandle participant) ∧
      result.nodeEntitiesInfoSeq.toList.map view =
        (graph.nodes.filter (·.ddsParticipant == participant)).map expected := by
  unfold Graph.convertToSample at converted
  dsimp only at converted
  split at converted
  · simp at converted
  · split at converted
    · simp at converted
    · next nodeI filled ran =>
      split at converted
      · simp at converted
      · next trimmed sized =>
        obtain ⟨_, rfl⟩ := Prod.mk.inj (Option.some.inj converted)
        obtain ⟨length, slots⟩ := ReusedSeq.setLength_eq_some sized
        obtain ⟨shown, _, _⟩ := fillNodeInfos_view agrees ran
        refine ⟨rfl, ?_⟩
        unfold ReusedSeq.toList
        rw [List.map_map, length, slots, List.range_eq_range']
        exact shown
    · simp at converted

theorem convertToSample_nodeNames {graph : Graph} {sample result : ParticipantEntitiesInfo}
    (converted : graph.convertToSample dds env participant sample = some (.ok, result)) :
    result.nodeNames =
      (graph.advertised participant).map fun node => (node.nodeName, node.nodeNamespace) := by
  have named : ∀ {nodeEnv : NodeSampleEnv} {node : GraphNode}
      {nsample written : NodeEntitiesInfo},
      node.nodeToSample dds nodeEnv nsample = some (.ok, written) →
        (written.nodeName, written.nodeNamespace) = (node.nodeName, node.nodeNamespace) := by
    intro nodeEnv node nsample written ran
    obtain ⟨nodeName, nodeNamespace, _⟩ := GraphNode.nodeToSample_ok ran
    rw [nodeName, nodeNamespace]
  have shown := (convertToSample_view named converted).2
  unfold ParticipantEntitiesInfo.nodeNames Graph.advertised
  rw [List.map_map]
  exact shown

def NodeView.asNode (view : NodeView) (ddsParticipant : DomainParticipant) : GraphNode where
  handle := 0
  endpoints := view.endpoints.map fun sides => ⟨0, sides.1, sides.2, .unknown⟩
  endpointsLen := 0
  writersLen := view.writersLen
  readersLen := view.readersLen
  endpHandleNext := 0
  nodeName := view.nodeName
  nodeNamespace := view.nodeNamespace
  ddsParticipant := ddsParticipant

theorem nodeToSample_asNode (node : GraphNode) (nodeEnv : NodeSampleEnv)
    (sample : NodeEntitiesInfo) :
    (node.view.asNode participant).nodeToSample dds nodeEnv sample =
      node.nodeToSample dds nodeEnv sample := by
  have visited : ∀ cursor, (node.view.asNode participant).endpoints.foldlM
      (GidCursor.visitEndpoint dds) cursor =
        node.endpoints.foldlM (GidCursor.visitEndpoint dds) cursor := by
    intro cursor
    simp only [NodeView.asNode, GraphNode.view, List.map_map, List.foldlM_map]
    rfl
  unfold GraphNode.nodeToSample
  simp only [visited]
  rfl

theorem fillNodeInfos_asNodes (nodes : List GraphNode) :
    Graph.fillNodeInfos dds env participant nodes =
      Graph.fillNodeInfos dds env participant
        ((nodes.filter (·.ddsParticipant == participant)).map
          fun node => node.view.asNode participant) := by
  induction nodes with
  | nil => rfl
  | cons node rest ih =>
      funext nodeI infos
      cases own : node.ddsParticipant == participant with
      | false =>
          simp only [List.filter_cons, own, Bool.false_eq_true, if_false, ← ih]
          simp [Graph.fillNodeInfos, own]
      | true =>
          have same : ((node.view.asNode participant).ddsParticipant == participant) = true :=
            beq_self_eq_true participant
          simp only [List.filter_cons, own, if_true, List.map_cons]
          simp only [Graph.fillNodeInfos, own, same, if_true, nodeToSample_asNode, ih]

/-- Conversion reads of the registry what it advertises for the participant and
how many nodes it has. -/
theorem convertToSample_congr {graph other : Graph}
    (same : other.advertised participant = graph.advertised participant)
    (count : other.nodesLen = graph.nodesLen) (sample : ParticipantEntitiesInfo) :
    other.convertToSample dds env participant sample =
      graph.convertToSample dds env participant sample := by
  have asNodes : ∀ registry : Graph, Graph.fillNodeInfos dds env participant registry.nodes =
      Graph.fillNodeInfos dds env participant
        ((registry.advertised participant).map (·.asNode participant)) := by
    intro registry
    rw [fillNodeInfos_asNodes, Graph.advertised, List.map_map]
    rfl
  unfold Graph.convertToSample
  rw [asNodes other, asNodes graph, same, count]

theorem appendParticipant_toList {granted : Bool}
    {participants result : ReusedSeq DomainParticipant}
    (appended : Graph.appendParticipant granted participants participant = some result) :
    result.toList = if participants.toList.contains participant then participants.toList
      else participants.toList ++ [participant] := by
  unfold Graph.appendParticipant at appended
  split at appended
  · next present =>
    cases appended
    rw [if_pos present]
  · next absent =>
    obtain ⟨grown, sized, rfl⟩ := Option.map_eq_some_iff.mp appended
    obtain ⟨length, slots⟩ := ReusedSeq.ensureLength_eq_some sized
    rw [if_neg absent]
    unfold ReusedSeq.toList
    rw [ReusedSeq.write_length, length, List.range_succ, List.map_append]
    simp only [List.map_cons, List.map_nil, ReusedSeq.write_slot_self, List.append_cancel_right_eq]
    apply List.map_congr_left
    intro index inside
    rw [ReusedSeq.write_slot_ne _ _ (Nat.ne_of_lt (List.mem_range.mp inside)), slots]

theorem appendParticipants_toList {granted : Nat → Bool} {nodes : List GraphNode}
    {seen : List DomainParticipant} {participants result : ReusedSeq DomainParticipant}
    (before : participants.toList = seen.eraseDups)
    (appended : Graph.appendParticipants granted nodes participants = (.ok, result)) :
    result.toList = (seen ++ nodes.map (·.ddsParticipant)).eraseDups := by
  induction nodes generalizing participants seen with
  | nil =>
      cases appended
      simpa using before
  | cons node rest ih =>
      unfold Graph.appendParticipants at appended
      split at appended
      · cases appended
      · next grown one =>
        have extended : grown.toList = (seen ++ [node.ddsParticipant]).eraseDups := by
          rw [appendParticipant_toList one, before, eraseDups_contains, eraseDups_concat]
        rw [ih extended appended, List.append_assoc]
        rfl

/-- The participants gathered are those of the nodes, each where it appears first. -/
theorem gathered_toList {graph : Graph} {granted : Nat → Bool}
    {participants result : ReusedSeq DomainParticipant}
    (gathered : graph.gatherDomainParticipants granted participants = (.ok, result)) :
    result.toList = (graph.nodes.map (·.ddsParticipant)).eraseDups := by
  unfold Graph.gatherDomainParticipants at gathered
  split at gathered
  · cases gathered
  · next cleared sized =>
    have empty : cleared.toList = ([] : List DomainParticipant).eraseDups := by
      simp [ReusedSeq.toList, (ReusedSeq.setLength_eq_some sized).1]
    exact appendParticipants_toList empty gathered

theorem mem_gathered_iff {graph : Graph} {granted : Nat → Bool}
    {participants result : ReusedSeq DomainParticipant}
    (gathered : graph.gatherDomainParticipants granted participants = (.ok, result)) :
    participant ∈ result.toList ↔ graph.Owns participant := by
  rw [gathered_toList gathered, List.mem_eraseDups, List.mem_map]
  rfl

theorem gather_granted (graph : Graph) (participants : ReusedSeq DomainParticipant) :
    (graph.gatherDomainParticipants (fun _ => true) participants).1 = .ok := by
  have appends : ∀ (nodes : List GraphNode) (before : ReusedSeq DomainParticipant),
      (Graph.appendParticipants (fun _ => true) nodes before).1 = .ok := by
    intro nodes
    induction nodes with
    | nil => exact fun _ => rfl
    | cons node rest ih =>
        intro before
        unfold Graph.appendParticipants Graph.appendParticipant
        split
        · next refused =>
          split at refused
          · cases refused
          · obtain ⟨grown, sized⟩ :=
              before.ensureLength_granted (before.length + 1) (before.length + 1)
            simp [sized] at refused
        · exact ih _
  unfold Graph.gatherDomainParticipants ReusedSeq.setLength
  exact appends _ _

end

end Ros2Graph
