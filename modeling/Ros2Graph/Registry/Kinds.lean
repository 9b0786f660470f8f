import Ros2Graph.Registry.Counters

/-! The kind of an endpoint against the topics of its two sides. Registration
checks both; only an attachment by an inspection brings them apart. -/

set_option autoImplicit false

namespace Ros2Graph

open Foundation

/-- The type is known, has an entity, and is the kind of the topic of each. -/
structure GraphEndpoint.KindConsistent (dds : Dds) (endp : GraphEndpoint) : Prop where
  known : endp.endpType ≠ .unknown
  readerKind : ∀ reader ∈ endp.ddsReader,
    detectEndpointType (dds.readerTopicName reader) false = endp.endpType
  writerKind : ∀ writer ∈ endp.ddsWriter,
    detectEndpointType (dds.writerTopicName writer) true = endp.endpType
  sided : endp.ddsReader.isSome = true ∨ endp.ddsWriter.isSome = true

def GraphNode.KindConsistent (dds : Dds) (node : GraphNode) : Prop :=
  ∀ endp ∈ node.endpoints, endp.KindConsistent dds

/-- Both sides of the endpoint are on one service topic. -/
def GraphEndpoint.Mixed (dds : Dds) (endp : GraphEndpoint) : Prop :=
  ∃ reader writer, endp.ddsReader = some reader ∧ endp.ddsWriter = some writer ∧
    dds.readerTopicName reader = dds.writerTopicName writer ∧
    isServiceTopic (dds.writerTopicName writer) = true

section

variable {dds : Dds} {env : CallEnv} {shares : Prop}

theorem NodeChange.kindConsistent {node next : GraphNode}
    (change : NodeChange dds False shares node next) (consistent : node.KindConsistent dds) :
    next.KindConsistent dds := by
  apply change.endpointwise _ _ consistent
  · intro endp admitted known sided _
    exact ⟨known, admitted.readerKind, admitted.writerKind, sided⟩
  · intro impossible
    exact impossible.elim

theorem GraphEndpoint.Mixed.not_kindConsistent {endp : GraphEndpoint} (mixed : endp.Mixed dds) :
    ¬ endp.KindConsistent dds := by
  intro consistent
  obtain ⟨reader, writer, readerEq, writerEq, sameTopic, service⟩ := mixed
  have readerKind := consistent.readerKind reader readerEq
  have writerKind := consistent.writerKind writer writerEq
  rw [sameTopic, ← writerKind] at readerKind
  exact detect_sides_differ _ (conforming_of_service service).2 readerKind.symm

theorem VisitChange.attach_mixed {node left : GraphNode}
    (change : VisitChange dds node .attach left) : ∃ endp ∈ left.endpoints, endp.Mixed dds := by
  cases change with
  | kept unattached => exact absurd rfl unattached
  | @attached dw ptr endp _ service first vacant =>
      obtain ⟨front, rest, split, rfl⟩ := split_at_position (locate_getElem? first)
      have onTopic := (locate_mem first).2
      cases reader : endp.ddsReader with
      | none => simp [GraphEndpoint.readsTopic, reader] at onTopic
      | some dr =>
          refine ⟨{ endp with ddsWriter := some dw }, by simp [split, reader], dr, dw, reader, rfl, ?_,
            service⟩
          simpa [GraphEndpoint.readsTopic, reader] using onTopic

theorem VisitChange.mixed {node left : GraphNode} {action : Action}
    (change : VisitChange dds node action left)
    (mixed : ∃ endp ∈ node.endpoints, endp.Mixed dds) :
    ∃ endp ∈ left.endpoints, endp.Mixed dds := by
  obtain ⟨endp, listed, isMixed⟩ := mixed
  cases change with
  | kept => exact ⟨endp, listed, isMixed⟩
  | linked => exact ⟨endp, List.mem_append_left _ listed, isMixed⟩
  | @attached dw ptr found _ _ first vacant =>
      obtain ⟨front, rest, split, rfl⟩ := split_at_position (locate_getElem? first)
      refine ⟨endp, ?_, isMixed⟩
      rw [split] at listed
      simp only [split, set_at_split, List.mem_append, List.mem_cons] at listed ⊢
      rcases listed with earlier | rfl | later
      · exact .inl earlier
      · obtain ⟨_, writer, _, writerEq, _⟩ := isMixed
        exact absurd (vacant.symm.trans writerEq) (by simp)
      · exact .inr (.inr later)

theorem VisitedAll.mixed {scope left : Scope} {visits : List Visit} {actions : List Action}
    {continues : Bool} (effects : VisitedAll dds env scope visits actions continues left)
    (mixed : (∃ endp ∈ scope.node.endpoints, endp.Mixed dds) ∨ .attach ∈ actions) :
    ∃ endp ∈ left.node.endpoints, endp.Mixed dds := by
  induction effects with
  | nil => exact mixed.resolve_right List.not_mem_nil
  | stop effect =>
      rcases mixed with already | here
      · exact effect.nodeChange.mixed already
      · cases List.mem_singleton.mp here
        exact effect.nodeChange.attach_mixed
  | next effect _ ih =>
      rcases mixed with already | member
      · exact ih (.inl (effect.nodeChange.mixed already))
      · rcases List.mem_cons.mp member with rfl | later
        · exact ih (.inl effect.nodeChange.attach_mixed)
        · exact ih (.inr later)

end

/-- An event that attaches always leaves a mixed endpoint behind. -/
theorem Event.Attaches.mixed {dds : Dds} {graph : Graph} {event : Event}
    (distinct : graph.HandlesDistinct) (attaches : event.Attaches dds graph) :
    ∃ node ∈ (graph.next dds event).nodes, ∃ endp ∈ node.endpoints, endp.Mixed dds := by
  have inspected : ∀ {env ptr node}, graph.nodes[ptr]? = some node →
      (graph.inspectionPlan dds env node).attached = true →
      ∃ left ∈ (graph.inspectLocalNodeEA dds env ptr).1.nodes,
        ∃ endp ∈ left.endpoints, endp.Mixed dds := by
    intro env ptr node present attached
    obtain ⟨actions, left, effects, planned, ended⟩ :=
      @Graph.inspectLocalNodeEA_planned dds env graph ptr node distinct present
    rw [ended]
    exact ⟨left.node, List.mem_of_getElem? (Graph.storeNode_getElem? present left.pool left.node),
      effects.mixed (.inr (planned.attaches.mpr attached))⟩
  unfold Event.Attaches at attaches
  split at attaches
  · next env nodeHandle =>
    obtain ⟨ptr, node, found, attached⟩ := attaches
    have unfolded : graph.next dds (.call env (.inspectLocalNode nodeHandle)) =
        (graph.inspectLocalNodeEA dds env ptr).1 := Graph.inspectLocalNode_graph found
    rw [unfolded]
    exact inspected (Graph.lookup_node_found found).1 attached
  · exact attaches.elim
  · obtain ⟨node, present, attached⟩ := attaches
    exact inspected present attached

/-- In every run without attachments no endpoint mixes kinds. -/
theorem kinds_consistent {dds : Dds} {graph : Graph} {past : List (Graph × Event)}
    (run : Graph.Run dds past graph)
    (unattached : Execution.Guarded (fun state event => ¬ event.Attaches dds state) past) :
    ∀ node ∈ graph.nodes, ∀ endp ∈ node.endpoints, endp.KindConsistent dds :=
  @Graph.Run.nodewise dds False True graph (GraphNode.KindConsistent dds)
    (fun node blank => by simp [GraphNode.KindConsistent, blank.endpoints])
    (fun _ _ held change => change.kindConsistent held) past run
    (fun visit member => ⟨unattached visit member, fun _ => trivial⟩)

theorem kinds_consistent_inspected :
    ∃ node ∈ ((Graph.initial ⟨0⟩ Duration.infinite).after variedDds variedEvents).nodes,
      node.endpoints.map (·.endpType) = [.client, .service, .publisher, .subscription] ∧
        ∀ endp ∈ node.endpoints, endp.KindConsistent variedDds := by
  have run := Graph.Run.ofInitial variedDds ⟨0⟩ Duration.infinite variedEvents
  exact ⟨_, List.mem_cons_self, by decide +kernel,
    kinds_consistent run variedEvents_unattached _ List.mem_cons_self⟩

/-- The writer of a client ends in the endpoint of a service. -/
theorem kinds_mixed_after_attachment :
    ¬ ∀ (dds : Dds) (past : List (Graph × Event)) (graph : Graph), Graph.Run dds past graph →
      ∀ node ∈ graph.nodes, ∀ endp ∈ node.endpoints, endp.KindConsistent dds := by
  intro consistent
  obtain ⟨past, run, _⟩ := Graph.Run.replay
    (.onTopics (fun _ => requestTopic) (fun _ => requestTopic)) ⟨0⟩ Duration.infinite
    attachingEvents
  have kind := (consistent _ _ _ run _ List.mem_cons_self _ List.mem_cons_self).writerKind ⟨2⟩ rfl
  revert kind
  decide

end Ros2Graph
