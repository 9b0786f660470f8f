import Ros2Graph.Registry.Counters

/-! Exclusive use of entities by the endpoints of one node. The check made by
registration looks for an endpoint that holds both entities at once, so a
client or a service may share just one of them. -/

set_option autoImplicit false

namespace Ros2Graph

open Foundation Relation

structure GraphNode.Exclusive (node : GraphNode) : Prop where
  reader : ∀ reader, node.endpoints.countP (GraphEndpoint.holdsReader reader) ≤ 1
  writer : ∀ writer, node.endpoints.countP (GraphEndpoint.holdsWriter writer) ≤ 1

private theorem countP_of_any {α : Type} {test : α → Bool} {items : List α}
    (none : items.any test = false) : items.countP test = 0 := by
  rw [List.countP_eq_zero]
  exact List.any_eq_false.mp none

private theorem countP_add_le {α : Type} {test : α → Bool} {items : List α} {added : α}
    (once : items.countP test ≤ 1) (free : test added = true → items.any test = false) :
    (items ++ [added]).countP test ≤ 1 := by
  rw [List.countP_append, List.countP_singleton]
  cases accepted : test added with
  | false => simpa using once
  | true =>
      rw [countP_of_any (free accepted)]
      simp

section

variable {dds : Dds} {env : CallEnv} {attaches : Prop} {node next : GraphNode}

theorem NodeChange.readerOnce (change : NodeChange dds attaches False node next)
    {reader : DataReader}
    (once : node.endpoints.countP (GraphEndpoint.holdsReader reader) ≤ 1) :
    next.endpoints.countP (GraphEndpoint.holdsReader reader) ≤ 1 := by
  cases change with
  | counter => exact once
  | @linked endp counter _ _ _ _ _ shared =>
      apply countP_add_le once
      intro holds
      exact (shared.resolve_right id).reader reader (beq_iff_eq.mp holds)
  | removed => exact (GraphNode.finalizeEndpoint_sublist _ _ _).countP_le.trans once
  | @attached dw ptr endp _ _ _ first _ =>
      obtain ⟨front, rest, split, rfl⟩ := split_at_position (locate_getElem? first)
      rw [split] at once
      simpa [split, List.countP_cons, GraphEndpoint.holdsReader] using once

theorem NodeChange.writerOnce (change : NodeChange dds attaches False node next)
    {writer : DataWriter}
    (once : node.endpoints.countP (GraphEndpoint.holdsWriter writer) ≤ 1) :
    next.endpoints.countP (GraphEndpoint.holdsWriter writer) ≤ 1 := by
  cases change with
  | counter => exact once
  | @linked endp counter _ _ _ _ _ shared =>
      apply countP_add_le once
      intro holds
      exact (shared.resolve_right id).writer writer (beq_iff_eq.mp holds)
  | removed => exact (GraphNode.finalizeEndpoint_sublist _ _ _).countP_le.trans once
  | @attached dw ptr endp _ unheld _ first vacant =>
      obtain ⟨front, rest, split, rfl⟩ := split_at_position (locate_getElem? first)
      by_cases same : dw = writer
      · -- the attached writer was not held by any endpoint
        subst same
        have absent : node.endpoints.countP (GraphEndpoint.holdsWriter dw) = 0 :=
          countP_of_any (by rw [← locate_isSome_eq_any, unheld]; rfl)
        simp only [split, List.countP_append, List.countP_cons] at absent
        simp only [split, set_at_split, List.countP_append, List.countP_cons,
          GraphEndpoint.holdsWriter, beq_self_eq_true, if_true] at absent ⊢
        omega
      · rw [split] at once
        simpa [split, List.countP_cons, GraphEndpoint.holdsWriter, vacant, same] using once

theorem nodeChanges_readerOnce (changes : ReflTransGen (NodeChange dds attaches False) node next)
    {reader : DataReader}
    (once : node.endpoints.countP (GraphEndpoint.holdsReader reader) ≤ 1) :
    next.endpoints.countP (GraphEndpoint.holdsReader reader) ≤ 1 :=
  nodeChanges_keep (fun _ _ held change => change.readerOnce held) once changes

theorem nodeChanges_writerOnce (changes : ReflTransGen (NodeChange dds attaches False) node next)
    {writer : DataWriter}
    (once : node.endpoints.countP (GraphEndpoint.holdsWriter writer) ≤ 1) :
    next.endpoints.countP (GraphEndpoint.holdsWriter writer) ≤ 1 :=
  nodeChanges_keep (fun _ _ held change => change.writerOnce held) once changes

end

namespace Operation

variable {dds : Dds} {env : CallEnv} {graph : Graph}

theorem registration_rejected {operation : Operation} {nodeHandle : NodeHandle}
    {endpType : EndpointType} {ddsReader : Option DataReader} {ddsWriter : Option DataWriter}
    {ptr : NodePtr} {node : GraphNode}
    (registers : operation.registration = some (nodeHandle, endpType, ddsReader, ddsWriter))
    (listed : graph.lookupLocalNodeByHandle nodeHandle = some (ptr, node))
    (inUse : ¬ node.Free ddsReader ddsWriter)
    (unshared : ¬ Event.Shares dds graph (.call env operation)) :
    (operation.perform dds env graph).result = .handle EndpointHandle.invalid ∧
      (operation.perform dds env graph).graph.nodes.map (·.endpoints) =
        graph.nodes.map (·.endpoints) := by
  have present := (Graph.lookup_node_found listed).1
  obtain ⟨front, rest, split, rfl⟩ := split_at_position present
  rw [perform_registration registers]
  unfold Graph.registerAndQueue Graph.registerLocalEndpoint
  simp only [listed]
  rcases @GraphNode.registerEndpoint_cases dds env graph.endpointsPool node endpType ddsReader
    ddsWriter with ⟨counter, failed⟩ | ⟨handle, counter, admitted, _, _, _, done⟩
  · rw [failed]
    exact ⟨rfl, by simp [Outcome.ofHandle, Graph.storeNode, split]⟩
  · exact absurd (.ofRegistered registers listed (by rw [done]; rfl) inUse) unshared

end Operation

/-- A registration that shares always leaves an entity held twice. -/
theorem Event.Shares.not_exclusive {dds : Dds} {graph : Graph} {event : Event}
    (shares : event.Shares dds graph) :
    ∃ node ∈ (graph.next dds event).nodes, ¬ node.Exclusive := by
  cases event with
  | poll env ptr => exact shares.elim
  | call env operation =>
      obtain ⟨nodeHandle, endpType, reader, writer, ptr, node, registers, listed, admitted, room,
        inUse⟩ := shares
      have present := (Graph.lookup_node_found listed).1
      have succeeded := GraphNode.registerEndpoint_isSome_iff.mpr ⟨admitted, room⟩
      rcases @GraphNode.registerEndpoint_cases dds env graph.endpointsPool node endpType
        (some reader) (some writer) with ⟨counter, failed⟩ | ⟨handle, counter, _, _, _, _, done⟩
      · rw [failed] at succeeded
        cases succeeded
      · have stored : (graph.next dds (.call env operation)).nodes =
            graph.nodes.set ptr ({ node with endpHandleNext := counter }.linkEndpoint
              ⟨handle, some reader, some writer, endpType⟩) := by
          simp only [Graph.next, Operation.perform_registration registers, Graph.registerAndQueue,
            Graph.registerLocalEndpoint, listed, done]
          rfl
        rw [stored]
        obtain ⟨inside, _⟩ := List.getElem?_eq_some_iff.mp present
        refine ⟨_, List.mem_set inside _, fun exclusive => inUse ⟨?_, ?_⟩⟩
        · intro used same
          cases same
          have once := exclusive.reader reader
          simp only [GraphNode.linkEndpoint, List.countP_append, List.countP_singleton,
            GraphEndpoint.holdsReader, beq_self_eq_true, if_true] at once
          exact List.any_eq_false.mpr (List.countP_eq_zero.mp (by omega))
        · intro used same
          cases same
          have once := exclusive.writer writer
          simp only [GraphNode.linkEndpoint, List.countP_append, List.countP_singleton,
            GraphEndpoint.holdsWriter, beq_self_eq_true, if_true] at once
          exact List.any_eq_false.mpr (List.countP_eq_zero.mp (by omega))

/-- In every run in which no client or service shares just one entity, entities
are held exclusively, and a registration that names one in use is rejected. -/
theorem entities_exclusive {dds : Dds} {graph : Graph} {past : List (Graph × Event)}
    (run : Graph.Run dds past graph)
    (unshared : Execution.Guarded (fun state event => ¬ event.Shares dds state) past) :
    (∀ node ∈ graph.nodes, node.Exclusive) ∧
      ∀ env operation nodeHandle endpType ddsReader ddsWriter ptr node,
        Operation.registration operation = some (nodeHandle, endpType, ddsReader, ddsWriter) →
        graph.lookupLocalNodeByHandle nodeHandle = some (ptr, node) →
        ¬ node.Free ddsReader ddsWriter → ¬ Event.Shares dds graph (.call env operation) →
        (operation.perform dds env graph).result = .handle EndpointHandle.invalid ∧
          (operation.perform dds env graph).graph.nodes.map (·.endpoints) =
            graph.nodes.map (·.endpoints) := by
  constructor
  · exact @Graph.Run.nodewise dds True False graph GraphNode.Exclusive
      (fun node blank => ⟨by simp [blank.endpoints], by simp [blank.endpoints]⟩)
      (fun _ _ held change => ⟨fun reader => change.readerOnce (held.reader reader),
        fun writer => change.writerOnce (held.writer writer)⟩) past run
      (fun visit member => ⟨fun _ => trivial, unshared visit member⟩)
  · intro env operation nodeHandle endpType ddsReader ddsWriter ptr node registers listed inUse
    exact Operation.registration_rejected registers listed inUse

theorem variedEvents_unshared :
    Execution.Guarded (fun state event => ¬ event.Shares variedDds state)
      ((Graph.initial ⟨0⟩ Duration.infinite).history variedDds variedEvents) := by
  unfold Execution.Guarded
  decide +kernel

/-- The client of the run cannot be registered a second time. -/
theorem entities_exclusive_inspected :
    ∃ node ∈ ((Graph.initial ⟨0⟩ Duration.infinite).after variedDds variedEvents).nodes,
      node.endpoints.length = 4 ∧ node.Exclusive ∧
        (Operation.perform variedDds (.granting (.answering [] []))
          ((Graph.initial ⟨0⟩ Duration.infinite).after variedDds variedEvents)
          (.registerLocalClient 0 (some ⟨1⟩) (some ⟨2⟩))).result =
            .handle EndpointHandle.invalid := by
  have run := Graph.Run.ofInitial variedDds ⟨0⟩ Duration.infinite variedEvents
  obtain ⟨exclusive, rejected⟩ := entities_exclusive run variedEvents_unshared
  refine ⟨_, List.mem_cons_self, by decide +kernel, exclusive _ List.mem_cons_self, ?_⟩
  exact (rejected (.granting (.answering [] [])) _ _ _ _ _ 0 _ rfl rfl
    (GraphNode.not_free_pair.mpr (by decide +kernel)) (by decide +kernel)).1

def sharingEvents : List Event :=
  [.call (.granting (.answering [] []))
      (.registerLocalNode (some firstName) none none),
    .call (.granting (.answering [] [])) (.registerLocalClient 0 (some ⟨1⟩) (some ⟨2⟩)),
    .call (.granting (.answering [] [])) (.registerLocalClient 0 (some ⟨1⟩) (some ⟨3⟩))]

theorem reader_held_by_two_clients :
    ¬ ∀ (dds : Dds) (past : List (Graph × Event)) (graph : Graph), Graph.Run dds past graph →
      ∀ node ∈ graph.nodes, node.Exclusive := by
  intro exclusive
  obtain ⟨past, run, _⟩ := Graph.Run.replay
    (.onTopics (fun _ => topicPrefixResponse) (fun _ => topicPrefixRequest)) ⟨0⟩
    Duration.infinite sharingEvents
  have once := (exclusive _ _ _ run _ List.mem_cons_self).reader ⟨1⟩
  revert once
  decide

end Ros2Graph
