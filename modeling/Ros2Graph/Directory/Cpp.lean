import Ros2Graph.Cpp.Queries
import Ros2Graph.Cpp.Simulation
import Ros2Graph.Directory.Refinement

/-! The C++ API on the same directory, from the constructor on: its operations throw where the
directory refuses, and its questions throw where it has no answer. -/

set_option autoImplicit false

namespace Ros2Graph

open Foundation

/-- What a question comes to, from the entries of the directory. -/
def Directory.reply (directory : Directory) : CppQuery → CppReply
  | .getNodeParticipant nodeHandle =>
      match directory.nodes nodeHandle with
      | none => .thrown (.error "failed to get node participant")
      | some node => .participant node.ddsParticipant
  | .getNodeName nodeHandle nameOut namespaceOut =>
      match directory.nodes nodeHandle with
      | none => .thrown (.error "failed to get node name")
      | some node =>
        if nameOut.isNone && namespaceOut.isNone then .thrown (.error "failed to get node name")
        else .names (nameOut.map fun _ => some node.nodeName)
          (namespaceOut.map fun _ => some node.nodeNamespace)
  | .getEndpointReader nodeHandle endpHandle =>
      .reader ((directory.endpointAt nodeHandle endpHandle).bind (·.ddsReader))
  | .getEndpointWriter nodeHandle endpHandle =>
      .writer ((directory.endpointAt nodeHandle endpHandle).bind (·.ddsWriter))
  | .getEndpointType nodeHandle endpHandle =>
      .endpointType (((directory.endpointAt nodeHandle endpHandle).map
        fun endp => .fromC endp.endpType).getD .unknown)

/-- The C++ graph answers every question as the directory does. -/
def CppGraph.RepliesAs (graph : CppGraph) (directory : Directory) : Prop :=
  ∀ query, graph.reply query = directory.reply query

theorem Directory.Describes.replies {graph : CppGraph} {directory : Directory}
    (describes : directory.Describes graph.cGraph.registry) : graph.RepliesAs directory := by
  intro query
  cases query with
  | getNodeParticipant nodeHandle =>
      simp only [CppGraph.reply, CppGraph.getNodeParticipant, describes.getNodeParticipant,
        Directory.reply]
      cases directory.nodes nodeHandle <;> rfl
  | getNodeName nodeHandle nameOut namespaceOut =>
      simp only [CppGraph.reply, CppGraph.getNodeName, describes.getNodeName, Directory.reply]
      cases nameOut.isNone && namespaceOut.isNone with
      | true => cases directory.nodes nodeHandle <;> rfl
      | false => cases directory.nodes nodeHandle <;> rfl
  | getEndpointReader nodeHandle endpHandle =>
      simp only [CppGraph.reply, CppGraph.getEndpointReader, describes.getEndpointReader,
        Directory.reply]
      cases (directory.endpointAt nodeHandle endpHandle).bind (·.ddsReader) <;> rfl
  | getEndpointWriter nodeHandle endpHandle =>
      simp only [CppGraph.reply, CppGraph.getEndpointWriter, describes.getEndpointWriter,
        Directory.reply]
      cases (directory.endpointAt nodeHandle endpHandle).bind (·.ddsWriter) <;> rfl
  | getEndpointType nodeHandle endpHandle =>
      simp only [CppGraph.reply, CppGraph.getEndpointType, describes.getEndpointType,
        Directory.reply]
      cases directory.endpointAt nodeHandle endpHandle <;> rfl

/-! Runs of a C++ graph. -/

/-- A call, or the inspection of one node by the update thread. -/
inductive CppEvent where
  | call (env : CallEnv) (operation : CppOperation)
  | poll (env : CallEnv) (ptr : NodePtr)

namespace CppGraph

def withRegistry (graph : CppGraph) (registry : Graph) : CppGraph :=
  { graph with cGraph := { graph.cGraph with registry } }

def next (dds : Dds) (graph : CppGraph) : CppEvent → CppGraph
  | .call env operation => graph.withRegistry (operation.perform dds env graph).graph
  | .poll env ptr => graph.withRegistry (graph.cGraph.registry.inspectLocalNodeEA dds env ptr).1

abbrev RunFrom (dds : Dds) (created : CppGraph) :
    List (CppGraph × CppEvent) → CppGraph → Prop :=
  Execution (fun graph => graph = created) fun graph event next => next = graph.next dds event

end CppGraph

/-- The occurrence is what callers see of the event: the operation that it is in C, and an
answer that says the same. -/
def CppEvent.ShownBy (dds : Dds) (graph : CppGraph) : CppEvent → Occurrence → Prop
  | .call env operation, .answered inC answer =>
      inC = operation.inC ∧ SameAnswer answer (operation.perform dds env graph).result
  | .poll _ _, .polled => True
  | _, _ => False

/-- The same event on the C graph. -/
def CppEvent.inC : CppEvent → Event
  | .call env operation => .call env operation.inC
  | .poll env ptr => .poll env ptr

namespace CppGraph

/-- The C graph of a C++ graph is a graph of the C API, with the same participant. -/
structure Wraps (dds : Dds) (graphParticipant : DomainParticipant) (graph : CppGraph) : Prop where
  reachable : graph.cGraph.registry.Reachable dds
  inC : graph.cGraph.registry.graphParticipant = graphParticipant
  own : graph.graphParticipant = graphParticipant

section

variable {dds : Dds} {graphParticipant : DomainParticipant} {graph : CppGraph}

theorem Wraps.next_registry (wraps : graph.Wraps dds graphParticipant) (event : CppEvent) :
    (graph.next dds event).cGraph.registry = graph.cGraph.registry.next dds event.inC := by
  cases event with
  | poll env ptr => rfl
  | call env operation =>
      exact (CppOperation.perform_inC (wraps.inC.trans wraps.own.symm) operation).1

theorem Wraps.next (wraps : graph.Wraps dds graphParticipant) (event : CppEvent) :
    (graph.next dds event).Wraps dds graphParticipant := by
  obtain ⟨past, run⟩ := wraps.reachable
  have onward : Graph.Run dds (past ++ [(graph.cGraph.registry, event.inC)])
      (graph.cGraph.registry.next dds event.inC) := run.extend rfl
  have participants := (Graph.Run.accounted onward).2 (graph.cGraph.registry, event.inC) (by simp)
  refine ⟨?_, ?_, ?_⟩
  · rw [wraps.next_registry]
    exact ⟨_, onward⟩
  · rw [wraps.next_registry]
    exact participants.symm.trans wraps.inC
  · cases event <;> exact wraps.own

theorem Wraps.shown (wraps : graph.Wraps dds graphParticipant) (event : CppEvent) :
    event.ShownBy dds graph (event.inC.occurrence dds graph.cGraph.registry) := by
  cases event with
  | poll env ptr => trivial
  | call env operation =>
      exact ⟨rfl, (CppOperation.perform_inC (wraps.inC.trans wraps.own.symm) operation).2⟩

theorem Wraps.describes_next (wraps : graph.Wraps dds graphParticipant) {directory : Directory}
    (describes : directory.Describes graph.cGraph.registry) (event : CppEvent) :
    ∃ next, Directory.Step dds graphParticipant directory
        (event.inC.occurrence dds graph.cGraph.registry) next ∧
      next.Describes (graph.next dds event).cGraph.registry := by
  obtain ⟨past, run⟩ := wraps.reachable
  rw [wraps.next_registry, ← wraps.inC]
  exact describes.next (Graph.Run.distinct run) (Graph.Run.numbered run) event.inC

end

end CppGraph

/-- From its constructor on, a C++ graph is a directory that starts empty: each operation is
a step of it, with the handle, the return or the exception that it answers with, and at every
point each question returns, or throws, what the directory says there. -/
theorem cpp_graph_implements_directory {dds : Dds} {env : CreationEnv}
    {properties : CppGraphProperties} {created graph : CppGraph}
    {past : List (CppGraph × CppEvent)} (isNew : CppGraph.new env properties = .ok created)
    (run : CppGraph.RunFrom dds created past graph) :
    ∃ records directory, Directory.Run dds created.graphParticipant records directory ∧
      List.Forall₂ (fun visit record => visit.2.ShownBy dds visit.1 record.2) past records ∧
      List.Forall₂ CppGraph.RepliesAs (Execution.states past graph)
        (Execution.states records directory) := by
  have registry := (CppGraph.new_followsProperties isNew).registry
  have wraps : created.Wraps dds created.graphParticipant := by
    refine ⟨⟨[], .start ⟨_, _, registry⟩⟩, ?_, rfl⟩
    rw [registry]
    rfl
  have simulates : ∃ records directory, Directory.Run dds created.graphParticipant records directory ∧
      Execution.Simulated
        (fun (graph : CppGraph) directory => graph.Wraps dds created.graphParticipant ∧
          directory.Describes graph.cGraph.registry)
        (fun graph event => event.inC.occurrence dds graph.cGraph.registry)
        past graph records directory := by
    refine Execution.simulated ?_ ?_ run
    · rintro _ rfl
      refine ⟨.empty, rfl, wraps, ?_⟩
      rw [registry]
      exact .empty
    · rintro past state event next directory _ stepped ⟨wrapped, describes⟩
      obtain ⟨following, step, onwards⟩ := wrapped.describes_next describes event
      rw [stepped]
      exact ⟨following, step, wrapped.next event, onwards⟩
  obtain ⟨records, directory, reached, simulated⟩ := simulates
  refine ⟨records, directory, reached, simulated.visits.imp fun visit record seen => ?_,
    simulated.states.imp fun _ _ related => related.2.replies⟩
  rw [seen.2]
  exact seen.1.1.shown visit.2

/-- A node is registered, and the update thread polls it. -/
theorem cpp_graph_implements_directory_granted :
    let created := grantedCppGraph ⟨1, 0⟩
    let registering : CppEvent := .call (.granting (.answering [] []))
      (.registerLocalNode (.ofCString firstName) ⟨[]⟩ none)
    let polling : CppEvent := .poll (.granting (.answering [⟨1⟩] [])) 0
    let registered := created.next dataDds registering
    ∃ records directory, Directory.Run dataDds ⟨0⟩ records directory ∧
      List.Forall₂ (fun visit record => CppEvent.ShownBy dataDds visit.1 visit.2 record.2)
        [(created, registering), (registered, polling)] records ∧
      List.Forall₂ CppGraph.RepliesAs [created, registered, registered.next dataDds polling]
        (Execution.states records directory) := by
  intro created registering polling registered
  have first : CppGraph.RunFrom dataDds created [] created := .start rfl
  have second : CppGraph.RunFrom dataDds created [(created, registering)] registered :=
    first.extend rfl
  exact cpp_graph_implements_directory (grantedCppGraph_new ⟨1, 0⟩) (second.extend rfl)

end Ros2Graph
