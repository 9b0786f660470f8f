import Ros2Graph.Registry.Evolution
import Ros2Graph.Registry.InspectionCoverage

/-! What a sample says about the registry: for each participant its nodes, in
registration order, with their names, counters and the entities of their
endpoints. -/

set_option autoImplicit false

namespace Ros2Graph

open Foundation SemEvent

/-- What conversion to a sample reads of a node. -/
structure NodeView where
  nodeName : Option CString
  nodeNamespace : Option CString
  readersLen : SizeT
  writersLen : SizeT
  endpoints : List (Option DataReader × Option DataWriter)
  deriving DecidableEq, Repr

def GraphNode.view (node : GraphNode) : NodeView where
  nodeName := node.nodeName
  nodeNamespace := node.nodeNamespace
  readersLen := node.readersLen
  writersLen := node.writersLen
  endpoints := node.endpoints.map fun endp => (endp.ddsReader, endp.ddsWriter)

namespace Graph

def advertised (graph : Graph) (participant : DomainParticipant) : List NodeView :=
  (graph.nodes.filter (·.ddsParticipant == participant)).map (·.view)

/-- The listed nodes with all they hold, but for their handle counters. -/
def listing (graph : Graph) : List GraphNode :=
  graph.nodes.map fun node => { node with endpHandleNext := 0 }

variable {graph next : Graph}

theorem advertised_listing (graph : Graph) (participant : DomainParticipant) :
    graph.advertised participant =
      (graph.listing.filter (·.ddsParticipant == participant)).map (·.view) := by
  rw [listing, List.filter_map, List.map_map]
  rfl

theorem advertised_of_listing (same : next.listing = graph.listing)
    (participant : DomainParticipant) :
    next.advertised participant = graph.advertised participant := by
  rw [advertised_listing, same, ← advertised_listing]

theorem listing_storeNode {ptr : NodePtr} {node : GraphNode} (present : graph.nodes[ptr]? = some node)
    (pool : FastBufferPool) (counter : EndpointHandle) :
    (graph.storeNode ptr pool { node with endpHandleNext := counter }).listing =
      graph.listing := by
  obtain ⟨front, rest, split, rfl⟩ := split_at_position present
  simp [listing, storeNode, split]

theorem advertised_storeNode {ptr : NodePtr} {node left : GraphNode}
    (present : graph.nodes[ptr]? = some node) (pool : FastBufferPool)
    (participantEq : left.ddsParticipant = node.ddsParticipant) :
    (∀ participant, (graph.storeNode ptr pool left).advertised participant =
      graph.advertised participant) ↔ left.view = node.view := by
  obtain ⟨front, rest, split, rfl⟩ := split_at_position present
  constructor
  · intro same
    have own := same node.ddsParticipant
    simpa [advertised, storeNode, split, participantEq] using own
  · intro same participant
    cases own : node.ddsParticipant == participant with
    | true => simp [advertised, storeNode, split, participantEq, own, same]
    | false => simp [advertised, storeNode, split, participantEq, own]

theorem advertised_finalizeNode {ptr : NodePtr} {node : GraphNode}
    (present : graph.nodes[ptr]? = some node) :
    (graph.finalizeNode ptr).advertised node.ddsParticipant ≠
      graph.advertised node.ddsParticipant := by
  obtain ⟨front, rest, split, rfl⟩ := split_at_position present
  intro same
  have lengths := congrArg List.length same
  simp [advertised, split] at lengths

end Graph

section

variable {dds : Dds} {env : CallEnv} {scope left : Scope}

theorem VisitedAll.participant {visits : List Visit} {actions : List Action} {continues : Bool}
    (effects : VisitedAll dds env scope visits actions continues left) :
    left.node.ddsParticipant = scope.node.ddsParticipant := by
  induction effects with
  | nil => rfl
  | stop effect => exact effect.nodeChange.identity.2
  | next effect _ ih => exact ih.trans effect.nodeChange.identity.2

theorem VisitChange.length_cases {node left : GraphNode} {action : Action}
    (change : VisitChange dds node action left) :
    (left.endpoints.length = node.endpoints.length ∧
      (action = .attach ∨ ∃ counter, left = { node with endpHandleNext := counter })) ∨
    left.endpoints.length = node.endpoints.length + 1 := by
  cases change with
  | kept => exact .inl ⟨rfl, .inr ⟨_, rfl⟩⟩
  | linked => exact .inr (by simp [GraphNode.linkEndpoint])
  | attached => exact .inl ⟨by simp, .inl rfl⟩

theorem VisitedAll.length_le {visits : List Visit} {actions : List Action} {continues : Bool}
    (effects : VisitedAll dds env scope visits actions continues left) :
    scope.node.endpoints.length ≤ left.node.endpoints.length := by
  induction effects with
  | nil => exact Nat.le_refl _
  | stop effect => rcases effect.nodeChange.length_cases with ⟨same, _⟩ | more <;> omega
  | next effect _ ih => rcases effect.nodeChange.length_cases with ⟨same, _⟩ | more <;> omega

theorem VisitedAll.unchanged {visits : List Visit} {actions : List Action} {continues : Bool}
    (effects : VisitedAll dds env scope visits actions continues left)
    (unattached : .attach ∉ actions)
    (same : left.node.endpoints.length = scope.node.endpoints.length) :
    ∃ counter, left.node = { scope.node with endpHandleNext := counter } := by
  induction effects with
  | nil => exact ⟨_, rfl⟩
  | stop effect =>
      rcases effect.nodeChange.length_cases with ⟨_, attached | moved⟩ | more
      · exact absurd (attached ▸ List.mem_cons_self) unattached
      · exact moved
      · omega
  | next effect effects ih =>
      have onward := effects.length_le
      rcases effect.nodeChange.length_cases with ⟨still, attached | ⟨counter, moved⟩⟩ | more
      · exact absurd (attached ▸ List.mem_cons_self) unattached
      · obtain ⟨last, lastEq⟩ := ih (fun member => unattached (List.mem_cons_of_mem _ member))
          (by omega)
        exact ⟨last, by rw [lastEq, moved]⟩
      · omega

/-- Visits never take a writer away, and an attachment adds one. -/
theorem VisitChange.hasWriter_le {node left : GraphNode} {action : Action}
    (change : VisitChange dds node action left) :
    node.endpoints.countP GraphEndpoint.hasWriter + (if action = .attach then 1 else 0) ≤
      left.endpoints.countP GraphEndpoint.hasWriter := by
  cases change with
  | kept unattached => simp [unattached]
  | linked => simp [GraphNode.linkEndpoint]
  | @attached dw ptr endp _ _ first vacant =>
      obtain ⟨front, rest, split, rfl⟩ := split_at_position (locate_getElem? first)
      have unwritten : ¬ endp.hasWriter = true := by simp [GraphEndpoint.hasWriter, vacant]
      have before : node.endpoints.countP GraphEndpoint.hasWriter =
          front.countP GraphEndpoint.hasWriter + rest.countP GraphEndpoint.hasWriter := by
        rw [split, List.countP_append, List.countP_cons_of_neg unwritten]
      have after : (node.endpoints.set front.length
            { endp with ddsWriter := some dw }).countP GraphEndpoint.hasWriter =
          front.countP GraphEndpoint.hasWriter + (rest.countP GraphEndpoint.hasWriter + 1) := by
        rw [split, set_at_split, List.countP_append, List.countP_cons_of_pos rfl]
      rw [if_pos rfl, before, after]
      exact Nat.le_refl _

theorem VisitedAll.hasWriter_le {visits : List Visit} {actions : List Action} {continues : Bool}
    (effects : VisitedAll dds env scope visits actions continues left) :
    scope.node.endpoints.countP GraphEndpoint.hasWriter + actions.count .attach ≤
      left.node.endpoints.countP GraphEndpoint.hasWriter := by
  induction effects with
  | nil => simp
  | stop effect =>
      have last := effect.nodeChange.hasWriter_le
      simpa [List.count_singleton] using last
  | next effect _ ih =>
      have first := effect.nodeChange.hasWriter_le
      rw [List.count_cons]
      simp only [beq_iff_eq]
      omega

/-- An inspection whose plan changes nothing only moves the handle counter. -/
theorem VisitedAll.moved {visits : List Visit} {actions : List Action} {continues : Bool}
    {outcome : PlanOutcome} {registered : Nat}
    (effects : VisitedAll dds env scope visits actions continues left)
    (planned : PlannedLoop dds env scope [] visits registered actions continues left outcome)
    (quiet : outcome.changed = false) :
    ∃ counter, left.node = { scope.node with endpHandleNext := counter } := by
  obtain ⟨none, unattached⟩ := Bool.or_eq_false_iff.mp quiet
  have registeredNone : outcome.registered = 0 := by simpa using none
  apply effects.unchanged
  · rw [planned.attaches, unattached]
    decide
  · rw [planned.added, registeredNone, Nat.add_zero]

/-- An inspection is visible exactly when its plan registers or attaches. -/
theorem VisitedAll.view_eq_iff {visits : List Visit} {actions : List Action} {continues : Bool}
    {outcome : PlanOutcome} {registered : Nat}
    (effects : VisitedAll dds env scope visits actions continues left)
    (planned : PlannedLoop dds env scope [] visits registered actions continues left outcome) :
    left.node.view = scope.node.view ↔ outcome.changed = false := by
  constructor
  · intro same
    have endpoints := congrArg NodeView.endpoints same
    simp only [GraphNode.view] at endpoints
    have lengths := congrArg List.length endpoints
    have writers := congrArg (List.countP fun sides => sides.2.isSome) endpoints
    simp only [List.length_map, planned.added] at lengths
    simp only [List.countP_map, Function.comp_def] at writers
    have more := effects.hasWriter_le
    have unattached : actions.count .attach = 0 := by
      unfold GraphEndpoint.hasWriter at more
      omega
    have none : outcome.registered = 0 := by omega
    rw [List.count_eq_zero, planned.attaches] at unattached
    simp [PlanOutcome.changed, none, unattached]
  · intro quiet
    obtain ⟨counter, moved⟩ := effects.moved planned quiet
    rw [moved]
    rfl

end

end Ros2Graph
