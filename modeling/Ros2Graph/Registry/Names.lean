import Ros2Graph.Registry.Evolution

/-! The names of the listed nodes: no event renames a node or moves it to
another participant, and no two listed nodes have the same full name. -/

set_option autoImplicit false

namespace Ros2Graph

open Foundation Relation SemEvent

namespace GraphNode

def fullName (node : GraphNode) : Option CString × Option CString :=
  (node.nodeName, node.nodeNamespace)

/-- What a node keeps as long as it is listed. -/
def identity (node : GraphNode) : (Option CString × Option CString) × DomainParticipant :=
  (node.fullName, node.ddsParticipant)

end GraphNode

section

variable {dds : Dds} {attaches shares : Prop}

theorem NodeChange.identity {node next : GraphNode}
    (change : NodeChange dds attaches shares node next) : next.identity = node.identity := by
  cases change with
  | removed present =>
      simp [GraphNode.finalizeEndpoint, present, GraphNode.identity, GraphNode.fullName]
  | _ => rfl

theorem nodeChanges_identity {node next : GraphNode}
    (changes : ReflTransGen (NodeChange dds attaches shares) node next) :
    next.identity = node.identity :=
  nodeChanges_keep (fun _ _ same change => change.identity.trans same) rfl changes

end

namespace Graph

def identities (graph : Graph) : List ((Option CString × Option CString) × DomainParticipant) :=
  graph.nodes.map (·.identity)

def NamesDistinct (graph : Graph) : Prop := (graph.identities.map (·.1)).Nodup

variable {dds : Dds} {graph : Graph}

theorem storeNode_identities {ptr : NodePtr} {node left : GraphNode}
    (present : graph.nodes[ptr]? = some node) (same : left.identity = node.identity)
    (pool : FastBufferPool) :
    (graph.storeNode ptr pool left).identities = graph.identities := by
  obtain ⟨front, rest, split, rfl⟩ := split_at_position present
  simp [identities, storeNode, split, same]

theorem lookup_name_none {name : CString} {space : Option CString}
    (unknown : graph.lookupLocalNodeByName name space = none) :
    (some name, some (space.getD rootNamespace)) ∉ graph.identities.map (·.1) := by
  intro member
  simp only [identities, List.map_map, List.mem_map, Function.comp_apply, GraphNode.identity,
    GraphNode.fullName, Prod.mk.injEq] at member
  obtain ⟨node, listed, nameEq, spaceEq⟩ := member
  have rejected := locate_eq_none_iff.mp unknown node listed
  cases space with
  | none => simp [nameEq, spaceEq] at rejected
  | some given => simp [nameEq, spaceEq] at rejected

end Graph

def Operation.nodeRegistration (graph : Graph) :
    Operation → Option ((Option CString × Option CString) × DomainParticipant)
  | .registerLocalNode (some name) space participant =>
      some ((some name, some (space.getD rootNamespace)), participant.getD graph.graphParticipant)
  | _ => none

inductive IdentitiesEffect (graph : Graph) (operation : Operation) (outcome : Outcome Answer) :
    Prop where
  | kept : outcome.graph.identities = graph.identities → IdentitiesEffect graph operation outcome
  | removed {nodeHandle ptr node} : operation = .unregisterLocalNode nodeHandle →
      graph.lookupLocalNodeByHandle nodeHandle = some (ptr, node) →
      outcome.graph.identities = graph.identities.eraseIdx ptr →
      IdentitiesEffect graph operation outcome
  | registered {identity} : operation.nodeRegistration graph = some identity →
      outcome.result.succeeded = true → identity.1 ∉ graph.identities.map (·.1) →
      outcome.graph.identities = graph.identities ++ [identity] →
      IdentitiesEffect graph operation outcome

section

variable {dds : Dds} {env : CallEnv} {graph : Graph}

theorem OperationEffect.identities {operation : Operation} {outcome : Outcome Answer}
    (effect : OperationEffect dds env graph operation outcome) :
    IdentitiesEffect graph operation outcome := by
  cases effect with
  | refused => exact .kept rfl
  | nodeRolledBack same => exact .kept (by rw [Graph.identities, same, Graph.identities])
  | @nodeRegistered name space participant handle blank visits actions left final _ unknown
      nonnegative _ _ _ nameEq spaceEq participantEq effects _ appended _ =>
      have changes : ReflTransGen (NodeChange dds True False) blank left.node :=
        effects.changes (fun _ => trivial)
      have identityEq : left.node.identity = ((some name, some (space.getD rootNamespace)),
          participant.getD graph.graphParticipant) := by
        rw [nodeChanges_identity changes, GraphNode.identity, GraphNode.fullName, nameEq,
          spaceEq, participantEq]
      refine .registered rfl ?_ (Graph.lookup_name_none unknown) ?_
      · have valid : handle ≠ -1 := by
          intro same
          subst same
          exact absurd nonnegative (by decide)
        simp [Answer.succeeded, valid]
      · rw [Graph.identities, appended, List.map_append, List.map_singleton, identityEq,
          Graph.identities]
  | nodeRemoved listed =>
      refine .removed rfl listed ?_
      rw [Graph.identities, Graph.finalizeNode_nodes, ← List.eraseIdx_map, Graph.identities]
  | inspected listed effects _ =>
      have changes : ReflTransGen (NodeChange dds True False) _ _ :=
        effects.changes (fun _ => trivial)
      exact .kept (Graph.storeNode_identities (Graph.lookup_node_found listed).1
        (nodeChanges_identity changes) _)
  | endpointRefused registers listed ran | endpointRegistered registers listed ran =>
      obtain ⟨known, sided⟩ := Operation.registration_known registers
      have changes : ReflTransGen (NodeChange dds False True) _ _ :=
        GraphNode.registerEndpoint_change known sided (fun _ _ => .inr trivial) ran
      exact .kept (Graph.storeNode_identities (Graph.lookup_node_found listed).1
        (nodeChanges_identity changes) _)
  | @endpointRemoved _ _ _ ptr node endpPtr endp removes listed located =>
      have change : NodeChange dds False False node
          (node.finalizeEndpoint graph.endpointsPool endpPtr).2 :=
        .removed (Operation.removal_getElem? removes located)
      exact .kept (Graph.storeNode_identities (Graph.lookup_node_found listed).1
        change.identity _)

namespace Graph

theorem inspect_identities (distinct : graph.HandlesDistinct) (env : CallEnv) (ptr : NodePtr) :
    (graph.inspectLocalNodeEA dds env ptr).1.identities = graph.identities := by
  cases present : graph.nodes[ptr]? with
  | none => simp [inspectLocalNodeEA, present]
  | some node =>
      obtain ⟨actions, left, effects, _, ended⟩ :=
        @inspectLocalNodeEA_planned dds env graph ptr node distinct present
      have changes : ReflTransGen (NodeChange dds True False) node left.node :=
        effects.changes (fun _ => trivial)
      rw [ended]
      exact storeNode_identities present (nodeChanges_identity changes) left.pool

theorem NamesDistinct.next (names : graph.NamesDistinct) (distinct : graph.HandlesDistinct)
    (event : Event) : (graph.next dds event).NamesDistinct := by
  unfold NamesDistinct at *
  cases event with
  | poll env ptr =>
      rw [Graph.next, inspect_identities distinct]
      exact names
  | call env operation =>
      cases (@Operation.perform_effect dds env graph distinct operation).identities with
      | kept same =>
          rw [Graph.next, same]
          exact names
      | removed _ _ same =>
          rw [Graph.next, same]
          exact names.sublist ((List.eraseIdx_sublist _ _).map _)
      | @registered identity _ _ unknown same =>
          rw [Graph.next, same, List.map_append, List.map_singleton, ← List.concat_eq_append,
            List.nodup_concat]
          exact ⟨unknown, names⟩

theorem Run.namesDistinct {past : List (Graph × Event)} (run : Run dds past graph) :
    graph.NamesDistinct := by
  have both : graph.HandlesDistinct ∧ graph.NamesDistinct := by
    refine @Execution.always _ _ _ _ (fun state => state.HandlesDistinct ∧ state.NamesDistinct)
      ?_ ?_ _ _ run
    · intro state started
      refine ⟨IsInitial.distinct started, ?_⟩
      obtain ⟨participant, period, rfl⟩ := started
      exact List.nodup_nil
    · intro state event following held stepped
      rw [stepped]
      exact ⟨(next_evolves held.1 event).distinct, held.2.next held.1 event⟩
  exact both.2

theorem removed_identity (names : graph.NamesDistinct) {ptr : NodePtr} {node : GraphNode}
    (present : graph.nodes[ptr]? = some node) :
    node.identity ∉ graph.identities.eraseIdx ptr := by
  have listed : graph.identities[ptr]? = some node.identity := by simp [identities, present]
  obtain ⟨front, rest, split, rfl⟩ := split_at_position listed
  have nodup : graph.identities.Nodup := List.Nodup.of_map _ names
  rw [split] at nodup ⊢
  rw [eraseIdx_at_split]
  exact fun member => (List.nodup_middle.mp nodup).notMem member

end Graph

end

end Ros2Graph
