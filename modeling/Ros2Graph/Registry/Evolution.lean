import Mathlib.Logic.Relation
import Ros2Graph.Registry.OperationEffects

/-! How the nodes of the registry evolve. Every node listed after an event has
come from a node listed before it, or from a blank one, by a chain of changes;
an invariant of single nodes is proved once for each change. -/

set_option autoImplicit false

namespace Ros2Graph

open Foundation Relation

namespace GraphNode

structure Free (node : GraphNode) (ddsReader : Option DataReader)
    (ddsWriter : Option DataWriter) : Prop where
  reader : ∀ reader ∈ ddsReader, node.endpoints.any (GraphEndpoint.holdsReader reader) = false
  writer : ∀ writer ∈ ddsWriter, node.endpoints.any (GraphEndpoint.holdsWriter writer) = false

theorem not_free_pair {node : GraphNode} {reader : DataReader} {writer : DataWriter} :
    ¬ node.Free (some reader) (some writer) ↔
      (node.endpoints.any (GraphEndpoint.holdsReader reader) ||
        node.endpoints.any (GraphEndpoint.holdsWriter writer)) = true := by
  rw [← Bool.not_eq_false, Bool.or_eq_false_iff, not_iff_not]
  exact ⟨fun free => ⟨free.reader reader rfl, free.writer writer rfl⟩,
    fun both => ⟨fun _ same => Option.some.inj same ▸ both.1,
      fun _ same => Option.some.inj same ▸ both.2⟩⟩

end GraphNode

/-- One change of a node. A flag each lets in the attachment of an entity and
the registration of an endpoint that shares an entity with another one. -/
inductive NodeChange (dds : Dds) (attaches shares : Prop) : GraphNode → GraphNode → Prop where
  | counter {node next} :
      NodeChange dds attaches shares node { node with endpHandleNext := next }
  | linked {node endp next} :
      node.Admits dds endp.endpType endp.ddsReader endp.ddsWriter →
      endp.endpType ≠ .unknown → (endp.ddsReader.isSome = true ∨ endp.ddsWriter.isSome = true) →
      0 ≤ endp.handle → (∀ listed ∈ node.endpoints, listed.handle ≠ endp.handle) →
      (node.Free endp.ddsReader endp.ddsWriter ∨ shares) →
      NodeChange dds attaches shares node
        ({ node with endpHandleNext := next }.linkEndpoint endp)
  | removed {node pool ptr endp} :
      node.endpoints[ptr]? = some endp →
      NodeChange dds attaches shares node (node.finalizeEndpoint pool ptr).2
  | attached {node dw ptr endp} : attaches →
      locate (GraphEndpoint.holdsWriter dw) node.endpoints = none →
      isServiceTopic (dds.writerTopicName dw) = true →
      locate (GraphEndpoint.readsTopic dds (dds.writerTopicName dw)) node.endpoints =
        some (ptr, endp) →
      endp.ddsWriter = none →
      NodeChange dds attaches shares node
        { node with endpoints := node.endpoints.set ptr { endp with ddsWriter := some dw } }

section

variable {dds : Dds} {env : CallEnv} {attaches shares : Prop}

theorem NodeChange.handle {node next : GraphNode}
    (change : NodeChange dds attaches shares node next) : next.handle = node.handle := by
  cases change with
  | counter => rfl
  | linked => rfl
  | removed present => simp [GraphNode.finalizeEndpoint, present]
  | attached => rfl

theorem NodeChange.mono {attaches' shares' : Prop} {node next : GraphNode}
    (change : NodeChange dds attaches shares node next)
    (attaching : attaches → attaches') (sharing : shares → shares') :
    NodeChange dds attaches' shares' node next := by
  cases change with
  | counter => exact .counter
  | linked admitted known sided nonnegative fresh free =>
      exact .linked admitted known sided nonnegative fresh (free.imp_right sharing)
  | removed present => exact .removed present
  | attached allowed unheld service first vacant =>
      exact .attached (attaching allowed) unheld service first vacant

theorem nodeChanges_keep {holds : GraphNode → Prop}
    (kept : ∀ node next, holds node → NodeChange dds attaches shares node next → holds next)
    {node next : GraphNode} (held : holds node)
    (changes : ReflTransGen (NodeChange dds attaches shares) node next) : holds next := by
  induction changes with
  | refl => exact held
  | tail _ change ih => exact kept _ _ ih change

theorem nodeChanges_handle {node next : GraphNode}
    (changes : ReflTransGen (NodeChange dds attaches shares) node next) :
    next.handle = node.handle :=
  nodeChanges_keep (fun _ _ same change => change.handle.trans same) rfl changes

/-- A property of single endpoints that newly linked ones have, and that an
attachment keeps, holds of every endpoint. -/
theorem NodeChange.endpointwise {holds : GraphEndpoint → Prop} {node next : GraphNode}
    (change : NodeChange dds attaches shares node next)
    (linked : ∀ endp, node.Admits dds endp.endpType endp.ddsReader endp.ddsWriter →
      endp.endpType ≠ .unknown → (endp.ddsReader.isSome = true ∨ endp.ddsWriter.isSome = true) →
      0 ≤ endp.handle → holds endp)
    (attached : attaches → ∀ endp dw, holds endp → holds { endp with ddsWriter := some dw })
    (held : ∀ endp ∈ node.endpoints, holds endp) : ∀ endp ∈ next.endpoints, holds endp := by
  cases change with
  | counter => exact held
  | @linked endp counter admitted known sided nonnegative _ _ =>
      intro listed member
      rcases List.mem_append.mp member with earlier | added
      · exact held listed earlier
      · cases List.mem_singleton.mp added
        exact linked endp admitted known sided nonnegative
  | removed =>
      intro listed member
      exact held listed ((GraphNode.finalizeEndpoint_sublist _ _ _).mem member)
  | attached allowed _ _ first _ =>
      intro listed member
      rcases List.mem_or_eq_of_mem_set member with earlier | rfl
      · exact held listed earlier
      · exact attached allowed _ _ (held _ (locate_mem first).1)

theorem GraphNode.Admits.free {node : GraphNode} {endpType : EndpointType}
    {ddsReader : Option DataReader} {ddsWriter : Option DataWriter}
    (admitted : node.Admits dds endpType ddsReader ddsWriter)
    (oneSided : ddsReader = none ∨ ddsWriter = none) : node.Free ddsReader ddsWriter := by
  constructor
  · intro reader present
    cases present
    cases oneSided with
    | inl absent => cases absent
    | inr absent =>
        subst absent
        rw [← locate_isSome_eq_any, ← GraphNode.lookup_reader_eq, admitted.unused]
        rfl
  · intro writer present
    cases present
    cases oneSided with
    | inl absent =>
        subst absent
        rw [← locate_isSome_eq_any, ← GraphNode.lookup_writer_eq, admitted.unused]
        rfl
    | inr absent => cases absent

theorem GraphNode.registerEndpoint_change {node left : GraphNode} {pool after : FastBufferPool}
    {endpType : EndpointType} {ddsReader : Option DataReader} {ddsWriter : Option DataWriter}
    {added : Option GraphEndpoint}
    (known : endpType ≠ .unknown) (sided : ddsReader.isSome = true ∨ ddsWriter.isSome = true)
    (shared : node.Admits dds endpType ddsReader ddsWriter → added.isSome = true →
      node.Free ddsReader ddsWriter ∨ shares)
    (ran : node.registerEndpoint dds env pool endpType ddsReader ddsWriter =
      (after, left, added)) :
    ReflTransGen (NodeChange dds attaches shares) node left := by
  rcases GraphNode.registerEndpoint_cases with
    ⟨counter, failed⟩ | ⟨handle, counter, admitted, nonnegative, fresh, _, done⟩
  · cases ran.symm.trans failed
    exact .single .counter
  · cases ran.symm.trans done
    exact .single (.linked admitted known sided nonnegative fresh (shared admitted rfl))

theorem VisitChange.change {node left : GraphNode} {action : Action}
    (change : VisitChange dds node action left) (guarded : action = .attach → attaches) :
    NodeChange dds attaches shares node left := by
  cases change with
  | kept => exact .counter
  | linked admitted known oneEntity nonnegative fresh =>
      cases oneEntity with
      | inl writerOnly =>
          exact .linked admitted known (.inr writerOnly.2) nonnegative fresh
            (.inl (admitted.free (.inl writerOnly.1)))
      | inr readerOnly =>
          exact .linked admitted known (.inl readerOnly.1) nonnegative fresh
            (.inl (admitted.free (.inr readerOnly.2)))
  | attached unheld service first vacant =>
      exact .attached (guarded rfl) unheld service first vacant

theorem VisitedAll.changes {scope left : Scope} {visits : List Visit} {actions : List Action}
    {continues : Bool} (effects : VisitedAll dds env scope visits actions continues left)
    (guarded : .attach ∈ actions → attaches) :
    ReflTransGen (NodeChange dds attaches shares) scope.node left.node := by
  induction effects with
  | nil => exact .refl
  | stop effect =>
      exact .single (effect.nodeChange.change fun same => guarded (same ▸ List.mem_cons_self))
  | next effect _ ih =>
      apply ReflTransGen.head
      · exact effect.nodeChange.change fun same => guarded (same ▸ List.mem_cons_self)
      · exact ih fun member => guarded (List.mem_cons_of_mem _ member)

end

namespace Event

/-- The event inspects a node and attaches an entity to one of its endpoints. -/
def Attaches (dds : Dds) (graph : Graph) : Event → Prop
  | .call env (.inspectLocalNode nodeHandle) =>
      ∃ ptr node, graph.lookupLocalNodeByHandle nodeHandle = some (ptr, node) ∧
        (graph.inspectionPlan dds env node).attached = true
  | .call _ _ => False
  | .poll env ptr =>
      ∃ node, graph.nodes[ptr]? = some node ∧
        (graph.inspectionPlan dds env node).attached = true

/-- The event registers a client or a service of which one entity, but not both
together, is held by an endpoint of the node. -/
def Shares (dds : Dds) (graph : Graph) : Event → Prop
  | .call env operation =>
      ∃ nodeHandle endpType reader writer ptr node,
        operation.registration = some (nodeHandle, endpType, some reader, some writer) ∧
        graph.lookupLocalNodeByHandle nodeHandle = some (ptr, node) ∧
        node.Admits dds endpType (some reader) (some writer) ∧
        node.hasRoom env graph.endpointsPool 0 = true ∧
        ¬ node.Free (some reader) (some writer)
  | .poll _ _ => False

def attaches (dds : Dds) (graph : Graph) : Event → Bool
  | .call env (.inspectLocalNode nodeHandle) =>
      (graph.lookupLocalNodeByHandle nodeHandle).any fun found =>
        (graph.inspectionPlan dds env found.2).attached
  | .call _ _ => false
  | .poll env ptr =>
      graph.nodes[ptr]?.any fun node => (graph.inspectionPlan dds env node).attached

def shares (dds : Dds) (graph : Graph) : Event → Bool
  | .call env operation =>
    match operation.registration with
    | some (nodeHandle, endpType, some reader, some writer) =>
      (graph.lookupLocalNodeByHandle nodeHandle).any fun found =>
        (found.2.registerEndpoint dds env graph.endpointsPool endpType (some reader)
          (some writer)).2.2.isSome &&
        (found.2.endpoints.any (GraphEndpoint.holdsReader reader) ||
          found.2.endpoints.any (GraphEndpoint.holdsWriter writer))
    | _ => false
  | .poll _ _ => false

theorem attaches_iff {dds : Dds} {graph : Graph} {event : Event} :
    event.attaches dds graph = true ↔ event.Attaches dds graph := by
  cases event with
  | poll env ptr => simp [attaches, Attaches, Option.any_eq_true]
  | call env operation =>
      cases operation with
      | inspectLocalNode nodeHandle => simp [attaches, Attaches, Option.any_eq_true]
      | _ => simp [attaches, Attaches]

theorem shares_iff {dds : Dds} {graph : Graph} {event : Event} :
    event.shares dds graph = true ↔ event.Shares dds graph := by
  cases event with
  | poll env ptr => simp [shares, Shares]
  | call env operation =>
      simp only [shares, Shares]
      constructor
      · intro answered
        split at answered
        · next nodeHandle endpType reader writer registers =>
          obtain ⟨⟨ptr, node⟩, listed, both⟩ := (Option.any_eq_true _ _).mp answered
          obtain ⟨succeeded, inUse⟩ := Bool.and_eq_true_iff.mp both
          obtain ⟨admitted, room⟩ := GraphNode.registerEndpoint_isSome_iff.mp succeeded
          exact ⟨nodeHandle, endpType, reader, writer, ptr, node, registers, listed, admitted, room,
            GraphNode.not_free_pair.mpr inUse⟩
        · cases answered
      · rintro ⟨nodeHandle, endpType, reader, writer, ptr, node, registers, listed, admitted, room,
          inUse⟩
        simp only [registers, listed, Option.any_some, Bool.and_eq_true]
        exact ⟨GraphNode.registerEndpoint_isSome_iff.mpr ⟨admitted, room⟩,
          GraphNode.not_free_pair.mp inUse⟩

instance (dds : Dds) (graph : Graph) (event : Event) : Decidable (event.Attaches dds graph) :=
  decidable_of_iff _ attaches_iff

instance (dds : Dds) (graph : Graph) (event : Event) : Decidable (event.Shares dds graph) :=
  decidable_of_iff _ shares_iff

theorem Shares.ofRegistered {dds : Dds} {env : CallEnv} {graph : Graph} {operation : Operation}
    {nodeHandle : NodeHandle} {endpType : EndpointType} {ddsReader : Option DataReader}
    {ddsWriter : Option DataWriter} {ptr : NodePtr} {node : GraphNode}
    (registers : operation.registration = some (nodeHandle, endpType, ddsReader, ddsWriter))
    (listed : graph.lookupLocalNodeByHandle nodeHandle = some (ptr, node))
    (succeeded : (node.registerEndpoint dds env graph.endpointsPool endpType ddsReader
      ddsWriter).2.2.isSome = true)
    (inUse : ¬ node.Free ddsReader ddsWriter) : Shares dds graph (.call env operation) := by
  obtain ⟨admitted, room⟩ := GraphNode.registerEndpoint_isSome_iff.mp succeeded
  cases ddsReader with
  | none => exact absurd (admitted.free (.inl rfl)) inUse
  | some reader =>
      cases ddsWriter with
      | none => exact absurd (admitted.free (.inr rfl)) inUse
      | some writer =>
          exact ⟨nodeHandle, endpType, reader, writer, ptr, node, registers, listed, admitted,
            room, inUse⟩

end Event

/-- Every node listed next comes from one listed before or from a blank one. -/
structure Graph.Evolves (dds : Dds) (attaches shares : Prop) (graph next : Graph) : Prop where
  distinct : next.HandlesDistinct
  nodes : ∀ node ∈ next.nodes, ∃ origin, (origin ∈ graph.nodes ∨ origin.IsBlank) ∧
    ReflTransGen (NodeChange dds attaches shares) origin node

namespace Graph

variable {dds : Dds} {attaches shares : Prop} {graph next : Graph}

theorem Evolves.ofSublist (distinct : graph.HandlesDistinct)
    (kept : next.nodes.Sublist graph.nodes) : graph.Evolves dds attaches shares next where
  distinct := distinct.sublist (kept.map _)
  nodes := fun node member => ⟨node, .inl (kept.mem member), .refl⟩

theorem Evolves.storeNode (distinct : graph.HandlesDistinct) {ptr : NodePtr}
    {node left : GraphNode} (present : graph.nodes[ptr]? = some node) (pool : FastBufferPool)
    (changes : ReflTransGen (NodeChange dds attaches shares) node left) :
    graph.Evolves dds attaches shares (graph.storeNode ptr pool left) where
  distinct := by
    unfold HandlesDistinct
    rw [storeNode_handles present (nodeChanges_handle changes)]
    exact distinct
  nodes := by
    intro other member
    rcases List.mem_or_eq_of_mem_set member with listed | same
    · exact ⟨other, .inl listed, .refl⟩
    · exact ⟨node, .inl (List.mem_of_getElem? present), same ▸ changes⟩

theorem Evolves.append (distinct : graph.HandlesDistinct) {blank node : GraphNode}
    (isBlank : blank.IsBlank) (free : ∀ listed ∈ graph.nodes, listed.handle ≠ blank.handle)
    (changes : ReflTransGen (NodeChange dds attaches shares) blank node)
    (appended : next.nodes = graph.nodes ++ [node]) :
    graph.Evolves dds attaches shares next where
  distinct := by
    unfold HandlesDistinct
    rw [appended]
    exact distinct.append (fun listed member => nodeChanges_handle changes ▸ free listed member)
  nodes := by
    intro other member
    rw [appended] at member
    rcases List.mem_append.mp member with listed | added
    · exact ⟨other, .inl listed, .refl⟩
    · cases List.mem_singleton.mp added
      exact ⟨blank, .inr isBlank, changes⟩

theorem next_evolves (distinct : graph.HandlesDistinct) (event : Event) :
    graph.Evolves dds (event.Attaches dds graph) (event.Shares dds graph)
      (graph.next dds event) := by
  cases event with
  | poll env ptr =>
      cases present : graph.nodes[ptr]? with
      | none =>
          have unchanged : graph.next dds (.poll env ptr) = graph := by
            simp [Graph.next, inspectLocalNodeEA, present]
          rw [unchanged]
          exact .ofSublist distinct (List.Sublist.refl _)
      | some node =>
          obtain ⟨actions, left, effects, planned, ended⟩ :=
            @inspectLocalNodeEA_planned dds env graph ptr node distinct present
          simp only [Graph.next, ended]
          exact .storeNode distinct present left.pool
            (effects.changes (fun member => ⟨node, present, planned.attaches.mp member⟩))
  | call env operation =>
      have effect := @Operation.perform_effect dds env graph distinct operation
      simp only [Graph.next]
      generalize operation.perform dds env graph = outcome at effect ⊢
      cases effect with
      | refused => exact .ofSublist distinct (List.Sublist.refl _)
      | nodeRolledBack same => exact .ofSublist distinct (same ▸ List.Sublist.refl _)
      | nodeRegistered _ _ _ free isBlank handleEq _ _ _ effects unattached appended _ =>
          exact .append distinct isBlank (fun listed member => handleEq ▸ free listed member)
            (effects.changes (fun member => absurd member unattached)) appended
      | nodeRemoved listed =>
          refine .ofSublist distinct ?_
          rw [finalizeNode_nodes]
          exact List.eraseIdx_sublist _ _
      | inspected listed effects planned =>
          exact .storeNode distinct (lookup_node_found listed).1 _
            (effects.changes
              (fun member => ⟨_, _, listed, planned.attaches.mp member⟩))
      | endpointRefused registers listed ran =>
          obtain ⟨known, sided⟩ := Operation.registration_known registers
          exact .storeNode distinct (lookup_node_found listed).1 _
            (GraphNode.registerEndpoint_change known sided
              (fun _ impossible => absurd impossible (by decide)) ran)
      | @endpointRegistered _ nodeHandle endpType ddsReader ddsWriter ptr node pool left endp
          registers listed ran =>
          obtain ⟨known, sided⟩ := Operation.registration_known registers
          refine .storeNode distinct (lookup_node_found listed).1 _
            (GraphNode.registerEndpoint_change known sided (fun admitted _ => ?_) ran)
          by_cases free : node.Free ddsReader ddsWriter
          · exact .inl free
          · exact .inr (.ofRegistered registers listed (by rw [ran]; rfl) free)
      | endpointRemoved removes listed located =>
          exact .storeNode distinct (lookup_node_found listed).1 _
            (.single (.removed (Operation.removal_getElem? removes located)))

theorem IsInitial.distinct (started : graph.IsInitial) : graph.HandlesDistinct := by
  obtain ⟨participant, period, rfl⟩ := started
  exact List.nodup_nil

theorem Run.distinct {past : List (Graph × Event)} (run : Run dds past graph) :
    graph.HandlesDistinct := by
  refine @Execution.always _ _ _ _ HandlesDistinct
    (fun state started => @IsInitial.distinct state started) ?_ _ _ run
  intro state event following held stepped
  rw [stepped]
  exact (next_evolves held event).distinct

/-- A property of single nodes that blank nodes have and every change keeps
holds of every node in every run that raises no other flags. -/
theorem Run.nodewise {holds : GraphNode → Prop}
    (blank : ∀ node, node.IsBlank → holds node)
    (kept : ∀ node following, holds node → NodeChange dds attaches shares node following →
      holds following)
    {past : List (Graph × Event)} (run : Run dds past graph)
    (guarded : Execution.Guarded (fun state event =>
      (event.Attaches dds state → attaches) ∧ (event.Shares dds state → shares)) past) :
    ∀ node ∈ graph.nodes, holds node := by
  have keeps : graph.HandlesDistinct ∧ ∀ node ∈ graph.nodes, holds node := by
    refine @Execution.invariant _ _ _ _ _
      (fun state => state.HandlesDistinct ∧ ∀ node ∈ state.nodes, holds node)
      ?_ ?_ _ _ run guarded
    · intro state started
      refine ⟨IsInitial.distinct started, ?_⟩
      obtain ⟨participant, period, rfl⟩ := started
      simp [initial]
    · intro state event following held flags stepped
      rw [stepped]
      have evolves := @next_evolves dds state held.1 event
      refine ⟨evolves.distinct, fun node member => ?_⟩
      obtain ⟨origin, source, changes⟩ := evolves.nodes node member
      have start : holds origin := source.elim (held.2 origin) (blank origin)
      exact nodeChanges_keep
        (fun _ _ now change => kept _ _ now (change.mono flags.1 flags.2)) start changes
  exact keeps.2

end Graph

end Ros2Graph
