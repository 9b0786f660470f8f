import Ros2Graph.Registry.Evolution

/-! Handles drawn from the counters of the graph and of its nodes: how many one
event draws, and where the drawn ones lie. -/

set_option autoImplicit false

namespace Ros2Graph

open Foundation

instance GraphNode.decidableAdmits (dds : Dds) (node : GraphNode) (endpType : EndpointType)
    (ddsReader : Option DataReader) (ddsWriter : Option DataWriter) :
    Decidable (node.Admits dds endpType ddsReader ddsWriter) :=
  decidable_of_iff
    (node.lookupLocalEndpointByDdsEndpoints ddsReader ddsWriter = none ∧
      (∀ reader ∈ ddsReader, detectEndpointType (dds.readerTopicName reader) false = endpType) ∧
      ∀ writer ∈ ddsWriter, detectEndpointType (dds.writerTopicName writer) true = endpType)
    ⟨fun checks => ⟨checks.1, checks.2.1, checks.2.2⟩,
      fun admitted => ⟨admitted.unused, admitted.readerKind, admitted.writerKind⟩⟩

namespace Graph

/-- The handles that the inspection of the node at `ptr` draws. -/
def inspectionAllocations (dds : Dds) (env : CallEnv) (graph : Graph) (ptr : NodePtr) : Nat :=
  match graph.nodes[ptr]? with
  | none => 0
  | some node =>
    loopCount (InspectState.inspectVisit dds env ptr) (InspectState.registersAt dds ptr)
      ⟨graph, EndpointHandle.invalid⟩ (env.enumeration.visits node.ddsParticipant)

def endpointHandlesOf (graph : Graph) (nodeHandle : NodeHandle) : List EndpointHandle :=
  match graph.lookupLocalNodeByHandle nodeHandle with
  | none => []
  | some (_, node) => node.endpoints.map (·.handle)

end Graph

namespace Event

/-- The calls of `RTIROS2_Graph_next_node_handle` that the event makes. -/
def nodeAllocations (graph : Graph) : Event → Nat
  | .call _ (.registerLocalNode (some name) space _) =>
      if Graph.refusesNames (some name) space ||
        (graph.lookupLocalNodeByName name space).isSome then 0 else 1
  | _ => 0

/-- The calls of `RTIROS2_Graph_next_endpoint_handle` that the event makes for
the node with the given handle. A call that registers a node succeeds only when
each handle it draws goes to an endpoint of the new node. -/
def endpointAllocations (dds : Dds) (graph : Graph) (nodeHandle : NodeHandle) : Event → Nat
  | .poll env ptr =>
      if (graph.nodes[ptr]?).any (fun node => node.handle == nodeHandle) then
        graph.inspectionAllocations dds env ptr
      else 0
  | .call env (.registerLocalNode name space given) =>
      let outcome := graph.registerLocalNode dds env name space given
      if outcome.result == nodeHandle then (outcome.graph.endpointHandlesOf nodeHandle).length
      else 0
  | .call env (.inspectLocalNode handle) =>
      match graph.lookupLocalNodeByHandle handle with
      | none => 0
      | some (ptr, _) => if handle == nodeHandle then graph.inspectionAllocations dds env ptr else 0
  | .call _ operation =>
      match operation.registration with
      | none => 0
      | some (handle, endpType, ddsReader, ddsWriter) =>
        match graph.lookupLocalNodeByHandle handle with
        | none => 0
        | some (_, node) =>
          if handle == nodeHandle ∧ node.Admits dds endpType ddsReader ddsWriter then 1 else 0

end Event

namespace GraphNode

/-- The counter is ahead of every listed handle. -/
structure Ahead (node : GraphNode) : Prop where
  nonnegative : 0 ≤ node.endpHandleNext.toInt
  handles : ∀ endp ∈ node.endpoints, endp.handle.toInt < node.endpHandleNext.toInt

/-- The node has drawn at most `count` handles, from the counter upwards, and
lists no new handle but one of these. -/
structure Draws (count : Nat) (node left : GraphNode) : Prop where
  advances : node.endpHandleNext.toInt ≤ left.endpHandleNext.toInt
  bounded : left.endpHandleNext.toInt ≤ node.endpHandleNext.toInt + count
  fresh : ∀ endp ∈ left.endpoints, (∃ listed ∈ node.endpoints, listed.handle = endp.handle) ∨
    (node.endpHandleNext.toInt ≤ endp.handle.toInt ∧
      endp.handle.toInt < left.endpHandleNext.toInt)

theorem Draws.ofHandles {node left : GraphNode} (count : Nat)
    (counter : left.endpHandleNext = node.endpHandleNext)
    (kept : ∀ endp ∈ left.endpoints, ∃ listed ∈ node.endpoints, listed.handle = endp.handle) :
    node.Draws count left where
  advances := by rw [counter]
  bounded := by rw [counter]; omega
  fresh := fun endp member => .inl (kept endp member)

theorem Draws.refl (node : GraphNode) (count : Nat) : node.Draws count node :=
  .ofHandles count rfl (fun endp member => ⟨endp, member, rfl⟩)

theorem Draws.trans {node middle left : GraphNode} {count more : Nat}
    (first : node.Draws count middle) (onward : middle.Draws more left) :
    node.Draws (count + more) left where
  advances := first.advances.trans onward.advances
  bounded := by
    have := first.bounded
    have := onward.bounded
    omega
  fresh := by
    intro endp member
    rcases onward.fresh endp member with ⟨listed, present, same⟩ | ⟨lower, upper⟩
    · have advances := onward.advances
      rcases first.fresh listed present with ⟨origin, present, earlier⟩ | ⟨lower, upper⟩
      · exact .inl ⟨origin, present, earlier.trans same⟩
      · rw [same] at lower upper
        exact .inr ⟨lower, by omega⟩
    · exact .inr ⟨first.advances.trans lower, upper⟩

theorem Draws.ahead {node left : GraphNode} {count : Nat} (draws : node.Draws count left)
    (ahead : node.Ahead) : left.Ahead where
  nonnegative := ahead.nonnegative.trans draws.advances
  handles := by
    intro endp member
    rcases draws.fresh endp member with ⟨listed, present, same⟩ | ⟨_, upper⟩
    · have below := ahead.handles listed present
      rw [same] at below
      exact lt_of_lt_of_le below draws.advances
    · exact upper

section

variable {dds : Dds} {env : CallEnv} {pool after : FastBufferPool} {node left : GraphNode}

theorem nextEndpointHandle_ahead (ahead : node.Ahead)
    (room : node.endpHandleNext.toInt + 1 < 2 ^ 31) :
    node.nextEndpointHandle = (some node.endpHandleNext,
        { node with endpHandleNext := node.endpHandleNext + 1 }) ∧
      (node.endpHandleNext + 1).toInt = node.endpHandleNext.toInt + 1 := by
  have free : (node.lookupLocalEndpointByHandle node.endpHandleNext).isSome = false := by
    rw [Bool.eq_false_iff, ne_eq, lookup_handle_isSome_iff]
    rintro ⟨endp, member, same⟩
    have below := ahead.handles endp member
    rw [same] at below
    exact absurd below (lt_irrefl _)
  obtain ⟨found, next⟩ := @searchHandle_free
    (fun handle => (node.lookupLocalEndpointByHandle handle).isSome) intMax _ ahead.nonnegative
    room free (by decide)
  exact ⟨by simp only [nextEndpointHandle, found], next⟩

/-- Registration of an endpoint draws one handle, and none unless the endpoint
is admitted. -/
theorem registerEndpoint_draws {endpType : EndpointType} {ddsReader : Option DataReader}
    {ddsWriter : Option DataWriter} {added : Option GraphEndpoint} (ahead : node.Ahead)
    (room : node.Admits dds endpType ddsReader ddsWriter →
      node.endpHandleNext.toInt + 1 < 2 ^ 31)
    (ran : node.registerEndpoint dds env pool endpType ddsReader ddsWriter =
      (after, left, added)) :
    node.Draws (if node.Admits dds endpType ddsReader ddsWriter then 1 else 0) left := by
  split
  · next admitted =>
    obtain ⟨found, next⟩ := nextEndpointHandle_ahead ahead (room admitted)
    rw [registerEndpoint_admitted admitted, found] at ran
    dsimp only at ran
    split at ran
    · next handle same _ =>
      cases same
      cases ran
      constructor
      · simp only [linkEndpoint, next]
        omega
      · simp only [linkEndpoint, next]
        omega
      · intro endp member
        rcases List.mem_append.mp member with earlier | last
        · exact .inl ⟨endp, earlier, rfl⟩
        · cases List.mem_singleton.mp last
          refine .inr ⟨le_refl _, ?_⟩
          simp only [linkEndpoint, next]
          omega
    · cases ran
      constructor
      · simp only [next]
        omega
      · simp only [next]
        omega
      · exact fun endp member => .inl ⟨endp, member, rfl⟩
  · next refused =>
    rw [registerEndpoint_refused refused] at ran
    cases ran
    exact .refl node 0

end

end GraphNode

section

variable {dds : Dds} {env : CallEnv}

theorem VisitEffect.draws {scope left : Scope} {visit : Visit} {action : Action}
    {continues : Bool} (effect : VisitEffect dds env scope visit action continues left)
    (ahead : scope.node.Ahead)
    (room : scope.node.endpHandleNext.toInt + action.registrations < 2 ^ 31) :
    scope.node.Draws action.registrations left.node := by
  cases effect with
  | registerWriter _ _ _ _ ran | registerReader _ _ _ _ ran =>
      have draws := GraphNode.registerEndpoint_draws ahead (fun _ => room) ran
      split at draws
      · exact draws
      · exact draws.trans (.refl _ 1)
  | @attached dw ptr endp _ _ first _ =>
      apply GraphNode.Draws.ofHandles
      · rfl
      · intro listed member
        rcases List.mem_or_eq_of_mem_set member with earlier | rfl
        · exact ⟨listed, earlier, rfl⟩
        · exact ⟨endp, (locate_mem first).1, rfl⟩
  | _ => exact .refl _ _

private theorem count_register (action : Action) (actions : List Action) :
    (action :: actions).count .register = action.registrations + actions.count .register := by
  rw [List.count_cons, Nat.add_comm]
  cases action <;> rfl

theorem VisitedAll.draws {scope left : Scope} {visits : List Visit} {actions : List Action}
    {continues : Bool} (effects : VisitedAll dds env scope visits actions continues left)
    (ahead : scope.node.Ahead)
    (room : scope.node.endpHandleNext.toInt + actions.count .register < 2 ^ 31) :
    scope.node.Draws (actions.count .register) left.node := by
  induction effects with
  | nil => exact .refl _ 0
  | @stop scope visit rest action left effect =>
      rw [count_register] at room ⊢
      exact effect.draws ahead room
  | @next scope visit rest action middle actions continues left effect _ ih =>
      rw [count_register] at room ⊢
      have first := effect.draws ahead (by omega)
      have bounded := first.bounded
      exact first.trans (ih (first.ahead ahead) (by omega))

/-- In a loop that was not left, every handle drawn has become an endpoint. -/
theorem VisitedAll.completed_length {scope left : Scope} {visits : List Visit}
    {actions : List Action} (effects : VisitedAll dds env scope visits actions true left) :
    left.node.endpoints.length = scope.node.endpoints.length + actions.count .register := by
  generalize ended : true = continues at effects
  induction effects with
  | nil => rfl
  | stop => cases ended
  | @next scope visit rest action middle actions continues left effect _ ih =>
      have step : middle.node.endpoints.length =
          scope.node.endpoints.length + action.registrations := by
        generalize proceeds : true = goesOn at effect
        cases effect with
        | @registerWriter _ _ _ _ added _ _ _ _ ran | @registerReader _ _ _ _ added _ _ _ _ ran =>
            obtain ⟨endp, rfl⟩ := Option.isSome_iff_exists.mp proceeds.symm
            rcases GraphNode.registerEndpoint_cases with
              ⟨counter, failed⟩ | ⟨handle, counter, _, _, _, _, done⟩
            · cases ran.symm.trans failed
            · cases ran.symm.trans done
              simp [GraphNode.linkEndpoint, Action.registrations]
        | attached => simp [Action.registrations]
        | _ => rfl
      rw [ih ended, step, count_register, Nat.add_assoc]

end

theorem Graph.inspectLocalNodeEA_draws {dds : Dds} {env : CallEnv} {graph : Graph}
    {ptr : NodePtr} {node : GraphNode} (distinct : graph.HandlesDistinct)
    (present : graph.nodes[ptr]? = some node) :
    ∃ pool left, (graph.inspectLocalNodeEA dds env ptr).1 = graph.storeNode ptr pool left ∧
      left.handle = node.handle ∧ (node.Ahead →
        node.endpHandleNext.toInt + graph.inspectionAllocations dds env ptr < 2 ^ 31 →
        node.Draws (graph.inspectionAllocations dds env ptr) left) := by
  obtain ⟨actions, continues, left, effects, ended, counted⟩ :=
    @InspectState.runLoop_counted dds env ⟨graph, EndpointHandle.invalid⟩ ptr node
      distinct present (env.enumeration.visits node.ddsParticipant)
  have allocations : graph.inspectionAllocations dds env ptr = actions.count .register := by
    simp only [inspectionAllocations, present, counted]
  rw [allocations]
  have changes : Relation.ReflTransGen (NodeChange dds True False) node left.node :=
    effects.changes (fun _ => trivial)
  refine ⟨left.pool, left.node, ?_, nodeChanges_handle changes, effects.draws⟩
  rw [inspectLocalNodeEA_eq present, ended]

end Ros2Graph
