import Mathlib.Algebra.GroupWithZero.Nat
import Ros2Graph.Registry.Allocation
import Ros2Graph.Registry.Representation

/-! The handles of a whole run. The counters stay ahead of every handle that was
ever given out, so no handle is given out twice. -/

set_option autoImplicit false

namespace Ros2Graph

open Foundation Relation

namespace Event

/-- The handle that a call which registers a node returns. -/
def returnedNodeHandle (dds : Dds) (graph : Graph) : Event → Option NodeHandle
  | .call env (.registerLocalNode name space given) =>
      let handle := (graph.registerLocalNode dds env name space given).result
      if handle == NodeHandle.invalid then none else some handle
  | _ => none

/-- The endpoint handles that a node has gained in the event. -/
def assignedEndpointHandles (dds : Dds) (graph : Graph) (nodeHandle : NodeHandle)
    (event : Event) : List EndpointHandle :=
  ((graph.next dds event).endpointHandlesOf nodeHandle).filter
    (fun handle => !(graph.endpointHandlesOf nodeHandle).contains handle)

end Event

/-! What the events of a run have drawn and given out. -/

def nodeAllocations (past : List (Graph × Event)) : Nat :=
  (past.map (fun visit => visit.2.nodeAllocations visit.1)).sum

def endpointAllocations (dds : Dds) (nodeHandle : NodeHandle) (past : List (Graph × Event)) :
    Nat :=
  (past.map (fun visit => visit.2.endpointAllocations dds visit.1 nodeHandle)).sum

def returnedNodeHandles (dds : Dds) (past : List (Graph × Event)) : List NodeHandle :=
  past.filterMap (fun visit => visit.2.returnedNodeHandle dds visit.1)

def assignedEndpointHandles (dds : Dds) (nodeHandle : NodeHandle)
    (past : List (Graph × Event)) : List EndpointHandle :=
  past.flatMap (fun visit => visit.2.assignedEndpointHandles dds visit.1 nodeHandle)

section

variable {dds : Dds} {past : List (Graph × Event)} {graph : Graph} {event : Event}
  {nodeHandle : NodeHandle}

@[simp] theorem nodeAllocations_concat :
    nodeAllocations (past ++ [(graph, event)]) =
      nodeAllocations past + event.nodeAllocations graph := by
  simp [nodeAllocations]

@[simp] theorem endpointAllocations_concat :
    endpointAllocations dds nodeHandle (past ++ [(graph, event)]) =
      endpointAllocations dds nodeHandle past +
        event.endpointAllocations dds graph nodeHandle := by
  simp [endpointAllocations]

@[simp] theorem returnedNodeHandles_concat :
    returnedNodeHandles dds (past ++ [(graph, event)]) =
      returnedNodeHandles dds past ++ (event.returnedNodeHandle dds graph).toList := by
  unfold returnedNodeHandles
  rw [List.filterMap_append]
  cases given : event.returnedNodeHandle dds graph <;> simp [given]

@[simp] theorem assignedEndpointHandles_concat :
    assignedEndpointHandles dds nodeHandle (past ++ [(graph, event)]) =
      assignedEndpointHandles dds nodeHandle past ++
        event.assignedEndpointHandles dds graph nodeHandle := by
  simp [assignedEndpointHandles]

end

namespace Graph

section

variable {dds : Dds} {env : CallEnv} {graph : Graph}

theorem mem_endpointHandlesOf {nodeHandle : NodeHandle} {handle : EndpointHandle} :
    handle ∈ graph.endpointHandlesOf nodeHandle ↔
      ∃ ptr node, graph.lookupLocalNodeByHandle nodeHandle = some (ptr, node) ∧
        ∃ endp ∈ node.endpoints, endp.handle = handle := by
  unfold endpointHandlesOf
  cases graph.lookupLocalNodeByHandle nodeHandle with
  | none => simp
  | some found =>
      obtain ⟨ptr, node⟩ := found
      simp

theorem HandlesDistinct.endpointHandlesOf (distinct : graph.HandlesDistinct) {node : GraphNode}
    (listed : node ∈ graph.nodes) :
    graph.endpointHandlesOf node.handle = node.endpoints.map (·.handle) := by
  obtain ⟨ptr, present⟩ := List.getElem?_of_mem listed
  simp only [Graph.endpointHandlesOf, distinct.lookup_self present]

theorem endpointHandlesOf_unlisted {nodeHandle : NodeHandle}
    (unlisted : ∀ node ∈ graph.nodes, node.handle ≠ nodeHandle) :
    graph.endpointHandlesOf nodeHandle = [] := by
  have absent : graph.lookupLocalNodeByHandle nodeHandle = none :=
    locate_eq_none_iff.mpr (by simpa using unlisted)
  simp only [endpointHandlesOf, absent]

/-! The counter of the graph moves in registrations of nodes only. -/

theorem inspectLocalNodeEA_nodeHandleNext (distinct : graph.HandlesDistinct) (ptr : NodePtr) :
    (graph.inspectLocalNodeEA dds env ptr).1.nodeHandleNext = graph.nodeHandleNext := by
  cases present : graph.nodes[ptr]? with
  | none => simp [inspectLocalNodeEA, present]
  | some node =>
      obtain ⟨actions, continues, left, _, ended⟩ :=
        @inspectLocalNodeEA_visited dds env graph ptr node distinct present
      rw [ended]
      rfl

@[simp] theorem finalizeNode_nodeHandleNext (ptr : NodePtr) :
    (graph.finalizeNode ptr).nodeHandleNext = graph.nodeHandleNext := by
  unfold finalizeNode
  split <;> rfl

theorem registration_nodeHandleNext {operation : Operation}
    {asked : NodeHandle × EndpointType × Option DataReader × Option DataWriter}
    (registers : operation.registration = some asked) :
    (operation.perform dds env graph).graph.nodeHandleNext = graph.nodeHandleNext := by
  obtain ⟨nodeHandle, endpType, ddsReader, ddsWriter⟩ := asked
  rw [Operation.perform_registration registers]
  unfold registerAndQueue registerLocalEndpoint
  cases graph.lookupLocalNodeByHandle nodeHandle with
  | none => rfl
  | some found =>
      obtain ⟨ptr, node⟩ := found
      dsimp only
      cases node.registerEndpoint dds env graph.endpointsPool endpType ddsReader ddsWriter with
      | mk pool left =>
          cases left with
          | mk left added => cases added <;> rfl

theorem removal_nodeHandleNext {operation : Operation}
    {asked : NodeHandle × (GraphNode → Option (EndpointPtr × GraphEndpoint))}
    (removes : operation.removal = some asked) :
    (operation.perform dds env graph).graph.nodeHandleNext = graph.nodeHandleNext := by
  obtain ⟨nodeHandle, search⟩ := asked
  rw [Operation.perform_removal removes]
  cases graph.lookupLocalNodeByHandle nodeHandle with
  | none => rfl
  | some found =>
      cases searched : search found.2 with
      | none => simp [searched, Outcome.ofRetcode]
      | some target =>
          simp [searched, Outcome.ofRetcode, finalizeEndpointAt, storeNode]

theorem perform_nodeHandleNext (distinct : graph.HandlesDistinct) {operation : Operation}
    (elsewhere : ∀ name space given, operation ≠ .registerLocalNode name space given) :
    (operation.perform dds env graph).graph.nodeHandleNext = graph.nodeHandleNext := by
  cases operation.family with
  | registersNode name space given => exact absurd rfl (elsewhere name space given)
  | inspectsNode node =>
      cases listed : graph.lookupLocalNodeByHandle node with
      | none => simp [Operation.perform, inspectLocalNode, listed, Outcome.ofRetcode]
      | some found =>
          exact (congrArg Graph.nodeHandleNext (inspectLocalNode_graph listed)).trans
            (inspectLocalNodeEA_nodeHandleNext distinct found.1)
  | removesNode node =>
      cases listed : graph.lookupLocalNodeByHandle node with
      | none => simp [Operation.perform, unregisterLocalNode, listed, Outcome.ofRetcode]
      | some found => simp [Operation.perform, unregisterLocalNode, listed, Outcome.ofRetcode]
  | registers registers => exact registration_nodeHandleNext registers
  | removes removes => exact removal_nodeHandleNext removes
  | null _ performed => rw [performed]

/-- The counter is ahead of the handle of every listed node. -/
structure Ahead (graph : Graph) : Prop where
  nonnegative : 0 ≤ graph.nodeHandleNext.toInt
  handles : ∀ node ∈ graph.nodes, node.handle.toInt < graph.nodeHandleNext.toInt

theorem nextNodeHandle_ahead (ahead : graph.Ahead)
    (room : graph.nodeHandleNext.toInt + 1 < 2 ^ 31) :
    graph.nextNodeHandle = (some graph.nodeHandleNext,
        { graph with nodeHandleNext := graph.nodeHandleNext + 1 }) ∧
      (graph.nodeHandleNext + 1).toInt = graph.nodeHandleNext.toInt + 1 := by
  have free : (graph.lookupLocalNodeByHandle graph.nodeHandleNext).isSome = false := by
    rw [Bool.eq_false_iff, ne_eq, lookup_node_isSome_iff]
    rintro ⟨node, member, same⟩
    have below := ahead.handles node member
    rw [same] at below
    exact absurd below (lt_irrefl _)
  obtain ⟨found, next⟩ := @searchHandle_free
    (fun handle => (graph.lookupLocalNodeByHandle handle).isSome) intMax _ ahead.nonnegative
    room free (by decide)
  exact ⟨by simp only [nextNodeHandle, found], next⟩

/-- What a registration of a node draws from the counter is what it may return. -/
structure NodeDraw (allocations : Nat) (graph : Graph) (outcome : Outcome NodeHandle) : Prop where
  counter : outcome.graph.nodeHandleNext.toInt = graph.nodeHandleNext.toInt + allocations
  returned : outcome.result ≠ NodeHandle.invalid →
    outcome.result = graph.nodeHandleNext ∧ allocations = 1

theorem registerLocalNode_draws (distinct : graph.HandlesDistinct) (ahead : graph.Ahead)
    (name space : Option CString) (given : Option DomainParticipant)
    (room : graph.nodeHandleNext.toInt +
      (Event.call env (.registerLocalNode name space given)).nodeAllocations graph < 2 ^ 31) :
    NodeDraw ((Event.call env (.registerLocalNode name space given)).nodeAllocations graph) graph
      (graph.registerLocalNode dds env name space given) := by
  have registration := @registerLocalNode_registration dds env graph name space given
  have refused : ∀ events, NodeDraw 0 graph ⟨graph, NodeHandle.invalid, events⟩ := fun events =>
    ⟨by simp, fun impossible => absurd rfl impossible⟩
  -- Past the lookup by name, one handle is drawn whatever happens to the node.
  have drawn : ∀ {named answer counter}, name = some named → refusesNames (some named) space = false →
      graph.lookupLocalNodeByName named space = none →
      graph.nextNodeHandle = (answer, { graph with nodeHandleNext := counter }) →
      ∀ final result events, final.nodeHandleNext = counter →
        (result ≠ NodeHandle.invalid → answer = some result) →
        NodeDraw ((Event.call env (.registerLocalNode name space given)).nodeAllocations graph)
          graph ⟨final, result, events⟩ := by
    rintro named answer counter rfl accepted unknown found final result events reached returned
    simp only [Event.nodeAllocations, accepted, unknown, Option.isSome_none, Bool.or_self,
      Bool.false_eq_true, if_false] at room ⊢
    obtain ⟨next, advanced⟩ := nextNodeHandle_ahead ahead (by simpa using room)
    cases next.symm.trans found
    exact ⟨by simp [reached, advanced], fun valid => ⟨(Option.some.inj (returned valid)).symm, rfl⟩⟩
  generalize graph.registerLocalNode dds env name space given = outcome at registration ⊢
  cases registration with
  | unnamed => exact refused _
  | refused refuses =>
      simp only [Event.nodeAllocations, refuses, Bool.true_or, if_true]
      exact refused _
  | known accepted listed =>
      simp only [Event.nodeAllocations, accepted, listed, Option.isSome_some, Bool.or_true, if_true]
      exact refused _
  | unnumbered accepted unknown found =>
      exact drawn rfl accepted unknown found _ _ _ rfl (fun impossible => absurd rfl impossible)
  | unallocated accepted unknown found =>
      exact drawn rfl accepted unknown found _ _ _ rfl (fun impossible => absurd rfl impossible)
  | uncopied links =>
      cases links with
      | linked accepted unknown found =>
          exact drawn rfl accepted unknown found _ _ _ (by simp [linkNode, nameNode])
            (fun impossible => absurd rfl impossible)
  | listed links =>
      cases links with
      | linked accepted unknown found =>
          exact drawn rfl accepted unknown found _ _ _ rfl (fun _ => rfl)
  | @inspected name handle linked final links _ _ ended =>
      have inspected := @inspectLocalNodeEA_nodeHandleNext dds env _
        (links.namedDistinct distinct (some name) (some (space.getD rootNamespace)))
        graph.nodes.length
      rw [ended] at inspected
      cases links with
      | linked accepted unknown found =>
          exact drawn rfl accepted unknown found _ _ _ inspected (fun _ => rfl)
  | @abandoned name handle linked final retcode links _ _ ended =>
      have inspected := @inspectLocalNodeEA_nodeHandleNext dds env _
        (links.namedDistinct distinct (some name) (some (space.getD rootNamespace)))
        graph.nodes.length
      rw [ended] at inspected
      cases links with
      | linked accepted unknown found =>
          exact drawn rfl accepted unknown found _ _ _
            ((finalizeNode_nodeHandleNext _).trans inspected)
            (fun impossible => absurd rfl impossible)

theorem endpointAllocations_registration {operation : Operation} {handle nodeHandle : NodeHandle}
    {endpType : EndpointType} {ddsReader : Option DataReader} {ddsWriter : Option DataWriter}
    {ptr : NodePtr} {node : GraphNode}
    (registers : operation.registration = some (handle, endpType, ddsReader, ddsWriter))
    (listed : graph.lookupLocalNodeByHandle handle = some (ptr, node)) :
    (Event.call env operation).endpointAllocations dds graph nodeHandle =
      if handle == nodeHandle ∧ node.Admits dds endpType ddsReader ddsWriter then 1 else 0 := by
  unfold Operation.registration at registers
  split at registers <;> cases registers <;>
    simp only [Event.endpointAllocations, Operation.registration, listed]

/-- What an event leaves of a node: the node itself under the same handle, some
draws later, or the one that it has registered. -/
def Traced (dds : Dds) (graph : Graph) (event : Event) (node : GraphNode) : Prop :=
  (∃ origin ∈ graph.nodes, origin.handle = node.handle ∧
      origin.Draws (event.endpointAllocations dds graph node.handle) node) ∨
    event.returnedNodeHandle dds graph = some node.handle ∧ ∃ blank : GraphNode, blank.IsBlank ∧
      blank.Draws (event.endpointAllocations dds graph node.handle) node

/-- The counter of every node has room for what the event draws for it. -/
structure RoomFor (dds : Dds) (graph : Graph) (event : Event) (nodeHandle : NodeHandle) : Prop where
  ahead : ∀ node ∈ graph.nodes, node.handle = nodeHandle → node.Ahead
  listed : ∀ node ∈ graph.nodes, node.handle = nodeHandle →
    node.endpHandleNext.toInt + event.endpointAllocations dds graph nodeHandle < 2 ^ 31
  blank : event.endpointAllocations dds graph nodeHandle < 2 ^ 31

theorem Traced.unchanged {event : Event} {node : GraphNode} (listed : node ∈ graph.nodes) :
    graph.Traced dds event node :=
  .inl ⟨node, listed, rfl, .refl node _⟩

theorem inspection_traced (distinct : graph.HandlesDistinct) {event : Event} {ptr : NodePtr}
    {node : GraphNode}
    (allocations : ∀ old, graph.nodes[ptr]? = some old → old.handle = node.handle →
      event.endpointAllocations dds graph node.handle = graph.inspectionAllocations dds env ptr)
    (room : graph.RoomFor dds event node.handle)
    (member : node ∈ (graph.inspectLocalNodeEA dds env ptr).1.nodes) :
    graph.Traced dds event node := by
  cases present : graph.nodes[ptr]? with
  | none =>
      simp only [inspectLocalNodeEA, present] at member
      exact .unchanged member
  | some old =>
      obtain ⟨pool, left, ended, same, draws⟩ :=
        @inspectLocalNodeEA_draws dds env graph ptr old distinct present
      rw [ended] at member
      rcases List.mem_or_eq_of_mem_set member with earlier | rfl
      · exact .unchanged earlier
      · have listed := List.mem_of_getElem? present
        rw [← allocations old present same.symm] at draws
        exact .inl ⟨old, listed, same.symm,
          draws (room.ahead old listed same.symm) (room.listed old listed same.symm)⟩

theorem next_traced (distinct : graph.HandlesDistinct) (event : Event) {node : GraphNode}
    (room : graph.RoomFor dds event node.handle)
    (member : node ∈ (graph.next dds event).nodes) : graph.Traced dds event node := by
  cases event with
  | poll env ptr =>
      apply inspection_traced distinct _ room member
      intro old present same
      simp only [Event.endpointAllocations, present, Option.any_some, same, beq_self_eq_true,
        if_true]
  | call env operation =>
      have inspection : ∀ handle, operation = .inspectLocalNode handle →
          graph.Traced dds (.call env operation) node := by
        rintro handle rfl
        cases listed : graph.lookupLocalNodeByHandle handle with
        | none =>
            simp only [next, Operation.perform, inspectLocalNode, listed] at member
            exact .unchanged member
        | some found =>
            obtain ⟨ptr, old⟩ := found
            obtain ⟨position, handleEq⟩ := lookup_node_found listed
            have performed : graph.next dds (.call env (.inspectLocalNode handle)) =
                (graph.inspectLocalNodeEA dds env ptr).1 := inspectLocalNode_graph listed
            rw [performed] at member
            apply inspection_traced distinct _ room member
            intro other present same
            cases position.symm.trans present
            rw [Event.endpointAllocations, listed]
            simp [← handleEq, same]
      have effect := @Operation.perform_effect dds env graph distinct operation
      have nextDistinct := (@next_evolves dds graph distinct (.call env operation)).distinct
      simp only [next] at member nextDistinct
      generalize performed : operation.perform dds env graph = outcome
        at effect member nextDistinct
      cases effect with
      | refused => exact .unchanged member
      | nodeRolledBack same => exact .unchanged (same ▸ member)
      | nodeRemoved =>
          rw [finalizeNode_nodes] at member
          exact .unchanged ((List.eraseIdx_sublist _ _).mem member)
      | inspected => exact inspection _ rfl
      | @nodeRegistered name space given handle blank visits actions left final _ _ nonnegative _
          isBlank handleEq _ _ _ effects _ appended _ =>
          rw [appended] at member
          rcases List.mem_append.mp member with earlier | added
          · exact .unchanged earlier
          · cases List.mem_singleton.mp added
            have changes : ReflTransGen (NodeChange dds True False) blank left.node :=
              effects.changes (fun _ => trivial)
            have sameHandle : handle = left.node.handle :=
              handleEq.symm.trans (nodeChanges_handle changes).symm
            have answer : (graph.registerLocalNode dds env (some name) space given).result =
                handle := Answer.handle.inj (congrArg Outcome.result performed)
            have reached : (graph.registerLocalNode dds env (some name) space given).graph =
                final := congrArg Outcome.graph performed
            have allocations : (Event.call env (.registerLocalNode (some name) space
                given)).endpointAllocations dds graph left.node.handle =
                  actions.count .register := by
              have listed : left.node ∈ final.nodes := by
                rw [appended]
                exact member
              simp only [Event.endpointAllocations, answer, reached, sameHandle, beq_self_eq_true,
                if_true]
              rw [nextDistinct.endpointHandlesOf listed, List.length_map,
                effects.completed_length, isBlank.endpoints]
              exact Nat.zero_add _
            refine .inr ⟨?_, blank, isBlank, ?_⟩
            · have valid := handle_ne_invalid nonnegative
              simp only [Event.returnedNodeHandle, answer, ← sameHandle]
              have invalid : (handle == NodeHandle.invalid) = false := by
                simpa [NodeHandle.invalid, EndpointHandle.invalid] using valid
              simp [invalid]
            · have few := room.blank
              rw [allocations] at few ⊢
              apply effects.draws
              · exact ⟨by simp [isBlank.endpHandleNext], by simp [isBlank.endpoints]⟩
              · simp only [isBlank.endpHandleNext, Int32.toInt_zero]
                omega
      | endpointRefused registers listed ran | endpointRegistered registers listed ran =>
          rcases List.mem_or_eq_of_mem_set member with earlier | rfl
          · exact .unchanged earlier
          · obtain ⟨position, handleEq⟩ := lookup_node_found listed
            have present := List.mem_of_getElem? position
            have same := GraphNode.registerEndpoint_handle ran
            have allocations := @endpointAllocations_registration dds env graph _ _ node.handle
              _ _ _ _ _ registers listed
            simp only [← handleEq, ← same, beq_self_eq_true, true_and] at allocations
            have draws := GraphNode.registerEndpoint_draws (room.ahead _ present same.symm)
              (fun admitted => by
                have inside := room.listed _ present same.symm
                rw [allocations, if_pos admitted] at inside
                simpa using inside) ran
            rw [← allocations] at draws
            exact .inl ⟨_, present, same.symm, draws⟩
      | endpointRemoved removes listed located =>
          rcases List.mem_or_eq_of_mem_set member with earlier | rfl
          · exact .unchanged earlier
          · obtain ⟨position, _⟩ := lookup_node_found listed
            have present := Operation.removal_getElem? removes located
            refine .inl ⟨_, List.mem_of_getElem? position, ?_, ?_⟩
            · simp [GraphNode.finalizeEndpoint, present]
            · apply GraphNode.Draws.ofHandles
              · simp [GraphNode.finalizeEndpoint, present]
              · intro endp kept
                exact ⟨endp, (GraphNode.finalizeEndpoint_sublist _ _ _).mem kept, rfl⟩

/-- The counter after an event, and the handle that the event may return. -/
structure CounterStep (dds : Dds) (graph : Graph) (event : Event) : Prop where
  counter : (graph.next dds event).nodeHandleNext.toInt =
    graph.nodeHandleNext.toInt + event.nodeAllocations graph
  returned : ∀ handle, event.returnedNodeHandle dds graph = some handle →
    handle = graph.nodeHandleNext ∧ event.nodeAllocations graph = 1

theorem next_counter (distinct : graph.HandlesDistinct) (ahead : graph.Ahead) (event : Event)
    (room : graph.nodeHandleNext.toInt + event.nodeAllocations graph < 2 ^ 31) :
    graph.CounterStep dds event := by
  cases event with
  | poll env ptr =>
      constructor
      · simp [Event.nodeAllocations, next, inspectLocalNodeEA_nodeHandleNext distinct]
      · simp [Event.returnedNodeHandle]
  | call env operation =>
      by_cases registers : ∃ name space given, operation = .registerLocalNode name space given
      · obtain ⟨name, space, given, rfl⟩ := registers
        have draws := @registerLocalNode_draws dds env graph distinct ahead name space given room
        refine ⟨draws.counter, fun handle returned => ?_⟩
        simp only [Event.returnedNodeHandle] at returned
        split at returned
        · cases returned
        · next valid =>
          cases returned
          exact draws.returned (by simpa using valid)
      · have elsewhere : ∀ name space given, operation ≠ .registerLocalNode name space given :=
          fun name space given same => registers ⟨name, space, given, same⟩
        have kept := @perform_nodeHandleNext dds env graph distinct operation elsewhere
        cases operation with
        | registerLocalNode name space given => exact absurd rfl (elsewhere name space given)
        | _ =>
            constructor
            · simpa [Event.nodeAllocations, next] using congrArg Int32.toInt kept
            · simp [Event.returnedNodeHandle]

end

theorem Registers.returned {dds : Dds} {graph : Graph} {event : Event} {node : GraphNode}
    (registers : event.Registers dds graph node) :
    event.returnedNodeHandle dds graph = some node.handle := by
  obtain ⟨env, name, space, given, rfl, _, answer, nonnegative, _⟩ := registers
  have invalid : (node.handle == NodeHandle.invalid) = false := by
    simpa [NodeHandle.invalid, EndpointHandle.invalid] using handle_ne_invalid nonnegative
  simp [Event.returnedNodeHandle, answer, invalid]

/-- The node handles given out so far, against the counter and the nodes. -/
structure NodeHistory (dds : Dds) (past : List (Graph × Event)) (graph : Graph) : Prop where
  ahead : graph.Ahead
  counted : graph.nodeHandleNext.toInt ≤ nodeAllocations past
  distinct : (returnedNodeHandles dds past).Nodup
  below : ∀ handle ∈ returnedNodeHandles dds past, handle.toInt < graph.nodeHandleNext.toInt
  listed : ∀ node ∈ graph.nodes, node.handle ∈ returnedNodeHandles dds past

/-- The endpoint handles assigned within one node so far, against its counter. -/
structure EndpointHistory (dds : Dds) (past : List (Graph × Event)) (graph : Graph)
    (nodeHandle : NodeHandle) : Prop where
  distinct : (assignedEndpointHandles dds nodeHandle past).Nodup
  ahead : ∀ node ∈ graph.nodes, node.handle = nodeHandle → node.Ahead
  counted : ∀ node ∈ graph.nodes, node.handle = nodeHandle →
    node.endpHandleNext.toInt ≤ endpointAllocations dds nodeHandle past
  below : ∀ node ∈ graph.nodes, node.handle = nodeHandle →
    ∀ handle ∈ assignedEndpointHandles dds nodeHandle past,
      handle.toInt < node.endpHandleNext.toInt
  unborn : graph.nodeHandleNext.toInt ≤ nodeHandle.toInt →
    assignedEndpointHandles dds nodeHandle past = []

section

variable {dds : Dds} {past : List (Graph × Event)} {graph : Graph} {event : Event}
  {nodeHandle : NodeHandle}

theorem IsInitial.nodeHistory (started : graph.IsInitial) : graph.NodeHistory dds [] := by
  obtain ⟨participant, period, rfl⟩ := started
  constructor
  · exact ⟨Int.le_refl 0, by simp [initial]⟩
  · exact Int.le_refl 0
  · exact List.nodup_nil
  · simp [returnedNodeHandles]
  · simp [initial]

theorem NodeHistory.next (history : graph.NodeHistory dds past)
    (distinct : graph.HandlesDistinct)
    (few : nodeAllocations (past ++ [(graph, event)]) < 2 ^ 31) :
    (graph.next dds event).NodeHistory dds (past ++ [(graph, event)]) := by
  have counted := history.counted
  rw [nodeAllocations_concat] at few
  have step := @next_counter dds graph distinct history.ahead event (by omega)
  have counter := step.counter
  have nonnegative := history.ahead.nonnegative
  have returnedBelow : ∀ handle, event.returnedNodeHandle dds graph = some handle →
      handle.toInt < (graph.next dds event).nodeHandleNext.toInt := by
    intro handle returned
    obtain ⟨rfl, one⟩ := step.returned handle returned
    omega
  have listed : ∀ node ∈ (graph.next dds event).nodes,
      node.handle ∈ returnedNodeHandles dds past ∨
        event.returnedNodeHandle dds graph = some node.handle := by
    intro node member
    rcases next_origin distinct event member with ⟨origin, present, same, _⟩ | registers
    · exact .inl (same ▸ history.listed origin present)
    · exact .inr (Registers.returned registers)
  constructor
  · refine ⟨by omega, fun node member => ?_⟩
    rcases listed node member with earlier | returned
    · have below := history.below node.handle earlier
      omega
    · exact returnedBelow node.handle returned
  · rw [nodeAllocations_concat]
    omega
  · rw [returnedNodeHandles_concat]
    refine List.nodup_append.mpr ⟨history.distinct, ?_, ?_⟩
    · cases event.returnedNodeHandle dds graph <;> simp
    · intro handle earlier other given same
      obtain ⟨rfl, _⟩ := step.returned other (by simpa using given)
      have below := history.below handle earlier
      rw [same] at below
      exact absurd below (lt_irrefl _)
  · intro handle member
    rw [returnedNodeHandles_concat] at member
    rcases List.mem_append.mp member with earlier | given
    · have below := history.below handle earlier
      omega
    · exact returnedBelow handle (by simpa using given)
  · intro node member
    rw [returnedNodeHandles_concat, List.mem_append]
    exact (listed node member).imp id (fun returned => by simp [returned])

theorem Run.nodeHistory (run : Run dds past graph) (few : nodeAllocations past < 2 ^ 31) :
    graph.NodeHistory dds past := by
  induction run with
  | start started => exact started.nodeHistory
  | @extend past state following event earlier stepped ih =>
      subst stepped
      have before := few
      rw [nodeAllocations_concat] at before
      exact (ih (by omega)).next (Run.distinct earlier) few

theorem IsInitial.endpointHistory (started : graph.IsInitial) (nodeHandle : NodeHandle) :
    graph.EndpointHistory dds [] nodeHandle := by
  obtain ⟨participant, period, rfl⟩ := started
  constructor
  · exact List.nodup_nil
  · simp [initial]
  · simp [initial]
  · simp [initial]
  · exact fun _ => rfl

/-- What the node gains in an event, it has drawn from its counter: from `base`
upwards, and everything assigned earlier lies below. -/
private theorem EndpointHistory.gained (history : graph.EndpointHistory dds past nodeHandle)
    (distinct : graph.HandlesDistinct) (step : graph.CounterStep dds event)
    (few : endpointAllocations dds nodeHandle past +
      event.endpointAllocations dds graph nodeHandle < 2 ^ 31) {node : GraphNode}
    (member : node ∈ (graph.next dds event).nodes) (same : node.handle = nodeHandle) :
    node.Ahead ∧ node.endpHandleNext.toInt ≤ endpointAllocations dds nodeHandle past +
        event.endpointAllocations dds graph nodeHandle ∧
      ∃ base : Int, base ≤ node.endpHandleNext.toInt ∧
        (∀ handle ∈ assignedEndpointHandles dds nodeHandle past, handle.toInt < base) ∧
        ∀ handle ∈ event.assignedEndpointHandles dds graph nodeHandle,
          base ≤ handle.toInt ∧ handle.toInt < node.endpHandleNext.toInt := by
  subst same
  have room : graph.RoomFor dds event node.handle := by
    refine ⟨history.ahead, fun origin listed same => ?_, by omega⟩
    have counted := history.counted origin listed same
    omega
  have nextDistinct := (@next_evolves dds graph distinct event).distinct
  have listedNow : ∀ handle ∈ event.assignedEndpointHandles dds graph node.handle,
      (∃ endp ∈ node.endpoints, endp.handle = handle) ∧
        handle ∉ graph.endpointHandlesOf node.handle := by
    intro handle assigned
    rw [Event.assignedEndpointHandles, nextDistinct.endpointHandlesOf member] at assigned
    simpa using assigned
  rcases next_traced distinct event room member with
    ⟨origin, listed, same, draws⟩ | ⟨returned, blank, isBlank, draws⟩
  · have ahead := history.ahead origin listed same
    have counted := history.counted origin listed same
    have bounded := draws.bounded
    refine ⟨draws.ahead ahead, by omega, origin.endpHandleNext.toInt, draws.advances,
      history.below origin listed same, fun handle assigned => ?_⟩
    obtain ⟨⟨endp, present, rfl⟩, absent⟩ := listedNow handle assigned
    rcases draws.fresh endp present with ⟨old, oldListed, oldSame⟩ | drawn
    · rw [← same, distinct.endpointHandlesOf listed, ← oldSame] at absent
      exact absurd (List.mem_map_of_mem oldListed) absent
    · exact drawn
  · obtain ⟨next, _⟩ := step.returned node.handle returned
    have blankAhead : blank.Ahead := ⟨by simp [isBlank.endpHandleNext], by simp [isBlank.endpoints]⟩
    have bounded := draws.bounded
    have advances := draws.advances
    simp only [isBlank.endpHandleNext, Int32.toInt_zero] at bounded advances
    refine ⟨draws.ahead blankAhead, by omega, 0, advances, ?_, fun handle assigned => ?_⟩
    · rw [history.unborn (by rw [next])]
      simp
    · obtain ⟨⟨endp, present, rfl⟩, _⟩ := listedNow handle assigned
      have drawn := draws.fresh endp present
      simpa [isBlank.endpoints, isBlank.endpHandleNext] using drawn

theorem EndpointHistory.next (history : graph.EndpointHistory dds past nodeHandle)
    (nodes : graph.NodeHistory dds past) (distinct : graph.HandlesDistinct)
    (numbered : ∀ node ∈ (graph.next dds event).nodes, node.Numbered)
    (fewNodes : nodeAllocations (past ++ [(graph, event)]) < 2 ^ 31)
    (few : endpointAllocations dds nodeHandle (past ++ [(graph, event)]) < 2 ^ 31) :
    (graph.next dds event).EndpointHistory dds (past ++ [(graph, event)]) nodeHandle := by
  have nextDistinct := (@next_evolves dds graph distinct event).distinct
  have nextNodes := @NodeHistory.next dds past graph event nodes distinct fewNodes
  rw [nodeAllocations_concat] at fewNodes
  have counted := nodes.counted
  have step := @next_counter dds graph distinct nodes.ahead event (by omega)
  have counter := step.counter
  rw [endpointAllocations_concat] at few
  by_cases present : ∃ node ∈ (graph.next dds event).nodes, node.handle = nodeHandle
  · obtain ⟨node, member, rfl⟩ := present
    obtain ⟨ahead, bounded, base, reached, below, drawn⟩ :=
      history.gained distinct step few member rfl
    have alone : ∀ other ∈ (graph.next dds event).nodes, other.handle = node.handle →
        other = node :=
      fun other listed same => List.inj_on_of_nodup_map nextDistinct listed member same
    constructor
    · rw [assignedEndpointHandles_concat]
      refine List.nodup_append.mpr ⟨history.distinct, ?_, ?_⟩
      · rw [Event.assignedEndpointHandles, nextDistinct.endpointHandlesOf member]
        exact (numbered node member).distinct.filter _
      · intro handle earlier other assigned same
        have lower := below handle earlier
        have upper := (drawn other assigned).1
        rw [same] at lower
        omega
    · intro other listed same
      rw [alone other listed same]
      exact ahead
    · intro other listed same
      rw [alone other listed same, endpointAllocations_concat]
      exact_mod_cast bounded
    · intro other listed same handle assigned
      rw [alone other listed same]
      rw [assignedEndpointHandles_concat] at assigned
      rcases List.mem_append.mp assigned with earlier | now
      · have lower := below handle earlier
        omega
      · exact (drawn handle now).2
    · intro later
      have listed := nextNodes.ahead.handles node member
      omega
  · have unlisted : ∀ node ∈ (graph.next dds event).nodes, node.handle ≠ nodeHandle :=
      fun node member same => present ⟨node, member, same⟩
    have nothing : event.assignedEndpointHandles dds graph nodeHandle = [] := by
      rw [Event.assignedEndpointHandles, endpointHandlesOf_unlisted unlisted]
      rfl
    constructor
    · rw [assignedEndpointHandles_concat, nothing, List.append_nil]
      exact history.distinct
    · exact fun node member same => absurd same (unlisted node member)
    · exact fun node member same => absurd same (unlisted node member)
    · exact fun node member same => absurd same (unlisted node member)
    · intro later
      rw [assignedEndpointHandles_concat, nothing, history.unborn (by omega)]
      rfl

theorem Run.endpointHistory (run : Run dds past graph) (fewNodes : nodeAllocations past < 2 ^ 31)
    (few : endpointAllocations dds nodeHandle past < 2 ^ 31) :
    graph.EndpointHistory dds past nodeHandle := by
  induction run with
  | start started => exact started.endpointHistory nodeHandle
  | @extend past state following event earlier stepped ih =>
      have numbered := Run.numbered (earlier.extend stepped)
      subst stepped
      have nodesBefore := fewNodes
      have before := few
      rw [nodeAllocations_concat] at nodesBefore
      rw [endpointAllocations_concat] at before
      exact (ih (by omega) (by omega)).next (Run.nodeHistory earlier (by omega))
        (Run.distinct earlier) numbered fewNodes few

end

end Graph

end Ros2Graph
