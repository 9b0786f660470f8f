import Mathlib.Algebra.GroupWithZero.Nat
import Ros2Graph.Registry.Counters
import Ros2Graph.Registry.Names

/-! The representation invariant of the registry: its length, its handles, its
names and what its two pools have handed out, in every reachable state. -/

set_option autoImplicit false

namespace Ros2Graph

open Foundation Relation SemEvent

/-- The pool has moved by as many buffers as the node has endpoints more or less. -/
def Balances (pool : FastBufferPool) (node : GraphNode) (after : FastBufferPool)
    (left : GraphNode) : Prop :=
  after.outstanding + node.endpoints.length = pool.outstanding + left.endpoints.length

section

variable {dds : Dds} {env : CallEnv}

theorem GraphNode.registerEndpoint_balances {node left : GraphNode}
    {pool after : FastBufferPool} {endpType : EndpointType} {ddsReader : Option DataReader}
    {ddsWriter : Option DataWriter} {added : Option GraphEndpoint}
    (ran : node.registerEndpoint dds env pool endpType ddsReader ddsWriter =
      (after, left, added)) : Balances pool node after left := by
  rcases GraphNode.registerEndpoint_cases with
    ⟨counter, failed⟩ | ⟨handle, counter, _, _, _, _, done⟩
  · cases ran.symm.trans failed
    rfl
  · cases ran.symm.trans done
    simp only [Balances, GraphNode.linkEndpoint, List.length_append, List.length_singleton]
    omega

theorem GraphNode.finalizeEndpoint_pool {node : GraphNode} {pool : FastBufferPool}
    {ptr : EndpointPtr} {endp : GraphEndpoint} (listed : node.endpoints[ptr]? = some endp) :
    (node.finalizeEndpoint pool ptr).1 = pool.returnBuffer := by
  simp [finalizeEndpoint, listed]

theorem GraphNode.finalizeEndpoint_balances {node : GraphNode} {pool : FastBufferPool}
    {ptr : EndpointPtr} {endp : GraphEndpoint} (listed : node.endpoints[ptr]? = some endp)
    (granted : 0 < pool.outstanding) :
    Balances pool node (node.finalizeEndpoint pool ptr).1 (node.finalizeEndpoint pool ptr).2 := by
  obtain ⟨front, rest, split, rfl⟩ := split_at_position listed
  unfold Balances
  rw [finalizeEndpoint_pool listed, finalizeEndpoint_endpoints, split, eraseIdx_at_split]
  simp only [FastBufferPool.returnBuffer, List.length_append, List.length_cons]
  omega

theorem VisitEffect.balances {scope left : Scope} {visit : Visit} {action : Action}
    {continues : Bool} (effect : VisitEffect dds env scope visit action continues left) :
    Balances scope.pool scope.node left.pool left.node := by
  cases effect with
  | registerWriter _ _ _ _ ran => exact GraphNode.registerEndpoint_balances ran
  | registerReader _ _ _ _ ran => exact GraphNode.registerEndpoint_balances ran
  | attached => simp [Balances]
  | _ => rfl

theorem VisitedAll.balances {scope left : Scope} {visits : List Visit} {actions : List Action}
    {continues : Bool} (effects : VisitedAll dds env scope visits actions continues left) :
    Balances scope.pool scope.node left.pool left.node := by
  induction effects with
  | nil => rfl
  | stop effect => exact effect.balances
  | next effect _ ih =>
      have first := effect.balances
      unfold Balances at first ih ⊢
      omega

end

namespace Graph

def listedEndpoints (graph : Graph) : Nat :=
  (graph.nodes.map (fun node => node.endpoints.length)).sum

/-- The graph's own count of its nodes and the counts of its pools agree with
what it lists; its participant is the one it was created with. -/
structure Accounted (participant : DomainParticipant) (graph : Graph) : Prop where
  nodesLen : graph.nodesLen = UInt64.ofNat graph.nodes.length
  nodesPool : graph.nodesPool.outstanding = graph.nodes.length
  endpointsPool : graph.endpointsPool.outstanding = graph.listedEndpoints
  graphParticipant : graph.graphParticipant = participant

section

variable {participant : DomainParticipant} {graph : Graph}

theorem Accounted.storeNode (accounted : graph.Accounted participant) {ptr : NodePtr}
    {node left : GraphNode} {pool : FastBufferPool} (present : graph.nodes[ptr]? = some node)
    (balances : Balances graph.endpointsPool node pool left) :
    (graph.storeNode ptr pool left).Accounted participant := by
  obtain ⟨front, rest, split, rfl⟩ := split_at_position present
  have counted := accounted.endpointsPool
  simp only [listedEndpoints, split, List.map_append, List.map_cons, List.sum_append,
    List.sum_cons] at counted
  unfold Balances at balances
  constructor
  · simpa [Graph.storeNode] using accounted.nodesLen
  · simpa [Graph.storeNode] using accounted.nodesPool
  · simp only [listedEndpoints, Graph.storeNode, split, set_at_split, List.map_append,
      List.map_cons, List.sum_append, List.sum_cons]
    omega
  · exact accounted.graphParticipant

theorem Accounted.finalizeEndpointAt (accounted : graph.Accounted participant) {ptr : NodePtr}
    {node : GraphNode} {endpPtr : EndpointPtr} {endp : GraphEndpoint}
    (present : graph.nodes[ptr]? = some node) (listed : node.endpoints[endpPtr]? = some endp) :
    (graph.finalizeEndpointAt ptr node endpPtr).Accounted participant := by
  apply accounted.storeNode present
  apply GraphNode.finalizeEndpoint_balances listed
  have counted := accounted.endpointsPool
  have some_endpoint := List.length_pos_of_mem (List.mem_of_getElem? listed)
  obtain ⟨before, after, split, _⟩ := split_at_position present
  simp only [listedEndpoints, split, List.map_append, List.map_cons, List.sum_append,
    List.sum_cons] at counted
  omega

/-- Finalizing endpoints from the front of a list returns one buffer each. -/
private theorem finalizeEndpoints_outstanding (pool : FastBufferPool) (node : GraphNode)
    (turns : List GraphEndpoint) (enough : turns.length ≤ node.endpoints.length) :
    (turns.foldl (fun scope _ => GraphNode.finalizeEndpoint scope.1 scope.2 0)
      (pool, node)).1.outstanding = pool.outstanding - turns.length := by
  induction turns generalizing pool node with
  | nil => rfl
  | cons turn rest ih =>
      cases listed : node.endpoints with
      | nil => simp [listed] at enough
      | cons head tail =>
          have shorter : (node.finalizeEndpoint pool 0).2.endpoints = tail := by
            rw [GraphNode.finalizeEndpoint_endpoints, listed]
            rfl
          have first : node.endpoints[0]? = some head := by simp [listed]
          rw [List.foldl_cons, ih _ _ (by rw [shorter]; simpa [listed] using enough),
            GraphNode.finalizeEndpoint_pool first]
          simp only [FastBufferPool.returnBuffer, List.length_cons]
          omega

theorem Accounted.finalizeNode (accounted : graph.Accounted participant) (ptr : NodePtr) :
    (graph.finalizeNode ptr).Accounted participant := by
  unfold Graph.finalizeNode
  cases present : graph.nodes[ptr]? with
  | none => exact accounted
  | some node =>
      obtain ⟨front, rest, split, rfl⟩ := split_at_position present
      have lengths := accounted.nodesLen
      have pooled := accounted.nodesPool
      have counted := accounted.endpointsPool
      simp only [listedEndpoints, split, List.length_append, List.length_cons, List.map_append,
        List.map_cons, List.sum_append, List.sum_cons] at lengths pooled counted
      constructor
      · simp only [split, eraseIdx_at_split, List.length_append, lengths]
        rw [← Nat.add_assoc, UInt64.ofNat_add]
        simp
      · simp only [split, eraseIdx_at_split, List.length_append, FastBufferPool.returnBuffer]
        omega
      · have returned := finalizeEndpoints_outstanding graph.endpointsPool node node.endpoints
          (Nat.le_refl _)
        simp only [listedEndpoints, split, eraseIdx_at_split, List.map_append, List.sum_append]
        rw [returned]
        omega
      · exact accounted.graphParticipant

theorem Accounted.linkNode (accounted : graph.Accounted participant) {pool : FastBufferPool}
    {answer : Nat → Bool} (granted : graph.nodesPool.getBuffer answer = some pool)
    (handle : NodeHandle) (given : Option DomainParticipant) :
    (graph.linkNode pool handle given).Accounted participant := by
  have taken : pool.outstanding = graph.nodesPool.outstanding + 1 := by
    rw [(FastBufferPool.getBuffer_eq_some granted).2]
  constructor
  · simp [Graph.linkNode, accounted.nodesLen, UInt64.ofNat_add]
  · simp [Graph.linkNode, taken, accounted.nodesPool]
  · simp [Graph.linkNode, listedEndpoints, accounted.endpointsPool]
  · exact accounted.graphParticipant

/-- What no name has a part in is the same for the nodes of the renamed graph. -/
theorem nameNode_map {β : Type} (view : GraphNode → β)
    (same : ∀ node name space,
      view { node with nodeName := name, nodeNamespace := space } = view node)
    (graph : Graph) (ptr : NodePtr) (name space : Option CString) :
    (graph.nameNode ptr name space).nodes.map view = graph.nodes.map view := by
  unfold Graph.nameNode
  dsimp only
  induction graph.nodes generalizing ptr with
  | nil => simp
  | cons head tail ih =>
      cases ptr with
      | zero => simp [same]
      | succ ptr => simpa using ih ptr

theorem Accounted.nameNode (accounted : graph.Accounted participant) (ptr : NodePtr)
    (name space : Option CString) :
    (graph.nameNode ptr name space).Accounted participant := by
  constructor
  · simpa [Graph.nameNode] using accounted.nodesLen
  · simpa [Graph.nameNode] using accounted.nodesPool
  · unfold listedEndpoints
    rw [nameNode_map _ (fun _ _ _ => rfl)]
    exact accounted.endpointsPool
  · exact accounted.graphParticipant

theorem Accounted.inspectLocalNodeEA (accounted : graph.Accounted participant)
    (distinct : graph.HandlesDistinct) (dds : Dds) (env : CallEnv) (ptr : NodePtr) :
    (graph.inspectLocalNodeEA dds env ptr).1.Accounted participant := by
  cases present : graph.nodes[ptr]? with
  | none => simpa [Graph.inspectLocalNodeEA, present] using accounted
  | some node =>
      obtain ⟨actions, continues, left, effects, ended⟩ :=
        @inspectLocalNodeEA_visited dds env graph ptr node distinct present
      rw [ended]
      exact accounted.storeNode present effects.balances

theorem IsInitial.accounted (started : graph.IsInitial) :
    graph.Accounted graph.graphParticipant := by
  obtain ⟨given, period, rfl⟩ := started
  exact ⟨rfl, rfl, rfl, rfl⟩

end

/-- The graph that a registration links a node into lists its handles once. -/
theorem HandlesDistinct.linked {graph : Graph} (distinct : graph.HandlesDistinct)
    {pool : FastBufferPool} {handle : NodeHandle}
    (free : ∀ node ∈ graph.nodes, node.handle ≠ handle) (given : Option DomainParticipant)
    (name space : Option CString) :
    ((graph.linkNode pool handle given).nameNode graph.nodes.length name space).HandlesDistinct := by
  unfold HandlesDistinct
  rw [nameNode_map _ (fun _ _ _ => rfl)]
  exact distinct.append free

section

variable {dds : Dds} {env : CallEnv} {participant : DomainParticipant} {graph : Graph}

theorem LinksNode.accounted {name : CString} {space : Option CString}
    {given : Option DomainParticipant} {handle : NodeHandle} {linked : Graph}
    (links : graph.LinksNode env name space given handle linked)
    (accounted : graph.Accounted participant) : linked.Accounted participant := by
  cases links with
  | @linked counter _ _ _ _ granted =>
      have counted : ({ graph with nodeHandleNext := counter } : Graph).Accounted participant :=
        ⟨accounted.nodesLen, accounted.nodesPool, accounted.endpointsPool,
          accounted.graphParticipant⟩
      exact counted.linkNode granted handle given

theorem LinksNode.namedDistinct {name : CString} {space : Option CString}
    {given : Option DomainParticipant} {handle : NodeHandle} {linked : Graph}
    (links : graph.LinksNode env name space given handle linked)
    (distinct : graph.HandlesDistinct) (nodeName nodeNamespace : Option CString) :
    (linked.nameNode graph.nodes.length nodeName nodeNamespace).HandlesDistinct := by
  cases links with
  | @linked counter pool _ _ found =>
      obtain ⟨_, free⟩ := nextNodeHandle_found (congrArg Prod.fst found)
      exact @HandlesDistinct.linked { graph with nodeHandleNext := counter } distinct pool handle
        free given nodeName nodeNamespace

theorem Accounted.registerLocalNode (accounted : graph.Accounted participant)
    (distinct : graph.HandlesDistinct) (name space : Option CString)
    (given : Option DomainParticipant) :
    (graph.registerLocalNode dds env name space given).graph.Accounted participant := by
  have registration := @registerLocalNode_registration dds env graph name space given
  generalize graph.registerLocalNode dds env name space given = outcome at registration ⊢
  cases registration with
  | unnamed | refused | known => exact accounted
  | unnumbered | unallocated =>
      exact ⟨accounted.nodesLen, accounted.nodesPool, accounted.endpointsPool,
        accounted.graphParticipant⟩
  | uncopied links => exact ((links.accounted accounted).nameNode _ _ _).finalizeNode _
  | listed links => exact (links.accounted accounted).nameNode _ _ _
  | @inspected name handle linked final links _ _ ended =>
      have named := (links.accounted accounted).nameNode graph.nodes.length (some name)
        (some (space.getD rootNamespace))
      have inspected := named.inspectLocalNodeEA (links.namedDistinct distinct _ _) dds env
        graph.nodes.length
      rw [ended] at inspected
      exact inspected
  | @abandoned name handle linked final retcode links _ _ ended =>
      have named := (links.accounted accounted).nameNode graph.nodes.length (some name)
        (some (space.getD rootNamespace))
      have inspected := named.inspectLocalNodeEA (links.namedDistinct distinct _ _) dds env
        graph.nodes.length
      rw [ended] at inspected
      exact inspected.finalizeNode _

theorem Accounted.perform (accounted : graph.Accounted participant)
    (distinct : graph.HandlesDistinct) (operation : Operation) :
    (operation.perform dds env graph).graph.Accounted participant := by
  have effect := @Operation.perform_effect dds env graph distinct operation
  have registration : ∀ name space given, operation = .registerLocalNode name space given →
      (operation.perform dds env graph).graph.Accounted participant := by
    rintro name space given rfl
    exact accounted.registerLocalNode distinct name space given
  generalize operation.perform dds env graph = outcome at effect registration ⊢
  cases effect with
  | refused =>
      exact ⟨accounted.nodesLen, accounted.nodesPool, accounted.endpointsPool,
        accounted.graphParticipant⟩
  | nodeRolledBack => exact registration _ _ _ rfl
  | nodeRegistered => exact registration _ _ _ rfl
  | nodeRemoved => exact accounted.finalizeNode _
  | inspected listed effects =>
      exact accounted.storeNode (lookup_node_found listed).1 effects.balances
  | endpointRefused _ listed ran | endpointRegistered _ listed ran =>
      exact accounted.storeNode (lookup_node_found listed).1
        (GraphNode.registerEndpoint_balances ran)
  | endpointRemoved removes listed located =>
      exact accounted.finalizeEndpointAt (lookup_node_found listed).1
        (Operation.removal_getElem? removes located)

theorem Accounted.next (accounted : graph.Accounted participant)
    (distinct : graph.HandlesDistinct) (event : Event) :
    (graph.next dds event).Accounted participant := by
  cases event with
  | call env operation => exact accounted.perform distinct operation
  | poll env ptr => exact accounted.inspectLocalNodeEA distinct dds env ptr

theorem Run.accounted {past : List (Graph × Event)} (run : Run dds past graph) :
    graph.Accounted graph.graphParticipant ∧
      ∀ visit ∈ past, visit.1.graphParticipant = graph.graphParticipant := by
  induction run with
  | start started => exact ⟨started.accounted, by simp⟩
  | @extend past state following event earlier stepped ih =>
      have onward := @Accounted.next dds _ _ ih.1 (Run.distinct earlier) event
      rw [← stepped] at onward
      rw [onward.graphParticipant]
      refine ⟨onward, fun visit member => ?_⟩
      rcases List.mem_append.mp member with before | last
      · exact ih.2 visit before
      · cases List.mem_singleton.mp last
        rfl

end

end Graph

/-- The event is the call that has registered the node: its arguments were
accepted, and the caller has the node's handle. -/
def Event.Registers (dds : Dds) (graph : Graph) (event : Event) (node : GraphNode) : Prop :=
  ∃ env name space given, event = .call env (.registerLocalNode (some name) space given) ∧
    Graph.refusesNames (some name) space = false ∧
    (graph.registerLocalNode dds env (some name) space given).result = node.handle ∧
    0 ≤ node.handle ∧
    node.identity = ((some name, some (space.getD rootNamespace)),
      given.getD graph.graphParticipant)

namespace Graph

section

variable {dds : Dds} {graph : Graph}

private theorem storeNode_origin {ptr : NodePtr} {node left listed : GraphNode}
    {pool : FastBufferPool} (present : graph.nodes[ptr]? = some node)
    (handle : left.handle = node.handle) (identity : left.identity = node.identity)
    (member : listed ∈ (graph.storeNode ptr pool left).nodes) :
    ∃ origin ∈ graph.nodes, listed.handle = origin.handle ∧
      listed.identity = origin.identity := by
  rcases List.mem_or_eq_of_mem_set member with earlier | rfl
  · exact ⟨listed, earlier, rfl, rfl⟩
  · exact ⟨node, List.mem_of_getElem? present, handle, identity⟩

/-- Every node listed after an event was listed before it, under the same
handle and names, or has been registered by it. -/
theorem next_origin (distinct : graph.HandlesDistinct) (event : Event) {node : GraphNode}
    (member : node ∈ (graph.next dds event).nodes) :
    (∃ origin ∈ graph.nodes, node.handle = origin.handle ∧ node.identity = origin.identity) ∨
      event.Registers dds graph node := by
  cases event with
  | poll env ptr =>
      cases present : graph.nodes[ptr]? with
      | none =>
          simp only [next, inspectLocalNodeEA, present] at member
          exact .inl ⟨node, member, rfl, rfl⟩
      | some old =>
          obtain ⟨actions, continues, left, effects, ended⟩ :=
            @inspectLocalNodeEA_visited dds env graph ptr old distinct present
          have changes : ReflTransGen (NodeChange dds True False) old left.node :=
            effects.changes (fun _ => trivial)
          simp only [next, ended] at member
          exact .inl (storeNode_origin present (nodeChanges_handle changes)
            (nodeChanges_identity changes) member)
  | call env operation =>
      have effect := @Operation.perform_effect dds env graph distinct operation
      simp only [next] at member
      generalize performed : operation.perform dds env graph = outcome at effect member
      cases effect with
      | refused => exact .inl ⟨node, member, rfl, rfl⟩
      | nodeRolledBack same => exact .inl ⟨node, same ▸ member, rfl, rfl⟩
      | @nodeRegistered name space given handle blank visits actions left final accepted _
          nonnegative _ _ handleEq nameEq spaceEq participantEq effects _ appended _ =>
          rw [appended] at member
          rcases List.mem_append.mp member with earlier | added
          · exact .inl ⟨node, earlier, rfl, rfl⟩
          · cases List.mem_singleton.mp added
            have changes : ReflTransGen (NodeChange dds True False) blank left.node :=
              effects.changes (fun _ => trivial)
            have sameHandle : left.node.handle = handle :=
              (nodeChanges_handle changes).trans handleEq
            have answer : (graph.registerLocalNode dds env (some name) space given).result =
                handle := by
              have result := congrArg Outcome.result performed
              exact Answer.handle.inj result
            refine .inr ⟨env, name, space, given, rfl, accepted, answer.trans sameHandle.symm,
              ?_, ?_⟩
            · rw [sameHandle]
              exact nonnegative
            · rw [nodeChanges_identity changes, GraphNode.identity, GraphNode.fullName, nameEq,
                spaceEq, participantEq]
      | nodeRemoved =>
          rw [finalizeNode_nodes] at member
          exact .inl ⟨node, (List.eraseIdx_sublist _ _).mem member, rfl, rfl⟩
      | inspected listed effects =>
          have changes : ReflTransGen (NodeChange dds True False) _ _ :=
            effects.changes (fun _ => trivial)
          exact .inl (storeNode_origin (lookup_node_found listed).1
            (nodeChanges_handle changes) (nodeChanges_identity changes) member)
      | endpointRefused registers listed ran | endpointRegistered registers listed ran =>
          obtain ⟨known, sided⟩ := Operation.registration_known registers
          have changes : ReflTransGen (NodeChange dds False True) _ _ :=
            GraphNode.registerEndpoint_change known sided (fun _ _ => .inr trivial) ran
          exact .inl (storeNode_origin (lookup_node_found listed).1
            (nodeChanges_handle changes) (nodeChanges_identity changes) member)
      | endpointRemoved removes listed located =>
          have change := @NodeChange.removed dds False False _ graph.endpointsPool _ _
            (Operation.removal_getElem? removes located)
          exact .inl (storeNode_origin (lookup_node_found listed).1 change.handle
            change.identity member)

/-- Every listed node has been registered by some call of the run. -/
theorem Run.registered {past : List (Graph × Event)} (run : Run dds past graph) :
    ∀ node ∈ graph.nodes, ∃ visit ∈ past, visit.2.Registers dds visit.1 node := by
  induction run with
  | start started =>
      obtain ⟨participant, period, rfl⟩ := started
      simp [initial]
  | @extend past state following event earlier stepped ih =>
      intro node member
      rw [stepped] at member
      rcases next_origin (Run.distinct earlier) event member with
        ⟨origin, listed, handle, identity⟩ | registers
      · obtain ⟨visit, visited, env, name, space, given, call, accepted, answer, nonnegative,
          named⟩ := ih origin listed
        exact ⟨visit, List.mem_append_left _ visited, env, name, space, given, call, accepted,
          answer.trans handle.symm, handle ▸ nonnegative, identity.trans named⟩
      · exact ⟨(state, event), by simp, registers⟩

end

theorem refusesNames_eq_false {name : CString} {space : Option CString}
    (accepted : refusesNames (some name) space = false) :
    (0 < name.strlen ∧ name.strlen ≤ maxNameLength) ∧
      ∀ given ∈ space, 0 < given.strlen ∧ given.strlen ≤ maxNamespaceLength := by
  unfold refusesNames at accepted
  obtain ⟨named, spaced⟩ := Bool.or_eq_false_iff.mp accepted
  constructor
  · simp at named
    omega
  · intro given same
    cases same
    simp at spaced
    omega

/-- What holds of the registry in every state, the run so far given. -/
structure Represented (dds : Dds) (past : List (Graph × Event)) (graph : Graph) : Prop where
  nodesLen : graph.nodesLen.toNat = graph.nodes.length
  nodeHandles : (graph.nodes.map (·.handle)).Nodup ∧ ∀ node ∈ graph.nodes, 0 ≤ node.handle
  endpointHandles : ∀ node ∈ graph.nodes, (node.endpoints.map (·.handle)).Nodup ∧
    ∀ endp ∈ node.endpoints, 0 ≤ endp.handle
  fullNames : (graph.nodes.map (·.fullName)).Nodup
  nodeNames : ∀ node ∈ graph.nodes, ∃ name, node.nodeName = some name ∧
    0 < name.strlen ∧ name.strlen ≤ maxNameLength
  nodeNamespaces : ∀ node ∈ graph.nodes, ∃ space, node.nodeNamespace = some space ∧
    0 < space.strlen ∧ space.strlen ≤ maxNamespaceLength
  participants : ∀ node ∈ graph.nodes, ∃ visit ∈ past, ∃ env name space given,
    visit.2 = .call env (.registerLocalNode (some name) space given) ∧
      (visit.1.registerLocalNode dds env (some name) space given).result = node.handle ∧
      node.ddsParticipant = given.getD graph.graphParticipant
  nodesPool : graph.nodesPool.outstanding = graph.nodes.length
  endpointsPool : graph.endpointsPool.outstanding =
    (graph.nodes.map (fun node => node.endpoints.length)).sum

end Graph

/-- The registry is well represented in every reachable state, whatever failed
on the way there. -/
theorem registry_represented {dds : Dds} {past : List (Graph × Event)} {graph : Graph}
    (run : Graph.Run dds past graph) : graph.Represented dds past := by
  obtain ⟨accounted, participants⟩ := run.accounted
  have registered := run.registered
  have numbered := run.numbered
  have distinct : (graph.nodes.map (·.handle)).Nodup := run.distinct
  have nonnegative : ∀ node ∈ graph.nodes, 0 ≤ node.handle := by
    intro node member
    obtain ⟨visit, _, _, _, _, _, _, _, _, nonnegative, _⟩ := registered node member
    exact nonnegative
  have few := handles_length_le distinct (by simpa using nonnegative)
  rw [List.length_map] at few
  refine ⟨?_, ⟨distinct, nonnegative⟩, ?_, ?_, ?_, ?_, ?_, accounted.nodesPool,
    accounted.endpointsPool⟩
  · rw [accounted.nodesLen, UInt64.toNat_ofNat']
    exact Nat.mod_eq_of_lt (by omega)
  · exact fun node member => ⟨(numbered node member).distinct, (numbered node member).nonnegative⟩
  · have names := run.namesDistinct
    unfold Graph.NamesDistinct Graph.identities at names
    rwa [List.map_map] at names
  · intro node member
    obtain ⟨visit, _, env, name, space, given, _, accepted, _, _, identity⟩ :=
      registered node member
    exact ⟨name, congrArg (·.1.1) identity, (Graph.refusesNames_eq_false accepted).1⟩
  · intro node member
    obtain ⟨visit, _, env, name, space, given, _, accepted, _, _, identity⟩ :=
      registered node member
    refine ⟨space.getD rootNamespace, congrArg (·.1.2) identity, ?_⟩
    cases space with
    | none => decide
    | some space => exact (Graph.refusesNames_eq_false accepted).2 space rfl
  · intro node member
    obtain ⟨visit, visited, env, name, space, given, call, _, answer, _, identity⟩ :=
      registered node member
    refine ⟨visit, visited, env, name, space, given, call, answer, ?_⟩
    rw [← participants visit visited]
    exact congrArg (·.2) identity

/-- A node with a subscription, and two calls that fail midway: one for want of
memory for a namespace, the other for want of a buffer. -/
def failingEvents : List Event :=
  [.call (.granting (.answering [] [])) (.registerLocalNode (some firstName) none none),
    .call (.granting (.answering [] [])) (.registerLocalSubscription 0 (some ⟨1⟩)),
    .call { CallEnv.granting (.answering [] []) with dupNamespace := false }
      (.registerLocalNode (some secondName) none none),
    .call { CallEnv.granting (.answering [] []) with endpointBuffer := fun _ => false }
      (.registerLocalSubscription 0 (some ⟨2⟩))]

theorem registry_represented_failing :
    ∃ past, ((Graph.initial ⟨0⟩ Duration.infinite).after
        (.onTopics (fun _ => topicPrefixDefault) (fun _ => topicPrefixDefault))
        failingEvents).Represented
          (.onTopics (fun _ => topicPrefixDefault) (fun _ => topicPrefixDefault)) past := by
  obtain ⟨past, run, _⟩ := Graph.Run.replay
    (.onTopics (fun _ => topicPrefixDefault) (fun _ => topicPrefixDefault)) ⟨0⟩
    Duration.infinite failingEvents
  exact ⟨past, registry_represented run⟩

end Ros2Graph
