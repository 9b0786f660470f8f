import Ros2Graph.Registry.Atomicity
import Ros2Graph.Registry.Unregistration

/-! Which endpoint the eight functions that unregister one remove. They share two
searches that do not look at the kind of an endpoint. -/

set_option autoImplicit false

namespace Ros2Graph

open Foundation SemEvent

/-- What names an endpoint to unregister. -/
inductive Target where
  | entities (ddsReader : Option DataReader) (ddsWriter : Option DataWriter)
  | handle (endpHandle : EndpointHandle)

namespace Target

/-- The endpoint holds these entities and no other, or has this handle. -/
def Names (endp : GraphEndpoint) : Target → Prop
  | .entities ddsReader ddsWriter => endp.ddsReader = ddsReader ∧ endp.ddsWriter = ddsWriter
  | .handle endpHandle => endp.handle = endpHandle

/-- The endpoint holds the entities that are given, or has this handle. -/
def belongsTo (endp : GraphEndpoint) : Target → Bool
  | .entities ddsReader ddsWriter => (ddsReader.isNone || endp.ddsReader == ddsReader) &&
      (ddsWriter.isNone || endp.ddsWriter == ddsWriter)
  | .handle endpHandle => endp.handle == endpHandle

end Target

/-- The node, the kind and the target that a function and its arguments name. -/
def Operation.unregistration : Operation → Option (NodeHandle × EndpointType × Target)
  | .unregisterLocalSubscription node reader => some (node, .subscription, .entities reader none)
  | .unregisterLocalPublisher node writer => some (node, .publisher, .entities none writer)
  | .unregisterLocalClient node reader writer => some (node, .client, .entities reader writer)
  | .unregisterLocalService node reader writer => some (node, .service, .entities reader writer)
  | .unregisterLocalSubscriptionByHandle node handle => some (node, .subscription, .handle handle)
  | .unregisterLocalPublisherByHandle node handle => some (node, .publisher, .handle handle)
  | .unregisterLocalClientByHandle node handle => some (node, .client, .handle handle)
  | .unregisterLocalServiceByHandle node handle => some (node, .service, .handle handle)
  | _ => none

/-- The left node is the node without one endpoint, but for its counters. -/
def GraphNode.Loses (node : GraphNode) (endp : GraphEndpoint) (left : GraphNode) : Prop :=
  ∃ front rest endpointsLen writersLen readersLen, node.endpoints = front ++ endp :: rest ∧
    left = { node with endpoints := front ++ rest, endpointsLen, writersLen, readersLen }

namespace Graph

/-- Nothing but one endpoint of the kind goes, and only if it is the target. -/
structure UnregistersKind (graph : Graph) (outcome : Outcome Answer) (nodeHandle : NodeHandle)
    (kind : EndpointType) (target : Target) : Prop where
  removes : outcome.result.succeeded = true → ∃ ptr node endp left,
    graph.lookupLocalNodeByHandle nodeHandle = some (ptr, node) ∧ endp.endpType = kind ∧
      target.Names endp ∧ node.Loses endp left ∧ outcome.graph.nodes = graph.nodes.set ptr left
  refuses : ∀ ptr node, graph.lookupLocalNodeByHandle nodeHandle = some (ptr, node) →
    (∀ endp ∈ node.endpoints, target.belongsTo endp = true → endp.endpType ≠ kind) →
      outcome.result.succeeded = false ∧ outcome.graph = graph

/-- The operation is kind-safe where it unregisters an endpoint. -/
def KindSafe (dds : Dds) (env : CallEnv) (graph : Graph) (operation : Operation) : Prop :=
  ∀ nodeHandle kind target, operation.unregistration = some (nodeHandle, kind, target) →
    graph.UnregistersKind (operation.perform dds env graph) nodeHandle kind target

/-- The first endpoint that the operation's search finds, if it finds one, is of
the function's kind and holds nothing but what is given. -/
def FindsOwnKind (graph : Graph) (operation : Operation) : Prop :=
  ∀ nodeHandle kind target search, operation.unregistration = some (nodeHandle, kind, target) →
    operation.removal = some (nodeHandle, search) →
      ∀ ptr node, graph.lookupLocalNodeByHandle nodeHandle = some (ptr, node) →
        ∀ endpPtr endp, search node = some (endpPtr, endp) →
          endp.endpType = kind ∧ target.Names endp

end Graph

/-- The search of an operation goes by its target alone; a NULL entity is refused
before it. -/
theorem Operation.unregistration_cases {operation : Operation} {nodeHandle : NodeHandle}
    {kind : EndpointType} {target : Target}
    (asked : operation.unregistration = some (nodeHandle, kind, target)) :
    operation.removal =
        some (nodeHandle, fun found => locate (fun endp => target.belongsTo endp) found.endpoints) ∨
      operation.removal = none ∧ ∀ (dds : Dds) (env : CallEnv) (graph : Graph),
        operation.perform dds env graph = ⟨graph, .retcode .badParameter, []⟩ := by
  cases operation with
  | unregisterLocalSubscription node reader =>
      cases asked
      cases reader with
      | none => exact .inr ⟨rfl, fun _ _ _ => rfl⟩
      | some reader => exact .inl rfl
  | unregisterLocalPublisher node writer =>
      cases asked
      cases writer with
      | none => exact .inr ⟨rfl, fun _ _ _ => rfl⟩
      | some writer => exact .inl rfl
  | unregisterLocalClient node reader writer | unregisterLocalService node reader writer =>
      cases asked
      cases reader with
      | none => exact .inr ⟨rfl, fun _ _ _ => rfl⟩
      | some reader =>
          cases writer with
          | none => exact .inr ⟨rfl, fun _ _ _ => rfl⟩
          | some writer => exact .inl rfl
  | unregisterLocalSubscriptionByHandle | unregisterLocalPublisherByHandle
  | unregisterLocalClientByHandle | unregisterLocalServiceByHandle =>
      cases asked
      exact .inl rfl
  | _ => cases asked

theorem GraphNode.finalizeEndpoint_loses {node : GraphNode} {endpPtr : EndpointPtr}
    {endp : GraphEndpoint} (present : node.endpoints[endpPtr]? = some endp)
    (pool : FastBufferPool) : node.Loses endp (node.finalizeEndpoint pool endpPtr).2 := by
  obtain ⟨front, rest, split, rfl⟩ := split_at_position present
  have erased : node.endpoints.eraseIdx front.length = front ++ rest := by
    rw [split, eraseIdx_at_split]
  unfold finalizeEndpoint
  simp only [present, erased]
  exact ⟨front, rest, _, _, _, split, rfl⟩

/-- What a node has lost can be told from what is left. -/
theorem GraphNode.Loses.unique {node left : GraphNode} {endp other : GraphEndpoint}
    (first : node.Loses endp left) (second : node.Loses other left) : endp = other := by
  obtain ⟨front, rest, _, _, _, split, rfl⟩ := first
  obtain ⟨front', rest', _, _, _, split', same⟩ := second
  have left : front ++ rest = front' ++ rest' := congrArg GraphNode.endpoints same
  have one : (endp :: (front ++ rest)).Perm (other :: (front ++ rest)) := by
    have before := (@List.perm_middle _ endp front rest).symm
    have after := @List.perm_middle _ other front' rest'
    rw [← split] at before
    rw [← split', ← left] at after
    exact before.trans after
  exact List.singleton_perm_singleton.mp ((List.perm_append_right_iff (front ++ rest)).mp one)

namespace Graph

section

variable {dds : Dds} {env : CallEnv} {graph : Graph} {operation : Operation}

theorem removal_performed {nodeHandle : NodeHandle}
    {search : GraphNode → Option (EndpointPtr × GraphEndpoint)} {ptr : NodePtr}
    {node : GraphNode} {endpPtr : EndpointPtr} {endp : GraphEndpoint}
    (removes : operation.removal = some (nodeHandle, search))
    (listed : graph.lookupLocalNodeByHandle nodeHandle = some (ptr, node))
    (located : search node = some (endpPtr, endp)) :
    operation.perform dds env graph = ⟨graph.finalizeEndpointAt ptr node endpPtr, .retcode .ok,
      [takeMutexSelf, giveSemPinfo, giveMutexSelf]⟩ := by
  rw [Operation.perform_removal removes]
  simp only [listed, located]
  rfl

theorem kindSafe_of_finds (finds : graph.FindsOwnKind operation) :
    graph.KindSafe dds env operation := by
  intro nodeHandle kind target asked
  rcases Operation.unregistration_cases asked with removes | ⟨_, performed⟩
  · refine ⟨fun succeeded => ?_, fun ptr node listed foreign => ?_⟩
    · by_cases absent : ∀ ptr node, graph.lookupLocalNodeByHandle nodeHandle = some (ptr, node) →
          locate (fun endp => target.belongsTo endp) node.endpoints = none
      · rw [(removal_refused removes absent).1] at succeeded
        cases succeeded
      · simp only [not_forall] at absent
        obtain ⟨ptr, node, listed, present⟩ := absent
        obtain ⟨⟨endpPtr, endp⟩, located⟩ := Option.ne_none_iff_exists'.mp present
        obtain ⟨own, named⟩ := finds _ _ _ _ asked removes ptr node listed endpPtr endp located
        rw [removal_performed removes listed located]
        exact ⟨ptr, node, endp, _, listed, own, named,
          GraphNode.finalizeEndpoint_loses (locate_getElem? located) graph.endpointsPool, rfl⟩
    · refine removal_refused removes fun otherPtr other listedToo => ?_
      cases listed.symm.trans listedToo
      cases located : locate (fun endp => target.belongsTo endp) node.endpoints with
      | none => rfl
      | some found =>
          obtain ⟨member, belongs⟩ := locate_mem located
          have own := finds _ _ _ _ asked removes ptr node listed found.1 found.2 located
          exact absurd own.1 (foreign found.2 member belongs)
  · rw [performed dds env graph]
    exact ⟨by simp [Answer.succeeded], fun _ _ _ _ => ⟨rfl, rfl⟩⟩

theorem KindSafe.finds (safe : graph.KindSafe dds env operation) :
    graph.FindsOwnKind operation := by
  intro nodeHandle kind target search asked removes ptr node listed endpPtr endp located
  have performed := @removal_performed dds env graph _ _ _ _ _ _ _ removes listed located
  obtain ⟨otherPtr, other, lost, left, listedToo, own, named, loses, nodes⟩ :=
    (safe nodeHandle kind target asked).removes (by rw [performed]; rfl)
  cases listed.symm.trans listedToo
  have present := Operation.removal_getElem? removes located
  have inside := (List.getElem?_eq_some_iff.mp (lookup_node_found listed).1).1
  rw [performed] at nodes
  have same : (node.finalizeEndpoint graph.endpointsPool endpPtr).2 = left := by
    have stored := congrArg (fun nodes => nodes[ptr]?) nodes
    simpa [finalizeEndpointAt, storeNode, inside] using stored
  have lostToo := GraphNode.finalizeEndpoint_loses present graph.endpointsPool
  rw [same] at lostToo
  rw [lostToo.unique loses]
  exact ⟨own, named⟩

end

end Graph

/-- Unregistration is kind-safe exactly where the endpoint that is found first
happens to be of the function's kind, with nothing but the given entities. -/
theorem unregister_kind_safe_iff (dds : Dds) (env : CallEnv) (graph : Graph)
    (operation : Operation) :
    graph.KindSafe dds env operation ↔ graph.FindsOwnKind operation :=
  ⟨Graph.KindSafe.finds, Graph.kindSafe_of_finds⟩

/-- The handle of a publisher is given to the function for subscriptions. -/
theorem unregister_not_kind_safe :
    ¬ ∀ (dds : Dds) (env : CallEnv) (graph : Graph) (operation : Operation),
      graph.Reachable dds → graph.KindSafe dds env operation := by
  intro safe
  have finds := (safe dataDds (.granting (.answering [] [])) publishingGraph
    (.unregisterLocalSubscriptionByHandle 0 0) publishingGraph_reachable).finds
  have own := (finds 0 .subscription (.handle 0) _ rfl rfl 0 _ rfl 0 _ rfl).1
  cases own

end Ros2Graph
