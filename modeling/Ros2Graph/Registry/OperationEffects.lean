import Mathlib.Data.List.Nodup
import Ros2Graph.Registry.NodeRegistration
import Ros2Graph.Registry.InspectionTracking

/-! Everything one public operation can do. The operations fall into three
families: those on nodes, registrations of an endpoint and removals of one. -/

set_option autoImplicit false

namespace Ros2Graph

open Foundation

namespace Operation

/-- The endpoint that an operation asks to register, past its NULL checks. -/
def registration : Operation →
    Option (NodeHandle × EndpointType × Option DataReader × Option DataWriter)
  | .registerLocalSubscription node (some reader) =>
      some (node, .subscription, some reader, none)
  | .registerLocalPublisher node (some writer) => some (node, .publisher, none, some writer)
  | .registerLocalClient node (some reader) (some writer) =>
      some (node, .client, some reader, some writer)
  | .registerLocalService node (some reader) (some writer) =>
      some (node, .service, some reader, some writer)
  | _ => none

/-- The node that an operation removes an endpoint from, past its NULL checks,
with the search for that endpoint. -/
def removal : Operation →
    Option (NodeHandle × (GraphNode → Option (EndpointPtr × GraphEndpoint)))
  | .unregisterLocalSubscription node (some reader) =>
      some (node, fun found => found.lookupLocalEndpointByDdsEndpoints (some reader) none)
  | .unregisterLocalPublisher node (some writer) =>
      some (node, fun found => found.lookupLocalEndpointByDdsEndpoints none (some writer))
  | .unregisterLocalClient node (some reader) (some writer)
  | .unregisterLocalService node (some reader) (some writer) =>
      some (node, fun found =>
        found.lookupLocalEndpointByDdsEndpoints (some reader) (some writer))
  | .unregisterLocalSubscriptionByHandle node handle
  | .unregisterLocalPublisherByHandle node handle
  | .unregisterLocalClientByHandle node handle
  | .unregisterLocalServiceByHandle node handle =>
      some (node, fun found => found.lookupLocalEndpointByHandle handle)
  | _ => none

/-- The families of the operations. A call with a NULL reader or writer makes
no semaphore call and leaves the graph alone. -/
inductive Family : Operation → Prop where
  | registersNode (name space : Option CString) (participant : Option DomainParticipant) :
      Family (.registerLocalNode name space participant)
  | inspectsNode (nodeHandle : NodeHandle) : Family (.inspectLocalNode nodeHandle)
  | removesNode (nodeHandle : NodeHandle) : Family (.unregisterLocalNode nodeHandle)
  | registers {operation nodeHandle endpType ddsReader ddsWriter} :
      operation.registration = some (nodeHandle, endpType, ddsReader, ddsWriter) →
      Family operation
  | removes {operation nodeHandle search} :
      operation.removal = some (nodeHandle, search) → Family operation
  | null {operation result} : result.succeeded = false →
      (∀ (dds : Dds) (env : CallEnv) (graph : Graph),
        operation.perform dds env graph = ⟨graph, result, []⟩) → Family operation

theorem family (operation : Operation) : operation.Family := by
  cases operation with
  | registerLocalNode name space participant => exact .registersNode name space participant
  | inspectLocalNode node => exact .inspectsNode node
  | unregisterLocalNode node => exact .removesNode node
  | registerLocalSubscription node reader =>
      cases reader with
      | none => exact @Family.null _ (.handle EndpointHandle.invalid) rfl fun _ _ _ => rfl
      | some reader => exact .registers rfl
  | registerLocalPublisher node writer =>
      cases writer with
      | none => exact @Family.null _ (.handle EndpointHandle.invalid) rfl fun _ _ _ => rfl
      | some writer => exact .registers rfl
  | registerLocalClient node reader writer | registerLocalService node reader writer =>
      cases reader with
      | none => exact @Family.null _ (.handle EndpointHandle.invalid) rfl fun _ _ _ => rfl
      | some reader =>
          cases writer with
          | none => exact @Family.null _ (.handle EndpointHandle.invalid) rfl fun _ _ _ => rfl
          | some writer => exact .registers rfl
  | unregisterLocalSubscription node reader =>
      cases reader with
      | none => exact @Family.null _ (.retcode .badParameter) rfl fun _ _ _ => rfl
      | some reader => exact .removes rfl
  | unregisterLocalPublisher node writer =>
      cases writer with
      | none => exact @Family.null _ (.retcode .badParameter) rfl fun _ _ _ => rfl
      | some writer => exact .removes rfl
  | unregisterLocalClient node reader writer | unregisterLocalService node reader writer =>
      cases reader with
      | none => exact @Family.null _ (.retcode .badParameter) rfl fun _ _ _ => rfl
      | some reader =>
          cases writer with
          | none => exact @Family.null _ (.retcode .badParameter) rfl fun _ _ _ => rfl
          | some writer => exact .removes rfl
  | unregisterLocalSubscriptionByHandle | unregisterLocalPublisherByHandle
  | unregisterLocalClientByHandle | unregisterLocalServiceByHandle => exact .removes rfl

theorem registration_known {operation : Operation} {nodeHandle : NodeHandle}
    {endpType : EndpointType} {ddsReader : Option DataReader} {ddsWriter : Option DataWriter}
    (registers : operation.registration = some (nodeHandle, endpType, ddsReader, ddsWriter)) :
    endpType ≠ .unknown ∧ (ddsReader.isSome = true ∨ ddsWriter.isSome = true) := by
  unfold registration at registers
  split at registers <;> cases registers <;> simp

theorem removal_getElem? {operation : Operation} {nodeHandle : NodeHandle}
    {search : GraphNode → Option (EndpointPtr × GraphEndpoint)}
    (removes : operation.removal = some (nodeHandle, search)) {node : GraphNode}
    {ptr : EndpointPtr} {endp : GraphEndpoint} (found : search node = some (ptr, endp)) :
    node.endpoints[ptr]? = some endp := by
  have byEntities : ∀ reader writer,
      node.lookupLocalEndpointByDdsEndpoints reader writer = some (ptr, endp) →
        node.endpoints[ptr]? = some endp := fun _ _ located => locate_getElem? located
  have byHandle : ∀ handle, node.lookupLocalEndpointByHandle handle = some (ptr, endp) →
      node.endpoints[ptr]? = some endp := fun _ located => locate_getElem? located
  unfold removal at removes
  split at removes <;> cases removes
  · exact byEntities _ _ found
  · exact byEntities _ _ found
  · exact byEntities _ _ found
  · exact byEntities _ _ found
  · exact byHandle _ found
  · exact byHandle _ found
  · exact byHandle _ found
  · exact byHandle _ found

end Operation

open SemEvent

/-- A node as registration links it, before anything is added to it. -/
structure GraphNode.IsBlank (node : GraphNode) : Prop where
  endpoints : node.endpoints = []
  endpointsLen : node.endpointsLen = 0
  writersLen : node.writersLen = 0
  readersLen : node.readersLen = 0
  endpHandleNext : node.endpHandleNext = 0

/-- Everything one public operation can do to the graph, with its answer and
its semaphore calls. -/
inductive OperationEffect (dds : Dds) (env : CallEnv) (graph : Graph) :
    Operation → Outcome Answer → Prop where
  | refused {operation result events counter} :
      result.succeeded = false → giveSemPinfo ∉ events →
      OperationEffect dds env graph operation
        ⟨{ graph with nodeHandleNext := counter }, result, events⟩
  | nodeRolledBack {name space participant final events} :
      final.nodes = graph.nodes → final.pollPeriod = graph.pollPeriod →
      OperationEffect dds env graph (.registerLocalNode name space participant)
        ⟨final, .handle NodeHandle.invalid, events⟩
  | nodeRegistered {name space participant handle blank visits actions left final} :
      Graph.refusesNames (some name) space = false →
      graph.lookupLocalNodeByName name space = none →
      0 ≤ handle → (∀ node ∈ graph.nodes, node.handle ≠ handle) →
      blank.IsBlank → blank.handle = handle → blank.nodeName = some name →
      blank.nodeNamespace = some (space.getD rootNamespace) →
      blank.ddsParticipant = participant.getD graph.graphParticipant →
      VisitedAll dds env ⟨graph.endpointsPool, blank, EndpointHandle.invalid⟩ visits actions
        true left →
      .attach ∉ actions →
      final.nodes = graph.nodes ++ [left.node] → final.pollPeriod = graph.pollPeriod →
      OperationEffect dds env graph (.registerLocalNode (some name) space participant)
        ⟨final, .handle handle, [takeMutexSelf, giveSemPinfo, giveMutexSelf]⟩
  | nodeRemoved {nodeHandle ptr node} :
      graph.lookupLocalNodeByHandle nodeHandle = some (ptr, node) →
      OperationEffect dds env graph (.unregisterLocalNode nodeHandle)
        ⟨graph.finalizeNode ptr, .retcode .ok, [takeMutexSelf, giveMutexSelf]⟩
  | inspected {nodeHandle ptr node actions left} :
      graph.lookupLocalNodeByHandle nodeHandle = some (ptr, node) →
      VisitedAll dds env ⟨graph.endpointsPool, node, EndpointHandle.invalid⟩
        (env.enumeration.visits node.ddsParticipant) actions
        (graph.inspectionPlan dds env node).completed left →
      PlannedLoop dds env ⟨graph.endpointsPool, node, EndpointHandle.invalid⟩ []
        (env.enumeration.visits node.ddsParticipant) 0 actions
        (graph.inspectionPlan dds env node).completed left (graph.inspectionPlan dds env node) →
      OperationEffect dds env graph (.inspectLocalNode nodeHandle)
        ⟨graph.storeNode ptr left.pool left.node,
          .retcode (if (graph.inspectionPlan dds env node).completed then .ok else .error),
          if (graph.inspectionPlan dds env node).completed
            then [takeMutexSelf, giveSemPinfo, giveMutexSelf]
            else [takeMutexSelf, giveMutexSelf]⟩
  | endpointRefused {operation nodeHandle endpType ddsReader ddsWriter ptr node pool left} :
      operation.registration = some (nodeHandle, endpType, ddsReader, ddsWriter) →
      graph.lookupLocalNodeByHandle nodeHandle = some (ptr, node) →
      node.registerEndpoint dds env graph.endpointsPool endpType ddsReader ddsWriter =
        (pool, left, none) →
      OperationEffect dds env graph operation
        ⟨graph.storeNode ptr pool left, .handle EndpointHandle.invalid,
          [takeMutexSelf, giveMutexSelf]⟩
  | endpointRegistered {operation nodeHandle endpType ddsReader ddsWriter ptr node pool left
      endp} :
      operation.registration = some (nodeHandle, endpType, ddsReader, ddsWriter) →
      graph.lookupLocalNodeByHandle nodeHandle = some (ptr, node) →
      node.registerEndpoint dds env graph.endpointsPool endpType ddsReader ddsWriter =
        (pool, left, some endp) →
      OperationEffect dds env graph operation
        ⟨graph.storeNode ptr pool left, .handle endp.handle,
          [takeMutexSelf, giveSemPinfo, giveMutexSelf]⟩
  | endpointRemoved {operation nodeHandle search ptr node endpPtr endp} :
      operation.removal = some (nodeHandle, search) →
      graph.lookupLocalNodeByHandle nodeHandle = some (ptr, node) →
      search node = some (endpPtr, endp) →
      OperationEffect dds env graph operation
        ⟨graph.finalizeEndpointAt ptr node endpPtr, .retcode .ok,
          [takeMutexSelf, giveSemPinfo, giveMutexSelf]⟩

namespace Graph

variable {graph : Graph}

theorem lookup_node_isSome_iff {handle : NodeHandle} :
    (graph.lookupLocalNodeByHandle handle).isSome = true ↔
      ∃ node ∈ graph.nodes, node.handle = handle := by
  unfold lookupLocalNodeByHandle
  rw [locate_isSome_iff]
  simp only [beq_iff_eq]

theorem lookup_node_found {handle : NodeHandle} {ptr : NodePtr} {node : GraphNode}
    (found : graph.lookupLocalNodeByHandle handle = some (ptr, node)) :
    graph.nodes[ptr]? = some node ∧ node.handle = handle :=
  ⟨locate_getElem? found, by simpa using (locate_mem found).2⟩

theorem inspectLocalNode_graph {dds : Dds} {env : CallEnv} {handle : NodeHandle}
    {ptr : NodePtr} {node : GraphNode}
    (found : graph.lookupLocalNodeByHandle handle = some (ptr, node)) :
    (graph.inspectLocalNode dds env handle).graph = (graph.inspectLocalNodeEA dds env ptr).1 := by
  unfold inspectLocalNode
  simp only [found]
  cases graph.inspectLocalNodeEA dds env ptr with
  | mk inspected retcode => cases retcode <;> rfl

theorem nextNodeHandle_found {handle : NodeHandle}
    (found : graph.nextNodeHandle.1 = some handle) :
    0 ≤ handle ∧ ∀ node ∈ graph.nodes, node.handle ≠ handle := by
  obtain ⟨nonnegative, free⟩ := searchHandle_found (Prod.ext found rfl)
  refine ⟨nonnegative, fun node member same => ?_⟩
  have present := lookup_node_isSome_iff.mpr ⟨node, member, same⟩
  simp [present] at free

@[simp] theorem finalizeNode_nodes (ptr : NodePtr) :
    (graph.finalizeNode ptr).nodes = graph.nodes.eraseIdx ptr := by
  unfold finalizeNode
  cases present : graph.nodes[ptr]? with
  | none => rw [List.eraseIdx_of_length_le (List.getElem?_eq_none_iff.mp present)]
  | some node => rfl

@[simp] theorem finalizeNode_pollPeriod (ptr : NodePtr) :
    (graph.finalizeNode ptr).pollPeriod = graph.pollPeriod := by
  unfold finalizeNode
  split <;> rfl

theorem HandlesDistinct.append (distinct : graph.HandlesDistinct) {node : GraphNode}
    (fresh : ∀ listed ∈ graph.nodes, listed.handle ≠ node.handle) :
    ((graph.nodes ++ [node]).map (·.handle)).Nodup := by
  rw [List.map_append, List.map_singleton, ← List.concat_eq_append, List.nodup_concat]
  refine ⟨?_, distinct⟩
  intro member
  obtain ⟨listed, listedMember, same⟩ := List.mem_map.mp member
  exact fresh listed listedMember same

end Graph

namespace Operation

variable {dds : Dds} {env : CallEnv} {graph : Graph}

theorem perform_registration {operation : Operation} {nodeHandle : NodeHandle}
    {endpType : EndpointType} {ddsReader : Option DataReader} {ddsWriter : Option DataWriter}
    (registers : operation.registration = some (nodeHandle, endpType, ddsReader, ddsWriter)) :
    operation.perform dds env graph =
      .ofHandle (graph.registerAndQueue dds env nodeHandle endpType ddsReader ddsWriter) := by
  unfold registration at registers
  split at registers <;> cases registers <;> rfl

theorem perform_removal {operation : Operation} {nodeHandle : NodeHandle}
    {search : GraphNode → Option (EndpointPtr × GraphEndpoint)}
    (removes : operation.removal = some (nodeHandle, search)) :
    operation.perform dds env graph =
      .ofRetcode (match graph.lookupLocalNodeByHandle nodeHandle with
        | none => ⟨graph, .badParameter, [takeMutexSelf, giveMutexSelf]⟩
        | some (ptr, node) =>
          match search node with
          | none => ⟨graph, .badParameter, [takeMutexSelf, giveMutexSelf]⟩
          | some (endpPtr, _) =>
            ⟨graph.finalizeEndpointAt ptr node endpPtr, .ok,
              [takeMutexSelf, giveSemPinfo, giveMutexSelf]⟩) := by
  unfold removal at removes
  split at removes <;> cases removes <;> rfl

private theorem quiet : giveSemPinfo ∉ [takeMutexSelf, giveMutexSelf] := by decide

/-- The inspection of a node that has just been given its names. -/
private theorem inspectNamed_effects (distinct : graph.HandlesDistinct) {handle : NodeHandle}
    {blank : GraphNode} {named final : Graph} {retcode : ReturnCode}
    (free : ∀ node ∈ graph.nodes, node.handle ≠ handle) (handleEq : blank.handle = handle)
    (isBlank : blank.IsBlank) (nodes : named.nodes = graph.nodes ++ [blank])
    (endpoints : named.endpointsPool = graph.endpointsPool)
    (ended : named.inspectLocalNodeEA dds env graph.nodes.length = (final, retcode)) :
    ∃ visits actions left, VisitedAll dds env
        ⟨graph.endpointsPool, blank, EndpointHandle.invalid⟩ visits actions (retcode == .ok) left ∧
      .attach ∉ actions ∧ final.nodes = graph.nodes ++ [left.node] ∧
      final.pollPeriod = named.pollPeriod := by
  have namedDistinct : named.HandlesDistinct := by
    unfold Graph.HandlesDistinct
    rw [nodes]
    exact distinct.append (fun listed member => handleEq ▸ free listed member)
  have present : named.nodes[graph.nodes.length]? = some blank := by simp [nodes]
  obtain ⟨actions, left, effects, planned, done⟩ :=
    @Graph.inspectLocalNodeEA_planned dds env named _ _ namedDistinct present
  have unattached : .attach ∉ actions := by
    intro attached
    have planAttaches := followPlan_attached (planned.attaches.mp attached)
    rw [isBlank.endpoints] at planAttaches
    exact plannedActions_nil_attach _ _ _ planAttaches
  cases done.symm.trans ended
  rw [endpoints] at effects
  refine ⟨env.enumeration.visits blank.ddsParticipant, actions, left, ?_, unattached,
    by simp [Graph.storeNode, nodes], rfl⟩
  cases completed : (named.inspectionPlan dds env blank).completed with
  | false | true =>
      rw [completed] at effects
      exact effects

theorem registerLocalNode_effect (distinct : graph.HandlesDistinct)
    (nodeName nodeNamespace : Option CString) (ddsParticipant : Option DomainParticipant) :
    OperationEffect dds env graph (.registerLocalNode nodeName nodeNamespace ddsParticipant)
      (.ofHandle (graph.registerLocalNode dds env nodeName nodeNamespace ddsParticipant)) := by
  have registration := @Graph.registerLocalNode_registration dds env graph nodeName nodeNamespace
    ddsParticipant
  generalize graph.registerLocalNode dds env nodeName nodeNamespace ddsParticipant = outcome
    at registration ⊢
  cases registration with
  | unnamed | refused =>
      exact @OperationEffect.refused _ _ _ _ _ _ graph.nodeHandleNext rfl (by simp)
  | known => exact @OperationEffect.refused _ _ _ _ _ _ graph.nodeHandleNext rfl quiet
  | unnumbered | unallocated => exact .refused rfl quiet
  | uncopied links =>
      cases links
      refine .nodeRolledBack ?_ (by simp [Graph.linkNode, Graph.nameNode])
      simp [Graph.linkNode, Graph.nameNode, modify_last, List.eraseIdx_append_of_length_le]
  | listed links =>
      cases links with
      | linked accepted unknown found =>
          obtain ⟨nonnegative, free⟩ := Graph.nextNodeHandle_found (congrArg Prod.fst found)
          exact .nodeRegistered accepted unknown nonnegative free ⟨rfl, rfl, rfl, rfl, rfl⟩ rfl rfl
            rfl rfl .nil (by simp) (modify_last graph.nodes _ _) rfl
  | inspected links _ _ ended =>
      cases links with
      | linked accepted unknown found =>
          obtain ⟨nonnegative, free⟩ := Graph.nextNodeHandle_found (congrArg Prod.fst found)
          obtain ⟨visits, actions, left, effects, unattached, nodes, period⟩ :=
            inspectNamed_effects distinct free (by rfl) ⟨rfl, rfl, rfl, rfl, rfl⟩
              (modify_last graph.nodes _ _) (by rfl) ended
          exact .nodeRegistered accepted unknown nonnegative free ⟨rfl, rfl, rfl, rfl, rfl⟩ rfl rfl
            rfl rfl effects unattached nodes period
  | abandoned links _ _ ended =>
      cases links with
      | linked accepted unknown found =>
          obtain ⟨_, free⟩ := Graph.nextNodeHandle_found (congrArg Prod.fst found)
          obtain ⟨visits, actions, left, _, _, nodes, period⟩ :=
            inspectNamed_effects distinct free (by rfl) ⟨rfl, rfl, rfl, rfl, rfl⟩
              (modify_last graph.nodes _ _) (by rfl) ended
          exact .nodeRolledBack (by simp [nodes, List.eraseIdx_append_of_length_le])
            ((Graph.finalizeNode_pollPeriod _).trans period)

private theorem registration_effect {operation : Operation} {nodeHandle : NodeHandle}
    {endpType : EndpointType} {ddsReader : Option DataReader} {ddsWriter : Option DataWriter}
    (registers : operation.registration = some (nodeHandle, endpType, ddsReader, ddsWriter)) :
    OperationEffect dds env graph operation (operation.perform dds env graph) := by
  rw [perform_registration registers]
  unfold Graph.registerAndQueue Graph.registerLocalEndpoint
  cases listed : graph.lookupLocalNodeByHandle nodeHandle with
  | none => exact @OperationEffect.refused _ _ _ _ _ _ graph.nodeHandleNext rfl quiet
  | some found =>
      obtain ⟨ptr, node⟩ := found
      dsimp only
      cases ran : node.registerEndpoint dds env graph.endpointsPool endpType ddsReader
          ddsWriter with
      | mk pool rest =>
          obtain ⟨left, added⟩ := rest
          cases added with
          | none => exact .endpointRefused registers listed ran
          | some endp => exact .endpointRegistered registers listed ran

private theorem removal_effect {operation : Operation} {nodeHandle : NodeHandle}
    {search : GraphNode → Option (EndpointPtr × GraphEndpoint)}
    (removes : operation.removal = some (nodeHandle, search)) :
    OperationEffect dds env graph operation (operation.perform dds env graph) := by
  rw [perform_removal removes]
  cases listed : graph.lookupLocalNodeByHandle nodeHandle with
  | none => exact @OperationEffect.refused _ _ _ _ _ _ graph.nodeHandleNext rfl quiet
  | some found =>
      obtain ⟨ptr, node⟩ := found
      dsimp only
      cases located : search node with
      | none => exact @OperationEffect.refused _ _ _ _ _ _ graph.nodeHandleNext rfl quiet
      | some item => exact .endpointRemoved removes listed located

private theorem inspectLocalNode_effect (distinct : graph.HandlesDistinct)
    (nodeHandle : NodeHandle) :
    OperationEffect dds env graph (.inspectLocalNode nodeHandle)
      (.ofRetcode (graph.inspectLocalNode dds env nodeHandle)) := by
  unfold Graph.inspectLocalNode
  cases listed : graph.lookupLocalNodeByHandle nodeHandle with
  | none => exact @OperationEffect.refused _ _ _ _ _ _ graph.nodeHandleNext rfl quiet
  | some found =>
      obtain ⟨ptr, node⟩ := found
      obtain ⟨actions, left, effects, planned, ended⟩ :=
        @Graph.inspectLocalNodeEA_planned dds env graph ptr node distinct
          (Graph.lookup_node_found listed).1
      have effect := OperationEffect.inspected listed effects planned
      dsimp only
      rw [ended]
      cases completed : (graph.inspectionPlan dds env node).completed with
      | true =>
          rw [completed] at effect
          exact effect
      | false =>
          rw [completed] at effect
          exact effect

private theorem unregisterLocalNode_effect (nodeHandle : NodeHandle) :
    OperationEffect dds env graph (.unregisterLocalNode nodeHandle)
      (.ofRetcode (graph.unregisterLocalNode nodeHandle)) := by
  unfold Graph.unregisterLocalNode
  cases listed : graph.lookupLocalNodeByHandle nodeHandle with
  | none => exact @OperationEffect.refused _ _ _ _ _ _ graph.nodeHandleNext rfl quiet
  | some found => exact .nodeRemoved listed

theorem perform_effect (distinct : graph.HandlesDistinct) (operation : Operation) :
    OperationEffect dds env graph operation (operation.perform dds env graph) := by
  cases operation.family with
  | registersNode name space participant =>
      exact registerLocalNode_effect distinct name space participant
  | inspectsNode node => exact inspectLocalNode_effect distinct node
  | removesNode node => exact unregisterLocalNode_effect node
  | registers registers => exact registration_effect registers
  | removes removes => exact removal_effect removes
  | null failed performed =>
      rw [performed]
      exact @OperationEffect.refused _ _ _ _ _ _ graph.nodeHandleNext failed (by simp)

end Operation

end Ros2Graph
