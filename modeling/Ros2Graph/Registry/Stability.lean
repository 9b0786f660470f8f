import Ros2Graph.Registry.Accessors
import Ros2Graph.Registry.Representation

/-! An endpoint that a call has registered stays as it was registered until an
unregistration names it. Inspections add to a node and complete endpoints that
lack a writer, and no registered endpoint lacks one that could be attached. -/

set_option autoImplicit false

namespace Ros2Graph

open Foundation

namespace GraphEndpoint

/-- One of the two arguments is given and is what the endpoint holds. -/
def HeldBy (ddsReader : Option DataReader) (ddsWriter : Option DataWriter)
    (endp : GraphEndpoint) : Prop :=
  (ddsReader.isSome = true ∧ endp.ddsReader = ddsReader) ∨
    (ddsWriter.isSome = true ∧ endp.ddsWriter = ddsWriter)

/-- The endpoint is not one that inspection attaches a writer to. -/
def Settled (dds : Dds) (endp : GraphEndpoint) : Prop :=
  ∀ reader ∈ endp.ddsReader, isServiceTopic (dds.readerTopicName reader) = true →
    endp.ddsWriter.isSome = true

end GraphEndpoint

/-- The operation unregisters the node, or names the endpoint of the node by its
handle or by one of its entities to unregister it. -/
def Operation.Unregisters (nodeHandle : NodeHandle) (endp : GraphEndpoint) : Operation → Prop
  | .unregisterLocalNode node => node = nodeHandle
  | .unregisterLocalSubscription node reader => node = nodeHandle ∧ endp.HeldBy reader none
  | .unregisterLocalPublisher node writer => node = nodeHandle ∧ endp.HeldBy none writer
  | .unregisterLocalClient node reader writer => node = nodeHandle ∧ endp.HeldBy reader writer
  | .unregisterLocalService node reader writer => node = nodeHandle ∧ endp.HeldBy reader writer
  | .unregisterLocalSubscriptionByHandle node handle => node = nodeHandle ∧ handle = endp.handle
  | .unregisterLocalPublisherByHandle node handle => node = nodeHandle ∧ handle = endp.handle
  | .unregisterLocalClientByHandle node handle => node = nodeHandle ∧ handle = endp.handle
  | .unregisterLocalServiceByHandle node handle => node = nodeHandle ∧ handle = endp.handle
  | _ => False

def Event.Unregisters (nodeHandle : NodeHandle) (endp : GraphEndpoint) : Event → Prop
  | .call _ operation => operation.Unregisters nodeHandle endp
  | .poll _ _ => False

section

variable {dds : Dds} {env : CallEnv} {endp : GraphEndpoint}

theorem GraphNode.Admits.settled {node : GraphNode} {operation : Operation}
    {nodeHandle : NodeHandle} {endpType : EndpointType} {ddsReader : Option DataReader}
    {ddsWriter : Option DataWriter}
    (registers : operation.registration = some (nodeHandle, endpType, ddsReader, ddsWriter))
    (admitted : node.Admits dds endpType ddsReader ddsWriter) (handle : EndpointHandle) :
    GraphEndpoint.Settled dds ⟨handle, ddsReader, ddsWriter, endpType⟩ := by
  intro reader given service
  have kind := admitted.readerKind reader given
  unfold Operation.registration at registers
  split at registers
  · cases registers
    simp [isServiceTopic, kind] at service
  · cases registers
    cases given
  · cases registers
    rfl
  · cases registers
    rfl
  · cases registers

theorem VisitChange.keeps {node left : GraphNode} {action : Action}
    (change : VisitChange dds node action left) (settled : endp.Settled dds)
    (listed : endp ∈ node.endpoints) : endp ∈ left.endpoints := by
  cases change with
  | kept => exact listed
  | linked => exact List.mem_append_left _ listed
  | @attached dw ptr other _ service first vacant =>
      have different : endp ≠ other := by
        rintro rfl
        have reads : endp.ddsReader.map dds.readerTopicName = some (dds.writerTopicName dw) := by
          simpa [GraphEndpoint.readsTopic] using (locate_mem first).2
        obtain ⟨reader, present, topic⟩ := Option.map_eq_some_iff.mp reads
        have complete := settled reader present (by rw [topic]; exact service)
        rw [vacant] at complete
        cases complete
      exact mem_set_of_ne (locate_getElem? first) listed different _

theorem VisitedAll.keeps {scope left : Scope} {visits : List Visit} {actions : List Action}
    {continues : Bool} (effects : VisitedAll dds env scope visits actions continues left)
    (settled : endp.Settled dds) (listed : endp ∈ scope.node.endpoints) :
    endp ∈ left.node.endpoints := by
  induction effects with
  | nil => exact listed
  | stop effect => exact effect.nodeChange.keeps settled listed
  | next effect _ ih => exact ih (effect.nodeChange.keeps settled listed)

theorem GraphNode.registerEndpoint_keeps {node left : GraphNode} {pool after : FastBufferPool}
    {endpType : EndpointType} {ddsReader : Option DataReader} {ddsWriter : Option DataWriter}
    {added : Option GraphEndpoint} (listed : endp ∈ node.endpoints)
    (ran : node.registerEndpoint dds env pool endpType ddsReader ddsWriter =
      (after, left, added)) : endp ∈ left.endpoints := by
  rcases GraphNode.registerEndpoint_cases with ⟨counter, failed⟩ | ⟨handle, counter, _, _, _, _, done⟩
  · cases ran.symm.trans failed
    exact listed
  · cases ran.symm.trans done
    exact List.mem_append_left _ listed

/-- What a removal finds, the operation has named. -/
theorem Operation.removal_names {operation : Operation} {nodeHandle : NodeHandle}
    {search : GraphNode → Option (EndpointPtr × GraphEndpoint)} {node : GraphNode}
    {ptr : EndpointPtr} (removes : operation.removal = some (nodeHandle, search))
    (found : search node = some (ptr, endp)) : operation.Unregisters nodeHandle endp := by
  have byEntities : ∀ reader writer,
      node.lookupLocalEndpointByDdsEndpoints reader writer = some (ptr, endp) →
        (reader.isNone || endp.ddsReader == reader) = true ∧
          (writer.isNone || endp.ddsWriter == writer) = true := fun reader writer located =>
    Bool.and_eq_true_iff.mp (locate_mem located).2
  have byHandle : ∀ handle, node.lookupLocalEndpointByHandle handle = some (ptr, endp) →
      handle = endp.handle := fun handle located =>
    (by simpa using (locate_mem located).2 : endp.handle = handle).symm
  unfold Operation.removal at removes
  split at removes <;> cases removes
  · exact ⟨rfl, .inl ⟨rfl, by simpa using (byEntities _ _ found).1⟩⟩
  · exact ⟨rfl, .inr ⟨rfl, by simpa using (byEntities _ _ found).2⟩⟩
  · exact ⟨rfl, .inl ⟨rfl, by simpa using (byEntities _ _ found).1⟩⟩
  · exact ⟨rfl, .inl ⟨rfl, by simpa using (byEntities _ _ found).1⟩⟩
  · exact ⟨rfl, byHandle _ found⟩
  · exact ⟨rfl, byHandle _ found⟩
  · exact ⟨rfl, byHandle _ found⟩
  · exact ⟨rfl, byHandle _ found⟩

end

namespace Graph

def ListsEndpoint (graph : Graph) (nodeHandle : NodeHandle) (endp : GraphEndpoint) : Prop :=
  ∃ node ∈ graph.nodes, node.handle = nodeHandle ∧ endp ∈ node.endpoints

section

variable {dds : Dds} {graph : Graph} {nodeHandle : NodeHandle} {endp : GraphEndpoint}

theorem ListsEndpoint.storeNode (lists : graph.ListsEndpoint nodeHandle endp) {ptr : NodePtr}
    {node left : GraphNode} {pool : FastBufferPool} (present : graph.nodes[ptr]? = some node)
    (same : left.handle = node.handle)
    (kept : node.handle = nodeHandle → endp ∈ node.endpoints → endp ∈ left.endpoints) :
    (graph.storeNode ptr pool left).ListsEndpoint nodeHandle endp := by
  obtain ⟨owner, listed, handle, member⟩ := lists
  by_cases replaced : owner = node
  · subst replaced
    exact ⟨left, List.mem_of_getElem? (storeNode_getElem? present pool left),
      same.trans handle, kept handle member⟩
  · exact ⟨owner, mem_set_of_ne present listed replaced left, handle, member⟩

theorem ListsEndpoint.inspection (lists : graph.ListsEndpoint nodeHandle endp)
    (settled : endp.Settled dds) (distinct : graph.HandlesDistinct) (env : CallEnv)
    (ptr : NodePtr) :
    (graph.inspectLocalNodeEA dds env ptr).1.ListsEndpoint nodeHandle endp := by
  cases present : graph.nodes[ptr]? with
  | none => simpa [inspectLocalNodeEA, present] using lists
  | some node =>
      obtain ⟨actions, continues, left, effects, ended⟩ :=
        @inspectLocalNodeEA_visited dds env graph ptr node distinct present
      have changes : Relation.ReflTransGen (NodeChange dds True False) node left.node :=
        effects.changes (fun _ => trivial)
      rw [ended]
      exact lists.storeNode present (nodeChanges_handle changes)
        (fun _ listed => effects.keeps settled listed)

/-- Only an unregistration that names the endpoint, or its node, takes it off
the lists or changes it. -/
theorem ListsEndpoint.next (lists : graph.ListsEndpoint nodeHandle endp)
    (settled : endp.Settled dds) (distinct : graph.HandlesDistinct) {event : Event}
    (undisturbed : ¬ event.Unregisters nodeHandle endp) :
    (graph.next dds event).ListsEndpoint nodeHandle endp := by
  cases event with
  | poll env ptr => exact lists.inspection settled distinct env ptr
  | call env operation =>
      have effect := @Operation.perform_effect dds env graph distinct operation
      simp only [Graph.next]
      generalize operation.perform dds env graph = outcome at effect ⊢
      cases effect with
      | refused => exact lists
      | nodeRolledBack same =>
          unfold ListsEndpoint
          rw [same]
          exact lists
      | nodeRegistered _ _ _ _ _ _ _ _ _ _ _ appended _ =>
          obtain ⟨owner, listed, handle, member⟩ := lists
          unfold ListsEndpoint
          rw [appended]
          exact ⟨owner, List.mem_append_left _ listed, handle, member⟩
      | @nodeRemoved removed ptr node listed =>
          obtain ⟨position, handleEq⟩ := lookup_node_found listed
          obtain ⟨owner, ownerListed, handle, member⟩ := lists
          have other : owner ≠ node := by
            rintro rfl
            exact undisturbed (handleEq.symm.trans handle)
          unfold ListsEndpoint
          rw [finalizeNode_nodes]
          exact ⟨owner, mem_eraseIdx_of_ne position ownerListed other, handle, member⟩
      | inspected listed effects =>
          have changes : Relation.ReflTransGen (NodeChange dds True False) _ _ :=
            effects.changes (fun _ => trivial)
          exact lists.storeNode (lookup_node_found listed).1 (nodeChanges_handle changes)
            (fun _ present => effects.keeps settled present)
      | endpointRefused _ listed ran | endpointRegistered _ listed ran =>
          exact lists.storeNode (lookup_node_found listed).1
            (GraphNode.registerEndpoint_handle ran)
            (fun _ present => GraphNode.registerEndpoint_keeps present ran)
      | @endpointRemoved operation removed search ptr node endpPtr found removes listed located =>
          obtain ⟨position, handleEq⟩ := lookup_node_found listed
          have target := Operation.removal_getElem? removes located
          apply lists.storeNode position
          · simp [GraphNode.finalizeEndpoint, target]
          · intro owned present
            have other : endp ≠ found := by
              rintro rfl
              have named := Operation.removal_names removes located
              rw [← handleEq, owned] at named
              exact undisturbed named
            rw [GraphNode.finalizeEndpoint_endpoints]
            exact mem_eraseIdx_of_ne target present other

/-- A call that returns a handle has listed the endpoint under it. -/
theorem registration_lists {env : CallEnv}
    {operation : Operation} {endpType : EndpointType} {ddsReader : Option DataReader}
    {ddsWriter : Option DataWriter} {handle : EndpointHandle}
    (registers : operation.registration = some (nodeHandle, endpType, ddsReader, ddsWriter))
    (returned : (operation.perform dds env graph).result = .handle handle)
    (valid : handle ≠ EndpointHandle.invalid) :
    (operation.perform dds env graph).graph.ListsEndpoint nodeHandle
        ⟨handle, ddsReader, ddsWriter, endpType⟩ ∧
      GraphEndpoint.Settled dds ⟨handle, ddsReader, ddsWriter, endpType⟩ := by
  rw [Operation.perform_registration registers] at returned ⊢
  unfold registerAndQueue registerLocalEndpoint at returned ⊢
  cases listed : graph.lookupLocalNodeByHandle nodeHandle with
  | none =>
      simp only [listed] at returned
      exact absurd (Answer.handle.inj returned).symm valid
  | some found =>
      obtain ⟨ptr, node⟩ := found
      simp only [listed] at returned ⊢
      obtain ⟨position, rfl⟩ := lookup_node_found listed
      rcases @GraphNode.registerEndpoint_cases dds env graph.endpointsPool node endpType
          ddsReader ddsWriter with ⟨counter, failed⟩ | ⟨drawn, counter, admitted, _, _, _, done⟩
      · rw [failed] at returned
        exact absurd (Answer.handle.inj returned).symm valid
      · rw [done] at returned ⊢
        cases Answer.handle.inj returned
        refine ⟨⟨_, List.mem_of_getElem? (storeNode_getElem? position _ _), rfl, ?_⟩,
          admitted.settled registers _⟩
        exact List.mem_append_right _ (List.mem_singleton.mpr rfl)

/-- The calls that are given both handles find the endpoint. -/
theorem ListsEndpoint.found (lists : graph.ListsEndpoint nodeHandle endp)
    (distinct : graph.HandlesDistinct) (numbered : ∀ node ∈ graph.nodes, node.Numbered) :
    graph.endpointAt nodeHandle endp.handle = some endp := by
  obtain ⟨node, listed, rfl, member⟩ := lists
  obtain ⟨ptr, present⟩ := List.getElem?_of_mem listed
  have unique := (numbered node listed).distinct
  have located : ∃ position, node.lookupLocalEndpointByHandle endp.handle =
      some (position, endp) := by
    cases found : node.lookupLocalEndpointByHandle endp.handle with
    | none => simpa using locate_eq_none_iff.mp found endp member
    | some target =>
        obtain ⟨targetListed, same⟩ := locate_mem found
        have equal := List.inj_on_of_nodup_map unique targetListed member (by simpa using same)
        exact ⟨target.1, by rw [← equal]⟩
  obtain ⟨position, located⟩ := located
  simp only [endpointAt, distinct.lookup_self present, located, Option.map_some]

end

end Graph

/-- The getters keep answering with what a registration was given, in every run
onwards that unregisters neither the node nor the endpoint. -/
theorem registered_endpoint_stable {dds : Dds} {past later : List (Graph × Event)}
    {graph last : Graph} {env : CallEnv} {operation : Operation} {nodeHandle : NodeHandle}
    {endpType : EndpointType} {ddsReader : Option DataReader} {ddsWriter : Option DataWriter}
    {handle : EndpointHandle} (run : Graph.Run dds past graph)
    (registers : operation.registration = some (nodeHandle, endpType, ddsReader, ddsWriter))
    (returned : (operation.perform dds env graph).result = .handle handle)
    (valid : handle ≠ EndpointHandle.invalid)
    (onward : Execution (fun first => first = graph.next dds (.call env operation))
      (fun graph event next => next = graph.next dds event) later last)
    (undisturbed : ∀ visit ∈ later,
      ¬ visit.2.Unregisters nodeHandle ⟨handle, ddsReader, ddsWriter, endpType⟩) :
    last.getEndpointReader nodeHandle handle = ddsReader ∧
      last.getEndpointWriter nodeHandle handle = ddsWriter ∧
      last.getEndpointType nodeHandle handle = endpType := by
  obtain ⟨lists, settled⟩ := Graph.registration_lists registers returned valid
  have reached := (run.extend (rfl : graph.next dds (.call env operation) = _)).append onward
  have kept : last.HandlesDistinct ∧
      last.ListsEndpoint nodeHandle ⟨handle, ddsReader, ddsWriter, endpType⟩ := by
    apply @Execution.invariant _ _ _ _
      (fun _ event => ¬ Event.Unregisters nodeHandle ⟨handle, ddsReader, ddsWriter, endpType⟩ event)
      _ _ _ _ _ onward undisturbed
    · rintro first rfl
      exact ⟨(Graph.next_evolves run.distinct _).distinct, lists⟩
    · rintro state event next ⟨distinct, listed⟩ untouched rfl
      exact ⟨(Graph.next_evolves distinct event).distinct,
        listed.next settled distinct untouched⟩
  have found := kept.2.found kept.1 (Graph.Run.numbered reached)
  simp [Graph.getEndpointReader, Graph.getEndpointWriter, Graph.getEndpointType, found]

/-- After a client has been registered, the node is inspected, which meets a
second writer on the client's topic, and another client is unregistered. -/
def laterEvents : List Event :=
  [.call (.granting (.answering [⟨2⟩, ⟨3⟩] [⟨1⟩])) (.inspectLocalNode 0),
    .call (.granting (.answering [] [])) (.unregisterLocalClient 0 (some ⟨4⟩) (some ⟨3⟩)),
    .poll (.granting (.answering [⟨2⟩] [⟨1⟩])) 0]

theorem registered_endpoint_stable_client :
    let registered := ((Graph.initial ⟨0⟩ Duration.infinite).next clientDds
      (.call (.granting (.answering [] []))
        (.registerLocalNode (some firstName) none none))).next clientDds
      (.call (.granting (.answering [] [])) (.registerLocalClient 0 (some ⟨1⟩) (some ⟨2⟩)))
    (registered.after clientDds laterEvents).getEndpointReader 0 0 = some ⟨1⟩ ∧
      (registered.after clientDds laterEvents).getEndpointWriter 0 0 = some ⟨2⟩ ∧
      (registered.after clientDds laterEvents).getEndpointType 0 0 = .client := by
  intro registered
  have run := Graph.Run.ofInitial clientDds ⟨0⟩ Duration.infinite
    [.call (.granting (.answering [] [])) (.registerLocalNode (some firstName) none none)]
  have onward := @Graph.Run.history clientDds (fun first => first = registered) _ _
    (.start rfl) laterEvents
  refine registered_endpoint_stable run rfl rfl (by decide) onward ?_
  intro visit member
  simp only [List.nil_append, Graph.history, laterEvents, List.mem_cons, List.not_mem_nil,
    or_false] at member
  rcases member with rfl | rfl | rfl
  · exact id
  · simp [Event.Unregisters, Operation.Unregisters, GraphEndpoint.HeldBy]
  · exact id

end Ros2Graph
