import Ros2Graph.Calls.Statements
import Ros2Graph.Registry.NodeRegistration
import Ros2Graph.Registry.Representation

/-! Undisturbed, the statements of a function compute what the function does to the
registry in one piece. -/

set_option autoImplicit false

namespace Ros2Graph.GraphRoutine

open Foundation

variable {Result Next : Type} {graph : Graph}

@[simp] theorem run_registry (graph : Graph) : registry.run graph = ⟨graph, graph, []⟩ := rfl

@[simp] theorem run_assign (change : Graph → Graph) (graph : Graph) :
    (assign change).run graph = ⟨change graph, (), []⟩ := rfl

@[simp] theorem run_queueUpdate (graph : Graph) :
    queueUpdate.run graph = ⟨graph, (), [.queueUpdate]⟩ := rfl

section

variable {ptr : NodePtr} {node : GraphNode} {pool : FastBufferPool}

/-- What a listed node is assigned is stored with the pool of its endpoints. -/
theorem run_assignNode (inside : ptr < graph.nodes.length) (change : GraphNode → GraphNode) :
    (assignNode ptr change).run (graph.storeNode ptr pool node) =
      ⟨graph.storeNode ptr pool (change node), (), []⟩ := by
  unfold assignNode Graph.storeNode
  rw [run_assign]
  simp [List.modify_eq_set_getElem?, inside]

theorem run_assignEndpoint (inside : ptr < graph.nodes.length) (endpPtr : EndpointPtr)
    (change : GraphEndpoint → GraphEndpoint) :
    (assignEndpoint ptr endpPtr change).run (graph.storeNode ptr pool node) =
      ⟨graph.storeNode ptr pool
        { node with endpoints := node.endpoints.modify endpPtr change }, (), []⟩ :=
  run_assignNode inside _

theorem run_assignEndpointsPool (change : FastBufferPool → FastBufferPool) :
    (assignEndpointsPool change).run (graph.storeNode ptr pool node) =
      ⟨graph.storeNode ptr (change pool) node, (), []⟩ := rfl

@[simp] theorem storeNode_endpointsPool :
    (graph.storeNode ptr pool node).endpointsPool = pool := rfl

theorem node_stored (inside : ptr < graph.nodes.length) :
    (graph.storeNode ptr pool node).nodes[ptr]? = some node := by
  simp [Graph.storeNode, inside]

end

theorem run_nextNodeHandle (tries : Nat) (graph : Graph) :
    (nextNodeHandle tries).run graph =
      let found := searchHandle (fun handle => (graph.lookupLocalNodeByHandle handle).isSome) tries
        graph.nodeHandleNext
      ⟨{ graph with nodeHandleNext := found.2 }, found.1, []⟩ := by
  induction tries generalizing graph with
  | zero => rfl
  | succ tries ih =>
      -- the search looks at the nodes only, which no assignment has changed
      have listed : ∀ next handle,
          Graph.lookupLocalNodeByHandle { graph with nodeHandleNext := next } handle =
            graph.lookupLocalNodeByHandle handle :=
        fun _ _ => rfl
      by_cases negative : graph.nodeHandleNext < 0
      · cases busy : (graph.lookupLocalNodeByHandle 0).isSome <;>
          simp [nextNodeHandle, searchHandle, negative, listed, busy, ih]
      · cases busy : (graph.lookupLocalNodeByHandle graph.nodeHandleNext).isSome <;>
          simp [nextNodeHandle, searchHandle, negative, listed, busy, ih]

section

variable {ptr : NodePtr} {node : GraphNode} {pool : FastBufferPool}

theorem run_nextEndpointHandle (inside : ptr < graph.nodes.length) (tries : Nat)
    (node : GraphNode) :
    (nextEndpointHandle ptr tries).run (graph.storeNode ptr pool node) =
      let found := searchHandle
        (fun handle => (node.lookupLocalEndpointByHandle handle).isSome) tries node.endpHandleNext
      ⟨graph.storeNode ptr pool { node with endpHandleNext := found.2 }, found.1, []⟩ := by
  induction tries generalizing node with
  | zero => rfl
  | succ tries ih =>
      have listed : ∀ next handle,
          GraphNode.lookupLocalEndpointByHandle { node with endpHandleNext := next } handle =
            node.lookupLocalEndpointByHandle handle :=
        fun _ _ => rfl
      by_cases negative : node.endpHandleNext < 0
      · cases busy : (node.lookupLocalEndpointByHandle 0).isSome <;>
          simp [nextEndpointHandle, searchHandle, node_stored inside, run_assignNode inside,
            negative, listed, busy, ih]
      · cases busy : (node.lookupLocalEndpointByHandle node.endpHandleNext).isSome <;>
          simp [nextEndpointHandle, searchHandle, node_stored inside, run_assignNode inside,
            negative, listed, busy, ih]

theorem run_linkEndpoint (inside : ptr < graph.nodes.length) (handle : EndpointHandle)
    (endpType : EndpointType) (ddsReader : Option DataReader) (ddsWriter : Option DataWriter) :
    (linkEndpoint ptr node.endpoints.length handle endpType ddsReader ddsWriter).run
        (graph.storeNode ptr pool node) =
      ⟨graph.storeNode ptr pool
        (node.linkEndpoint { handle, ddsReader, ddsWriter, endpType }), (), []⟩ := by
  unfold linkEndpoint GraphNode.linkEndpoint
  cases ddsReader <;> cases ddsWriter <;>
    simp [run_assignNode inside, run_assignEndpoint inside, modify_last]

end

/-- The checks come first, and the rest is done for an endpoint that passes them. -/
theorem registerEndpoint_eq (dds : Dds) (env : CallEnv) (pool : FastBufferPool)
    (node : GraphNode) (endpType : EndpointType) (ddsReader : Option DataReader)
    (ddsWriter : Option DataWriter) :
    node.registerEndpoint dds env pool endpType ddsReader ddsWriter =
      if refusesEndpoint dds node endpType ddsReader ddsWriter then (pool, node, none)
      else
        match node.nextEndpointHandle with
        | (none, node) => (pool, node, none)
        | (some handle, node) =>
          match pool.getBuffer env.endpointBuffer with
          | none => (pool, node, none)
          | some pool =>
            let endp : GraphEndpoint := { handle, ddsReader, ddsWriter, endpType }
            (pool, node.linkEndpoint endp, some endp) := by
  unfold GraphNode.registerEndpoint refusesEndpoint
  cases (node.lookupLocalEndpointByDdsEndpoints ddsReader ddsWriter).isSome
  · cases ddsReader.any fun reader =>
        endpType != detectEndpointType (dds.readerTopicName reader) false
    · cases ddsWriter.any fun writer =>
          endpType != detectEndpointType (dds.writerTopicName writer) true <;> rfl
    · rfl
  · rfl

theorem run_registerLocalEndpoint (dds : Dds) (env : CallEnv) (graph : Graph)
    (nodeHandle : NodeHandle) (endpType : EndpointType) (ddsReader : Option DataReader)
    (ddsWriter : Option DataWriter) :
    (registerLocalEndpoint dds env nodeHandle endpType ddsReader ddsWriter).run graph =
      let registered := graph.registerLocalEndpoint dds env nodeHandle endpType ddsReader ddsWriter
      ⟨registered.1, registered.2.map (·.handle), []⟩ := by
  unfold registerLocalEndpoint Graph.registerLocalEndpoint
  cases found : graph.lookupLocalNodeByHandle nodeHandle with
  | none => simp [found]
  | some located =>
      obtain ⟨ptr, node⟩ := located
      have present : graph.nodes[ptr]? = some node := locate_getElem? found
      have inside : ptr < graph.nodes.length := (List.getElem?_eq_some_iff.mp present).1
      have drawn := @run_nextEndpointHandle _ _ graph.endpointsPool inside intMax node
      rw [Graph.storeNode_self present] at drawn
      simp only [registerEndpoint_eq]
      cases refused : refusesEndpoint dds node endpType ddsReader ddsWriter
      · unfold GraphNode.nextEndpointHandle
        cases search : searchHandle
            (fun handle => (node.lookupLocalEndpointByHandle handle).isSome) intMax
            node.endpHandleNext with
        | mk handle counter =>
            rw [search] at drawn
            cases handle with
            | none => simp [found, refused, drawn]
            | some handle =>
                cases buffer : graph.endpointsPool.getBuffer env.endpointBuffer with
                | none => simp [found, refused, drawn, buffer]
                | some pool =>
                    have linked := @run_linkEndpoint _ _
                      { node with endpHandleNext := counter } pool inside handle endpType
                      ddsReader ddsWriter
                    simp [found, refused, drawn, buffer, run_assignEndpointsPool, linked]
      · simp [found, refused, present]

theorem run_finalizeEndpoint {ptr : NodePtr} {node : GraphNode} {endpPtr : EndpointPtr}
    {endp : GraphEndpoint} (present : graph.nodes[ptr]? = some node)
    (listed : node.endpoints[endpPtr]? = some endp) :
    (finalizeEndpoint ptr endpPtr endp).run graph =
      ⟨graph.finalizeEndpointAt ptr node endpPtr, (), []⟩ := by
  have inside : ptr < graph.nodes.length := (List.getElem?_eq_some_iff.mp present).1
  have ran : (finalizeEndpoint ptr endpPtr endp).run
      (graph.storeNode ptr graph.endpointsPool node) =
        ⟨graph.finalizeEndpointAt ptr node endpPtr, (), []⟩ := by
    unfold finalizeEndpoint Graph.finalizeEndpointAt GraphNode.finalizeEndpoint
    cases writer : endp.ddsWriter <;> cases reader : endp.ddsReader <;>
      simp [run_assignNode inside, run_assignEndpointsPool, listed, writer, reader]
  rwa [Graph.storeNode_self present] at ran

/-- The node itself is not listed any more: one buffer goes back for each endpoint. -/
theorem run_finalizeEndpoints (turns : List GraphEndpoint) (node : GraphNode)
    (enough : turns.length ≤ node.endpoints.length) (graph : Graph) :
    (finalizeEndpoints turns).run graph =
      ⟨{ graph with
          endpointsPool := (turns.foldl (fun scope _ =>
            GraphNode.finalizeEndpoint scope.1 scope.2 0) (graph.endpointsPool, node)).1 },
        (), []⟩ := by
  induction turns generalizing node graph with
  | nil => rfl
  | cons turn rest ih =>
      cases listed : node.endpoints with
      | nil => simp [listed] at enough
      | cons head tail =>
          have first : node.endpoints[0]? = some head := by simp [listed]
          have returned := @GraphNode.finalizeEndpoint_pool node graph.endpointsPool _ _ first
          have shorter :
              rest.length ≤ (node.finalizeEndpoint graph.endpointsPool 0).2.endpoints.length := by
            rw [GraphNode.finalizeEndpoint_endpoints, listed]
            simpa [listed] using enough
          have onwards := ih _ shorter
            { graph with endpointsPool := graph.endpointsPool.returnBuffer }
          have finalized : node.finalizeEndpoint graph.endpointsPool 0 =
              (graph.endpointsPool.returnBuffer,
                (node.finalizeEndpoint graph.endpointsPool 0).2) :=
            Prod.ext returned rfl
          rw [List.foldl_cons, finalized]
          simp [finalizeEndpoints, assignEndpointsPool, onwards]

theorem run_finalizeNode (ptr : NodePtr) (graph : Graph) :
    (finalizeNode ptr).run graph = ⟨graph.finalizeNode ptr, (), []⟩ := by
  unfold finalizeNode Graph.finalizeNode
  cases present : graph.nodes[ptr]? with
  | none => simp [present]
  | some node =>
      simp [present, run_finalizeEndpoints node.endpoints node (Nat.le_refl _)]

/-! Inspection, with the local that the loops carry. -/

section

variable {Item : Type} (dds : Dds) (env : CallEnv) (ptr : NodePtr)

/-- The routine does what one iteration does to the registry and to `endp_handle`. -/
def Iterates (routine : GraphRoutine (Bool × EndpointHandle)) (graph : Graph)
    (iterated : Bool × InspectState) : Prop :=
  routine.run graph = ⟨iterated.2.graph, (iterated.1, iterated.2.endpHandle), []⟩

theorem Iterates.forEach {routine : EndpointHandle → Item → GraphRoutine (Bool × EndpointHandle)}
    {step : InspectState → Item → Bool × InspectState}
    (iterates : ∀ endpHandle item graph,
      Iterates (routine endpHandle item) graph (step ⟨graph, endpHandle⟩ item))
    (endpHandle : EndpointHandle) (items : List Item) (graph : Graph) :
    Iterates (forEach routine endpHandle items) graph
      (runLoop step ⟨graph, endpHandle⟩ items) := by
  induction items generalizing endpHandle graph with
  | nil => rfl
  | cons item rest ih =>
      have first := iterates endpHandle item graph
      unfold Iterates at first ih ⊢
      cases iterated : step ⟨graph, endpHandle⟩ item with
      | mk continues state =>
          rw [iterated] at first
          cases continues with
          | false => simp [GraphRoutine.forEach, runLoop, iterated, first]
          | true => simp [GraphRoutine.forEach, runLoop, iterated, first, ih]

theorem registerInspected_iterates (endpHandle : EndpointHandle) (nodeHandle : NodeHandle)
    (endpType : EndpointType) (ddsReader : Option DataReader) (ddsWriter : Option DataWriter)
    (graph : Graph) :
    Iterates (registerInspected dds env endpHandle nodeHandle endpType ddsReader ddsWriter) graph
      (InspectState.registerInspected dds env ⟨graph, endpHandle⟩ nodeHandle endpType ddsReader
        ddsWriter) := by
  unfold Iterates registerInspected InspectState.registerInspected
  cases registered : graph.registerLocalEndpoint dds env nodeHandle endpType ddsReader ddsWriter with
  | mk after endp =>
      cases endp with
      | none => simp [run_registerLocalEndpoint, registered]
      | some endp =>
          simp [run_registerLocalEndpoint, registered, checkEndpHandle,
            InspectState.checkEndpHandle]

/-- An entity that is attached in place. -/
theorem attach_iterates {node : GraphNode} {endpPtr : EndpointPtr} {endp : GraphEndpoint}
    (present : graph.nodes[ptr]? = some node) (listed : node.endpoints[endpPtr]? = some endp)
    (endpHandle : EndpointHandle) (change : GraphEndpoint → GraphEndpoint) :
    Iterates (do assignEndpoint ptr endpPtr change; return checkEndpHandle endpHandle) graph
      (InspectState.checkEndpHandle
        ⟨graph.setNode ptr { node with endpoints := node.endpoints.set endpPtr (change endp) },
          endpHandle⟩) := by
  obtain ⟨inside, rfl⟩ := List.getElem?_eq_some_iff.mp present
  obtain ⟨within, rfl⟩ := List.getElem?_eq_some_iff.mp listed
  simp [Iterates, assignEndpoint, assignNode, checkEndpHandle, InspectState.checkEndpHandle,
    Graph.setNode, List.modify_eq_set_getElem?, inside, within]

theorem inspectServiceWriter_iterates {node : GraphNode} (present : graph.nodes[ptr]? = some node)
    (endpHandle : EndpointHandle) (endpType : EndpointType) (dw : DataWriter) :
    Iterates (inspectServiceWriter dds env ptr endpHandle node endpType dw) graph
      (InspectState.inspectServiceWriter dds env ptr ⟨graph, endpHandle⟩ node endpType dw) := by
  unfold inspectServiceWriter InspectState.inspectServiceWriter
  cases found : node.lookupLocalEndpointByTopicName dds (dds.writerTopicName dw) false with
  | none => exact registerInspected_iterates dds env endpHandle node.handle _ _ _ graph
  | some located =>
      obtain ⟨endpPtr, endp⟩ := located
      cases attached : endp.ddsWriter with
      | some _ => simp [attached, Iterates]
      | none =>
          simpa [attached] using attach_iterates ptr present (locate_getElem? found) endpHandle
            fun endp => { endp with ddsWriter := some dw }

theorem inspectServiceReader_iterates {node : GraphNode} (present : graph.nodes[ptr]? = some node)
    (endpHandle : EndpointHandle) (endpType : EndpointType) (dr : DataReader) :
    Iterates (inspectServiceReader dds env ptr endpHandle node endpType dr) graph
      (InspectState.inspectServiceReader dds env ptr ⟨graph, endpHandle⟩ node endpType dr) := by
  unfold inspectServiceReader InspectState.inspectServiceReader
  cases found : node.lookupLocalEndpointByTopicName dds (dds.readerTopicName dr) false with
  | none => exact registerInspected_iterates dds env endpHandle node.handle _ _ _ graph
  | some located =>
      obtain ⟨endpPtr, endp⟩ := located
      cases attached : endp.ddsReader with
      | some _ => simp [attached, Iterates]
      | none =>
          simpa [attached] using attach_iterates ptr present (locate_getElem? found) endpHandle
            fun endp => { endp with ddsReader := some dr }

theorem inspectWriter_iterates (endpHandle : EndpointHandle) (dw : DataWriter) (graph : Graph) :
    Iterates (inspectWriter dds env ptr endpHandle dw) graph
      (InspectState.inspectWriter dds env ptr ⟨graph, endpHandle⟩ dw) := by
  unfold inspectWriter InspectState.inspectWriter
  cases present : graph.nodes[ptr]? with
  | none => simp [present, Iterates]
  | some node =>
      cases known : node.lookupLocalEndpointByDdsEndpoints none (some dw) with
      | some _ => simp [present, known, Iterates]
      | none =>
          have registered := registerInspected_iterates dds env endpHandle node.handle .publisher
            none (some dw) graph
          have client := inspectServiceWriter_iterates dds env ptr present endpHandle .client dw
          have service := inspectServiceWriter_iterates dds env ptr present endpHandle .service dw
          unfold Iterates at registered client service ⊢
          cases detectEndpointType (dds.writerTopicName dw) true <;>
            simp [present, known, registered, client, service]

theorem inspectReader_iterates (endpHandle : EndpointHandle) (dr : DataReader) (graph : Graph) :
    Iterates (inspectReader dds env ptr endpHandle dr) graph
      (InspectState.inspectReader dds env ptr ⟨graph, endpHandle⟩ dr) := by
  unfold inspectReader InspectState.inspectReader
  cases present : graph.nodes[ptr]? with
  | none => simp [present, Iterates]
  | some node =>
      cases known : node.lookupLocalEndpointByDdsEndpoints (some dr) none with
      | some _ => simp [present, known, Iterates]
      | none =>
          have registered := registerInspected_iterates dds env endpHandle node.handle .subscription
            (some dr) none graph
          have client := inspectServiceReader_iterates dds env ptr present endpHandle .client dr
          have service := inspectServiceReader_iterates dds env ptr present endpHandle .service dr
          unfold Iterates at registered client service ⊢
          cases detectEndpointType (dds.readerTopicName dr) false <;>
            simp [present, known, registered, client, service]

theorem inspectPublisher_iterates (endpHandle : EndpointHandle) (pub : Publisher)
    (graph : Graph) :
    Iterates (inspectPublisher dds env ptr endpHandle pub) graph
      (InspectState.inspectPublisher dds env ptr ⟨graph, endpHandle⟩ pub) := by
  unfold inspectPublisher InspectState.inspectPublisher
  cases env.enumeration.getAllDatawriters pub with
  | none => rfl
  | some writers => exact .forEach (inspectWriter_iterates dds env ptr) endpHandle writers graph

theorem inspectSubscriber_iterates (endpHandle : EndpointHandle) (sub : Subscriber)
    (graph : Graph) :
    Iterates (inspectSubscriber dds env ptr endpHandle sub) graph
      (InspectState.inspectSubscriber dds env ptr ⟨graph, endpHandle⟩ sub) := by
  unfold inspectSubscriber InspectState.inspectSubscriber
  cases env.enumeration.getAllDatareaders sub with
  | none => rfl
  | some readers => exact .forEach (inspectReader_iterates dds env ptr) endpHandle readers graph

theorem run_inspectLocalNodeEA (graph : Graph) :
    (inspectLocalNodeEA dds env ptr).run graph =
      ⟨(graph.inspectLocalNodeEA dds env ptr).1, (graph.inspectLocalNodeEA dds env ptr).2, []⟩ := by
  unfold inspectLocalNodeEA Graph.inspectLocalNodeEA
  cases present : graph.nodes[ptr]? with
  | none => simp [present]
  | some node =>
      cases publishing : env.enumeration.getPublishers node.ddsParticipant with
      | none => simp [present, publishing]
      | some publishers =>
          have first := Iterates.forEach (inspectPublisher_iterates dds env ptr)
            EndpointHandle.invalid publishers graph
          unfold Iterates at first
          cases wrote : runLoop (InspectState.inspectPublisher dds env ptr)
              ⟨graph, EndpointHandle.invalid⟩ publishers with
          | mk continues state =>
              rw [wrote] at first
              cases continues with
              | false => simp [present, publishing, wrote, first]
              | true =>
                  cases subscribing : env.enumeration.getSubscribers node.ddsParticipant with
                  | none => simp [present, publishing, wrote, first, subscribing]
                  | some subscribers =>
                      have second := Iterates.forEach (inspectSubscriber_iterates dds env ptr)
                        state.endpHandle subscribers state.graph
                      unfold Iterates at second
                      cases read : runLoop (InspectState.inspectSubscriber dds env ptr) state
                          subscribers with
                      | mk finished last =>
                          rw [read] at second
                          cases finished <;>
                            simp [present, publishing, wrote, first, subscribing, second, read]

end

end Ros2Graph.GraphRoutine
