import Ros2Graph.Registry.OperationEffects

/-! What the poll period decides. Apart from whether a node is inspected as it
is registered, no call depends on it. -/

set_option autoImplicit false

namespace Ros2Graph

open Foundation

namespace Graph

/-- The inspections of a poll, with the answers by node. -/
def inspectLocalNodes (dds : Dds) (envs : NodePtr → CallEnv) (graph : Graph)
    (ptrs : List NodePtr) : Graph :=
  ptrs.foldl (fun graph ptr => (graph.inspectLocalNodeEA dds (envs ptr) ptr).1) graph

/-- What `RTIROS2_Graph_update_thread` does to the registry once the poll period
has passed. A graph without polling waits on. -/
def pollLocalNodes (dds : Dds) (envs : NodePtr → CallEnv) (graph : Graph) : Graph :=
  if graph.isPollingEnabled then
    graph.inspectLocalNodes dds envs (List.range graph.nodes.length)
  else graph

def withPollPeriod (graph : Graph) (period : Duration) : Graph :=
  { graph with pollPeriod := period }

variable {dds : Dds} {env : CallEnv} {graph : Graph} {period : Duration}

theorem withPollPeriod_registerLocalEndpoint (nodeHandle : NodeHandle) (endpType : EndpointType)
    (ddsReader : Option DataReader) (ddsWriter : Option DataWriter) :
    (graph.withPollPeriod period).registerLocalEndpoint dds env nodeHandle endpType ddsReader
        ddsWriter =
      (graph.registerLocalEndpoint dds env nodeHandle endpType ddsReader ddsWriter).map
        (·.withPollPeriod period) id := by
  have lookup : (graph.withPollPeriod period).lookupLocalNodeByHandle nodeHandle =
      graph.lookupLocalNodeByHandle nodeHandle := rfl
  unfold registerLocalEndpoint
  rw [lookup]
  cases graph.lookupLocalNodeByHandle nodeHandle with
  | none => rfl
  | some found => rfl

theorem withPollPeriod_finalizeNode (ptr : NodePtr) :
    (graph.withPollPeriod period).finalizeNode ptr =
      (graph.finalizeNode ptr).withPollPeriod period := by
  have nodes : (graph.withPollPeriod period).nodes = graph.nodes := rfl
  unfold finalizeNode
  rw [nodes]
  cases graph.nodes[ptr]? with
  | none => rfl
  | some node => rfl

end Graph

namespace InspectState

variable {dds : Dds} {env : CallEnv} {ptr : NodePtr} {state : InspectState} {period : Duration}

def withPollPeriod (state : InspectState) (period : Duration) : InspectState :=
  { state with graph := state.graph.withPollPeriod period }

theorem withPollPeriod_registerInspected (nodeHandle : NodeHandle) (endpType : EndpointType)
    (ddsReader : Option DataReader) (ddsWriter : Option DataWriter) :
    (state.withPollPeriod period).registerInspected dds env nodeHandle endpType ddsReader
        ddsWriter =
      (state.registerInspected dds env nodeHandle endpType ddsReader ddsWriter).map id
        (·.withPollPeriod period) := by
  unfold registerInspected
  rw [withPollPeriod, Graph.withPollPeriod_registerLocalEndpoint]
  cases state.graph.registerLocalEndpoint dds env nodeHandle endpType ddsReader ddsWriter with
  | mk graph endp => cases endp <;> rfl

theorem withPollPeriod_inspectServiceWriter (node : GraphNode) (endpType : EndpointType)
    (dw : DataWriter) :
    (state.withPollPeriod period).inspectServiceWriter dds env ptr node endpType dw =
      (state.inspectServiceWriter dds env ptr node endpType dw).map id
        (·.withPollPeriod period) := by
  unfold inspectServiceWriter
  rw [withPollPeriod_registerInspected]
  split
  · rfl
  · split <;> rfl

theorem withPollPeriod_inspectServiceReader (node : GraphNode) (endpType : EndpointType)
    (dr : DataReader) :
    (state.withPollPeriod period).inspectServiceReader dds env ptr node endpType dr =
      (state.inspectServiceReader dds env ptr node endpType dr).map id
        (·.withPollPeriod period) := by
  unfold inspectServiceReader
  rw [withPollPeriod_registerInspected]
  split
  · rfl
  · split <;> rfl

theorem withPollPeriod_inspectWriter (dw : DataWriter) :
    (state.withPollPeriod period).inspectWriter dds env ptr dw =
      (state.inspectWriter dds env ptr dw).map id (·.withPollPeriod period) := by
  have nodes : (state.withPollPeriod period).graph.nodes = state.graph.nodes := rfl
  unfold inspectWriter
  rw [nodes]
  split
  · rfl
  · split
    · rfl
    · split
      · exact withPollPeriod_registerInspected _ _ _ _
      · exact withPollPeriod_inspectServiceWriter _ _ _
      · exact withPollPeriod_inspectServiceWriter _ _ _
      · rfl

theorem withPollPeriod_inspectReader (dr : DataReader) :
    (state.withPollPeriod period).inspectReader dds env ptr dr =
      (state.inspectReader dds env ptr dr).map id (·.withPollPeriod period) := by
  have nodes : (state.withPollPeriod period).graph.nodes = state.graph.nodes := rfl
  unfold inspectReader
  rw [nodes]
  split
  · rfl
  · split
    · rfl
    · split
      · exact withPollPeriod_registerInspected _ _ _ _
      · exact withPollPeriod_inspectServiceReader _ _ _
      · exact withPollPeriod_inspectServiceReader _ _ _
      · rfl

theorem withPollPeriod_inspectPublisher (pub : Publisher) :
    (state.withPollPeriod period).inspectPublisher dds env ptr pub =
      (state.inspectPublisher dds env ptr pub).map id (·.withPollPeriod period) := by
  unfold inspectPublisher
  cases env.enumeration.getAllDatawriters pub with
  | none => rfl
  | some writers =>
      exact runLoop_transport (fun _ dw => withPollPeriod_inspectWriter dw) state writers

theorem withPollPeriod_inspectSubscriber (sub : Subscriber) :
    (state.withPollPeriod period).inspectSubscriber dds env ptr sub =
      (state.inspectSubscriber dds env ptr sub).map id (·.withPollPeriod period) := by
  unfold inspectSubscriber
  cases env.enumeration.getAllDatareaders sub with
  | none => rfl
  | some readers =>
      exact runLoop_transport (fun _ dr => withPollPeriod_inspectReader dr) state readers

end InspectState

namespace Graph

variable {dds : Dds} {env : CallEnv} {graph : Graph} {period : Duration}

theorem withPollPeriod_inspectLocalNodeEA (ptr : NodePtr) :
    (graph.withPollPeriod period).inspectLocalNodeEA dds env ptr =
      (graph.inspectLocalNodeEA dds env ptr).map (·.withPollPeriod period) id := by
  have nodes : (graph.withPollPeriod period).nodes = graph.nodes := rfl
  unfold inspectLocalNodeEA
  rw [nodes]
  cases graph.nodes[ptr]? with
  | none => rfl
  | some node =>
      dsimp only
      cases env.enumeration.getPublishers node.ddsParticipant with
      | none => rfl
      | some publishers =>
          have writers := runLoop_transport
            (fun state pub => @InspectState.withPollPeriod_inspectPublisher dds env ptr state
              period pub) ⟨graph, EndpointHandle.invalid⟩ publishers
          dsimp only [InspectState.withPollPeriod] at writers ⊢
          rw [writers]
          cases runLoop (InspectState.inspectPublisher dds env ptr)
              ⟨graph, EndpointHandle.invalid⟩ publishers with
          | mk completed state =>
              cases completed with
              | false => rfl
              | true =>
                  dsimp only [Prod.map, id]
                  cases env.enumeration.getSubscribers node.ddsParticipant with
                  | none => rfl
                  | some subscribers =>
                      have readers := runLoop_transport
                        (fun state sub => @InspectState.withPollPeriod_inspectSubscriber dds env
                          ptr state period sub) state subscribers
                      dsimp only [InspectState.withPollPeriod] at readers ⊢
                      rw [readers]
                      cases runLoop (InspectState.inspectSubscriber dds env ptr) state
                          subscribers with
                      | mk completed state => cases completed <;> rfl

end Graph

def Outcome.withPollPeriod {Result : Type} (outcome : Outcome Result) (period : Duration) :
    Outcome Result :=
  { outcome with graph := outcome.graph.withPollPeriod period }

namespace Graph

open SemEvent

variable {dds : Dds} {env : CallEnv} {graph : Graph} {period : Duration}

/-- The inspection of a node as it is registered, and what follows it. -/
private theorem withPollPeriod_inspectNew {named : Graph} {ptr : NodePtr} {handle : NodeHandle} :
    (match (named.withPollPeriod period).inspectLocalNodeEA dds env ptr with
      | (inspected, .ok) => ⟨inspected, handle, [takeMutexSelf, giveSemPinfo, giveMutexSelf]⟩
      | (inspected, _) =>
        ⟨inspected.finalizeNode ptr, .invalid, [takeMutexSelf, giveSemPinfo, giveMutexSelf]⟩) =
      Outcome.withPollPeriod (match named.inspectLocalNodeEA dds env ptr with
        | (inspected, .ok) => ⟨inspected, handle, [takeMutexSelf, giveSemPinfo, giveMutexSelf]⟩
        | (inspected, _) =>
          ⟨inspected.finalizeNode ptr, .invalid,
            [takeMutexSelf, giveSemPinfo, giveMutexSelf]⟩) period := by
  rw [withPollPeriod_inspectLocalNodeEA]
  cases named.inspectLocalNodeEA dds env ptr with
  | mk inspected retcode =>
      cases retcode with
      | ok => rfl
      | _ => exact congrArg (Outcome.mk · _ _) (withPollPeriod_finalizeNode ptr)

theorem withPollPeriod_registerLocalNode
    (polling : (graph.withPollPeriod period).isPollingEnabled = graph.isPollingEnabled)
    (nodeName nodeNamespace : Option CString) (ddsParticipant : Option DomainParticipant) :
    (graph.withPollPeriod period).registerLocalNode dds env nodeName nodeNamespace ddsParticipant =
      (graph.registerLocalNode dds env nodeName nodeNamespace ddsParticipant).withPollPeriod
        period := by
  have lookup : ∀ name, (graph.withPollPeriod period).lookupLocalNodeByName name nodeNamespace =
      graph.lookupLocalNodeByName name nodeNamespace := fun _ => rfl
  have next : (graph.withPollPeriod period).nextNodeHandle =
      graph.nextNodeHandle.map id (·.withPollPeriod period) := rfl
  unfold registerLocalNode
  split
  · next name accepted =>
    rw [lookup, next]
    split
    · rfl
    · cases found : graph.nextNodeHandle with
      | mk handle counted =>
          obtain ⟨counter, rfl⟩ : ∃ counter, counted = { graph with nodeHandleNext := counter } :=
            ⟨_, (congrArg Prod.snd found).symm⟩
          cases handle with
          | none => rfl
          | some handle =>
              cases granted : graph.nodesPool.getBuffer env.nodeBuffer with
              | none =>
                  simp only [Prod.map, withPollPeriod, id, granted]
                  rfl
              | some pool =>
                  let linked := Graph.linkNode { graph with nodeHandleNext := counter } pool handle
                    ddsParticipant
                  simp only [Prod.map, withPollPeriod, id, granted]
                  cases env.dupName with
                  | false =>
                      exact congrArg (Outcome.mk · NodeHandle.invalid [takeMutexSelf, giveMutexSelf])
                        (@withPollPeriod_finalizeNode linked period _)
                  | true =>
                      cases env.dupNamespace with
                      | false =>
                          exact congrArg
                            (Outcome.mk · NodeHandle.invalid [takeMutexSelf, giveMutexSelf])
                            (@withPollPeriod_finalizeNode
                              (linked.nameNode graph.nodes.length (some name) none) period _)
                      | true =>
                          change (if (graph.withPollPeriod period).isPollingEnabled then _ else _) =
                            Outcome.withPollPeriod (if graph.isPollingEnabled then _ else _) _
                          rw [polling]
                          split
                          · exact @withPollPeriod_inspectNew _ _ _ (linked.nameNode _ _ _) _ _
                          · rfl
  · rfl

theorem withPollPeriod_inspectLocalNode (nodeHandle : NodeHandle) :
    (graph.withPollPeriod period).inspectLocalNode dds env nodeHandle =
      (graph.inspectLocalNode dds env nodeHandle).withPollPeriod period := by
  have lookup : (graph.withPollPeriod period).lookupLocalNodeByHandle nodeHandle =
      graph.lookupLocalNodeByHandle nodeHandle := rfl
  unfold inspectLocalNode
  rw [lookup]
  cases graph.lookupLocalNodeByHandle nodeHandle with
  | none => rfl
  | some found =>
      dsimp only
      rw [withPollPeriod_inspectLocalNodeEA]
      cases graph.inspectLocalNodeEA dds env found.1 with
      | mk inspected retcode => cases retcode <;> rfl

theorem withPollPeriod_registerAndQueue (nodeHandle : NodeHandle) (endpType : EndpointType)
    (ddsReader : Option DataReader) (ddsWriter : Option DataWriter) :
    (graph.withPollPeriod period).registerAndQueue dds env nodeHandle endpType ddsReader
        ddsWriter =
      (graph.registerAndQueue dds env nodeHandle endpType ddsReader ddsWriter).withPollPeriod
        period := by
  unfold registerAndQueue
  rw [withPollPeriod_registerLocalEndpoint]
  cases graph.registerLocalEndpoint dds env nodeHandle endpType ddsReader ddsWriter with
  | mk registered endp => cases endp <;> rfl

theorem withPollPeriod_unregisterLocalNode (nodeHandle : NodeHandle) :
    (graph.withPollPeriod period).unregisterLocalNode nodeHandle =
      (graph.unregisterLocalNode nodeHandle).withPollPeriod period := by
  have lookup : (graph.withPollPeriod period).lookupLocalNodeByHandle nodeHandle =
      graph.lookupLocalNodeByHandle nodeHandle := rfl
  unfold unregisterLocalNode
  rw [lookup]
  cases graph.lookupLocalNodeByHandle nodeHandle with
  | none => rfl
  | some found =>
      exact congrArg (Outcome.mk · ReturnCode.ok [takeMutexSelf, giveMutexSelf])
        (withPollPeriod_finalizeNode found.1)

end Graph

/-- A call does the same to a graph with another poll period, as long as the
two agree on whether they poll. -/
theorem Operation.perform_withPollPeriod {dds : Dds} {env : CallEnv} {graph : Graph}
    {period : Duration}
    (polling : (graph.withPollPeriod period).isPollingEnabled = graph.isPollingEnabled)
    (operation : Operation) :
    operation.perform dds env (graph.withPollPeriod period) =
      (operation.perform dds env graph).withPollPeriod period := by
  cases operation.family with
  | registersNode name space participant =>
      exact congrArg Outcome.ofHandle
        (Graph.withPollPeriod_registerLocalNode polling name space participant)
  | inspectsNode node =>
      exact congrArg Outcome.ofRetcode (Graph.withPollPeriod_inspectLocalNode node)
  | removesNode node =>
      exact congrArg Outcome.ofRetcode (Graph.withPollPeriod_unregisterLocalNode node)
  | registers registers =>
      rw [perform_registration registers, perform_registration registers,
        Graph.withPollPeriod_registerAndQueue]
      rfl
  | @removes _ nodeHandle search removes =>
      have lookup : (graph.withPollPeriod period).lookupLocalNodeByHandle nodeHandle =
          graph.lookupLocalNodeByHandle nodeHandle := rfl
      rw [perform_removal removes, perform_removal removes, lookup]
      cases graph.lookupLocalNodeByHandle nodeHandle with
      | none => rfl
      | some found =>
          dsimp only
          cases search found.2 <;> rfl
  | null _ performed =>
      rw [performed, performed]
      rfl

end Ros2Graph
