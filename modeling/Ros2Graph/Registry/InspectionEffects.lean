import Ros2Graph.Registry.Inspection
import Ros2Graph.Registry.EndpointProperties

/-! An inspection as one loop over everything the enumeration calls answer, and
the complete list of effects of one iteration on the inspected node. The
invariants of the registry and the plan of an inspection follow from it. -/

set_option autoImplicit false

namespace Ros2Graph

open Foundation

/-- One answer of the enumeration calls, in the order of the nested loops. -/
inductive Visit where
  | failed
  | writer (dw : DataWriter)
  | reader (dr : DataReader)
  deriving DecidableEq, Repr

namespace Enumeration

def writerVisits (enumeration : Enumeration) (pub : Publisher) : List Visit :=
  match enumeration.getAllDatawriters pub with
  | none => [.failed]
  | some writers => writers.map .writer

def readerVisits (enumeration : Enumeration) (sub : Subscriber) : List Visit :=
  match enumeration.getAllDatareaders sub with
  | none => [.failed]
  | some readers => readers.map .reader

def writerPass (enumeration : Enumeration) (participant : DomainParticipant) : List Visit :=
  match enumeration.getPublishers participant with
  | none => [.failed]
  | some publishers => publishers.flatMap enumeration.writerVisits

def readerPass (enumeration : Enumeration) (participant : DomainParticipant) : List Visit :=
  match enumeration.getSubscribers participant with
  | none => [.failed]
  | some subscribers => subscribers.flatMap enumeration.readerVisits

def visits (enumeration : Enumeration) (participant : DomainParticipant) : List Visit :=
  enumeration.writerPass participant ++ enumeration.readerPass participant

end Enumeration

namespace InspectState

def inspectVisit (dds : Dds) (env : CallEnv) (ptr : NodePtr) (state : InspectState) :
    Visit → Bool × InspectState
  | .failed => (false, state)
  | .writer dw => state.inspectWriter dds env ptr dw
  | .reader dr => state.inspectReader dds env ptr dr

theorem inspectPublisher_eq (dds : Dds) (env : CallEnv) (ptr : NodePtr) (state : InspectState)
    (pub : Publisher) :
    state.inspectPublisher dds env ptr pub =
      runLoop (inspectVisit dds env ptr) state (env.enumeration.writerVisits pub) := by
  unfold inspectPublisher Enumeration.writerVisits
  cases env.enumeration.getAllDatawriters pub with
  | none => rfl
  | some writers => exact (runLoop_map (inspectVisit dds env ptr) Visit.writer state writers).symm

theorem inspectSubscriber_eq (dds : Dds) (env : CallEnv) (ptr : NodePtr) (state : InspectState)
    (sub : Subscriber) :
    state.inspectSubscriber dds env ptr sub =
      runLoop (inspectVisit dds env ptr) state (env.enumeration.readerVisits sub) := by
  unfold inspectSubscriber Enumeration.readerVisits
  cases env.enumeration.getAllDatareaders sub with
  | none => rfl
  | some readers => exact (runLoop_map (inspectVisit dds env ptr) Visit.reader state readers).symm

end InspectState

/-- The nested loops of an inspection are one loop over its visits. -/
theorem Graph.inspectLocalNodeEA_eq {dds : Dds} {env : CallEnv} {graph : Graph} {ptr : NodePtr}
    {node : GraphNode} (present : graph.nodes[ptr]? = some node) :
    graph.inspectLocalNodeEA dds env ptr =
      let ended := runLoop (InspectState.inspectVisit dds env ptr)
        ⟨graph, EndpointHandle.invalid⟩ (env.enumeration.visits node.ddsParticipant)
      (ended.2.graph, if ended.1 then .ok else .error) := by
  have publishersPass : ∀ publishers state,
      runLoop (InspectState.inspectPublisher dds env ptr) state publishers =
        runLoop (InspectState.inspectVisit dds env ptr) state
          (publishers.flatMap env.enumeration.writerVisits) := fun publishers state =>
    runLoop_nested _ _ _ (InspectState.inspectPublisher_eq dds env ptr) state publishers
  have subscribersPass : ∀ subscribers state,
      runLoop (InspectState.inspectSubscriber dds env ptr) state subscribers =
        runLoop (InspectState.inspectVisit dds env ptr) state
          (subscribers.flatMap env.enumeration.readerVisits) := fun subscribers state =>
    runLoop_nested _ _ _ (InspectState.inspectSubscriber_eq dds env ptr) state subscribers
  unfold inspectLocalNodeEA Enumeration.visits Enumeration.writerPass Enumeration.readerPass
  simp only [present, runLoop_append]
  cases env.enumeration.getPublishers node.ddsParticipant with
  | none => rfl
  | some publishers =>
      simp only [publishersPass]
      cases writersEnded : runLoop (InspectState.inspectVisit dds env ptr)
          ⟨graph, EndpointHandle.invalid⟩ (publishers.flatMap env.enumeration.writerVisits) with
      | mk continues state =>
          cases continues with
          | false => rfl
          | true =>
              cases env.enumeration.getSubscribers node.ddsParticipant with
              | none => rfl
              | some subscribers =>
                  simp only [subscribersPass]
                  split
                  · next left ended => simp [ended]
                  · next left ended => simp [ended]

/-- The part of the state that one node's inspection can change. -/
structure Scope where
  pool : FastBufferPool
  node : GraphNode
  endpHandle : EndpointHandle

inductive Action where
  | pass
  | register
  | attach
  | refuse
  deriving DecidableEq, Repr

/-- Everything one visit can do: its action, whether the loop goes on, and the
scope it leaves. -/
inductive VisitEffect (dds : Dds) (env : CallEnv) :
    Scope → Visit → Action → Bool → Scope → Prop where
  | failed {scope} : VisitEffect dds env scope .failed .refuse false scope
  | heldWriter {scope dw found} :
      locate (GraphEndpoint.holdsWriter dw) scope.node.endpoints = some found →
      VisitEffect dds env scope (.writer dw) .pass true scope
  | heldReader {scope dr found} :
      locate (GraphEndpoint.holdsReader dr) scope.node.endpoints = some found →
      VisitEffect dds env scope (.reader dr) .pass true scope
  | foreignWriter {scope dw} :
      detectEndpointType (dds.writerTopicName dw) true = .unknown →
      VisitEffect dds env scope (.writer dw) .pass true scope
  | foreignReader {scope dr} :
      detectEndpointType (dds.readerTopicName dr) false = .unknown →
      VisitEffect dds env scope (.reader dr) .pass true scope
  | registerWriter {scope dw endpType pool node added} :
      locate (GraphEndpoint.holdsWriter dw) scope.node.endpoints = none →
      detectEndpointType (dds.writerTopicName dw) true = endpType → endpType ≠ .unknown →
      (isServiceTopic (dds.writerTopicName dw) = true →
        locate (GraphEndpoint.readsTopic dds (dds.writerTopicName dw))
          scope.node.endpoints = none) →
      scope.node.registerEndpoint dds env scope.pool endpType none (some dw) =
        (pool, node, added) →
      VisitEffect dds env scope (.writer dw) .register added.isSome
        ⟨pool, node, (added.map (·.handle)).getD scope.endpHandle⟩
  | registerReader {scope dr endpType pool node added} :
      locate (GraphEndpoint.holdsReader dr) scope.node.endpoints = none →
      detectEndpointType (dds.readerTopicName dr) false = endpType → endpType ≠ .unknown →
      (isServiceTopic (dds.readerTopicName dr) = true →
        locate (GraphEndpoint.readsTopic dds (dds.readerTopicName dr))
          scope.node.endpoints = none) →
      scope.node.registerEndpoint dds env scope.pool endpType (some dr) none =
        (pool, node, added) →
      VisitEffect dds env scope (.reader dr) .register added.isSome
        ⟨pool, node, (added.map (·.handle)).getD scope.endpHandle⟩
  | occupied {scope dw ptr endp} :
      locate (GraphEndpoint.holdsWriter dw) scope.node.endpoints = none →
      isServiceTopic (dds.writerTopicName dw) = true →
      locate (GraphEndpoint.readsTopic dds (dds.writerTopicName dw))
        scope.node.endpoints = some (ptr, endp) →
      endp.ddsWriter.isSome = true →
      VisitEffect dds env scope (.writer dw) .refuse false scope
  | attached {scope dw ptr endp} :
      locate (GraphEndpoint.holdsWriter dw) scope.node.endpoints = none →
      isServiceTopic (dds.writerTopicName dw) = true →
      locate (GraphEndpoint.readsTopic dds (dds.writerTopicName dw))
        scope.node.endpoints = some (ptr, endp) →
      endp.ddsWriter = none →
      VisitEffect dds env scope (.writer dw) .attach (scope.endpHandle != EndpointHandle.invalid)
        { scope with node := { scope.node with
            endpoints := scope.node.endpoints.set ptr { endp with ddsWriter := some dw } } }
  | duplicateReader {scope dr found} :
      locate (GraphEndpoint.holdsReader dr) scope.node.endpoints = none →
      isServiceTopic (dds.readerTopicName dr) = true →
      locate (GraphEndpoint.readsTopic dds (dds.readerTopicName dr))
        scope.node.endpoints = some found →
      VisitEffect dds env scope (.reader dr) .refuse false scope

inductive VisitedAll (dds : Dds) (env : CallEnv) :
    Scope → List Visit → List Action → Bool → Scope → Prop where
  | nil {scope} : VisitedAll dds env scope [] [] true scope
  | stop {scope visit rest action left} :
      VisitEffect dds env scope visit action false left →
      VisitedAll dds env scope (visit :: rest) [action] false left
  | next {scope visit rest action middle actions continues left} :
      VisitEffect dds env scope visit action true middle →
      VisitedAll dds env middle rest actions continues left →
      VisitedAll dds env scope (visit :: rest) (action :: actions) continues left

/-- The visit comes to the registration of an endpoint. -/
def GraphNode.registersVisit (dds : Dds) (node : GraphNode) : Visit → Bool
  | .failed => false
  | .writer dw =>
      let topicName := dds.writerTopicName dw
      (node.lookupLocalEndpointByDdsEndpoints none (some dw)).isNone &&
        match detectEndpointType topicName true with
        | .publisher => true
        | .client | .service =>
            (node.lookupLocalEndpointByTopicName dds topicName false).isNone
        | _ => false
  | .reader dr =>
      let topicName := dds.readerTopicName dr
      (node.lookupLocalEndpointByDdsEndpoints (some dr) none).isNone &&
        match detectEndpointType topicName false with
        | .subscription => true
        | .client | .service =>
            (node.lookupLocalEndpointByTopicName dds topicName false).isNone
        | _ => false

def InspectState.registersAt (dds : Dds) (ptr : NodePtr) (state : InspectState)
    (visit : Visit) : Bool :=
  match state.graph.nodes[ptr]? with
  | none => false
  | some node => node.registersVisit dds visit

namespace Graph

def HandlesDistinct (graph : Graph) : Prop := (graph.nodes.map (·.handle)).Nodup

theorem HandlesDistinct.lookup_self {graph : Graph} (distinct : graph.HandlesDistinct)
    {ptr : NodePtr} {node : GraphNode} (present : graph.nodes[ptr]? = some node) :
    graph.lookupLocalNodeByHandle node.handle = some (ptr, node) := by
  obtain ⟨front, rest, split, length⟩ := split_at_position present
  refine locate_eq_some_iff.mpr ⟨front, rest, split, length, by simp, ?_⟩
  intro earlier member
  unfold HandlesDistinct at distinct
  rw [split, List.map_append, List.map_cons, List.nodup_append] at distinct
  have apart := distinct.2.2 earlier.handle (List.mem_map_of_mem member) node.handle (by simp)
  simpa using apart

@[simp] theorem storeNode_self {graph : Graph} {ptr : NodePtr} {node : GraphNode}
    (present : graph.nodes[ptr]? = some node) :
    graph.storeNode ptr graph.endpointsPool node = graph := by
  obtain ⟨front, rest, split, rfl⟩ := split_at_position present
  cases graph
  simp only at split
  subst split
  simp [storeNode]

@[simp] theorem storeNode_storeNode (graph : Graph) (ptr : NodePtr)
    (pool later : FastBufferPool) (node last : GraphNode) :
    (graph.storeNode ptr pool node).storeNode ptr later last =
      graph.storeNode ptr later last := by
  simp [storeNode]

theorem storeNode_getElem? {graph : Graph} {ptr : NodePtr} {old : GraphNode}
    (present : graph.nodes[ptr]? = some old) (pool : FastBufferPool) (node : GraphNode) :
    (graph.storeNode ptr pool node).nodes[ptr]? = some node := by
  obtain ⟨inside, _⟩ := List.getElem?_eq_some_iff.mp present
  simp [storeNode, inside]

theorem storeNode_handles {graph : Graph} {ptr : NodePtr} {node old : GraphNode}
    (present : graph.nodes[ptr]? = some old) (same : node.handle = old.handle)
    (pool : FastBufferPool) :
    (graph.storeNode ptr pool node).nodes.map (·.handle) = graph.nodes.map (·.handle) := by
  obtain ⟨front, rest, split, rfl⟩ := split_at_position present
  simp [storeNode, split, same]

end Graph

def GraphEndpoint.OneEntity (endp : GraphEndpoint) : Prop :=
  (endp.ddsReader = none ∧ endp.ddsWriter.isSome = true) ∨
    (endp.ddsReader.isSome = true ∧ endp.ddsWriter = none)

/-- What a visit comes to for the inspected node. -/
inductive VisitChange (dds : Dds) (node : GraphNode) : Action → GraphNode → Prop where
  | kept {action counter} : action ≠ .attach →
      VisitChange dds node action { node with endpHandleNext := counter }
  | linked {endp counter} : node.Admits dds endp.endpType endp.ddsReader endp.ddsWriter →
      endp.endpType ≠ .unknown → endp.OneEntity → 0 ≤ endp.handle →
      (∀ listed ∈ node.endpoints, listed.handle ≠ endp.handle) →
      VisitChange dds node .register ({ node with endpHandleNext := counter }.linkEndpoint endp)
  | attached {dw ptr endp} :
      locate (GraphEndpoint.holdsWriter dw) node.endpoints = none →
      isServiceTopic (dds.writerTopicName dw) = true →
      locate (GraphEndpoint.readsTopic dds (dds.writerTopicName dw)) node.endpoints =
        some (ptr, endp) →
      endp.ddsWriter = none →
      VisitChange dds node .attach
        { node with endpoints := node.endpoints.set ptr { endp with ddsWriter := some dw } }

section

variable {dds : Dds} {env : CallEnv}

private theorem VisitChange.ofRegistration {node left : GraphNode} {pool after : FastBufferPool}
    {endpType : EndpointType} {ddsReader : Option DataReader} {ddsWriter : Option DataWriter}
    {added : Option GraphEndpoint} (known : endpType ≠ .unknown)
    (oneSided : (ddsReader = none ∧ ddsWriter.isSome = true) ∨
      (ddsReader.isSome = true ∧ ddsWriter = none))
    (ran : node.registerEndpoint dds env pool endpType ddsReader ddsWriter =
      (after, left, added)) : VisitChange dds node .register left := by
  rcases GraphNode.registerEndpoint_cases with
    ⟨counter, failed⟩ | ⟨handle, counter, admitted, nonnegative, fresh, _, done⟩
  · cases ran.symm.trans failed
    exact .kept (by decide)
  · cases ran.symm.trans done
    exact .linked admitted known oneSided nonnegative fresh

theorem VisitEffect.nodeChange {scope left : Scope} {visit : Visit} {action : Action}
    {continues : Bool} (effect : VisitEffect dds env scope visit action continues left) :
    VisitChange dds scope.node action left.node := by
  cases effect with
  | registerWriter _ _ known _ ran => exact .ofRegistration known (.inl ⟨rfl, rfl⟩) ran
  | registerReader _ _ known _ ran => exact .ofRegistration known (.inr ⟨rfl, rfl⟩) ran
  | attached unheld service first vacant => exact .attached unheld service first vacant
  | _ => exact .kept (by decide)

theorem VisitEffect.registers {scope left : Scope} {visit : Visit} {action : Action}
    {continues : Bool} (effect : VisitEffect dds env scope visit action continues left) :
    scope.node.registersVisit dds visit = (action == .register) := by
  cases effect with
  | failed => rfl
  | heldWriter held => simp [GraphNode.registersVisit, GraphNode.lookup_writer_eq, held]
  | heldReader held => simp [GraphNode.registersVisit, GraphNode.lookup_reader_eq, held]
  | foreignWriter foreign => simp [GraphNode.registersVisit, foreign]
  | foreignReader foreign => simp [GraphNode.registersVisit, foreign]
  | @registerWriter dw endpType _ _ _ unheld kind known alone _ =>
      simp only [GraphNode.registersVisit, GraphNode.lookup_writer_eq, GraphNode.lookup_topic_eq,
        unheld, kind]
      rw [isServiceTopic_writer, kind] at alone
      cases endpType with
      | unknown => exact absurd rfl known
      | subscription => exact absurd kind (detect_writer_ne_subscription _)
      | publisher => rfl
      | client => simp [alone (.inl rfl)]
      | service => simp [alone (.inr rfl)]
  | @registerReader dr endpType _ _ _ unheld kind known alone _ =>
      simp only [GraphNode.registersVisit, GraphNode.lookup_reader_eq, GraphNode.lookup_topic_eq,
        unheld, kind]
      simp only [isServiceTopic, kind] at alone
      cases endpType with
      | unknown => exact absurd rfl known
      | publisher => exact absurd kind (detect_reader_ne_publisher _)
      | subscription => rfl
      | client => simp [alone rfl]
      | service => simp [alone rfl]
  | @occupied dw _ _ unheld service first _ | @attached dw _ _ unheld service first _ =>
      simp only [GraphNode.registersVisit, GraphNode.lookup_topic_eq, first]
      rcases (isServiceTopic_writer _).mp service with kind | kind
      · simp [kind]
      · simp [kind]
  | @duplicateReader dr found unheld service first =>
      simp only [GraphNode.registersVisit, GraphNode.lookup_topic_eq, first]
      have kinds : detectEndpointType (dds.readerTopicName dr) false = .client ∨
          detectEndpointType (dds.readerTopicName dr) false = .service := by
        simpa [isServiceTopic] using service
      rcases kinds with kind | kind
      · simp [kind]
      · simp [kind]

theorem VisitChange.identity {node left : GraphNode} {action : Action}
    (change : VisitChange dds node action left) :
    left.handle = node.handle ∧ left.ddsParticipant = node.ddsParticipant := by
  cases change with
  | kept | linked | attached => exact ⟨rfl, rfl⟩

end

theorem handle_ne_invalid {handle : EndpointHandle} (nonnegative : 0 ≤ handle) :
    (handle != EndpointHandle.invalid) = true := by
  have below : EndpointHandle.invalid < 0 := by decide
  have different : handle ≠ EndpointHandle.invalid := by
    intro same
    exact Int32.not_lt.mpr nonnegative (same ▸ below)
  simpa using different

namespace InspectState

section

variable {dds : Dds} {env : CallEnv} {state : InspectState} {ptr : NodePtr} {node : GraphNode}

/-- Registration by handle reaches the inspected node itself, and a handle it
returned always passes the check after the `switch`. -/
theorem registerInspected_eq (distinct : state.graph.HandlesDistinct)
    (present : state.graph.nodes[ptr]? = some node) (endpType : EndpointType)
    (ddsReader : Option DataReader) (ddsWriter : Option DataWriter) :
    state.registerInspected dds env node.handle endpType ddsReader ddsWriter =
      let ran := node.registerEndpoint dds env state.graph.endpointsPool endpType
        ddsReader ddsWriter
      (ran.2.2.isSome, ⟨state.graph.storeNode ptr ran.1 ran.2.1,
        (ran.2.2.map (·.handle)).getD state.endpHandle⟩) := by
  unfold registerInspected Graph.registerLocalEndpoint
  simp only [distinct.lookup_self present]
  rcases @GraphNode.registerEndpoint_cases dds env state.graph.endpointsPool node endpType
      ddsReader ddsWriter with ⟨counter, failed⟩ | ⟨handle, counter, _, nonnegative, _, _, done⟩
  · simp [failed]
  · simp [done, checkEndpHandle, handle_ne_invalid nonnegative]

theorem inspectVisit_effect (distinct : state.graph.HandlesDistinct)
    (present : state.graph.nodes[ptr]? = some node) (visit : Visit) :
    ∃ action continues left,
      VisitEffect dds env ⟨state.graph.endpointsPool, node, state.endpHandle⟩ visit action
        continues left ∧
      state.inspectVisit dds env ptr visit =
        (continues, ⟨state.graph.storeNode ptr left.pool left.node, left.endpHandle⟩) := by
  have unchanged : (⟨state.graph.storeNode ptr state.graph.endpointsPool node,
      state.endpHandle⟩ : InspectState) = state := by rw [Graph.storeNode_self present]
  cases visit with
  | failed => exact ⟨_, _, _, .failed, by rw [unchanged]; rfl⟩
  | writer dw =>
      simp only [inspectVisit, inspectWriter, present, GraphNode.lookup_writer_eq]
      cases held : locate (GraphEndpoint.holdsWriter dw) node.endpoints with
      | some found => exact ⟨_, _, _, .heldWriter held, by rw [unchanged]⟩
      | none =>
          have service : ∀ endpType, (endpType = .client ∨ endpType = .service) →
              detectEndpointType (dds.writerTopicName dw) true = endpType →
              ∃ action continues left, VisitEffect dds env
                ⟨state.graph.endpointsPool, node, state.endpHandle⟩ (.writer dw) action
                continues left ∧
              state.inspectServiceWriter dds env ptr node endpType dw =
                (continues, ⟨state.graph.storeNode ptr left.pool left.node, left.endpHandle⟩) := by
            intro endpType sided detected
            have onService : isServiceTopic (dds.writerTopicName dw) = true := by
              rw [isServiceTopic_writer, detected]
              exact sided
            have known : endpType ≠ .unknown := by
              rcases sided with rfl | rfl <;> decide
            simp only [inspectServiceWriter, GraphNode.lookup_topic_eq]
            cases found : locate (GraphEndpoint.readsTopic dds (dds.writerTopicName dw))
                node.endpoints with
            | none =>
                exact ⟨_, _, _, .registerWriter held detected known (fun _ => found) rfl,
                  registerInspected_eq distinct present _ _ _⟩
            | some chosen =>
                cases chosen with
                | mk endpPtr endp =>
                    dsimp only
                    cases side : endp.ddsWriter with
                    | some other =>
                        exact ⟨_, _, _, .occupied held onService found (by simp [side]),
                          by rw [unchanged]⟩
                    | none => exact ⟨_, _, _, .attached held onService found side, rfl⟩
          cases detected : detectEndpointType (dds.writerTopicName dw) true with
          | unknown => exact ⟨_, _, _, .foreignWriter detected, by rw [unchanged]⟩
          | subscription => exact absurd detected (detect_writer_ne_subscription _)
          | publisher =>
              refine ⟨_, _, _, .registerWriter held detected (by decide) ?_ rfl,
                registerInspected_eq distinct present _ _ _⟩
              intro onService
              rw [isServiceTopic_writer, detected] at onService
              simp at onService
          | client => exact service .client (.inl rfl) detected
          | service => exact service .service (.inr rfl) detected
  | reader dr =>
      simp only [inspectVisit, inspectReader, present, GraphNode.lookup_reader_eq]
      cases held : locate (GraphEndpoint.holdsReader dr) node.endpoints with
      | some found => exact ⟨_, _, _, .heldReader held, by rw [unchanged]⟩
      | none =>
          have service : ∀ endpType, (endpType = .client ∨ endpType = .service) →
              detectEndpointType (dds.readerTopicName dr) false = endpType →
              ∃ action continues left, VisitEffect dds env
                ⟨state.graph.endpointsPool, node, state.endpHandle⟩ (.reader dr) action
                continues left ∧
              state.inspectServiceReader dds env ptr node endpType dr =
                (continues, ⟨state.graph.storeNode ptr left.pool left.node, left.endpHandle⟩) := by
            intro endpType sided detected
            have onService : isServiceTopic (dds.readerTopicName dr) = true := by
              simpa [isServiceTopic, detected] using sided
            have known : endpType ≠ .unknown := by
              rcases sided with rfl | rfl <;> decide
            simp only [inspectServiceReader, GraphNode.lookup_topic_eq]
            cases found : locate (GraphEndpoint.readsTopic dds (dds.readerTopicName dr))
                node.endpoints with
            | none =>
                exact ⟨_, _, _, .registerReader held detected known (fun _ => found) rfl,
                  registerInspected_eq distinct present _ _ _⟩
            | some chosen =>
                cases chosen with
                | mk endpPtr endp =>
                    -- the search only finds endpoints that have a reader
                    have onTopic := (locate_mem found).2
                    dsimp only
                    cases side : endp.ddsReader with
                    | none => simp [GraphEndpoint.readsTopic, side] at onTopic
                    | some other =>
                        exact ⟨_, _, _, .duplicateReader held onService found, by rw [unchanged]⟩
          cases detected : detectEndpointType (dds.readerTopicName dr) false with
          | unknown => exact ⟨_, _, _, .foreignReader detected, by rw [unchanged]⟩
          | publisher => exact absurd detected (detect_reader_ne_publisher _)
          | subscription =>
              refine ⟨_, _, _, .registerReader held detected (by decide) ?_ rfl,
                registerInspected_eq distinct present _ _ _⟩
              intro onService
              simp [isServiceTopic, detected] at onService
          | client => exact service .client (.inl rfl) detected
          | service => exact service .service (.inr rfl) detected

/-- The visits of a loop have their effects in turn, and those that come to a
registration are the ones the loop counts. -/
theorem runLoop_counted (distinct : state.graph.HandlesDistinct)
    (present : state.graph.nodes[ptr]? = some node) (visits : List Visit) :
    ∃ actions continues left,
      VisitedAll dds env ⟨state.graph.endpointsPool, node, state.endpHandle⟩ visits actions
        continues left ∧
      runLoop (inspectVisit dds env ptr) state visits =
        (continues, ⟨state.graph.storeNode ptr left.pool left.node, left.endpHandle⟩) ∧
      loopCount (inspectVisit dds env ptr) (registersAt dds ptr) state visits =
        actions.count .register := by
  induction visits generalizing state node with
  | nil =>
      refine ⟨[], true, _, .nil, ?_, rfl⟩
      rw [Graph.storeNode_self present]
      rfl
  | cons visit rest ih =>
      obtain ⟨action, continues, middle, effect, ran⟩ :=
        @inspectVisit_effect dds env state ptr node distinct present visit
      have kind : registersAt dds ptr state visit = (action == .register) := by
        simp only [registersAt, present]
        exact effect.registers
      cases continues with
      | false =>
          refine ⟨[action], false, middle, .stop effect, by simp only [runLoop, ran], ?_⟩
          simp only [loopCount, ran, kind, List.count_singleton]
          rfl
      | true =>
          have stored := Graph.storeNode_getElem? present middle.pool middle.node
          have kept : (state.graph.storeNode ptr middle.pool middle.node).HandlesDistinct := by
            unfold Graph.HandlesDistinct
            rw [Graph.storeNode_handles present effect.nodeChange.identity.1]
            exact distinct
          obtain ⟨actions, continues, left, effects, ended, counted⟩ := @ih
            ⟨state.graph.storeNode ptr middle.pool middle.node, middle.endpHandle⟩ _ kept stored
          refine ⟨action :: actions, continues, left, .next effect effects, ?_, ?_⟩
          · simp only [runLoop, ran, ended, Graph.storeNode_storeNode]
          · simp only [loopCount, ran, kind, counted, List.count_cons]
            exact Nat.add_comm _ _

theorem runLoop_visitedAll (distinct : state.graph.HandlesDistinct)
    (present : state.graph.nodes[ptr]? = some node) (visits : List Visit) :
    ∃ actions continues left,
      VisitedAll dds env ⟨state.graph.endpointsPool, node, state.endpHandle⟩ visits actions
        continues left ∧
      runLoop (inspectVisit dds env ptr) state visits =
        (continues, ⟨state.graph.storeNode ptr left.pool left.node, left.endpHandle⟩) := by
  obtain ⟨actions, continues, left, effects, ended, _⟩ :=
    @runLoop_counted dds env state ptr node distinct present visits
  exact ⟨actions, continues, left, effects, ended⟩

end

end InspectState

/-- An inspection changes its node and the endpoints pool only, by the effects
of its visits, and succeeds when none of them left the loop. -/
theorem Graph.inspectLocalNodeEA_visited {dds : Dds} {env : CallEnv} {graph : Graph}
    {ptr : NodePtr} {node : GraphNode} (distinct : graph.HandlesDistinct)
    (present : graph.nodes[ptr]? = some node) :
    ∃ actions continues left,
      VisitedAll dds env ⟨graph.endpointsPool, node, EndpointHandle.invalid⟩
        (env.enumeration.visits node.ddsParticipant) actions continues left ∧
      graph.inspectLocalNodeEA dds env ptr =
        (graph.storeNode ptr left.pool left.node,
          if continues then ReturnCode.ok else ReturnCode.error) := by
  obtain ⟨actions, continues, left, effects, ended⟩ :=
    @InspectState.runLoop_visitedAll dds env ⟨graph, EndpointHandle.invalid⟩ ptr node
      distinct present (env.enumeration.visits node.ddsParticipant)
  refine ⟨actions, continues, left, effects, ?_⟩
  rw [inspectLocalNodeEA_eq present]
  simp only [ended]

end Ros2Graph
