import Ros2Graph.Registry.InspectionCoverage
import Ros2Graph.Registry.Kinds

/-! Inspection of a fresh node against registration of the same entities by
hand. -/

set_option autoImplicit false

namespace Ros2Graph

open Foundation Relation

/-! The prefix of a topic name decides its kinds. -/

theorem CString.startsWith_unique {topicName left right : CString}
    (leftStarts : topicName.startsWith left = true)
    (rightStarts : topicName.startsWith right = true)
    (length : left.chars.length = right.chars.length) : left.chars = right.chars := by
  unfold CString.startsWith at leftStarts rightStarts
  exact (List.prefix_of_prefix_length_le (List.isPrefixOf_iff_prefix.mp leftStarts)
    (List.isPrefixOf_iff_prefix.mp rightStarts) length.le).eq_of_length length

theorem default_ne_request {topicName : CString}
    (plain : topicName.startsWith topicPrefixDefault = true)
    (request : topicName.startsWith topicPrefixRequest = true) : False :=
  absurd (CString.startsWith_unique plain request rfl) (by decide)

theorem default_ne_response {topicName : CString}
    (plain : topicName.startsWith topicPrefixDefault = true)
    (response : topicName.startsWith topicPrefixResponse = true) : False :=
  absurd (CString.startsWith_unique plain response rfl) (by decide)

theorem request_ne_response {topicName : CString}
    (request : topicName.startsWith topicPrefixRequest = true)
    (response : topicName.startsWith topicPrefixResponse = true) : False :=
  absurd (CString.startsWith_unique request response rfl) (by decide)

theorem detect_default {topicName : CString} (writer : Bool)
    (starts : topicName.startsWith topicPrefixDefault = true) :
    detectEndpointType topicName writer = if writer then .publisher else .subscription := by
  simp [detectEndpointType, starts]

theorem detect_response {topicName : CString} (writer : Bool)
    (starts : topicName.startsWith topicPrefixResponse = true) :
    detectEndpointType topicName writer = if writer then .service else .client := by
  have notDefault : ¬ topicName.startsWith topicPrefixDefault = true := fun plain =>
    default_ne_response plain starts
  simp [detectEndpointType, starts, notDefault]

theorem detect_request {topicName : CString} (writer : Bool)
    (starts : topicName.startsWith topicPrefixRequest = true) :
    detectEndpointType topicName writer = if writer then .client else .service := by
  have notDefault : ¬ topicName.startsWith topicPrefixDefault = true := fun plain =>
    default_ne_request plain starts
  have notResponse : ¬ topicName.startsWith topicPrefixResponse = true := fun response =>
    request_ne_response starts response
  simp [detectEndpointType, starts, notDefault, notResponse]

structure EndpointShape where
  endpType : EndpointType
  ddsReader : Option DataReader
  ddsWriter : Option DataWriter
  deriving DecidableEq, Repr

def GraphEndpoint.shape (endp : GraphEndpoint) : EndpointShape :=
  ⟨endp.endpType, endp.ddsReader, endp.ddsWriter⟩

/-- The entities of a participant, by the ROS 2 endpoint that they belong to. -/
structure HostedEntities where
  publishers : List DataWriter
  subscriptions : List DataReader
  clients : List (DataReader × DataWriter)
  services : List (DataReader × DataWriter)

namespace HostedEntities

def writers (hosted : HostedEntities) : List DataWriter :=
  hosted.publishers ++ hosted.clients.map (·.2) ++ hosted.services.map (·.2)

def readers (hosted : HostedEntities) : List DataReader :=
  hosted.subscriptions ++ hosted.clients.map (·.1) ++ hosted.services.map (·.1)

def shapes (hosted : HostedEntities) : List EndpointShape :=
  hosted.publishers.map (fun dw => ⟨.publisher, none, some dw⟩) ++
    hosted.subscriptions.map (fun dr => ⟨.subscription, some dr, none⟩) ++
    hosted.clients.map (fun client => ⟨.client, some client.1, some client.2⟩) ++
    hosted.services.map (fun service => ⟨.service, some service.1, some service.2⟩)

def operations (hosted : HostedEntities) (nodeHandle : NodeHandle) : List Operation :=
  hosted.publishers.map (fun dw => .registerLocalPublisher nodeHandle (some dw)) ++
    hosted.subscriptions.map (fun dr => .registerLocalSubscription nodeHandle (some dr)) ++
    hosted.clients.map (fun client =>
      .registerLocalClient nodeHandle (some client.1) (some client.2)) ++
    hosted.services.map (fun service =>
      .registerLocalService nodeHandle (some service.1) (some service.2))

/-- Each entity is on a topic of its kind and belongs to one endpoint, and no
two clients or services have a request topic or a reply topic in common. -/
structure WellFormed (dds : Dds) (hosted : HostedEntities) : Prop where
  publisherTopics : ∀ dw ∈ hosted.publishers,
    (dds.writerTopicName dw).startsWith topicPrefixDefault = true
  subscriptionTopics : ∀ dr ∈ hosted.subscriptions,
    (dds.readerTopicName dr).startsWith topicPrefixDefault = true
  clientTopics : ∀ client ∈ hosted.clients,
    (dds.readerTopicName client.1).startsWith topicPrefixResponse = true ∧
      (dds.writerTopicName client.2).startsWith topicPrefixRequest = true
  serviceTopics : ∀ service ∈ hosted.services,
    (dds.readerTopicName service.1).startsWith topicPrefixRequest = true ∧
      (dds.writerTopicName service.2).startsWith topicPrefixResponse = true
  requestTopics : (hosted.clients.map (fun client => dds.writerTopicName client.2) ++
    hosted.services.map (fun service => dds.readerTopicName service.1)).Nodup
  replyTopics : (hosted.clients.map (fun client => dds.readerTopicName client.1) ++
    hosted.services.map (fun service => dds.writerTopicName service.2)).Nodup
  writersDistinct : hosted.writers.Nodup
  readersDistinct : hosted.readers.Nodup

end HostedEntities

/-- The enumeration calls answer with these entities, in any order. -/
structure Enumeration.Hosts (enumeration : Enumeration) (participant : DomainParticipant)
    (hosted : HostedEntities) : Prop where
  enumerated : .failed ∉ enumeration.visits participant
  writers : ∀ dw, .writer dw ∈ enumeration.visits participant ↔ dw ∈ hosted.writers
  readers : ∀ dr, .reader dr ∈ enumeration.visits participant ↔ dr ∈ hosted.readers

namespace HostedEntities

variable {dds : Dds} {hosted : HostedEntities}

theorem mem_writers {dw : DataWriter} : dw ∈ hosted.writers ↔
    dw ∈ hosted.publishers ∨ (∃ client ∈ hosted.clients, client.2 = dw) ∨
      ∃ service ∈ hosted.services, service.2 = dw := by
  simp [writers]

theorem mem_readers {dr : DataReader} : dr ∈ hosted.readers ↔
    dr ∈ hosted.subscriptions ∨ (∃ client ∈ hosted.clients, client.1 = dr) ∨
      ∃ service ∈ hosted.services, service.1 = dr := by
  simp [readers]

theorem WellFormed.writer_conforming (wellFormed : hosted.WellFormed dds) {dw : DataWriter}
    (member : dw ∈ hosted.writers) : (dds.writerTopicName dw).Conforming := by
  rcases mem_writers.mp member with plain | ⟨client, listed, rfl⟩ | ⟨service, listed, rfl⟩
  · exact .inl (wellFormed.publisherTopics dw plain)
  · exact .inr (.inl (wellFormed.clientTopics client listed).2)
  · exact .inr (.inr (wellFormed.serviceTopics service listed).2)

theorem WellFormed.reader_conforming (wellFormed : hosted.WellFormed dds) {dr : DataReader}
    (member : dr ∈ hosted.readers) : (dds.readerTopicName dr).Conforming := by
  rcases mem_readers.mp member with plain | ⟨client, listed, rfl⟩ | ⟨service, listed, rfl⟩
  · exact .inl (wellFormed.subscriptionTopics dr plain)
  · exact .inr (.inr (wellFormed.clientTopics client listed).1)
  · exact .inr (.inl (wellFormed.serviceTopics service listed).1)

theorem WellFormed.reader_unique (wellFormed : hosted.WellFormed dds) {left right : DataReader}
    (leftMember : left ∈ hosted.readers) (rightMember : right ∈ hosted.readers)
    (service : isServiceTopic (dds.readerTopicName left) = true)
    (same : dds.readerTopicName left = dds.readerTopicName right) : left = right := by
  have clientsApart := (List.nodup_append.mp wellFormed.replyTopics).1
  have servicesApart := (List.nodup_append.mp wellFormed.requestTopics).2.1
  rcases mem_readers.mp leftMember with plain | ⟨client, listed, rfl⟩ | ⟨server, listed, rfl⟩
  · have kind := detect_default false (wellFormed.subscriptionTopics left plain)
    simp [isServiceTopic, kind] at service
  · have response := (wellFormed.clientTopics client listed).1
    rcases mem_readers.mp rightMember with plain | ⟨other, otherListed, rfl⟩ | ⟨other, otherListed, rfl⟩
    · exact (default_ne_response (wellFormed.subscriptionTopics right plain) (same ▸ response)).elim
    · rw [List.inj_on_of_nodup_map clientsApart listed otherListed same]
    · exact (request_ne_response (wellFormed.serviceTopics other otherListed).1
        (same ▸ response)).elim
  · have request := (wellFormed.serviceTopics server listed).1
    rcases mem_readers.mp rightMember with plain | ⟨other, otherListed, rfl⟩ | ⟨other, otherListed, rfl⟩
    · exact (default_ne_request (wellFormed.subscriptionTopics right plain) (same ▸ request)).elim
    · exact (request_ne_response request
        (same ▸ (wellFormed.clientTopics other otherListed).1)).elim
    · rw [List.inj_on_of_nodup_map servicesApart listed otherListed same]

theorem WellFormed.inspectable (wellFormed : hosted.WellFormed dds) {enumeration : Enumeration}
    {participant : DomainParticipant} (hosts : enumeration.Hosts participant hosted) :
    Inspectable dds [] (enumeration.visits participant) where
  readers := by
    intro earlier reader rest split _ unseen service
    refine ⟨rfl, List.any_eq_false.mpr ?_⟩
    intro visit member onTopic
    cases visit with
    | failed => cases onTopic
    | writer dw => cases onTopic
    | reader other =>
        have otherVisited : .reader other ∈ enumeration.visits participant := by
          rw [split]
          simp [member]
        have visited : .reader reader ∈ enumeration.visits participant := by
          rw [split]
          simp
        have same := wellFormed.reader_unique ((hosts.readers reader).mp visited)
          ((hosts.readers other).mp otherVisited) service (beq_iff_eq.mp onTopic).symm
        exact unseen (same ▸ member)
  writers := by
    intro earlier writer rest _ _ _ _ ptr endp found
    cases found

end HostedEntities

def GraphNode.OneSided (node : GraphNode) : Prop :=
  ∀ endp ∈ node.endpoints, endp.ddsReader = none ∨ endp.ddsWriter = none

theorem VisitChange.oneSided {dds : Dds} {node left : GraphNode} {action : Action}
    (change : VisitChange dds node action left) (unattached : action ≠ .attach)
    (oneSided : node.OneSided) : left.OneSided := by
  cases change with
  | kept => exact oneSided
  | linked _ _ oneEntity =>
      intro endp member
      rcases List.mem_append.mp member with earlier | added
      · exact oneSided endp earlier
      · cases List.mem_singleton.mp added
        exact oneEntity.imp (·.1) (·.2)
  | attached => exact absurd rfl unattached

theorem VisitedAll.oneSided {dds : Dds} {env : CallEnv} {scope left : Scope}
    {visits : List Visit} {actions : List Action} {continues : Bool}
    (effects : VisitedAll dds env scope visits actions continues left)
    (unattached : .attach ∉ actions) (oneSided : scope.node.OneSided) : left.node.OneSided := by
  induction effects with
  | nil => exact oneSided
  | stop effect =>
      exact effect.nodeChange.oneSided (fun same => unattached (same ▸ List.mem_cons_self)) oneSided
  | next effect _ ih =>
      exact ih (fun member => unattached (List.mem_cons_of_mem _ member))
        (effect.nodeChange.oneSided (fun same => unattached (same ▸ List.mem_cons_self)) oneSided)

namespace EndpointShape

/-- A search for the entities of `shape` finds an endpoint shaped like `listed`. -/
def Overlaps (shape listed : EndpointShape) : Prop :=
  (shape.ddsReader = none ∨ listed.ddsReader = shape.ddsReader) ∧
    (shape.ddsWriter = none ∨ listed.ddsWriter = shape.ddsWriter)

structure Fits (dds : Dds) (shape : EndpointShape) : Prop where
  readerKind : ∀ reader ∈ shape.ddsReader,
    detectEndpointType (dds.readerTopicName reader) false = shape.endpType
  writerKind : ∀ writer ∈ shape.ddsWriter,
    detectEndpointType (dds.writerTopicName writer) true = shape.endpType

end EndpointShape

theorem GraphNode.admits_of_shapes {dds : Dds} {node : GraphNode} {shape : EndpointShape}
    (fits : shape.Fits dds)
    (apart : ∀ listed ∈ node.endpoints.map GraphEndpoint.shape, ¬ shape.Overlaps listed) :
    node.Admits dds shape.endpType shape.ddsReader shape.ddsWriter where
  unused := by
    unfold lookupLocalEndpointByDdsEndpoints
    rw [locate_eq_none_iff]
    intro endp listed
    have different := apart endp.shape (List.mem_map_of_mem listed)
    rw [Bool.eq_false_iff]
    intro matching
    apply different
    simpa [EndpointShape.Overlaps, GraphEndpoint.shape] using matching
  readerKind := fits.readerKind
  writerKind := fits.writerKind

section

variable {dds : Dds} {env : CallEnv}

/-- Registrations that fit and overlap with nothing add their shapes in turn. -/
theorem registrations_shapes {start : GraphNode} {startPool : FastBufferPool} {ptr : NodePtr}
    {operations : List Operation} {shapes : List EndpointShape} {graph : Graph}
    {node : GraphNode} {registered : Nat}
    (registers : operations.map Operation.registration = shapes.map fun shape =>
      some (node.handle, shape.endpType, shape.ddsReader, shape.ddsWriter))
    (distinct : graph.HandlesDistinct) (present : graph.nodes[ptr]? = some node)
    (used : RoomUsed start startPool registered graph.endpointsPool node)
    (room : ∀ later, later < registered + shapes.length →
      start.hasRoom env startPool later = true)
    (fits : ∀ shape ∈ shapes, shape.Fits dds)
    (apart : (node.endpoints.map GraphEndpoint.shape ++ shapes).Pairwise
      fun listed shape => ¬ shape.Overlaps listed) :
    ∃ left, (graph.after dds (operations.map (.call env))).nodes[ptr]? = some left ∧
      left.endpoints.map GraphEndpoint.shape =
        node.endpoints.map GraphEndpoint.shape ++ shapes := by
  induction operations generalizing shapes graph node registered with
  | nil =>
      have none : shapes = [] := by simpa using registers.symm
      exact ⟨node, present, by simp [none]⟩
  | cons operation rest ih =>
      cases shapes with
      | nil => simp at registers
      | cons shape shapes =>
          obtain ⟨first, onward⟩ := List.cons.inj registers
          have admitted : node.Admits dds shape.endpType shape.ddsReader shape.ddsWriter := by
            apply GraphNode.admits_of_shapes (fits shape List.mem_cons_self)
            intro listed member
            exact (List.pairwise_append.mp apart).2.2 listed member shape List.mem_cons_self
          have roomNow := room registered (by simp)
          cases ran : node.registerEndpoint dds env graph.endpointsPool shape.endpType
              shape.ddsReader shape.ddsWriter with
          | mk pool result =>
              obtain ⟨left, added⟩ := result
              obtain ⟨succeeded, adds⟩ := used.registration admitted ran
              rw [roomNow] at succeeded
              obtain ⟨endp, rfl⟩ := Option.isSome_iff_exists.mp succeeded
              obtain ⟨endpoints, endpEq, _, usedNext⟩ := adds endp rfl
              have handle := GraphNode.registerEndpoint_handle ran
              have shapesNow : left.endpoints.map GraphEndpoint.shape =
                  node.endpoints.map GraphEndpoint.shape ++ [shape] := by
                rw [endpoints, List.map_append, List.map_singleton, endpEq]
                rfl
              have performed : graph.next dds (.call env operation) =
                  graph.storeNode ptr pool left := by
                simp only [Graph.next, Operation.perform_registration first,
                  Graph.registerAndQueue, Graph.registerLocalEndpoint,
                  distinct.lookup_self present, ran]
                rfl
              have stored := Graph.storeNode_getElem? present pool left
              obtain ⟨last, found, shapesLast⟩ := @ih shapes (graph.storeNode ptr pool left) left
                (registered + 1) (by rw [onward, handle])
                (by
                  unfold Graph.HandlesDistinct
                  rw [Graph.storeNode_handles present handle]
                  exact distinct)
                stored usedNext
                (fun later bound => room later (by simp only [List.length_cons]; omega))
                (fun other member => fits other (List.mem_cons_of_mem _ member))
                (by rw [shapesNow, List.append_assoc]; exact apart)
              refine ⟨last, ?_, by rw [shapesLast, shapesNow, List.append_assoc]; rfl⟩
              rw [← found, ← performed]
              rfl

end

namespace HostedEntities

variable {dds : Dds} {hosted : HostedEntities}

theorem operations_registration (hosted : HostedEntities) (nodeHandle : NodeHandle) :
    (hosted.operations nodeHandle).map Operation.registration = hosted.shapes.map fun shape =>
      some (nodeHandle, shape.endpType, shape.ddsReader, shape.ddsWriter) := by
  simp [operations, shapes, Function.comp_def, Operation.registration]

theorem WellFormed.fits (wellFormed : hosted.WellFormed dds) :
    ∀ shape ∈ hosted.shapes, shape.Fits dds := by
  intro shape member
  simp only [shapes, List.mem_append, List.mem_map] at member
  rcases member with ((⟨dw, listed, rfl⟩ | ⟨dr, listed, rfl⟩) | ⟨client, listed, rfl⟩) |
    ⟨service, listed, rfl⟩
  · exact ⟨by simp, by simpa using detect_default true (wellFormed.publisherTopics dw listed)⟩
  · exact ⟨by simpa using detect_default false (wellFormed.subscriptionTopics dr listed), by simp⟩
  · obtain ⟨response, request⟩ := wellFormed.clientTopics client listed
    exact ⟨by simpa using detect_response false response, by simpa using detect_request true request⟩
  · obtain ⟨request, response⟩ := wellFormed.serviceTopics service listed
    exact ⟨by simpa using detect_request false request, by simpa using detect_response true response⟩

theorem shapes_writers (hosted : HostedEntities) :
    hosted.shapes.filterMap (·.ddsWriter) = hosted.writers := by
  simp [shapes, writers]

theorem shapes_readers (hosted : HostedEntities) :
    hosted.shapes.filterMap (·.ddsReader) = hosted.readers := by
  simp [shapes, readers]

theorem shapes_sided {shape : EndpointShape} (member : shape ∈ hosted.shapes) :
    (∃ writer, shape.ddsWriter = some writer) ∨ ∃ reader, shape.ddsReader = some reader := by
  simp only [shapes, List.mem_append, List.mem_map] at member
  rcases member with ((⟨dw, _, rfl⟩ | ⟨dr, _, rfl⟩) | ⟨client, _, rfl⟩) | ⟨service, _, rfl⟩
  · exact .inl ⟨dw, rfl⟩
  · exact .inr ⟨dr, rfl⟩
  · exact .inl ⟨client.2, rfl⟩
  · exact .inl ⟨service.2, rfl⟩

theorem WellFormed.apart (wellFormed : hosted.WellFormed dds) :
    hosted.shapes.Pairwise fun listed shape => ¬ shape.Overlaps listed := by
  have writersApart := wellFormed.writersDistinct
  have readersApart := wellFormed.readersDistinct
  rw [← shapes_writers, List.Nodup, List.pairwise_filterMap] at writersApart
  rw [← shapes_readers, List.Nodup, List.pairwise_filterMap] at readersApart
  refine List.Pairwise.imp_of_mem ?_ (writersApart.and readersApart)
  intro listed shape _ member different overlaps
  rcases shapes_sided member with ⟨writer, present⟩ | ⟨reader, present⟩
  · have same := overlaps.2.resolve_left (by simp [present])
    exact different.1 writer (same.trans present) writer present rfl
  · have same := overlaps.1.resolve_left (by simp [present])
    exact different.2 reader (same.trans present) reader present rfl

theorem WellFormed.length_le (wellFormed : hosted.WellFormed dds) {enumeration : Enumeration}
    {participant : DomainParticipant} (hosts : enumeration.Hosts participant hosted) :
    hosted.shapes.length ≤ (enumeration.visits participant).length := by
  have distinct : (hosted.writers.map Visit.writer ++ hosted.readers.map Visit.reader).Nodup := by
    rw [List.nodup_append]
    refine ⟨wellFormed.writersDistinct.map (fun _ _ same => by simpa using same),
      wellFormed.readersDistinct.map (fun _ _ same => by simpa using same), ?_⟩
    intro visit writer other reader same
    obtain ⟨dw, _, rfl⟩ := List.mem_map.mp writer
    obtain ⟨dr, _, rfl⟩ := List.mem_map.mp reader
    cases same
  have visited : hosted.writers.map Visit.writer ++ hosted.readers.map Visit.reader ⊆
      enumeration.visits participant := by
    intro visit member
    rcases List.mem_append.mp member with writer | reader
    · obtain ⟨dw, listed, rfl⟩ := List.mem_map.mp writer
      exact (hosts.writers dw).mpr listed
    · obtain ⟨dr, listed, rfl⟩ := List.mem_map.mp reader
      exact (hosts.readers dr).mpr listed
  have bound := (distinct.subperm visited).length_le
  simp only [List.length_append, List.length_map, writers, readers, shapes] at bound ⊢
  omega

end HostedEntities

theorem GraphNode.Exclusive.shapes_nodup {node : GraphNode} (exclusive : node.Exclusive)
    (sided : node.Sided) : (node.endpoints.map GraphEndpoint.shape).Nodup := by
  have apart : ∀ endpoints : List GraphEndpoint,
      (∀ endp ∈ endpoints, endp.hasReader = true ∨ endp.hasWriter = true) →
      (∀ reader, endpoints.countP (GraphEndpoint.holdsReader reader) ≤ 1) →
      (∀ writer, endpoints.countP (GraphEndpoint.holdsWriter writer) ≤ 1) →
      (endpoints.map GraphEndpoint.shape).Nodup := by
    intro endpoints
    induction endpoints with
    | nil => simp
    | cons endp rest ih =>
        intro sides readers writers
        rw [List.map_cons, List.nodup_cons]
        refine ⟨?_, ih (fun other member => sides other (List.mem_cons_of_mem _ member))
          (fun reader => (List.sublist_cons_self endp rest).countP_le.trans (readers reader))
          (fun writer => (List.sublist_cons_self endp rest).countP_le.trans (writers writer))⟩
        intro again
        obtain ⟨other, listed, same⟩ := List.mem_map.mp again
        rcases sides endp List.mem_cons_self with hasReader | hasWriter
        · obtain ⟨reader, present⟩ := Option.isSome_iff_exists.mp hasReader
          have otherHolds : other.holdsReader reader = true := by
            have equal : other.ddsReader = endp.ddsReader := congrArg (·.ddsReader) same
            simp [GraphEndpoint.holdsReader, equal, present]
          have twice := readers reader
          rw [List.countP_cons_of_pos (by simp [GraphEndpoint.holdsReader, present])] at twice
          have positive := List.countP_pos_iff.mpr ⟨other, listed, otherHolds⟩
          omega
        · obtain ⟨writer, present⟩ := Option.isSome_iff_exists.mp hasWriter
          have otherHolds : other.holdsWriter writer = true := by
            have equal : other.ddsWriter = endp.ddsWriter := congrArg (·.ddsWriter) same
            simp [GraphEndpoint.holdsWriter, equal, present]
          have twice := writers writer
          rw [List.countP_cons_of_pos (by simp [GraphEndpoint.holdsWriter, present])] at twice
          have positive := List.countP_pos_iff.mpr ⟨other, listed, otherHolds⟩
          omega
  exact apart node.endpoints sided exclusive.reader exclusive.writer

/-- What an inspection makes of a fresh node: one endpoint for each entity. -/
structure GraphNode.Discovered (dds : Dds) (hosted : HostedEntities) (node : GraphNode) :
    Prop where
  oneSided : node.OneSided
  sided : node.Sided
  kinds : node.KindConsistent dds
  exclusive : node.Exclusive
  readers : ∀ reader, node.endpoints.any (GraphEndpoint.holdsReader reader) = true ↔
    reader ∈ hosted.readers
  writers : ∀ writer, node.endpoints.any (GraphEndpoint.holdsWriter writer) = true ↔
    writer ∈ hosted.writers

section

variable {dds : Dds} {env : CallEnv} {graph : Graph} {ptr : NodePtr} {node : GraphNode}
  {hosted : HostedEntities}

theorem inspection_discovers (distinct : graph.HandlesDistinct)
    (present : graph.nodes[ptr]? = some node) (fresh : node.endpoints = [])
    (wellFormed : hosted.WellFormed dds)
    (hosts : env.enumeration.Hosts node.ddsParticipant hosted)
    (room : ∀ registered, registered < (env.enumeration.visits node.ddsParticipant).length →
      node.hasRoom env graph.endpointsPool registered = true) :
    (graph.inspectLocalNodeEA dds env ptr).2 = .ok ∧
      ∃ left, (graph.inspectLocalNodeEA dds env ptr).1.nodes[ptr]? = some left ∧
        left.Discovered dds hosted := by
  obtain ⟨actions, left, effects, planned, ended⟩ :=
    @Graph.inspectLocalNodeEA_planned dds env graph ptr node distinct present
  have completed : (graph.inspectionPlan dds env node).completed = true := by
    unfold Graph.inspectionPlan
    rw [fresh]
    exact (inspectable_iff hosts.enumerated room).mpr (wellFormed.inspectable hosts)
  have unattached : .attach ∉ actions := by
    intro attached
    have planAttaches := followPlan_attached (planned.attaches.mp attached)
    rw [fresh] at planAttaches
    exact plannedActions_nil_attach _ _ _ planAttaches
  have tracks := planned.tracked completed
  have grows := effects.grows
  have changes : ReflTransGen (NodeChange dds False False) node left.node :=
    effects.changes (fun attached => absurd attached unattached)
  rw [ended, completed]
  refine ⟨rfl, left.node, Graph.storeNode_getElem? present left.pool left.node, ?_⟩
  refine ⟨effects.oneSided unattached (by simp [GraphNode.OneSided, fresh]), ?_, ?_, ⟨?_, ?_⟩,
    ?_, ?_⟩
  · exact nodeChanges_keep (fun _ _ held change => change.sided held)
      (by simp [GraphNode.Sided, fresh]) changes
  · exact nodeChanges_keep (fun _ _ held change => change.kindConsistent held)
      (by simp [GraphNode.KindConsistent, fresh]) changes
  · exact fun reader => nodeChanges_readerOnce changes (by simp [fresh])
  · exact fun writer => nodeChanges_writerOnce changes (by simp [fresh])
  · intro reader
    by_cases conforming : (dds.readerTopicName reader).Conforming
    · rw [tracks.readers reader ((CString.conforming_iff false).mp conforming), fresh,
        ← hosts.readers reader]
      simp
    · constructor
      · intro held
        have before := grows.foreignReaders reader conforming held
        rw [fresh] at before
        cases before
      · intro member
        exact absurd (wellFormed.reader_conforming member) conforming
  · intro writer
    by_cases conforming : (dds.writerTopicName writer).Conforming
    · rw [tracks.writers writer ((CString.conforming_iff true).mp conforming), fresh,
        ← hosts.writers writer]
      simp
    · constructor
      · intro held
        have before := grows.foreignWriters writer conforming held
        rw [fresh] at before
        cases before
      · intro member
        exact absurd (wellFormed.writer_conforming member) conforming

theorem GraphNode.Discovered.mem_shapes_iff (discovered : node.Discovered dds hosted)
    (wellFormed : hosted.WellFormed dds) (noClients : hosted.clients = [])
    (noServices : hosted.services = []) (shape : EndpointShape) :
    shape ∈ node.endpoints.map GraphEndpoint.shape ↔ shape ∈ hosted.shapes := by
  have writers : hosted.writers = hosted.publishers := by
    simp [HostedEntities.writers, noClients, noServices]
  have readers : hosted.readers = hosted.subscriptions := by
    simp [HostedEntities.readers, noClients, noServices]
  have shapes : shape ∈ hosted.shapes ↔
      (∃ dw ∈ hosted.publishers, ⟨.publisher, none, some dw⟩ = shape) ∨
        ∃ dr ∈ hosted.subscriptions, ⟨.subscription, some dr, none⟩ = shape := by
    simp [HostedEntities.shapes, noClients, noServices]
  have shapeOfWriter : ∀ endp ∈ node.endpoints, ∀ dw, endp.ddsWriter = some dw →
      dw ∈ hosted.publishers ∧ endp.shape = ⟨.publisher, none, some dw⟩ := by
    intro endp listed dw writer
    have hosts : dw ∈ hosted.publishers := writers ▸ (discovered.writers dw).mp
      (List.any_eq_true.mpr ⟨endp, listed, by simp [GraphEndpoint.holdsWriter, writer]⟩)
    have kind := (discovered.kinds endp listed).writerKind dw writer
    rw [detect_default true (wellFormed.publisherTopics dw hosts)] at kind
    have noReader := (discovered.oneSided endp listed).resolve_right (by simp [writer])
    exact ⟨hosts, by rw [GraphEndpoint.shape, ← kind, noReader, writer]; rfl⟩
  have shapeOfReader : ∀ endp ∈ node.endpoints, ∀ dr, endp.ddsReader = some dr →
      dr ∈ hosted.subscriptions ∧ endp.shape = ⟨.subscription, some dr, none⟩ := by
    intro endp listed dr reader
    have hosts : dr ∈ hosted.subscriptions := readers ▸ (discovered.readers dr).mp
      (List.any_eq_true.mpr ⟨endp, listed, by simp [GraphEndpoint.holdsReader, reader]⟩)
    have kind := (discovered.kinds endp listed).readerKind dr reader
    rw [detect_default false (wellFormed.subscriptionTopics dr hosts)] at kind
    have noWriter := (discovered.oneSided endp listed).resolve_left (by simp [reader])
    exact ⟨hosts, by rw [GraphEndpoint.shape, ← kind, noWriter, reader]; rfl⟩
  rw [shapes]
  constructor
  · intro member
    obtain ⟨endp, listed, rfl⟩ := List.mem_map.mp member
    rcases discovered.sided endp listed with hasReader | hasWriter
    · obtain ⟨dr, reader⟩ := Option.isSome_iff_exists.mp hasReader
      obtain ⟨hosts, same⟩ := shapeOfReader endp listed dr reader
      exact .inr ⟨dr, hosts, same.symm⟩
    · obtain ⟨dw, writer⟩ := Option.isSome_iff_exists.mp hasWriter
      obtain ⟨hosts, same⟩ := shapeOfWriter endp listed dw writer
      exact .inl ⟨dw, hosts, same.symm⟩
  · intro member
    rcases member with ⟨dw, hosts, rfl⟩ | ⟨dr, hosts, rfl⟩
    · obtain ⟨endp, listed, holds⟩ := List.any_eq_true.mp
        ((discovered.writers dw).mpr (writers ▸ hosts))
      exact List.mem_map.mpr
        ⟨endp, listed, (shapeOfWriter endp listed dw (beq_iff_eq.mp holds)).2⟩
    · obtain ⟨endp, listed, holds⟩ := List.any_eq_true.mp
        ((discovered.readers dr).mpr (readers ▸ hosts))
      exact List.mem_map.mpr
        ⟨endp, listed, (shapeOfReader endp listed dr (beq_iff_eq.mp holds)).2⟩

/-- Inspection of a fresh node agrees with registration by hand exactly when the
participant has no client and no service. -/
theorem inspection_agrees_iff (reachable : graph.Reachable dds)
    (present : graph.nodes[ptr]? = some node) (fresh : node.endpoints = [])
    (wellFormed : hosted.WellFormed dds)
    (hosts : env.enumeration.Hosts node.ddsParticipant hosted)
    (room : ∀ registered, registered < (env.enumeration.visits node.ddsParticipant).length →
      node.hasRoom env graph.endpointsPool registered = true) :
    (∃ inspected manual,
      (graph.inspectLocalNodeEA dds env ptr).1.nodes[ptr]? = some inspected ∧
      (graph.after dds ((hosted.operations node.handle).map (.call env))).nodes[ptr]? =
        some manual ∧
      (inspected.endpoints.map GraphEndpoint.shape).Perm
        (manual.endpoints.map GraphEndpoint.shape)) ↔
    hosted.clients = [] ∧ hosted.services = [] := by
  obtain ⟨past, run⟩ := reachable
  obtain ⟨_, left, found, discovered⟩ :=
    inspection_discovers run.distinct present fresh wellFormed hosts room
  obtain ⟨byHand, foundToo, shapesByHand⟩ := @registrations_shapes dds env node
    graph.endpointsPool ptr (hosted.operations node.handle) hosted.shapes graph node 0
    (hosted.operations_registration node.handle) run.distinct present ⟨rfl, rfl⟩
    (fun later bound => room later (by
      have atMost := wellFormed.length_le hosts
      omega))
    wellFormed.fits (by rw [fresh]; exact wellFormed.apart)
  rw [fresh, List.map_nil, List.nil_append] at shapesByHand
  constructor
  · rintro ⟨inspected, manual, inspectedEq, manualEq, same⟩
    cases found.symm.trans inspectedEq
    cases foundToo.symm.trans manualEq
    rw [shapesByHand] at same
    have oneSided : ∀ shape ∈ hosted.shapes, shape.ddsReader = none ∨ shape.ddsWriter = none := by
      intro shape member
      obtain ⟨endp, listed, rfl⟩ := List.mem_map.mp (same.mem_iff.mpr member)
      exact discovered.oneSided endp listed
    constructor
    · apply List.eq_nil_iff_forall_not_mem.mpr
      intro client listed
      have both := oneSided ⟨.client, some client.1, some client.2⟩
        (by simp [HostedEntities.shapes, listed])
      simp at both
    · apply List.eq_nil_iff_forall_not_mem.mpr
      intro service listed
      have both := oneSided ⟨.service, some service.1, some service.2⟩
        (by simp [HostedEntities.shapes, listed])
      simp at both
  · rintro ⟨noClients, noServices⟩
    refine ⟨left, byHand, found, foundToo, ?_⟩
    have shapesNodup : hosted.shapes.Nodup := by
      apply wellFormed.apart.imp
      intro listed shape different same
      exact different ⟨.inr (by rw [same]), .inr (by rw [same])⟩
    rw [shapesByHand, List.perm_ext_iff_of_nodup
      (discovered.exclusive.shapes_nodup discovered.sided) shapesNodup]
    exact discovered.mem_shapes_iff wellFormed noClients noServices

end

def oneClient : HostedEntities := ⟨[], [], [(⟨1⟩, ⟨2⟩)], []⟩

def oneClientEnv : CallEnv := .granting (.answering [⟨2⟩] [⟨1⟩])

theorem oneClient_wellFormed : oneClient.WellFormed clientsDds where
  publisherTopics := by simp [oneClient]
  subscriptionTopics := by simp [oneClient]
  clientTopics := by
    intro client listed
    cases List.mem_singleton.mp listed
    decide
  serviceTopics := by simp [oneClient]
  requestTopics := by simp [oneClient]
  replyTopics := by simp [oneClient]
  writersDistinct := by simp [oneClient, HostedEntities.writers]
  readersDistinct := by simp [oneClient, HostedEntities.readers]

theorem oneClient_hosted : oneClientEnv.enumeration.Hosts oneNode.ddsParticipant oneClient where
  enumerated := by decide
  writers := by
    have visits : oneClientEnv.enumeration.visits oneNode.ddsParticipant =
        [.writer ⟨2⟩, .reader ⟨1⟩] := rfl
    simp [visits, oneClient, HostedEntities.writers]
  readers := by
    have visits : oneClientEnv.enumeration.visits oneNode.ddsParticipant =
        [.writer ⟨2⟩, .reader ⟨1⟩] := rfl
    simp [visits, oneClient, HostedEntities.readers]

theorem inspection_agrees_iff_one_client :
    (∃ inspected manual,
      (oneNodeGraph.inspectLocalNodeEA clientsDds oneClientEnv 0).1.nodes[0]? = some inspected ∧
      (oneNodeGraph.after clientsDds
        ((oneClient.operations 0).map (.call oneClientEnv))).nodes[0]? = some manual ∧
      (inspected.endpoints.map GraphEndpoint.shape).Perm
        (manual.endpoints.map GraphEndpoint.shape)) ↔
    oneClient.clients = [] ∧ oneClient.services = [] :=
  @inspection_agrees_iff clientsDds oneClientEnv oneNodeGraph 0 oneNode oneClient
    oneNodeGraph_reachable (by decide) rfl oneClient_wellFormed oneClient_hosted (by decide)

/-- Inspection makes two endpoints of a client, registration by hand one. -/
theorem inspection_splits_client :
    ¬ ∀ (dds : Dds) (env : CallEnv) (graph : Graph) (ptr : NodePtr) (node : GraphNode)
        (hosted : HostedEntities),
      graph.Reachable dds → graph.nodes[ptr]? = some node → node.endpoints = [] →
      hosted.WellFormed dds → env.enumeration.Hosts node.ddsParticipant hosted →
      (∀ registered, registered < (env.enumeration.visits node.ddsParticipant).length →
        node.hasRoom env graph.endpointsPool registered = true) →
      ∃ inspected manual,
        (graph.inspectLocalNodeEA dds env ptr).1.nodes[ptr]? = some inspected ∧
        (graph.after dds ((hosted.operations node.handle).map (.call env))).nodes[ptr]? =
          some manual ∧
        (inspected.endpoints.map GraphEndpoint.shape).Perm
          (manual.endpoints.map GraphEndpoint.shape) := by
  intro agrees
  obtain ⟨inspected, manual, found, foundToo, same⟩ := agrees clientsDds oneClientEnv
    oneNodeGraph 0 oneNode oneClient oneNodeGraph_reachable (by decide) rfl oneClient_wellFormed
    oneClient_hosted (by decide)
  have two : ((oneNodeGraph.inspectLocalNodeEA clientsDds oneClientEnv 0).1.nodes[0]?).map
      (·.endpoints.length) = some 2 := by decide
  have one : ((oneNodeGraph.after clientsDds ((oneClient.operations 0).map
      (.call oneClientEnv))).nodes[0]?).map (·.endpoints.length) = some 1 := by decide
  have lengths := same.length_eq
  rw [found] at two
  have foundByHand : (oneNodeGraph.after clientsDds ((oneClient.operations 0).map
      (.call oneClientEnv))).nodes[0]? = some manual := foundToo
  rw [foundByHand] at one
  simp only [Option.map_some, Option.some.injEq, List.length_map] at one two lengths
  omega

end Ros2Graph
