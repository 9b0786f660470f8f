import Ros2Graph.Registry.EndpointProperties
import Ros2Graph.TopicNames.TwoPhase

/-! The topics that the name functions compute, and the endpoints that registration
accepts on them: the prefix that one file writes is the one that another reads. -/

set_option autoImplicit false

namespace Ros2Graph

open Foundation

/-- What a topic carries. -/
inductive TopicRole where
  | topic
  | request
  | response
  deriving DecidableEq, Repr

namespace TopicRole

def parts : TopicRole → NameParts
  | .topic => .topic
  | .request => .request
  | .response => .response

/-- The endpoints that read and write such topics. -/
def endpointType (role : TopicRole) (writer : Bool) : EndpointType :=
  match role, writer with
  | .topic, true => .publisher
  | .topic, false => .subscription
  | .request, true => .client
  | .request, false => .service
  | .response, true => .service
  | .response, false => .client

/-- The DDS topic of a ROS 2 name. -/
def ddsTopicName (role : TopicRole) (ros2TopicName : CString) : CString where
  chars := role.parts.topicPrefix.chars ++ ros2TopicName.chars
  noNul := by
    simp only [List.mem_append, not_or]
    exact ⟨role.parts.topicPrefix.noNul, ros2TopicName.noNul⟩

theorem ddsTopicName_bytes (role : TopicRole) (ros2TopicName : CString) :
    (role.ddsTopicName ros2TopicName).bytes =
      role.parts.topicPrefix.chars ++ ros2TopicName.bytes :=
  List.append_assoc _ _ _

theorem detect_ddsTopicName (role : TopicRole) (ros2TopicName : CString) (writer : Bool) :
    detectEndpointType (role.ddsTopicName ros2TopicName) writer = role.endpointType writer := by
  cases role with
  | topic => cases writer <;> rfl
  | request => cases writer <;> rfl
  | response => cases writer <;> rfl

theorem ddsTopicName_injective {role other : TopicRole} {ros2TopicName otherName : CString}
    (same : role.ddsTopicName ros2TopicName = other.ddsTopicName otherName) :
    role = other ∧ ros2TopicName = otherName := by
  have kinds : role.endpointType true = other.endpointType true := by
    rw [← detect_ddsTopicName role ros2TopicName, same, detect_ddsTopicName]
  have roles : role = other := by
    cases role <;> cases other <;> first | rfl | cases kinds
  subst roles
  have chars := List.append_cancel_left (congrArg CString.chars same)
  exact ⟨rfl, CString.eq_of_chars chars⟩

end TopicRole

/-- The check of the topic names that `RTIROS2_Graph_register_local_endpoint` makes. -/
structure FollowsNaming (dds : Dds) (endpType : EndpointType) (ddsReader : Option DataReader)
    (ddsWriter : Option DataWriter) : Prop where
  reader : ∀ reader ∈ ddsReader, detectEndpointType (dds.readerTopicName reader) false = endpType
  writer : ∀ writer ∈ ddsWriter, detectEndpointType (dds.writerTopicName writer) true = endpType

/-- Registration checks the names once the entities are known to be unused. -/
theorem GraphNode.admits_iff {dds : Dds} {node : GraphNode} {endpType : EndpointType}
    {ddsReader : Option DataReader} {ddsWriter : Option DataWriter} :
    node.Admits dds endpType ddsReader ddsWriter ↔
      node.lookupLocalEndpointByDdsEndpoints ddsReader ddsWriter = none ∧
        FollowsNaming dds endpType ddsReader ddsWriter :=
  ⟨fun admits => ⟨admits.unused, admits.readerKind, admits.writerKind⟩,
    fun ⟨unused, follows⟩ => ⟨unused, follows.reader, follows.writer⟩⟩

/-! ## What the calls leave -/

/-- The call succeeds and leaves the name of the topic in its buffer. -/
def LeavesTopicName (returned : Option (ReturnCode × NameOut × NameOut)) (topicName : CString) :
    Prop :=
  ∃ written len typeOut, returned = some (.ok, ⟨some written, len⟩, typeOut) ∧
    topicName.bytes <+: written

/-- The call succeeds and leaves the names of the two topics of a service. -/
def LeavesServiceTopics (returned : Option (ReturnCode × ServiceNames))
    (requestTopic replyTopic : CString) : Prop :=
  ∃ names request reply, returned = some (.ok, names) ∧
    names.reqTopicName.buffer = some request ∧ requestTopic.bytes <+: request ∧
    names.repTopicName.buffer = some reply ∧ replyTopic.bytes <+: reply

/-- There is a buffer of the size that goes with it, and it takes so many bytes. -/
def NameOut.Takes (out : NameOut) (size : Nat) : Prop :=
  ∃ buffer, out.buffer = some buffer ∧ out.len ≤ buffer.length ∧ size ≤ out.len

/-- A type name that is accepted, and room for both names of an endpoint. -/
structure TopicRole.Suffices (role : TopicRole) (ros2TopicName typeName : CString)
    (topicOut typeOut : NameOut) : Prop where
  valid : typeStemLen typeName ≠ none
  topic : topicOut.Takes (topicNameLen ros2TopicName role.parts.topicPrefix + 1)
  type : typeOut.Takes (typeNameLen typeName role.parts.typeSuffix + 1)

section

variable {ros2TopicName typeName : CString} {topicOut typeOut : NameOut} {topicName : CString}

theorem makeDdsTopicAndTypeNames_leaves {role : TopicRole}
    (left : LeavesTopicName (makeDdsTopicAndTypeNames ros2TopicName typeName topicOut typeOut
      role.parts.topicPrefix role.parts.typeSuffix) topicName) :
    topicName = role.ddsTopicName ros2TopicName := by
  obtain ⟨written, len, typeDone, returned, begins⟩ := left
  obtain ⟨buffer, -, filled⟩ := writeTopicName_ok (makeDdsTopicAndTypeNames_ok returned).1
  refine CString.bytes_prefix_unique begins ?_
  rw [TopicRole.ddsTopicName_bytes]
  exact filled.prefix_current

/-- A type name that is accepted has two colons. -/
theorem TopicRole.Suffices.typeNamed {role : TopicRole}
    (room : role.Suffices ros2TopicName typeName topicOut typeOut) : typeName.strlen ≠ 0 := by
  obtain ⟨stemLen, accepted⟩ := Option.ne_none_iff_exists'.mp room.valid
  have colons := typeStemLen_bound accepted
  omega

theorem makeDdsTopicAndTypeNames_left {role : TopicRole}
    (room : role.Suffices ros2TopicName typeName topicOut typeOut) :
    LeavesTopicName (makeDdsTopicAndTypeNames ros2TopicName typeName topicOut typeOut
      role.parts.topicPrefix role.parts.typeSuffix) (role.ddsTopicName ros2TopicName) := by
  obtain ⟨valid, ⟨topicBuffer, topicHeld, topicRoom, topicEnough⟩,
    ⟨typeBuffer, typeHeld, typeRoom, typeEnough⟩⟩ := room
  obtain ⟨stemLen, accepted⟩ := Option.ne_none_iff_exists'.mp valid
  obtain ⟨topicWritten, topicDone, topicFilled⟩ :=
    writeTopicName_terminated ros2TopicName role.parts.topicPrefix topicHeld topicRoom topicEnough
  obtain ⟨typeWritten, typeDone, -⟩ :=
    writeTypeName_written accepted typeHeld typeRoom typeEnough
  refine ⟨topicWritten, topicNameLen ros2TopicName role.parts.topicPrefix + 1,
    ⟨some typeWritten, typeNameLen typeName role.parts.typeSuffix + 1⟩, ?_, ?_⟩
  · simp only [makeDdsTopicAndTypeNames, topicDone, typeDone, Option.map_some]
  · rw [TopicRole.ddsTopicName_bytes]
    exact topicFilled.prefix_current

theorem computeDdsWriterTopicNames_leaves {kind : EndpointType} {role : TopicRole}
    (chosen : NameParts.ofWriter kind = some role.parts)
    (left : LeavesTopicName (computeDdsWriterTopicNames (some ros2TopicName) (some typeName) kind
      topicOut typeOut) topicName) : topicName = role.ddsTopicName ros2TopicName := by
  obtain ⟨written, len, typeDone, returned, begins⟩ := left
  obtain ⟨parts, sameParts, -, -, made⟩ := computeDdsWriterTopicNames_ok returned
  cases chosen.symm.trans sameParts
  exact makeDdsTopicAndTypeNames_leaves ⟨written, len, typeDone, made, begins⟩

theorem computeDdsReaderTopicNames_leaves {kind : EndpointType} {role : TopicRole}
    (chosen : NameParts.ofReader kind = some role.parts)
    (left : LeavesTopicName (computeDdsReaderTopicNames (some ros2TopicName) (some typeName) kind
      topicOut typeOut) topicName) : topicName = role.ddsTopicName ros2TopicName := by
  obtain ⟨written, len, typeDone, returned, begins⟩ := left
  obtain ⟨parts, sameParts, made⟩ := computeDdsReaderTopicNames_ok returned
  cases chosen.symm.trans sameParts
  exact makeDdsTopicAndTypeNames_leaves ⟨written, len, typeDone, made, begins⟩

theorem computeDdsWriterTopicNames_left {kind : EndpointType} {role : TopicRole}
    (chosen : NameParts.ofWriter kind = some role.parts) (named : ros2TopicName.strlen ≠ 0)
    (room : role.Suffices ros2TopicName typeName topicOut typeOut) :
    LeavesTopicName (computeDdsWriterTopicNames (some ros2TopicName) (some typeName) kind topicOut
      typeOut) (role.ddsTopicName ros2TopicName) := by
  simp only [computeDdsWriterTopicNames, chosen, beq_eq_false_iff_ne.mpr named,
    beq_eq_false_iff_ne.mpr room.typeNamed, Bool.or_self, Bool.false_eq_true, if_false]
  exact makeDdsTopicAndTypeNames_left room

theorem computeDdsReaderTopicNames_left {kind : EndpointType} {role : TopicRole}
    (chosen : NameParts.ofReader kind = some role.parts)
    (room : role.Suffices ros2TopicName typeName topicOut typeOut) :
    LeavesTopicName (computeDdsReaderTopicNames (some ros2TopicName) (some typeName) kind topicOut
      typeOut) (role.ddsTopicName ros2TopicName) := by
  simp only [computeDdsReaderTopicNames, chosen]
  exact makeDdsTopicAndTypeNames_left room

end

/-- A service reads requests and writes responses. -/
theorem computeServiceTopicNames_leaves {stringAlloc : Nat → Bool}
    {nodeName serviceName typeName requestTopic replyTopic : CString} {names : ServiceNames}
    (left : LeavesServiceTopics
      (computeServiceTopicNames stringAlloc nodeName serviceName (some typeName) names)
      requestTopic replyTopic) :
    requestTopic = TopicRole.request.ddsTopicName (serviceTopicName nodeName serviceName) ∧
      replyTopic = TopicRole.response.ddsTopicName (serviceTopicName nodeName serviceName) := by
  obtain ⟨done, request, reply, returned, requestHeld, requestBegins, replyHeld, replyBegins⟩ := left
  have called : serviceCall stringAlloc nodeName serviceName typeName names.outs =
      some (.ok, done.outs) := by
    unfold serviceCall ServiceNames.outs
    rw [returned]
    rfl
  obtain ⟨-, reader, writer⟩ := serviceCall_ok called
  obtain ⟨⟨_, requestLen⟩, reqType, ⟨_, replyLen⟩, repType⟩ := done
  cases requestHeld
  cases replyHeld
  exact ⟨@computeDdsReaderTopicNames_leaves _ _ _ _ _ .service .request rfl
      ⟨request, requestLen, reqType, reader, requestBegins⟩,
    @computeDdsWriterTopicNames_leaves _ _ _ _ _ .service .response rfl
      ⟨reply, replyLen, repType, writer, replyBegins⟩⟩

theorem computeServiceTopicNames_left {stringAlloc : Nat → Bool}
    {nodeName serviceName typeName : CString} {names : ServiceNames}
    (allocated : stringAlloc (nodeName.strlen + 1 + serviceName.strlen) = true)
    (request : TopicRole.request.Suffices (serviceTopicName nodeName serviceName) typeName
      names.reqTopicName names.reqTypeName)
    (response : TopicRole.response.Suffices (serviceTopicName nodeName serviceName) typeName
      names.repTopicName names.repTypeName) :
    LeavesServiceTopics
      (computeServiceTopicNames stringAlloc nodeName serviceName (some typeName) names)
      (TopicRole.request.ddsTopicName (serviceTopicName nodeName serviceName))
      (TopicRole.response.ddsTopicName (serviceTopicName nodeName serviceName)) := by
  obtain ⟨requestWritten, requestLen, requestType, reader, requestBegins⟩ :=
    @computeDdsReaderTopicNames_left _ _ _ _ .service .request rfl request
  obtain ⟨replyWritten, replyLen, replyType, writer, replyBegins⟩ :=
    @computeDdsWriterTopicNames_left _ _ _ _ .service .response rfl serviceTopicName_named response
  refine ⟨⟨⟨some requestWritten, requestLen⟩, requestType, ⟨some replyWritten, replyLen⟩,
    replyType⟩, requestWritten, replyWritten, ?_, rfl, requestBegins, rfl, replyBegins⟩
  simp [computeServiceTopicNames, allocated, reader, writer]

/-! ## The kinds that are accepted -/

section

variable {dds : Dds}

/-- Entities that are all of one kind are accepted for that kind. -/
theorem followsNaming_iff {own kind : EndpointType} {ddsReader : Option DataReader}
    {ddsWriter : Option DataWriter}
    (reader : ∀ reader ∈ ddsReader, detectEndpointType (dds.readerTopicName reader) false = own)
    (writer : ∀ writer ∈ ddsWriter, detectEndpointType (dds.writerTopicName writer) true = own)
    (given : ddsReader.isSome = true ∨ ddsWriter.isSome = true) :
    FollowsNaming dds kind ddsReader ddsWriter ↔ kind = own := by
  constructor
  · intro follows
    rcases given with readerGiven | writerGiven
    · obtain ⟨dr, held⟩ := Option.isSome_iff_exists.mp readerGiven
      exact (follows.reader dr held).symm.trans (reader dr held)
    · obtain ⟨dw, held⟩ := Option.isSome_iff_exists.mp writerGiven
      exact (follows.writer dw held).symm.trans (writer dw held)
  · intro same
    subst same
    exact ⟨reader, writer⟩

theorem detects_reader {role : TopicRole} {topicName : CString} {reader : DataReader}
    (readerTopic : dds.readerTopicName reader = role.ddsTopicName topicName) :
    ∀ held ∈ some reader,
      detectEndpointType (dds.readerTopicName held) false = role.endpointType false := by
  intro held member
  cases member
  rw [readerTopic, TopicRole.detect_ddsTopicName]

theorem detects_writer {role : TopicRole} {topicName : CString} {writer : DataWriter}
    (writerTopic : dds.writerTopicName writer = role.ddsTopicName topicName) :
    ∀ held ∈ some writer,
      detectEndpointType (dds.writerTopicName held) true = role.endpointType true := by
  intro held member
  cases member
  rw [writerTopic, TopicRole.detect_ddsTopicName]

end

theorem computePublisherTopicNames_leaves {ros2TopicName typeName : Option CString}
    {topicOut typeOut : NameOut} {topicName : CString}
    (left : LeavesTopicName (computePublisherTopicNames ros2TopicName typeName topicOut typeOut)
      topicName) :
    ∃ name, ros2TopicName = some name ∧ topicName = TopicRole.topic.ddsTopicName name := by
  cases ros2TopicName with
  | none =>
      obtain ⟨written, len, typeDone, returned, -⟩ := left
      cases returned
  | some name =>
      cases typeName with
      | none =>
          obtain ⟨written, len, typeDone, returned, -⟩ := left
          cases returned
      | some typeName => exact ⟨name, rfl, computeDdsWriterTopicNames_leaves rfl left⟩

/-- The name functions of publishers and subscriptions are the same. -/
theorem computeSubscriptionTopicNames_eq (ros2TopicName typeName : Option CString)
    (topicOut typeOut : NameOut) :
    computeSubscriptionTopicNames ros2TopicName typeName topicOut typeOut =
      computePublisherTopicNames ros2TopicName typeName topicOut typeOut := by
  unfold computeSubscriptionTopicNames computePublisherTopicNames computeDdsWriterTopicNames
  rfl

theorem computeServiceTopicNames_typed {stringAlloc : Nat → Bool}
    {nodeName serviceName requestTopic replyTopic : CString} {typeName : Option CString}
    {names : ServiceNames}
    (left : LeavesServiceTopics
      (computeServiceTopicNames stringAlloc nodeName serviceName typeName names)
      requestTopic replyTopic) :
    requestTopic = TopicRole.request.ddsTopicName (serviceTopicName nodeName serviceName) ∧
      replyTopic = TopicRole.response.ddsTopicName (serviceTopicName nodeName serviceName) := by
  cases typeName with
  | some typeName => exact computeServiceTopicNames_leaves left
  | none =>
      obtain ⟨done, request, reply, returned, -⟩ := left
      unfold computeServiceTopicNames at returned
      split at returned <;> cases returned

/-- With room for the names, the name functions leave the topic of the ROS 2 name.
Whatever they leave is accepted for the kind that they are named for and for no other,
and tells what the topic carries and for which ROS 2 name. -/
structure NamesForKind (dds : Dds) : Prop where
  publisherLeft : ∀ {name typeName topicOut typeOut}, name.strlen ≠ 0 →
    TopicRole.topic.Suffices name typeName topicOut typeOut →
      LeavesTopicName (computePublisherTopicNames (some name) (some typeName) topicOut typeOut)
        (TopicRole.topic.ddsTopicName name)
  subscriptionLeft : ∀ {name typeName topicOut typeOut}, name.strlen ≠ 0 →
    TopicRole.topic.Suffices name typeName topicOut typeOut →
      LeavesTopicName (computeSubscriptionTopicNames (some name) (some typeName) topicOut typeOut)
        (TopicRole.topic.ddsTopicName name)
  serviceLeft : ∀ {stringAlloc nodeName serviceName typeName names},
    stringAlloc (nodeName.strlen + 1 + serviceName.strlen) = true →
    TopicRole.request.Suffices (serviceTopicName nodeName serviceName) typeName
      names.reqTopicName names.reqTypeName →
    TopicRole.response.Suffices (serviceTopicName nodeName serviceName) typeName
      names.repTopicName names.repTypeName →
      LeavesServiceTopics
        (computeServiceTopicNames stringAlloc nodeName serviceName (some typeName) names)
        (TopicRole.request.ddsTopicName (serviceTopicName nodeName serviceName))
        (TopicRole.response.ddsTopicName (serviceTopicName nodeName serviceName))
  publisher : ∀ {ros2TopicName typeName topicName topicOut typeOut} {writer : DataWriter},
    LeavesTopicName (computePublisherTopicNames ros2TopicName typeName topicOut typeOut) topicName →
    dds.writerTopicName writer = topicName →
      ∀ kind, FollowsNaming dds kind none (some writer) ↔ kind = .publisher
  subscription : ∀ {ros2TopicName typeName topicName topicOut typeOut} {reader : DataReader},
    LeavesTopicName (computeSubscriptionTopicNames ros2TopicName typeName topicOut typeOut)
      topicName →
    dds.readerTopicName reader = topicName →
      ∀ kind, FollowsNaming dds kind (some reader) none ↔ kind = .subscription
  service : ∀ {stringAlloc nodeName serviceName typeName names requestTopic replyTopic}
      {reader : DataReader} {writer : DataWriter},
    LeavesServiceTopics (computeServiceTopicNames stringAlloc nodeName serviceName typeName names)
      requestTopic replyTopic →
    dds.readerTopicName reader = requestTopic → dds.writerTopicName writer = replyTopic →
      ∀ kind, FollowsNaming dds kind (some reader) (some writer) ↔ kind = .service
  client : ∀ {stringAlloc nodeName serviceName typeName names requestTopic replyTopic}
      {reader : DataReader} {writer : DataWriter},
    LeavesServiceTopics (computeServiceTopicNames stringAlloc nodeName serviceName typeName names)
      requestTopic replyTopic →
    dds.readerTopicName reader = replyTopic → dds.writerTopicName writer = requestTopic →
      ∀ kind, FollowsNaming dds kind (some reader) (some writer) ↔ kind = .client
  publisherTopic : ∀ {name typeName topicName topicOut typeOut},
    LeavesTopicName (computePublisherTopicNames (some name) typeName topicOut typeOut) topicName →
      topicName = TopicRole.topic.ddsTopicName name
  subscriptionTopic : ∀ {name typeName topicName topicOut typeOut},
    LeavesTopicName (computeSubscriptionTopicNames (some name) typeName topicOut typeOut)
      topicName → topicName = TopicRole.topic.ddsTopicName name
  serviceTopics : ∀ {stringAlloc nodeName serviceName typeName names requestTopic replyTopic},
    LeavesServiceTopics (computeServiceTopicNames stringAlloc nodeName serviceName typeName names)
      requestTopic replyTopic →
      requestTopic = TopicRole.request.ddsTopicName (serviceTopicName nodeName serviceName) ∧
      replyTopic = TopicRole.response.ddsTopicName (serviceTopicName nodeName serviceName)
  injective : ∀ {role other : TopicRole} {name otherName : CString},
    role.ddsTopicName name = other.ddsTopicName otherName → role = other ∧ name = otherName

theorem computed_names_for_kind (dds : Dds) : NamesForKind dds where
  publisherLeft := computeDdsWriterTopicNames_left rfl
  subscriptionLeft := computeDdsWriterTopicNames_left rfl
  serviceLeft := computeServiceTopicNames_left
  publisher := by
    intro _ _ topicName _ _ writer left same kind
    obtain ⟨name, -, topic⟩ := computePublisherTopicNames_leaves left
    exact followsNaming_iff (by simp) (detects_writer (same.trans topic)) (.inr rfl)
  subscription := by
    intro _ _ topicName _ _ reader left same kind
    rw [computeSubscriptionTopicNames_eq] at left
    obtain ⟨name, -, topic⟩ := computePublisherTopicNames_leaves left
    exact followsNaming_iff (detects_reader (same.trans topic)) (by simp) (.inl rfl)
  service := by
    intro _ _ _ _ _ _ _ reader writer left readerTopic writerTopic kind
    obtain ⟨request, reply⟩ := computeServiceTopicNames_typed left
    exact followsNaming_iff (detects_reader (readerTopic.trans request))
      (detects_writer (writerTopic.trans reply)) (.inl rfl)
  client := by
    intro _ _ _ _ _ _ _ reader writer left readerTopic writerTopic kind
    obtain ⟨request, reply⟩ := computeServiceTopicNames_typed left
    exact followsNaming_iff (detects_reader (readerTopic.trans reply))
      (detects_writer (writerTopic.trans request)) (.inl rfl)
  publisherTopic := by
    intro name _ topicName _ _ left
    obtain ⟨_, same, topic⟩ := computePublisherTopicNames_leaves left
    cases same
    exact topic
  subscriptionTopic := by
    intro name _ topicName _ _ left
    rw [computeSubscriptionTopicNames_eq] at left
    obtain ⟨_, same, topic⟩ := computePublisherTopicNames_leaves left
    cases same
    exact topic
  serviceTopics := computeServiceTopicNames_typed
  injective := TopicRole.ddsTopicName_injective

def serviceNameS : CString := .ofChars ['s']
def typeNameAB : CString := .ofChars ['a', ':', ':', 'b']

/-- Requests are read and responses written. -/
def serviceDds : Dds :=
  .onTopics (fun _ => .ofChars ['r', 'q', '/', 'n', '/', 's'])
    (fun _ => .ofChars ['r', 'r', '/', 'n', '/', 's'])

/-- Buffers of these sizes, all of them zero. -/
def ServiceNames.zeroed (reqTopic reqType repTopic repType : Nat) : ServiceNames where
  reqTopicName := .ofBuffer (List.replicate reqTopic 0)
  reqTypeName := .ofBuffer (List.replicate reqType 0)
  repTopicName := .ofBuffer (List.replicate repTopic 0)
  repTypeName := .ofBuffer (List.replicate repType 0)

/-- Endpoints of the topic "s". -/
def topicDds : Dds :=
  .onTopics (fun _ => .ofChars ['r', 't', '/', 's']) (fun _ => .ofChars ['r', 't', '/', 's'])

theorem topic_names_suffice :
    TopicRole.topic.Suffices serviceNameS typeNameAB (.ofBuffer (List.replicate 5 0))
      (.ofBuffer (List.replicate 12 0)) :=
  ⟨by decide, ⟨_, rfl, Nat.le_refl _, by decide⟩, ⟨_, rfl, Nat.le_refl _, by decide⟩⟩

theorem computed_names_for_kind_three_calls :
    (LeavesTopicName (computePublisherTopicNames (some serviceNameS) (some typeNameAB)
        (.ofBuffer (List.replicate 5 0)) (.ofBuffer (List.replicate 12 0)))
        (topicDds.writerTopicName ⟨1⟩) ∧
      FollowsNaming topicDds .publisher none (some ⟨1⟩) ∧
      ¬ FollowsNaming topicDds .subscription none (some ⟨1⟩)) ∧
    (LeavesTopicName (computeSubscriptionTopicNames (some serviceNameS) (some typeNameAB)
        (.ofBuffer (List.replicate 5 0)) (.ofBuffer (List.replicate 12 0)))
        (topicDds.readerTopicName ⟨2⟩) ∧
      FollowsNaming topicDds .subscription (some ⟨2⟩) none ∧
      ¬ FollowsNaming topicDds .publisher (some ⟨2⟩) none) ∧
    (LeavesServiceTopics (computeServiceTopicNames (fun _ => true) firstName serviceNameS
        (some typeNameAB) (.zeroed 7 20 7 21))
        (serviceDds.readerTopicName ⟨1⟩) (serviceDds.writerTopicName ⟨2⟩) ∧
      FollowsNaming serviceDds .service (some ⟨1⟩) (some ⟨2⟩) ∧
      ¬ FollowsNaming serviceDds .client (some ⟨1⟩) (some ⟨2⟩)) := by
  have onTopic := computed_names_for_kind topicDds
  have onService := computed_names_for_kind serviceDds
  have written := onTopic.publisherLeft (by decide) topic_names_suffice
  have read := onTopic.subscriptionLeft (by decide) topic_names_suffice
  have served := @NamesForKind.serviceLeft _ onService (fun _ => true) firstName serviceNameS
    typeNameAB (.zeroed 7 20 7 21) rfl
    ⟨by decide, ⟨_, rfl, Nat.le_refl _, by decide⟩, ⟨_, rfl, Nat.le_refl _, by decide⟩⟩
    ⟨by decide, ⟨_, rfl, Nat.le_refl _, by decide⟩, ⟨_, rfl, Nat.le_refl _, by decide⟩⟩
  have publishes := @NamesForKind.publisher _ onTopic _ _ _ _ _ ⟨1⟩ written rfl
  have subscribes := @NamesForKind.subscription _ onTopic _ _ _ _ _ ⟨2⟩ read rfl
  have serves := @NamesForKind.service _ onService _ _ _ _ _ _ _ ⟨1⟩ ⟨2⟩ served rfl rfl
  exact ⟨⟨written, (publishes _).mpr rfl, mt (publishes _).mp (by decide)⟩,
    ⟨read, (subscribes _).mpr rfl, mt (subscribes _).mp (by decide)⟩,
    ⟨served, (serves _).mpr rfl, mt (serves _).mp (by decide)⟩⟩

/-! ## The convention for services -/

def requestSuffix : CString := .ofChars ['R', 'e', 'q', 'u', 'e', 's', 't']
def replySuffix : CString := .ofChars ['R', 'e', 'p', 'l', 'y']

/-- The topics of a ROS 2 service, as "rq/foo/list_parametersRequest" and
"rr/foo/list_parametersReply". -/
def conventionalTopic (role : TopicRole) (nodeName serviceName suffix : CString) : CString where
  chars := (role.ddsTopicName (serviceTopicName nodeName serviceName)).chars ++ suffix.chars
  noNul := by
    simp only [List.mem_append, not_or]
    exact ⟨(role.ddsTopicName (serviceTopicName nodeName serviceName)).noNul, suffix.noNul⟩

/-- The topics that are left have no suffix, for any names and buffers. -/
theorem service_topics_never_conventional (stringAlloc : Nat → Bool)
    (nodeName serviceName : CString) (typeName : Option CString) (names : ServiceNames) :
    ¬ LeavesServiceTopics
      (computeServiceTopicNames stringAlloc nodeName serviceName typeName names)
      (conventionalTopic .request nodeName serviceName requestSuffix)
      (conventionalTopic .response nodeName serviceName replySuffix) := by
  intro left
  have request := (computeServiceTopicNames_typed left).1
  have lengths := congrArg CString.strlen request
  simp [conventionalTopic, CString.strlen, requestSuffix, CString.ofChars] at lengths

/-- The call succeeds for the service "s" of the node "n". -/
theorem service_topics_without_suffix :
    (∃ done, computeServiceTopicNames (fun _ => true) firstName serviceNameS (some typeNameAB)
        (.zeroed 32 32 32 32) = some (.ok, done)) ∧
      ¬ LeavesServiceTopics (computeServiceTopicNames (fun _ => true) firstName serviceNameS
          (some typeNameAB) (.zeroed 32 32 32 32))
        (conventionalTopic .request firstName serviceNameS requestSuffix)
        (conventionalTopic .response firstName serviceNameS replySuffix) := by
  refine ⟨⟨_, rfl⟩, ?_⟩
  intro left
  exact absurd (computeServiceTopicNames_typed left).1 (by decide)

end Ros2Graph
