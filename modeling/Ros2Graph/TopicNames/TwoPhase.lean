import Ros2Graph.TopicNames.WrittenNames

/-! Callers ask for the sizes of the names first and come back with buffers of these
sizes. The name of a type never fills its buffer, so the second call is only in
line with the first where both of them are refused. -/

set_option autoImplicit false

namespace Ros2Graph

namespace NameOut

/-- NULL asks for the size of a name. -/
def query (len : Nat) : NameOut := ⟨none, len⟩

def ofBuffer (buffer : List UInt8) : NameOut := ⟨some buffer, buffer.length⟩

variable {Name : Type}

def queries (lens : Name → Nat) : Name → NameOut := fun name => .query (lens name)

def ofBuffers (buffers : Name → List UInt8) : Name → NameOut :=
  fun name => .ofBuffer (buffers name)

end NameOut

/-- A call by the names that it writes. -/
abbrev NameCall (Name : Type) := (Name → NameOut) → Option (ReturnCode × (Name → NameOut))

namespace NameCall

variable {Name : Type}

/-- The sizes answered are those of the texts that buffers of these sizes are
filled with, whatever they held. A call that does not answer does not write. -/
structure TwoPhase (call : NameCall Name) : Prop where
  written : ∀ lens sized, call (NameOut.queries lens) = some (.ok, sized) →
    ∃ texts : Name → CString, (∀ name, (sized name).len = (texts name).strlen + 1) ∧
      ∀ buffers : Name → List UInt8, (∀ name, (buffers name).length = (sized name).len) →
        call (NameOut.ofBuffers buffers) =
          some (.ok, fun name => ⟨some (texts name).bytes, (sized name).len⟩)
  refused : ∀ lens, (∀ sized, call (NameOut.queries lens) ≠ some (.ok, sized)) →
    ∀ buffers done, call (NameOut.ofBuffers buffers) ≠ some (.ok, done)

/-- A name that keeps the last byte of its buffer is not terminated. -/
theorem twoPhase_iff {call : NameCall Name} {Refused : Prop} (name : Name)
    (refused : Refused → ∀ outs done, call outs ≠ some (.ok, done))
    (accepted : ¬ Refused → ∀ lens, ∃ sized, call (NameOut.queries lens) = some (.ok, sized))
    (short : ∀ buffers done, call (NameOut.ofBuffers buffers) = some (.ok, done) →
      ∀ written len, done name = ⟨some written, len⟩ →
        written.getLast? = (buffers name).getLast?) :
    call.TwoPhase ↔ Refused := by
  constructor
  · intro twoPhase
    by_contra answers
    obtain ⟨sized, answered⟩ := accepted answers fun _ => 0
    obtain ⟨texts, sizes, written⟩ := twoPhase.written _ sized answered
    have returned := written (fun name => List.replicate (sized name).len 1)
      (fun name => List.length_replicate)
    have last := short _ _ returned _ _ rfl
    rw [CString.getLast_bytes, sizes name, List.replicate_succ', List.getLast?_concat] at last
    exact absurd last (by decide)
  · intro never
    exact ⟨fun _ sized answered => absurd answered (refused never _ sized),
      fun _ _ _ done => refused never _ done⟩

end NameCall

/-! ## Topics and types of an endpoint -/

theorem makeDdsTopicAndTypeNames_short
    {ros2TopicName ros2TypeName topicPrefix typeSuffix : CString} {topicOut topicDone : NameOut}
    {buffer written : List UInt8} {len : Nat}
    (returned : makeDdsTopicAndTypeNames ros2TopicName ros2TypeName topicOut (.ofBuffer buffer)
      topicPrefix typeSuffix = some (.ok, topicDone, ⟨some written, len⟩)) :
    written.getLast? = buffer.getLast? := by
  obtain ⟨stemLen, _, -, held, enough, filled⟩ :=
    writeTypeName_ok (makeDdsTopicAndTypeNames_ok returned).2
  cases held
  have size : typeNameLen ros2TypeName typeSuffix + 1 ≤ buffer.length := enough
  exact filled.getLast_eq
    (Nat.lt_of_lt_of_le (length_typeNameWritten ros2TypeName typeSuffix stemLen) size)

theorem computeDdsWriterTopicNames_query {topicName typeName : CString} {kind : EndpointType}
    (known : kind ≠ .unknown) (topicNamed : topicName.strlen ≠ 0) (typeNamed : typeName.strlen ≠ 0)
    (topicLen typeLen : Nat) :
    ∃ topicDone typeDone, computeDdsWriterTopicNames (some topicName) (some typeName) kind
      (.query topicLen) (.query typeLen) = some (.ok, topicDone, typeDone) := by
  simp only [computeDdsWriterTopicNames, beq_eq_false_iff_ne.mpr topicNamed,
    beq_eq_false_iff_ne.mpr typeNamed, Bool.or_self, Bool.false_eq_true, ↓reduceIte]
  cases kind with
  | unknown => exact absurd rfl known
  | _ => exact ⟨_, _, rfl⟩

theorem computeDdsReaderTopicNames_query {topicName typeName : CString} {kind : EndpointType}
    (known : kind ≠ .unknown) (topicLen typeLen : Nat) :
    ∃ topicDone typeDone, computeDdsReaderTopicNames (some topicName) (some typeName) kind
      (.query topicLen) (.query typeLen) = some (.ok, topicDone, typeDone) := by
  cases kind with
  | unknown => exact absurd rfl known
  | _ => exact ⟨_, _, rfl⟩

inductive EndpointName where
  | topic
  | type

def EndpointName.outs (topicOut typeOut : NameOut) : EndpointName → NameOut
  | .topic => topicOut
  | .type => typeOut

/-- The functions that name the topic and the type of one endpoint. -/
inductive NameFunction where
  | publisher
  | subscription
  | writer (ros2EndpType : EndpointType)
  | reader (ros2EndpType : EndpointType)

namespace NameFunction

def compute (function : NameFunction) (topicName typeName : CString) :
    NameOut → NameOut → Option (ReturnCode × NameOut × NameOut) :=
  match function with
  | publisher => computePublisherTopicNames (some topicName) (some typeName)
  | subscription => computeSubscriptionTopicNames (some topicName) (some typeName)
  | writer kind => computeDdsWriterTopicNames (some topicName) (some typeName) kind
  | reader kind => computeDdsReaderTopicNames (some topicName) (some typeName) kind

def call (function : NameFunction) (topicName typeName : CString) : NameCall EndpointName :=
  fun outs => (function.compute topicName typeName (outs .topic) (outs .type)).map fun returned =>
    (returned.1, EndpointName.outs returned.2.1 returned.2.2)

/-- The functions of writers check the two names, that of readers does not. -/
def Refuses (function : NameFunction) (topicName typeName : CString) : Prop :=
  match function with
  | publisher | subscription => topicName.strlen = 0 ∨ typeName.strlen = 0
  | writer kind => kind = .unknown ∨ topicName.strlen = 0 ∨ typeName.strlen = 0
  | reader kind => kind = .unknown

variable {function : NameFunction} {topicName typeName : CString}

/-- Every call that succeeds is one of the common function. -/
theorem compute_ok {topicOut typeOut topicDone typeDone : NameOut}
    (returned : function.compute topicName typeName topicOut typeOut =
      some (.ok, topicDone, typeDone)) :
    ¬ function.Refuses topicName typeName ∧ ∃ parts : NameParts,
      makeDdsTopicAndTypeNames topicName typeName topicOut typeOut parts.topicPrefix
        parts.typeSuffix = some (.ok, topicDone, typeDone) := by
  cases function with
  | publisher | subscription =>
      simp only [compute, computePublisherTopicNames, computeSubscriptionTopicNames] at returned
      obtain ⟨parts, -, topicNamed, typeNamed, made⟩ := computeDdsWriterTopicNames_ok returned
      exact ⟨not_or.mpr ⟨topicNamed, typeNamed⟩, parts, made⟩
  | writer kind =>
      obtain ⟨parts, chosen, topicNamed, typeNamed, made⟩ := computeDdsWriterTopicNames_ok returned
      refine ⟨not_or.mpr ⟨?_, not_or.mpr ⟨topicNamed, typeNamed⟩⟩, parts, made⟩
      intro unknown
      rw [unknown] at chosen
      cases chosen
  | reader kind =>
      obtain ⟨parts, chosen, made⟩ := computeDdsReaderTopicNames_ok returned
      refine ⟨?_, parts, made⟩
      intro unknown
      rw [unknown] at chosen
      cases chosen

theorem compute_query (accepts : ¬ function.Refuses topicName typeName) (topicLen typeLen : Nat) :
    ∃ topicDone typeDone, function.compute topicName typeName (.query topicLen) (.query typeLen) =
      some (.ok, topicDone, typeDone) := by
  cases function with
  | publisher | subscription =>
      have ⟨topicNamed, typeNamed⟩ := not_or.mp accepts
      simp only [compute, computePublisherTopicNames, computeSubscriptionTopicNames]
      exact computeDdsWriterTopicNames_query (by decide) topicNamed typeNamed _ _
  | writer kind =>
      have ⟨known, named⟩ := not_or.mp accepts
      have ⟨topicNamed, typeNamed⟩ := not_or.mp named
      exact computeDdsWriterTopicNames_query known topicNamed typeNamed _ _
  | reader kind => exact computeDdsReaderTopicNames_query accepts _ _

theorem call_ok {outs done : EndpointName → NameOut}
    (returned : function.call topicName typeName outs = some (.ok, done)) :
    function.compute topicName typeName (outs .topic) (outs .type) =
      some (.ok, done .topic, done .type) := by
  obtain ⟨⟨retcode, topicDone, typeDone⟩, computed, result⟩ := Option.map_eq_some_iff.mp returned
  cases result
  exact computed

theorem twoPhase_iff : (function.call topicName typeName).TwoPhase ↔
    function.Refuses topicName typeName := by
  refine NameCall.twoPhase_iff .type ?_ ?_ ?_
  · intro refuses outs done returned
    exact (compute_ok (call_ok returned)).1 refuses
  · intro accepts lens
    obtain ⟨topicDone, typeDone, computed⟩ :=
      compute_query accepts (lens .topic) (lens .type)
    exact ⟨EndpointName.outs topicDone typeDone, by
      unfold call NameOut.queries
      rw [computed]
      rfl⟩
  · intro buffers done returned written len result
    have computed := call_ok returned
    rw [result] at computed
    obtain ⟨-, parts, made⟩ := compute_ok computed
    exact makeDdsTopicAndTypeNames_short made

end NameFunction

/-! ## Topics and types of a service -/

inductive ServiceName where
  | reqTopic
  | reqType
  | repTopic
  | repType

def ServiceNames.outs (names : ServiceNames) : ServiceName → NameOut
  | .reqTopic => names.reqTopicName
  | .reqType => names.reqTypeName
  | .repTopic => names.repTopicName
  | .repType => names.repTypeName

section Service

variable (stringAlloc : Nat → Bool) (nodeName serviceName typeName : CString)

def serviceCall : NameCall ServiceName := fun outs =>
  (computeServiceTopicNames stringAlloc nodeName serviceName (some typeName)
    ⟨outs .reqTopic, outs .reqType, outs .repTopic, outs .repType⟩).map fun returned =>
      (returned.1, returned.2.outs)

/-- The joined name of a service is not empty. -/
def ServiceRefuses : Prop :=
  stringAlloc (nodeName.strlen + 1 + serviceName.strlen) = false ∨ typeName.strlen = 0

variable {stringAlloc nodeName serviceName typeName}

theorem serviceTopicName_named : (serviceTopicName nodeName serviceName).strlen ≠ 0 := by
  simp [serviceTopicName, CString.strlen]

/-- A call for a service succeeds with those for its reader and its writer. -/
theorem serviceCall_ok {outs done : ServiceName → NameOut}
    (returned : serviceCall stringAlloc nodeName serviceName typeName outs = some (.ok, done)) :
    stringAlloc (nodeName.strlen + 1 + serviceName.strlen) = true ∧
      computeDdsReaderTopicNames (some (serviceTopicName nodeName serviceName)) (some typeName)
        .service (outs .reqTopic) (outs .reqType) = some (.ok, done .reqTopic, done .reqType) ∧
      computeDdsWriterTopicNames (some (serviceTopicName nodeName serviceName)) (some typeName)
        .service (outs .repTopic) (outs .repType) = some (.ok, done .repTopic, done .repType) := by
  obtain ⟨⟨retcode, names⟩, computed, result⟩ := Option.map_eq_some_iff.mp returned
  cases result
  simp only [computeServiceTopicNames] at computed
  split at computed
  · cases computed
  · next allocated =>
    split at computed
    · cases computed
    · next reader =>
      split at computed
      · cases computed
      · next writer =>
        cases computed
        exact ⟨by simpa using allocated, reader, writer⟩
      · cases computed
    · cases computed

theorem serviceCall_twoPhase_iff :
    (serviceCall stringAlloc nodeName serviceName typeName).TwoPhase ↔
      ServiceRefuses stringAlloc nodeName serviceName typeName := by
  refine NameCall.twoPhase_iff .reqType ?_ ?_ ?_
  · intro refuses outs done returned
    obtain ⟨allocated, -, writer⟩ := serviceCall_ok returned
    obtain ⟨_, -, -, typeNamed, -⟩ := computeDdsWriterTopicNames_ok writer
    rcases refuses with exhausted | unnamed
    · rw [exhausted] at allocated
      cases allocated
    · exact typeNamed unnamed
  · intro accepts lens
    have ⟨available, typeNamed⟩ := not_or.mp accepts
    obtain ⟨reqTopic, reqType, reader⟩ := @computeDdsReaderTopicNames_query
      (serviceTopicName nodeName serviceName) typeName .service (by decide) (lens .reqTopic)
      (lens .reqType)
    obtain ⟨repTopic, repType, writer⟩ := @computeDdsWriterTopicNames_query
      (serviceTopicName nodeName serviceName) typeName .service (by decide) serviceTopicName_named
      typeNamed (lens .repTopic) (lens .repType)
    refine ⟨ServiceNames.outs ⟨reqTopic, reqType, repTopic, repType⟩, ?_⟩
    simp [serviceCall, computeServiceTopicNames, NameOut.queries, available, reader, writer]
  · intro buffers done returned written len result
    obtain ⟨-, reader, -⟩ := serviceCall_ok returned
    rw [result] at reader
    obtain ⟨parts, -, made⟩ := computeDdsReaderTopicNames_ok reader
    exact makeDdsTopicAndTypeNames_short made

end Service

/-- The two calls agree just where the function refuses both of them. -/
theorem two_phases_agree_iff (topicName typeName : CString) :
    (∀ function : NameFunction, (function.call topicName typeName).TwoPhase ↔
      function.Refuses topicName typeName) ∧
    ∀ (stringAlloc : Nat → Bool) (nodeName serviceName : CString),
      (serviceCall stringAlloc nodeName serviceName typeName).TwoPhase ↔
        ServiceRefuses stringAlloc nodeName serviceName typeName :=
  ⟨fun _ => NameFunction.twoPhase_iff, fun _ _ _ => serviceCall_twoPhase_iff⟩

/-- The type of "a::b" leaves four of twelve bytes as they were. The type "x" has a
size, but is no type name. -/
theorem publisher_phases_disagree :
    ¬ (NameFunction.publisher.call (.ofChars ['t']) (.ofChars ['a', ':', ':', 'b'])).TwoPhase ∧
      ¬ (NameFunction.publisher.call (.ofChars ['t']) (.ofChars ['x'])).TwoPhase := by
  constructor
  · intro twoPhase
    obtain ⟨texts, -, written⟩ := twoPhase.written (fun _ => 0)
      (EndpointName.outs (.query 5) (.query 12)) rfl
    have returned := written (fun name => List.replicate (EndpointName.outs _ _ name).len 1)
      (fun _ => List.length_replicate)
    have left : NameFunction.publisher.compute (.ofChars ['t']) (.ofChars ['a', ':', ':', 'b'])
        (.ofBuffer (List.replicate 5 1)) (.ofBuffer (List.replicate 12 1)) =
        some (.ok, ⟨some [114, 116, 47, 116, 0], 5⟩,
          ⟨some [97, 100, 100, 115, 95, 58, 58, 95, 1, 1, 1, 1], 12⟩) := by
      decide
    have result := left.symm.trans (NameFunction.call_ok returned)
    simp only [Option.some.injEq, Prod.mk.injEq, NameOut.mk.injEq] at result
    have last := CString.getLast_bytes (texts .type)
    rw [← result.2.2.1] at last
    exact absurd last (by decide)
  · intro twoPhase
    obtain ⟨texts, -, written⟩ := twoPhase.written (fun _ => 0)
      (EndpointName.outs (.query 5) (.query 9)) rfl
    have returned := written (fun name => List.replicate (EndpointName.outs _ _ name).len 1)
      (fun _ => List.length_replicate)
    have refused : some ReturnCode.badParameter = some ReturnCode.ok :=
      congrArg (Option.map Prod.fst) returned
    exact absurd refused (by decide)

end Ros2Graph
