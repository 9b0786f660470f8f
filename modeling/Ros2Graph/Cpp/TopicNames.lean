import Ros2Graph.Cpp.ServiceNames

/-! `rti::ros2::graph::compute_publisher_topic_names` and
`compute_subscription_topic_names`. They ask the C function for the sizes, allocate two
buffers, and look twice at the answer to the first allocation. -/

set_option autoImplicit false

namespace Ros2Graph

open Foundation

/-- What `DDS_String_alloc` answers for the two buffers, by the length of the string. -/
structure TopicAllocs where
  topicName : Nat → Option (List UInt8)
  typeName : Nat → Option (List UInt8)

/-- An allocation has room for the string and its terminator. -/
structure TopicAllocs.Fits (allocs : TopicAllocs) : Prop where
  topicName : ∀ length buffer, allocs.topicName length = some buffer → buffer.length = length + 1
  typeName : ∀ length buffer, allocs.typeName length = some buffer → buffer.length = length + 1

structure TopicStrings where
  topicName : StdString
  typeName : StdString
  deriving DecidableEq, Repr

/-- `none` also stands for a string that is assigned from NULL. -/
def TopicStrings.read (ddsTopicName ddsTypeName : NameOut) : Option TopicStrings := do
  let topicNameBuf ← ddsTopicName.buffer
  let typeNameBuf ← ddsTypeName.buffer
  let topicName ← StdString.ofBuffer topicNameBuf
  let typeName ← StdString.ofBuffer typeNameBuf
  return ⟨topicName, typeName⟩

section

variable (allocs : TopicAllocs) (ros2TopicName ros2TypeName : StdString)

/-- Both functions, by the C function that they call, and what they throw when a call of it
fails. -/
def cppComputeTopicNames
    (compute : Option CString → Option CString → NameOut → NameOut →
      Option (ReturnCode × NameOut × NameOut))
    (queryFailed generateFailed : String) : Option (Except CppException TopicStrings) :=
  match compute (some ros2TopicName.cStr) (some ros2TypeName.cStr) (.query 0) (.query 0) with
  | none => none
  | some (.ok, topicSize, typeSize) =>
    match allocs.topicName (topicSize.len - 1) with
    | none => some (.error (.error "failed to allocate topic name string"))
    | some topicNameBuf =>
      -- What is tested after this allocation is `topic_name_buf` again.
      let typeNameBuf := allocs.typeName (typeSize.len - 1)
      match compute (some ros2TopicName.cStr) (some ros2TypeName.cStr)
          ⟨some topicNameBuf, topicSize.len⟩ ⟨typeNameBuf, typeSize.len⟩ with
      | none => none
      | some (.ok, ddsTopicName, ddsTypeName) =>
        (TopicStrings.read ddsTopicName ddsTypeName).map .ok
      | some (_, _, _) => some (.error (.error generateFailed))
  | some (_, _, _) => some (.error (.error queryFailed))

def cppComputePublisherTopicNames : Option (Except CppException TopicStrings) :=
  cppComputeTopicNames allocs ros2TopicName ros2TypeName computePublisherTopicNames
    "failed to query size of writer topic names" "failed to generate writer topic names"

def cppComputeSubscriptionTopicNames : Option (Except CppException TopicStrings) :=
  cppComputeTopicNames allocs ros2TopicName ros2TypeName computeSubscriptionTopicNames
    "failed to query size of reader topic names" "failed to generate reader topic names"

end

/-! ## What the C function answers -/

section

variable {topicName typeName : CString} {buffer : List UInt8} {size : Nat}

theorem writeTypeName_refused {typeSuffix : CString} (invalid : typeStemLen typeName = none) :
    writeTypeName typeName typeSuffix ⟨some buffer, typeNameLen typeName typeSuffix + 1⟩ =
      some (.badParameter, ⟨some buffer, typeNameLen typeName typeSuffix + 1⟩) := by
  simp only [writeTypeName, Nat.lt_irrefl, if_false, invalid]

/-- A text is read up to the NUL that follows it somewhere. -/
theorem StdString.ofBuffer_filled {text current : List UInt8} (noNul : 0 ∉ text)
    (filled : Filled buffer text current) :
    StdString.ofBuffer current =
      (StdString.ofBuffer (buffer.drop text.length)).map fun rest => ⟨text ++ rest.bytes⟩ := by
  rw [filled]
  unfold StdString.ofBuffer
  by_cases terminated : 0 ∈ buffer.drop text.length
  · have whole : 0 ∈ text ++ buffer.drop text.length := List.mem_append_right _ terminated
    simp only [terminated, whole, if_true, Option.map_some, takeWhile_text_append noNul]
  · have never : 0 ∉ text ++ buffer.drop text.length := by
      simp only [List.mem_append, not_or]
      exact ⟨noNul, terminated⟩
    simp only [terminated, never, if_false, Option.map_none]

/-- A call for an endpoint of a topic. -/
theorem writerTopicNames_eq {kind : EndpointType} (chosen : NameParts.ofWriter kind = some .topic)
    (topicOut typeOut : NameOut) :
    computeDdsWriterTopicNames (some topicName) (some typeName) kind topicOut typeOut =
      if topicName.strlen = 0 ∨ typeName.strlen = 0 then some (.badParameter, topicOut, typeOut)
      else makeDdsTopicAndTypeNames topicName typeName topicOut typeOut topicPrefixDefault
        typeSuffixDefault := by
  simp only [computeDdsWriterTopicNames, chosen, Bool.or_eq_true, beq_iff_eq]
  rfl

end

/-! ## What the C++ functions return -/

/-- What the C++ functions come to, by the two names and the two allocations. -/
def topicNamesOutcome (allocs : TopicAllocs) (topicName typeName : CString)
    (queryFailed generateFailed : String) : Option (Except CppException TopicStrings) :=
  if topicName.strlen = 0 ∨ typeName.strlen = 0 then some (.error (.error queryFailed))
  else
    match allocs.topicName (topicNameLen topicName topicPrefixDefault),
      allocs.typeName (typeNameLen typeName typeSuffixDefault) with
    | none, _ => some (.error (.error "failed to allocate topic name string"))
    | some _, none => none
    | some _, some typeNameBuf =>
      match typeStemLen typeName with
      | none => some (.error (.error generateFailed))
      | some stemLen =>
        let text := typeNameWritten typeName typeSuffixDefault stemLen
        (StdString.ofBuffer (typeNameBuf.drop text.length)).map fun rest =>
          .ok ⟨.ofCString (TopicRole.topic.ddsTopicName topicName), ⟨text ++ rest.bytes⟩⟩

section

variable {allocs : TopicAllocs} {topicName typeName : StdString}

theorem cppComputeTopicNames_eq (fits : allocs.Fits) {kind : EndpointType}
    (chosen : NameParts.ofWriter kind = some .topic) (queryFailed generateFailed : String) :
    cppComputeTopicNames allocs topicName typeName
        (fun topicName typeName => computeDdsWriterTopicNames topicName typeName kind)
        queryFailed generateFailed =
      topicNamesOutcome allocs topicName.cStr typeName.cStr queryFailed generateFailed := by
  unfold cppComputeTopicNames topicNamesOutcome
  simp only [writerTopicNames_eq chosen]
  by_cases unnamed : topicName.cStr.strlen = 0 ∨ typeName.cStr.strlen = 0
  · simp only [unnamed, if_true]
  · simp only [unnamed, if_false]
    have queried : makeDdsTopicAndTypeNames topicName.cStr typeName.cStr (.query 0) (.query 0)
        topicPrefixDefault typeSuffixDefault =
          some (.ok, .query (topicNameLen topicName.cStr topicPrefixDefault + 1),
            .query (typeNameLen typeName.cStr typeSuffixDefault + 1)) := rfl
    simp only [queried]
    simp only [NameOut.query, Nat.add_sub_cancel]
    cases topicAlloc : allocs.topicName (topicNameLen topicName.cStr topicPrefixDefault) with
    | none => rfl
    | some topicNameBuf =>
        obtain ⟨topicDone, topicWritten, topicFilled⟩ :=
          @writeTopicName_terminated topicName.cStr topicPrefixDefault
            ⟨some topicNameBuf, topicNameLen topicName.cStr topicPrefixDefault + 1⟩ topicNameBuf
            rfl (Nat.le_of_eq (fits.topicName _ _ topicAlloc).symm) (Nat.le_refl _)
        simp only [makeDdsTopicAndTypeNames, topicWritten]
        cases typeAlloc : allocs.typeName (typeNameLen typeName.cStr typeSuffixDefault) with
        | none => rfl
        | some typeNameBuf =>
            cases valid : typeStemLen typeName.cStr with
            | none =>
                rw [writeTypeName_refused valid]
                rfl
            | some stemLen =>
                obtain ⟨typeDone, typeWritten, typeFilled⟩ :=
                  @writeTypeName_written typeName.cStr typeSuffixDefault
                    ⟨some typeNameBuf, typeNameLen typeName.cStr typeSuffixDefault + 1⟩ typeNameBuf
                    stemLen valid rfl (Nat.le_of_eq (fits.typeName _ _ typeAlloc).symm)
                    (Nat.le_refl _)
                have topicRead : StdString.ofBuffer topicDone = some
                    (.ofCString (TopicRole.topic.ddsTopicName topicName.cStr)) := by
                  refine StdString.ofBuffer_terminated
                    (TopicRole.topic.ddsTopicName topicName.cStr).noNul ?_
                  exact topicFilled.prefix_current
                have typeRead := StdString.ofBuffer_filled
                  (typeNameWritten_noNul typeName.cStr typeSuffixDefault stemLen) typeFilled
                rw [typeWritten]
                simp only [Option.map_some, TopicStrings.read, bind, Option.bind_some, topicRead,
                  typeRead, pure]
                cases StdString.ofBuffer (typeNameBuf.drop
                  (typeNameWritten typeName.cStr typeSuffixDefault stemLen).length) <;> rfl

/-- The two functions, on every name and whatever the allocations hold. The name of the topic
is right. That of the type is the namespace with the suffix behind it, and then what the
allocation has held there. Where only the second allocation fails, a string is assigned from
NULL, and the exception for it is never thrown. -/
theorem cpp_topic_names_outcome (fits : allocs.Fits) (topicName typeName : StdString) :
    cppComputePublisherTopicNames allocs topicName typeName =
        topicNamesOutcome allocs topicName.cStr typeName.cStr
          "failed to query size of writer topic names" "failed to generate writer topic names" ∧
      cppComputeSubscriptionTopicNames allocs topicName typeName =
        topicNamesOutcome allocs topicName.cStr typeName.cStr
          "failed to query size of reader topic names" "failed to generate reader topic names" :=
  ⟨@cppComputeTopicNames_eq allocs topicName typeName fits .publisher rfl _ _,
    @cppComputeTopicNames_eq allocs topicName typeName fits .subscription rfl _ _⟩

end

/-- An allocation that holds zeros, and one that is refused. -/
def halfAllocs : TopicAllocs where
  topicName length := some (List.replicate (length + 1) 0)
  typeName _ := none

theorem cpp_topic_names_outcome_refused :
    cppComputePublisherTopicNames halfAllocs (.ofCString serviceNameS) (.ofCString typeNameAB) =
        none ∧
      cppComputeSubscriptionTopicNames halfAllocs (.ofCString serviceNameS)
        (.ofCString typeNameAB) = none := by
  have fits : halfAllocs.Fits := by
    refine ⟨fun length buffer held => ?_, fun length buffer held => nomatch held⟩
    cases held
    exact List.length_replicate
  have outcome := cpp_topic_names_outcome fits (.ofCString serviceNameS) (.ofCString typeNameAB)
  exact ⟨outcome.1.trans (by decide +kernel), outcome.2.trans (by decide +kernel)⟩

end Ros2Graph
