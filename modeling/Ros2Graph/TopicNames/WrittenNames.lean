import Mathlib.Data.List.GetD
import Mathlib.Data.Option.Basic
import Ros2Graph.TopicNames.MakeNames

/-! What the name functions leave in the buffers of the caller. -/

set_option autoImplicit false

namespace Ros2Graph

open Foundation

namespace CString

theorem eq_of_chars {first second : CString} (same : first.chars = second.chars) :
    first = second := by
  cases first
  cases second
  cases same
  rfl

@[simp] theorem byteAt_strlen (string : CString) : string.byteAt string.strlen = 0 := by
  simp [byteAt, strlen]

theorem length_bytes (string : CString) : string.bytes.length = string.strlen + 1 := by
  simp [bytes, strlen]

theorem getLast_bytes (string : CString) : string.bytes.getLast? = some 0 := by
  simp [bytes]

theorem byteAt_append {string : CString} {front rest : List UInt8}
    (spelled : string.chars = front ++ rest) (index : Nat) :
    string.byteAt (front.length + index) = rest.getD index 0 := by
  unfold byteAt
  rw [spelled, List.getD_append_right _ _ _ _ (Nat.le_add_right _ _), Nat.add_sub_cancel_left]

/-- A buffer begins with one string at most. -/
theorem bytes_prefix_unique {first second : CString} {buffer : List UInt8}
    (firstLeft : first.bytes <+: buffer) (secondLeft : second.bytes <+: buffer) :
    first = second := by
  have textOf : ∀ {string : CString}, string.bytes <+: buffer →
      buffer.takeWhile (· != 0) = string.chars := by
    rintro ⟨chars, noNul⟩ ⟨rest, rfl⟩
    rw [bytes, List.append_assoc, takeWhile_text_append noNul]
    simp
  exact eq_of_chars ((textOf firstLeft).symm.trans (textOf secondLeft))

end CString

/-! ## The stem of a type name -/

theorem getElem?_of_getD_eq {bytes : List UInt8} {byte : UInt8} {index : Nat} (proper : byte ≠ 0)
    (read : bytes.getD index 0 = byte) : bytes[index]? = some byte := by
  rw [List.getD_eq_getElem?_getD] at read
  cases held : bytes[index]? with
  | none =>
      rw [held] at read
      exact absurd read.symm proper
  | some value =>
      rw [held] at read
      exact congrArg some read

theorem mem_of_getD_eq {bytes : List UInt8} {byte : UInt8} {index : Nat} (proper : byte ≠ 0)
    (read : bytes.getD index 0 = byte) : byte ∈ bytes :=
  List.mem_of_getElem? (getElem?_of_getD_eq proper read)

/-- The walk stops at the second of two colons. -/
theorem typeStemLen_colons {typeName : CString} {stemLen : Nat}
    (valid : typeStemLen typeName = some stemLen) :
    scanBack (fun index => typeName.byteAt index == colon) typeName.strlen = stemLen + 1 ∧
      typeName.byteAt stemLen = colon ∧ typeName.byteAt (stemLen + 1) = colon := by
  unfold typeStemLen at valid
  generalize scanBack _ typeName.strlen = stem at valid ⊢
  obtain ⟨accepted, position⟩ := Option.ite_none_left_eq_some.mp valid
  simp only [Bool.or_eq_true, bne_iff_ne, ne_eq, beq_iff_eq, not_or, not_not] at accepted
  obtain ⟨⟨last, notFirst⟩, before⟩ := accepted
  have found : stem = stemLen + 1 := by
    have shorter : stem - 1 = stemLen := Option.some.inj position
    omega
  rw [found] at last before
  exact ⟨found, before, last⟩

/-- The stem is followed by its two colons. -/
theorem typeStemLen_bound {typeName : CString} {stemLen : Nat}
    (valid : typeStemLen typeName = some stemLen) : stemLen + 2 ≤ typeName.strlen := by
  obtain ⟨found, _, last⟩ := typeStemLen_colons valid
  have inside := scanBack_le (fun index => typeName.byteAt index == colon) typeName.strlen
  have notEnd : stemLen + 1 ≠ typeName.strlen := by
    intro atEnd
    rw [atEnd, CString.byteAt_strlen] at last
    exact absurd last (by decide)
  omega

/-- With no colon after the last "::", the stem ends before it. -/
theorem typeStemLen_eq {typeName : CString} {ns base : List UInt8}
    (spelled : typeName.chars = ns ++ (doubleColon ++ base)) (flat : colon ∉ base) :
    typeStemLen typeName = some ns.length := by
  have read := CString.byteAt_append spelled
  have length : typeName.strlen = ns.length + 2 + base.length := by
    simp only [CString.strlen, spelled, doubleColon, List.length_append, List.length_cons,
      List.length_nil]
    omega
  have found : scanBack (fun index => typeName.byteAt index == colon) typeName.strlen =
      ns.length + 1 := by
    refine scanBack_eq (by omega) (by rw [read 1]; rfl) ?_
    intro index after before
    have offset : index = ns.length + (index - ns.length - 2 + 2) := by omega
    rw [beq_eq_false_iff_ne, offset, read]
    exact fun atColon => flat (mem_of_getD_eq (by decide) atColon)
  have second : typeName.byteAt (ns.length + 1) = colon := read 1
  have first : typeName.byteAt ns.length = colon := read 0
  unfold typeStemLen
  rw [found]
  simp [first, second]

/-! ## The two halves -/

/-- A topic name is written with its terminator, in the bytes that it was sized for. -/
theorem writeTopicName_terminated (ros2TopicName topicPrefix : CString) {out : NameOut}
    {buffer : List UInt8} (held : out.buffer = some buffer) (room : out.len ≤ buffer.length)
    (enough : topicNameLen ros2TopicName topicPrefix + 1 ≤ out.len) :
    ∃ written, writeTopicName ros2TopicName topicPrefix out =
        some (.ok, ⟨some written, topicNameLen ros2TopicName topicPrefix + 1⟩) ∧
      Filled buffer (topicPrefix.chars ++ ros2TopicName.bytes) written := by
  have size : (topicPrefix.chars ++ ros2TopicName.bytes).length =
      topicNameLen ros2TopicName topicPrefix + 1 := by
    rw [List.length_append, CString.length_bytes]
    rfl
  have whole : (topicPrefix.chars ++ ros2TopicName.bytes).length ≤ buffer.length := by
    omega
  have front : topicPrefix.chars.length ≤ buffer.length := by
    rw [List.length_append] at whole
    omega
  obtain ⟨prefixed, prefixFilled⟩ : ∃ prefixed, Filled buffer topicPrefix.chars prefixed := ⟨_, rfl⟩
  obtain ⟨written, filled⟩ :
      ∃ written, Filled buffer (topicPrefix.chars ++ ros2TopicName.bytes) written := ⟨_, rfl⟩
  have copyPrefix : memcpy buffer 0 topicPrefix.chars = some prefixed :=
    ((Filled.start buffer).memcpy_iff (Nat.zero_le _) rfl).mpr ⟨front, prefixFilled⟩
  have copyTopic : memcpy prefixed topicPrefix.strlen ros2TopicName.bytes = some written :=
    (prefixFilled.memcpy_iff front rfl).mpr ⟨whole, filled⟩
  refine ⟨written, ?_, filled⟩
  unfold writeTopicName
  rw [held]
  simp only [Nat.not_lt.mpr enough, ↓reduceIte, copyPrefix, copyTopic, bind, pure,
    Option.bind_some]

/-- A topic name that is written takes the place of the front of the buffer. -/
theorem writeTopicName_ok {ros2TopicName topicPrefix : CString} {out : NameOut}
    {written : List UInt8} {len : Nat}
    (returned : writeTopicName ros2TopicName topicPrefix out = some (.ok, ⟨some written, len⟩)) :
    ∃ buffer, out.buffer = some buffer ∧
      Filled buffer (topicPrefix.chars ++ ros2TopicName.bytes) written := by
  unfold writeTopicName at returned
  cases held : out.buffer with
  | none => simp [held] at returned
  | some buffer =>
      simp only [held] at returned
      split at returned
      · cases returned
      · simp only [bind, pure, Option.bind_eq_some_iff] at returned
        obtain ⟨prefixed, copyPrefix, topic, copyTopic, result⟩ := returned
        cases result
        have ⟨front, prefixFilled⟩ :=
          ((Filled.start buffer).memcpy_iff (Nat.zero_le _) rfl).mp copyPrefix
        have ⟨_, filled⟩ := (prefixFilled.memcpy_iff front rfl).mp copyTopic
        exact ⟨buffer, rfl, filled⟩

/-- A buffer stays one. -/
theorem writeTopicName_buffer {ros2TopicName topicPrefix : CString} {out done : NameOut}
    {buffer : List UInt8} (held : out.buffer = some buffer)
    (returned : writeTopicName ros2TopicName topicPrefix out = some (.ok, done)) :
    ∃ written len, done = ⟨some written, len⟩ := by
  unfold writeTopicName at returned
  simp only [held] at returned
  split at returned
  · cases returned
  · simp only [bind, pure, Option.bind_eq_some_iff] at returned
    obtain ⟨_, _, written, _, result⟩ := returned
    cases result
    exact ⟨written, _, rfl⟩

/-- What is written of a type name, which ends without a terminator. -/
def typeNameWritten (typeName typeSuffix : CString) (stemLen : Nat) : List UInt8 :=
  typeName.chars.take stemLen ++ typeNamespace.chars ++ doubleColon ++ typeSuffix.chars

theorem length_typeNameWritten (typeName typeSuffix : CString) (stemLen : Nat) :
    (typeNameWritten typeName typeSuffix stemLen).length < typeNameLen typeName typeSuffix + 1 := by
  simp only [typeNameWritten, typeNameLen, CString.strlen, doubleColon, List.length_append,
    List.length_take, List.length_cons, List.length_nil]
  omega

/-- A type name is written over the front of its buffer, and ends with what is behind it. -/
theorem writeTypeName_written {typeName typeSuffix : CString} {out : NameOut}
    {buffer : List UInt8} {stemLen : Nat} (valid : typeStemLen typeName = some stemLen)
    (held : out.buffer = some buffer) (room : out.len ≤ buffer.length)
    (enough : typeNameLen typeName typeSuffix + 1 ≤ out.len) :
    ∃ written, writeTypeName typeName typeSuffix out =
        some (.ok, ⟨some written, typeNameLen typeName typeSuffix + 1⟩) ∧
      Filled buffer (typeNameWritten typeName typeSuffix stemLen) written := by
  have stem : (typeName.chars.take stemLen).length = stemLen :=
    List.length_take_of_le (Nat.le_of_add_right_le (typeStemLen_bound valid))
  have short := length_typeNameWritten typeName typeSuffix stemLen
  simp only [typeNameWritten, List.length_append] at short
  obtain ⟨stemmed, stemFilled⟩ : ∃ current, Filled buffer (typeName.chars.take stemLen) current :=
    ⟨_, rfl⟩
  obtain ⟨spaced, spaceFilled⟩ : ∃ current,
      Filled buffer (typeName.chars.take stemLen ++ typeNamespace.chars) current := ⟨_, rfl⟩
  obtain ⟨separated, colonsFilled⟩ : ∃ current, Filled buffer
      (typeName.chars.take stemLen ++ typeNamespace.chars ++ doubleColon) current := ⟨_, rfl⟩
  obtain ⟨written, filled⟩ : ∃ current,
      Filled buffer (typeNameWritten typeName typeSuffix stemLen) current := ⟨_, rfl⟩
  have copyStem : memcpy buffer 0 (typeName.chars.take stemLen) = some stemmed :=
    ((Filled.start buffer).memcpy_iff (Nat.zero_le _) rfl).mpr
      ⟨by simp only [List.nil_append]; omega, stemFilled⟩
  have copySpace : memcpy stemmed stemLen typeNamespace.chars = some spaced :=
    (stemFilled.memcpy_iff (by omega) stem.symm).mpr
      ⟨by simp only [List.length_append]; omega, spaceFilled⟩
  have copyColons : memcpy spaced (stemLen + typeNamespace.strlen) doubleColon =
      some separated :=
    (spaceFilled.memcpy_iff (by simp only [List.length_append]; omega)
      (by simp [stem, CString.strlen])).mpr ⟨by simp only [List.length_append]; omega, colonsFilled⟩
  have copySuffix : memcpy separated (stemLen + typeNamespace.strlen + 2) typeSuffix.chars =
      some written :=
    (colonsFilled.memcpy_iff (by simp only [List.length_append]; omega)
      (by simp [stem, CString.strlen, doubleColon, Nat.add_assoc])).mpr
      ⟨by simp only [List.length_append]; omega, filled⟩
  refine ⟨written, ?_, filled⟩
  simp only [writeTypeName, held, Nat.not_lt.mpr enough, if_false, valid, copyStem, copySpace,
    copyColons, copySuffix, bind, pure, Option.bind_some]

/-- A type name that is written takes the place of the front of the buffer. -/
theorem writeTypeName_ok {typeName typeSuffix : CString} {out : NameOut} {written : List UInt8}
    {len : Nat}
    (returned : writeTypeName typeName typeSuffix out = some (.ok, ⟨some written, len⟩)) :
    ∃ stemLen buffer, typeStemLen typeName = some stemLen ∧ out.buffer = some buffer ∧
      typeNameLen typeName typeSuffix + 1 ≤ out.len ∧
      Filled buffer (typeNameWritten typeName typeSuffix stemLen) written := by
  unfold writeTypeName at returned
  cases held : out.buffer with
  | none => simp [held] at returned
  | some buffer =>
      simp only [held] at returned
      split at returned
      · cases returned
      · next enough =>
        cases valid : typeStemLen typeName with
        | none => simp [valid] at returned
        | some stemLen =>
            simp only [valid, bind, pure, Option.bind_eq_some_iff] at returned
            obtain ⟨stemmed, copyStem, spaced, copySpace, separated, copyColons, suffixed,
              copySuffix, result⟩ := returned
            cases result
            have stem : (typeName.chars.take stemLen).length = stemLen :=
              List.length_take_of_le (Nat.le_of_add_right_le (typeStemLen_bound valid))
            have ⟨stemRoom, stemFilled⟩ :=
              ((Filled.start buffer).memcpy_iff (Nat.zero_le _) rfl).mp copyStem
            have ⟨spaceRoom, spaceFilled⟩ :=
              (stemFilled.memcpy_iff stemRoom (by simp [stem])).mp copySpace
            have ⟨colonsRoom, colonsFilled⟩ :=
              (spaceFilled.memcpy_iff spaceRoom (by simp [stem, CString.strlen])).mp copyColons
            have ⟨_, suffixFilled⟩ :=
              (colonsFilled.memcpy_iff colonsRoom
                (by simp [stem, CString.strlen, doubleColon, Nat.add_assoc])).mp copySuffix
            exact ⟨stemLen, buffer, rfl, rfl, Nat.le_of_not_lt enough, suffixFilled⟩

theorem writeTypeName_buffer {typeName typeSuffix : CString} {out done : NameOut}
    {buffer : List UInt8} (held : out.buffer = some buffer)
    (returned : writeTypeName typeName typeSuffix out = some (.ok, done)) :
    ∃ written len, done = ⟨some written, len⟩ := by
  unfold writeTypeName at returned
  simp only [held] at returned
  split at returned
  · cases returned
  · split at returned
    · cases returned
    · simp only [bind, pure, Option.bind_eq_some_iff] at returned
      obtain ⟨_, _, _, _, _, _, written, _, result⟩ := returned
      cases result
      exact ⟨written, _, rfl⟩

/-! ## The functions of writers and readers -/

theorem makeDdsTopicAndTypeNames_ok {ros2TopicName ros2TypeName topicPrefix typeSuffix : CString}
    {topicOut typeOut topicDone typeDone : NameOut}
    (returned : makeDdsTopicAndTypeNames ros2TopicName ros2TypeName topicOut typeOut topicPrefix
      typeSuffix = some (.ok, topicDone, typeDone)) :
    writeTopicName ros2TopicName topicPrefix topicOut = some (.ok, topicDone) ∧
      writeTypeName ros2TypeName typeSuffix typeOut = some (.ok, typeDone) := by
  unfold makeDdsTopicAndTypeNames at returned
  split at returned
  · cases returned
  · next topicReturned =>
    obtain ⟨⟨retcode, typeLeft⟩, typeReturned, result⟩ := Option.map_eq_some_iff.mp returned
    cases result
    exact ⟨topicReturned, typeReturned⟩
  · next notOk topicReturned =>
    cases returned
    exact absurd rfl notOk

theorem computeDdsWriterTopicNames_ok {topicName typeName : CString} {kind : EndpointType}
    {topicOut typeOut topicDone typeDone : NameOut}
    (returned : computeDdsWriterTopicNames (some topicName) (some typeName) kind topicOut typeOut =
      some (.ok, topicDone, typeDone)) :
    ∃ parts, NameParts.ofWriter kind = some parts ∧ topicName.strlen ≠ 0 ∧ typeName.strlen ≠ 0 ∧
      makeDdsTopicAndTypeNames topicName typeName topicOut typeOut parts.topicPrefix
        parts.typeSuffix = some (.ok, topicDone, typeDone) := by
  simp only [computeDdsWriterTopicNames] at returned
  split at returned
  · cases returned
  · next named =>
    simp only [Bool.or_eq_true, beq_iff_eq, not_or] at named
    cases chosen : NameParts.ofWriter kind with
    | none => simp [chosen] at returned
    | some parts =>
        simp only [chosen] at returned
        exact ⟨parts, rfl, named.1, named.2, returned⟩

theorem computeDdsReaderTopicNames_ok {topicName typeName : CString} {kind : EndpointType}
    {topicOut typeOut topicDone typeDone : NameOut}
    (returned : computeDdsReaderTopicNames (some topicName) (some typeName) kind topicOut typeOut =
      some (.ok, topicDone, typeDone)) :
    ∃ parts, NameParts.ofReader kind = some parts ∧
      makeDdsTopicAndTypeNames topicName typeName topicOut typeOut parts.topicPrefix
        parts.typeSuffix = some (.ok, topicDone, typeDone) := by
  unfold computeDdsReaderTopicNames at returned
  cases chosen : NameParts.ofReader kind with
  | none => simp [chosen] at returned
  | some parts =>
      simp only [chosen] at returned
      exact ⟨parts, rfl, returned⟩

end Ros2Graph
