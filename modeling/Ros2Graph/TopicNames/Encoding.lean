import Ros2Graph.Creation.CGraph
import Ros2Graph.TopicNames.WrittenNames

/-! The name of a DDS type has its namespace between the namespace and the base of
the ROS 2 type. The name functions return success without leaving that name. -/

set_option autoImplicit false

namespace Ros2Graph

/-- The name of a ROS 2 type, whose namespace may hold "::" itself. -/
structure ScopedTypeName where
  ns : CString
  base : CString
  nsNonempty : ns.strlen ≠ 0
  baseNonempty : base.strlen ≠ 0
  baseFlat : colon ∉ base.chars

namespace ScopedTypeName

variable (name : ScopedTypeName)

def ros2 : CString where
  chars := name.ns.chars ++ (doubleColon ++ name.base.chars)
  noNul := by
    simp only [List.mem_append, not_or]
    exact ⟨name.ns.noNul, by decide, name.base.noNul⟩

/-- `RTIROS2_GRAPH_TYPE_NAME` is of this form. -/
def dds (typeSuffix : CString) : CString where
  chars := name.ns.chars ++
    (doubleColon ++ typeNamespace.chars ++ doubleColon ++ name.base.chars ++ typeSuffix.chars)
  noNul := by
    simp only [List.mem_append, not_or]
    exact ⟨name.ns.noNul, ⟨⟨⟨by decide, by decide⟩, by decide⟩, name.base.noNul⟩, typeSuffix.noNul⟩

/-- The type of the graph's own topic. -/
example : (⟨.ofChars ['r', 'm', 'w', '_', 'd', 'd', 's', '_', 'c', 'o', 'm', 'm', 'o', 'n', ':',
    ':', 'm', 's', 'g'], .ofChars ['P', 'a', 'r', 't', 'i', 'c', 'i', 'p', 'a', 'n', 't', 'E', 'n',
    't', 'i', 't', 'i', 'e', 's', 'I', 'n', 'f', 'o'], by decide, by decide, by decide⟩ :
    ScopedTypeName).dds typeSuffixDefault = graphTypeName := rfl

/-- Nothing is written between the stem and the namespace of DDS. -/
theorem writeTypeName_ros2 {typeSuffix : CString} {out : NameOut} {written : List UInt8} {len : Nat}
    (returned : writeTypeName name.ros2 typeSuffix out = some (.ok, ⟨some written, len⟩)) :
    name.ns.chars ++ typeNamespace.chars <+: written := by
  obtain ⟨stemLen, buffer, valid, -, -, filled⟩ := writeTypeName_ok returned
  rw [typeStemLen_eq rfl name.baseFlat] at valid
  cases valid
  refine List.IsPrefix.trans ?_ filled.prefix_current
  unfold typeNameWritten
  rw [show name.ros2.chars.take name.ns.chars.length = name.ns.chars from List.take_left,
    List.append_assoc _ doubleColon]
  exact List.prefix_append _ _

/-- A buffer does not begin with both names. -/
theorem not_dds_prefix {typeSuffix : CString} {written : List UInt8}
    (stemmed : name.ns.chars ++ typeNamespace.chars <+: written) :
    ¬ (name.dds typeSuffix).bytes <+: written := by
  intro encoded
  have begins : name.ns.chars ++ doubleColon <+: written := by
    refine List.IsPrefix.trans ?_ encoded
    simp only [CString.bytes, dds, List.append_assoc]
    exact (List.prefix_append_right_inj _).mpr (List.prefix_append _ _)
  have apart : name.ns.chars ++ doubleColon <+: name.ns.chars ++ typeNamespace.chars :=
    List.prefix_of_prefix_length_le begins stemmed
      (by simp [doubleColon, typeNamespace, CString.ofChars])
  exact absurd ((List.prefix_append_right_inj _).mp apart) (by decide)

end ScopedTypeName

/-- The call succeeds and leaves the text, which is one shorter than the size. -/
def LeavesTypeName (returned : Option (ReturnCode × NameOut × NameOut)) (text : CString) : Prop :=
  ∃ topicOut written len, returned = some (.ok, topicOut, ⟨some written, len⟩) ∧
    text.bytes <+: written ∧ text.strlen = len - 1

/-- Whatever the endpoint, its buffers and the suffix, the name of the DDS type is
never what a call leaves. -/
theorem type_name_never_left (name : ScopedTypeName) (topicName typeSuffix : CString)
    (kind : EndpointType) (topicOut typeOut : NameOut) :
    ¬ LeavesTypeName
        (computeDdsWriterTopicNames (some topicName) (some name.ros2) kind topicOut typeOut)
        (name.dds typeSuffix) ∧
      ¬ LeavesTypeName
        (computeDdsReaderTopicNames (some topicName) (some name.ros2) kind topicOut typeOut)
        (name.dds typeSuffix) := by
  constructor
  · intro left
    obtain ⟨topicDone, written, len, returned, encoded, -⟩ := left
    obtain ⟨parts, -, -, -, made⟩ := computeDdsWriterTopicNames_ok returned
    have stemmed := name.writeTypeName_ros2 (makeDdsTopicAndTypeNames_ok made).2
    exact name.not_dds_prefix stemmed encoded
  · intro left
    obtain ⟨topicDone, written, len, returned, encoded, -⟩ := left
    obtain ⟨parts, -, made⟩ := computeDdsReaderTopicNames_ok returned
    have stemmed := name.writeTypeName_ros2 (makeDdsTopicAndTypeNames_ok made).2
    exact name.not_dds_prefix stemmed encoded

/-- "a::b". -/
def shortTypeName : ScopedTypeName where
  ns := .ofChars ['a']
  base := .ofChars ['b']
  nsNonempty := by decide
  baseNonempty := by decide
  baseFlat := by decide

/-- The buffer of the type is left with "adds_::_". -/
theorem type_name_not_left_of_publisher :
    ¬ LeavesTypeName
      (computeDdsWriterTopicNames (some (.ofChars ['t'])) (some shortTypeName.ros2) .publisher
        ⟨some (List.replicate 5 0), 5⟩ ⟨some (List.replicate 12 0), 12⟩)
      (shortTypeName.dds typeSuffixDefault) := by
  have returned : computeDdsWriterTopicNames (some (.ofChars ['t'])) (some shortTypeName.ros2)
      .publisher ⟨some (List.replicate 5 0), 5⟩ ⟨some (List.replicate 12 0), 12⟩ =
      some (.ok, ⟨some [114, 116, 47, 116, 0], 5⟩,
        ⟨some [97, 100, 100, 115, 95, 58, 58, 95, 0, 0, 0, 0], 12⟩) := by
    decide
  intro left
  obtain ⟨topicDone, written, len, left, encoded, -⟩ := left
  rw [returned] at left
  cases left
  exact absurd encoded (by decide)

end Ros2Graph
