import Ros2Graph.TopicNames.EncoderBounds

/-! Which type names are accepted. The scan stops at the last colon or at the start of
the name, and the name is valid just when it has a base without colons behind "::". -/

set_option autoImplicit false

namespace Ros2Graph

open Foundation

/-- A type name by its namespace and its base, either of which may be empty. -/
structure QualifiedName (typeName : CString) (ns base : List UInt8) : Prop where
  spelled : typeName.chars = ns ++ (doubleColon ++ base)
  flat : colon ∉ base

namespace QualifiedName

variable {typeName : CString} {ns base : List UInt8}

theorem typeStemLen_eq (qualified : QualifiedName typeName ns base) :
    typeStemLen typeName = some ns.length :=
  Ros2Graph.typeStemLen_eq qualified.spelled qualified.flat

theorem unique {otherNs otherBase : List UInt8} (qualified : QualifiedName typeName ns base)
    (other : QualifiedName typeName otherNs otherBase) : ns = otherNs ∧ base = otherBase := by
  have length : ns.length = otherNs.length :=
    Option.some.inj (qualified.typeStemLen_eq.symm.trans other.typeStemLen_eq)
  obtain ⟨sameNs, sameRest⟩ := List.append_inj (qualified.spelled.symm.trans other.spelled) length
  exact ⟨sameNs, List.append_cancel_left sameRest⟩

/-- What is accepted is cut at the two colons where the scan stops. -/
theorem of_typeStemLen {stemLen : Nat} (valid : typeStemLen typeName = some stemLen) :
    QualifiedName typeName (typeName.chars.take stemLen) (typeName.chars.drop (stemLen + 2)) := by
  obtain ⟨found, before, last⟩ := typeStemLen_colons valid
  have proper : colon ≠ 0 := by decide
  obtain ⟨firstInside, first⟩ := List.getElem?_eq_some_iff.mp (getElem?_of_getD_eq proper before)
  obtain ⟨secondInside, second⟩ := List.getElem?_eq_some_iff.mp (getElem?_of_getD_eq proper last)
  constructor
  · have rest : typeName.chars.drop stemLen = doubleColon ++ typeName.chars.drop (stemLen + 2) := by
      rw [List.drop_eq_getElem_cons firstInside, first, List.drop_eq_getElem_cons secondInside,
        second]
      rfl
    rw [← rest, List.take_append_drop]
  · intro member
    obtain ⟨offset, inside, atColon⟩ := List.mem_iff_getElem.mp member
    rw [List.length_drop] at inside
    have passed := @scanBack_passed (fun index => typeName.byteAt index == colon) typeName.strlen
      (stemLen + 2 + offset) (by omega) (by unfold CString.strlen; omega)
    rw [List.getElem_drop] at atColon
    simp only [CString.byteAt, beq_eq_false_iff_ne] at passed
    exact passed (by rw [List.getD_eq_getElem _ _ (by omega), atColon])

end QualifiedName

theorem typeStemLen_eq_some_iff {typeName : CString} {stemLen : Nat} :
    typeStemLen typeName = some stemLen ↔
      ∃ ns base, QualifiedName typeName ns base ∧ ns.length = stemLen := by
  constructor
  · intro valid
    refine ⟨_, _, .of_typeStemLen valid, ?_⟩
    exact List.length_take_of_le (Nat.le_of_add_right_le (typeStemLen_bound valid))
  · intro ⟨ns, base, qualified, length⟩
    rw [← length]
    exact qualified.typeStemLen_eq

theorem typeStemLen_eq_none_iff {typeName : CString} :
    typeStemLen typeName = none ↔ ¬ ∃ ns base, QualifiedName typeName ns base := by
  constructor
  · intro invalid
    rintro ⟨ns, base, qualified⟩
    rw [qualified.typeStemLen_eq] at invalid
    cases invalid
  · intro unqualified
    cases valid : typeStemLen typeName with
    | none => rfl
    | some stemLen => exact absurd ⟨_, _, QualifiedName.of_typeStemLen valid⟩ unqualified

/-! ## The calls with room for both names -/

namespace Raw

/-- `type_stem_len` as the scan and the check behind it leave it. `none` when the scan
has not ended or the name is invalid. -/
def scannedStemLen (fuel : Nat) (typeName : CString) : Option Nat :=
  let found : Logged (MemoryAccess TopicPlace) (Option Int) :=
    scanTypeStem typeName fuel typeName.strlen
  found.value.bind fun typeStem =>
    let checked : Logged (MemoryAccess TopicPlace) (Option Nat) := checkTypeStem typeName typeStem
    checked.value

theorem scannedStemLen_eq {fuel : Nat} {typeName : CString} (ends : typeName.strlen < fuel) :
    scannedStemLen fuel typeName = typeStemLen typeName := by
  unfold scannedStemLen
  simp only [scanTypeStem_ends ends, Option.bind_some]
  exact checkTypeStem_scanned

/-- The outcome of a call, by whether its type name is qualified. -/
structure DecidesTypeName (fuel : Nat) (typeName typeSuffix : CString) (typeOut : Out)
    (run : Logged (MemoryAccess TopicPlace) (Option (ReturnCode × Out × Out))) : Prop where
  accepted_iff : (∃ done, run.value = some (.ok, done)) ↔ ∃ ns base, QualifiedName typeName ns base
  stem : ∀ ns base, QualifiedName typeName ns base → scannedStemLen fuel typeName = some ns.length
  unique : ∀ ns base otherNs otherBase, QualifiedName typeName ns base →
    QualifiedName typeName otherNs otherBase → ns = otherNs ∧ base = otherBase
  written : ∀ ns base, QualifiedName typeName ns base → ∃ topicDone region,
    run.value =
        some (.ok, topicDone, ⟨some region, typeNameLen typeName typeSuffix + 1⟩) ∧
      ns ++ typeNamespace.chars ++ doubleColon ++ typeSuffix.chars <+: region.upTo typeOut.len
  refused : (¬ ∃ ns base, QualifiedName typeName ns base) →
    (∃ topicDone, run.value = some (.badParameter, topicDone, typeOut)) ∧
      ∀ index : Int, .write .ddsTypeName index ∉ run.accesses

section Outcomes

variable {Place : Type} {place : Place} {fuel : Nat} {topicName typeName : CString}
  {typeSuffix topicPrefix : CString}

theorem writeTopicName_roomy {out : Out}
    (room : ¬ out.TooSmall (topicNameLen topicName topicPrefix + 1)) :
    ∃ done, (writeTopicName place topicName topicPrefix out).value = (.ok, done) := by
  unfold writeTopicName
  cases held : out.buffer with
  | none => exact ⟨_, rfl⟩
  | some region =>
      dsimp only
      split
      · next short => exact absurd ⟨by simp [held], short⟩ room
      · exact ⟨_, rfl⟩

variable {region : Region} {len : Nat}

theorem writeTypeName_invalid (ends : typeName.strlen < fuel)
    (room : typeNameLen typeName typeSuffix + 1 ≤ len) (invalid : typeStemLen typeName = none) :
    (writeTypeName fuel place typeName typeSuffix ⟨some region, len⟩).value =
      some (.badParameter, ⟨some region, len⟩) := by
  rw [writeTypeName_value ends room, invalid]

theorem writeTypeName_valid (ends : typeName.strlen < fuel)
    (room : typeNameLen typeName typeSuffix + 1 ≤ len) {stemLen : Nat}
    (valid : typeStemLen typeName = some stemLen) :
    ∃ written : Region, (writeTypeName fuel place typeName typeSuffix ⟨some region, len⟩).value =
        some (.ok, ⟨some written, typeNameLen typeName typeSuffix + 1⟩) ∧
      typeNameWritten typeName typeSuffix stemLen <+: written.upTo len := by
  have returned : (writeTypeName fuel place typeName typeSuffix ⟨some region, len⟩).value =
      some (.ok, ⟨some (copyTypeName place typeName typeSuffix stemLen region).value,
        typeNameLen typeName typeSuffix + 1⟩) := by
    rw [writeTypeName_value ends room, valid]
  refine ⟨_, returned, ?_⟩
  obtain ⟨_, value, onBuffer⟩ := @writeTypeName_upTo Place typeName typeSuffix ⟨some region, len⟩
    place fuel len ends (Nat.le_refl _)
  rw [returned] at value
  cases value
  obtain ⟨otherLen, _, stem, _, _, filled⟩ := writeTypeName_ok onBuffer
  rw [valid] at stem
  cases stem
  exact filled.prefix_current

variable {topicOut typeOut : Out} {parts : NameParts}

/-- The type name decides, once the topic name has its room. -/
theorem makeDdsTopicAndTypeNames_value {topicPlace typePlace : Place}
    {written : ReturnCode × Out}
    (topicRoom : ¬ topicOut.TooSmall (topicNameLen topicName parts.topicPrefix + 1))
    (type : (writeTypeName fuel typePlace typeName parts.typeSuffix typeOut).value = some written) :
    ∃ topicDone, (makeDdsTopicAndTypeNames fuel topicPlace typePlace topicName typeName topicOut
      typeOut parts.topicPrefix parts.typeSuffix).value = some (written.1, topicDone, written.2) := by
  obtain ⟨topicDone, topic⟩ := @writeTopicName_roomy Place topicPlace topicName parts.topicPrefix
    topicOut topicRoom
  refine ⟨topicDone, ?_⟩
  unfold makeDdsTopicAndTypeNames
  simp only [Logged.value_bind, topic, type]
  rfl

/-- Of a topic with an invalid type name the topic name is all that is written. -/
theorem makeDdsTopicAndTypeNames_invalid (invalid : typeStemLen typeName = none) (index : Int) :
    .write .ddsTypeName index ∉ (makeDdsTopicAndTypeNames fuel TopicPlace.ddsTopicName
      TopicPlace.ddsTypeName topicName typeName topicOut typeOut parts.topicPrefix
      parts.typeSuffix).accesses := by
  have confined : (makeDdsTopicAndTypeNames fuel TopicPlace.ddsTopicName TopicPlace.ddsTypeName
      topicName typeName topicOut typeOut parts.topicPrefix parts.typeSuffix).Only
      (Confined typeName fun place _ => place = .ddsTopicName) := by
    unfold makeDdsTopicAndTypeNames
    refine .bind (writeTopicName_confined fun _ _ => rfl) ?_
    split
    · refine .bind (writeTypeName_confined fuel ?_) (.pure _)
      intro valid
      rw [invalid] at valid
      cases valid
    · exact .pure _
  intro member
  exact absurd (confined _ member) (by simp [Confined])

end Outcomes

theorem type_name_accepted_iff (parts : NameParts) (fuel : Nat) (topicName typeName : CString)
    (topicOut typeOut : Out) (ends : typeName.strlen < fuel)
    (topicRoom : ¬ topicOut.TooSmall (topicNameLen topicName parts.topicPrefix + 1))
    (typeHeld : typeOut.buffer.isSome = true)
    (typeRoom : typeNameLen typeName parts.typeSuffix + 1 ≤ typeOut.len) :
    DecidesTypeName fuel typeName parts.typeSuffix typeOut
      (makeDdsTopicAndTypeNames fuel .ddsTopicName .ddsTypeName topicName typeName topicOut typeOut
        parts.topicPrefix parts.typeSuffix) := by
  obtain ⟨buffer, len⟩ := typeOut
  obtain ⟨region, rfl⟩ := Option.isSome_iff_exists.mp typeHeld
  replace typeRoom : typeNameLen typeName parts.typeSuffix + 1 ≤ len := typeRoom
  have accepts : ∀ ns base, QualifiedName typeName ns base → ∃ topicDone written,
      (makeDdsTopicAndTypeNames fuel TopicPlace.ddsTopicName .ddsTypeName topicName typeName
          topicOut ⟨some region, len⟩ parts.topicPrefix parts.typeSuffix).value =
        some (.ok, topicDone, ⟨some written, typeNameLen typeName parts.typeSuffix + 1⟩) ∧
      typeNameWritten typeName parts.typeSuffix ns.length <+: written.upTo len := by
    intro ns base qualified
    obtain ⟨written, type, front⟩ := @writeTypeName_valid TopicPlace .ddsTypeName fuel typeName
      parts.typeSuffix region len ends typeRoom _ qualified.typeStemLen_eq
    obtain ⟨topicDone, returned⟩ := makeDdsTopicAndTypeNames_value topicRoom type
    exact ⟨topicDone, written, returned, front⟩
  have refuses : (¬ ∃ ns base, QualifiedName typeName ns base) → ∃ topicDone,
      (makeDdsTopicAndTypeNames fuel TopicPlace.ddsTopicName .ddsTypeName topicName typeName
          topicOut ⟨some region, len⟩ parts.topicPrefix parts.typeSuffix).value =
        some (.badParameter, topicDone, ⟨some region, len⟩) := by
    intro unqualified
    have type := @writeTypeName_invalid TopicPlace .ddsTypeName fuel typeName parts.typeSuffix
      region len ends typeRoom (typeStemLen_eq_none_iff.mpr unqualified)
    exact makeDdsTopicAndTypeNames_value topicRoom type
  constructor
  · constructor
    · intro ⟨done, returned⟩
      by_contra unqualified
      obtain ⟨topicDone, refused⟩ := refuses unqualified
      rw [refused] at returned
      cases returned
    · intro ⟨ns, base, qualified⟩
      obtain ⟨topicDone, written, returned, _⟩ := accepts ns base qualified
      exact ⟨_, returned⟩
  · intro ns base qualified
    rw [scannedStemLen_eq ends]
    exact qualified.typeStemLen_eq
  · intro ns base otherNs otherBase qualified other
    exact qualified.unique other
  · intro ns base qualified
    obtain ⟨topicDone, written, returned, front⟩ := accepts ns base qualified
    refine ⟨topicDone, written, returned, ?_⟩
    rwa [typeNameWritten, qualified.spelled, List.take_left] at front
  · intro unqualified
    exact ⟨refuses unqualified,
      makeDdsTopicAndTypeNames_invalid (typeStemLen_eq_none_iff.mpr unqualified)⟩

/-- Of three colons the last two are the separator. -/
theorem type_name_accepted_iff_three_colons :
    DecidesTypeName 6 (.ofChars ['a', ':', ':', ':', 'b']) typeSuffixDefault
      ⟨some fun _ => 1, 13⟩
      (makeDdsTopicAndTypeNames 6 .ddsTopicName .ddsTypeName firstName
        (.ofChars ['a', ':', ':', ':', 'b']) ⟨none, 0⟩ ⟨some fun _ => 1, 13⟩ topicPrefixDefault
        typeSuffixDefault) ∧
      scannedStemLen 6 (.ofChars ['a', ':', ':', ':', 'b']) = some 2 :=
  ⟨type_name_accepted_iff .topic 6 firstName _ ⟨none, 0⟩ ⟨some fun _ => 1, 13⟩ (by decide)
      (fun small => absurd small.1 (by decide)) rfl (by decide),
    by decide⟩

end Raw

end Ros2Graph
