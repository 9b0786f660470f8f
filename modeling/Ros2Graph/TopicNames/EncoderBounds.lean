import Ros2Graph.TopicNames.Accesses

/-! What callers of the name functions rely on: nothing is written outside of the
buffers that they pass, and no read of the scan is outside of the type name. -/

set_option autoImplicit false

namespace Ros2Graph

open Foundation

namespace Raw

variable {Place : Type}

/-- The two outputs of a topic. -/
inductive TopicPlace where
  | ddsTopicName
  | ddsTypeName
  deriving DecidableEq, Repr

/-- The writes to an output are below the size that the caller gave. There are none
without a buffer, and none when the size is too small for the name. -/
structure KeepsInside {Value : Type} (run : Logged (MemoryAccess Place) Value) (place : Place)
    (out : Out) (size : Nat) : Prop where
  below : ∀ index : Int, .write place index ∈ run.accesses → 0 ≤ index ∧ index < out.len
  notNull : out.buffer = none → ∀ index : Int, .write place index ∉ run.accesses
  untouched : out.len < size → ∀ index : Int, .write place index ∉ run.accesses

theorem KeepsInside.of_permits {Value : Type} {run : Logged (MemoryAccess Place) Value}
    {place : Place} {out : Out} {size : Nat}
    (permitted : ∀ index : Int, .write place index ∈ run.accesses → out.Permits size index) :
    KeepsInside run place out size where
  below index member := by
    have ⟨_, room, inside⟩ := permitted index member
    omega
  notNull missing index member := by
    have present := (permitted index member).notNull
    rw [missing] at present
    cases present
  untouched small index member :=
    absurd small (Nat.not_lt.mpr (permitted index member).room)

def Out.TooSmall (out : Out) (size : Nat) : Prop := out.buffer.isSome = true ∧ out.len < size

/-- A call that encodes the names of a topic. An output that is reported too small is
one that is not written. -/
structure EncodesInside (fuel : Nat) (topicName typeName : CString) (topicOut typeOut : Out)
    (parts : NameParts)
    (run : Logged (MemoryAccess TopicPlace) (Option (ReturnCode × Out × Out))) : Prop where
  topic : KeepsInside run .ddsTopicName topicOut (topicNameLen topicName parts.topicPrefix + 1)
  type : KeepsInside run .ddsTypeName typeOut (typeNameLen typeName parts.typeSuffix + 1)
  scan : ∀ index : Int, .read index ∈ run.accesses → 0 ≤ index ∧ index ≤ typeName.strlen
  reported : ∀ done, run.value = some (.outOfResources, done) →
    topicOut.TooSmall (topicNameLen topicName parts.topicPrefix + 1) ∨
      typeOut.TooSmall (typeNameLen typeName parts.typeSuffix + 1)
  ends : typeName.strlen < fuel → run.value.isSome = true

/-- A call that encodes the names of the topics of a service. -/
structure EncodesServiceInside (fuel : Nat) (nodeName serviceName typeName : CString)
    (outs : ServiceOuts)
    (run : Logged (MemoryAccess ServicePlace) (Option (ReturnCode × ServiceOuts))) : Prop where
  joined : ∀ index : Int, .write .ros2TopicName index ∈ run.accesses →
    0 ≤ index ∧ index < (nodeName.strlen + 1 + serviceName.strlen + 1 : Nat)
  reqTopic : KeepsInside run .ddsReqTopicName outs.reqTopicName
    (topicNameLen (serviceTopicName nodeName serviceName) topicPrefixRequest + 1)
  reqType : KeepsInside run .ddsReqTypeName outs.reqTypeName
    (typeNameLen typeName typeSuffixRequest + 1)
  repTopic : KeepsInside run .ddsRepTopicName outs.repTopicName
    (topicNameLen (serviceTopicName nodeName serviceName) topicPrefixResponse + 1)
  repType : KeepsInside run .ddsRepTypeName outs.repTypeName
    (typeNameLen typeName typeSuffixResponse + 1)
  scan : ∀ index : Int, .read index ∈ run.accesses → 0 ≤ index ∧ index ≤ typeName.strlen
  ends : typeName.strlen < fuel → run.value.isSome = true

section Reports

variable {fuel : Nat} {topicName typeName : CString} {topicOut typeOut : Out} {place : Place}

theorem writeTopicName_reports {topicPrefix : CString}
    (reported : (writeTopicName place topicName topicPrefix topicOut).value.1 = .outOfResources) :
    topicOut.TooSmall (topicNameLen topicName topicPrefix + 1) := by
  unfold writeTopicName at reported
  cases held : topicOut.buffer with
  | none =>
      rw [held] at reported
      cases reported
  | some region =>
      rw [held] at reported
      dsimp only at reported
      split at reported
      · next short => exact ⟨by simp [held], short⟩
      · cases reported

theorem writeTypeName_reports {typeSuffix : CString} {done : Out}
    (reported : (writeTypeName fuel place typeName typeSuffix typeOut).value =
      some (.outOfResources, done)) : typeOut.TooSmall (typeNameLen typeName typeSuffix + 1) := by
  unfold writeTypeName at reported
  cases held : typeOut.buffer with
  | none =>
      rw [held] at reported
      cases reported
  | some region =>
      rw [held] at reported
      dsimp only at reported
      split at reported
      · next short => exact ⟨by simp [held], short⟩
      · simp only [Logged.value_bind] at reported
        split at reported
        · cases reported
        · simp only [Logged.value_bind] at reported
          split at reported
          · cases reported
          · cases reported

theorem makeDdsTopicAndTypeNames_reports {topicPlace typePlace : Place} {parts : NameParts}
    {done : Out × Out}
    (reported : (makeDdsTopicAndTypeNames fuel topicPlace typePlace topicName typeName topicOut
      typeOut parts.topicPrefix parts.typeSuffix).value = some (.outOfResources, done)) :
    topicOut.TooSmall (topicNameLen topicName parts.topicPrefix + 1) ∨
      typeOut.TooSmall (typeNameLen typeName parts.typeSuffix + 1) := by
  unfold makeDdsTopicAndTypeNames at reported
  simp only [Logged.value_bind] at reported
  split at reported
  · simp only [Logged.value_bind, Logged.value_pure, Option.map_eq_some_iff] at reported
    obtain ⟨written, typeValue, same⟩ := reported
    obtain ⟨retcode, typeDone⟩ := written
    cases same
    exact .inr (writeTypeName_reports typeValue)
  · next topicDone _ topicValue =>
    cases reported
    exact .inl (writeTopicName_reports (congrArg Prod.fst topicValue))

end Reports

/-- The functions that encode names, in all that they write and in the scan. -/
structure EncodersInside : Prop where
  make : ∀ fuel topicName typeName topicOut typeOut (parts : NameParts),
    EncodesInside fuel topicName typeName topicOut typeOut parts
      (makeDdsTopicAndTypeNames fuel .ddsTopicName .ddsTypeName topicName typeName topicOut typeOut
        parts.topicPrefix parts.typeSuffix)
  writer : ∀ fuel topicName typeName topicOut typeOut kind parts,
    NameParts.ofWriter kind = some parts →
      EncodesInside fuel topicName typeName topicOut typeOut parts
        (computeDdsWriterTopicNames fuel .ddsTopicName .ddsTypeName topicName typeName kind topicOut
          typeOut)
  reader : ∀ fuel topicName typeName topicOut typeOut kind parts,
    NameParts.ofReader kind = some parts →
      EncodesInside fuel topicName typeName topicOut typeOut parts
        (computeDdsReaderTopicNames fuel .ddsTopicName .ddsTypeName topicName typeName kind topicOut
          typeOut)
  service : ∀ stringAlloc fuel nodeName serviceName typeName outs,
    EncodesServiceInside fuel nodeName serviceName typeName outs
      (computeServiceTopicNames stringAlloc fuel nodeName serviceName typeName outs)

theorem makeDdsTopicAndTypeNames_inside (fuel : Nat) (topicName typeName : CString)
    (topicOut typeOut : Out) (parts : NameParts) :
    EncodesInside fuel topicName typeName topicOut typeOut parts
      (makeDdsTopicAndTypeNames fuel .ddsTopicName .ddsTypeName topicName typeName topicOut typeOut
        parts.topicPrefix parts.typeSuffix) := by
  have confined := @makeDdsTopicAndTypeNames_confined TopicPlace fuel topicName typeName topicOut
    typeOut
    (fun
      | .ddsTopicName => topicOut.Permits (topicNameLen topicName parts.topicPrefix + 1)
      | .ddsTypeName => typeOut.Permits (typeNameLen typeName parts.typeSuffix + 1))
    .ddsTopicName .ddsTypeName parts (fun _ permits => permits) (fun _ permits => permits)
  refine ⟨.of_permits fun index member => confined _ member,
    .of_permits fun index member => confined _ member, fun index member => confined _ member,
    fun done => makeDdsTopicAndTypeNames_reports, ?_⟩
  intro enough
  obtain ⟨done, value, -⟩ := @makeDdsTopicAndTypeNames_upTo TopicPlace fuel topicName typeName
    topicOut typeOut .ddsTopicName .ddsTypeName _ _ parts enough (Nat.le_refl _) (Nat.le_refl _)
  rw [value]
  rfl

/-- Where nothing is accessed nothing is accessed outside. -/
theorem EncodesInside.pure {fuel : Nat} {topicName typeName : CString} {topicOut typeOut : Out}
    {parts : NameParts} {retcode : ReturnCode} {done : Out × Out}
    (other : retcode ≠ .outOfResources) :
    EncodesInside fuel topicName typeName topicOut typeOut parts
      (Pure.pure (some (retcode, done))) where
  topic := .of_permits fun _ member => absurd member List.not_mem_nil
  type := .of_permits fun _ member => absurd member List.not_mem_nil
  scan _ member := absurd member List.not_mem_nil
  reported _ same := by
    cases same
    exact absurd rfl other
  ends _ := rfl

theorem name_encoders_stay_inside : EncodersInside where
  make := makeDdsTopicAndTypeNames_inside
  writer fuel topicName typeName topicOut typeOut kind parts chosen := by
    unfold computeDdsWriterTopicNames
    split
    · exact .pure (by decide)
    · rw [chosen]
      exact makeDdsTopicAndTypeNames_inside fuel topicName typeName topicOut typeOut parts
  reader fuel topicName typeName topicOut typeOut kind parts chosen := by
    unfold computeDdsReaderTopicNames
    rw [chosen]
    exact makeDdsTopicAndTypeNames_inside fuel topicName typeName topicOut typeOut parts
  service stringAlloc fuel nodeName serviceName typeName outs := by
    have confined := @computeServiceTopicNames_confined nodeName serviceName typeName stringAlloc
      fuel outs
    refine ⟨fun index member => confined _ member, .of_permits fun index member => confined _ member,
      .of_permits fun index member => confined _ member,
      .of_permits fun index member => confined _ member,
      .of_permits fun index member => confined _ member, fun index member => confined _ member, ?_⟩
    intro enough
    obtain ⟨done, value, -⟩ := @computeServiceTopicNames_upTo nodeName serviceName typeName
      stringAlloc fuel outs _ _ _ _ enough (Nat.le_refl _) (Nat.le_refl _) (Nat.le_refl _)
      (Nat.le_refl _)
    rw [value]
    rfl

end Raw

end Ros2Graph
