import Ros2Graph.TopicNames.RawEncoders
import Ros2Graph.TopicNames.WrittenNames

/-! What the functions on memory without an end access, and that they are the functions
on buffers. The scan of a type name stays in the string, and a name is shorter than
the room that is asked for. -/

set_option autoImplicit false

namespace Ros2Graph

open Foundation

namespace Raw

variable {Place : Type}

/-! ## The scan of a type name -/

/-- The type name is read from its start to its terminator, and nothing is written
but where it may be. -/
def Confined (typeName : CString) (writable : Place → Int → Prop) : MemoryAccess Place → Prop
  | .read index => 0 ≤ index ∧ index ≤ typeName.strlen
  | .write place index => writable place index

section Scan

variable {typeName : CString} {writable : Place → Int → Prop}

theorem charAt_value (string : CString) (index : Nat) :
    (charAt string index : Logged (MemoryAccess Place) UInt8).value = string.byteAt index := by
  simp [charAt]

theorem charAt_confined {index : Int} (below : 0 ≤ index) (above : index ≤ typeName.strlen) :
    (charAt typeName index).Only (Confined typeName writable) :=
  .bind (.access ⟨below, above⟩) (.pure _)

/-- The loop ends where walking backwards does. With one step for each character
and one more it does end. -/
theorem scanTypeStem_value (fuel index : Nat) :
    (scanTypeStem typeName fuel index : Logged (MemoryAccess Place) (Option Int)).value =
        some ((scanBack (fun index => typeName.byteAt index == colon) index : Nat) : Int) ∨
      (scanTypeStem typeName fuel index : Logged (MemoryAccess Place) (Option Int)).value = none ∧
        fuel ≤ index := by
  induction fuel generalizing index with
  | zero => exact .inr ⟨rfl, Nat.zero_le index⟩
  | succ fuel ih =>
      unfold scanTypeStem
      simp only [Logged.value_bind, charAt_value]
      cases index with
      | zero => exact .inl (by simp [scanBack])
      | succ index =>
          unfold scanBack
          by_cases atColon : typeName.byteAt (index + 1) = colon
          · exact .inl (by simp [atColon])
          · have goesOn : (typeName.byteAt (index + 1) != colon &&
                decide (0 < ((index + 1 : Nat) : Int))) = true := by
              simp only [Bool.and_eq_true, bne_iff_ne, decide_eq_true_eq]
              exact ⟨atColon, by omega⟩
            have back : ((index + 1 : Nat) : Int) - 1 = (index : Nat) := by omega
            rw [if_pos goesOn, back, if_neg (by simpa using atColon), Nat.succ_le_succ_iff]
            exact ih index

theorem scanTypeStem_ends {fuel index : Nat} (enough : index < fuel) :
    (scanTypeStem typeName fuel index : Logged (MemoryAccess Place) (Option Int)).value =
      some ((scanBack (fun index => typeName.byteAt index == colon) index : Nat) : Int) := by
  rcases scanTypeStem_value fuel index with found | ⟨-, early⟩
  · exact found
  · exact absurd enough (Nat.not_lt.mpr early)

theorem scanTypeStem_confined (fuel : Nat) {index : Nat} (inside : index ≤ typeName.strlen) :
    (scanTypeStem typeName fuel index).Only (Confined typeName writable) := by
  induction fuel generalizing index with
  | zero => exact .pure none
  | succ fuel ih =>
      unfold scanTypeStem
      refine .bind (charAt_confined (by omega) (by omega)) ?_
      split
      · next goesOn =>
        have positive : 0 < index := by
          simp only [Bool.and_eq_true, decide_eq_true_eq] at goesOn
          omega
        have back : (index : Int) - 1 = (index - 1 : Nat) := by omega
        rw [back]
        exact ih (by omega)
      · exact .pure _

/-- The character before the one that is found is read when that is not the first. -/
theorem checkTypeStem_confined {typeStem : Int} (below : 0 ≤ typeStem)
    (above : typeStem ≤ typeName.strlen) :
    (checkTypeStem typeName typeStem).Only (Confined typeName writable) := by
  unfold checkTypeStem
  refine .bind (charAt_confined below above) ?_
  split
  · exact .pure none
  · split
    · exact .pure none
    · next notFirst =>
      have positive : typeStem ≠ 0 := by simpa using notFirst
      refine .bind (charAt_confined (by omega) (by omega)) ?_
      split
      · exact .pure none
      · exact .pure _

theorem checkTypeStem_value (stem : Nat) :
    (checkTypeStem typeName stem : Logged (MemoryAccess Place) (Option Nat)).value =
      if typeName.byteAt stem != colon || stem == 0 || typeName.byteAt (stem - 1) != colon then none
      else some (stem - 1) := by
  unfold checkTypeStem
  simp only [Logged.value_bind, charAt_value]
  by_cases last : typeName.byteAt stem = colon
  · cases stem with
    | zero => simp [last]
    | succ stem =>
        have back : ((stem + 1 : Nat) : Int) - 1 = (stem : Nat) := by omega
        have positive : (((stem + 1 : Nat) : Int) == 0) = false := by
          rw [beq_eq_false_iff_ne]
          omega
        rw [back]
        simp only [positive]
        by_cases before : typeName.byteAt stem = colon
        · simp [last, before, charAt_value]
        · simp [last, before, charAt_value]
  · simp [last]

/-- The check of what is found gives the length of the stem. -/
theorem checkTypeStem_scanned :
    (checkTypeStem typeName
        (scanBack (fun index => typeName.byteAt index == colon) typeName.strlen : Nat) :
      Logged (MemoryAccess Place) (Option Nat)).value = typeStemLen typeName :=
  checkTypeStem_value _

end Scan

/-! ## The names -/

/-- An output is written when there is room for the whole name, and then inside of that. -/
structure Out.Permits (out : Out) (size : Nat) (index : Int) : Prop where
  notNull : out.buffer.isSome = true
  room : size ≤ out.len
  inside : 0 ≤ index ∧ index < size

/-- The output when its buffer has a number of bytes. -/
def Out.upTo (out : Out) (size : Nat) : NameOut := ⟨out.buffer.map (·.upTo size), out.len⟩

section Halves

variable {ros2TopicName topicPrefix typeName typeSuffix : CString} {out : Out}
  {writable : Place → Int → Prop} {place : Place}

theorem writeTopicName_confined
    (permitted : ∀ index, out.Permits (topicNameLen ros2TopicName topicPrefix + 1) index →
      writable place index) :
    (writeTopicName place ros2TopicName topicPrefix out).Only (Confined typeName writable) := by
  unfold writeTopicName
  cases held : out.buffer with
  | none => exact .pure _
  | some region =>
      dsimp only
      split
      · exact .pure _
      · next enough =>
        have size : topicPrefix.chars.length + ros2TopicName.bytes.length =
            topicNameLen ros2TopicName topicPrefix + 1 := by
          rw [CString.length_bytes]
          rfl
        have inside : ∀ index : Nat, index < topicNameLen ros2TopicName topicPrefix + 1 →
            Confined typeName writable (.write place index) := by
          intro index below
          exact permitted index ⟨by simp [held], Nat.le_of_not_lt enough, by omega, by omega⟩
        refine .bind (Region.copy_only _ ?_) (.bind (Region.copy_only _ ?_) (.pure _))
        · intro index below
          exact inside index (by omega)
        · intro index below
          exact inside index (size ▸ below)

theorem writeTopicName_upTo {size : Nat} (whole : out.len ≤ size) :
    Ros2Graph.writeTopicName ros2TopicName topicPrefix (out.upTo size) =
      some ((writeTopicName place ros2TopicName topicPrefix out).value.map id (·.upTo size)) := by
  unfold Ros2Graph.writeTopicName writeTopicName Out.upTo
  obtain ⟨buffer, len⟩ := out
  replace whole : len ≤ size := whole
  cases buffer with
  | none => rfl
  | some region =>
      simp only [Option.map_some]
      split
      · rfl
      · next enough =>
        have length : topicPrefix.strlen + ros2TopicName.bytes.length ≤ size := by
          rw [CString.length_bytes]
          unfold topicNameLen at enough
          omega
        have front : 0 + topicPrefix.chars.length ≤ size := by
          unfold CString.strlen at length
          omega
        rw [Region.memcpy_upTo place region front]
        simp only [bind, Option.bind_some]
        rw [Region.memcpy_upTo place _ length]
        rfl

/-- The pieces of a type name are shorter than what there is room for. -/
theorem copyTypeName_confined {stemLen : Nat} (valid : typeStemLen typeName = some stemLen)
    (region : Region)
    (inside : ∀ index : Nat, index < typeNameLen typeName typeSuffix + 1 → writable place index) :
    (copyTypeName place typeName typeSuffix stemLen region).Only (Confined typeName writable) := by
  have short := length_typeNameWritten typeName typeSuffix stemLen
  have stem : (typeName.chars.take stemLen).length = stemLen :=
    List.length_take_of_le (Nat.le_of_add_right_le (typeStemLen_bound valid))
  simp only [typeNameWritten, List.length_append, stem] at short
  unfold copyTypeName CString.strlen
  refine .bind (Region.copy_only _ ?_) (.bind (Region.copy_only _ ?_)
    (.bind (Region.copy_only _ ?_) (Region.copy_only _ ?_))) <;> intro index below
  · exact inside index (by omega)
  · exact inside index (by omega)
  · exact inside index (by omega)
  · have colons : doubleColon.length = 2 := rfl
    exact inside index (by omega)

/-- An invalid type name is not written at all. -/
theorem writeTypeName_confined (fuel : Nat)
    (permitted : (typeStemLen typeName).isSome = true →
      ∀ index, out.Permits (typeNameLen typeName typeSuffix + 1) index → writable place index) :
    (writeTypeName fuel place typeName typeSuffix out).Only (Confined typeName writable) := by
  unfold writeTypeName
  cases held : out.buffer with
  | none => exact .pure _
  | some region =>
      dsimp only
      split
      · exact .pure _
      · next enough =>
        refine .bind (scanTypeStem_confined fuel (Nat.le_refl _)) ?_
        rcases @scanTypeStem_value Place typeName fuel typeName.strlen with scanned | ⟨early, -⟩
        · have inside := scanBack_le (fun index => typeName.byteAt index == colon) typeName.strlen
          rw [scanned]
          refine .bind (checkTypeStem_confined (by omega) (by omega)) ?_
          rw [checkTypeStem_scanned]
          cases valid : typeStemLen typeName with
          | none => exact .pure _
          | some stemLen =>
              refine .bind (copyTypeName_confined valid region ?_) (.pure _)
              intro index below
              exact permitted (by rw [valid]; rfl) index
                ⟨by simp [held], Nat.le_of_not_lt enough, by omega, by omega⟩
        · rw [early]
          exact .pure _

theorem copyTypeName_upTo {stemLen size : Nat} (valid : typeStemLen typeName = some stemLen)
    (whole : typeNameLen typeName typeSuffix + 1 ≤ size) (region : Region) :
    (do
      let buffer ← memcpy (region.upTo size) 0 (typeName.chars.take stemLen)
      let buffer ← memcpy buffer stemLen typeNamespace.chars
      let buffer ← memcpy buffer (stemLen + typeNamespace.strlen) doubleColon
      memcpy buffer (stemLen + typeNamespace.strlen + 2) typeSuffix.chars) =
      some ((copyTypeName place typeName typeSuffix stemLen region).value.upTo size) := by
  have short := length_typeNameWritten typeName typeSuffix stemLen
  have stem : (typeName.chars.take stemLen).length = stemLen :=
    List.length_take_of_le (Nat.le_of_add_right_le (typeStemLen_bound valid))
  have colons : doubleColon.length = 2 := rfl
  simp only [typeNameWritten, List.length_append, stem] at short
  unfold copyTypeName CString.strlen
  simp only [bind]
  rw [Region.memcpy_upTo place region (by omega), Option.bind_some,
    Region.memcpy_upTo place _ (by omega), Option.bind_some,
    Region.memcpy_upTo place _ (by omega), Option.bind_some,
    Region.memcpy_upTo place _ (by omega)]

/-- With room for the name the scan decides. -/
theorem writeTypeName_value {fuel len : Nat} {region : Region} (ends : typeName.strlen < fuel)
    (room : typeNameLen typeName typeSuffix + 1 ≤ len) :
    (writeTypeName fuel place typeName typeSuffix ⟨some region, len⟩).value =
      some (match typeStemLen typeName with
        | none => (.badParameter, ⟨some region, len⟩)
        | some stemLen =>
          (.ok, ⟨some (copyTypeName place typeName typeSuffix stemLen region).value,
            typeNameLen typeName typeSuffix + 1⟩)) := by
  unfold writeTypeName
  dsimp only
  rw [if_neg (Nat.not_lt.mpr room)]
  simp only [Logged.value_bind, scanTypeStem_ends ends, checkTypeStem_scanned]
  cases typeStemLen typeName <;> rfl

/-- With enough fuel the function returns, and as on buffers. -/
theorem writeTypeName_upTo {fuel size : Nat} (ends : typeName.strlen < fuel)
    (whole : out.len ≤ size) :
    ∃ written, (writeTypeName fuel place typeName typeSuffix out).value = some written ∧
      Ros2Graph.writeTypeName typeName typeSuffix (out.upTo size) =
        some (written.map id (·.upTo size)) := by
  obtain ⟨buffer, len⟩ := out
  replace whole : len ≤ size := whole
  cases buffer with
  | none => exact ⟨_, rfl, rfl⟩
  | some region =>
      by_cases room : typeNameLen typeName typeSuffix + 1 ≤ len
      · refine ⟨_, writeTypeName_value ends room, ?_⟩
        unfold Ros2Graph.writeTypeName Out.upTo
        simp only [Option.map_some, if_neg (Nat.not_lt.mpr room)]
        cases valid : typeStemLen typeName with
        | none => rfl
        | some stemLen =>
            have copied := @copyTypeName_upTo _ typeName typeSuffix place stemLen size valid
              (by omega) region
            simp only [bind, Option.bind_eq_some_iff] at copied
            obtain ⟨stemmed, copyStem, spaced, copySpace, separated, copyColons, copySuffix⟩ := copied
            simp only [bind, copyStem, copySpace, copyColons, copySuffix, Option.bind_some]
            rfl
      · unfold Ros2Graph.writeTypeName writeTypeName Out.upTo
        simp only [Option.map_some, if_pos (Nat.lt_of_not_le room)]
        exact ⟨_, rfl, rfl⟩

end Halves

section Functions

variable {fuel : Nat} {topicName typeName : CString} {topicOut typeOut : Out}
  {writable : Place → Int → Prop} {topicPlace typePlace : Place} {topicSize typeSize : Nat}

theorem makeDdsTopicAndTypeNames_confined (parts : NameParts)
    (topic : ∀ index, topicOut.Permits (topicNameLen topicName parts.topicPrefix + 1) index →
      writable topicPlace index)
    (type : ∀ index, typeOut.Permits (typeNameLen typeName parts.typeSuffix + 1) index →
      writable typePlace index) :
    (makeDdsTopicAndTypeNames fuel topicPlace typePlace topicName typeName topicOut typeOut
      parts.topicPrefix parts.typeSuffix).Only (Confined typeName writable) := by
  unfold makeDdsTopicAndTypeNames
  refine .bind (writeTopicName_confined topic) ?_
  split
  · exact .bind (writeTypeName_confined fuel fun _ => type) (.pure _)
  · exact .pure _

/-- The outcome of a call is the one on buffers of the sizes. -/
def AsOnBuffers (topicSize typeSize : Nat)
    (run : Logged (MemoryAccess Place) (Option (ReturnCode × Out × Out)))
    (onBuffers : Option (ReturnCode × NameOut × NameOut)) : Prop :=
  ∃ done, run.value = some done ∧
    onBuffers = some (done.1, done.2.1.upTo topicSize, done.2.2.upTo typeSize)

theorem makeDdsTopicAndTypeNames_upTo (parts : NameParts) (ends : typeName.strlen < fuel)
    (topicWhole : topicOut.len ≤ topicSize) (typeWhole : typeOut.len ≤ typeSize) :
    AsOnBuffers topicSize typeSize
      (makeDdsTopicAndTypeNames fuel topicPlace typePlace topicName typeName topicOut typeOut
        parts.topicPrefix parts.typeSuffix)
      (Ros2Graph.makeDdsTopicAndTypeNames topicName typeName (topicOut.upTo topicSize)
        (typeOut.upTo typeSize) parts.topicPrefix parts.typeSuffix) := by
  have topicWritten := @writeTopicName_upTo Place topicName parts.topicPrefix topicOut topicPlace
    topicSize topicWhole
  obtain ⟨written, typeValue, typeWritten⟩ := @writeTypeName_upTo Place typeName parts.typeSuffix
    typeOut typePlace fuel typeSize ends typeWhole
  unfold AsOnBuffers Ros2Graph.makeDdsTopicAndTypeNames makeDdsTopicAndTypeNames
  rw [topicWritten, typeWritten, Logged.value_bind]
  generalize (writeTopicName topicPlace topicName parts.topicPrefix topicOut).value = topicDone
  obtain ⟨retcode, topicDone⟩ := topicDone
  cases retcode with
  | ok =>
      refine ⟨(written.1, topicDone, written.2), ?_, rfl⟩
      simp only [Logged.value_bind, typeValue]
      rfl
  | _ => exact ⟨_, rfl, rfl⟩

theorem computeDdsWriterTopicNames_confined {kind : EndpointType} {parts : NameParts}
    (chosen : NameParts.ofWriter kind = some parts)
    (topic : ∀ index, topicOut.Permits (topicNameLen topicName parts.topicPrefix + 1) index →
      writable topicPlace index)
    (type : ∀ index, typeOut.Permits (typeNameLen typeName parts.typeSuffix + 1) index →
      writable typePlace index) :
    (computeDdsWriterTopicNames fuel topicPlace typePlace topicName typeName kind topicOut
      typeOut).Only (Confined typeName writable) := by
  unfold computeDdsWriterTopicNames
  split
  · exact .pure _
  · rw [chosen]
    exact makeDdsTopicAndTypeNames_confined parts topic type

theorem computeDdsReaderTopicNames_confined {kind : EndpointType} {parts : NameParts}
    (chosen : NameParts.ofReader kind = some parts)
    (topic : ∀ index, topicOut.Permits (topicNameLen topicName parts.topicPrefix + 1) index →
      writable topicPlace index)
    (type : ∀ index, typeOut.Permits (typeNameLen typeName parts.typeSuffix + 1) index →
      writable typePlace index) :
    (computeDdsReaderTopicNames fuel topicPlace typePlace topicName typeName kind topicOut
      typeOut).Only (Confined typeName writable) := by
  unfold computeDdsReaderTopicNames
  rw [chosen]
  exact makeDdsTopicAndTypeNames_confined parts topic type

theorem computeDdsWriterTopicNames_upTo (kind : EndpointType) (ends : typeName.strlen < fuel)
    (topicWhole : topicOut.len ≤ topicSize) (typeWhole : typeOut.len ≤ typeSize) :
    AsOnBuffers topicSize typeSize
      (computeDdsWriterTopicNames fuel topicPlace typePlace topicName typeName kind topicOut typeOut)
      (Ros2Graph.computeDdsWriterTopicNames (some topicName) (some typeName) kind
        (topicOut.upTo topicSize) (typeOut.upTo typeSize)) := by
  unfold Ros2Graph.computeDdsWriterTopicNames computeDdsWriterTopicNames
  dsimp only
  split
  · exact ⟨_, rfl, rfl⟩
  · cases NameParts.ofWriter kind with
    | none => exact ⟨_, rfl, rfl⟩
    | some parts => exact makeDdsTopicAndTypeNames_upTo parts ends topicWhole typeWhole

theorem computeDdsReaderTopicNames_upTo (kind : EndpointType) (ends : typeName.strlen < fuel)
    (topicWhole : topicOut.len ≤ topicSize) (typeWhole : typeOut.len ≤ typeSize) :
    AsOnBuffers topicSize typeSize
      (computeDdsReaderTopicNames fuel topicPlace typePlace topicName typeName kind topicOut typeOut)
      (Ros2Graph.computeDdsReaderTopicNames (some topicName) (some typeName) kind
        (topicOut.upTo topicSize) (typeOut.upTo typeSize)) := by
  unfold Ros2Graph.computeDdsReaderTopicNames computeDdsReaderTopicNames
  cases NameParts.ofReader kind with
  | none => exact ⟨_, rfl, rfl⟩
  | some parts => exact makeDdsTopicAndTypeNames_upTo parts ends topicWhole typeWhole

end Functions

/-! ## The topics of a service -/

section Service

variable {nodeName serviceName typeName : CString}

theorem joinServiceName_confined (region : Region) {writable : ServicePlace → Int → Prop}
    (inside : ∀ index : Nat, index < nodeName.strlen + 1 + serviceName.strlen + 1 →
      writable .ros2TopicName index) :
    (joinServiceName nodeName serviceName region).Only (Confined typeName writable) := by
  unfold joinServiceName CString.strlen
  unfold CString.strlen at inside
  refine .bind (Region.copy_only _ ?_) (.bind (Region.copy_only _ ?_) (Region.copy_only _ ?_)) <;>
    intro index below
  · exact inside index (by omega)
  · rw [List.length_singleton] at below
    exact inside index (by omega)
  · rw [CString.length_bytes, CString.strlen] at below
    exact inside index (by omega)

/-- The bytes of the joined name are those of the two names with "/" between them and
the terminator at the end, whatever the memory held. -/
theorem joinServiceName_upTo (region : Region) :
    (joinServiceName nodeName serviceName region).value.upTo
        (nodeName.strlen + 1 + serviceName.strlen + 1) =
      nodeName.chars ++ [slash] ++ serviceName.bytes := by
  have service := CString.length_bytes serviceName
  have node : nodeName.chars.length = nodeName.strlen := rfl
  unfold joinServiceName
  simp only [Logged.value_bind]
  generalize whole : nodeName.strlen + 1 + serviceName.strlen + 1 = size
  have first := Region.memcpy_upTo ServicePlace.ros2TopicName region
    (show 0 + nodeName.chars.length ≤ size by omega)
  have second := Region.memcpy_upTo ServicePlace.ros2TopicName
    (region.copy ServicePlace.ros2TopicName 0 nodeName.chars).value
    (show nodeName.strlen + [slash].length ≤ size by rw [List.length_singleton]; omega)
  have third := Region.memcpy_upTo ServicePlace.ros2TopicName
    ((region.copy ServicePlace.ros2TopicName 0 nodeName.chars).value.copy
      ServicePlace.ros2TopicName nodeName.strlen [slash]).value
    (show nodeName.strlen + 1 + serviceName.bytes.length ≤ size by omega)
  have ⟨nodeRoom, nodeFilled⟩ :=
    ((Filled.start (region.upTo size)).memcpy_iff (Nat.zero_le _) rfl).mp first
  have ⟨slashRoom, slashFilled⟩ := (nodeFilled.memcpy_iff nodeRoom rfl).mp second
  have ⟨_, filled⟩ := (slashFilled.memcpy_iff slashRoom (by simp [node])).mp third
  have exact : ([] ++ nodeName.chars ++ [slash] ++ serviceName.bytes).length = size := by
    simp only [List.nil_append, List.length_append, List.length_singleton]
    omega
  rw [Filled, exact, List.drop_eq_nil_of_le (by simp), List.append_nil] at filled
  exact filled

theorem stringAt_joinServiceName (region : Region) :
    stringAt (joinServiceName nodeName serviceName region).value
      (nodeName.strlen + 1 + serviceName.strlen + 1) = serviceTopicName nodeName serviceName := by
  have text : nodeName.chars ++ [slash] ++ serviceName.bytes =
      (serviceTopicName nodeName serviceName).chars ++ [0] := by
    simp [serviceTopicName, CString.bytes]
  refine CString.eq_of_chars ?_
  change List.takeWhile (· != 0) (Region.upTo _ _) = _
  rw [joinServiceName_upTo, text, takeWhile_text_append (serviceTopicName _ _).noNul]
  simp

/-- Where a call for a service may write. -/
def ServiceOuts.writable (nodeName serviceName typeName : CString) (outs : ServiceOuts) :
    ServicePlace → Int → Prop :=
  let topicName := serviceTopicName nodeName serviceName
  fun
  | .ros2TopicName, index =>
    0 ≤ index ∧ index < (nodeName.strlen + 1 + serviceName.strlen + 1 : Nat)
  | .ddsReqTopicName, index =>
    outs.reqTopicName.Permits (topicNameLen topicName topicPrefixRequest + 1) index
  | .ddsReqTypeName, index =>
    outs.reqTypeName.Permits (typeNameLen typeName typeSuffixRequest + 1) index
  | .ddsRepTopicName, index =>
    outs.repTopicName.Permits (topicNameLen topicName topicPrefixResponse + 1) index
  | .ddsRepTypeName, index =>
    outs.repTypeName.Permits (typeNameLen typeName typeSuffixResponse + 1) index

theorem computeServiceTopicNames_confined (stringAlloc : Nat → Option Region) (fuel : Nat)
    (outs : ServiceOuts) :
    (computeServiceTopicNames stringAlloc fuel nodeName serviceName typeName outs).Only
      (Confined typeName (outs.writable nodeName serviceName typeName)) := by
  unfold computeServiceTopicNames
  dsimp only
  cases stringAlloc (nodeName.strlen + 1 + serviceName.strlen) with
  | none => exact .pure _
  | some region =>
      refine .bind (joinServiceName_confined region fun index below => ⟨by omega, by omega⟩) ?_
      rw [stringAt_joinServiceName]
      have reader := @computeDdsReaderTopicNames_confined ServicePlace fuel
        (serviceTopicName nodeName serviceName) typeName outs.reqTopicName outs.reqTypeName
        (outs.writable nodeName serviceName typeName) .ddsReqTopicName .ddsReqTypeName .service
        .request rfl (fun _ permits => permits) (fun _ permits => permits)
      have writer := @computeDdsWriterTopicNames_confined ServicePlace fuel
        (serviceTopicName nodeName serviceName) typeName outs.repTopicName outs.repTypeName
        (outs.writable nodeName serviceName typeName) .ddsRepTopicName .ddsRepTypeName .service
        .response rfl (fun _ permits => permits) (fun _ permits => permits)
      refine .bind reader ?_
      split
      · exact .pure _
      · refine .bind writer ?_
        split
        · exact .pure _
        · exact .pure _
        · exact .pure _
      · exact .pure _

/-- The outputs when the buffers have numbers of bytes. -/
def ServiceOuts.upTo (outs : ServiceOuts) (reqTopic reqType repTopic repType : Nat) :
    ServiceNames where
  reqTopicName := outs.reqTopicName.upTo reqTopic
  reqTypeName := outs.reqTypeName.upTo reqType
  repTopicName := outs.repTopicName.upTo repTopic
  repTypeName := outs.repTypeName.upTo repType

/-- With enough fuel the function returns, and as on buffers that have the bytes that
the caller says. -/
theorem computeServiceTopicNames_upTo (stringAlloc : Nat → Option Region) {fuel : Nat}
    {outs : ServiceOuts} {reqTopic reqType repTopic repType : Nat} (ends : typeName.strlen < fuel)
    (reqTopicWhole : outs.reqTopicName.len ≤ reqTopic)
    (reqTypeWhole : outs.reqTypeName.len ≤ reqType)
    (repTopicWhole : outs.repTopicName.len ≤ repTopic)
    (repTypeWhole : outs.repTypeName.len ≤ repType) :
    ∃ done, (computeServiceTopicNames stringAlloc fuel nodeName serviceName typeName outs).value =
        some done ∧
      Ros2Graph.computeServiceTopicNames (fun length => (stringAlloc length).isSome) nodeName
          serviceName (some typeName) (outs.upTo reqTopic reqType repTopic repType) =
        some (done.1, done.2.upTo reqTopic reqType repTopic repType) := by
  unfold Ros2Graph.computeServiceTopicNames computeServiceTopicNames
  obtain ⟨allocated, given⟩ :
      ∃ allocated, stringAlloc (nodeName.strlen + 1 + serviceName.strlen) = allocated := ⟨_, rfl⟩
  simp only [given]
  cases allocated with
  | none => exact ⟨_, rfl, rfl⟩
  | some region =>
      obtain ⟨request, requestValue, requestOnBuffers⟩ :=
        @computeDdsReaderTopicNames_upTo ServicePlace fuel
          (serviceTopicName nodeName serviceName) typeName outs.reqTopicName outs.reqTypeName
          .ddsReqTopicName .ddsReqTypeName reqTopic reqType .service ends reqTopicWhole reqTypeWhole
      obtain ⟨reply, replyValue, replyOnBuffers⟩ :=
        @computeDdsWriterTopicNames_upTo ServicePlace fuel
          (serviceTopicName nodeName serviceName) typeName outs.repTopicName outs.repTypeName
          .ddsRepTopicName .ddsRepTypeName repTopic repType .service ends repTopicWhole repTypeWhole
      simp only [ServiceOuts.upTo, requestOnBuffers, replyOnBuffers, Logged.value_bind,
        stringAt_joinServiceName, requestValue]
      obtain ⟨retcode, reqTopicDone, reqTypeDone⟩ := request
      cases retcode with
      | ok =>
          simp only [Logged.value_bind, replyValue]
          obtain ⟨retcode, repTopicDone, repTypeDone⟩ := reply
          cases retcode <;> exact ⟨_, rfl, rfl⟩
      | _ => exact ⟨_, rfl, rfl⟩

end Service

end Raw

end Ros2Graph
