import Mathlib.Data.List.TakeWhile
import Ros2Graph.Foundation.AccessLog
import Ros2Graph.TopicNames.MakeNames

/-! The bytes that the name functions read and write. The functions are given memory
without an end here, so that nothing but their own checks keeps them inside of the
buffers; a type name is scanned with fuel, so that nothing but the string ends it. -/

set_option autoImplicit false

namespace Ros2Graph

open Foundation

namespace Raw

/-- A `char *`, with `none` for NULL, and the `size_t` that goes with it. -/
structure Out where
  buffer : Option Region
  len : Nat

variable {Place : Type}

/-- What is read beside the string is left open by reading it as NUL. -/
def charAt (string : CString) (index : Int) : Logged (MemoryAccess Place) UInt8 := do
  Logged.access (.read index)
  pure (if index < 0 then 0 else string.byteAt index.toNat)

/-- `while (type_stem[0] != ':' && type_stem > ros2_type_name)`, or `none` when the
loop has not ended. -/
def scanTypeStem (ros2TypeName : CString) :
    Nat → Int → Logged (MemoryAccess Place) (Option Int)
  | 0, _ => pure none
  | fuel + 1, typeStem => do
    let char ← charAt ros2TypeName typeStem
    if char != colon && decide (0 < typeStem) then scanTypeStem ros2TypeName fuel (typeStem - 1)
    else pure (some typeStem)

/-- `type_stem_len`, or `none` for an invalid type name. -/
def checkTypeStem (ros2TypeName : CString) (typeStem : Int) :
    Logged (MemoryAccess Place) (Option Nat) := do
  let char ← charAt ros2TypeName typeStem
  if char != colon then pure none
  else if typeStem == 0 then pure none
  else
    let before ← charAt ros2TypeName (typeStem - 1)
    if before != colon then pure none
    else pure (some (typeStem - 1).toNat)

def writeTopicName (place : Place) (ros2TopicName topicPrefix : CString) (out : Out) :
    Logged (MemoryAccess Place) (ReturnCode × Out) :=
  let size := topicNameLen ros2TopicName topicPrefix + 1
  match out.buffer with
  | none => pure (.ok, { out with len := size })
  | some region =>
    if out.len < size then pure (.outOfResources, out)
    else do
      let region ← region.copy place 0 topicPrefix.chars
      let region ← region.copy place topicPrefix.strlen ros2TopicName.bytes
      pure (.ok, ⟨some region, size⟩)

def copyTypeName (place : Place) (ros2TypeName typeSuffix : CString) (stemLen : Nat)
    (region : Region) : Logged (MemoryAccess Place) Region := do
  let nsLen := typeNamespace.strlen
  let region ← region.copy place 0 (ros2TypeName.chars.take stemLen)
  let region ← region.copy place stemLen typeNamespace.chars
  let region ← region.copy place (stemLen + nsLen) doubleColon
  region.copy place (stemLen + nsLen + 2) typeSuffix.chars

def writeTypeName (fuel : Nat) (place : Place) (ros2TypeName typeSuffix : CString) (out : Out) :
    Logged (MemoryAccess Place) (Option (ReturnCode × Out)) :=
  let size := typeNameLen ros2TypeName typeSuffix + 1
  match out.buffer with
  | none => pure (some (.ok, { out with len := size }))
  | some region =>
    if out.len < size then pure (some (.outOfResources, out))
    else do
      let found ← scanTypeStem ros2TypeName fuel ros2TypeName.strlen
      match found with
      | none => pure none
      | some typeStem =>
        let stem ← checkTypeStem ros2TypeName typeStem
        match stem with
        | none => pure (some (.badParameter, out))
        | some stemLen =>
          let region ← copyTypeName place ros2TypeName typeSuffix stemLen region
          pure (some (.ok, ⟨some region, size⟩))

def makeDdsTopicAndTypeNames (fuel : Nat) (topicPlace typePlace : Place)
    (ros2TopicName ros2TypeName : CString) (ddsTopicName ddsTypeName : Out)
    (topicPrefix typeSuffix : CString) :
    Logged (MemoryAccess Place) (Option (ReturnCode × Out × Out)) := do
  let topic ← writeTopicName topicPlace ros2TopicName topicPrefix ddsTopicName
  match topic with
  | (.ok, ddsTopicName) =>
    let type ← writeTypeName fuel typePlace ros2TypeName typeSuffix ddsTypeName
    pure (type.map fun written => (written.1, ddsTopicName, written.2))
  | (retcode, ddsTopicName) => pure (some (retcode, ddsTopicName, ddsTypeName))

def computeDdsWriterTopicNames (fuel : Nat) (topicPlace typePlace : Place)
    (ros2TopicName ros2TypeName : CString) (ros2EndpType : EndpointType)
    (ddsTopicName ddsTypeName : Out) :
    Logged (MemoryAccess Place) (Option (ReturnCode × Out × Out)) :=
  if ros2TopicName.strlen == 0 || ros2TypeName.strlen == 0 then
    pure (some (.badParameter, ddsTopicName, ddsTypeName))
  else
    match NameParts.ofWriter ros2EndpType with
    | none => pure (some (.error, ddsTopicName, ddsTypeName))
    | some parts =>
      makeDdsTopicAndTypeNames fuel topicPlace typePlace ros2TopicName ros2TypeName ddsTopicName
        ddsTypeName parts.topicPrefix parts.typeSuffix

def computeDdsReaderTopicNames (fuel : Nat) (topicPlace typePlace : Place)
    (ros2TopicName ros2TypeName : CString) (ros2EndpType : EndpointType)
    (ddsTopicName ddsTypeName : Out) :
    Logged (MemoryAccess Place) (Option (ReturnCode × Out × Out)) :=
  match NameParts.ofReader ros2EndpType with
  | none => pure (some (.error, ddsTopicName, ddsTypeName))
  | some parts =>
    makeDdsTopicAndTypeNames fuel topicPlace typePlace ros2TopicName ros2TypeName ddsTopicName
      ddsTypeName parts.topicPrefix parts.typeSuffix

/-- The joined name of a service, and its outputs. -/
inductive ServicePlace where
  | ros2TopicName
  | ddsReqTopicName
  | ddsReqTypeName
  | ddsRepTopicName
  | ddsRepTypeName
  deriving DecidableEq, Repr

structure ServiceOuts where
  reqTopicName : Out
  reqTypeName : Out
  repTopicName : Out
  repTypeName : Out

/-- The string at the front of the memory, which is looked for in `size` bytes. -/
def stringAt (region : Region) (size : Nat) : CString where
  chars := (region.upTo size).takeWhile (· != 0)
  noNul := fun member => absurd (List.mem_takeWhile_imp member) (by decide)

def joinServiceName (ros2NodeName ros2ServiceName : CString) (region : Region) :
    Logged (MemoryAccess ServicePlace) Region := do
  let region ← region.copy .ros2TopicName 0 ros2NodeName.chars
  let region ← region.copy .ros2TopicName ros2NodeName.strlen [slash]
  region.copy .ros2TopicName (ros2NodeName.strlen + 1) ros2ServiceName.bytes

/-- `stringAlloc` answers with the memory that `DDS_String_alloc` gives for a length,
one byte more than that. -/
def computeServiceTopicNames (stringAlloc : Nat → Option Region) (fuel : Nat)
    (ros2NodeName ros2ServiceName ros2TypeName : CString) (outs : ServiceOuts) :
    Logged (MemoryAccess ServicePlace) (Option (ReturnCode × ServiceOuts)) :=
  let ros2TopicNameLen := ros2NodeName.strlen + 1 + ros2ServiceName.strlen
  match stringAlloc ros2TopicNameLen with
  | none => pure (some (.error, outs))
  | some region => do
    let region ← joinServiceName ros2NodeName ros2ServiceName region
    let ros2TopicName := stringAt region (ros2TopicNameLen + 1)
    let request ← computeDdsReaderTopicNames fuel .ddsReqTopicName .ddsReqTypeName ros2TopicName
      ros2TypeName .service outs.reqTopicName outs.reqTypeName
    match request with
    | none => pure none
    | some (.ok, reqTopicName, reqTypeName) =>
      let outs := { outs with reqTopicName, reqTypeName }
      let reply ← computeDdsWriterTopicNames fuel .ddsRepTopicName .ddsRepTypeName ros2TopicName
        ros2TypeName .service outs.repTopicName outs.repTypeName
      match reply with
      | none => pure none
      | some (.ok, repTopicName, repTypeName) =>
        pure (some (.ok, { outs with repTopicName, repTypeName }))
      | some (_, repTopicName, repTypeName) =>
        pure (some (.error, { outs with repTopicName, repTypeName }))
    | some (_, reqTopicName, reqTypeName) =>
      pure (some (.error, { outs with reqTopicName, reqTypeName }))

end Raw

end Ros2Graph
