import Ros2Graph.Foundation.Buffer
import Ros2Graph.Registry.Data

/-! The DDS names of the topic and the type of an endpoint. Names are written to
buffers of the caller, who may also ask for their sizes only. -/

set_option autoImplicit false

namespace Ros2Graph

open Foundation

def typeNamespace : CString := .ofChars ['d', 'd', 's', '_']

def typeSuffixDefault : CString := .ofChars ['_']
def typeSuffixRequest : CString := .ofChars ['_', 'R', 'e', 'q', 'u', 'e', 's', 't', '_']
def typeSuffixResponse : CString :=
  .ofChars ['_', 'R', 'e', 's', 'p', 'o', 'n', 's', 'e', '_']

def colon : UInt8 := 58
def doubleColon : List UInt8 := [colon, colon]

namespace CString

/-- The byte at an index up to `strlen`, where the terminator is. -/
def byteAt (string : CString) (index : Nat) : UInt8 := string.chars.getD index 0

/-- The string with its terminator. -/
def bytes (string : CString) : List UInt8 := string.chars ++ [0]

end CString

/-- A name to be written: the buffer, or `none` for NULL, and the size that goes
with it. -/
structure NameOut where
  buffer : Option (List UInt8)
  len : Nat
  deriving DecidableEq, Repr

/-- `type_stem_len`: what is before the last colon and the one before that.
`none` is an invalid type name. -/
def typeStemLen (ros2TypeName : CString) : Option Nat :=
  let typeStem := scanBack (fun index => ros2TypeName.byteAt index == colon) ros2TypeName.strlen
  if ros2TypeName.byteAt typeStem != colon || typeStem == 0 ||
      ros2TypeName.byteAt (typeStem - 1) != colon then none
  else some (typeStem - 1)

def topicNameLen (ros2TopicName topicPrefix : CString) : Nat :=
  topicPrefix.strlen + ros2TopicName.strlen

/-- The two more bytes are for a second "::". -/
def typeNameLen (ros2TypeName typeSuffix : CString) : Nat :=
  ros2TypeName.strlen + typeNamespace.strlen + typeSuffix.strlen + 2

/-! The two halves of `RTIROS2_Graph_make_dds_topic_and_type_names`. Sizes are
taken not to wrap; `none` stands for a write outside a buffer. -/

def writeTopicName (ros2TopicName topicPrefix : CString) (out : NameOut) :
    Option (ReturnCode × NameOut) :=
  let size := topicNameLen ros2TopicName topicPrefix + 1
  match out.buffer with
  | none => some (.ok, { out with len := size })
  | some buffer =>
    if out.len < size then some (.outOfResources, out)
    else do
      let buffer ← memcpy buffer 0 topicPrefix.chars
      let buffer ← memcpy buffer topicPrefix.strlen ros2TopicName.bytes
      return (.ok, ⟨some buffer, size⟩)

def writeTypeName (ros2TypeName typeSuffix : CString) (out : NameOut) :
    Option (ReturnCode × NameOut) :=
  let size := typeNameLen ros2TypeName typeSuffix + 1
  match out.buffer with
  | none => some (.ok, { out with len := size })
  | some buffer =>
    if out.len < size then some (.outOfResources, out)
    else
      match typeStemLen ros2TypeName with
      | none => some (.badParameter, out)
      | some stemLen => do
        let nsLen := typeNamespace.strlen
        let buffer ← memcpy buffer 0 (ros2TypeName.chars.take stemLen)
        let buffer ← memcpy buffer stemLen typeNamespace.chars
        let buffer ← memcpy buffer (stemLen + nsLen) doubleColon
        let buffer ← memcpy buffer (stemLen + nsLen + 2) typeSuffix.chars
        return (.ok, ⟨some buffer, size⟩)

def makeDdsTopicAndTypeNames (ros2TopicName ros2TypeName : CString) (ddsTopicName : NameOut)
    (ddsTypeName : NameOut) (topicPrefix typeSuffix : CString) :
    Option (ReturnCode × NameOut × NameOut) :=
  match writeTopicName ros2TopicName topicPrefix ddsTopicName with
  | none => none
  | some (.ok, ddsTopicName) =>
    (writeTypeName ros2TypeName typeSuffix ddsTypeName).map fun written =>
      (written.1, ddsTopicName, written.2)
  | some (retcode, ddsTopicName) => some (retcode, ddsTopicName, ddsTypeName)

/-- `topic_prefix` and `type_suffix`. -/
structure NameParts where
  topicPrefix : CString
  typeSuffix : CString
  deriving DecidableEq, Repr

namespace NameParts

def topic : NameParts := ⟨topicPrefixDefault, typeSuffixDefault⟩
def request : NameParts := ⟨topicPrefixRequest, typeSuffixRequest⟩
def response : NameParts := ⟨topicPrefixResponse, typeSuffixResponse⟩

def ofWriter : EndpointType → Option NameParts
  | .subscription | .publisher => some topic
  | .client => some request
  | .service => some response
  | .unknown => none

def ofReader : EndpointType → Option NameParts
  | .subscription | .publisher => some topic
  | .client => some response
  | .service => some request
  | .unknown => none

end NameParts

def computeDdsWriterTopicNames (ros2TopicName ros2TypeName : Option CString)
    (ros2EndpType : EndpointType) (ddsTopicName ddsTypeName : NameOut) :
    Option (ReturnCode × NameOut × NameOut) :=
  match ros2TopicName, ros2TypeName with
  | some topicName, some typeName =>
    if topicName.strlen == 0 || typeName.strlen == 0 then
      some (.badParameter, ddsTopicName, ddsTypeName)
    else
      match NameParts.ofWriter ros2EndpType with
      | none => some (.error, ddsTopicName, ddsTypeName)
      | some parts =>
        makeDdsTopicAndTypeNames topicName typeName ddsTopicName ddsTypeName parts.topicPrefix
          parts.typeSuffix
  | _, _ => some (.badParameter, ddsTopicName, ddsTypeName)

/-- The check of the names is commented out here; `none` also stands for a read
through NULL. -/
def computeDdsReaderTopicNames (ros2TopicName ros2TypeName : Option CString)
    (ros2EndpType : EndpointType) (ddsTopicName ddsTypeName : NameOut) :
    Option (ReturnCode × NameOut × NameOut) :=
  match NameParts.ofReader ros2EndpType with
  | none => some (.error, ddsTopicName, ddsTypeName)
  | some parts =>
    match ros2TopicName, ros2TypeName with
    | some topicName, some typeName =>
      makeDdsTopicAndTypeNames topicName typeName ddsTopicName ddsTypeName parts.topicPrefix
        parts.typeSuffix
    | _, _ => none

def computePublisherTopicNames (ros2TopicName ros2TypeName : Option CString)
    (ddsTopicName ddsTypeName : NameOut) : Option (ReturnCode × NameOut × NameOut) :=
  computeDdsWriterTopicNames ros2TopicName ros2TypeName .publisher ddsTopicName ddsTypeName

def computeSubscriptionTopicNames (ros2TopicName ros2TypeName : Option CString)
    (ddsTopicName ddsTypeName : NameOut) : Option (ReturnCode × NameOut × NameOut) :=
  computeDdsWriterTopicNames ros2TopicName ros2TypeName .subscription ddsTopicName ddsTypeName

def slash : UInt8 := 47

/-- The topic of a service: the two names with "/" between them. -/
def serviceTopicName (ros2NodeName ros2ServiceName : CString) : CString where
  chars := ros2NodeName.chars ++ slash :: ros2ServiceName.chars
  noNul := by
    simp only [List.mem_append, List.mem_cons, not_or]
    exact ⟨ros2NodeName.noNul, by decide, ros2ServiceName.noNul⟩

/-- The four outputs of `RTIROS2_Graph_compute_service_topic_names`. -/
structure ServiceNames where
  reqTopicName : NameOut
  reqTypeName : NameOut
  repTopicName : NameOut
  repTypeName : NameOut
  deriving DecidableEq, Repr

/-- `stringAlloc` answers the allocation of a string by its length. -/
def computeServiceTopicNames (stringAlloc : Nat → Bool) (ros2NodeName ros2ServiceName : CString)
    (ros2TypeName : Option CString) (names : ServiceNames) : Option (ReturnCode × ServiceNames) :=
  if !stringAlloc (ros2NodeName.strlen + 1 + ros2ServiceName.strlen) then some (.error, names)
  else
    let ros2TopicName := serviceTopicName ros2NodeName ros2ServiceName
    match computeDdsReaderTopicNames (some ros2TopicName) ros2TypeName .service
        names.reqTopicName names.reqTypeName with
    | none => none
    | some (.ok, reqTopicName, reqTypeName) =>
      let names := { names with reqTopicName, reqTypeName }
      match computeDdsWriterTopicNames (some ros2TopicName) ros2TypeName .service
          names.repTopicName names.repTypeName with
      | none => none
      | some (.ok, repTopicName, repTypeName) =>
        some (.ok, { names with repTopicName, repTypeName })
      | some (_, repTopicName, repTypeName) =>
        some (.error, { names with repTopicName, repTypeName })
    | some (_, reqTopicName, reqTypeName) =>
      some (.error, { names with reqTopicName, reqTypeName })

end Ros2Graph
