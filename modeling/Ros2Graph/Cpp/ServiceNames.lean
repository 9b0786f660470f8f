import Mathlib.Logic.Function.Basic
import Ros2Graph.Cpp.Graph
import Ros2Graph.TopicNames.TopicRoles

/-! `rti::ros2::graph::compute_service_topic_names`. It has four buffers and gives
one of them to the C function twice, so buffers are known by their addresses. -/

set_option autoImplicit false

namespace Ros2Graph

open Foundation

abbrev Buffers := Nat → List UInt8

def Buffers.store (buffers : Buffers) (address : Nat) (out : NameOut) : Buffers :=
  match out.buffer with
  | none => buffers
  | some buffer => Function.update buffers address buffer

/-- A `char *` that is not NULL, and the size that goes with it. -/
structure NamePtr where
  address : Nat
  len : Nat

def NamePtr.out (buffers : Buffers) (ptr : NamePtr) : NameOut :=
  ⟨some (buffers ptr.address), ptr.len⟩

structure ServicePtrs where
  reqTopicName : NamePtr
  reqTypeName : NamePtr
  repTopicName : NamePtr
  repTypeName : NamePtr

/-- The outputs, when they do not share a buffer. -/
def ServicePtrs.names (buffers : Buffers) (ptrs : ServicePtrs) : ServiceNames where
  reqTopicName := ptrs.reqTopicName.out buffers
  reqTypeName := ptrs.reqTypeName.out buffers
  repTopicName := ptrs.repTopicName.out buffers
  repTypeName := ptrs.repTypeName.out buffers

def Buffers.storeRequest (buffers : Buffers) (ptrs : ServicePtrs) (topicOut typeOut : NameOut) :
    Buffers :=
  (buffers.store ptrs.reqTopicName.address topicOut).store ptrs.reqTypeName.address typeOut

def Buffers.storeReply (buffers : Buffers) (ptrs : ServicePtrs) (topicOut typeOut : NameOut) :
    Buffers :=
  (buffers.store ptrs.repTopicName.address topicOut).store ptrs.repTypeName.address typeOut

/-- `RTIROS2_Graph_compute_service_topic_names` on buffers that may be the same.
Nobody reads the sizes that it leaves. -/
def computeServiceTopicNamesIn (stringAlloc : Nat → Bool) (ros2NodeName ros2ServiceName : CString)
    (ros2TypeName : Option CString) (buffers : Buffers) (ptrs : ServicePtrs) :
    Option (ReturnCode × Buffers) :=
  if !stringAlloc (ros2NodeName.strlen + 1 + ros2ServiceName.strlen) then some (.error, buffers)
  else
    let ros2TopicName := serviceTopicName ros2NodeName ros2ServiceName
    match computeDdsReaderTopicNames (some ros2TopicName) ros2TypeName .service
        (ptrs.reqTopicName.out buffers) (ptrs.reqTypeName.out buffers) with
    | none => none
    | some (.ok, reqTopicName, reqTypeName) =>
      let buffers := buffers.storeRequest ptrs reqTopicName reqTypeName
      match computeDdsWriterTopicNames (some ros2TopicName) ros2TypeName .service
          (ptrs.repTopicName.out buffers) (ptrs.repTypeName.out buffers) with
      | none => none
      | some (.ok, repTopicName, repTypeName) =>
        some (.ok, buffers.storeReply ptrs repTopicName repTypeName)
      | some (_, repTopicName, repTypeName) =>
        some (.error, buffers.storeReply ptrs repTopicName repTypeName)
    | some (_, reqTopicName, reqTypeName) =>
      some (.error, buffers.storeRequest ptrs reqTopicName reqTypeName)

/-- What `DDS_String_alloc` answers: inside the two calls of the C function, and for
each of the four buffers by its length. -/
structure NameAllocs where
  query : Nat → Bool
  generate : Nat → Bool
  reqTopicName : Nat → Option (List UInt8)
  reqTypeName : Nat → Option (List UInt8)
  repTopicName : Nat → Option (List UInt8)
  repTypeName : Nat → Option (List UInt8)

/-- The strings that the caller is left with. -/
structure ServiceStrings where
  reqTopicName : StdString
  reqTypeName : StdString
  repTopicName : StdString
  repTypeName : StdString
  deriving DecidableEq, Repr

/-- A string is assigned from a buffer up to the first NUL; `none` reads past it. -/
def StdString.ofBuffer (buffer : List UInt8) : Option StdString :=
  if 0 ∈ buffer then some ⟨buffer.takeWhile (· != 0)⟩ else none

def ServiceStrings.read (reqTopicName reqTypeName repTopicName repTypeName : List UInt8) :
    Option ServiceStrings := do
  let reqTopicName ← StdString.ofBuffer reqTopicName
  let reqTypeName ← StdString.ofBuffer reqTypeName
  let repTopicName ← StdString.ofBuffer repTopicName
  let repTypeName ← StdString.ofBuffer repTypeName
  return ⟨reqTopicName, reqTypeName, repTopicName, repTypeName⟩

/-- The strings that the C function has left in its buffers, none of them NULL. -/
def ServiceNames.strings (names : ServiceNames) : Option ServiceStrings := do
  let reqTopicName ← names.reqTopicName.buffer
  let reqTypeName ← names.reqTypeName.buffer
  let repTopicName ← names.repTopicName.buffer
  let repTypeName ← names.repTypeName.buffer
  ServiceStrings.read reqTopicName reqTypeName repTopicName repTypeName

/-- The result is `none` where a buffer is left, an exception or the strings. -/
def cppComputeServiceTopicNames (allocs : NameAllocs)
    (ros2NodeName ros2ServiceName ros2TypeName : StdString) :
    Option (Except CppException ServiceStrings) :=
  match computeServiceTopicNames allocs.query ros2NodeName.cStr ros2ServiceName.cStr
      (some ros2TypeName.cStr) ⟨.query 0, .query 0, .query 0, .query 0⟩ with
  | none => none
  | some (.ok, sized) =>
    match allocs.reqTopicName (sized.reqTopicName.len - 1) with
    | none => some (.error (.error "failed to allocate request topic name string"))
    | some reqTopicNameBuf =>
      match allocs.reqTypeName (sized.reqTypeName.len - 1) with
      | none => some (.error (.error "failed to allocate request type name string"))
      | some reqTypeNameBuf =>
        match allocs.repTopicName (sized.repTopicName.len - 1) with
        | none => some (.error (.error "failed to allocate reply topic name string"))
        | some repTopicNameBuf =>
          match allocs.repTypeName (sized.repTypeName.len - 1) with
          | none => some (.error (.error "failed to allocate reply type name string"))
          | some repTypeNameBuf =>
            let buffers : Buffers := fun
              | 0 => reqTopicNameBuf
              | 1 => reqTypeNameBuf
              | 2 => repTopicNameBuf
              | _ => repTypeNameBuf
            -- the last pointer is `req_type_name_buf` again
            let ptrs : ServicePtrs :=
              ⟨⟨0, sized.reqTopicName.len⟩, ⟨1, sized.reqTypeName.len⟩,
                ⟨2, sized.repTopicName.len⟩, ⟨1, sized.repTypeName.len⟩⟩
            match computeServiceTopicNamesIn allocs.generate ros2NodeName.cStr ros2ServiceName.cStr
                (some ros2TypeName.cStr) buffers ptrs with
            | none => none
            | some (.ok, buffers) =>
              (ServiceStrings.read (buffers 0) (buffers 1) (buffers 2) (buffers 3)).map .ok
            | some (_, _) => some (.error (.error "failed to generate reader topic names"))
  | some (_, _) => some (.error (.error "failed to query size of service topic names"))

namespace Buffers

variable {buffers : Buffers} {address other : Nat} {buffer : List UInt8} {len : Nat}

@[simp] theorem store_same : buffers.store address ⟨some buffer, len⟩ address = buffer := by
  simp [store]

theorem store_ne (out : NameOut) (different : other ≠ address) :
    buffers.store address out other = buffers other := by
  unfold store
  cases out.buffer with
  | none => rfl
  | some buffer => exact Function.update_of_ne different buffer buffers

@[simp] theorem store_out (ptr : NamePtr) :
    buffers.store ptr.address (ptr.out buffers) = buffers :=
  Function.update_eq_self ptr.address buffers

end Buffers

/-! ## Buffers that are separate -/

/-- The reply is written elsewhere than the request. -/
structure ServicePtrs.Separate (ptrs : ServicePtrs) : Prop where
  replyTopic : ptrs.repTopicName.address ≠ ptrs.reqTopicName.address ∧
    ptrs.repTopicName.address ≠ ptrs.reqTypeName.address
  replyType : ptrs.repTypeName.address ≠ ptrs.reqTopicName.address ∧
    ptrs.repTypeName.address ≠ ptrs.reqTypeName.address

theorem NamePtr.out_storeRequest {ptr : NamePtr} {ptrs : ServicePtrs}
    (elsewhere : ptr.address ≠ ptrs.reqTopicName.address ∧ ptr.address ≠ ptrs.reqTypeName.address)
    (buffers : Buffers) (topicOut typeOut : NameOut) :
    ptr.out (buffers.storeRequest ptrs topicOut typeOut) = ptr.out buffers := by
  unfold out Buffers.storeRequest
  rw [Buffers.store_ne typeOut elsewhere.2, Buffers.store_ne topicOut elsewhere.1]

/-- On separate buffers the function is the one of its outputs. -/
theorem computeServiceTopicNamesIn_separate (stringAlloc : Nat → Bool)
    (nodeName serviceName : CString) (typeName : Option CString) (buffers : Buffers)
    {ptrs : ServicePtrs} (separate : ptrs.Separate) :
    computeServiceTopicNamesIn stringAlloc nodeName serviceName typeName buffers ptrs =
      (computeServiceTopicNames stringAlloc nodeName serviceName typeName (ptrs.names buffers)).map
        fun returned => (returned.1,
          (buffers.storeRequest ptrs returned.2.reqTopicName returned.2.reqTypeName).storeReply ptrs
            returned.2.repTopicName returned.2.repTypeName) := by
  have unwritten : ∀ topicOut typeOut,
      (buffers.storeRequest ptrs topicOut typeOut).storeReply ptrs (ptrs.repTopicName.out buffers)
        (ptrs.repTypeName.out buffers) = buffers.storeRequest ptrs topicOut typeOut := by
    intro topicOut typeOut
    rw [← NamePtr.out_storeRequest separate.replyTopic buffers topicOut typeOut,
      ← NamePtr.out_storeRequest separate.replyType buffers topicOut typeOut]
    unfold Buffers.storeReply
    rw [Buffers.store_out, Buffers.store_out]
  unfold computeServiceTopicNamesIn computeServiceTopicNames ServicePtrs.names
  dsimp only
  split
  · have untouched : buffers.storeRequest ptrs (ptrs.reqTopicName.out buffers)
        (ptrs.reqTypeName.out buffers) = buffers := by
      unfold Buffers.storeRequest
      rw [Buffers.store_out, Buffers.store_out]
    have restored := unwritten (ptrs.reqTopicName.out buffers) (ptrs.reqTypeName.out buffers)
    rw [untouched] at restored
    simp only [Option.map_some, untouched, restored]
  · cases reader : computeDdsReaderTopicNames (some (serviceTopicName nodeName serviceName)) typeName
        .service (ptrs.reqTopicName.out buffers) (ptrs.reqTypeName.out buffers) with
    | none => rfl
    | some returned =>
        obtain ⟨retcode, reqTopicName, reqTypeName⟩ := returned
        cases retcode with
        | ok =>
            simp only [NamePtr.out_storeRequest separate.replyTopic,
              NamePtr.out_storeRequest separate.replyType]
            cases computeDdsWriterTopicNames (some (serviceTopicName nodeName serviceName)) typeName
                .service (ptrs.repTopicName.out buffers) (ptrs.repTypeName.out buffers) with
            | none => rfl
            | some returned =>
                obtain ⟨retcode, repTopicName, repTypeName⟩ := returned
                cases retcode <;> rfl
        | _ => simp only [Option.map_some, unwritten]

/-! ## The strings of the two functions -/

namespace StdString

variable {text buffer : List UInt8} {string : StdString}

theorem ofBuffer_terminated (noNul : 0 ∉ text) (terminated : text ++ [0] <+: buffer) :
    ofBuffer buffer = some ⟨text⟩ := by
  obtain ⟨rest, rfl⟩ := terminated
  unfold ofBuffer
  rw [if_pos (by simp), List.append_assoc, takeWhile_text_append noNul]
  simp

/-- The string goes on behind a text at the front of its buffer. -/
theorem ofBuffer_begins (noNul : 0 ∉ text) (begins : text <+: buffer)
    (read : ofBuffer buffer = some string) : text <+: string.bytes := by
  obtain ⟨rest, rfl⟩ := begins
  obtain ⟨-, taken⟩ := Option.ite_none_right_eq_some.mp read
  cases taken
  rw [takeWhile_text_append noNul]
  exact List.prefix_append _ _

end StdString

theorem typeNameWritten_noNul (typeName typeSuffix : CString) (stemLen : Nat) :
    0 ∉ typeNameWritten typeName typeSuffix stemLen := by
  have stem : 0 ∉ typeName.chars.take stemLen := fun member =>
    typeName.noNul (List.mem_of_mem_take member)
  have colons : 0 ∉ doubleColon := by decide
  simp only [typeNameWritten, List.mem_append, not_or]
  exact ⟨⟨⟨stem, typeNamespace.noNul⟩, colons⟩, typeSuffix.noNul⟩

/-- Requests and responses differ in the length of their suffixes. -/
theorem response_not_prefix_request (typeName : CString) (stemLen : Nat) :
    ¬ typeNameWritten typeName typeSuffixResponse stemLen <+:
      typeNameWritten typeName typeSuffixRequest stemLen := by
  intro begins
  have shorter := begins.length_le
  simp [typeNameWritten, typeSuffixRequest, typeSuffixResponse, CString.ofChars] at shorter

/-- A type name on zeros is followed by one of them. -/
theorem writeTypeName_zeros {typeName typeSuffix : CString} {size : Nat} {done : NameOut}
    (returned : writeTypeName typeName typeSuffix (.ofBuffer (List.replicate size 0)) =
      some (.ok, done)) :
    ∃ stemLen written, typeStemLen typeName = some stemLen ∧ done.buffer = some written ∧
      StdString.ofBuffer written = some ⟨typeNameWritten typeName typeSuffix stemLen⟩ := by
  obtain ⟨written, len, rfl⟩ := writeTypeName_buffer rfl returned
  obtain ⟨stemLen, buffer, valid, held, enough, filled⟩ := writeTypeName_ok returned
  cases held
  refine ⟨stemLen, written, valid, rfl, StdString.ofBuffer_terminated
    (typeNameWritten_noNul typeName typeSuffix stemLen) ?_⟩
  have short := length_typeNameWritten typeName typeSuffix stemLen
  have room : typeNameLen typeName typeSuffix + 1 ≤ size := by
    simpa [NameOut.ofBuffer] using enough
  have zeros : (List.replicate size (0 : UInt8)).drop
      (typeNameWritten typeName typeSuffix stemLen).length =
        0 :: List.replicate (size - (typeNameWritten typeName typeSuffix stemLen).length - 1) 0 := by
    rw [List.drop_replicate, ← List.replicate_succ]
    congr 1
    omega
  rw [filled, zeros]
  exact ⟨_, List.append_assoc _ _ _⟩

theorem writeTopicName_zeros {topicName topicPrefix : CString} {size : Nat} {done : NameOut}
    (returned : writeTopicName topicName topicPrefix (.ofBuffer (List.replicate size 0)) =
      some (.ok, done)) :
    ∃ written, done.buffer = some written ∧
      StdString.ofBuffer written = some ⟨topicPrefix.chars ++ topicName.chars⟩ := by
  obtain ⟨written, len, rfl⟩ := writeTopicName_buffer rfl returned
  obtain ⟨buffer, -, filled⟩ := writeTopicName_ok returned
  refine ⟨written, rfl, StdString.ofBuffer_terminated ?_ ?_⟩
  · simp only [List.mem_append, not_or]
    exact ⟨topicPrefix.noNul, topicName.noNul⟩
  · rw [List.append_assoc]
    exact filled.prefix_current

/-- The strings of a service whose type name has a stem of the length. -/
def serviceStrings (nodeName serviceName typeName : CString) (stemLen : Nat) : ServiceStrings :=
  let topicName := serviceTopicName nodeName serviceName
  { reqTopicName := .ofCString (TopicRole.request.ddsTopicName topicName)
    reqTypeName := ⟨typeNameWritten typeName typeSuffixRequest stemLen⟩
    repTopicName := .ofCString (TopicRole.response.ddsTopicName topicName)
    repTypeName := ⟨typeNameWritten typeName typeSuffixResponse stemLen⟩ }

/-- These are what the C function writes on buffers of zeros. -/
theorem computeServiceTopicNames_zeroed {stringAlloc : Nat → Bool}
    {nodeName serviceName typeName : CString} {reqTopic reqType repTopic repType : Nat}
    {done : ServiceNames}
    (returned : computeServiceTopicNames stringAlloc nodeName serviceName (some typeName)
      (.zeroed reqTopic reqType repTopic repType) = some (.ok, done)) :
    ∃ stemLen, typeStemLen typeName = some stemLen ∧
      done.strings = some (serviceStrings nodeName serviceName typeName stemLen) := by
  have called : serviceCall stringAlloc nodeName serviceName typeName
      (ServiceNames.zeroed reqTopic reqType repTopic repType).outs = some (.ok, done.outs) := by
    unfold serviceCall ServiceNames.outs
    rw [returned]
    rfl
  obtain ⟨-, reader, writer⟩ := serviceCall_ok called
  obtain ⟨_, ⟨⟩, made⟩ := computeDdsReaderTopicNames_ok reader
  obtain ⟨_, ⟨⟩, -, -, madeReply⟩ := computeDdsWriterTopicNames_ok writer
  obtain ⟨topicWritten, typeWritten⟩ := makeDdsTopicAndTypeNames_ok made
  obtain ⟨replyTopicWritten, replyTypeWritten⟩ := makeDdsTopicAndTypeNames_ok madeReply
  obtain ⟨reqTopicBuf, reqTopicHeld, reqTopicRead⟩ := writeTopicName_zeros topicWritten
  obtain ⟨stemLen, reqTypeBuf, valid, reqTypeHeld, reqTypeRead⟩ := writeTypeName_zeros typeWritten
  obtain ⟨repTopicBuf, repTopicHeld, repTopicRead⟩ := writeTopicName_zeros replyTopicWritten
  obtain ⟨_, repTypeBuf, repValid, repTypeHeld, repTypeRead⟩ := writeTypeName_zeros replyTypeWritten
  cases valid.symm.trans repValid
  refine ⟨stemLen, valid, ?_⟩
  simp only [ServiceNames.outs] at reqTopicHeld reqTypeHeld repTopicHeld repTypeHeld
  simp only [ServiceNames.strings, ServiceStrings.read, reqTopicHeld, reqTypeHeld, repTopicHeld,
    repTypeHeld, reqTopicRead, reqTypeRead, repTopicRead, repTypeRead, Option.bind_eq_bind,
    Option.bind_some, pure]
  rfl

/-- The type of the reply is written last. -/
theorem computeServiceTopicNamesIn_ok {stringAlloc : Nat → Bool}
    {nodeName serviceName typeName : CString} {buffers after : Buffers} {ptrs : ServicePtrs}
    (returned : computeServiceTopicNamesIn stringAlloc nodeName serviceName (some typeName) buffers
      ptrs = some (.ok, after)) :
    ∃ stemLen, typeStemLen typeName = some stemLen ∧
      typeNameWritten typeName typeSuffixResponse stemLen <+: after ptrs.repTypeName.address := by
  unfold computeServiceTopicNamesIn at returned
  split at returned
  · cases returned
  · dsimp only at returned
    split at returned
    · cases returned
    · split at returned
      · cases returned
      · next writer =>
        cases returned
        obtain ⟨_, ⟨⟩, -, -, made⟩ := computeDdsWriterTopicNames_ok writer
        have typeWritten := (makeDdsTopicAndTypeNames_ok made).2
        obtain ⟨written, len, rfl⟩ := writeTypeName_buffer rfl typeWritten
        obtain ⟨stemLen, _, valid, -, -, filled⟩ := writeTypeName_ok typeWritten
        refine ⟨stemLen, valid, ?_⟩
        rw [Buffers.storeReply, Buffers.store_same]
        exact filled.prefix_current
      · cases returned
    · cases returned

/-- The request type that the C++ function returns is that of a response. -/
theorem cppComputeServiceTopicNames_ok {allocs : NameAllocs}
    {nodeName serviceName typeName : StdString} {strings : ServiceStrings}
    (returned : cppComputeServiceTopicNames allocs nodeName serviceName typeName =
      some (.ok strings)) :
    ∃ stemLen, typeStemLen typeName.cStr = some stemLen ∧
      typeNameWritten typeName.cStr typeSuffixResponse stemLen <+: strings.reqTypeName.bytes := by
  unfold cppComputeServiceTopicNames at returned
  split at returned
  · cases returned
  · split at returned
    · cases returned
    · split at returned
      · cases returned
      · split at returned
        · cases returned
        · split at returned
          · cases returned
          · dsimp only at returned
            split at returned
            · cases returned
            · next after generated =>
              obtain ⟨stemLen, valid, begins⟩ := computeServiceTopicNamesIn_ok generated
              obtain ⟨read, readBack, same⟩ := Option.map_eq_some_iff.mp returned
              cases same
              simp only [ServiceStrings.read, Option.bind_eq_bind, Option.bind_eq_some_iff]
                at readBack
              obtain ⟨_, -, reqType, reqTypeRead, _, -, _, -, result⟩ := readBack
              cases result
              exact ⟨stemLen, valid, StdString.ofBuffer_begins
                (typeNameWritten_noNul typeName.cStr typeSuffixResponse stemLen) begins reqTypeRead⟩
            · cases returned
  · cases returned

/-- Whatever the allocations hold, the C++ function does not return the strings
that the C function writes on separate buffers of zeros. -/
theorem cpp_service_names_differ {stringAlloc : Nat → Bool}
    {nodeName serviceName typeName : StdString} {reqTopic reqType repTopic repType : Nat}
    {done : ServiceNames}
    (returned : computeServiceTopicNames stringAlloc nodeName.cStr serviceName.cStr
      (some typeName.cStr) (.zeroed reqTopic reqType repTopic repType) = some (.ok, done)) :
    ∃ strings, done.strings = some strings ∧ ∀ allocs,
      cppComputeServiceTopicNames allocs nodeName serviceName typeName ≠ some (.ok strings) := by
  obtain ⟨stemLen, valid, left⟩ := computeServiceTopicNames_zeroed returned
  refine ⟨_, left, ?_⟩
  intro allocs same
  obtain ⟨cppStemLen, cppValid, response⟩ := cppComputeServiceTopicNames_ok same
  cases valid.symm.trans cppValid
  exact response_not_prefix_request typeName.cStr stemLen response

theorem cpp_service_names_differ_on_zeros :
    ∃ done strings, computeServiceTopicNames (fun _ => true) (StdString.ofCString firstName).cStr
        (StdString.ofCString serviceNameS).cStr (some (StdString.ofCString typeNameAB).cStr)
        (.zeroed 32 32 32 32) = some (.ok, done) ∧ done.strings = some strings ∧ ∀ allocs,
      cppComputeServiceTopicNames allocs (.ofCString firstName) (.ofCString serviceNameS)
        (.ofCString typeNameAB) ≠ some (.ok strings) := by
  obtain ⟨strings, left, differ⟩ := @cpp_service_names_differ (fun _ => true)
    (.ofCString firstName) (.ofCString serviceNameS) (.ofCString typeNameAB) 32 32 32 32 _ rfl
  exact ⟨_, strings, rfl, left, differ⟩

/-- Allocations that all succeed, each string with its terminator. -/
def zeroAllocs : NameAllocs where
  query _ := true
  generate _ := true
  reqTopicName length := some (List.replicate (length + 1) 0)
  reqTypeName length := some (List.replicate (length + 1) 0)
  repTopicName length := some (List.replicate (length + 1) 0)
  repTypeName length := some (List.replicate (length + 1) 0)

/-- The type of the response comes back for the request, and nothing for the reply. -/
theorem cpp_service_types_mixed_up :
    (∃ done, computeServiceTopicNames (fun _ => true) firstName serviceNameS (some typeNameAB)
        (.zeroed 32 32 32 32) = some (.ok, done) ∧
      done.strings = some (serviceStrings firstName serviceNameS typeNameAB 1)) ∧
    cppComputeServiceTopicNames zeroAllocs (.ofCString firstName) (.ofCString serviceNameS)
        (.ofCString typeNameAB) =
      some (.ok { serviceStrings firstName serviceNameS typeNameAB 1 with
        reqTypeName := ⟨typeNameWritten typeNameAB typeSuffixResponse 1⟩
        repTypeName := ⟨[]⟩ }) ∧
    typeNameWritten typeNameAB typeSuffixRequest 1 ≠
      typeNameWritten typeNameAB typeSuffixResponse 1 := by
  refine ⟨⟨_, rfl, by decide⟩, by decide +kernel, by decide⟩

end Ros2Graph
