import Ros2Graph.Registry.Endpoint

/-! What registration and removal of one endpoint do to a node. -/

set_option autoImplicit false

namespace Ros2Graph

open Foundation

/-! The kind of a topic name depends on the side, and a prefix decides it. -/

theorem detect_writer_ne_subscription (topicName : CString) :
    detectEndpointType topicName true ≠ .subscription := by
  unfold detectEndpointType
  split
  · simp
  · split
    · simp
    · split <;> simp

theorem detect_reader_ne_publisher (topicName : CString) :
    detectEndpointType topicName false ≠ .publisher := by
  unfold detectEndpointType
  split
  · simp
  · split
    · simp
    · split <;> simp

theorem detect_unknown_iff (topicName : CString) :
    detectEndpointType topicName true = .unknown ↔
      detectEndpointType topicName false = .unknown := by
  unfold detectEndpointType
  split
  · simp
  · split
    · simp
    · split <;> simp

theorem detect_sides_differ (topicName : CString)
    (conforming : detectEndpointType topicName true ≠ .unknown) :
    detectEndpointType topicName true ≠ detectEndpointType topicName false := by
  unfold detectEndpointType at conforming ⊢
  split
  · simp
  · split
    · simp
    · split
      · simp
      · simp_all

/-- The topic carries requests or replies, not plain data. -/
def isServiceTopic (topicName : CString) : Bool :=
  let kind := detectEndpointType topicName false
  kind == .client || kind == .service

theorem isServiceTopic_writer (topicName : CString) :
    isServiceTopic topicName = true ↔
      detectEndpointType topicName true = .client ∨
        detectEndpointType topicName true = .service := by
  unfold isServiceTopic detectEndpointType
  split
  · simp
  · split
    · simp
    · split <;> simp

theorem conforming_of_service {topicName : CString} (service : isServiceTopic topicName = true) :
    detectEndpointType topicName false ≠ .unknown ∧
      detectEndpointType topicName true ≠ .unknown := by
  have reader : detectEndpointType topicName false ≠ .unknown := by
    intro unknown
    simp [isServiceTopic, unknown] at service
  exact ⟨reader, fun unknown => reader ((detect_unknown_iff topicName).mp unknown)⟩

namespace GraphNode

theorem lookup_handle_isSome_iff {node : GraphNode} {handle : EndpointHandle} :
    (node.lookupLocalEndpointByHandle handle).isSome = true ↔
      ∃ endp ∈ node.endpoints, endp.handle = handle := by
  unfold lookupLocalEndpointByHandle
  rw [locate_isSome_iff]
  simp only [beq_iff_eq]

theorem nextEndpointHandle_found {node : GraphNode} {handle : EndpointHandle}
    (found : node.nextEndpointHandle.1 = some handle) :
    0 ≤ handle ∧ ∀ endp ∈ node.endpoints, endp.handle ≠ handle := by
  obtain ⟨nonnegative, free⟩ := searchHandle_found (Prod.ext found rfl)
  refine ⟨nonnegative, fun endp member same => ?_⟩
  have present := lookup_handle_isSome_iff.mpr ⟨endp, member, same⟩
  simp [present] at free

/-- The checks that registration makes before it allocates anything. -/
structure Admits (dds : Dds) (node : GraphNode) (endpType : EndpointType)
    (ddsReader : Option DataReader) (ddsWriter : Option DataWriter) : Prop where
  unused : node.lookupLocalEndpointByDdsEndpoints ddsReader ddsWriter = none
  readerKind : ∀ reader ∈ ddsReader,
    detectEndpointType (dds.readerTopicName reader) false = endpType
  writerKind : ∀ writer ∈ ddsWriter,
    detectEndpointType (dds.writerTopicName writer) true = endpType

section

variable {dds : Dds} {env : CallEnv} {pool : FastBufferPool} {node : GraphNode}
  {endpType : EndpointType} {ddsReader : Option DataReader} {ddsWriter : Option DataWriter}

theorem registerEndpoint_admitted
    (admitted : node.Admits dds endpType ddsReader ddsWriter) :
    node.registerEndpoint dds env pool endpType ddsReader ddsWriter =
      match node.nextEndpointHandle.1, env.endpointBuffer pool.outstanding with
      | some handle, true =>
          (⟨pool.outstanding + 1⟩,
            node.nextEndpointHandle.2.linkEndpoint ⟨handle, ddsReader, ddsWriter, endpType⟩,
            some ⟨handle, ddsReader, ddsWriter, endpType⟩)
      | _, _ => (pool, node.nextEndpointHandle.2, none) := by
  have reader : (ddsReader.any fun reader =>
      endpType != detectEndpointType (dds.readerTopicName reader) false) = false := by
    cases ddsReader with
    | none => rfl
    | some reader => simp [admitted.readerKind reader rfl]
  have writer : (ddsWriter.any fun writer =>
      endpType != detectEndpointType (dds.writerTopicName writer) true) = false := by
    cases ddsWriter with
    | none => rfl
    | some writer => simp [admitted.writerKind writer rfl]
  unfold registerEndpoint
  rw [admitted.unused, reader, writer]
  cases found : node.nextEndpointHandle with
  | mk handle moved =>
      cases handle with
      | none => simp
      | some handle =>
          cases granted : env.endpointBuffer pool.outstanding <;>
            simp [FastBufferPool.getBuffer, granted]

theorem registerEndpoint_refused
    (refused : ¬ node.Admits dds endpType ddsReader ddsWriter) :
    node.registerEndpoint dds env pool endpType ddsReader ddsWriter = (pool, node, none) := by
  unfold registerEndpoint
  split
  · rfl
  · next unused =>
    split
    · rfl
    · next reader =>
      split
      · rfl
      · next writer =>
        refine absurd ⟨by simpa using unused, ?_, ?_⟩ refused
        · intro item member
          cases member
          exact (by simpa using reader : endpType = _).symm
        · intro item member
          cases member
          exact (by simpa using writer : endpType = _).symm

/-- Everything one registration can do. -/
theorem registerEndpoint_cases :
    (∃ counter, node.registerEndpoint dds env pool endpType ddsReader ddsWriter =
        (pool, { node with endpHandleNext := counter }, none)) ∨
      ∃ handle counter, node.Admits dds endpType ddsReader ddsWriter ∧
        0 ≤ handle ∧ (∀ endp ∈ node.endpoints, endp.handle ≠ handle) ∧
        env.endpointBuffer pool.outstanding = true ∧
        node.registerEndpoint dds env pool endpType ddsReader ddsWriter =
          (⟨pool.outstanding + 1⟩,
            { node with endpHandleNext := counter }.linkEndpoint
              ⟨handle, ddsReader, ddsWriter, endpType⟩,
            some ⟨handle, ddsReader, ddsWriter, endpType⟩) := by
  by_cases admitted : node.Admits dds endpType ddsReader ddsWriter
  · rw [registerEndpoint_admitted admitted]
    cases found : node.nextEndpointHandle.1 with
    | none => exact .inl ⟨_, rfl⟩
    | some handle =>
        cases granted : env.endpointBuffer pool.outstanding with
        | false => exact .inl ⟨_, rfl⟩
        | true =>
            obtain ⟨nonnegative, fresh⟩ := nextEndpointHandle_found found
            exact .inr ⟨handle, _, admitted, nonnegative, fresh, rfl, rfl⟩
  · exact .inl ⟨node.endpHandleNext, registerEndpoint_refused admitted⟩

theorem registerEndpoint_handle {after : FastBufferPool} {left : GraphNode}
    {added : Option GraphEndpoint}
    (ran : node.registerEndpoint dds env pool endpType ddsReader ddsWriter =
      (after, left, added)) : left.handle = node.handle := by
  rcases registerEndpoint_cases with ⟨_, failed⟩ | ⟨_, _, _, _, _, _, done⟩
  · cases ran.symm.trans failed
    rfl
  · cases ran.symm.trans done
    rfl

theorem registerEndpoint_none {after : FastBufferPool} {left : GraphNode}
    (ran : node.registerEndpoint dds env pool endpType ddsReader ddsWriter =
      (after, left, none)) : ∃ counter, left = { node with endpHandleNext := counter } := by
  rcases registerEndpoint_cases with ⟨counter, failed⟩ | ⟨_, _, _, _, _, _, done⟩
  · cases ran.symm.trans failed
    exact ⟨counter, rfl⟩
  · cases ran.symm.trans done

end

theorem finalizeEndpoint_endpoints (node : GraphNode) (pool : FastBufferPool) (ptr : EndpointPtr) :
    (node.finalizeEndpoint pool ptr).2.endpoints = node.endpoints.eraseIdx ptr := by
  unfold finalizeEndpoint
  cases present : node.endpoints[ptr]? with
  | none => rw [List.eraseIdx_of_length_le (List.getElem?_eq_none_iff.mp present)]
  | some endp => rfl

theorem finalizeEndpoint_sublist (node : GraphNode) (pool : FastBufferPool) (ptr : EndpointPtr) :
    (node.finalizeEndpoint pool ptr).2.endpoints.Sublist node.endpoints := by
  rw [finalizeEndpoint_endpoints]
  exact List.eraseIdx_sublist _ _

end GraphNode

end Ros2Graph
