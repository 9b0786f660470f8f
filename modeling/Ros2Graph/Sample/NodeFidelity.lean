import Mathlib.Data.List.Basic
import Ros2Graph.Sample.NodeEntities

/-! What a successful conversion of a node leaves in the buffer: every slot of
the two sequences, whatever the buffer contained before. -/

set_option autoImplicit false

namespace Ros2Graph

open Foundation

namespace GraphEndpoint

def hasReader (endp : GraphEndpoint) : Bool := endp.ddsReader.isSome
def hasWriter (endp : GraphEndpoint) : Bool := endp.ddsWriter.isSome

end GraphEndpoint

namespace GraphNode

def ddsReaders (node : GraphNode) : List DataReader := node.endpoints.filterMap (·.ddsReader)

def ddsWriters (node : GraphNode) : List DataWriter := node.endpoints.filterMap (·.ddsWriter)

structure Counted (node : GraphNode) : Prop where
  endpointsLen : node.endpointsLen.toNat = node.endpoints.length
  readersLen : node.readersLen.toNat = node.endpoints.countP GraphEndpoint.hasReader
  writersLen : node.writersLen.toNat = node.endpoints.countP GraphEndpoint.hasWriter

end GraphNode

/-- The sample says about the node exactly what the node is. -/
structure NodeEntitiesInfo.Describes (dds : Dds) (node : GraphNode) (sample : NodeEntitiesInfo) :
    Prop where
  nodeName : sample.nodeName = node.nodeName
  nodeNamespace : sample.nodeNamespace = node.nodeNamespace
  readerGids : sample.readerGidSeq.toList = node.ddsReaders.map dds.computeReaderGid
  writerGids : sample.writerGidSeq.toList = node.ddsWriters.map dds.computeWriterGid

/-- The identifier that the loop writes to the reader sequence for an endpoint:
none for one that has a writer too. -/
def GraphEndpoint.writtenReaderGid (dds : Dds) (endp : GraphEndpoint) : Option Gid :=
  if endp.hasWriter then none else endp.ddsReader.map dds.computeReaderGid

def GraphEndpoint.writtenWriterGid (dds : Dds) (endp : GraphEndpoint) : Option Gid :=
  endp.ddsWriter.map dds.computeWriterGid

/-- The state of the loop after these endpoints. -/
structure GidCursor.Filled (dds : Dds) (readers writers : ReusedSeq Gid)
    (visited : List GraphEndpoint) (cursor : GidCursor) : Prop where
  readerI : cursor.readerI = (visited.filter GraphEndpoint.hasReader).length
  writerI : cursor.writerI = (visited.filter GraphEndpoint.hasWriter).length
  readersLength : cursor.readers.length = readers.length
  writersLength : cursor.writers.length = writers.length
  readerSlots : cursor.readers.slot = ReusedSeq.filledSlot GraphEndpoint.hasReader
    (GraphEndpoint.writtenReaderGid dds) readers.slot visited
  writerSlots : cursor.writers.slot = ReusedSeq.filledSlot GraphEndpoint.hasWriter
    (GraphEndpoint.writtenWriterGid dds) writers.slot visited
  -- an endpoint without entities would write the last identifier once more
  readerAim : cursor.gidSeq = some .reader →
    cursor.readers.slot cursor.endpI = ihToGid cursor.ih
  writerAim : cursor.gidSeq = some .writer →
    cursor.writers.slot cursor.endpI = ihToGid cursor.ih

namespace GidCursor

variable {dds : Dds} {readers writers : ReusedSeq Gid} {visited : List GraphEndpoint}
  {cursor next : GidCursor}

theorem Filled.start (dds : Dds) (readers writers : ReusedSeq Gid) :
    Filled dds readers writers [] (.start readers writers) where
  readerI := rfl
  writerI := rfl
  readersLength := rfl
  writersLength := rfl
  readerSlots := rfl
  writerSlots := rfl
  readerAim := fun aimed => by cases aimed
  writerAim := fun aimed => by cases aimed

/-- A write repeats what its slot contains when it is aimed there already. -/
theorem writeGid_repeated (filled : Filled dds readers writers visited cursor)
    (written : cursor.writeGid = some next) : next = cursor := by
  unfold writeGid at written
  split at written
  · cases written
  · next aimed =>
    obtain ⟨_, _, rfl⟩ := Option.map_eq_some_iff.mp written
    rw [← filled.readerAim aimed]
    simp [ReusedSeq.write]
  · next aimed =>
    obtain ⟨_, _, rfl⟩ := Option.map_eq_some_iff.mp written
    rw [← filled.writerAim aimed]
    simp [ReusedSeq.write]

theorem Filled.visit (filled : Filled dds readers writers visited cursor) {endp : GraphEndpoint}
    (visit : cursor.visitEndpoint dds endp = some next) :
    Filled dds readers writers (visited ++ [endp]) next := by
  unfold visitEndpoint at visit
  cases reader : endp.ddsReader with
  | none =>
      have noReader : endp.hasReader = false := by simp [GraphEndpoint.hasReader, reader]
      cases writer : endp.ddsWriter with
      | none =>
          have noWriter : endp.hasWriter = false := by simp [GraphEndpoint.hasWriter, writer]
          simp only [aimAtReader, reader, aimAtWriter, writer] at visit
          rw [writeGid_repeated filled visit]
          exact ⟨by simp [filled.readerI, noReader], by simp [filled.writerI, noWriter],
            filled.readersLength, filled.writersLength,
            by rw [ReusedSeq.filledSlot_rejected noReader, filled.readerSlots],
            by rw [ReusedSeq.filledSlot_rejected noWriter, filled.writerSlots],
            filled.readerAim, filled.writerAim⟩
      | some ddsWriter =>
          have written : endp.writtenWriterGid dds = some (dds.computeWriterGid ddsWriter) := by
            simp [GraphEndpoint.writtenWriterGid, writer]
          have hasWriter : endp.hasWriter = true := by simp [GraphEndpoint.hasWriter, writer]
          simp only [aimAtReader, reader, aimAtWriter, writer, writeGid] at visit
          obtain ⟨_, _, rfl⟩ := Option.map_eq_some_iff.mp visit
          refine ⟨by simp [filled.readerI, noReader], by simp [filled.writerI, hasWriter],
            filled.readersLength, filled.writersLength, ?_, ?_,
            (fun aimed => by cases aimed), (fun _ => by simp)⟩
          · rw [ReusedSeq.filledSlot_rejected noReader, filled.readerSlots]
          · rw [ReusedSeq.filledSlot_written hasWriter written, ← filled.writerSlots,
              ← filled.writerI]
            rfl
  | some ddsReader =>
      have hasReader : endp.hasReader = true := by simp [GraphEndpoint.hasReader, reader]
      cases writer : endp.ddsWriter with
      | none =>
          have noWriter : endp.hasWriter = false := by simp [GraphEndpoint.hasWriter, writer]
          have written : endp.writtenReaderGid dds = some (dds.computeReaderGid ddsReader) := by
            simp [GraphEndpoint.writtenReaderGid, reader, noWriter]
          simp only [aimAtReader, reader, aimAtWriter, writer, writeGid] at visit
          obtain ⟨_, _, rfl⟩ := Option.map_eq_some_iff.mp visit
          refine ⟨by simp [filled.readerI, hasReader], by simp [filled.writerI, noWriter],
            filled.readersLength, filled.writersLength, ?_, ?_,
            (fun _ => by simp), (fun aimed => by cases aimed)⟩
          · rw [ReusedSeq.filledSlot_written hasReader written, ← filled.readerSlots,
              ← filled.readerI]
            rfl
          · rw [ReusedSeq.filledSlot_rejected noWriter, filled.writerSlots]
      | some ddsWriter =>
          -- both sides: the reader is counted, but only the writer is written
          have hasWriter : endp.hasWriter = true := by simp [GraphEndpoint.hasWriter, writer]
          have passed : endp.writtenReaderGid dds = none := by
            simp [GraphEndpoint.writtenReaderGid, hasWriter]
          have written : endp.writtenWriterGid dds = some (dds.computeWriterGid ddsWriter) := by
            simp [GraphEndpoint.writtenWriterGid, writer]
          simp only [aimAtReader, reader, aimAtWriter, writer, writeGid] at visit
          obtain ⟨_, _, rfl⟩ := Option.map_eq_some_iff.mp visit
          refine ⟨by simp [filled.readerI, hasReader], by simp [filled.writerI, hasWriter],
            filled.readersLength, filled.writersLength, ?_, ?_,
            (fun aimed => by cases aimed), (fun _ => by simp)⟩
          · rw [ReusedSeq.filledSlot_passed hasReader passed, filled.readerSlots]
          · rw [ReusedSeq.filledSlot_written hasWriter written, ← filled.writerSlots,
              ← filled.writerI]
            rfl

theorem Filled.visitAll (filled : Filled dds readers writers visited cursor)
    {endpoints : List GraphEndpoint}
    (visit : endpoints.foldlM (visitEndpoint dds) cursor = some next) :
    Filled dds readers writers (visited ++ endpoints) next := by
  induction endpoints generalizing cursor visited with
  | nil =>
      cases visit
      simpa using filled
  | cons endp rest ih =>
      obtain ⟨middle, first, onward⟩ := Option.bind_eq_some_iff.mp visit
      simpa using ih (filled.visit first) onward

theorem Filled.visit_isSome (filled : Filled dds readers writers visited cursor)
    {endp : GraphEndpoint} (sided : endp.hasReader = true ∨ endp.hasWriter = true)
    (readerRoom : endp.hasReader = true →
      (visited.filter GraphEndpoint.hasReader).length < readers.length)
    (writerRoom : endp.hasWriter = true →
      (visited.filter GraphEndpoint.hasWriter).length < writers.length) :
    ∃ next, cursor.visitEndpoint dds endp = some next := by
  unfold visitEndpoint
  cases writer : endp.ddsWriter with
  | some ddsWriter =>
      have room := writerRoom (by simp [GraphEndpoint.hasWriter, writer])
      rw [← filled.writerI, ← filled.writersLength] at room
      cases reader : endp.ddsReader with
      | none => simp [aimAtReader, reader, aimAtWriter, writer, writeGid,
          ReusedSeq.getReference, room]
      | some ddsReader => simp [aimAtReader, reader, aimAtWriter, writer, writeGid,
          ReusedSeq.getReference, room]
  | none =>
      have noWriter : endp.hasWriter = false := by simp [GraphEndpoint.hasWriter, writer]
      have hasReader := sided.resolve_right (by simp [noWriter])
      have room := readerRoom hasReader
      rw [← filled.readerI, ← filled.readersLength] at room
      obtain ⟨ddsReader, reader⟩ := Option.isSome_iff_exists.mp hasReader
      simp [aimAtReader, reader, aimAtWriter, writer, writeGid, ReusedSeq.getReference, room]

theorem Filled.visitAll_isSome (filled : Filled dds readers writers visited cursor)
    {endpoints : List GraphEndpoint}
    (sided : ∀ endp ∈ endpoints, endp.hasReader = true ∨ endp.hasWriter = true)
    (readerRoom : ((visited ++ endpoints).filter GraphEndpoint.hasReader).length ≤ readers.length)
    (writerRoom : ((visited ++ endpoints).filter GraphEndpoint.hasWriter).length ≤ writers.length) :
    ∃ next, endpoints.foldlM (visitEndpoint dds) cursor = some next := by
  induction endpoints generalizing cursor visited with
  | nil => exact ⟨cursor, rfl⟩
  | cons endp rest ih =>
      obtain ⟨middle, first⟩ := filled.visit_isSome (sided endp List.mem_cons_self)
        (fun present => by
          simp only [List.filter_append, List.filter_cons, present, if_true, List.length_append,
            List.length_cons] at readerRoom
          omega)
        (fun present => by
          simp only [List.filter_append, List.filter_cons, present, if_true, List.length_append,
            List.length_cons] at writerRoom
          omega)
      obtain ⟨next, onward⟩ := ih (filled.visit first)
        (fun later member => sided later (List.mem_cons_of_mem _ member))
        (by simpa using readerRoom) (by simpa using writerRoom)
      exact ⟨next, by rw [List.foldlM_cons, first]; exact onward⟩

end GidCursor

theorem GraphNode.nodeToSample_ok {dds : Dds} {env : NodeSampleEnv} {node : GraphNode}
    {sample result : NodeEntitiesInfo}
    (succeeded : node.nodeToSample dds env sample = some (.ok, result)) :
    result.nodeName = node.nodeName ∧ result.nodeNamespace = node.nodeNamespace ∧
      result.readerGidSeq.length = node.readersLen.toNat ∧
      result.writerGidSeq.length = node.writersLen.toNat ∧
      result.readerGidSeq.slot = ReusedSeq.filledSlot GraphEndpoint.hasReader
        (GraphEndpoint.writtenReaderGid dds) sample.readerGidSeq.slot node.endpoints ∧
      result.writerGidSeq.slot = ReusedSeq.filledSlot GraphEndpoint.hasWriter
        (GraphEndpoint.writtenWriterGid dds) sample.writerGidSeq.slot node.endpoints := by
  unfold nodeToSample at succeeded
  split at succeeded
  · cases succeeded
  · split at succeeded
    · cases succeeded
    · dsimp only at succeeded
      split at succeeded
      · cases succeeded
      · next readers sized =>
        split at succeeded
        · cases succeeded
        · next writers sizedToo =>
          obtain ⟨cursor, ran, same⟩ := Option.map_eq_some_iff.mp succeeded
          cases same
          obtain ⟨readersLength, readersSlot⟩ := ReusedSeq.ensureLength_eq_some sized
          obtain ⟨writersLength, writersSlot⟩ := ReusedSeq.ensureLength_eq_some sizedToo
          have filled := (GidCursor.Filled.start dds readers writers).visitAll ran
          refine ⟨rfl, rfl, filled.readersLength.trans readersLength,
            filled.writersLength.trans writersLength, ?_, ?_⟩
          · rw [filled.readerSlots, readersSlot]
            rfl
          · rw [filled.writerSlots, writersSlot]
            rfl

/-- Where an endpoint holds both sides, the buffer already contains the
identifier of its reader, from an earlier use. -/
def GraphNode.StaleReadersMatch (dds : Dds) (node : GraphNode) (before : ReusedSeq Gid) : Prop :=
  ∀ index endp ddsReader, (node.endpoints.filter GraphEndpoint.hasReader)[index]? = some endp →
    endp.ddsReader = some ddsReader → endp.hasWriter = true →
    before.slot index = dds.computeReaderGid ddsReader

section

variable {dds : Dds} {env : NodeSampleEnv} {node : GraphNode} {sample result : NodeEntitiesInfo}

theorem nodeToSample_writerGids
    (writersCounted : node.writersLen.toNat = node.endpoints.countP GraphEndpoint.hasWriter)
    (succeeded : node.nodeToSample dds env sample = some (.ok, result)) :
    result.writerGidSeq.toList = node.ddsWriters.map dds.computeWriterGid := by
  obtain ⟨_, _, _, length, _, slots⟩ := GraphNode.nodeToSample_ok succeeded
  unfold GraphNode.ddsWriters
  rw [List.map_filterMap]
  refine (ReusedSeq.toList_filled_iff ?_ slots ?_ (fun _ _ written => written)).mpr ?_
  · rw [length, writersCounted, List.countP_eq_length_filter]
  · intro endp
    cases writer : endp.ddsWriter <;>
      simp [GraphEndpoint.hasWriter, GraphEndpoint.writtenWriterGid, writer]
  · intro index endp gid _ passed present
    exact absurd (passed.symm.trans present) (by simp)

theorem nodeToSample_readerGids_iff
    (readersCounted : node.readersLen.toNat = node.endpoints.countP GraphEndpoint.hasReader)
    (succeeded : node.nodeToSample dds env sample = some (.ok, result)) :
    result.readerGidSeq.toList = node.ddsReaders.map dds.computeReaderGid ↔
      node.StaleReadersMatch dds sample.readerGidSeq := by
  obtain ⟨_, _, length, _, slots, _⟩ := GraphNode.nodeToSample_ok succeeded
  unfold GraphNode.ddsReaders
  rw [List.map_filterMap]
  refine (ReusedSeq.toList_filled_iff ?_ slots ?_ ?_).trans ?_
  · rw [length, readersCounted, List.countP_eq_length_filter]
  · intro endp
    cases reader : endp.ddsReader <;> simp [GraphEndpoint.hasReader, reader]
  · intro endp gid written
    unfold GraphEndpoint.writtenReaderGid at written
    split at written
    · cases written
    · exact written
  · constructor
    · intro stale index endp ddsReader found reader both
      exact stale index endp _ found (by simp [GraphEndpoint.writtenReaderGid, both])
        (by simp [reader])
    · intro stale index endp gid found passed present
      obtain ⟨ddsReader, reader, rfl⟩ := Option.map_eq_some_iff.mp present
      apply stale index endp ddsReader found reader
      cases both : endp.hasWriter with
      | true => rfl
      | false => simp [GraphEndpoint.writtenReaderGid, both, reader] at passed

/-- A successful conversion describes the node exactly when the slots that it
passes over were right before it. -/
theorem nodeToSample_describes_iff
    (readersCounted : node.readersLen.toNat = node.endpoints.countP GraphEndpoint.hasReader)
    (writersCounted : node.writersLen.toNat = node.endpoints.countP GraphEndpoint.hasWriter)
    (succeeded : node.nodeToSample dds env sample = some (.ok, result)) :
    result.Describes dds node ↔ node.StaleReadersMatch dds sample.readerGidSeq := by
  have readers := nodeToSample_readerGids_iff readersCounted succeeded
  constructor
  · intro describes
    exact readers.mp describes.readerGids
  · intro stale
    obtain ⟨nodeName, nodeNamespace, _⟩ := GraphNode.nodeToSample_ok succeeded
    exact ⟨nodeName, nodeNamespace, readers.mpr stale,
      nodeToSample_writerGids writersCounted succeeded⟩

def clientNode : GraphNode where
  handle := 0
  endpoints := [⟨0, some ⟨1⟩, some ⟨2⟩, .client⟩]
  endpointsLen := 1
  writersLen := 1
  readersLen := 1
  endpHandleNext := 1
  nodeName := some firstName
  nodeNamespace := some rootNamespace
  ddsParticipant := ⟨0⟩

def clientDds : Dds := .onTopics (fun _ => topicPrefixResponse) (fun _ => topicPrefixRequest)

private theorem clientNode_nodeToSample :
    ∃ result, clientNode.nodeToSample clientDds ⟨true, true, true, true⟩ default =
      some (.ok, result) := ⟨_, rfl⟩

theorem nodeToSample_describes_iff_client :
    ∃ result, clientNode.nodeToSample clientDds ⟨true, true, true, true⟩ default =
        some (.ok, result) ∧
      (result.Describes clientDds clientNode ↔
        clientNode.StaleReadersMatch clientDds ReusedSeq.empty) := by
  obtain ⟨result, succeeded⟩ := clientNode_nodeToSample
  exact ⟨result, succeeded, nodeToSample_describes_iff rfl rfl succeeded⟩

/-- The first sample of a node with a client lacks the identifier of its reader. -/
theorem nodeToSample_misses_client_reader :
    ¬ ∀ (dds : Dds) (env : NodeSampleEnv) (node : GraphNode) (sample result : NodeEntitiesInfo),
      node.readersLen.toNat = node.endpoints.countP GraphEndpoint.hasReader →
        node.writersLen.toNat = node.endpoints.countP GraphEndpoint.hasWriter →
          node.nodeToSample dds env sample = some (.ok, result) → result.Describes dds node := by
  intro faithful
  obtain ⟨result, succeeded⟩ := clientNode_nodeToSample
  have described := (faithful _ _ _ _ result rfl rfl succeeded).readerGids
  -- the slot of the reader still is the zero it was in the fresh buffer
  have stale := (nodeToSample_readerGids_iff rfl succeeded).mp described 0 _ ⟨1⟩ rfl rfl rfl
  revert stale
  decide

theorem nodeToSample_succeeds
    (readersCounted : node.readersLen.toNat = node.endpoints.countP GraphEndpoint.hasReader)
    (writersCounted : node.writersLen.toNat = node.endpoints.countP GraphEndpoint.hasWriter)
    (sided : ∀ endp ∈ node.endpoints, endp.hasReader = true ∨ endp.hasWriter = true) :
    ∃ answer, node.nodeToSample dds env sample = some answer := by
  unfold GraphNode.nodeToSample
  split
  · exact ⟨_, rfl⟩
  · split
    · exact ⟨_, rfl⟩
    · dsimp only
      split
      · exact ⟨_, rfl⟩
      · next readers sized =>
        split
        · exact ⟨_, rfl⟩
        · next writers sizedToo =>
          have readersLength := (ReusedSeq.ensureLength_eq_some sized).1
          have writersLength := (ReusedSeq.ensureLength_eq_some sizedToo).1
          obtain ⟨cursor, ran⟩ := (GidCursor.Filled.start dds readers writers).visitAll_isSome sided
            (by rw [readersLength, readersCounted, List.countP_eq_length_filter]; simp)
            (by rw [writersLength, writersCounted, List.countP_eq_length_filter]; simp)
          rw [ran]
          exact ⟨_, rfl⟩

end

end Ros2Graph
