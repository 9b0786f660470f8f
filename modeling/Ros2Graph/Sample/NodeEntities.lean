import Ros2Graph.Foundation.ReusedSeq
import Ros2Graph.Registry.Lookup

/-! Conversion of a node to the sample that describes it. The sample is a
buffer that keeps the contents of its earlier uses. -/

set_option autoImplicit false

namespace Ros2Graph

open Foundation

/-- `RTIROS2_Gid`. -/
structure Gid where
  data : Vector UInt8 24
  deriving DecidableEq, Repr

/-- The key hash, followed by zeros. -/
def ihToGid (ih : InstanceHandle) : Gid :=
  ⟨Vector.ofFn fun index => if inside : index.val < 16 then ih.keyHash[index.val] else 0⟩

instance : Inhabited Gid := ⟨⟨Vector.replicate 24 0⟩⟩

namespace Dds

/-- `RTIROS2_Graph_compute_reader_gid`, of a reader that is not NULL. -/
def computeReaderGid (dds : Dds) (ddsReader : DataReader) : Gid :=
  ihToGid (dds.readerInstanceHandle ddsReader)

/-- `RTIROS2_Graph_compute_writer_gid`, of a writer that is not NULL. -/
def computeWriterGid (dds : Dds) (ddsWriter : DataWriter) : Gid :=
  ihToGid (dds.writerInstanceHandle ddsWriter)

end Dds

/-- `RTIROS2_NodeEntitiesInfo`. -/
structure NodeEntitiesInfo where
  nodeNamespace : Option CString
  nodeName : Option CString
  readerGidSeq : ReusedSeq Gid
  writerGidSeq : ReusedSeq Gid

instance : Inhabited NodeEntitiesInfo := ⟨⟨none, none, .empty, .empty⟩⟩

/-- What the libraries answer during one conversion of a node. -/
structure NodeSampleEnv where
  dupName : Bool
  dupNamespace : Bool
  readerGids : Bool
  writerGids : Bool

inductive GidSide where
  | reader
  | writer
  deriving DecidableEq, Repr

/-- The locals of the loop over endpoints, with the two sequences it fills.
`gidSeq` is `none` while it is NULL. -/
structure GidCursor where
  ih : InstanceHandle
  readerI : Nat
  writerI : Nat
  endpI : Nat
  gidSeq : Option GidSide
  readers : ReusedSeq Gid
  writers : ReusedSeq Gid

namespace GidCursor

def start (readers writers : ReusedSeq Gid) : GidCursor where
  ih := ⟨Vector.replicate 16 0⟩
  readerI := 0
  writerI := 0
  endpI := 0
  gidSeq := none
  readers := readers
  writers := writers

def aimAtReader (dds : Dds) (cursor : GidCursor) (endp : GraphEndpoint) : GidCursor :=
  match endp.ddsReader with
  | none => cursor
  | some ddsReader =>
      { cursor with
        ih := dds.readerInstanceHandle ddsReader
        gidSeq := some .reader
        endpI := cursor.readerI
        readerI := cursor.readerI + 1 }

/-- The second `if` of the loop. It replaces what the first one has chosen. -/
def aimAtWriter (dds : Dds) (cursor : GidCursor) (endp : GraphEndpoint) : GidCursor :=
  match endp.ddsWriter with
  | none => cursor
  | some ddsWriter =>
      { cursor with
        ih := dds.writerInstanceHandle ddsWriter
        gidSeq := some .writer
        endpI := cursor.writerI
        writerI := cursor.writerI + 1 }

/-- `none` when the reference is NULL, or the sequence is. -/
def writeGid (cursor : GidCursor) : Option GidCursor :=
  match cursor.gidSeq with
  | none => none
  | some .reader =>
      (cursor.readers.getReference cursor.endpI).map fun _ =>
        { cursor with readers := cursor.readers.write cursor.endpI (ihToGid cursor.ih) }
  | some .writer =>
      (cursor.writers.getReference cursor.endpI).map fun _ =>
        { cursor with writers := cursor.writers.write cursor.endpI (ihToGid cursor.ih) }

def visitEndpoint (dds : Dds) (cursor : GidCursor) (endp : GraphEndpoint) : Option GidCursor :=
  ((cursor.aimAtReader dds endp).aimAtWriter dds endp).writeGid

end GidCursor

namespace GraphNode

/-- The sample is returned as the conversion left it, also when it failed;
`none` stands for a write through a NULL reference. -/
def nodeToSample (dds : Dds) (env : NodeSampleEnv) (node : GraphNode) (sample : NodeEntitiesInfo) :
    Option (ReturnCode × NodeEntitiesInfo) :=
  if !env.dupName then some (.error, { sample with nodeName := none })
  else
    let sample := { sample with nodeName := node.nodeName }
    if !env.dupNamespace then some (.error, { sample with nodeNamespace := none })
    else
      let sample := { sample with nodeNamespace := node.nodeNamespace }
      let readersLen := node.readersLen.toNat
      match sample.readerGidSeq.ensureLength env.readerGids readersLen readersLen with
      | none => some (.error, sample)
      | some readers =>
        let sample := { sample with readerGidSeq := readers }
        let writersLen := node.writersLen.toNat
        match sample.writerGidSeq.ensureLength env.writerGids writersLen writersLen with
        | none => some (.error, sample)
        | some writers =>
          (node.endpoints.foldlM (GidCursor.visitEndpoint dds) (.start readers writers)).map
            fun cursor => (.ok,
              { sample with readerGidSeq := cursor.readers, writerGidSeq := cursor.writers })

end GraphNode

end Ros2Graph
