import Ros2Graph.Cpp.Graph
import Ros2Graph.Foundation.SlotLoop
import Ros2Graph.Update.Thread

/-! Conversion of the registry to a sample of the C++ API. The graph is
converted to a C sample first, which is then copied. -/

set_option autoImplicit false

namespace Ros2Graph

open Foundation

/-- `RTIROS2::NodeEntitiesInfo`. -/
structure CppNodeEntitiesInfo where
  nodeNamespace : StdString
  nodeName : StdString
  readerGidSeq : List Gid
  writerGidSeq : List Gid

instance : Inhabited CppNodeEntitiesInfo := ⟨⟨⟨[]⟩, ⟨[]⟩, [], []⟩⟩

/-- `RTIROS2::ParticipantEntitiesInfo`. -/
structure CppParticipantEntitiesInfo where
  gid : Gid
  nodeEntitiesInfoSeq : List CppNodeEntitiesInfo

instance : Inhabited CppParticipantEntitiesInfo := ⟨⟨default, []⟩⟩

/-- The two samples that a C++ graph keeps for its conversions; the C sample is
`none` while it is NULL. -/
structure CppPinfo where
  cSample : Option ParticipantEntitiesInfo
  sample : CppParticipantEntitiesInfo

/-- Which assignments to a node succeed, of those that throw when memory runs out. -/
structure CppNodeSampleEnv where
  nodeName : Bool
  nodeNamespace : Bool
  resizeReaders : Bool
  resizeWriters : Bool

structure CppSampleEnv where
  cSample : SampleEnv
  resizeNodes : Bool
  node : Nat → CppNodeSampleEnv

def CppNodeSampleEnv.granting : CppNodeSampleEnv := ⟨true, true, true, true⟩

def CppSampleEnv.granting : CppSampleEnv where
  cSample := .granting
  resizeNodes := true
  node := fun _ => .granting

/-- Memory suffices for the C++ sample. -/
def CppSampleEnv.Sufficient (env : CppSampleEnv) : Prop :=
  env.resizeNodes = true ∧ ∀ index, env.node index = .granting

/-- One iteration of the loop over the nodes, with whether it ends without an
exception. `none` stands for a string that is made of NULL. -/
def copyNode (env : CppNodeSampleEnv) (cNode : NodeEntitiesInfo) (cppNode : CppNodeEntitiesInfo) :
    Option (Bool × CppNodeEntitiesInfo) :=
  match cNode.nodeName with
  | none => none
  | some nodeName =>
    if !env.nodeName then some (false, cppNode)
    else
      let cppNode := { cppNode with nodeName := .ofCString nodeName }
      match cNode.nodeNamespace with
      | none => none
      | some nodeNamespace =>
        if !env.nodeNamespace then some (false, cppNode)
        else
          let cppNode := { cppNode with nodeNamespace := .ofCString nodeNamespace }
          if !env.resizeReaders then some (false, cppNode)
          else
            let readers := resize cppNode.readerGidSeq cNode.readerGidSeq.length
            if !env.resizeWriters then some (false, { cppNode with readerGidSeq := readers })
            else
              let writers := resize cppNode.writerGidSeq cNode.writerGidSeq.length
              some (true, { cppNode with
                readerGidSeq := overwrite readers 0 cNode.readerGidSeq.toList
                writerGidSeq := overwrite writers 0 cNode.writerGidSeq.toList })

/-- The `try` block of the conversion. -/
def copySample (env : CppSampleEnv) (cSample : ParticipantEntitiesInfo)
    (sample : CppParticipantEntitiesInfo) : Option (Bool × CppParticipantEntitiesInfo) :=
  let sample := { sample with gid := cSample.gid }
  if !env.resizeNodes then some (false, sample)
  else
    let nodesLen := cSample.nodeEntitiesInfoSeq.length
    let nodes := resize sample.nodeEntitiesInfoSeq nodesLen
    (updateSlots (fun index => copyNode (env.node index)) cSample.nodeEntitiesInfoSeq.toList 0
      nodes).map fun copied => (copied.1, { sample with nodeEntitiesInfoSeq := copied.2 })

/-- `RTIROS2_CppGraphSampleAdapter_convert_to_sample`. -/
def cppGraphSampleAdapter (dds : Dds) : ConvertToSampleFn CppPinfo CppSampleEnv :=
  fun env graph ddsParticipant pinfo =>
    match pinfo.cSample with
    | none => some (.error, pinfo)
    | some cSample =>
      match graph.convertToSample dds env.cSample ddsParticipant cSample with
      | none => none
      | some (.ok, cSample) =>
        match copySample env cSample pinfo.sample with
        | none => none
        | some (true, sample) => some (.ok, { cSample := some cSample, sample })
        | some (false, sample) => some (.error, { cSample := some cSample, sample })
      | some (_, cSample) => some (.error, { pinfo with cSample := some cSample })

/-! What a subscriber reads of a sample, in either API. -/

structure NodeContent where
  nodeNamespace : Option CString
  nodeName : Option CString
  readerGids : List Gid
  writerGids : List Gid
  deriving DecidableEq

structure SampleContent where
  gid : Gid
  nodes : List NodeContent
  deriving DecidableEq

def NodeEntitiesInfo.content (info : NodeEntitiesInfo) : NodeContent where
  nodeNamespace := info.nodeNamespace
  nodeName := info.nodeName
  readerGids := info.readerGidSeq.toList
  writerGids := info.writerGidSeq.toList

def CppNodeEntitiesInfo.content (info : CppNodeEntitiesInfo) : NodeContent where
  nodeNamespace := some info.nodeNamespace.cStr
  nodeName := some info.nodeName.cStr
  readerGids := info.readerGidSeq
  writerGids := info.writerGidSeq

def ParticipantEntitiesInfo.content (sample : ParticipantEntitiesInfo) : SampleContent where
  gid := sample.gid
  nodes := sample.nodeEntitiesInfoSeq.toList.map (·.content)

def CppParticipantEntitiesInfo.content (sample : CppParticipantEntitiesInfo) : SampleContent where
  gid := sample.gid
  nodes := sample.nodeEntitiesInfoSeq.map (·.content)

section

variable {dds : Dds}

theorem copyNode_true {env : CppNodeSampleEnv} {cNode : NodeEntitiesInfo}
    {cppNode result : CppNodeEntitiesInfo} (ran : copyNode env cNode cppNode = some (true, result)) :
    result.content = cNode.content := by
  have readers := @overwrite_resize Gid _ cppNode.readerGidSeq cNode.readerGidSeq.toList
  have writers := @overwrite_resize Gid _ cppNode.writerGidSeq cNode.writerGidSeq.toList
  rw [ReusedSeq.length_toList] at readers writers
  unfold copyNode at ran
  split at ran
  · cases ran
  · next nodeName named =>
    split at ran
    · cases ran
    · dsimp only at ran
      split at ran
      · cases ran
      · next nodeNamespace spaced =>
        split at ran
        · cases ran
        · split at ran
          · cases ran
          · split at ran
            · cases ran
            · cases ran
              simp only [CppNodeEntitiesInfo.content, NodeEntitiesInfo.content,
                StdString.cStr_ofCString, named, spaced, readers, writers]

theorem copySample_true {env : CppSampleEnv} {cSample : ParticipantEntitiesInfo}
    {sample result : CppParticipantEntitiesInfo}
    (ran : copySample env cSample sample = some (true, result)) :
    result.content = cSample.content := by
  unfold copySample at ran
  dsimp only at ran
  split at ran
  · cases ran
  · obtain ⟨⟨ended, nodes⟩, copied, same⟩ := Option.map_eq_some_iff.mp ran
    cases same
    have fits : (resize sample.nodeEntitiesInfoSeq cSample.nodeEntitiesInfoSeq.length).length =
        0 + cSample.nodeEntitiesInfoSeq.toList.length := by simp
    have sameNode : ∀ index cNode cppNode result,
        copyNode (env.node index) cNode cppNode = some (true, result) →
          cNode.content = result.content :=
      fun _ _ _ _ done => (copyNode_true done).symm
    obtain ⟨written, whole, related⟩ := updateSlots_true sameNode fits copied
    have contents : List.Forall₂ Eq (cSample.nodeEntitiesInfoSeq.toList.map (·.content))
        (written.map (·.content)) := by
      rwa [List.forall₂_map_left_iff, List.forall₂_map_right_iff]
    rw [List.forall₂_eq_eq_eq] at contents
    simp only [CppParticipantEntitiesInfo.content, ParticipantEntitiesInfo.content, whole,
      List.take_zero, List.nil_append, contents]

theorem copyNode_defined {env : CppNodeSampleEnv} {cNode : NodeEntitiesInfo}
    (named : cNode.nodeName.isSome = true ∧ cNode.nodeNamespace.isSome = true)
    (cppNode : CppNodeEntitiesInfo) :
    ∃ result, copyNode env cNode cppNode = some result ∧ (env = .granting → result.1 = true) := by
  obtain ⟨nodeName, name⟩ := Option.isSome_iff_exists.mp named.1
  obtain ⟨nodeNamespace, space⟩ := Option.isSome_iff_exists.mp named.2
  simp only [copyNode, name, space]
  repeat' split
  all_goals refine ⟨_, rfl, ?_⟩
  all_goals
    rintro rfl
    simp_all [CppNodeSampleEnv.granting]

theorem copySample_defined {env : CppSampleEnv} {cSample : ParticipantEntitiesInfo}
    (named : ∀ info ∈ cSample.nodeEntitiesInfoSeq.toList,
      info.nodeName.isSome = true ∧ info.nodeNamespace.isSome = true)
    (sample : CppParticipantEntitiesInfo) :
    ∃ result, copySample env cSample sample = some result ∧
      (env.Sufficient → result.1 = true) := by
  unfold copySample
  dsimp only
  split
  · next refused =>
    refine ⟨_, rfl, fun sufficient => ?_⟩
    simp [sufficient.1] at refused
  · have fits : (resize sample.nodeEntitiesInfoSeq cSample.nodeEntitiesInfoSeq.length).length =
        0 + cSample.nodeEntitiesInfoSeq.toList.length := by simp
    have defined : ∀ index, ∀ cNode ∈ cSample.nodeEntitiesInfoSeq.toList, ∀ cppNode, ∃ result,
        copyNode (env.node index) cNode cppNode = some result ∧
          (env.Sufficient → result.1 = true) := by
      intro index cNode member cppNode
      obtain ⟨result, copied, granted⟩ :=
        @copyNode_defined (env.node index) cNode (named cNode member) cppNode
      exact ⟨result, copied, fun sufficient => granted (sufficient.2 index)⟩
    obtain ⟨result, copied, whole⟩ := updateSlots_defined defined fits
    exact ⟨_, congrArg (Option.map _) copied, whole⟩

/-- What a C++ conversion makes of the C sample of the graph: the same as a C
conversion. It succeeds where that one does, unless memory runs out, and the
two samples then read the same. -/
theorem cppGraphSampleAdapter_spec {env : CppSampleEnv} {graph : Graph}
    {participant : DomainParticipant} {pinfo : CppPinfo} {before after : ParticipantEntitiesInfo}
    {retcode : ReturnCode} (known : pinfo.cSample = some before)
    (ran : graph.convertToSample dds env.cSample participant before = some (retcode, after))
    (named : retcode = .ok → ∀ info ∈ after.nodeEntitiesInfoSeq.toList,
      info.nodeName.isSome = true ∧ info.nodeNamespace.isSome = true) :
    ∃ code result, cppGraphSampleAdapter dds env graph participant pinfo = some (code, result) ∧
      result.cSample = some after ∧
      (code = .ok → retcode = .ok ∧ result.sample.content = after.content) ∧
      (env.Sufficient → retcode = .ok → code = .ok) := by
  simp only [cppGraphSampleAdapter, known, ran]
  cases retcode with
  | ok =>
      obtain ⟨⟨ended, sample⟩, copied, whole⟩ := @copySample_defined env after (named rfl) pinfo.sample
      dsimp only
      rw [copied]
      cases ended with
      | true => exact ⟨_, _, rfl, rfl, fun _ => ⟨rfl, copySample_true copied⟩, fun _ _ => rfl⟩
      | false =>
          refine ⟨_, _, rfl, rfl, by simp, fun sufficient => ?_⟩
          exact absurd (whole sufficient) (by simp)
  | _ => exact ⟨_, _, rfl, rfl, by simp, by simp⟩

end

end Ros2Graph
