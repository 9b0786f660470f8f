import Ros2Graph.Cpp.SampleAdapter
import Ros2Graph.Registry.Representation
import Ros2Graph.Update.Liveness
import Ros2Graph.Update.Removal

/-! The conversions of both adapters return, at the latest when memory is refused to them: no
registry that a run leads to leaves the update thread in a conversion for good. -/

set_option autoImplicit false

namespace Ros2Graph

open Foundation

def NodeSampleEnv.refusing : NodeSampleEnv := ⟨false, false, false, false⟩

def SampleEnv.refusing : SampleEnv := ⟨false, fun _ => .refusing⟩

def CppNodeSampleEnv.refusing : CppNodeSampleEnv := ⟨false, false, false, false⟩

def CppSampleEnv.refusing : CppSampleEnv := ⟨.refusing, false, fun _ => .refusing⟩

namespace Graph

variable {dds : Dds} {graph : Graph}

/-- The counter of the nodes does not overflow. -/
theorem Run.nodesLen {past : List (Graph × Event)} (run : Run dds past graph) :
    graph.nodesLen.toNat = graph.nodes.length := by
  have few := handles_length_le run.distinct fun handle member => by
    obtain ⟨node, listed, rfl⟩ := List.mem_map.mp member
    obtain ⟨_, _, _, _, _, _, _, _, _, nonnegative, _⟩ := run.registered node listed
    exact nonnegative
  rw [List.length_map] at few
  rw [run.accounted.1.nodesLen, UInt64.toNat_ofNat']
  exact Nat.mod_eq_of_lt (by omega)

/-- The first node of the participant is one too many. -/
theorem fillNodeInfos_refused (ddsParticipant : DomainParticipant) {nodes : List GraphNode}
    {infos : ReusedSeq NodeEntitiesInfo} (fits : nodes.length ≤ infos.length) :
    (fillNodeInfos dds .refusing ddsParticipant nodes 0 infos).isSome = true := by
  induction nodes with
  | nil => rfl
  | cons node rest ih =>
      rw [List.length_cons] at fits
      unfold fillNodeInfos
      split
      · have inside : infos.getReference 0 = some (infos.slot 0) := if_pos (by omega)
        simp [inside, GraphNode.nodeToSample, SampleEnv.refusing, NodeSampleEnv.refusing]
      · exact ih (by omega)

theorem convertToSample_refused (counted : graph.nodesLen.toNat = graph.nodes.length)
    (ddsParticipant : DomainParticipant) (sample : ParticipantEntitiesInfo) :
    (graph.convertToSample dds .refusing ddsParticipant sample).isSome = true := by
  unfold convertToSample
  dsimp only
  split
  · rfl
  · next infos sized =>
    obtain ⟨length, _⟩ := ReusedSeq.ensureLength_eq_some sized
    obtain ⟨⟨retcode, nodeI, filled⟩, ran⟩ := Option.isSome_iff_exists.mp
      (@fillNodeInfos_refused dds ddsParticipant graph.nodes infos (by omega))
    rw [ran]
    cases retcode with
    | ok => dsimp only; split <;> rfl
    | _ => rfl

end Graph

theorem cGraphSampleAdapter_canReturn (dds : Dds) : (cGraphSampleAdapter dds).CanReturn dds := by
  rintro graph dp sample ⟨_, run⟩
  exact ⟨.refusing, Graph.convertToSample_refused (Graph.Run.nodesLen run) dp sample⟩

theorem cppGraphSampleAdapter_canReturn (dds : Dds) :
    (cppGraphSampleAdapter dds).CanReturn dds := by
  rintro graph dp pinfo ⟨_, run⟩
  refine ⟨.refusing, ?_⟩
  unfold cppGraphSampleAdapter
  split
  · rfl
  · next cSample _ =>
    obtain ⟨⟨retcode, converted⟩, ran⟩ := Option.isSome_iff_exists.mp
      (Graph.convertToSample_refused (Graph.Run.nodesLen run) dp cSample)
    rw [show CppSampleEnv.refusing.cSample = .refusing from rfl, ran]
    cases retcode with
    | ok => rfl
    | _ => rfl

end Ros2Graph
