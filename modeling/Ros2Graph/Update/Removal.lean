import Ros2Graph.Registry.Names
import Ros2Graph.Update.NoLostUpdate
import Ros2Graph.Update.Serving

/-! What an update says about a node that has been removed. The participants
that an update publishes for are those that own a node when it gathers them. -/

set_option autoImplicit false

namespace Ros2Graph

open Foundation

/-- `RTIROS2_CGraphSampleAdapter_convert_to_sample` as the function that the
update thread calls. -/
def cGraphSampleAdapter (dds : Dds) : ConvertToSampleFn ParticipantEntitiesInfo SampleEnv :=
  fun env graph ddsParticipant sample => graph.convertToSample dds env ddsParticipant sample

def StillListed (published : List (DomainParticipant × ParticipantEntitiesInfo))
    (identity : (Option CString × Option CString) × DomainParticipant) : Prop :=
  ∃ sample, lastFor published identity.2 = some sample ∧ identity.1 ∈ sample.nodeNames

namespace GraphSystem

def Registers {Sample Answers : Type} (dds : Dds)
    (identity : (Option CString × Option CString) × DomainParticipant)
    (sys : GraphSystem Sample) : Step Answers → Prop
  | .perform env operation =>
      operation.nodeRegistration sys.graph = some identity ∧
        (operation.perform dds env sys.graph).result.succeeded = true
  | _ => False

/-- One call of `RTIROS2_Graph_publish_update`, from where it gathers the
participants to where it has returned `DDS_RETCODE_OK`. -/
structure CompletedUpdate (dds : Dds) (start : GraphSystem ParticipantEntitiesInfo)
    (visits : List (GraphSystem ParticipantEntitiesInfo × Step SampleEnv))
    (last : GraphSystem ParticipantEntitiesInfo) : Prop where
  gathering : start.pc = .gather
  run : RunFrom dds (cGraphSampleAdapter dds) start visits last
  inside : ∀ visit ∈ visits, visit.1.pc.inUpdate = true
  returned : last.pc = .updated
  succeeded : last.retcode = .ok

/-- What holds during an update while a node is absent. -/
structure Underway (start : GraphSystem ParticipantEntitiesInfo)
    (identity : (Option CString × Option CString) × DomainParticipant)
    (sys : GraphSystem ParticipantEntitiesInfo) : Prop where
  absent : identity ∉ sys.graph.identities
  gathering : sys.pc = .gather → sys.graph = start.graph
  gathered : sys.pc = .gather ∨ sys.served = none ∨
    (identity.2 ∈ sys.participants.toList ↔ start.graph.Owns identity.2)
  clean : sys.pc = .unlockConvert ∨ sys.pc = .publish → sys.picked = some identity.2 →
    identity.1 ∉ sys.pinfo.nodeNames
  published : ∀ served, sys.served = some served →
    (identity.2 ∈ served → ¬ StillListed sys.published identity) ∧
    (identity.2 ∉ served →
      lastFor sys.published identity.2 = lastFor start.published identity.2)

end GraphSystem

section

open GraphSystem

variable {dds : Dds} {start sys following : GraphSystem ParticipantEntitiesInfo}
  {step : Step SampleEnv} {identity : (Option CString × Option CString) × DomainParticipant}

theorem StepEffect.absent (effect : StepEffect dds (cGraphSampleAdapter dds) sys step following)
    (distinct : sys.graph.HandlesDistinct) (absent : identity ∉ sys.graph.identities)
    (notAgain : ¬ sys.Registers dds identity step) : identity ∉ following.graph.identities := by
  cases effect with
  | @performed env operation =>
      cases (@Operation.perform_effect dds env sys.graph distinct operation).identities with
      | kept same => exact same ▸ absent
      | removed _ _ same =>
          exact fun member => absent ((List.eraseIdx_sublist _ _).mem (same ▸ member))
      | @registered other registers succeeded _ same =>
          intro member
          rw [same] at member
          rcases List.mem_append.mp member with listed | new
          · exact absent listed
          · cases List.mem_singleton.mp new
            exact notAgain ⟨registers, succeeded⟩
  | @inspected env =>
      rw [Graph.inspect_identities distinct]
      exact absent
  | _ => exact absent

theorem convertToSample_absent {graph : Graph} {env : SampleEnv}
    {sample result : ParticipantEntitiesInfo} (absent : identity ∉ graph.identities)
    (converted : graph.convertToSample dds env identity.2 sample = some (.ok, result)) :
    identity.1 ∉ result.nodeNames := by
  rw [convertToSample_nodeNames converted, Graph.advertised]
  intro member
  simp only [List.map_map, List.mem_map, List.mem_filter, beq_iff_eq] at member
  obtain ⟨node, ⟨listed, owner⟩, named⟩ := member
  refine absent (List.mem_map.mpr ⟨node, listed, ?_⟩)
  exact Prod.ext named owner

theorem published_absent {start published : List (DomainParticipant × ParticipantEntitiesInfo)}
    {served : List DomainParticipant} {dp : DomainParticipant} {sample : ParticipantEntitiesInfo}
    (before : (identity.2 ∈ served → ¬ StillListed published identity) ∧
      (identity.2 ∉ served → lastFor published identity.2 = lastFor start identity.2))
    (clean : dp = identity.2 → identity.1 ∉ sample.nodeNames) :
    (identity.2 ∈ served ++ [dp] → ¬ StillListed (published ++ [(dp, sample)]) identity) ∧
      (identity.2 ∉ served ++ [dp] →
        lastFor (published ++ [(dp, sample)]) identity.2 = lastFor start identity.2) := by
  simp only [List.mem_append, List.mem_singleton, StillListed, lastFor_append]
  by_cases same : dp = identity.2
  · simpa [same] using clean same
  · have other : identity.2 ≠ dp := fun equal => same equal.symm
    simpa [same, other, StillListed] using before

theorem StepEffect.underway (effect : StepEffect dds (cGraphSampleAdapter dds) sys step following)
    (excluded : sys.Excluded) (distinct : sys.graph.HandlesDistinct)
    (inside : sys.pc.inUpdate = true) (notAgain : ¬ sys.Registers dds identity step)
    (underway : Underway start identity sys) : Underway start identity following := by
  have serving : Serving
      (fun participants => identity.2 ∈ participants ↔ start.graph.Owns identity.2)
      (fun dp sample => dp = identity.2 → identity.1 ∉ sample.nodeNames)
      (fun published served => (identity.2 ∈ served → ¬ StillListed published identity) ∧
        (identity.2 ∉ served →
          lastFor published identity.2 = lastFor start.published identity.2)) following := by
    refine effect.serving inside ?_ ?_ (fun _ _ _ _ => published_absent)
      ⟨underway.gathered, fun here dp picked same => underway.clean here (same ▸ picked),
        underway.published⟩
    · intro granted participants here ran
      have members := @mem_gathered_iff identity.2 _ _ _ _ ran
      rwa [underway.gathering here] at members
    · rintro answers _ pinfo - ran rfl
      exact convertToSample_absent underway.absent ran
  refine ⟨effect.absent distinct underway.absent notAgain, fun here => ?_, serving.gathered,
    fun here picked => serving.converted here _ picked rfl, serving.published⟩
  obtain ⟨before, same⟩ := effect.still_gathering excluded inside here
  exact same.trans (underway.gathering before)

namespace GraphSystem

theorem RunFrom.absent {past later : List (GraphSystem ParticipantEntitiesInfo × Step SampleEnv)}
    (run : Run dds (cGraphSampleAdapter dds) past start)
    (absent : identity ∉ start.graph.identities)
    (onward : RunFrom dds (cGraphSampleAdapter dds) start later sys)
    (notAgain : ∀ visit ∈ later, ¬ visit.1.Registers dds identity visit.2) :
    identity ∉ sys.graph.identities := by
  induction onward with
  | start same => exact same ▸ absent
  | extend onward stepped ih =>
      obtain ⟨_, registry⟩ := Run.graph (run.append onward)
      exact (Steps.effect stepped).absent registry.distinct
        (ih fun visit member => notAgain visit (List.mem_append_left _ member))
        (notAgain _ (List.mem_append_right _ List.mem_cons_self))

theorem RunFrom.underway
    {past visits : List (GraphSystem ParticipantEntitiesInfo × Step SampleEnv)}
    (run : Run dds (cGraphSampleAdapter dds) past start) (gathering : start.pc = .gather)
    (absent : identity ∉ start.graph.identities)
    (onward : RunFrom dds (cGraphSampleAdapter dds) start visits sys)
    (inside : ∀ visit ∈ visits, visit.1.pc.inUpdate = true)
    (notAgain : ∀ visit ∈ visits, ¬ visit.1.Registers dds identity visit.2) :
    Underway start identity sys := by
  induction onward with
  | start same =>
      subst same
      refine ⟨absent, fun _ => rfl, .inl gathering, by simp [gathering], ?_⟩
      intro list listEq
      cases (served_gathering gathering).symm.trans listEq
      exact ⟨by simp, fun _ => rfl⟩
  | extend onward stepped ih =>
      have reached := run.append onward
      obtain ⟨_, registry⟩ := Run.graph reached
      exact (Steps.effect stepped).underway (Run.excluded reached) registry.distinct
        (inside _ (List.mem_append_right _ List.mem_cons_self))
        (notAgain _ (List.mem_append_right _ List.mem_cons_self))
        (ih (fun visit member => inside visit (List.mem_append_left _ member))
          (fun visit member => notAgain visit (List.mem_append_left _ member)))

end GraphSystem

/-- After the removal of a node, an update that completes leaves it unlisted
exactly when the participant still owns a node as the update gathers, or the
last sample published for it did not list the node any more. -/
theorem removed_unlisted_iff {past later visits : List
      (GraphSystem ParticipantEntitiesInfo × Step SampleEnv)}
    {removed last : GraphSystem ParticipantEntitiesInfo} {env : CallEnv} {nodeHandle : NodeHandle}
    {ptr : NodePtr} {node : GraphNode}
    (run : GraphSystem.Run dds (cGraphSampleAdapter dds) past sys)
    (removal : sys.Steps dds (cGraphSampleAdapter dds)
      (.perform env (.unregisterLocalNode nodeHandle)) removed)
    (listed : sys.graph.lookupLocalNodeByHandle nodeHandle = some (ptr, node))
    (onward : RunFrom dds (cGraphSampleAdapter dds) removed later start)
    (update : CompletedUpdate dds start visits last)
    (notAgain : ∀ visit ∈ later ++ visits, ¬ visit.1.Registers dds node.identity visit.2) :
    ¬ StillListed last.published node.identity ↔
      start.graph.Owns node.ddsParticipant ∨ ¬ StillListed start.published node.identity := by
  obtain ⟨_, registry⟩ := Run.graph run
  have gone : node.identity ∉ removed.graph.identities := by
    have registryEq : removed.graph = sys.graph.finalizeNode ptr := by
      rw [removal.2]
      simp only [GraphSystem.next, Operation.perform, Graph.unregisterLocalNode, listed]
      rfl
    rw [registryEq, Graph.identities, Graph.finalizeNode_nodes, ← List.eraseIdx_map]
    exact Graph.removed_identity registry.namesDistinct (Graph.lookup_node_found listed).1
  have afterRemoval := run.extend removal
  have absent := RunFrom.absent afterRemoval gone onward
    (fun visit member => notAgain visit (List.mem_append_left _ member))
  have underway := RunFrom.underway (afterRemoval.append onward) update.gathering absent update.run
    update.inside (fun visit member => notAgain visit (List.mem_append_right _ member))
  obtain ⟨all, gathered⟩ := served_completed update.returned update.succeeded underway.gathered
  obtain ⟨unlisted, kept⟩ := underway.published _ all
  by_cases owner : start.graph.Owns node.ddsParticipant
  · exact iff_of_true (unlisted (gathered.mpr owner)) (.inl owner)
  · have same := kept (fun member => owner (gathered.mp member))
    unfold StillListed
    rw [same]
    exact (or_iff_right owner).symm

end

def beforeRemoval : GraphSystem ParticipantEntitiesInfo :=
  (GraphSystem.started Duration.infinite default).after clientsDds (cGraphSampleAdapter clientsDds)
    (.testActive :: callSteps (.registerLocalNode (some firstName) none none) ++
      updateSteps SampleEnv.granting ++ [.enter])

def removalStep : Step SampleEnv :=
  .perform (.granting (.answering [] [])) (.unregisterLocalNode 0)

def afterRemoval : GraphSystem ParticipantEntitiesInfo :=
  beforeRemoval.next clientsDds (cGraphSampleAdapter clientsDds) removalStep

def stepsToGather : List (Step SampleEnv) :=
  .leave :: callSteps (.registerLocalNode (some secondName) none (some ⟨1⟩)) ++
    [.takePermit, .retest, .drain, .lockGather]

def atGather : GraphSystem ParticipantEntitiesInfo :=
  afterRemoval.after clientsDds (cGraphSampleAdapter clientsDds) stepsToGather

def stepsToReturn : List (Step SampleEnv) :=
  [.gather (fun _ => true), .unlockGather, .pick, .lockConvert, .convert .granting,
    .unlockConvert, .publish .ok, .pick]

def afterUpdate : GraphSystem ParticipantEntitiesInfo :=
  atGather.after clientsDds (cGraphSampleAdapter clientsDds) stepsToReturn

theorem removal_notAgain (sys : GraphSystem ParticipantEntitiesInfo) :
    ∀ step ∈ stepsToGather ++ stepsToReturn,
      ¬ sys.Registers clientsDds oneNode.identity step := by
  have another : oneNode.identity.2 ≠ ⟨1⟩ := by decide
  simp only [stepsToGather, callSteps, stepsToReturn, List.cons_append, List.nil_append,
    List.forall_mem_cons, GraphSystem.Registers, Operation.nodeRegistration, Option.getD_some,
    Option.some.injEq, not_false_eq_true, true_and]
  refine ⟨fun again => another ?_, by simp⟩
  rw [← again.1]

theorem removal_run : ∃ past later visits,
    GraphSystem.Run clientsDds (cGraphSampleAdapter clientsDds) past beforeRemoval ∧
    beforeRemoval.Steps clientsDds (cGraphSampleAdapter clientsDds) removalStep afterRemoval ∧
    GraphSystem.RunFrom clientsDds (cGraphSampleAdapter clientsDds) afterRemoval later atGather ∧
    GraphSystem.CompletedUpdate clientsDds atGather visits afterUpdate ∧
    ∀ visit ∈ later ++ visits, ¬ visit.1.Registers clientsDds oneNode.identity visit.2 := by
  obtain ⟨past, run, _⟩ := @GraphSystem.Run.ofReplay _ _ clientsDds
    (cGraphSampleAdapter clientsDds) Duration.infinite default
    (.testActive :: callSteps (.registerLocalNode (some firstName) none none) ++
      updateSteps SampleEnv.granting ++ [.enter]) rfl
  obtain ⟨later, onward, amongLater⟩ := @GraphSystem.RunFrom.ofReplay _ _ clientsDds
    (cGraphSampleAdapter clientsDds) afterRemoval stepsToGather rfl
  obtain ⟨visits, cycle, amongVisits⟩ := @GraphSystem.RunFrom.ofReplay _ _ clientsDds
    (cGraphSampleAdapter clientsDds) atGather stepsToReturn rfl
  refine ⟨past, later, visits, run, ⟨rfl, rfl⟩, onward, ⟨rfl, cycle, ?_, rfl, rfl⟩, ?_⟩
  · intro visit member
    obtain ⟨enabled, among⟩ := amongVisits visit member
    exact GraphSystem.enabled_inUpdate enabled
      (List.all_eq_true.mp (rfl : stepsToReturn.all Step.ofUpdate = true) _ among)
  · intro visit member
    refine removal_notAgain visit.1 visit.2 (List.mem_append.mpr ?_)
    rcases List.mem_append.mp member with before | within
    · exact .inl (amongLater visit before).2
    · exact .inr (amongVisits visit within).2

theorem removed_unlisted_iff_last_node :
    ¬ StillListed afterUpdate.published oneNode.identity ↔
      atGather.graph.Owns oneNode.ddsParticipant ∨
        ¬ StillListed atGather.published oneNode.identity := by
  obtain ⟨past, later, visits, run, removal, onward, update, notAgain⟩ := removal_run
  exact @removed_unlisted_iff clientsDds _ _ past later visits _ _ _ 0 0 oneNode run removal rfl
    onward update notAgain

/-- The last node of a participant stays listed. -/
theorem removed_last_node_listed :
    ¬ ∀ (dds : Dds) (sys removed start last : GraphSystem ParticipantEntitiesInfo)
        (past later visits : List (GraphSystem ParticipantEntitiesInfo × Step SampleEnv))
        (env : CallEnv) (nodeHandle : NodeHandle) (ptr : NodePtr) (node : GraphNode),
      GraphSystem.Run dds (cGraphSampleAdapter dds) past sys →
      (∃ entry ∈ sys.published, entry.1 = node.ddsParticipant ∧
        node.fullName ∈ entry.2.nodeNames) →
      sys.Steps dds (cGraphSampleAdapter dds)
        (.perform env (.unregisterLocalNode nodeHandle)) removed →
      sys.graph.lookupLocalNodeByHandle nodeHandle = some (ptr, node) →
      GraphSystem.RunFrom dds (cGraphSampleAdapter dds) removed later start →
      GraphSystem.CompletedUpdate dds start visits last →
      (∀ visit ∈ later ++ visits, ¬ visit.1.Registers dds node.identity visit.2) →
      ¬ StillListed last.published node.identity := by
  intro unlisted
  obtain ⟨past, later, visits, run, removal, onward, update, notAgain⟩ := removal_run
  refine unlisted clientsDds _ _ _ _ past later visits _ 0 0 oneNode run ?_ removal rfl onward
    update notAgain ?_
  · exact ⟨_, List.mem_cons_self, rfl, List.mem_cons_self⟩
  · exact ⟨_, rfl, List.mem_cons_self⟩

end Ros2Graph
