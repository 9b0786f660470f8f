import Ros2Graph.Update.Behaviour

/-! No update is lost: without polling, what an operation has queued is
published before the update thread comes to rest. -/

set_option autoImplicit false

namespace Ros2Graph

open Foundation

def Graph.snapshotOf {Sample : Type} (snapshot : DomainParticipant → List GraphNode → Sample)
    (graph : Graph) (participant : DomainParticipant) : Sample :=
  snapshot participant graph.listing

namespace GraphSystem

variable {Sample Answers : Type}

def UpdateSucceeds (convert : ConvertToSampleFn Sample Answers) (sys : GraphSystem Sample) :
    Step Answers → Prop
  | .gather granted => (sys.graph.gatherDomainParticipants granted sys.participants).1 = .ok
  | .convert answers => ∀ retcode pinfo,
      sys.converted convert answers = some (retcode, pinfo) → retcode = .ok
  | .publish retcode => retcode = .ok
  | _ => True

/-- An operation is neither the removal of a listed node nor an inspection that
stops halfway. -/
def Notifies (dds : Dds) (sys : GraphSystem Sample) : Step Answers → Prop
  | .perform env operation =>
      ¬ operation.RemovesNode sys.graph ∧ ¬ operation.StopsHalfway dds env sys.graph
  | _ => True

def CallerInside (sys : GraphSystem Sample) : Prop :=
  sys.mutexSelf = .entered ∨ ∃ events, sys.mutexSelf = .leaving events

/-- A permit is there, or a call will give one before it gives `mutex_self`. -/
def Pending (sys : GraphSystem Sample) : Prop :=
  0 < sys.semPinfo ∨
    ∃ events, sys.mutexSelf = .leaving events ∧ queuedBeforeRelease events = true

/-- The update thread will leave its loop. -/
def Stopping (sys : GraphSystem Sample) : Prop :=
  sys.threadPinfoActive = false ∧ sys.pc ≠ .awaitPermit

/-- The update thread is on its way to publish for the participant. -/
def WillPublish (sys : GraphSystem Sample) (participant : DomainParticipant) : Prop :=
  match sys.pc with
  | .retest | .drain | .lockGather | .gather => True
  | .unlockGather => participant ∈ sys.participants.toList
  | .pick | .lockConvert | .convert | .unlockConvert | .publish =>
      participant ∈ sys.participants.toList.drop sys.i
  | _ => False

structure Settled (snapshot : DomainParticipant → List GraphNode → Sample)
    (sys : GraphSystem Sample) : Prop where
  converted : sys.pc = .unlockConvert ∨ sys.pc = .publish →
    ∀ dp, sys.picked = some dp → sys.pinfo = sys.graph.snapshotOf snapshot dp
  upToDate : ∀ participant, sys.graph.Owns participant →
    lastFor sys.published participant = some (sys.graph.snapshotOf snapshot participant) ∨
      sys.WillPublish participant

structure Unpolled (sys : GraphSystem Sample) : Prop where
  disabled : sys.enablePoll = false
  nowhere : sys.pc ≠ .lockPoll ∧ sys.pc ≠ .poll ∧ sys.pc ≠ .retake
  granted : sys.pc = .retest → sys.takeRc = .ok

end GraphSystem

section

open GraphSystem

variable {Sample : Type} {dds : Dds} {snapshot : DomainParticipant → List GraphNode → Sample}
  {sys following : GraphSystem Sample} {step : Step Unit}

theorem StepEffect.unpolled (effect : StepEffect dds (.reading snapshot) sys step following)
    (unpolled : sys.Unpolled) : following.Unpolled := by
  obtain ⟨disabled, nowhere, granted⟩ := unpolled
  cases effect <;> constructor <;> simp_all

theorem StepEffect.stopping (effect : StepEffect dds (.reading snapshot) sys step following)
    (stopping : sys.Stopping) : following.Stopping := by
  unfold Stopping at *
  cases effect <;> simp_all

/-- A permit stays until the update thread takes it, and then it will publish
for every participant. -/
theorem StepEffect.pending (effect : StepEffect dds (.reading snapshot) sys step following)
    (excluded : sys.Excluded) (unpolled : sys.Unpolled) (pending : sys.Pending) :
    following.Pending ∨ following.Settled snapshot := by
  have inside : sys.pc.holdsMutex = true → 0 < sys.semPinfo := by
    intro holds
    apply pending.resolve_right
    rintro ⟨events, leaving, _⟩
    exact absurd (excluded.mpr holds) (by simp [leaving])
  have outside : (sys.mutexSelf = .nobody ∨ sys.mutexSelf = .entered) → 0 < sys.semPinfo := by
    intro other
    apply pending.resolve_right
    rintro ⟨events, leaving, _⟩
    simp [leaving] at other
  cases effect with
  | called free => exact .inl (.inl (outside (.inl free)))
  | performed entered => exact .inl (.inl (outside (.inr entered)))
  | queued => exact .inl (.inl (Nat.succ_pos _))
  | left leaving =>
      refine .inl (.inl (pending.resolve_right ?_))
      rintro ⟨events, same, queued⟩
      cases leaving.symm.trans same
      cases queued
  | toldToStop => exact .inl (.inl (Nat.succ_pos _))
  | permitTaken => exact .inr ⟨by simp, fun _ _ => .inr trivial⟩
  | drained here => exact .inr ⟨by simp [here], fun _ _ => .inr (by simp [WillPublish, here])⟩
  | pollLocked here => exact absurd here unpolled.nowhere.1
  | pollUnlocked here => exact absurd here unpolled.nowhere.2.1
  | retaken here => exact absurd here unpolled.nowhere.2.2
  | gatherLocked _ free => exact .inl (.inl (outside (.inl free)))
  | convertLocked _ free => exact .inl (.inl (outside (.inl free)))
  | gatherUnlocked here => exact .inl (.inl (inside (by simp [here, ThreadPc.holdsMutex])))
  | convertUnlocked here => exact .inl (.inl (inside (by simp [here, ThreadPc.holdsMutex])))
  | failedUnlocked here => exact .inl (.inl (inside (by simp [here, ThreadPc.holdsMutex])))
  | _ => exact .inl pending

/-- With nothing pending, a step that changes what is advertised queues an
update, and the cycle under way publishes what it has to. -/
theorem StepEffect.settled (effect : StepEffect dds (.reading snapshot) sys step following)
    (distinct : sys.graph.HandlesDistinct) (notifies : sys.Notifies dds step)
    (succeeds : sys.UpdateSucceeds (.reading snapshot) step) (unpolled : sys.Unpolled)
    (settled : sys.Settled snapshot) :
    following.Pending ∨ following.Stopping ∨ following.Settled snapshot := by
  obtain ⟨converted, upToDate⟩ := settled
  cases effect with
  | @performed env operation rest entered events =>
      rcases Operation.perform_quiet_or_queued distinct notifies.1 notifies.2 with same | queued
      · have owns : ∀ participant,
            (operation.perform dds env sys.graph).graph.Owns participant ↔
              sys.graph.Owns participant := by
          intro participant
          rw [Graph.owns_iff, Graph.owns_iff, Graph.advertised_of_listing same]
        refine .inr (.inr ⟨fun here dp picked => ?_, fun participant owner => ?_⟩)
        · rw [converted here dp picked, Graph.snapshotOf, Graph.snapshotOf, same]
        · rw [Graph.snapshotOf, same]
          exact upToDate participant ((owns participant).mp owner)
      · refine .inl (.inr ⟨rest, rfl, ?_⟩)
        rw [events] at queued
        exact queued
  | queued => exact .inl (.inl (Nat.succ_pos _))
  | toldToStop => exact .inl (.inl (Nat.succ_pos _))
  | stopped here inactive => exact .inr (.inl ⟨inactive, by simp⟩)
  | pollDue here enabled => exact absurd enabled (by simp [unpolled.disabled])
  | nothingDue here notOk => exact absurd (unpolled.granted here) notOk
  | inspected here => exact absurd here unpolled.nowhere.2.1
  | gathered here ran =>
      refine .inr (.inr ⟨by simp, fun participant owner => .inr ?_⟩)
      exact (mem_gathered_iff ran).mpr owner
  | gatherFailed here failed ran =>
      simp only [UpdateSucceeds, ran] at succeeds
      exact absurd succeeds failed
  | another here inside =>
      refine .inr (.inr ⟨by simp, fun participant owner => ?_⟩)
      simpa [WillPublish, here] using upToDate participant owner
  | completed here outside =>
      refine .inr (.inr ⟨by simp, fun participant owner => .inl ?_⟩)
      apply (upToDate participant owner).resolve_right
      simp [WillPublish, here, List.drop_of_length_le, outside]
  | @converted _ dp pinfo here picked ran =>
      refine .inr (.inr ⟨fun _ other same => ?_, fun participant owner => ?_⟩)
      · cases picked.symm.trans same
        exact (Prod.mk.inj (Option.some.inj ran)).2.symm
      · simpa [WillPublish, here] using upToDate participant owner
  | convertFailed here picked failed ran =>
      exact absurd (Prod.mk.inj (Option.some.inj ran)).1.symm failed
  | convertUnlocked here =>
      refine .inr (.inr ⟨fun _ => converted (.inl here), fun participant owner => ?_⟩)
      simpa [WillPublish, here] using upToDate participant owner
  | written here =>
      refine .inr (.inr ⟨by simp, fun participant owner => ?_⟩)
      have before := upToDate participant owner
      simp only [WillPublish, here] at before ⊢
      rw [drop_picked] at before
      cases picked : sys.picked with
      | none => simpa [picked] using before
      | some dp =>
          rw [picked, Option.toList_some, List.singleton_append] at before
          simp only [Option.map_some, Option.toList_some, lastFor_append]
          split
          · next same => exact .inl (by rw [converted (.inr here) dp picked, same])
          · next different =>
            apply before.imp_right
            intro member
            exact (List.mem_cons.mp member).resolve_left (fun same => different same.symm)
  | notWritten here failed => exact absurd succeeds failed
  | gatherUnlocked here =>
      refine .inr (.inr ⟨by simp, fun participant owner => ?_⟩)
      simpa [WillPublish, here] using upToDate participant owner
  | called | left | flagCleared | joined => exact .inr (.inr ⟨converted, upToDate⟩)
  | drained here =>
      refine .inr (.inr ⟨by simp [here], fun participant owner => .inr ?_⟩)
      simp [WillPublish, here]
  | _ =>
      refine .inr (.inr ⟨by simp, fun participant owner => ?_⟩)
      have before := upToDate participant owner
      simp_all [WillPublish]

structure GraphSystem.Tended (snapshot : DomainParticipant → List GraphNode → Sample)
    (sys : GraphSystem Sample) : Prop where
  unpolled : sys.Unpolled
  state : sys.Pending ∨ sys.Stopping ∨ sys.Settled snapshot

theorem StepEffect.tended (effect : StepEffect dds (.reading snapshot) sys step following)
    (excluded : sys.Excluded) (distinct : sys.graph.HandlesDistinct)
    (notifies : sys.Notifies dds step) (succeeds : sys.UpdateSucceeds (.reading snapshot) step)
    (tended : sys.Tended snapshot) : following.Tended snapshot := by
  refine ⟨effect.unpolled tended.unpolled, ?_⟩
  rcases tended.state with pending | stopping | settled
  · exact (effect.pending excluded tended.unpolled pending).imp_right .inr
  · exact .inr (.inl (effect.stopping stopping))
  · exact effect.settled distinct notifies succeeds tended.unpolled settled

/-- Where the samples come from: each one is the snapshot that the registry gave
at an instant at which the update thread had `mutex_self`. -/
def TakenIn (snapshot : DomainParticipant → List GraphNode → Sample)
    (past : List (GraphSystem Sample × Step Unit)) (participant : DomainParticipant)
    (sample : Sample) : Prop :=
  ∃ visit ∈ past, visit.1.mutexSelf = .updateThread ∧
    sample = visit.1.graph.snapshotOf snapshot participant

theorem TakenIn.later {past : List (GraphSystem Sample × Step Unit)}
    {participant : DomainParticipant} {sample : Sample}
    (taken : TakenIn snapshot past participant sample)
    (visit : GraphSystem Sample × Step Unit) :
    TakenIn snapshot (past ++ [visit]) participant sample := by
  obtain ⟨earlier, member, instant⟩ := taken
  exact ⟨earlier, List.mem_append_left _ member, instant⟩

structure AllTaken (snapshot : DomainParticipant → List GraphNode → Sample)
    (past : List (GraphSystem Sample × Step Unit)) (sys : GraphSystem Sample) : Prop where
  published : ∀ entry ∈ sys.published, TakenIn snapshot past entry.1 entry.2
  converted : sys.pc = .unlockConvert ∨ sys.pc = .publish →
    ∀ dp, sys.picked = some dp → TakenIn snapshot past dp sys.pinfo

theorem StepEffect.allTaken {past : List (GraphSystem Sample × Step Unit)}
    (effect : StepEffect dds (.reading snapshot) sys step following) (excluded : sys.Excluded)
    (taken : AllTaken snapshot past sys) :
    AllTaken snapshot (past ++ [(sys, step)]) following := by
  have published : ∀ entry ∈ sys.published,
      TakenIn snapshot (past ++ [(sys, step)]) entry.1 entry.2 :=
    fun entry member => (taken.published entry member).later (sys, step)
  have converted : sys.pc = .unlockConvert ∨ sys.pc = .publish →
      ∀ dp, sys.picked = some dp → TakenIn snapshot (past ++ [(sys, step)]) dp sys.pinfo :=
    fun here dp picked => (taken.converted here dp picked).later (sys, step)
  cases effect with
  | @converted _ dp pinfo here picked ran =>
      refine ⟨published, fun _ other same => ?_⟩
      cases picked.symm.trans same
      refine ⟨_, List.mem_append_right _ List.mem_cons_self, ?_, ?_⟩
      · exact excluded.mpr (by simp [here, ThreadPc.holdsMutex])
      · exact (Prod.mk.inj (Option.some.inj ran)).2.symm
  | convertUnlocked here => exact ⟨published, fun _ => converted (.inl here)⟩
  | written here =>
      refine ⟨fun entry member => ?_, by simp⟩
      rcases List.mem_append.mp member with earlier | new
      · exact published entry earlier
      · obtain ⟨dp, picked, rfl⟩ : ∃ dp, sys.picked = some dp ∧ entry = (dp, sys.pinfo) := by
          cases picked : sys.picked with
          | none => simp [picked] at new
          | some dp => exact ⟨dp, rfl, by simpa [picked] using new⟩
        exact converted (.inr here) dp picked
  | called | performed | queued | left | flagCleared | toldToStop | joined | inspected =>
      exact ⟨published, converted⟩
  | _ => exact ⟨published, by simp_all⟩

namespace GraphSystem

variable {past : List (GraphSystem Sample × Step Unit)}

theorem Run.allTaken (run : Run dds (.reading snapshot) past sys) :
    AllTaken snapshot past sys := by
  induction run with
  | start started =>
      obtain ⟨graph, participants, pinfo, _, rfl⟩ := started
      exact ⟨by simp [initial], by simp [initial]⟩
  | extend run stepped ih => exact (GraphSystem.Steps.effect stepped).allTaken (Run.excluded run) ih

theorem Run.tended (run : Run dds (.reading snapshot) past sys)
    (unpolled : sys.enablePoll = false)
    (guarded : Execution.Guarded (fun state step =>
      state.Notifies dds step ∧ state.UpdateSucceeds (.reading snapshot) step) past) :
    sys.Tended snapshot := by
  induction run with
  | start started =>
      obtain ⟨graph, participants, pinfo, ⟨participant, period, rfl⟩, rfl⟩ := started
      refine ⟨⟨unpolled, by simp [initial], by simp [initial]⟩, .inr (.inr ⟨by simp [initial], ?_⟩)⟩
      intro other owner
      simp [initial, Graph.Owns, Graph.initial] at owner
  | extend run stepped ih =>
      obtain ⟨notifies, succeeds⟩ := guarded.last
      obtain ⟨_, registry⟩ := Run.graph run
      exact (Steps.effect stepped).tended (Run.excluded run) registry.distinct notifies succeeds
        (ih ((Steps.enablePoll stepped).symm.trans unpolled) guarded.init)

end GraphSystem

/-- Without polling, every sample published is the snapshot of one instant, and
at rest the last one published for each participant that owns a node is the
snapshot of the registry as it is. -/
theorem no_lost_update {past : List (GraphSystem Sample × Step Unit)}
    (run : GraphSystem.Run dds (.reading snapshot) past sys) (unpolled : sys.enablePoll = false)
    (guarded : Execution.Guarded (fun state step =>
      state.Notifies dds step ∧ state.UpdateSucceeds (.reading snapshot) step) past) :
    (∀ entry ∈ sys.published, TakenIn snapshot past entry.1 entry.2) ∧
    (sys.pc = .awaitPermit → sys.semPinfo = 0 → ¬ sys.CallerInside →
      ∀ participant, sys.graph.Owns participant →
        lastFor sys.published participant = some (sys.graph.snapshotOf snapshot participant)) := by
  refine ⟨(GraphSystem.Run.allTaken run).published, ?_⟩
  intro atRest none outside participant owner
  rcases (GraphSystem.Run.tended run unpolled guarded).state with pending | stopping | settled
  · rcases pending with permit | ⟨events, leaving, _⟩
    · omega
    · exact absurd (.inr ⟨events, leaving⟩) outside
  · exact absurd atRest stopping.2
  · apply (settled.upToDate participant owner).resolve_right
    simp [WillPublish, atRest]

end

def updateSteps {Answers : Type} (answers : Answers) : List (Step Answers) :=
  [.takePermit, .retest, .drain, .lockGather, .gather (fun _ => true), .unlockGather,
    .pick, .lockConvert, .convert answers, .unlockConvert, .publish .ok, .pick, .endUpdate,
    .testActive]

def callSteps {Answers : Type} (operation : Operation) : List (Step Answers) :=
  [.enter, .perform (.granting (.answering [] [])) operation, .leave, .leave]

def firstUpdate : List (Step Unit) :=
  .testActive :: callSteps (.registerLocalNode (some firstName) none none) ++ updateSteps ()

def restedSystem : GraphSystem (List NodeView) :=
  (GraphSystem.started Duration.infinite []).after clientsDds (.reading fun _ nodes => nodes.map (·.view))
    firstUpdate

theorem firstUpdate_guarded {Sample : Type}
    (snapshot : DomainParticipant → List GraphNode → Sample) (sys : GraphSystem Sample) :
    ∀ step ∈ firstUpdate, sys.Notifies clientsDds step ∧
      sys.UpdateSucceeds (.reading snapshot) step := by
  have converts : ∀ retcode pinfo,
      sys.converted (.reading snapshot) () = some (retcode, pinfo) → retcode = .ok := by
    intro retcode pinfo ran
    obtain ⟨dp, _, done⟩ := Option.bind_eq_some_iff.mp ran
    exact (Prod.mk.inj (Option.some.inj done)).1.symm
  simp [firstUpdate, callSteps, updateSteps, GraphSystem.Notifies, GraphSystem.UpdateSucceeds,
    Operation.RemovesNode, Operation.StopsHalfway, gather_granted]
  exact converts

theorem no_lost_update_one_node :
    lastFor restedSystem.published ⟨0⟩ =
      some (restedSystem.graph.snapshotOf (fun _ nodes => nodes.map (·.view)) ⟨0⟩) := by
  obtain ⟨past, run, among⟩ := @GraphSystem.Run.ofReplay _ _ clientsDds
    (.reading fun _ nodes => nodes.map (·.view)) Duration.infinite [] firstUpdate (by decide +kernel)
  refine (no_lost_update run rfl ?_).2 rfl rfl ?_ ⟨0⟩ ?_
  · exact fun visit member => firstUpdate_guarded _ visit.1 visit.2 (among visit member).2
  · have outside : restedSystem.mutexSelf = .nobody := rfl
    rintro (inside | ⟨events, inside⟩) <;> cases outside.symm.trans inside
  · exact ⟨_, List.mem_cons_self, rfl⟩

end Ros2Graph
