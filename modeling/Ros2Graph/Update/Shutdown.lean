import Ros2Graph.Update.Behaviour

/-! The end of the update thread. `RTIROS2_Graph_finalize` clears the flag and
then gives one permit, which no one can tell from those of the updates. -/

set_option autoImplicit false

namespace Ros2Graph

open Foundation

/-- `RTIROS2_Graph_finalize` has given its permit. -/
def FinalizePc.permitGiven : FinalizePc → Bool
  | .awaitExit | .joined => true
  | .notCalled | .flagCleared => false

/-- The steps of the update thread, as against those of calls and of
`RTIROS2_Graph_finalize`. -/
def Step.ofThread {Answers : Type} : Step Answers → Bool
  | .enter | .perform _ _ | .leave | .clearActive | .giveToStop | .awaitExit => false
  | _ => true

namespace GraphSystem

variable {Sample : Type}

/-- The flag is cleared first, and the permit is there for as long as the update
thread waits for one: a thread that takes it does not come back. -/
structure StopAnnounced (sys : GraphSystem Sample) : Prop where
  flag : sys.finalizePc ≠ .notCalled → sys.threadPinfoActive = false
  permit : sys.finalizePc.permitGiven = true → sys.pc = .awaitPermit → 0 < sys.semPinfo

end GraphSystem

section

open GraphSystem

variable {Sample Answers : Type} {dds : Dds} {convert : ConvertToSampleFn Sample Answers}
  {sys following : GraphSystem Sample} {step : Step Answers}

theorem StepEffect.stopAnnounced (effect : StepEffect dds convert sys step following)
    (announced : sys.StopAnnounced) : following.StopAnnounced := by
  obtain ⟨flag, permit⟩ := announced
  cases effect with
  | queued => exact ⟨flag, fun given waiting => Nat.lt_succ_of_lt (permit given waiting)⟩
  | flagCleared => exact ⟨fun _ => rfl, by simp [FinalizePc.permitGiven]⟩
  | toldToStop cleared => exact ⟨fun _ => flag (by simp [cleared]), fun _ _ => Nat.succ_pos _⟩
  | joined asked =>
      have given : sys.finalizePc.permitGiven = true := by rw [asked]; rfl
      exact ⟨fun _ => flag (by simp [asked]), fun _ => permit given⟩
  | loopEntered here active =>
      refine ⟨flag, fun given _ => ?_⟩
      have running : sys.finalizePc = .notCalled := by
        by_contra called
        simp [flag called] at active
      simp [running, FinalizePc.permitGiven] at given
  | drained here => exact ⟨flag, by simp [here]⟩
  | _ => exact ⟨flag, by simp_all⟩

/-- The thread has no step left once it has given `sem_pinfo_exit`. -/
theorem StepEffect.afterExit (effect : StepEffect dds convert sys step following)
    (exited : sys.pc = .exited) :
    step.ofThread = false ∧ following.pc = .exited ∧ following.published = sys.published := by
  cases effect with
  | called | performed | queued | left | flagCleared | toldToStop | joined =>
      exact ⟨rfl, exited, rfl⟩
  | _ => simp_all

namespace GraphSystem

variable {past visits : List (GraphSystem Sample × Step Answers)} {last : GraphSystem Sample}

theorem Run.stopAnnounced (run : Run dds convert past sys) : sys.StopAnnounced := by
  refine @Execution.always _ _ _ _ StopAnnounced ?_
    (fun _ _ _ held stepped => (Steps.effect stepped).stopAnnounced held) _ _ run
  intro state started
  obtain ⟨graph, participants, pinfo, _, rfl⟩ := started
  exact ⟨by simp [initial], by simp [initial]⟩

theorem RunFrom.afterExit (onward : RunFrom dds convert sys visits last)
    (exited : sys.pc = .exited) :
    (∀ visit ∈ visits, visit.2.ofThread = false) ∧ last.pc = .exited ∧
      last.published = sys.published := by
  induction onward with
  | start same => exact ⟨by simp, same ▸ exited, congrArg published same⟩
  | extend onward stepped ih =>
      obtain ⟨aside, stays, kept⟩ := ih
      obtain ⟨foreign, stillStays, stillKept⟩ := (Steps.effect stepped).afterExit stays
      refine ⟨?_, stillStays, stillKept.trans kept⟩
      intro visit member
      rcases List.mem_append.mp member with before | now
      · exact aside visit before
      · cases List.mem_singleton.mp now
        exact foreign

end GraphSystem

/-- The permit of `RTIROS2_Graph_finalize` is never missed, and a thread that
has given `sem_pinfo_exit` takes no further step, so it neither touches the
registry nor publishes. -/
theorem shutdown_not_missed {past : List (GraphSystem Sample × Step Answers)}
    (run : GraphSystem.Run dds convert past sys) :
    (sys.finalizePc.permitGiven = true → ¬ (sys.pc = .awaitPermit ∧ sys.semPinfo = 0)) ∧
      (sys.pc = .exited → ∀ visits last, GraphSystem.RunFrom dds convert sys visits last →
        (∀ visit ∈ visits, visit.2.ofThread = false) ∧ last.published = sys.published) := by
  constructor
  · rintro given ⟨waiting, none⟩
    exact absurd none (Nat.ne_of_gt (run.stopAnnounced.permit given waiting))
  · intro exited visits last onward
    obtain ⟨aside, _, kept⟩ := RunFrom.afterExit onward exited
    exact ⟨aside, kept⟩

end

/-! A thread that waits for its first permit is told to stop, and ends. -/

def stopSteps : List (Step Unit) := [.testActive, .clearActive, .giveToStop]

def exitSteps : List (Step Unit) := stopSteps ++ [.takePermit, .retest, .testActive, .giveExit]

def stoppedSystem (steps : List (Step Unit)) : GraphSystem (List NodeView) :=
  (GraphSystem.started Duration.infinite []).after clientsDds
    (.reading fun _ nodes => nodes.map (·.view)) steps

theorem shutdown_not_missed_waiting :
    (stoppedSystem stopSteps).pc = .awaitPermit ∧ (stoppedSystem stopSteps).semPinfo ≠ 0 ∧
      (stoppedSystem exitSteps).pc = .exited ∧ ∀ visits last,
        GraphSystem.RunFrom clientsDds (.reading fun _ nodes => nodes.map (·.view))
          (stoppedSystem exitSteps) visits last →
        (∀ visit ∈ visits, visit.2.ofThread = false) ∧
          last.published = (stoppedSystem exitSteps).published := by
  obtain ⟨waited, waiting, _⟩ := @GraphSystem.Run.ofReplay _ _ clientsDds
    (.reading fun _ nodes => nodes.map (·.view)) Duration.infinite [] stopSteps rfl
  obtain ⟨ended, exited, _⟩ := @GraphSystem.Run.ofReplay _ _ clientsDds
    (.reading fun _ nodes => nodes.map (·.view)) Duration.infinite [] exitSteps rfl
  exact ⟨rfl, fun none => (shutdown_not_missed waiting).1 rfl ⟨rfl, none⟩, rfl,
    (shutdown_not_missed exited).2 rfl⟩

end Ros2Graph
