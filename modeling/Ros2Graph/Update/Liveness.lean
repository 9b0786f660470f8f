import Ros2Graph.Foundation.Bounded
import Ros2Graph.Registry.Names
import Ros2Graph.Update.NoLostUpdate
import Ros2Graph.Update.Shutdown

/-! The update thread left to itself. It comes to rest after a number of steps that
the permits, the nodes and its time-outs bound; at rest it has published what it has
to, and once `RTIROS2_Graph_finalize` has told it to stop it ends. -/

set_option autoImplicit false

namespace Ros2Graph

open Foundation

/-- Between the test of the loop's index and its increment. -/
def ThreadPc.hasPicked : ThreadPc → Bool
  | .lockConvert | .convert | .unlockConvert | .publish => true
  | _ => false

def Step.isTimeOut {Answers : Type} : Step Answers → Bool
  | .timeOut => true
  | _ => false

/-- Whatever is listed, the libraries can answer such that the conversion returns. -/
def ConvertToSampleFn.CanReturn {Sample Answers : Type} (dds : Dds)
    (convert : ConvertToSampleFn Sample Answers) : Prop :=
  ∀ graph dp pinfo, graph.Reachable dds → ∃ answers, (convert answers graph dp pinfo).isSome = true

theorem ConvertToSampleFn.CanReturn.reading {Sample : Type} {dds : Dds}
    (snapshot : DomainParticipant → List GraphNode → Sample) :
    (ConvertToSampleFn.reading snapshot).CanReturn dds :=
  fun _ _ _ _ => ⟨(), rfl⟩

namespace GraphSystem

variable {Sample Answers : Type}

/-- The most steps that the update thread makes until it waits again, if it finds no
permit on its way: five for each participant, and one for each node that it inspects. -/
def stepsAhead (sys : GraphSystem Sample) : Nat :=
  let nodes := sys.graph.nodes.length
  let participants := sys.participants.length - sys.i
  match sys.pc with
  | .exited => 0
  | .awaitPermit | .giveExit => 1
  | .loopHead => 2
  | .updated => 3
  | .unlockFailed => 4
  | .publish => 5 * participants + 5
  | .unlockConvert => 5 * participants + 6
  | .convert => 5 * participants + 7
  | .lockConvert => 5 * participants + 8
  | .pick => 5 * participants + 9
  | .unlockGather => 5 * sys.participants.length + 10
  | .gather => 5 * nodes + 11
  | .lockGather => 5 * nodes + 12
  | .drain => 5 * nodes + 13
  | .retake => 5 * nodes + 14
  | .poll => nodes - sys.node + (5 * nodes + 15)
  | .lockPoll => nodes + (5 * nodes + 16)
  | .retest => if sys.takeRc = .timeout then 6 * nodes + 17 else 5 * nodes + 14

/-- Each permit can bring one update more. -/
def work (sys : GraphSystem Sample) : Nat :=
  sys.stepsAhead + sys.semPinfo * (5 * sys.graph.nodes.length + 14)

/-- What a time-out can bring: the inspection of all nodes, and an update. -/
def brings (nodes : Nat) (step : Step Answers) : Nat :=
  if step.isTimeOut then 6 * nodes + 17 else 0

/-- Where the update thread is, and what goes with it. -/
structure InPlace (sys : GraphSystem Sample) : Prop where
  picked : sys.pc.hasPicked = true → sys.i < sys.participants.length
  exiting : sys.pc = .giveExit ∨ sys.pc = .exited → sys.threadPinfoActive = false
  exitGiven : sys.pc = .exited → sys.finalizePc = .joined ∨ sys.semPinfoExit = true

/-- The update thread has no step. -/
def Halted (dds : Dds) (convert : ConvertToSampleFn Sample Answers)
    (sys : GraphSystem Sample) : Prop :=
  Execution.Stuck (Steps dds convert) (fun _ step => step.ofThread = true) sys

/-- A run onwards of the update thread alone, on which no update fails. -/
structure Undisturbed (dds : Dds) (convert : ConvertToSampleFn Sample Answers)
    (start : GraphSystem Sample) (visits : List (GraphSystem Sample × Step Answers))
    (last : GraphSystem Sample) : Prop where
  run : RunFrom dds convert start visits last
  alone : ∀ visit ∈ visits, visit.2.ofThread = true
  succeeds : ∀ visit ∈ visits, visit.1.UpdateSucceeds convert visit.2

/-- The update thread waits for a permit, or has ended. -/
def Waits (sys : GraphSystem Sample) : Prop :=
  sys.pc = .awaitPermit ∧ sys.semPinfo = 0 ∨ sys.pc = .exited

end GraphSystem

section

open GraphSystem

variable {Sample Answers : Type} {dds : Dds} {convert : ConvertToSampleFn Sample Answers}
  {sys following : GraphSystem Sample} {step : Step Answers}

theorem StepEffect.inPlace (effect : StepEffect dds convert sys step following)
    (inPlace : sys.InPlace) : following.InPlace := by
  obtain ⟨picked, exiting, exitGiven⟩ := inPlace
  -- a finalization that has not been joined has the permit of the thread's end before it
  have waiting : sys.finalizePc ≠ .joined → sys.pc = .exited → sys.semPinfoExit = true :=
    fun apart exited => (exitGiven exited).resolve_left apart
  cases effect with
  | called | performed | queued | left | inspected => exact ⟨picked, exiting, exitGiven⟩
  | flagCleared running =>
      exact ⟨picked, fun _ => rfl, fun exited => .inr (waiting (by simp [running]) exited)⟩
  | toldToStop cleared =>
      exact ⟨picked, exiting, fun exited => .inr (waiting (by simp [cleared]) exited)⟩
  | joined => exact ⟨picked, exiting, fun _ => .inl rfl⟩
  | exitGiven here =>
      exact ⟨by simp [ThreadPc.hasPicked], fun _ => exiting (.inl here), fun _ => .inr rfl⟩
  | _ => constructor <;> simp_all [ThreadPc.hasPicked]

theorem eraseDups_length_le (participants : List DomainParticipant) :
    participants.eraseDups.length ≤ participants.length :=
  ((eraseDups_nodup participants).subperm fun _ => List.mem_eraseDups.mp).length_le

theorem gathered_length {graph : Graph} {granted : Nat → Bool}
    {participants result : ReusedSeq DomainParticipant}
    (gathered : graph.gatherDomainParticipants granted participants = (.ok, result)) :
    result.length ≤ graph.nodes.length := by
  have few := eraseDups_length_le (graph.nodes.map (·.ddsParticipant))
  rw [← gathered_toList gathered] at few
  simpa using few

theorem StepEffect.nodes (effect : StepEffect dds convert sys step following)
    (thread : step.ofThread = true) (distinct : sys.graph.HandlesDistinct) :
    following.graph.nodes.length = sys.graph.nodes.length := by
  cases effect with
  | called | performed | queued | left | flagCleared | toldToStop | joined => cases thread
  | @inspected env =>
      have same := congrArg List.length
        (@Graph.inspect_identities dds sys.graph distinct env sys.node)
      simpa [Graph.identities] using same
  | _ => rfl

/-- A step that takes a permit pays with it for an update. -/
theorem work_permitTaken {system next : GraphSystem Sample} {gives : Nat}
    (permit : 0 < system.semPinfo) (taken : next.semPinfo = system.semPinfo - 1)
    (nodes : next.graph.nodes.length = system.graph.nodes.length)
    (few : 1 + next.stepsAhead ≤ system.stepsAhead + (5 * system.graph.nodes.length + 14)) :
    1 + next.work ≤ system.work + gives := by
  obtain ⟨permits, same⟩ := Nat.exists_eq_add_of_lt permit
  unfold GraphSystem.work
  rw [nodes, taken, same, Nat.zero_add, Nat.add_sub_cancel, Nat.succ_mul permits]
  omega

theorem work_permitsKept {system next : GraphSystem Sample} {gives : Nat}
    (kept : next.semPinfo = system.semPinfo)
    (nodes : next.graph.nodes.length = system.graph.nodes.length)
    (few : 1 + next.stepsAhead ≤ system.stepsAhead + gives) :
    1 + next.work ≤ system.work + gives := by
  unfold GraphSystem.work
  rw [nodes, kept]
  omega

/-- Each step of the update thread is one of those that were ahead. -/
theorem StepEffect.work (effect : StepEffect dds convert sys step following)
    (thread : step.ofThread = true)
    (nodes : following.graph.nodes.length = sys.graph.nodes.length)
    (inPlace : sys.InPlace) :
    1 + following.work ≤ sys.work + brings sys.graph.nodes.length step := by
  have picked := inPlace.picked
  cases effect with
  | called | performed | queued | left | flagCleared | toldToStop | joined => cases thread
  | permitTaken here permit | retaken here permit | drained here permit =>
      refine work_permitTaken permit rfl nodes ?_
      simp only [stepsAhead, here, reduceCtorEq, if_false]
      omega
  | gathered here ran =>
      have few := gathered_length ran
      refine work_permitsKept rfl nodes ?_
      simp only [stepsAhead, here]
      omega
  | @inspected env here inside =>
      have same : (sys.graph.inspectLocalNodeEA dds env sys.node).1.nodes.length =
        sys.graph.nodes.length := nodes
      refine work_permitsKept rfl nodes ?_
      simp only [stepsAhead, here, same]
      have fewer := Nat.sub_succ_lt_self _ _ inside
      omega
  | timedOut here =>
      refine work_permitsKept rfl nodes ?_
      simp only [stepsAhead, here, brings, Step.isTimeOut, ↓reduceIte]
      omega
  | written here =>
      have inside := picked (by rw [here]; rfl)
      refine work_permitsKept rfl nodes ?_
      simp only [stepsAhead, here]
      omega
  | pollDue here _ timeout =>
      refine work_permitsKept rfl nodes ?_
      simp only [stepsAhead, here, timeout, if_true]
      omega
  | stopped here | updateDue here | nothingDue here =>
      refine work_permitsKept rfl nodes ?_
      simp only [stepsAhead, here]
      split <;> omega
  | loopEntered here | loopLeft here | pollLocked here | pollUnlocked here | notRetaken here
  | drainedAll here | gatherLocked here | gatherFailed here | gatherUnlocked here | another here
  | completed here | convertLocked here | converted here | convertFailed here
  | convertUnlocked here | failedUnlocked here | notWritten here | updateEnded here
  | exitGiven here =>
      refine work_permitsKept rfl nodes ?_
      simp only [stepsAhead, here]
      omega

namespace GraphSystem

variable {past visits : List (GraphSystem Sample × Step Answers)} {last : GraphSystem Sample}

theorem Run.inPlace (run : Run dds convert past sys) : sys.InPlace := by
  refine @Execution.always _ _ _ _ InPlace ?_
    (fun _ _ _ held stepped => (Steps.effect stepped).inPlace held) _ _ run
  intro state started
  obtain ⟨graph, participants, pinfo, _, rfl⟩ := started
  constructor <;> simp [initial, ThreadPc.hasPicked]

/-- The steps of the update thread are paid for, those of a time-out by it. -/
theorem thread_paid (dds : Dds) (convert : ConvertToSampleFn Sample Answers) (nodes : Nat) :
    Execution.Paid (Steps dds convert) (fun _ step => step.ofThread = true)
      (fun state => (∃ past, Run dds convert past state) ∧ state.graph.nodes.length = nodes)
      work (brings nodes) where
  kept := by
    rintro state step next ⟨⟨past, run⟩, same⟩ thread stepped
    obtain ⟨_, registry⟩ := Run.graph run
    have kept := (Steps.effect stepped).nodes thread registry.distinct
    exact ⟨⟨_, run.extend stepped⟩, kept.trans same⟩
  falls := by
    rintro state step next ⟨⟨past, run⟩, same⟩ thread stepped
    obtain ⟨_, registry⟩ := Run.graph run
    have effect := Steps.effect stepped
    have one := effect.work thread (effect.nodes thread registry.distinct) (Run.inPlace run)
    rwa [same] at one

def timeOuts (visits : List (GraphSystem Sample × Step Answers)) : Nat :=
  visits.countP (·.2.isTimeOut)

theorem given_brings (nodes : Nat) (visits : List (GraphSystem Sample × Step Answers)) :
    Execution.given (brings nodes) visits = timeOuts visits * (6 * nodes + 17) := by
  induction visits with
  | nil => simp [Execution.given, timeOuts]
  | cons visit rest ih =>
      unfold timeOuts at *
      rw [Execution.given, List.countP_cons, ih, Nat.add_mul, Nat.add_comm, brings]
      split <;> simp

theorem reading_succeeds (snapshot : DomainParticipant → List GraphNode → Sample)
    (sys : GraphSystem Sample) (answers : Unit) :
    sys.UpdateSucceeds (.reading snapshot) (.convert answers) := by
  intro retcode pinfo ran
  obtain ⟨dp, _, done⟩ := Option.bind_eq_some_iff.mp ran
  exact (Prod.mk.inj (Option.some.inj done)).1.symm

/-- Unless a call has the mutex, the update thread has a step where it does not wait, and
no other than a conversion need fail. -/
theorem InPlace.canStep (inPlace : sys.InPlace) (excluded : sys.Excluded)
    (returns : convert.CanReturn dds) (reachable : sys.graph.Reachable dds)
    (outside : ¬ sys.CallerInside) (moving : ¬ sys.Waits) :
    ∃ step following, step.ofThread = true ∧ step.isTimeOut = false ∧
      ((∃ answers, step = .convert answers) ∨ sys.UpdateSucceeds convert step) ∧
      sys.Steps dds convert step following := by
  have can : ∀ step, step.ofThread = true → step.isTimeOut = false →
      sys.UpdateSucceeds convert step → sys.enabled dds convert step = true →
      ∃ step following, step.ofThread = true ∧ step.isTimeOut = false ∧
        ((∃ answers, step = .convert answers) ∨ sys.UpdateSucceeds convert step) ∧
        sys.Steps dds convert step following :=
    fun step thread waits succeeds enabled =>
      ⟨step, _, thread, waits, .inr succeeds, enabled, rfl⟩
  have lockable : sys.pc.holdsMutex = false → sys.mutexSelf = .nobody := by
    intro elsewhere
    cases has : sys.mutexSelf with
    | nobody => rfl
    | updateThread =>
        rw [excluded.mp has] at elsewhere
        cases elsewhere
    | entered => exact absurd (.inl has) outside
    | leaving events => exact absurd (.inr ⟨events, has⟩) outside
  cases here : sys.pc with
  | loopHead => exact can .testActive rfl rfl trivial (by simp [enabled, here])
  | awaitPermit =>
      have permit : 0 < sys.semPinfo :=
        Nat.pos_of_ne_zero fun none => moving (.inl ⟨here, none⟩)
      exact can .takePermit rfl rfl trivial (by simp [enabled, here, permit])
  | retest => exact can .retest rfl rfl trivial (by simp [enabled, here])
  | lockPoll =>
      have free := lockable (by rw [here]; rfl)
      exact can .lockPoll rfl rfl trivial (by simp [enabled, here, free])
  | poll =>
      by_cases inside : sys.node < sys.graph.nodes.length
      · exact can (.inspect (.granting (.answering [] []))) rfl rfl trivial
          (by simp [enabled, here, inside])
      · exact can .unlockPoll rfl rfl trivial (by simp [enabled, here, Nat.le_of_not_lt inside])
  | retake => exact can .retake rfl rfl trivial (by simp [enabled, here])
  | drain => exact can .drain rfl rfl trivial (by simp [enabled, here])
  | lockGather =>
      have free := lockable (by rw [here]; rfl)
      exact can .lockGather rfl rfl trivial (by simp [enabled, here, free])
  | gather =>
      exact can (.gather fun _ => true) rfl rfl (gather_granted _ _) (by simp [enabled, here])
  | unlockGather => exact can .unlockGather rfl rfl trivial (by simp [enabled, here])
  | pick => exact can .pick rfl rfl trivial (by simp [enabled, here])
  | lockConvert =>
      have free := lockable (by rw [here]; rfl)
      exact can .lockConvert rfl rfl trivial (by simp [enabled, here, free])
  | convert =>
      have inside := inPlace.picked (by rw [here]; rfl)
      obtain ⟨given, done⟩ :=
        returns sys.graph (sys.participants.slot sys.i) sys.pinfo reachable
      have ran : (sys.converted convert given).isSome = true := by
        simpa [converted, GraphSystem.picked, ReusedSeq.getReference, inside] using done
      exact ⟨.convert given, _, rfl, rfl, .inl ⟨given, rfl⟩, by simp [enabled, here, ran], rfl⟩
  | unlockConvert => exact can .unlockConvert rfl rfl trivial (by simp [enabled, here])
  | unlockFailed => exact can .unlockFailed rfl rfl trivial (by simp [enabled, here])
  | publish => exact can (.publish .ok) rfl rfl rfl (by simp [enabled, here])
  | updated => exact can .endUpdate rfl rfl trivial (by simp [enabled, here])
  | giveExit => exact can .giveExit rfl rfl trivial (by simp [enabled, here])
  | exited => exact absurd (.inr here) moving

/-- With a caller outside, the update thread comes to a halt only where it waits. -/
theorem Run.stuck_waits (run : Run dds convert past sys) (returns : convert.CanReturn dds)
    (outside : ¬ sys.CallerInside)
    (halted : sys.Halted dds convert) : sys.Waits := by
  by_contra moving
  obtain ⟨step, following, thread, _, _, stepped⟩ :=
    run.inPlace.canStep run.excluded returns (Run.graph run) outside moving
  exact halted step following thread stepped

theorem Waits.halted (waits : sys.Waits) (unpolled : sys.enablePoll = false) :
    sys.Halted dds convert := by
  intro step following thread stepped
  have effect := Steps.effect stepped
  rcases waits with ⟨here, none⟩ | ended
  · cases effect with
    | called | performed | queued | left | flagCleared | toldToStop | joined => cases thread
    | permitTaken _ permit => omega
    | _ => simp_all
  · exact absurd thread (by simp [(effect.afterExit ended).1])

end GraphSystem

theorem StepEffect.byThread (effect : StepEffect dds convert sys step following)
    (thread : step.ofThread = true) :
    following.threadPinfoActive = sys.threadPinfoActive ∧
      following.finalizePc = sys.finalizePc ∧ (¬ sys.CallerInside → ¬ following.CallerInside) := by
  cases effect with
  | called | performed | queued | left | flagCleared | toldToStop | joined => cases thread
  | _ =>
      refine ⟨rfl, rfl, ?_⟩
      simp_all [CallerInside]

theorem GraphSystem.RunFrom.byThread {visits : List (GraphSystem Sample × Step Answers)}
    {last : GraphSystem Sample} (onward : GraphSystem.RunFrom dds convert sys visits last)
    (alone : ∀ visit ∈ visits, visit.2.ofThread = true) :
    last.threadPinfoActive = sys.threadPinfoActive ∧ last.finalizePc = sys.finalizePc ∧
      (¬ sys.CallerInside → ¬ last.CallerInside) := by
  induction onward with
  | start same => exact same ▸ ⟨rfl, rfl, id⟩
  | @extend visits state next step onward stepped ih =>
      obtain ⟨active, finalizePc, outside⟩ := ih fun visit member =>
        alone visit (List.mem_append_left _ member)
      have thread : step.ofThread = true := alone (state, step) (by simp)
      obtain ⟨stillActive, stillFinalizePc, stillOutside⟩ :=
        (GraphSystem.Steps.effect stepped).byThread thread
      exact ⟨stillActive.trans active, stillFinalizePc.trans finalizePc, stillOutside ∘ outside⟩

theorem timeOuts_eq_zero {visits : List (GraphSystem Sample × Step Answers)}
    (none : ∀ visit ∈ visits, visit.2.isTimeOut = false) : timeOuts visits = 0 := by
  refine List.countP_eq_zero.mpr fun visit member => ?_
  rw [none visit member]
  exact Bool.false_ne_true

/-- Left to itself, the update thread makes no more steps than its permits, the participants
and the nodes, and its time-outs account for. -/
theorem update_thread_bounded {past visits : List (GraphSystem Sample × Step Answers)}
    {last : GraphSystem Sample} (run : GraphSystem.Run dds convert past sys)
    (onward : GraphSystem.RunFrom dds convert sys visits last)
    (alone : ∀ visit ∈ visits, visit.2.ofThread = true) :
    visits.length + last.work ≤
      sys.work + timeOuts visits * (6 * sys.graph.nodes.length + 17) := by
  have bound := ((thread_paid dds convert sys.graph.nodes.length).bounded ⟨⟨past, run⟩, rfl⟩
    onward alone).2
  rwa [given_brings] at bound

/-- The permit of `RTIROS2_Graph_finalize` spares the update thread its time-outs. -/
theorem StepEffect.spared (effect : StepEffect dds convert sys step following)
    (announced : sys.StopAnnounced) (given : sys.finalizePc.permitGiven = true) :
    step.isTimeOut = false := by
  cases effect with
  | timedOut here _ none =>
      have permit := announced.permit given here
      omega
  | _ => rfl

theorem stopping_paid (dds : Dds) (convert : ConvertToSampleFn Sample Answers) :
    Execution.Paid (Steps dds convert) (fun _ step => step.ofThread = true)
      (fun state => (∃ past, GraphSystem.Run dds convert past state) ∧
        state.finalizePc = .awaitExit)
      GraphSystem.work (fun _ => 0) where
  kept := by
    rintro state step next ⟨⟨past, run⟩, asked⟩ thread stepped
    exact ⟨⟨_, run.extend stepped⟩, ((Steps.effect stepped).byThread thread).2.1.trans asked⟩
  falls := by
    rintro state step next ⟨⟨past, run⟩, asked⟩ thread stepped
    have one := (thread_paid dds convert state.graph.nodes.length).falls
      state step next ⟨⟨past, run⟩, rfl⟩ thread stepped
    have silent := (Steps.effect stepped).spared (Run.stopAnnounced run) (by rw [asked]; rfl)
    simpa [brings, silent] using one

/-- Once `RTIROS2_Graph_finalize` has given its permit and no call is under way, the update
thread alone ends after a bounded number of steps, and never halts before; then the wait of
`RTIROS2_Graph_finalize` is over. -/
theorem shutdown_completes {past : List (GraphSystem Sample × Step Answers)}
    (run : GraphSystem.Run dds convert past sys) (returns : convert.CanReturn dds)
    (asked : sys.finalizePc = .awaitExit) (outside : ¬ sys.CallerInside) :
    (∀ visits last, GraphSystem.RunFrom dds convert sys visits last →
      (∀ visit ∈ visits, visit.2.ofThread = true) →
      visits.length + last.work ≤ sys.work ∧
      (last.Halted dds convert →
        last.pc = .exited ∧ last.enabled dds convert .awaitExit = true)) ∧
    ∃ visits last, GraphSystem.RunFrom dds convert sys visits last ∧
      (∀ visit ∈ visits, visit.2.ofThread = true) ∧ last.Halted dds convert := by
  constructor
  · intro visits last onward alone
    have bound := ((stopping_paid dds convert).bounded ⟨⟨past, run⟩, asked⟩ onward alone).2
    obtain ⟨_, finalizePc, stillOutside⟩ := onward.byThread alone
    refine ⟨by simpa using bound, fun halted => ?_⟩
    have whole : GraphSystem.Run dds convert (past ++ visits) last := run.append onward
    have ended : last.pc = .exited := by
      refine (whole.stuck_waits returns (stillOutside outside) halted).resolve_left ?_
      rintro ⟨here, none⟩
      have permit := whole.stopAnnounced.permit (by rw [finalizePc, asked]; rfl) here
      omega
    have given : last.semPinfoExit = true := by
      refine (whole.inPlace.exitGiven ended).resolve_left fun joined => ?_
      cases (finalizePc.trans asked).symm.trans joined
    exact ⟨ended, by simp [enabled, finalizePc, asked, given]⟩
  · exact (stopping_paid dds convert).exists_stuck ⟨⟨past, run⟩, asked⟩

end

section

open GraphSystem

variable {Sample : Type} {dds : Dds} {snapshot : DomainParticipant → List GraphNode → Sample}
  {sys last : GraphSystem Sample} {past visits : List (GraphSystem Sample × Step Unit)}

/-- Without polling, the update thread changes nothing in the registry. -/
theorem GraphSystem.RunFrom.unpolled (onward : RunFrom dds (.reading snapshot) sys visits last)
    (alone : ∀ visit ∈ visits, visit.2.ofThread = true) (unpolled : sys.Unpolled) :
    last.Unpolled ∧ last.graph = sys.graph ∧
      ∀ visit ∈ visits, visit.2.isTimeOut = false := by
  induction onward with
  | start same =>
      subst same
      exact ⟨unpolled, rfl, by simp⟩
  | @extend visits state next step onward stepped ih =>
      obtain ⟨still, graph, none⟩ := ih fun visit member =>
        alone visit (List.mem_append_left _ member)
      have thread : step.ofThread = true := alone (state, step) (by simp)
      have effect := Steps.effect stepped
      refine ⟨effect.unpolled still, ?_, ?_⟩
      · rw [← graph]
        cases effect with
        | performed => cases thread
        | inspected here => exact absurd here still.nowhere.2.1
        | _ => rfl
      · intro visit member
        rcases List.mem_append.mp member with earlier | now
        · exact none visit earlier
        · cases List.mem_singleton.mp now
          cases effect with
          | timedOut here enabled => exact absurd enabled (by simp [still.disabled])
          | _ => rfl

theorem unpolled_paid (dds : Dds) (snapshot : DomainParticipant → List GraphNode → Sample) :
    Execution.Paid (Steps dds (.reading snapshot))
      (fun state step => step.ofThread = true ∧ state.UpdateSucceeds (.reading snapshot) step)
      (fun state => (∃ past, Run dds (.reading snapshot) past state) ∧ state.Unpolled)
      work (fun _ => 0) where
  kept := by
    rintro state step next ⟨⟨past, run⟩, unpolled⟩ _ stepped
    exact ⟨⟨_, run.extend stepped⟩, (Steps.effect stepped).unpolled unpolled⟩
  falls := by
    rintro state step next ⟨⟨past, run⟩, unpolled⟩ ⟨thread, _⟩ stepped
    have effect := Steps.effect stepped
    have one := (thread_paid dds (.reading snapshot) state.graph.nodes.length).falls
      state step next ⟨⟨past, run⟩, rfl⟩ thread stepped
    have silent : step.isTimeOut = false := by
      cases effect with
      | timedOut here enabled => exact absurd enabled (by simp [unpolled.disabled])
      | _ => rfl
    simpa [brings, silent] using one

/-- Eventual consistency, without polling. From any state at which the thread is not told to
stop and no call is under way, the update thread alone halts after a bounded number of steps.
It then waits for a permit, and the last sample published for each participant that owns a
node shows the registry. Some way there is without a failure. -/
theorem updates_settle (run : GraphSystem.Run dds (.reading snapshot) past sys)
    (unpolled : sys.enablePoll = false) (active : sys.threadPinfoActive = true)
    (outside : ¬ sys.CallerInside)
    (guarded : Execution.Guarded (fun state step =>
      state.Notifies dds step ∧ state.UpdateSucceeds (.reading snapshot) step) past) :
    (∀ visits last, Undisturbed dds (.reading snapshot) sys visits last →
      visits.length + last.work ≤ sys.work ∧
      (last.Halted dds (.reading snapshot) →
        last.pc = .awaitPermit ∧ last.semPinfo = 0 ∧ last.graph = sys.graph ∧
          ∀ participant, sys.graph.Owns participant →
            lastFor last.published participant =
              some (sys.graph.snapshotOf snapshot participant))) ∧
    ∃ visits last, Undisturbed dds (.reading snapshot) sys visits last ∧
      last.Halted dds (.reading snapshot) := by
  have tended := Run.tended run unpolled guarded
  constructor
  · rintro visits last ⟨onward, alone, succeeds⟩
    obtain ⟨still, graph, none⟩ := onward.unpolled alone tended.unpolled
    obtain ⟨stillActive, _, stillOutside⟩ := onward.byThread alone
    have bound := update_thread_bounded run onward alone
    rw [timeOuts_eq_zero none, Nat.zero_mul] at bound
    refine ⟨bound, fun halted => ?_⟩
    have whole : Run dds (.reading snapshot) (past ++ visits) last := run.append onward
    have waits := whole.stuck_waits (.reading snapshot) (stillOutside outside) halted
    have ⟨here, permits⟩ : last.pc = .awaitPermit ∧ last.semPinfo = 0 := by
      refine waits.resolve_right fun ended => ?_
      have inactive := whole.inPlace.exiting (.inr ended)
      rw [stillActive, active] at inactive
      cases inactive
    refine ⟨here, permits, graph, fun participant owner => ?_⟩
    have allGuarded : Execution.Guarded (fun state step =>
        state.Notifies dds step ∧ state.UpdateSucceeds (.reading snapshot) step)
        (past ++ visits) := by
      intro visit member
      rcases List.mem_append.mp member with early | late
      · exact guarded visit early
      · have thread := alone visit late
        refine ⟨?_, succeeds visit late⟩
        obtain ⟨state, step⟩ := visit
        cases step with
        | perform => cases thread
        | _ => trivial
    rw [← graph]
    rcases (Run.tended whole still.disabled allGuarded).state with pending | stopping | settled
    · rcases pending with permit | ⟨events, leaving, _⟩
      · omega
      · exact absurd (.inr ⟨events, leaving⟩) (stillOutside outside)
    · exact absurd here stopping.2
    · apply (settled.upToDate participant (graph ▸ owner)).resolve_right
      simp [WillPublish, here]
  · obtain ⟨visits, last, onward, allowed, stuck⟩ :=
      (unpolled_paid dds snapshot).exists_stuck ⟨⟨past, run⟩, tended.unpolled⟩
    have onward : RunFrom dds (.reading snapshot) sys visits last := onward
    have alone : ∀ visit ∈ visits, visit.2.ofThread = true := fun visit member =>
      (allowed visit member).1
    obtain ⟨still, _, _⟩ := onward.unpolled alone tended.unpolled
    refine ⟨visits, last, ⟨onward, alone, fun visit member => (allowed visit member).2⟩, ?_⟩
    refine Waits.halted ?_ still.disabled
    by_contra moving
    have whole : Run dds (.reading snapshot) (past ++ visits) last := run.append onward
    obtain ⟨step, following, thread, _, succeeds, stepped⟩ := whole.inPlace.canStep
      whole.excluded (.reading snapshot) (Run.graph whole) ((onward.byThread alone).2.2 outside)
      moving
    refine stuck step following ⟨thread, ?_⟩ stepped
    rcases succeeds with ⟨answers, rfl⟩ | succeeds
    · exact reading_succeeds snapshot last answers
    · exact succeeds

end

/-! A caller has registered a node, and the update thread is at the permit of the call. -/

def notifiedSteps : List (Step Unit) :=
  .testActive :: callSteps (.registerLocalNode (some firstName) none none)

def notifiedSystem : GraphSystem (List NodeView) :=
  (GraphSystem.started Duration.infinite []).after clientsDds
    (.reading fun _ nodes => nodes.map (·.view)) notifiedSteps

theorem update_thread_bounded_notified :
    ∃ visits, GraphSystem.RunFrom clientsDds (.reading fun _ nodes => nodes.map (·.view))
        notifiedSystem visits (notifiedSystem.after clientsDds
          (.reading fun _ nodes => nodes.map (·.view)) (updateSteps ())) ∧
      visits.length + (notifiedSystem.after clientsDds
          (.reading fun _ nodes => nodes.map (·.view)) (updateSteps ())).work ≤
        notifiedSystem.work + GraphSystem.timeOuts visits * (6 * 1 + 17) := by
  obtain ⟨past, run, _⟩ := @GraphSystem.Run.ofReplay _ _ clientsDds
    (.reading fun _ nodes => nodes.map (·.view)) Duration.infinite [] notifiedSteps rfl
  obtain ⟨visits, onward, among⟩ := @GraphSystem.RunFrom.ofReplay _ _ clientsDds
    (.reading fun _ nodes => nodes.map (·.view)) notifiedSystem (updateSteps ())
    (by decide +kernel)
  have thread : ∀ step ∈ updateSteps (), step.ofThread = true := by simp [updateSteps, Step.ofThread]
  exact ⟨visits, onward, update_thread_bounded run onward fun visit member =>
    thread visit.2 (among visit member).2⟩

theorem updates_settle_notified :
    (∀ visits last, GraphSystem.Undisturbed clientsDds
        (.reading fun _ nodes => nodes.map (·.view)) notifiedSystem visits last →
      visits.length + last.work ≤ notifiedSystem.work ∧
      (last.Halted clientsDds (.reading fun _ nodes => nodes.map (·.view)) →
        last.pc = .awaitPermit ∧ last.semPinfo = 0 ∧ last.graph = notifiedSystem.graph ∧
          ∀ participant, notifiedSystem.graph.Owns participant →
            lastFor last.published participant = some (notifiedSystem.graph.snapshotOf
              (fun _ nodes => nodes.map (·.view)) participant))) ∧
    ∃ visits last, GraphSystem.Undisturbed clientsDds
        (.reading fun _ nodes => nodes.map (·.view)) notifiedSystem visits last ∧
      last.Halted clientsDds (.reading fun _ nodes => nodes.map (·.view)) := by
  obtain ⟨past, run, among⟩ := @GraphSystem.Run.ofReplay _ _ clientsDds
    (.reading fun _ nodes => nodes.map (·.view)) Duration.infinite [] notifiedSteps rfl
  refine updates_settle run rfl rfl ?_ fun visit member => ?_
  · have outside : notifiedSystem.mutexSelf = .nobody := rfl
    rintro (inside | ⟨events, inside⟩) <;> cases outside.symm.trans inside
  · refine firstUpdate_guarded _ visit.1 visit.2 ?_
    exact List.mem_append_left _ (among visit member).2

theorem shutdown_completes_waiting :
    (∀ visits last, GraphSystem.RunFrom clientsDds
        (.reading fun _ nodes => nodes.map (·.view)) (stoppedSystem stopSteps) visits last →
      (∀ visit ∈ visits, visit.2.ofThread = true) →
      visits.length + last.work ≤ (stoppedSystem stopSteps).work ∧
      (last.Halted clientsDds (.reading fun _ nodes => nodes.map (·.view)) →
        last.pc = .exited ∧ last.enabled clientsDds
          (.reading fun _ nodes => nodes.map (·.view)) .awaitExit = true)) ∧
    ∃ visits last, GraphSystem.RunFrom clientsDds
        (.reading fun _ nodes => nodes.map (·.view)) (stoppedSystem stopSteps) visits last ∧
      (∀ visit ∈ visits, visit.2.ofThread = true) ∧
      last.Halted clientsDds (.reading fun _ nodes => nodes.map (·.view)) := by
  obtain ⟨waited, waiting, _⟩ := @GraphSystem.Run.ofReplay _ _ clientsDds
    (.reading fun _ nodes => nodes.map (·.view)) Duration.infinite [] stopSteps rfl
  refine shutdown_completes waiting (.reading _) rfl ?_
  have outside : (stoppedSystem stopSteps).mutexSelf = .nobody := rfl
  rintro (inside | ⟨events, inside⟩) <;> cases outside.symm.trans inside

end Ros2Graph
