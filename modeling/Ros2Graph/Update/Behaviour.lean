import Ros2Graph.Update.Thread

/-! Everything one step of the graph can do, and what every run keeps: the
mutex is held where the update thread works, and the registry evolves by the
events of its own runs. -/

set_option autoImplicit false

namespace Ros2Graph

open Foundation

def ThreadPc.holdsMutex : ThreadPc → Bool
  | .poll | .gather | .unlockGather | .convert | .unlockConvert | .unlockFailed => true
  | _ => false

section

variable {Sample Answers : Type} {dds : Dds} {convert : ConvertToSampleFn Sample Answers}

open GraphSystem in
/-- Everything one step can do to the graph. -/
inductive StepEffect (dds : Dds) (convert : ConvertToSampleFn Sample Answers)
    (sys : GraphSystem Sample) : Step Answers → GraphSystem Sample → Prop where
  | called : sys.mutexSelf = .nobody →
      StepEffect dds convert sys .enter { sys with mutexSelf := .entered }
  | performed {env operation rest} : sys.mutexSelf = .entered →
      (operation.perform dds env sys.graph).events = .takeMutexSelf :: rest →
      StepEffect dds convert sys (.perform env operation)
        { sys with
          graph := (operation.perform dds env sys.graph).graph, mutexSelf := .leaving rest }
  | queued {rest} : sys.mutexSelf = .leaving (.giveSemPinfo :: rest) →
      StepEffect dds convert sys .leave
        { sys with semPinfo := sys.semPinfo + 1, mutexSelf := .leaving rest }
  | left {rest} : sys.mutexSelf = .leaving (.giveMutexSelf :: rest) →
      StepEffect dds convert sys .leave { sys with mutexSelf := .nobody }
  | flagCleared : sys.finalizePc = .notCalled →
      StepEffect dds convert sys .clearActive
        { sys with threadPinfoActive := false, finalizePc := .flagCleared }
  | toldToStop : sys.finalizePc = .flagCleared →
      StepEffect dds convert sys .giveToStop
        { sys with semPinfo := sys.semPinfo + 1, finalizePc := .awaitExit }
  | joined : sys.finalizePc = .awaitExit → sys.semPinfoExit = true →
      StepEffect dds convert sys .awaitExit
        { sys with semPinfoExit := false, finalizePc := .joined }
  | loopEntered : sys.pc = .loopHead → sys.threadPinfoActive = true →
      StepEffect dds convert sys .testActive { sys with pc := .awaitPermit }
  | loopLeft : sys.pc = .loopHead → sys.threadPinfoActive = false →
      StepEffect dds convert sys .testActive { sys with pc := .giveExit }
  | permitTaken : sys.pc = .awaitPermit → 0 < sys.semPinfo →
      StepEffect dds convert sys .takePermit
        { sys with semPinfo := sys.semPinfo - 1, takeRc := .ok, pc := .retest }
  | timedOut : sys.pc = .awaitPermit → sys.enablePoll = true → sys.semPinfo = 0 →
      StepEffect dds convert sys .timeOut { sys with takeRc := .timeout, pc := .retest }
  | stopped : sys.pc = .retest → sys.threadPinfoActive = false →
      StepEffect dds convert sys .retest { sys with pc := .loopHead }
  | pollDue : sys.pc = .retest → sys.enablePoll = true → sys.takeRc = .timeout →
      StepEffect dds convert sys .retest { sys with pc := .lockPoll }
  | updateDue : sys.pc = .retest → sys.takeRc = .ok →
      StepEffect dds convert sys .retest { sys with pc := .drain }
  | nothingDue : sys.pc = .retest → sys.takeRc ≠ .ok →
      ¬ (sys.enablePoll = true ∧ sys.takeRc = .timeout) →
      StepEffect dds convert sys .retest { sys with pc := .loopHead }
  | pollLocked : sys.pc = .lockPoll → sys.mutexSelf = .nobody →
      StepEffect dds convert sys .lockPoll
        { sys with mutexSelf := .updateThread, node := 0, pc := .poll }
  | inspected {env} : sys.pc = .poll → sys.node < sys.graph.nodes.length →
      StepEffect dds convert sys (.inspect env)
        { sys with
          graph := (sys.graph.inspectLocalNodeEA dds env sys.node).1, node := sys.node + 1 }
  | pollUnlocked : sys.pc = .poll → sys.graph.nodes.length ≤ sys.node →
      StepEffect dds convert sys .unlockPoll { sys with mutexSelf := .nobody, pc := .retake }
  | retaken : sys.pc = .retake → 0 < sys.semPinfo →
      StepEffect dds convert sys .retake
        { sys with semPinfo := sys.semPinfo - 1, takeRc := .ok, pc := .drain }
  | notRetaken : sys.pc = .retake → sys.semPinfo = 0 →
      StepEffect dds convert sys .retake { sys with takeRc := .timeout, pc := .loopHead }
  | drained : sys.pc = .drain → 0 < sys.semPinfo →
      StepEffect dds convert sys .drain { sys with semPinfo := sys.semPinfo - 1 }
  | drainedAll : sys.pc = .drain → sys.semPinfo = 0 →
      StepEffect dds convert sys .drain { sys with pc := .lockGather }
  | gatherLocked : sys.pc = .lockGather → sys.mutexSelf = .nobody →
      StepEffect dds convert sys .lockGather
        { sys with mutexSelf := .updateThread, pc := .gather }
  | gathered {granted participants} : sys.pc = .gather →
      sys.graph.gatherDomainParticipants granted sys.participants = (.ok, participants) →
      StepEffect dds convert sys (.gather granted) { sys with participants, pc := .unlockGather }
  | gatherFailed {granted retcode participants} : sys.pc = .gather → retcode ≠ .ok →
      sys.graph.gatherDomainParticipants granted sys.participants = (retcode, participants) →
      StepEffect dds convert sys (.gather granted) { sys with participants, pc := .unlockFailed }
  | gatherUnlocked : sys.pc = .unlockGather →
      StepEffect dds convert sys .unlockGather
        { sys with mutexSelf := .nobody, i := 0, pc := .pick }
  | another : sys.pc = .pick → sys.i < sys.participants.length →
      StepEffect dds convert sys .pick { sys with pc := .lockConvert }
  | completed : sys.pc = .pick → sys.participants.length ≤ sys.i →
      StepEffect dds convert sys .pick { sys with retcode := .ok, pc := .updated }
  | convertLocked : sys.pc = .lockConvert → sys.mutexSelf = .nobody →
      StepEffect dds convert sys .lockConvert
        { sys with mutexSelf := .updateThread, pc := .convert }
  | converted {answers dp pinfo} : sys.pc = .convert → sys.picked = some dp →
      convert answers sys.graph dp sys.pinfo = some (.ok, pinfo) →
      StepEffect dds convert sys (.convert answers) { sys with pinfo, pc := .unlockConvert }
  | convertFailed {answers dp retcode pinfo} : sys.pc = .convert → sys.picked = some dp →
      retcode ≠ .ok → convert answers sys.graph dp sys.pinfo = some (retcode, pinfo) →
      StepEffect dds convert sys (.convert answers) { sys with pinfo, pc := .unlockFailed }
  | convertUnlocked : sys.pc = .unlockConvert →
      StepEffect dds convert sys .unlockConvert { sys with mutexSelf := .nobody, pc := .publish }
  | failedUnlocked : sys.pc = .unlockFailed →
      StepEffect dds convert sys .unlockFailed
        { sys with mutexSelf := .nobody, retcode := .error, pc := .updated }
  | written : sys.pc = .publish →
      StepEffect dds convert sys (.publish .ok)
        { sys with
          published := sys.published ++ (sys.picked.map fun dp => (dp, sys.pinfo)).toList
          i := sys.i + 1
          pc := .pick }
  | notWritten {retcode} : sys.pc = .publish → retcode ≠ .ok →
      StepEffect dds convert sys (.publish retcode)
        { sys with retcode := .error, pc := .updated }
  | updateEnded : sys.pc = .updated →
      StepEffect dds convert sys .endUpdate { sys with pc := .loopHead }
  | exitGiven : sys.pc = .giveExit →
      StepEffect dds convert sys .giveExit { sys with semPinfoExit := true, pc := .exited }

namespace GraphSystem

variable {sys following : GraphSystem Sample} {step : Step Answers}
  {past : List (GraphSystem Sample × Step Answers)}

/-- The index of the loop splits the gathered participants. -/
theorem take_picked (sys : GraphSystem Sample) :
    sys.participants.toList.take (sys.i + 1) =
      sys.participants.toList.take sys.i ++ sys.picked.toList := by
  rw [List.take_add_one, ReusedSeq.getElem?_toList]
  rfl

theorem drop_picked (sys : GraphSystem Sample) :
    sys.participants.toList.drop sys.i =
      sys.picked.toList ++ sys.participants.toList.drop (sys.i + 1) := by
  rw [List.drop_eq_getElem?_toList_append, ReusedSeq.getElem?_toList]
  rfl

theorem Steps.effect (stepped : sys.Steps dds convert step following) :
    StepEffect dds convert sys step following := by
  obtain ⟨enabled, rfl⟩ := stepped
  cases step with
  | enter => exact .called (by simpa [GraphSystem.enabled] using enabled)
  | perform env operation =>
      simp only [GraphSystem.enabled, Bool.and_eq_true, beq_iff_eq, List.head?_eq_some_iff]
        at enabled
      obtain ⟨entered, rest, events⟩ := enabled
      have effect : StepEffect dds convert sys (.perform env operation) _ :=
        .performed entered events
      simpa [next, events] using effect
  | leave =>
      simp only [GraphSystem.enabled] at enabled
      split at enabled
      · next event rest leaving =>
        cases event with
        | takeMutexSelf => simp at enabled
        | giveSemPinfo => simpa [next, leaving] using StepEffect.queued leaving
        | giveMutexSelf => simpa [next, leaving] using StepEffect.left leaving
      · cases enabled
  | clearActive => exact .flagCleared (by simpa [GraphSystem.enabled] using enabled)
  | giveToStop => exact .toldToStop (by simpa [GraphSystem.enabled] using enabled)
  | awaitExit =>
      simp only [GraphSystem.enabled, Bool.and_eq_true, beq_iff_eq] at enabled
      exact .joined enabled.1 enabled.2
  | testActive =>
      have here : sys.pc = .loopHead := by simpa [GraphSystem.enabled] using enabled
      cases active : sys.threadPinfoActive with
      | true => simpa [next, active] using StepEffect.loopEntered here active
      | false => simpa [next, active] using StepEffect.loopLeft here active
  | takePermit =>
      simp only [GraphSystem.enabled, Bool.and_eq_true, beq_iff_eq, decide_eq_true_eq] at enabled
      exact .permitTaken enabled.1 enabled.2
  | timeOut =>
      simp only [GraphSystem.enabled, Bool.and_eq_true, beq_iff_eq] at enabled
      exact .timedOut enabled.1.1 enabled.1.2 enabled.2
  | retest =>
      have here : sys.pc = .retest := by simpa [GraphSystem.enabled] using enabled
      simp only [next]
      split
      · next inactive => exact .stopped here (by simpa using inactive)
      · split
        · next due =>
          simp only [Bool.and_eq_true, beq_iff_eq] at due
          exact .pollDue here due.1 due.2
        · next notDue =>
          split
          · next ok => exact .updateDue here (by simpa using ok)
          · next notOk =>
            exact .nothingDue here (by simpa using notOk) (by simpa using notDue)
  | lockPoll =>
      simp only [GraphSystem.enabled, Bool.and_eq_true, beq_iff_eq] at enabled
      exact .pollLocked enabled.1 enabled.2
  | inspect env =>
      simp only [GraphSystem.enabled, Bool.and_eq_true, beq_iff_eq, decide_eq_true_eq] at enabled
      exact .inspected enabled.1 enabled.2
  | unlockPoll =>
      simp only [GraphSystem.enabled, Bool.and_eq_true, beq_iff_eq, decide_eq_true_eq] at enabled
      exact .pollUnlocked enabled.1 enabled.2
  | retake =>
      have here : sys.pc = .retake := by simpa [GraphSystem.enabled] using enabled
      simp only [next]
      split
      · next permit => exact .retaken here permit
      · next none => exact .notRetaken here (Nat.eq_zero_of_not_pos none)
  | drain =>
      have here : sys.pc = .drain := by simpa [GraphSystem.enabled] using enabled
      simp only [next]
      split
      · next permit => exact .drained here permit
      · next none => exact .drainedAll here (Nat.eq_zero_of_not_pos none)
  | lockGather =>
      simp only [GraphSystem.enabled, Bool.and_eq_true, beq_iff_eq] at enabled
      exact .gatherLocked enabled.1 enabled.2
  | gather granted =>
      have here : sys.pc = .gather := by simpa [GraphSystem.enabled] using enabled
      cases ran : sys.graph.gatherDomainParticipants granted sys.participants with
      | mk retcode participants =>
          by_cases ok : retcode = .ok
          · subst ok
            simpa [next, ran] using StepEffect.gathered here ran
          · simpa [next, ran, ok] using StepEffect.gatherFailed here ok ran
  | unlockGather => exact .gatherUnlocked (by simpa [GraphSystem.enabled] using enabled)
  | pick =>
      have here : sys.pc = .pick := by simpa [GraphSystem.enabled] using enabled
      simp only [next]
      split
      · next inside => exact .another here inside
      · next outside => exact .completed here (Nat.le_of_not_lt outside)
  | lockConvert =>
      simp only [GraphSystem.enabled, Bool.and_eq_true, beq_iff_eq] at enabled
      exact .convertLocked enabled.1 enabled.2
  | convert answers =>
      simp only [GraphSystem.enabled, Bool.and_eq_true, beq_iff_eq] at enabled
      obtain ⟨here, defined⟩ := enabled
      obtain ⟨⟨retcode, pinfo⟩, ran⟩ := Option.isSome_iff_exists.mp defined
      obtain ⟨dp, picked, done⟩ := Option.bind_eq_some_iff.mp ran
      by_cases ok : retcode = .ok
      · subst ok
        simpa [next, ran] using StepEffect.converted here picked done
      · simpa [next, ran, ok] using StepEffect.convertFailed here picked ok done
  | unlockConvert => exact .convertUnlocked (by simpa [GraphSystem.enabled] using enabled)
  | unlockFailed => exact .failedUnlocked (by simpa [GraphSystem.enabled] using enabled)
  | publish retcode =>
      have here : sys.pc = .publish := by simpa [GraphSystem.enabled] using enabled
      by_cases ok : retcode = .ok
      · subst ok
        simpa [next] using StepEffect.written here
      · simpa [next, ok] using StepEffect.notWritten here ok
  | endUpdate => exact .updateEnded (by simpa [GraphSystem.enabled] using enabled)
  | giveExit => exact .exitGiven (by simpa [GraphSystem.enabled] using enabled)

theorem RunFrom.ofReplay {steps : List (Step Answers)}
    (fits : (sys.replay dds convert steps).isSome = true) :
    ∃ visits, RunFrom dds convert sys visits (sys.after dds convert steps) ∧
      ∀ visit ∈ visits, visit.1.enabled dds convert visit.2 = true ∧ visit.2 ∈ steps := by
  have replayed : ∀ (steps : List (Step Answers)) {past} {middle last : GraphSystem Sample},
      RunFrom dds convert sys past middle → middle.replay dds convert steps = some last →
      ∃ visits, RunFrom dds convert sys (past ++ visits) last ∧
        ∀ visit ∈ visits, visit.1.enabled dds convert visit.2 = true ∧ visit.2 ∈ steps := by
    intro steps
    induction steps with
    | nil =>
        intro past middle last run done
        cases done
        exact ⟨[], by simpa using run, by simp⟩
    | cons step rest ih =>
        intro past middle last run replayed
        unfold GraphSystem.replay at replayed
        split at replayed
        · next enabled =>
          obtain ⟨visits, reached, among⟩ := ih (run.extend ⟨enabled, rfl⟩) replayed
          refine ⟨(middle, step) :: visits, by simpa [List.append_assoc] using reached, ?_⟩
          intro visit member
          rcases List.mem_cons.mp member with rfl | onward
          · exact ⟨enabled, List.mem_cons_self⟩
          · exact (among visit onward).imp_right (List.mem_cons_of_mem _)
        · cases replayed
  obtain ⟨last, done⟩ := Option.isSome_iff_exists.mp fits
  have start : RunFrom dds convert sys [] sys := .start rfl
  obtain ⟨visits, reached, among⟩ := replayed steps start done
  exact ⟨visits, by simpa [GraphSystem.after, done] using reached, among⟩

theorem Run.ofReplay {pollPeriod : Duration} {pinfo : Sample} {steps : List (Step Answers)}
    (fits : ((started pollPeriod pinfo).replay dds convert steps).isSome = true) :
    ∃ past, Run dds convert past ((started pollPeriod pinfo).after dds convert steps) ∧
      ∀ visit ∈ past, visit.1.enabled dds convert visit.2 = true ∧ visit.2 ∈ steps := by
  obtain ⟨visits, reached, among⟩ := RunFrom.ofReplay fits
  have run : Run dds convert [] (started pollPeriod pinfo) :=
    .start ⟨_, _, _, ⟨⟨0⟩, pollPeriod, rfl⟩, rfl⟩
  exact ⟨visits, run.append reached, among⟩

/-- The update thread holds `mutex_self` exactly where it works on the registry. -/
def Excluded (sys : GraphSystem Sample) : Prop :=
  sys.mutexSelf = .updateThread ↔ sys.pc.holdsMutex = true

theorem Steps.excluded (excluded : sys.Excluded) (stepped : sys.Steps dds convert step following) :
    following.Excluded := by
  have effect := stepped.effect
  unfold Excluded at *
  cases effect <;> simp_all [ThreadPc.holdsMutex]

theorem Run.excluded (run : Run dds convert past sys) : sys.Excluded := by
  refine @Execution.always _ _ _ _ Excluded ?_
    (fun _ _ _ held stepped => Steps.excluded held stepped) _ _ run
  intro state started
  obtain ⟨graph, participants, pinfo, _, rfl⟩ := started
  simp [Excluded, initial, ThreadPc.holdsMutex]

theorem Steps.enablePoll (stepped : sys.Steps dds convert step following) :
    following.enablePoll = sys.enablePoll := by
  have effect := stepped.effect
  cases effect <;> rfl

/-- The registry changes only by the events of its own runs. -/
theorem Run.graph (run : Run dds convert past sys) : sys.graph.Reachable dds := by
  refine @Execution.always _ _ _ _ (fun state => state.graph.Reachable dds) ?_ ?_ _ _ run
  · intro state started
    obtain ⟨graph, participants, pinfo, isInitial, rfl⟩ := started
    exact ⟨[], .start isInitial⟩
  · intro state step next held stepped
    obtain ⟨events, reached⟩ := held
    have effect := stepped.effect
    cases effect with
    | @performed env operation =>
        exact ⟨_, @Execution.extend _ _ _ _ _ _ _ (.call env operation) reached rfl⟩
    | @inspected env =>
        exact ⟨_, @Execution.extend _ _ _ _ _ _ _ (.poll env state.node) reached rfl⟩
    | _ => exact ⟨events, reached⟩

end GraphSystem

end

def lastFor {Sample : Type} (published : List (DomainParticipant × Sample))
    (participant : DomainParticipant) : Option Sample :=
  (published.filter (·.1 == participant)).getLast?.map (·.2)

theorem lastFor_append {Sample : Type} (published : List (DomainParticipant × Sample))
    (participant other : DomainParticipant) (sample : Sample) :
    lastFor (published ++ [(other, sample)]) participant =
      if other = participant then some sample else lastFor published participant := by
  unfold lastFor
  rw [List.filter_append]
  by_cases same : other = participant
  · simp [same]
  · simp [same]

end Ros2Graph
