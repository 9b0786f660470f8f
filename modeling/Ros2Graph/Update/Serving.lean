import Ros2Graph.Update.Behaviour

/-! One update, participant by participant. What is known of the participants
gathered, of each sample converted and of each sample published carries through
the update with the participants served so far. -/

set_option autoImplicit false

namespace Ros2Graph

/-- The statements of `RTIROS2_Graph_publish_update`, from the gathering on. -/
def ThreadPc.inUpdate : ThreadPc → Bool
  | .gather | .unlockGather | .pick | .lockConvert | .convert | .unlockConvert | .unlockFailed
  | .publish => true
  | _ => false

/-- The steps by which the update thread works at an update. -/
def Step.ofUpdate {Answers : Type} : Step Answers → Bool
  | .gather _ | .unlockGather | .pick | .lockConvert | .convert _ | .unlockConvert
  | .unlockFailed | .publish _ => true
  | _ => false

namespace GraphSystem

theorem enabled_inUpdate {Sample Answers : Type} {dds : Dds}
    {convert : ConvertToSampleFn Sample Answers} {sys : GraphSystem Sample} {step : Step Answers}
    (enabled : sys.enabled dds convert step = true) (updates : step.ofUpdate = true) :
    sys.pc.inUpdate = true := by
  cases step with
  | gather | unlockGather | pick | unlockConvert | unlockFailed | publish =>
      rw [show sys.pc = _ from beq_iff_eq.mp enabled]
      rfl
  | lockConvert | convert =>
      rw [show sys.pc = _ from beq_iff_eq.mp (Bool.and_eq_true_iff.mp enabled).1]
      rfl
  | _ => cases updates

/-- The participants that the update has published for, unless it has failed. -/
def served {Sample : Type} (sys : GraphSystem Sample) : Option (List DomainParticipant) :=
  match sys.pc with
  | .gather | .unlockGather => some []
  | .pick | .lockConvert | .convert | .unlockConvert | .publish =>
      some (sys.participants.toList.take sys.i)
  | .updated => if sys.retcode = .ok then some sys.participants.toList else none
  | _ => none

theorem served_gathering {Sample : Type} {sys : GraphSystem Sample} (here : sys.pc = .gather) :
    sys.served = some [] := by
  simp [served, here]

/-- An update that has succeeded has served all that it has gathered. -/
theorem served_completed {Sample : Type} {sys : GraphSystem Sample} {listed : Prop}
    (returned : sys.pc = .updated) (succeeded : sys.retcode = .ok)
    (gathered : sys.pc = .gather ∨ sys.served = none ∨ listed) :
    sys.served = some sys.participants.toList ∧ listed := by
  have all : sys.served = some sys.participants.toList := by
    simp [served, returned, succeeded]
  refine ⟨all, ?_⟩
  rcases gathered with here | none | listed
  · exact absurd (here.symm.trans returned) (by decide)
  · exact absurd (none.symm.trans all) (by simp)
  · exact listed

/-- An update under way, or at its end. -/
structure Serving {Sample : Type} (Gathered : List DomainParticipant → Prop)
    (Converted : DomainParticipant → Sample → Prop)
    (Published : List (DomainParticipant × Sample) → List DomainParticipant → Prop)
    (sys : GraphSystem Sample) : Prop where
  gathered : sys.pc = .gather ∨ sys.served = none ∨ Gathered sys.participants.toList
  converted : sys.pc = .unlockConvert ∨ sys.pc = .publish →
    ∀ dp, sys.picked = some dp → Converted dp sys.pinfo
  published : ∀ served, sys.served = some served → Published sys.published served

end GraphSystem

section

open GraphSystem

variable {Sample Answers : Type} {dds : Dds} {convert : ConvertToSampleFn Sample Answers}
  {Gathered : List DomainParticipant → Prop} {Converted : DomainParticipant → Sample → Prop}
  {Published : List (DomainParticipant × Sample) → List DomainParticipant → Prop}
  {sys following : GraphSystem Sample} {step : Step Answers}

/-- The registry does not change from the gathering's lock to the gathering. -/
theorem StepEffect.still_gathering (effect : StepEffect dds convert sys step following)
    (excluded : sys.Excluded) (inside : sys.pc.inUpdate = true) (here : following.pc = .gather) :
    sys.pc = .gather ∧ following.graph = sys.graph := by
  cases effect with
  | called | queued | left | flagCleared | toldToStop | joined => exact ⟨here, rfl⟩
  | performed entered =>
      have gatheringNow : sys.pc = .gather := here
      have held := excluded.mpr (by rw [gatheringNow]; rfl)
      simp [entered] at held
  | _ => simp_all [ThreadPc.inUpdate]

/-- Only the gathering, a conversion and a publication have something to show;
the other steps of an update leave it where it is or fail it. -/
theorem StepEffect.serving (effect : StepEffect dds convert sys step following)
    (inside : sys.pc.inUpdate = true)
    (gathers : ∀ granted participants, sys.pc = .gather →
      sys.graph.gatherDomainParticipants granted sys.participants = (.ok, participants) →
        Gathered participants.toList)
    (converts : ∀ answers dp pinfo, sys.picked = some dp →
      convert answers sys.graph dp sys.pinfo = some (.ok, pinfo) → Converted dp pinfo)
    (publishes : ∀ published served dp sample, Published published served →
      Converted dp sample → Published (published ++ [(dp, sample)]) (served ++ [dp]))
    (serving : Serving Gathered Converted Published sys) :
    Serving Gathered Converted Published following := by
  obtain ⟨gathered, converted, published⟩ := serving
  cases effect with
  | called | queued | left | flagCleared | toldToStop | joined | performed =>
      exact ⟨gathered, converted, published⟩
  | gathered here ran =>
      refine ⟨.inr (.inr (gathers _ _ here ran)), by simp, ?_⟩
      simpa [served, here] using published
  | gatherFailed | failedUnlocked | convertFailed | notWritten =>
      exact ⟨.inr (.inl rfl), by simp, by simp [served]⟩
  | gatherUnlocked here | another here | convertLocked here =>
      refine ⟨?_, by simp, ?_⟩
      · simpa [served, here] using gathered
      · simpa [served, here] using published
  | completed here outside =>
      have all : sys.participants.toList.take sys.i = sys.participants.toList :=
        List.take_of_length_le (by simpa using outside)
      refine ⟨?_, by simp, ?_⟩
      · simpa [served, here] using gathered
      · simpa [served, here, all] using published
  | @converted _ dp pinfo here picked ran =>
      refine ⟨?_, fun _ other same => ?_, ?_⟩
      · simpa [served, here] using gathered
      · cases picked.symm.trans same
        exact converts _ _ _ picked ran
      · simpa [served, here] using published
  | convertUnlocked here =>
      refine ⟨?_, fun _ => converted (.inl here), ?_⟩
      · simpa [served, here] using gathered
      · simpa [served, here] using published
  | written here =>
      have before := published (sys.participants.toList.take sys.i) (by simp [served, here])
      refine ⟨?_, by simp, ?_⟩
      · simpa [served, here] using gathered
      · intro list same
        cases same
        rw [take_picked]
        cases picked : sys.picked with
        | none => simpa using before
        | some dp => exact publishes _ _ _ _ before (converted (.inr here) dp picked)
  | _ => simp_all [ThreadPc.inUpdate]

end

end Ros2Graph
