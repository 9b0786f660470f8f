import Mathlib.Data.List.Forall2
import Ros2Graph.Foundation.Refinement
import Ros2Graph.Update.NoLostUpdate

/-! Whatever the samples are, a graph updates as one whose samples are the listed nodes:
what is known of snapshots holds of the samples that an adapter makes of them. -/

set_option autoImplicit false

namespace Ros2Graph

open Foundation

/-- The listed nodes themselves, in place of a sample of them. -/
abbrev recordListing : ConvertToSampleFn (List GraphNode) Unit :=
  .reading fun _ nodes => nodes

/-- The same step of a graph whose conversions need no answers. -/
def Step.recorded {Answers : Type} : Step Answers → Step Unit
  | .enter => .enter
  | .perform env operation => .perform env operation
  | .leave => .leave
  | .clearActive => .clearActive
  | .giveToStop => .giveToStop
  | .awaitExit => .awaitExit
  | .testActive => .testActive
  | .takePermit => .takePermit
  | .timeOut => .timeOut
  | .retest => .retest
  | .lockPoll => .lockPoll
  | .inspect env => .inspect env
  | .unlockPoll => .unlockPoll
  | .retake => .retake
  | .drain => .drain
  | .lockGather => .lockGather
  | .gather granted => .gather granted
  | .unlockGather => .unlockGather
  | .pick => .pick
  | .lockConvert => .lockConvert
  | .convert _ => .convert ()
  | .unlockConvert => .unlockConvert
  | .unlockFailed => .unlockFailed
  | .publish retcode => .publish retcode
  | .endUpdate => .endUpdate
  | .giveExit => .giveExit

namespace GraphSystem

variable {Sample Answers : Type}

/-- The same graph with listings for samples. -/
def recorded (sys : GraphSystem Sample) (pinfo : List GraphNode)
    (published : List (DomainParticipant × List GraphNode)) : GraphSystem (List GraphNode) :=
  { sys with pinfo, published }

/-- The samples, published and at hand, are made of these listings. -/
structure Records (MadeOf : List GraphNode → DomainParticipant → Sample → Prop)
    (sys : GraphSystem Sample) (pinfo : List GraphNode)
    (published : List (DomainParticipant × List GraphNode)) : Prop where
  published : List.Forall₂ (fun entry listed => entry.1 = listed.1 ∧
    MadeOf listed.2 entry.1 entry.2) sys.published published
  converted : sys.pc = .unlockConvert ∨ sys.pc = .publish →
    ∀ dp, sys.picked = some dp → MadeOf pinfo dp sys.pinfo

section

variable {dds : Dds} {convert : ConvertToSampleFn Sample Answers}
  {MadeOf : List GraphNode → DomainParticipant → Sample → Prop}
  {sys following : GraphSystem Sample} {step : Step Answers} {pinfo : List GraphNode}
  {published : List (DomainParticipant × List GraphNode)}

/-- A step that neither converts nor publishes is a step of the recording. -/
theorem next_recorded (sys : GraphSystem Sample) (converts : ∀ answers, step ≠ .convert answers)
    (publishes : ∀ retcode, step ≠ .publish retcode) :
    (sys.recorded pinfo published).next dds recordListing step.recorded =
      (sys.next dds convert step).recorded pinfo published := by
  cases step with
  | convert answers => exact absurd rfl (converts answers)
  | publish retcode => exact absurd rfl (publishes retcode)
  | leave =>
      unfold GraphSystem.next
      cases held : sys.mutexSelf with
      | leaving events =>
          rcases events with _ | ⟨_ | _ | _, rest⟩ <;> simp [recorded, Step.recorded, held]
      | _ => simp [recorded, Step.recorded, held]
  | retake | drain | pick =>
      simp only [GraphSystem.next, Step.recorded]
      rw [apply_ite (recorded · pinfo published)]
      rfl
  | _ => rfl

theorem enabled_recorded (sys : GraphSystem Sample)
    (converts : ∀ answers, step ≠ .convert answers) :
    (sys.recorded pinfo published).enabled dds recordListing step.recorded =
      sys.enabled dds convert step := by
  cases step with
  | convert answers => exact absurd rfl (converts answers)
  | _ => rfl

/-- What keeps an update from coming about is the same in the recording. -/
theorem recorded_guarded (succeeds : sys.UpdateSucceeds convert step)
    (notifies : sys.Notifies dds step) :
    (sys.recorded pinfo published).Notifies dds step.recorded ∧
      (sys.recorded pinfo published).UpdateSucceeds recordListing step.recorded := by
  cases step with
  | convert answers =>
      refine ⟨trivial, fun retcode result ran => ?_⟩
      obtain ⟨dp, _, done⟩ := Option.bind_eq_some_iff.mp ran
      exact (Prod.mk.inj (Option.some.inj done)).1.symm
  | _ => exact ⟨notifies, succeeds⟩

/-- A step whose sample, if it makes one, is made of the listing. -/
theorem Steps.records (stepped : sys.Steps dds convert step following)
    (made : ∀ answers dp result, convert answers sys.graph dp sys.pinfo = some (.ok, result) →
      MadeOf sys.graph.listing dp result)
    (succeeds : sys.UpdateSucceeds convert step) (records : sys.Records MadeOf pinfo published) :
    ∃ pinfo' published', (sys.recorded pinfo published).Steps dds recordListing step.recorded
        (following.recorded pinfo' published') ∧ following.Records MadeOf pinfo' published' := by
  have effect := stepped.effect
  have plain : (∀ answers, step ≠ .convert answers) → (∀ retcode, step ≠ .publish retcode) →
      (sys.recorded pinfo published).Steps dds recordListing step.recorded
        (following.recorded pinfo published) := by
    intro converts publishes
    obtain ⟨enabled, rfl⟩ := stepped
    exact ⟨(enabled_recorded sys converts).trans enabled,
      (next_recorded sys converts publishes).symm⟩
  cases effect with
  | @converted answers dp result here picked ran =>
      have read : (sys.recorded pinfo published).converted recordListing () =
          some (.ok, sys.graph.listing) := by
        unfold GraphSystem.converted
        rw [show (sys.recorded pinfo published).picked = some dp from picked]
        rfl
      refine ⟨sys.graph.listing, published, ⟨?_, ?_⟩, records.published, fun _ other same => ?_⟩
      · simp only [Step.recorded, enabled, read, Option.isSome_some, Bool.and_true, beq_iff_eq]
        exact here
      · simp only [Step.recorded, next, read]
        rfl
      · cases picked.symm.trans same
        exact made answers dp result ran
  | @convertFailed answers dp retcode result here picked failed ran =>
      have read : sys.converted convert answers = some (retcode, result) := by
        unfold GraphSystem.converted
        rw [picked]
        exact ran
      exact absurd (succeeds _ _ read) failed
  | written here =>
      refine ⟨pinfo, published ++ (sys.picked.map fun dp => (dp, pinfo)).toList, ⟨?_, ?_⟩, ?_,
        by simp⟩
      · simp [Step.recorded, enabled, recorded, here]
      · simp [Step.recorded, next, recorded, GraphSystem.picked]
      · refine List.rel_append records.published ?_
        cases picked : sys.picked with
        | none => exact .nil
        | some dp => exact .cons ⟨rfl, records.converted (.inr here) dp picked⟩ .nil
  | notWritten here failed => exact absurd succeeds failed
  | convertUnlocked here =>
      exact ⟨_, _, plain (by simp) (by simp), records.published, fun _ =>
        records.converted (.inl here)⟩
  | called | performed | queued | left | flagCleared | toldToStop | joined | inspected =>
      exact ⟨_, _, plain (by simp) (by simp), records.published, records.converted⟩
  | _ => exact ⟨_, _, plain (by simp) (by simp), records.published, by simp_all⟩

variable {past : List (GraphSystem Sample × Step Answers)}

/-- A run whose updates succeed is the run of a recording, which keeps up as far as it does. -/
theorem Run.recorded (run : Run dds convert past sys)
    (made : ∀ graph, graph.Reachable dds → ∀ answers dp before result,
      convert answers graph dp before = some (.ok, result) → MadeOf graph.listing dp result)
    (guarded : Execution.Guarded (fun state step =>
      state.Notifies dds step ∧ state.UpdateSucceeds convert step) past) :
    ∃ trace pinfo published, Run dds recordListing trace (sys.recorded pinfo published) ∧
      Execution.Guarded (fun state step =>
        state.Notifies dds step ∧ state.UpdateSucceeds recordListing step) trace ∧
      sys.Records MadeOf pinfo published := by
  induction run with
  | start started =>
      obtain ⟨graph, participants, _, isInitial, rfl⟩ := started
      exact ⟨[], [], [], .start ⟨graph, participants, [], isInitial, rfl⟩,
        by simp [Execution.Guarded], .nil, by simp [initial]⟩
  | extend run stepped ih =>
      obtain ⟨trace, pinfo, published, reached, quiet, records⟩ := ih guarded.init
      obtain ⟨notifies, succeeds⟩ := guarded.last
      obtain ⟨_, _, onwards, still⟩ := Steps.records stepped
        (fun answers dp result => made _ (Run.graph run) answers dp _ result) succeeds records
      refine ⟨_, _, _, reached.extend onwards, ?_, still⟩
      intro visit member
      rcases List.mem_append.mp member with earlier | now
      · exact quiet visit earlier
      · cases List.mem_singleton.mp now
        exact recorded_guarded succeeds notifies

/-- What is published last was made of what was recorded last. -/
theorem Records.last (records : sys.Records MadeOf pinfo published)
    {participant : DomainParticipant} {listing : List GraphNode}
    (recorded : lastFor published participant = some listing) :
    ∃ sample, lastFor sys.published participant = some sample ∧
      MadeOf listing participant sample := by
  have filtered := List.rel_filter (p := (·.1 == participant)) (q := (·.1 == participant))
    (by rintro entry listed ⟨same, _⟩; simp [same]) records.published
  obtain ⟨listed, latest, rfl⟩ := Option.map_eq_some_iff.mp recorded
  rw [List.getLast?_eq_getElem?] at latest
  obtain ⟨entry, present, _, made⟩ := Execution.forall₂_getElem? filtered.flip latest
  refine ⟨entry.2, ?_, ?_⟩
  · rw [lastFor, List.getLast?_eq_getElem?, filtered.length_eq, present, Option.map_some]
  · obtain ⟨_, wanted⟩ := List.mem_filter.mp (List.mem_of_getElem? present)
    rw [← beq_iff_eq.mp wanted]
    exact made

/-- Without polling, whatever the samples are: at rest, the last one published for each
participant that owns a node was made of the nodes that are listed. -/
theorem Run.atRest (run : Run dds convert past sys) (unpolled : sys.enablePoll = false)
    (made : ∀ graph, graph.Reachable dds → ∀ answers dp before result,
      convert answers graph dp before = some (.ok, result) → MadeOf graph.listing dp result)
    (guarded : Execution.Guarded (fun state step =>
      state.Notifies dds step ∧ state.UpdateSucceeds convert step) past)
    (rests : sys.pc = .awaitPermit) (none : sys.semPinfo = 0) (outside : ¬ sys.CallerInside)
    (participant : DomainParticipant) (owner : sys.graph.Owns participant) :
    ∃ sample, lastFor sys.published participant = some sample ∧
      MadeOf sys.graph.listing participant sample := by
  obtain ⟨trace, pinfo, published, reached, quiet, records⟩ := run.recorded made guarded
  obtain ⟨_, latest⟩ := no_lost_update reached unpolled quiet
  exact records.last (latest rests none outside participant owner)

end

end GraphSystem

end Ros2Graph
