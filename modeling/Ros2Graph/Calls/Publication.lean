import Mathlib.Data.List.Forall2
import Ros2Graph.Calls.Linearization
import Ros2Graph.Update.NoLostUpdate

/-! What the update thread publishes beside callers whose statements interleave: every
sample shows the registry after some of the calls, each of them whole, and no sample shows
an earlier moment than the one before it. -/

set_option autoImplicit false

namespace Ros2Graph

open Foundation

section

open CallSystem

variable {Sample Answers : Type} {dds : Dds} {convert : ConvertToSampleFn Sample Answers}
  {start sys following : CallSystem Sample} {step : CallStep Answers}
  {past : List (CallSystem Sample × CallStep Answers)} {holder later : Option CallerId}

/-- The sample is a conversion of the registry that the order gives after the first steps of
the run. -/
structure ShowsMoment (dds : Dds) (convert : ConvertToSampleFn Sample Answers)
    (start : CallSystem Sample) (past : List (CallSystem Sample × CallStep Answers))
    (moment : Nat) (entry : DomainParticipant × Sample) : Prop where
  passed : moment ≤ past.length
  converted : ∃ answers before, convert answers
    (start.system.graph.after dds (serialHistory (past.take moment))) entry.1 before =
      some (.ok, entry.2)

/-- The moments that the published samples show, and that of the sample at hand. -/
structure ShownInOrder (dds : Dds) (convert : ConvertToSampleFn Sample Answers)
    (start : CallSystem Sample) (past : List (CallSystem Sample × CallStep Answers))
    (system : GraphSystem Sample) (moments : List Nat) (current : Nat) : Prop where
  ordered : (moments ++ [current]).Pairwise (· ≤ ·)
  passed : current ≤ past.length
  published : List.Forall₂ (ShowsMoment dds convert start past) moments system.published
  converted : system.pc = .unlockConvert ∨ system.pc = .publish →
    ∀ dp, system.picked = some dp → ShowsMoment dds convert start past current (dp, system.pinfo)

theorem ShowsMoment.kept {moment : Nat} {entry : DomainParticipant × Sample}
    (shown : ShowsMoment dds convert start past moment entry)
    (visit : CallSystem Sample × CallStep Answers) :
    ShowsMoment dds convert start (past ++ [visit]) moment entry := by
  obtain ⟨passed, converted⟩ := shown
  refine ⟨by simp only [List.length_append]; omega, ?_⟩
  rw [List.take_append_of_le_length passed]
  exact converted

/-- A step that neither converts nor publishes. -/
theorem ShownInOrder.kept {system next : GraphSystem Sample} {moments : List Nat} {current : Nat}
    (shown : ShownInOrder dds convert start past system moments current)
    (visit : CallSystem Sample × CallStep Answers) (published : next.published = system.published)
    (converted : next.pc = .unlockConvert ∨ next.pc = .publish →
      (system.pc = .unlockConvert ∨ system.pc = .publish) ∧ next.picked = system.picked ∧
        next.pinfo = system.pinfo) :
    ShownInOrder dds convert start (past ++ [visit]) next moments current := by
  refine ⟨shown.ordered, by simp only [List.length_append]; have := shown.passed; omega, ?_, ?_⟩
  · rw [published]
    exact shown.published.imp fun _ _ shows => shows.kept visit
  · intro here dp picked
    obtain ⟨before, same, pinfo⟩ := converted here
    rw [pinfo]
    exact (shown.converted before dp (same ▸ picked)).kept visit

/-- The sample at hand shows the moment at which it is converted. -/
theorem ShownInOrder.convertedNow {moments : List Nat} {current : Nat}
    (shown : ShownInOrder dds convert start past sys.system moments current)
    (ordered : Ordered dds start past sys holder) (here : sys.system.pc = .convert)
    {answers : Answers} {dp : DomainParticipant} {pinfo : Sample}
    (ran : convert answers sys.system.graph dp sys.system.pinfo =
      some (.ok, pinfo))
    (picked : sys.system.picked = some dp) (visit : CallSystem Sample × CallStep Answers) :
    ShownInOrder dds convert start (past ++ [visit])
      { sys.system with pinfo, pc := .unlockConvert } moments past.length := by
  obtain ⟨ascending, passed, published, _⟩ := shown
  have thread : sys.system.mutexSelf = .updateThread :=
    ordered.held.thread.mpr (by rw [here]; rfl)
  have registry : sys.system.graph = start.system.graph.after dds (serialHistory past) := by
    cases holder with
    | none => exact ordered.registry
    | some caller =>
        have entered := ordered.held.mutex.mpr rfl
        cases thread.symm.trans entered
  refine ⟨?_, by simp, published.imp fun _ _ shows => shows.kept visit, ?_⟩
  · obtain ⟨early, _, before⟩ := List.pairwise_append.mp ascending
    refine List.pairwise_append.mpr ⟨early, List.pairwise_singleton _ _, ?_⟩
    intro moment member last same
    have reached := before moment member current List.mem_cons_self
    cases List.mem_singleton.mp same
    omega
  · intro _ other same
    cases picked.symm.trans same
    refine ⟨by simp, ?_⟩
    rw [List.take_left' rfl, ← registry]
    exact ⟨answers, _, ran⟩

/-- The sample that is written shows no earlier moment than those before it. -/
theorem ShownInOrder.publishedNow {system : GraphSystem Sample} {moments : List Nat}
    {current : Nat} (shown : ShownInOrder dds convert start past system moments current)
    (here : system.pc = .publish) {dp : DomainParticipant} (picked : system.picked = some dp)
    (visit : CallSystem Sample × CallStep Answers) :
    ShownInOrder dds convert start (past ++ [visit])
      { system with
        published := system.published ++ [(dp, system.pinfo)]
        i := system.i + 1
        pc := .pick } (moments ++ [current]) current := by
  obtain ⟨ascending, passed, published, converted⟩ := shown
  have last := (converted (.inr here) dp picked).kept visit
  refine ⟨?_, by simp only [List.length_append]; omega, ?_, by simp⟩
  · refine List.pairwise_append.mpr ⟨ascending, List.pairwise_singleton _ _, ?_⟩
    intro moment member now same
    cases List.mem_singleton.mp same
    rcases List.mem_append.mp member with before | final
    · exact (List.pairwise_append.mp ascending).2.2 moment before current List.mem_cons_self
    · exact Nat.le_of_eq (List.mem_singleton.mp final)
  · refine List.rel_append (published.imp fun _ _ shows => shows.kept visit) ?_
    exact .cons last .nil

theorem HeldEffect.shownInOrder
    (effect : HeldEffect dds convert sys holder step following later)
    (ordered : Ordered dds start past sys holder) {moments : List Nat} {current : Nat}
    (shown : ShownInOrder dds convert start past sys.system moments current) :
    ∃ moments current, ShownInOrder dds convert start (past ++ [(sys, step)]) following.system
      moments current := by
  cases effect with
  | invoked | took | computed | queued | gave | answered =>
      exact ⟨moments, current, shown.kept _ rfl fun here => ⟨here, rfl, rfl⟩⟩
  | @others _ step system foreign stepped =>
      have effect := GraphSystem.Steps.effect stepped
      cases effect with
      | @converted answers dp pinfo here picked ran =>
          exact ⟨moments, past.length, shown.convertedNow ordered here ran picked _⟩
      | written here =>
          cases picked : sys.system.picked with
          | none =>
              refine ⟨moments, current, shown.kept _ ?_ (by simp)⟩
              simp
          | some dp => exact ⟨moments ++ [current], current, shown.publishedNow here picked _⟩
      | performed | called | queued | left => cases foreign
      | convertUnlocked here =>
          exact ⟨moments, current, shown.kept _ rfl fun _ => ⟨.inl here, rfl, rfl⟩⟩
      | flagCleared | toldToStop | joined | inspected =>
          exact ⟨moments, current, shown.kept _ rfl fun here => ⟨here, rfl, rfl⟩⟩
      | _ => exact ⟨moments, current, shown.kept _ rfl (by simp_all)⟩

/-- Every sample published converts the registry after some of the calls in their order, each of
them whole, and the samples show these moments in the order in which they are published. -/
theorem samples_show_order (run : CallSystem.RunFrom dds convert start past sys)
    (initial : start.IsInitial) :
    ∃ moments : List Nat, moments.Pairwise (· ≤ ·) ∧
      List.Forall₂ (ShowsMoment dds convert start past) moments sys.system.published := by
  have kept : ∃ holder moments current, Ordered dds start past sys holder ∧
      ShownInOrder dds convert start past sys.system moments current := by
    induction run with
    | start same =>
        subst same
        refine ⟨none, [], 0, ⟨initial.held, rfl, by simp [initial.2]⟩, ?_⟩
        obtain ⟨⟨graph, participants, pinfo, _, same⟩, _⟩ := initial
        refine ⟨by simp, by simp, ?_, by simp [same, GraphSystem.initial]⟩
        rw [same]
        exact .nil
    | extend run stepped ih =>
        obtain ⟨holder, moments, current, ordered, shown⟩ := ih
        obtain ⟨later, effect⟩ := (Steps.effect stepped).refine ordered.held
        obtain ⟨onwards, now, still⟩ := effect.shownInOrder ordered shown
        exact ⟨later, onwards, now, effect.ordered ordered, still⟩
  obtain ⟨_, moments, current, _, shown⟩ := kept
  exact ⟨moments, (List.pairwise_append.mp shown.ordered).1, shown.published⟩

end

/-! The update thread publishes the node that one of two racing callers has registered. -/

def publishingRun :
    List (CallSystem (List NodeView) × CallStep Unit) × CallSystem (List NodeView) :=
  racingStart.runOf clientsDds (.reading fun _ nodes => nodes.map (·.view))
    (racingSteps ++ (updateSteps ()).tail.map .other)

theorem samples_show_order_racing :
    publishingRun.2.system.published.length = 1 ∧ ∃ moments : List Nat,
      moments.Pairwise (· ≤ ·) ∧
        List.Forall₂ (ShowsMoment clientsDds (.reading fun _ nodes => nodes.map (·.view)) racingStart
          publishingRun.1) moments publishingRun.2.system.published :=
  ⟨by decide +kernel, samples_show_order (CallSystem.RunFrom.ofReplay rfl)
    (CallSystem.started_initial _ _)⟩

end Ros2Graph
