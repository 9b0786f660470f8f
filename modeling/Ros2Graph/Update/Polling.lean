import Ros2Graph.Registry.PollPeriod
import Ros2Graph.Update.Removal
import Ros2Graph.Update.Shutdown

/-! What happens after a poll. The inspections of a poll give no permit, so the
update thread publishes what they have found only if somebody else gives one. -/

set_option autoImplicit false

namespace Ros2Graph

open Foundation

/-- The takes of `sem_pinfo` with `ts_zero`. -/
def Step.takesAtOnce {Answers : Type} : Step Answers → Bool
  | .retake | .drain => true
  | _ => false

def Step.gathers {Answers : Type} : Step Answers → Bool
  | .gather _ => true
  | _ => false

/-- Between the gathering and the next take of `sem_pinfo`. -/
def ThreadPc.hasGathered : ThreadPc → Bool
  | .unlockGather | .pick | .lockConvert | .convert | .unlockConvert | .unlockFailed | .publish
  | .updated | .loopHead | .awaitPermit => true
  | _ => false

namespace GraphSystem

variable {Sample Answers : Type}

def GivesPermit (sys : GraphSystem Sample) : Step Answers → Prop
  | .leave => ∃ rest, sys.mutexSelf = .leaving (.giveSemPinfo :: rest)
  | .giveToStop => True
  | _ => False

def PermitGiven (polled : GraphSystem Sample) (visits : List (GraphSystem Sample × Step Answers)) :
    Prop :=
  0 < polled.semPinfo ∨ ∃ visit ∈ visits, visit.1.GivesPermit visit.2

/-- The inspections of one poll: from where it has `mutex_self` to where it has
given it back. -/
structure Poll (dds : Dds) (convert : ConvertToSampleFn Sample Answers)
    (start : GraphSystem Sample) (visits : List (GraphSystem Sample × Step Answers))
    (polled : GraphSystem Sample) : Prop where
  begins : start.pc = .poll ∧ start.node = 0
  run : RunFrom dds convert start visits polled
  inside : ∀ visit ∈ visits, visit.1.pc = .poll
  ends : polled.pc = .retake

/-- The poll has changed what is advertised for the participant. -/
def Discovers (start polled : GraphSystem Sample) (participant : DomainParticipant) : Prop :=
  polled.graph.advertised participant ≠ start.graph.advertised participant

/-- The rest of the iteration, until the update thread is about to wait again. -/
structure RestOfIteration (dds : Dds) (convert : ConvertToSampleFn Sample Answers)
    (polled : GraphSystem Sample) (visits : List (GraphSystem Sample × Step Answers))
    (last : GraphSystem Sample) : Prop where
  run : RunFrom dds convert polled visits last
  inside : ∀ visit ∈ visits, visit.1.pc ≠ .awaitPermit
  ends : last.pc = .awaitPermit

/-- Somebody gives a permit after the last take of the iteration. -/
def PermitLeft (visits : List (GraphSystem Sample × Step Answers)) : Prop :=
  ∃ front visit later, visits = front ++ visit :: later ∧ visit.1.GivesPermit visit.2 ∧
    ∀ other ∈ later, other.2.takesAtOnce = false

/-- The gathering succeeds, and so do the conversions and the writes until the
participant has been published for. -/
def UpdatesFor (convert : ConvertToSampleFn Sample Answers)
    (visits : List (GraphSystem Sample × Step Answers)) (participant : DomainParticipant) : Prop :=
  ∀ visit ∈ visits, visit.1.WillPublish participant → visit.1.UpdateSucceeds convert visit.2

def ConvertedIn (convert : ConvertToSampleFn Sample Answers)
    (visits : List (GraphSystem Sample × Step Answers)) (participant : DomainParticipant)
    (sample : Sample) : Prop :=
  ∃ visit ∈ visits, ∃ answers, visit.1.picked = some participant ∧
    visit.1.converted convert answers = some (.ok, sample)

def PublishedSince (convert : ConvertToSampleFn Sample Answers) (polled : GraphSystem Sample)
    (visits : List (GraphSystem Sample × Step Answers)) (sys : GraphSystem Sample)
    (participant : DomainParticipant) : Prop :=
  ∃ fresh sample, sys.published = polled.published ++ fresh ∧ (participant, sample) ∈ fresh ∧
    ConvertedIn convert visits participant sample

/-- The participants have been gathered, and this one published for if it owned a node then. -/
def UpdatedFor (convert : ConvertToSampleFn Sample Answers) (polled : GraphSystem Sample)
    (visits : List (GraphSystem Sample × Step Answers)) (sys : GraphSystem Sample)
    (participant : DomainParticipant) : Prop :=
  ∃ visit ∈ visits, visit.2.gathers = true ∧ visit.1.UpdateSucceeds convert visit.2 ∧
    (visit.1.graph.Owns participant → PublishedSince convert polled visits sys participant)

/-- The thread has published an update for the participant in the iteration, or a
permit is left for the next one. -/
def Announced (convert : ConvertToSampleFn Sample Answers) (polled : GraphSystem Sample)
    (visits : List (GraphSystem Sample × Step Answers)) (sys : GraphSystem Sample)
    (participant : DomainParticipant) : Prop :=
  0 < sys.semPinfo ∨ UpdatedFor convert polled visits sys participant

/-- No update has been tried. -/
def NothingTried (visits : List (GraphSystem Sample × Step Answers)) : Prop :=
  ∀ visit ∈ visits, visit.2.ofUpdate = false

/-- The participant owned a node as it was gathered, and the update has not come to it. -/
structure Missed (convert : ConvertToSampleFn Sample Answers) (polled : GraphSystem Sample)
    (visits : List (GraphSystem Sample × Step Answers)) (sys : GraphSystem Sample)
    (participant : DomainParticipant) : Prop where
  owner : ∀ visit ∈ visits, visit.2.gathers = true → visit.1.UpdateSucceeds convert visit.2 →
    visit.1.graph.Owns participant
  unpublished : ∃ fresh, sys.published = polled.published ++ fresh ∧
    participant ∉ fresh.map (·.1)

/-- The update under way. -/
structure Updating (convert : ConvertToSampleFn Sample Answers)
    (visits : List (GraphSystem Sample × Step Answers)) (sys : GraphSystem Sample) : Prop where
  apart : sys.participants.toList.Nodup
  gathered : ∃ visit ∈ visits, visit.2.gathers = true ∧ visit.1.UpdateSucceeds convert visit.2
  converted : sys.pc = .unlockConvert ∨ sys.pc = .publish → ∀ dp, sys.picked = some dp →
    ConvertedIn convert visits dp sys.pinfo

/-- What is known of `sem_pinfo` before the first take of the iteration, and after the last. -/
structure Permits (polled : GraphSystem Sample)
    (visits : List (GraphSystem Sample × Step Answers)) (sys : GraphSystem Sample) : Prop where
  first : sys.pc = .retake → (0 < sys.semPinfo ↔ PermitGiven polled visits)
  last : sys.pc ≠ .retake → sys.pc ≠ .drain → (0 < sys.semPinfo ↔ PermitLeft visits)

/-- Where the iteration is, with what is known there of one participant. -/
inductive Stage (convert : ConvertToSampleFn Sample Answers) (polled : GraphSystem Sample)
    (participant : DomainParticipant) (visits : List (GraphSystem Sample × Step Answers))
    (sys : GraphSystem Sample) : Prop where
  | approaching : sys.pc = .retake ∨ sys.pc = .drain ∨ sys.pc = .lockGather ∨ sys.pc = .gather →
      sys.published = polled.published → NothingTried visits →
      (sys.pc ≠ .retake → PermitGiven polled visits) → Stage convert polled participant visits sys
  | awaited : sys.pc.hasGathered = true → sys.WillPublish participant →
      PermitGiven polled visits → UpdatesFor convert visits participant →
      Updating convert visits sys → Missed convert polled visits sys participant →
      Stage convert polled participant visits sys
  | served : sys.pc.hasGathered = true → ¬ sys.WillPublish participant →
      PermitGiven polled visits → UpdatesFor convert visits participant →
      UpdatedFor convert polled visits sys participant →
      Stage convert polled participant visits sys
  | missed : sys.pc = .unlockFailed ∨ sys.pc = .updated ∨ sys.pc = .loopHead ∨
        sys.pc = .awaitPermit →
      ¬ UpdatesFor convert visits participant → Missed convert polled visits sys participant →
      Stage convert polled participant visits sys
  | idle : sys.pc = .loopHead ∨ sys.pc = .awaitPermit → NothingTried visits →
      (PermitGiven polled visits → PermitLeft visits) → Stage convert polled participant visits sys
  | exiting : sys.pc = .giveExit ∨ sys.pc = .exited → Stage convert polled participant visits sys

end GraphSystem

namespace GraphSystem

variable {Sample Answers : Type} {dds : Dds} {convert : ConvertToSampleFn Sample Answers}
  {polled sys following : GraphSystem Sample} {step : Step Answers}
  {visits : List (GraphSystem Sample × Step Answers)} {visit : GraphSystem Sample × Step Answers}

theorem permitGiven_append (visit : GraphSystem Sample × Step Answers) :
    PermitGiven polled (visits ++ [visit]) ↔
      PermitGiven polled visits ∨ visit.1.GivesPermit visit.2 := by
  simp [PermitGiven, or_and_right, exists_or, or_assoc]

theorem PermitGiven.later (given : PermitGiven polled visits)
    (visit : GraphSystem Sample × Step Answers) : PermitGiven polled (visits ++ [visit]) :=
  (permitGiven_append visit).mpr (.inl given)

theorem permitLeft_append (visit : GraphSystem Sample × Step Answers) :
    PermitLeft (visits ++ [visit]) ↔
      visit.1.GivesPermit visit.2 ∨ (visit.2.takesAtOnce = false ∧ PermitLeft visits) := by
  constructor
  · rintro ⟨front, giver, later, split, gives, none⟩
    rcases List.eq_nil_or_concat later with rfl | ⟨others, last, rfl⟩
    · obtain ⟨_, same⟩ := List.append_inj' split rfl
      cases same
      exact .inl gives
    · rw [List.concat_eq_append, ← List.cons_append, ← List.append_assoc] at split
      obtain ⟨earlier, same⟩ := List.append_inj' split rfl
      cases same
      simp only [List.concat_eq_append, List.mem_append] at none
      exact .inr ⟨none _ (.inr List.mem_cons_self), front, giver, others, earlier, gives,
        fun other member => none other (.inl member)⟩
  · rintro (gives | ⟨still, front, giver, later, rfl, gives, none⟩)
    · exact ⟨visits, visit, [], rfl, gives, by simp⟩
    · refine ⟨front, giver, later ++ [visit], by simp, gives, fun other member => ?_⟩
      rcases List.mem_append.mp member with earlier | now
      · exact none other earlier
      · exact List.mem_singleton.mp now ▸ still

theorem gathers_ofUpdate {step : Step Answers} (aside : step.ofUpdate = false) :
    step.gathers = false := by
  cases step with
  | gather => cases aside
  | _ => rfl

theorem UpdateSucceeds.aside {step : Step Answers} (aside : step.ofUpdate = false) :
    sys.UpdateSucceeds convert step := by
  cases step with
  | gather | convert | publish => cases aside
  | _ => trivial

theorem NothingTried.later (nothing : NothingTried visits) (aside : visit.2.ofUpdate = false) :
    NothingTried (visits ++ [visit]) := by
  intro other member
  rcases List.mem_append.mp member with earlier | now
  · exact nothing other earlier
  · exact List.mem_singleton.mp now ▸ aside

theorem NothingTried.not_gathers (nothing : NothingTried visits) (member : visit ∈ visits) :
    visit.2.gathers = false :=
  gathers_ofUpdate (nothing visit member)

theorem NothingTried.updatesFor (nothing : NothingTried visits) {participant : DomainParticipant} :
    UpdatesFor convert visits participant :=
  fun visit member _ => .aside (nothing visit member)

theorem NothingTried.not_updatedFor (nothing : NothingTried visits)
    {participant : DomainParticipant} : ¬ UpdatedFor convert polled visits sys participant := by
  rintro ⟨visit, member, gathers, _⟩
  cases (nothing.not_gathers member).symm.trans gathers

theorem updatesFor_append {participant : DomainParticipant}
    (visit : GraphSystem Sample × Step Answers) :
    UpdatesFor convert (visits ++ [visit]) participant ↔
      UpdatesFor convert visits participant ∧
        (visit.1.WillPublish participant → visit.1.UpdateSucceeds convert visit.2) := by
  simp only [UpdatesFor, List.mem_append, List.mem_singleton, or_imp, forall_and, forall_eq]

theorem ConvertedIn.later {participant : DomainParticipant} {sample : Sample}
    (converted : ConvertedIn convert visits participant sample)
    (visit : GraphSystem Sample × Step Answers) :
    ConvertedIn convert (visits ++ [visit]) participant sample := by
  obtain ⟨earlier, member, found⟩ := converted
  exact ⟨earlier, List.mem_append_left _ member, found⟩

theorem PublishedSince.later {participant : DomainParticipant}
    (since : PublishedSince convert polled visits sys participant)
    (visit : GraphSystem Sample × Step Answers)
    (more : ∃ others, following.published = sys.published ++ others) :
    PublishedSince convert polled (visits ++ [visit]) following participant := by
  obtain ⟨fresh, sample, before, among, converted⟩ := since
  obtain ⟨others, after⟩ := more
  exact ⟨fresh ++ others, sample, by rw [after, before, List.append_assoc],
    List.mem_append_left _ among, converted.later visit⟩

theorem UpdatedFor.later {participant : DomainParticipant}
    (updated : UpdatedFor convert polled visits sys participant)
    (visit : GraphSystem Sample × Step Answers)
    (more : ∃ others, following.published = sys.published ++ others) :
    UpdatedFor convert polled (visits ++ [visit]) following participant := by
  obtain ⟨earlier, member, gathers, succeeds, published⟩ := updated
  exact ⟨earlier, List.mem_append_left _ member, gathers, succeeds,
    fun owner => (published owner).later visit more⟩

theorem Missed.later {participant : DomainParticipant}
    (missed : Missed convert polled visits sys participant) (aside : visit.2.gathers = false)
    (others : ∃ others, following.published = sys.published ++ others ∧
      participant ∉ others.map (·.1)) :
    Missed convert polled (visits ++ [visit]) following participant := by
  obtain ⟨owner, fresh, split, absent⟩ := missed
  obtain ⟨others, after, apart⟩ := others
  refine ⟨fun other among gathers => ?_, fresh ++ others, by rw [after, split, List.append_assoc],
    by simp only [List.map_append, List.mem_append]; exact not_or.mpr ⟨absent, apart⟩⟩
  rcases List.mem_append.mp among with earlier | now
  · exact owner other earlier gathers
  · cases List.mem_singleton.mp now
    cases aside.symm.trans gathers

theorem Missed.still {participant : DomainParticipant}
    (missed : Missed convert polled visits sys participant) (aside : visit.2.gathers = false)
    (published : following.published = sys.published) :
    Missed convert polled (visits ++ [visit]) following participant :=
  missed.later aside ⟨[], by simp [published], by simp⟩

/-- A participant that the update has not come to has no new sample. -/
theorem Missed.not_updatedFor {participant : DomainParticipant}
    (missed : Missed convert polled visits sys participant) :
    ¬ UpdatedFor convert polled visits sys participant := by
  rintro ⟨visit, member, gathers, succeeds, published⟩
  obtain ⟨fresh, split, absent⟩ := missed.unpublished
  obtain ⟨others, sample, same, among, _⟩ := published (missed.owner visit member gathers succeeds)
  cases List.append_cancel_left (split.symm.trans same)
  exact absent (List.mem_map_of_mem (f := (·.1)) among)

theorem WillPublish.congr {participant : DomainParticipant} (here : following.pc = sys.pc)
    (participants : following.participants = sys.participants) (index : following.i = sys.i) :
    following.WillPublish participant ↔ sys.WillPublish participant := by
  simp only [WillPublish, here, participants, index]

theorem Updating.later (updating : Updating convert visits sys)
    (visit : GraphSystem Sample × Step Answers)
    (participants : following.participants = sys.participants)
    (converted : following.pc = .unlockConvert ∨ following.pc = .publish →
      ∀ dp, following.picked = some dp → ConvertedIn convert (visits ++ [visit]) dp following.pinfo) :
    Updating convert (visits ++ [visit]) following := by
  obtain ⟨gathering, member, gathered⟩ := updating.gathered
  exact ⟨participants ▸ updating.apart, ⟨gathering, List.mem_append_left _ member, gathered⟩,
    converted⟩

/-- A step of somebody else leaves the iteration where it is. -/
theorem Stage.aside {participant : DomainParticipant}
    (stage : Stage convert polled participant visits sys) (aside : step.ofUpdate = false)
    (still : step.takesAtOnce = false) (here : following.pc = sys.pc)
    (participants : following.participants = sys.participants) (index : following.i = sys.i)
    (pinfo : following.pinfo = sys.pinfo) (published : following.published = sys.published) :
    Stage convert polled participant (visits ++ [(sys, step)]) following := by
  have onward : following.WillPublish participant ↔ sys.WillPublish participant :=
    WillPublish.congr here participants index
  have succeeds : sys.UpdateSucceeds convert step := .aside aside
  have updates : UpdatesFor convert visits participant →
      UpdatesFor convert (visits ++ [(sys, step)]) participant :=
    fun before => (updatesFor_append _).mpr ⟨before, fun _ => succeeds⟩
  cases stage with
  | approaching there same untried permitted =>
      exact .approaching (here ▸ there) (published.trans same) (untried.later aside)
        fun apart => (permitted (here ▸ apart)).later _
  | awaited gathered awaits permitted before updating missed =>
      refine .awaited (here ▸ gathered) (onward.mpr awaits) (permitted.later _) (updates before)
        (updating.later _ participants fun there dp picked => ?_)
        (missed.still (gathers_ofUpdate aside) published)
      rw [pinfo]
      refine (updating.converted (here ▸ there) dp ?_).later _
      rw [← picked, GraphSystem.picked, GraphSystem.picked, participants, index]
  | served gathered past permitted before updated =>
      exact .served (here ▸ gathered) (mt onward.mp past) (permitted.later _) (updates before)
        (updated.later _ ⟨[], by simp [published]⟩)
  | missed there failed missed =>
      exact .missed (here ▸ there) (fun all => failed ((updatesFor_append _).mp all).1)
        (missed.still (gathers_ofUpdate aside) published)
  | idle there untried left =>
      refine .idle (here ▸ there) (untried.later aside) fun given => ?_
      rw [permitLeft_append]
      exact ((permitGiven_append _).mp given).elim (fun before => .inr ⟨still, left before⟩) .inl
  | exiting there => exact .exiting (here ▸ there)

theorem Stage.not_poll {participant : DomainParticipant}
    (stage : Stage convert polled participant visits sys) : sys.pc ≠ .poll := by
  intro here
  cases stage with
  | approaching there | missed there | idle there | exiting there => simp [here] at there
  | awaited gathered | served gathered => simp [here, ThreadPc.hasGathered] at gathered

/-- Back at the take that waits. -/
theorem Stage.announced_iff {participant : DomainParticipant}
    (stage : Stage convert polled participant visits sys) (permits : Permits polled visits sys)
    (ended : sys.pc = .awaitPermit) :
    Announced convert polled visits sys participant ↔
      PermitLeft visits ∨ (PermitGiven polled visits ∧ UpdatesFor convert visits participant) := by
  have permit := permits.last (by simp [ended]) (by simp [ended])
  rw [Announced, permit]
  cases stage with
  | approaching there | exiting there => simp [ended] at there
  | awaited _ awaits => simp [WillPublish, ended] at awaits
  | served _ _ given updates updated => simp [given, updates, updated]
  | missed _ failed missed => simp [failed, missed.not_updatedFor]
  | idle _ untried left =>
      simp only [untried.not_updatedFor, or_false]
      exact ⟨.inl, fun either => either.elim id fun given => left given.1⟩

end GraphSystem

section

open GraphSystem

variable {Sample Answers : Type} {dds : Dds} {convert : ConvertToSampleFn Sample Answers}
  {polled sys following : GraphSystem Sample} {step : Step Answers}
  {visits : List (GraphSystem Sample × Step Answers)}

/-- Where the poll is: it has inspected the nodes before `node`, or all of them. -/
inductive GraphSystem.Inspecting (dds : Dds) (start sys : GraphSystem Sample) : Prop where
  | at (envs : NodePtr → CallEnv) : sys.pc = .poll →
      sys.graph.nodes.length = start.graph.nodes.length →
      sys.node ≤ start.graph.nodes.length →
      sys.graph = start.graph.inspectLocalNodes dds envs (List.range sys.node) →
      Inspecting dds start sys
  | done (envs : NodePtr → CallEnv) : sys.pc = .retake →
      sys.graph = start.graph.inspectLocalNodes dds envs (List.range start.graph.nodes.length) →
      Inspecting dds start sys

theorem inspectLocalNodes_succ (dds : Dds) (envs : NodePtr → CallEnv) (graph : Graph)
    (count : Nat) (env : CallEnv) :
    graph.inspectLocalNodes dds (Function.update envs count env) (List.range (count + 1)) =
      ((graph.inspectLocalNodes dds envs (List.range count)).inspectLocalNodeEA dds env count).1 := by
  have earlier : graph.inspectLocalNodes dds (Function.update envs count env) (List.range count) =
      graph.inspectLocalNodes dds envs (List.range count) := by
    apply List.foldl_ext
    intro state ptr member
    rw [Function.update_of_ne (Nat.ne_of_lt (List.mem_range.mp member))]
  rw [List.range_succ, Graph.inspectLocalNodes, List.foldl_append]
  unfold Graph.inspectLocalNodes at earlier
  rw [earlier]
  simp [Graph.inspectLocalNodes]

theorem StepEffect.inspecting {start : GraphSystem Sample}
    (effect : StepEffect dds convert sys step following) (excluded : sys.Excluded)
    (distinct : sys.graph.HandlesDistinct) (here : sys.pc = .poll)
    (inspecting : Inspecting dds start sys) : Inspecting dds start following := by
  cases inspecting with
  | done _ other => exact absurd (here.symm.trans other) (by decide)
  | «at» envs _ length inside registry =>
      cases effect with
      | called | queued | left | flagCleared | toldToStop | joined =>
          exact .at envs here length inside registry
      | performed entered =>
          have held := excluded.mpr (by rw [here]; rfl)
          simp [entered] at held
      | @inspected env _ more =>
          have identities := congrArg List.length
            (@Graph.inspect_identities dds sys.graph distinct env sys.node)
          simp only [Graph.identities, List.length_map] at identities
          refine .at (Function.update envs sys.node env) here (identities.trans length)
            (length ▸ more) ?_
          dsimp only
          rw [inspectLocalNodes_succ, ← registry]
      | pollUnlocked _ all =>
          have whole : sys.node = start.graph.nodes.length :=
            Nat.le_antisymm inside (length ▸ all)
          exact .done envs rfl (whole ▸ registry)
      | _ => simp_all

/-- The inspections of a poll amount to one poll of the registry. -/
theorem GraphSystem.Poll.registry {past : List (GraphSystem Sample × Step Answers)}
    {start : GraphSystem Sample} (run : Run dds convert past start)
    (poll : Poll dds convert start visits polled)
    (enabled : start.graph.isPollingEnabled = true) :
    ∃ envs, polled.graph = start.graph.pollLocalNodes dds envs := by
  obtain ⟨⟨here, first⟩, onward, inside, ends⟩ := poll
  have inspecting : Inspecting dds start polled := by
    clear ends
    induction onward with
    | start same =>
        subst same
        refine .at (fun _ => .granting (.answering [] [])) here rfl (first ▸ Nat.zero_le _) ?_
        rw [first]
        rfl
    | extend onward stepped ih =>
        have reached := run.append onward
        obtain ⟨_, registry⟩ := Run.graph reached
        exact (Steps.effect stepped).inspecting (Run.excluded reached) registry.distinct
          (inside _ (List.mem_append_right _ List.mem_cons_self))
          (ih fun visit member => inside visit (List.mem_append_left _ member))
  cases inspecting with
  | «at» _ other => exact absurd (other.symm.trans ends) (by decide)
  | done envs _ registry =>
      refine ⟨envs, registry.trans ?_⟩
      rw [Graph.pollLocalNodes, enabled]
      rfl

theorem StepEffect.permits_after_poll (effect : StepEffect dds convert sys step following)
    (waiting : sys.pc ≠ .awaitPermit) (polling : sys.pc ≠ .poll)
    (permits : Permits polled visits sys) :
    Permits polled (visits ++ [(sys, step)]) following := by
  obtain ⟨first, last⟩ := permits
  have kept : following.semPinfo = sys.semPinfo → ¬ sys.GivesPermit step →
      step.takesAtOnce = false →
      (following.pc = .retake → sys.pc = .retake) → (sys.pc ≠ .retake ∧ sys.pc ≠ .drain ∨
        following.pc = sys.pc) → Permits polled (visits ++ [(sys, step)]) following := by
    intro same silent still before after
    refine ⟨fun here => ?_, fun notRetake notDrain => ?_⟩
    · rw [same, first (before here), permitGiven_append]
      exact (or_iff_left silent).symm
    · have there : sys.pc ≠ .retake ∧ sys.pc ≠ .drain := by
        rcases after with there | there
        · exact there
        · exact ⟨there ▸ notRetake, there ▸ notDrain⟩
      rw [same, last there.1 there.2, permitLeft_append]
      simp [silent, still]
  cases effect with
  | called | performed | flagCleared | joined =>
      exact kept rfl (fun gives => gives.elim) rfl (fun here => here) (.inr rfl)
  | left leaving =>
      refine kept rfl ?_ rfl (fun here => here) (.inr rfl)
      rintro ⟨rest, other⟩
      cases leaving.symm.trans other
  | queued leaving =>
      have gives : sys.GivesPermit (.leave : Step Answers) := ⟨_, leaving⟩
      exact ⟨fun _ => by simp [permitGiven_append, gives],
        fun _ _ => by simp [permitLeft_append, gives]⟩
  | toldToStop =>
      have gives : sys.GivesPermit (.giveToStop : Step Answers) := trivial
      exact ⟨fun _ => by simp [permitGiven_append, gives],
        fun _ _ => by simp [permitLeft_append, gives]⟩
  | permitTaken here | timedOut here => exact absurd here waiting
  | inspected here | pollUnlocked here => exact absurd here polling
  | retaken | drained here => exact ⟨by simp_all, by simp_all⟩
  | notRetaken _ none | drainedAll _ none =>
      refine ⟨by simp, fun _ _ => ?_⟩
      simp [permitLeft_append, none, GivesPermit, Step.takesAtOnce]
  | updateDue => exact ⟨by simp, by simp⟩
  | _ => exact kept rfl (fun gives => gives.elim) rfl (by simp) (.inl (by simp_all))

/-- Up to the gathering, nothing has been published. -/
theorem StepEffect.approaching {participant : DomainParticipant}
    (effect : StepEffect dds convert sys step following) (thread : step.ofThread = true)
    (permits : Permits polled visits sys)
    (here : sys.pc = .retake ∨ sys.pc = .drain ∨ sys.pc = .lockGather ∨ sys.pc = .gather)
    (same : sys.published = polled.published) (untried : NothingTried visits)
    (permitted : sys.pc ≠ .retake → PermitGiven polled visits) :
    Stage convert polled participant (visits ++ [(sys, step)]) following := by
  cases effect with
  | called | performed | queued | left | flagCleared | toldToStop | joined => cases thread
  | retaken here permit =>
      exact .approaching (.inr (.inl rfl)) same (untried.later rfl)
        fun _ => ((permits.first here).mp permit).later _
  | notRetaken here none =>
      refine .idle (.inl rfl) (untried.later rfl) fun given => ?_
      have before := ((permitGiven_append _).mp given).resolve_right id
      exact absurd ((permits.first here).mpr before) (by omega)
  | drained here =>
      exact .approaching (.inr (.inl here)) same (untried.later rfl)
        fun _ => (permitted (by simp [here])).later _
  | drainedAll here =>
      exact .approaching (.inr (.inr (.inl rfl))) same (untried.later rfl)
        fun _ => (permitted (by simp [here])).later _
  | gatherLocked here =>
      exact .approaching (.inr (.inr (.inr rfl))) same (untried.later rfl)
        fun _ => (permitted (by simp [here])).later _
  | @gathered granted participants here ran =>
      have succeeds : sys.UpdateSucceeds convert (.gather granted) := congrArg Prod.fst ran
      have now : (sys, .gather granted) ∈ visits ++ [(sys, (.gather granted : Step Answers))] :=
        List.mem_append_right _ List.mem_cons_self
      have updates : UpdatesFor convert (visits ++ [(sys, .gather granted)]) participant :=
        (updatesFor_append _).mpr ⟨untried.updatesFor, fun _ => succeeds⟩
      have given : PermitGiven polled (visits ++ [(sys, .gather granted)]) :=
        (permitted (by simp [here])).later _
      by_cases owner : sys.graph.Owns participant
      · refine .awaited rfl ((mem_gathered_iff ran).mpr owner) given updates
          ⟨gathered_toList ran ▸ eraseDups_nodup _, ⟨_, now, rfl, succeeds⟩, by simp⟩
          ⟨fun visit member gathers _ => ?_, [], by simp [same], by simp⟩
        rcases List.mem_append.mp member with earlier | last
        · cases (untried.not_gathers earlier).symm.trans gathers
        · exact List.mem_singleton.mp last ▸ owner
      · exact .served rfl (mt (mem_gathered_iff ran).mp owner) given updates
          ⟨_, now, rfl, succeeds, fun owns => absurd owns owner⟩
  | @gatherFailed granted retcode participants here failed ran =>
      have fails : ¬ sys.UpdateSucceeds convert (.gather granted) := by
        simpa [UpdateSucceeds, ran] using failed
      refine .missed (.inl rfl)
        (fun all => fails (((updatesFor_append _).mp all).2 (by simp [WillPublish, here])))
        ⟨fun visit member gathers succeeds => ?_, [], by simp [same], by simp⟩
      rcases List.mem_append.mp member with earlier | last
      · cases (untried.not_gathers earlier).symm.trans gathers
      · cases List.mem_singleton.mp last
        exact absurd succeeds fails
  | _ => simp_all

/-- The update goes on towards the participant, serves it or fails before it. -/
theorem StepEffect.awaited {participant : DomainParticipant}
    (effect : StepEffect dds convert sys step following) (thread : step.ofThread = true)
    (gathered : sys.pc.hasGathered = true) (awaits : sys.WillPublish participant)
    (permitted : PermitGiven polled visits) (updates : UpdatesFor convert visits participant)
    (updating : Updating convert visits sys)
    (missed : Missed convert polled visits sys participant) :
    Stage convert polled participant (visits ++ [(sys, step)]) following := by
  have given : PermitGiven polled (visits ++ [(sys, step)]) := permitted.later _
  have all : sys.UpdateSucceeds convert step →
      UpdatesFor convert (visits ++ [(sys, step)]) participant :=
    fun succeeds => (updatesFor_append _).mpr ⟨updates, fun _ => succeeds⟩
  have failing : ¬ sys.UpdateSucceeds convert step →
      ¬ UpdatesFor convert (visits ++ [(sys, step)]) participant :=
    fun fails whole => fails (((updatesFor_append _).mp whole).2 awaits)
  cases effect with
  | called | performed | queued | left | flagCleared | toldToStop | joined => cases thread
  | gatherUnlocked here =>
      exact .awaited rfl (by simpa [WillPublish, here] using awaits) given (all trivial)
        (updating.later _ rfl (by simp)) (missed.still rfl rfl)
  | another here | convertLocked here =>
      exact .awaited rfl (by simpa [WillPublish, here] using awaits) given (all trivial)
        (updating.later _ rfl (by simp)) (missed.still rfl rfl)
  | completed here outside =>
      simp [WillPublish, here, List.drop_of_length_le, outside] at awaits
  | @converted answers dp pinfo here picked ran =>
      refine .awaited rfl (by simpa [WillPublish, here] using awaits) given
        (all fun retcode pinfo other => ?_) (updating.later _ rfl fun _ other same => ?_)
        (missed.still rfl rfl)
      · simp only [GraphSystem.converted, picked, Option.bind_some, ran] at other
        exact (Prod.mk.inj (Option.some.inj other)).1.symm
      · cases picked.symm.trans same
        exact ⟨_, List.mem_append_right _ List.mem_cons_self, answers, picked,
          by simp [GraphSystem.converted, picked, ran]⟩
  | @convertFailed answers dp retcode pinfo here picked failed ran =>
      exact .missed (.inl rfl)
        (failing fun succeeds =>
          failed (succeeds retcode pinfo (by simp [GraphSystem.converted, picked, ran])))
        (missed.still rfl rfl)
  | convertUnlocked here =>
      exact .awaited rfl (by simpa [WillPublish, here] using awaits) given (all trivial)
        (updating.later _ rfl fun _ dp picked => (updating.converted (.inl here) dp picked).later _)
        (missed.still rfl rfl)
  | written here =>
      simp only [WillPublish, here, drop_picked, List.mem_append, Option.mem_toList] at awaits
      by_cases now : sys.picked = some participant
      · -- each participant has been gathered once
        have apart := (updating.apart.sublist (List.drop_sublist sys.i _))
        rw [drop_picked, now] at apart
        obtain ⟨gathering, member, gathers, succeeds⟩ := updating.gathered
        obtain ⟨fresh, before, _⟩ := missed.unpublished
        refine .served rfl (by simpa [WillPublish] using (List.nodup_cons.mp apart).1) given
          (all rfl) ⟨gathering, List.mem_append_left _ member, gathers, succeeds, fun _ => ?_⟩
        exact ⟨fresh ++ [(participant, sys.pinfo)], sys.pinfo, by simp [before, now], by simp,
          (updating.converted (.inr here) participant now).later _⟩
      · refine .awaited rfl (awaits.resolve_left now) given (all rfl)
          (updating.later _ rfl (by simp)) (missed.later rfl ⟨_, rfl, ?_⟩)
        cases picked : sys.picked with
        | none => simp
        | some dp =>
            have apart : participant ≠ dp := fun same => now (same ▸ picked)
            simpa using apart
  | notWritten here failed =>
      exact .missed (.inr (.inl rfl)) (failing failed) (missed.still rfl rfl)
  | _ => simp_all [ThreadPc.hasGathered, WillPublish]

/-- What comes after the participant in the update does not matter to it. -/
theorem StepEffect.served {participant : DomainParticipant}
    (effect : StepEffect dds convert sys step following) (thread : step.ofThread = true)
    (waiting : sys.pc ≠ .awaitPermit) (gathered : sys.pc.hasGathered = true)
    (past : ¬ sys.WillPublish participant) (permitted : PermitGiven polled visits)
    (updates : UpdatesFor convert visits participant)
    (updated : UpdatedFor convert polled visits sys participant) :
    Stage convert polled participant (visits ++ [(sys, step)]) following := by
  have onward : following.pc.hasGathered = true → ¬ following.WillPublish participant →
      (∃ others, following.published = sys.published ++ others) →
      Stage convert polled participant (visits ++ [(sys, step)]) following :=
    fun there apart more => .served there apart (permitted.later _)
      ((updatesFor_append _).mpr ⟨updates, fun awaits => absurd awaits past⟩)
      (updated.later _ more)
  cases effect with
  | called | performed | queued | left | flagCleared | toldToStop | joined => cases thread
  | loopLeft => exact .exiting (.inl rfl)
  | gatherUnlocked here | another here | convertLocked here | converted here | convertUnlocked here =>
      exact onward rfl (by simpa [WillPublish, here] using past) ⟨[], by simp⟩
  | written here =>
      refine onward rfl ?_ ⟨_, rfl⟩
      simp only [WillPublish, here, drop_picked, List.mem_append, not_or] at past
      exact past.2
  | completed | convertFailed | failedUnlocked | notWritten | updateEnded | loopEntered =>
      exact onward rfl id ⟨[], by simp⟩
  | permitTaken here | timedOut here => exact absurd here waiting
  | _ => simp_all [ThreadPc.hasGathered]

theorem StepEffect.stage {participant : DomainParticipant}
    (effect : StepEffect dds convert sys step following) (waiting : sys.pc ≠ .awaitPermit)
    (permits : Permits polled visits sys)
    (stage : Stage convert polled participant visits sys) :
    Stage convert polled participant (visits ++ [(sys, step)]) following := by
  by_cases thread : step.ofThread = true
  · cases stage with
    | approaching here same untried permitted =>
        exact effect.approaching thread permits here same untried permitted
    | awaited gathered awaits permitted updates updating missed =>
        exact effect.awaited thread gathered awaits permitted updates updating missed
    | served gathered past permitted updates updated =>
        exact effect.served thread waiting gathered past permitted updates updated
    | missed here failed missed =>
        have fails : ¬ UpdatesFor convert (visits ++ [(sys, step)]) participant :=
          fun all => failed ((updatesFor_append _).mp all).1
        cases effect with
        | called | performed | queued | left | flagCleared | toldToStop | joined => cases thread
        | failedUnlocked =>
            exact .missed (.inr (.inl rfl)) fails (missed.still rfl rfl)
        | updateEnded =>
            exact .missed (.inr (.inr (.inl rfl))) fails (missed.still rfl rfl)
        | loopEntered =>
            exact .missed (.inr (.inr (.inr rfl))) fails (missed.still rfl rfl)
        | loopLeft => exact .exiting (.inl rfl)
        | _ => simp_all
    | idle here untried left =>
        cases effect with
        | called | performed | queued | left | flagCleared | toldToStop | joined => cases thread
        | loopEntered =>
            refine .idle (.inr rfl) (untried.later rfl) fun given => ?_
            have before := ((permitGiven_append _).mp given).resolve_right id
            exact (permitLeft_append _).mpr (.inr ⟨rfl, left before⟩)
        | loopLeft => exact .exiting (.inl rfl)
        | _ => simp_all
    | exiting here =>
        cases effect with
        | called | performed | queued | left | flagCleared | toldToStop | joined => cases thread
        | exitGiven => exact .exiting (.inr rfl)
        | _ => simp_all
  · cases effect with
    | called | performed | queued | left | flagCleared | toldToStop | joined =>
        exact stage.aside rfl rfl rfl rfl rfl rfl rfl
    | _ => exact absurd rfl thread

/-- The rest of the iteration, up to any point of it. -/
theorem GraphSystem.RunFrom.stage {participant : DomainParticipant}
    (onward : RunFrom dds convert polled visits sys) (ended : polled.pc = .retake)
    (inside : ∀ visit ∈ visits, visit.1.pc ≠ .awaitPermit) :
    Stage convert polled participant visits sys ∧ Permits polled visits sys := by
  induction onward with
  | start same =>
      subst same
      refine ⟨.approaching (.inl ended) rfl (by simp [NothingTried]) (absurd ended),
        ⟨fun _ => by simp [PermitGiven], absurd ended⟩⟩
  | extend onward stepped ih =>
      obtain ⟨stage, permits⟩ :=
        ih fun visit member => inside visit (List.mem_append_left _ member)
      have waiting := inside _ (List.mem_append_right _ List.mem_cons_self)
      have effect := Steps.effect stepped
      exact ⟨effect.stage waiting permits stage,
        effect.permits_after_poll waiting stage.not_poll permits⟩

end

section

open GraphSystem

variable {Sample Answers : Type} {dds : Dds} {convert : ConvertToSampleFn Sample Answers}

/-- What a poll has found is announced exactly when somebody gives a permit after the
last take of the iteration, or a permit is there for the iteration to go on with and
the update does not fail before the participant has been published for. -/
theorem poll_announced_iff {start polled last : GraphSystem Sample}
    {inspections visits : List (GraphSystem Sample × Step Answers)}
    (poll : Poll dds convert start inspections polled)
    (rest : RestOfIteration dds convert polled visits last) (participant : DomainParticipant) :
    (Discovers start polled participant → Announced convert polled visits last participant) ↔
      (Discovers start polled participant →
        PermitLeft visits ∨ (PermitGiven polled visits ∧ UpdatesFor convert visits participant)) := by
  have reached : Stage convert polled participant visits last ∧ Permits polled visits last :=
    RunFrom.stage rest.run poll.ends rest.inside
  obtain ⟨stage, permits⟩ := reached
  exact imp_congr_right fun _ => stage.announced_iff permits rest.ends

end

def pollStarted : GraphSystem (List NodeView) :=
  (GraphSystem.started ⟨1, 0⟩ []).after clientsDds (.reading fun _ nodes => nodes.map (·.view))
    (firstUpdate ++ [.timeOut, .retest, .lockPoll])

def pollEnded : GraphSystem (List NodeView) :=
  pollStarted.after clientsDds (.reading fun _ nodes => nodes.map (·.view))
    [.inspect (.granting (.answering [] [⟨1⟩])), .unlockPoll]

def waitingAgain : GraphSystem (List NodeView) :=
  pollEnded.after clientsDds (.reading fun _ nodes => nodes.map (·.view)) [.retake, .testActive]

/-- The first steps of a call that registers a second node as the poll has ended. -/
def calling (steps : Nat) : GraphSystem (List NodeView) :=
  pollEnded.after clientsDds (.reading fun _ nodes => nodes.map (·.view))
    ((callSteps (.registerLocalNode (some secondName) none none)).take steps)

def callVisits : List (GraphSystem (List NodeView) × Step Unit) :=
  [(calling 0, .enter),
    (calling 1, .perform (.granting (.answering [] []))
      (.registerLocalNode (some secondName) none none)),
    (calling 2, .leave), (calling 3, .leave)]

def updatedAgain : GraphSystem (List NodeView) :=
  (calling 4).after clientsDds (.reading fun _ nodes => nodes.map (·.view))
    (.retake :: (updateSteps ()).drop 2)

theorem poll_run : ∃ past inspections,
    GraphSystem.Run clientsDds (.reading fun _ nodes => nodes.map (·.view)) past pollStarted ∧
    GraphSystem.Poll clientsDds (.reading fun _ nodes => nodes.map (·.view)) pollStarted inspections
      pollEnded := by
  obtain ⟨past, run, _⟩ := @GraphSystem.Run.ofReplay _ _ clientsDds
    (.reading fun _ nodes => nodes.map (·.view)) ⟨1, 0⟩ []
    (firstUpdate ++ [.timeOut, .retest, .lockPoll]) rfl
  obtain ⟨inspections, polls, among⟩ := @GraphSystem.RunFrom.ofReplay _ _ clientsDds
    (.reading fun _ nodes => nodes.map (·.view)) pollStarted
    [.inspect (.granting (.answering [] [⟨1⟩])), .unlockPoll] rfl
  refine ⟨past, inspections, run, ⟨rfl, rfl⟩, polls, fun visit member => ?_, rfl⟩
  obtain ⟨enabled, step⟩ := among visit member
  rcases List.mem_pair.mp step with step | step <;> rw [step] at enabled <;>
    simp only [GraphSystem.enabled, Bool.and_eq_true, beq_iff_eq] at enabled
  · exact enabled.1
  · exact enabled.1

theorem poll_announced_iff_second_node :
    ∃ visits : List (GraphSystem (List NodeView) × Step Unit),
      GraphSystem.RestOfIteration clientsDds (.reading fun _ nodes => nodes.map (·.view)) pollEnded
        visits updatedAgain ∧
      GraphSystem.Discovers pollStarted pollEnded ⟨0⟩ ∧ updatedAgain.semPinfo = 0 ∧
      GraphSystem.Announced (.reading fun _ nodes => nodes.map (·.view)) pollEnded visits
        updatedAgain ⟨0⟩ := by
  obtain ⟨past, inspections, run, poll⟩ := poll_run
  obtain ⟨later, onward, among⟩ := @GraphSystem.RunFrom.ofReplay _ _ clientsDds
    (.reading fun _ nodes => nodes.map (·.view)) (calling 4)
    (.retake :: (updateSteps ()).drop 2) rfl
  have whole : GraphSystem.RunFrom clientsDds (.reading fun _ nodes => nodes.map (·.view)) pollEnded
      (callVisits ++ later) updatedAgain := by
    exact .cons ⟨rfl, rfl⟩ (.cons ⟨rfl, rfl⟩ (.cons ⟨rfl, rfl⟩ (.cons ⟨rfl, rfl⟩ onward)))
  have during : ∀ visit ∈ callVisits, visit.1.pc = .retake ∧ visit.2.ofUpdate = false := by
    simp only [callVisits, List.forall_mem_cons]
    decide +kernel
  have outside : ∀ visit ∈ later, visit.1.pc ≠ .awaitPermit := by
    intro visit member here
    obtain ⟨enabled, step⟩ := among visit member
    simp only [updateSteps, List.drop_succ_cons, List.drop_zero, List.mem_cons, List.not_mem_nil,
      or_false] at step
    rcases step with step | step | step | step | step | step | step | step | step | step | step |
      step | step <;> simp [step, GraphSystem.enabled, here] at enabled
  have rest : GraphSystem.RestOfIteration clientsDds (.reading fun _ nodes => nodes.map (·.view))
      pollEnded (callVisits ++ later) updatedAgain := by
    refine ⟨whole, fun visit member => ?_, rfl⟩
    rcases List.mem_append.mp member with before | after
    · simp [(during visit before).1]
    · exact outside visit after
  have discovers : GraphSystem.Discovers pollStarted pollEnded ⟨0⟩ := by
    unfold GraphSystem.Discovers
    decide
  refine ⟨_, rest, discovers, rfl,
    (poll_announced_iff poll rest ⟨0⟩).mpr (fun _ => .inr ⟨.inr ?_, ?_⟩) discovers⟩
  · exact ⟨(calling 2, .leave), by simp [callVisits], _, rfl⟩
  · intro visit member _
    rcases List.mem_append.mp member with before | after
    · exact .aside (during visit before).2
    · rcases List.mem_cons.mp (among visit after).2 with retake | update
      · exact retake ▸ .aside rfl
      · exact (firstUpdate_guarded _ visit.1 visit.2
          (by simp [firstUpdate, List.mem_of_mem_drop update])).2

/-- Without a call meanwhile, the reader that the poll has found is not announced. -/
theorem poll_discovery_unannounced :
    ¬ ∀ (dds : Dds) (convert : ConvertToSampleFn (List NodeView) Unit)
        (start polled last : GraphSystem (List NodeView))
        (past inspections visits : List (GraphSystem (List NodeView) × Step Unit))
        (participant : DomainParticipant),
      GraphSystem.Run dds convert past start →
      GraphSystem.Poll dds convert start inspections polled →
      GraphSystem.RestOfIteration dds convert polled visits last →
      GraphSystem.Discovers start polled participant →
      GraphSystem.Announced convert polled visits last participant := by
  intro announced
  obtain ⟨past, inspections, run, poll⟩ := poll_run
  obtain ⟨visits, rest, among⟩ := @GraphSystem.RunFrom.ofReplay _ _ clientsDds
    (.reading fun _ nodes => nodes.map (·.view)) pollEnded [.retake, .testActive] rfl
  have each : ∀ visit ∈ visits, visit.1.pc ≠ .awaitPermit ∧ visit.2.gathers = false := by
    intro visit member
    obtain ⟨enabled, step⟩ := among visit member
    rcases List.mem_pair.mp step with step | step <;> rw [step] at enabled ⊢ <;>
      simp only [GraphSystem.enabled, beq_iff_eq] at enabled <;>
      exact ⟨by simp [enabled], rfl⟩
  have discovers : GraphSystem.Discovers pollStarted pollEnded ⟨0⟩ := by
    unfold GraphSystem.Discovers
    decide
  have empty : waitingAgain.semPinfo = 0 := rfl
  rcases announced clientsDds _ _ _ _ past inspections visits ⟨0⟩ run poll
      ⟨rest, fun visit member => (each visit member).1, rfl⟩ discovers with
    permit | ⟨visit, member, gathers, _⟩
  · exact absurd empty (Nat.ne_of_gt permit)
  · cases (each visit member).2.symm.trans gathers

end Ros2Graph
