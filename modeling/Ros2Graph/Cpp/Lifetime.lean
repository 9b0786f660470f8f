import Ros2Graph.Creation.Lifetime

/-! The lifetime of a graph of the C++ API. Its entities are counted references, and its C
graph owns none of them. What has to be released by hand is the C graph, and the sample
`c_pinfo_` that it works with. -/

set_option autoImplicit false

namespace Ros2Graph

open Foundation

namespace CppLifecycle

section

variable (env : LifecycleEnv) (properties : CppGraphProperties)

/-- `Graph::Graph`: what it throws, if it does, and what is left in memory. -/
def construct : Except CppException Unit × Setup :=
  let setup := ⟨env.heap, env.heapRegistry, []⟩
  match properties.graphParticipant with
  | none => (.error (.invalidArgumentError "no domain participant"), setup)
  | some graphParticipant =>
    match cppPublisher env.toCreationEnv properties graphParticipant with
    | none => (.error .dds, setup)
    | some graphPublisher =>
      match cppTopic env.toCreationEnv properties graphParticipant with
      | none => (.error .dds, setup)
      | some graphTopic =>
        match cppWriter env.toCreationEnv properties graphPublisher graphTopic with
        | .error exception => (.error exception, setup)
        | .ok graphWriter =>
          if !env.createData then (.error (.error "failed to allocate C sample"), setup)
          else
            let (created, setup) := Lifecycle.new env
              (some (cppProperties graphParticipant graphPublisher graphTopic graphWriter))
            -- The destructor does not run for a constructor that throws.
            (if created then .ok () else .error (.error "failed to initialize C graph"),
              { setup with log := .acquired .cSample :: setup.log })

/-- `Graph::~Graph`. -/
def destruct (setup : Setup) : Setup :=
  let setup := Lifecycle.delete env setup
  { setup with log := setup.log ++ [.released .cSample] }

end

section

variable {env : LifecycleEnv} {properties : CppGraphProperties} {exception : CppException}

theorem cSample_unused (resource : Resource) : Resource.cSample ∉ resource.users := by
  cases resource <;> simp [Resource.users]

/-- What the constructor of a C++ graph acquires, and then what its C graph does. -/
theorem acquired_balance {log : List (Entry Resource)} {held : Resource → Bool}
    (balanced : Ledger.balance Resource.users nothing log = some held)
    (apart : ∀ entry ∈ log, entry.resource ≠ .cSample) :
    Ledger.balance Resource.users nothing (.acquired .cSample :: log) =
      some (Function.update held .cSample true) :=
  Ledger.balance_update balanced apart cSample_unused true

theorem cppWriter_exception {graphPublisher : Publisher} {graphTopic : Topic}
    {exception : CppException}
    (threw : cppWriter env.toCreationEnv properties graphPublisher graphTopic =
      .error exception) : exception ≠ .error "failed to initialize C graph" := by
  unfold cppWriter at threw
  repeat' split at threw
  all_goals
    cases threw
    try decide

section

variable (graphParticipant : DomainParticipant) (graphPublisher : Publisher) (graphTopic : Topic)
  (graphWriter : GraphWriter)

theorem cppProperties_known :
    (cppProperties graphParticipant graphPublisher graphTopic graphWriter).graphParticipant ≠
      none := by
  simp [cppProperties]

/-- A C graph that has not come about has no entity of its own that could stay. -/
theorem cppProperties_refused
    (refused : CreatedGraph.new env.toCreationEnv
      (some (cppProperties graphParticipant graphPublisher graphTopic graphWriter)) = none) :
    (Lifecycle.new env
        (some (cppProperties graphParticipant graphPublisher graphTopic graphWriter))).1 = false ∧
      Ledger.balance Resource.users nothing (Lifecycle.new env
        (some (cppProperties graphParticipant graphPublisher graphTopic graphWriter))).2.log =
          some nothing := by
  obtain ⟨notCreated, ⟨left, balanced, gone⟩, _⟩ :=
    Lifecycle.new_refused (cppProperties_known _ _ _ _) refused
  refine ⟨notCreated, balanced.trans (congrArg some (gone ?_ ?_ ?_))⟩
  all_goals
    intro missing
    simp [cppProperties] at missing

end

theorem nothing_left (threw : exception ≠ .error "failed to initialize C graph")
    (resource : Resource) : nothing resource = true ↔
      resource = .cSample ∧ exception = .error "failed to initialize C graph" := by
  simp [nothing, threw]

/-- What the constructor of a graph leaves in memory. -/
def Constructs (env : LifecycleEnv) (constructed : Except CppException Unit × Setup)
    (graph : CppGraph) : Prop :=
  ∃ cProperties log, CreatedGraph.new env.toCreationEnv (some cProperties) = some graph.cGraph ∧
    (∀ resource ∈ [Resource.publisher, .topic, .writer], cProperties.supplies resource = true) ∧
    constructed = (.ok (), ⟨graph.cGraph.members env.thread, graph.cGraph.registry,
      .acquired .cSample :: log⟩) ∧
    Ledger.balance Resource.users nothing log = some (graph.cGraph.members env.thread).owns ∧
    (∀ resource, Entry.released resource ∉ log) ∧ ∀ entry ∈ log, entry.resource ≠ .cSample

/-- What a constructor that throws leaves in memory. -/
def Throws (constructed : Except CppException Unit × Setup) (exception : CppException) : Prop :=
  constructed.1 = .error exception ∧
    ∃ left, Ledger.balance Resource.users nothing constructed.2.log = some left ∧
      ∀ resource, left resource = true ↔
        resource = .cSample ∧ exception = .error "failed to initialize C graph"

theorem construct_outcome (env : LifecycleEnv) (properties : CppGraphProperties) :
    match CppGraph.new env.toCreationEnv properties with
    | .ok graph => Constructs env (construct env properties) graph
    | .error exception => Throws (construct env properties) exception := by
  unfold construct CppGraph.new
  cases properties.graphParticipant with
  | none => exact ⟨rfl, nothing, rfl, nothing_left (by decide)⟩
  | some graphParticipant =>
  dsimp only
  cases cppPublisher env.toCreationEnv properties graphParticipant with
  | none => exact ⟨rfl, nothing, rfl, nothing_left (by decide)⟩
  | some graphPublisher =>
  dsimp only
  cases cppTopic env.toCreationEnv properties graphParticipant with
  | none => exact ⟨rfl, nothing, rfl, nothing_left (by decide)⟩
  | some graphTopic =>
  dsimp only
  cases written : cppWriter env.toCreationEnv properties graphPublisher graphTopic with
  | error exception =>
      exact ⟨rfl, nothing, rfl, nothing_left (cppWriter_exception written)⟩
  | ok graphWriter =>
  dsimp only
  cases env.createData with
  | false => exact ⟨rfl, nothing, rfl, nothing_left (by decide)⟩
  | true =>
  simp only [Bool.not_true, Bool.false_eq_true, if_false]
  have apart := @Lifecycle.new_apart _ env
    (cppProperties_known graphParticipant graphPublisher graphTopic graphWriter)
  cases inC : CreatedGraph.new env.toCreationEnv
      (some (cppProperties graphParticipant graphPublisher graphTopic graphWriter)) with
  | none =>
      obtain ⟨notCreated, balanced⟩ := cppProperties_refused _ _ _ _ inC
      simp only [notCreated, Bool.false_eq_true, if_false]
      refine ⟨rfl, _, acquired_balance balanced apart, fun resource => ?_⟩
      by_cases same : resource = .cSample <;> simp [same, nothing]
  | some cGraph =>
      obtain ⟨log, inMemory, balanced, acquiring⟩ := Lifecycle.new_created inC
      rw [inMemory] at apart ⊢
      exact ⟨_, log, inC, by simp [GraphProperties.supplies, cppProperties], rfl, balanced,
        acquiring, apart⟩

/-- A constructor that throws leaks the C sample, if and only if it is the C graph that fails.
Apart from that, all that it has acquired has been released. One that returns has acquired
what the C graph owns, and the C sample. -/
theorem construct_accounted (env : LifecycleEnv) (properties : CppGraphProperties) :
    match CppGraph.new env.toCreationEnv properties with
    | .ok graph =>
        ∃ log, construct env properties =
            (.ok (), ⟨graph.cGraph.members env.thread, graph.cGraph.registry, log⟩) ∧
          Ledger.balance Resource.users nothing log =
            some (Function.update (graph.cGraph.members env.thread).owns .cSample true)
    | .error exception =>
        (construct env properties).1 = .error exception ∧
          ∃ left, Ledger.balance Resource.users nothing (construct env properties).2.log =
              some left ∧
            ∀ resource, left resource = true ↔
              resource = .cSample ∧ exception = .error "failed to initialize C graph" := by
  have outcome := construct_outcome env properties
  cases new : CppGraph.new env.toCreationEnv properties with
  | ok graph =>
      rw [new] at outcome
      obtain ⟨_, log, _, _, ran, balanced, _, apart⟩ := outcome
      exact ⟨_, ran, acquired_balance balanced apart⟩
  | error exception =>
      rw [new] at outcome
      exact outcome

/-- The C sample is there before all else, and released last. -/
theorem released_balance {log : List (Entry Resource)} {held : Resource → Bool}
    (balanced : Ledger.balance Resource.users nothing log = some held)
    (apart : ∀ entry ∈ log, entry.resource ≠ .cSample) (thread : held .thread = false)
    (free : held .cSample = false) :
    Ledger.balance Resource.users nothing (.acquired .cSample :: log ++ [.released .cSample]) =
      some held := by
  have unused : (Resource.users .cSample).all
      (!Function.update held .cSample true ·) = true := by
    simp [Resource.users, thread]
  rw [Ledger.balance_append, acquired_balance balanced apart, Option.bind_some]
  simp only [Ledger.balance, Ledger.post, Function.update_self, unused, Bool.and_self, if_true,
    Function.update_idem, Option.bind_some]
  rw [← free, Function.update_eq_self]

theorem setupAt_apart {Sample : Type} {created : CreatedGraph} {thread : Bool}
    {log : List (Entry Resource)} {sys : GraphSystem Sample}
    (apart : ∀ entry ∈ log, entry.resource ≠ .cSample) :
    ∀ entry ∈ (Lifecycle.setupAt created thread log sys).log, entry.resource ≠ .cSample := by
  intro entry member
  simp only [Lifecycle.setupAt, List.mem_append] at member
  rcases member with (before | gathered) | listed
  · exact apart entry before
  · split at gathered
    · cases gathered
    · cases List.mem_singleton.mp gathered
      simp [Entry.resource]
  · split at listed
    · cases listed
    · cases List.mem_singleton.mp listed
      simp [Entry.resource]

theorem delete_apart {setup : Setup} (apart : ∀ entry ∈ setup.log, entry.resource ≠ .cSample)
    (unowned : setup.owns .cSample = false) :
    ∀ entry ∈ (Lifecycle.delete env setup).log, entry.resource ≠ .cSample := by
  intro entry member same
  rcases Lifecycle.delete_entries member with before | owned
  · exact apart entry before same
  · rw [same, unowned] at owned
    cases owned

/-- The lifetime of a C++ graph. Whatever calls and updates it has been through, its
destruction leaves something behind if and only if the update thread has gathered a
participant. It releases no entity. -/
theorem cpp_lifetime_accounted {Sample Answers : Type} {dds : Dds}
    {convert : ConvertToSampleFn Sample Answers} {graph : CppGraph}
    (isNew : CppGraph.new env.toCreationEnv properties = .ok graph) {pinfo : Sample}
    {visits : List (GraphSystem Sample × Step Answers)} {sys : GraphSystem Sample}
    (run : GraphSystem.RunFrom dds convert
      (.initial graph.cGraph.registry GraphMembers.initializer.participants pinfo) visits sys) :
    ∃ log deleted left, construct env properties =
        (.ok (), ⟨graph.cGraph.members env.thread, graph.cGraph.registry, log⟩) ∧
      deleted = destruct env (Lifecycle.setupAt graph.cGraph env.thread log sys) ∧
      Ledger.balance Resource.users nothing deleted.log = some left ∧
      (left = nothing ↔ ∀ visit ∈ visits, GathersFirst visit.1.graph visit.2 = false) ∧
      ∀ resource ∈ [Resource.publisher, .topic, .writer],
        Entry.released resource ∉ deleted.log := by
  have outcome := construct_outcome env properties
  rw [isNew] at outcome
  obtain ⟨cProperties, log, inC, supplied, ran, balanced, acquiring, apart⟩ := outcome
  have setup : (Lifecycle.setupAt graph.cGraph env.thread (.acquired .cSample :: log) sys).log =
      .acquired .cSample :: (Lifecycle.setupAt graph.cGraph env.thread log sys).log := rfl
  have whole : (destruct env
      (Lifecycle.setupAt graph.cGraph env.thread (.acquired .cSample :: log) sys)).log =
      .acquired .cSample :: (Lifecycle.delete env
        (Lifecycle.setupAt graph.cGraph env.thread log sys)).log ++ [.released .cSample] := by
    simp only [destruct, Lifecycle.delete_log, setup, List.cons_append]
    rfl
  have unowned : ∀ resource ∈ [Resource.publisher, .topic, .writer],
      (Lifecycle.setupAt graph.cGraph env.thread log sys).owns resource = false := by
    intro resource entity
    refine Bool.eq_false_iff.mpr fun owned => ?_
    exact absurd (Lifecycle.setupAt_owns inC owned) (by simp [supplied resource entity])
  refine ⟨_, _, Lifecycle.leftBehind env
    (Lifecycle.setupAt graph.cGraph env.thread log sys).members, ran, rfl, ?_, ?_, ?_⟩
  · rw [whole]
    exact released_balance (Lifecycle.delete_balance (Lifecycle.setupAt_balance sys balanced))
      (delete_apart (setupAt_apart apart) rfl) (Lifecycle.leftBehind_thread env _) rfl
  · have entities : ∀ resource ∈ [Resource.publisher, .topic, .writer],
        (Lifecycle.setupAt graph.cGraph env.thread log sys).members.owns resource = false := by
      simp only [List.forall_mem_cons]
      exact ⟨unowned .publisher (by simp), unowned .topic (by simp), unowned .writer (by simp),
        nofun⟩
    rw [Lifecycle.leftBehind_nothing_iff, ← Lifecycle.unused_iff run]
    simp [entities]
    rfl
  · intro resource entity member
    simp only [whole, List.cons_append, List.mem_cons, List.mem_append, reduceCtorEq, false_or,
      Entry.released.injEq, List.not_mem_nil, or_false] at member
    rcases member with inC | rfl
    · rcases Lifecycle.delete_entries inC with before | owned
      · exact Lifecycle.setupAt_acquiring sys acquiring resource before
      · exact absurd ((unowned resource entity).symm.trans owned) (by decide)
    · simp at entity

end

/-- The C graph of a C++ graph does not poll, whatever its properties say. -/
theorem cpp_lifetime_accounted_gathered :
    ∃ log deleted left, construct (.granting true .initializer)
        (participantOnly Duration.infinite) =
          (.ok (), ⟨(grantedCppGraph Duration.infinite).cGraph.members true,
            .initial ⟨0⟩ Duration.zero, log⟩) ∧
      deleted = destruct (.granting true .initializer) (Lifecycle.setupAt
        (grantedCppGraph Duration.infinite).cGraph true log
        ((GraphSystem.started Duration.zero []).after clientsDds
          (.reading fun _ nodes => nodes.map (·.view)) firstUpdate)) ∧
      Ledger.balance Resource.users nothing deleted.log = some left ∧ left ≠ nothing := by
  obtain ⟨visits, run, _⟩ := @GraphSystem.RunFrom.ofReplay _ _ clientsDds
    (.reading fun _ nodes => nodes.map (·.view)) (GraphSystem.started Duration.zero [])
    firstUpdate (by decide +kernel)
  obtain ⟨log, deleted, left, constructed, isDeleted, balanced, clean, _⟩ :=
    @cpp_lifetime_accounted (.granting true .initializer)
      (participantOnly Duration.infinite) _ _ clientsDds
      (.reading fun _ nodes => nodes.map (·.view)) (grantedCppGraph Duration.infinite)
      (grantedCppGraph_new Duration.infinite) [] visits _ run
  refine ⟨log, deleted, left, constructed, isDeleted, balanced, fun none => ?_⟩
  have used : ((GraphSystem.started Duration.zero []).after clientsDds
      (.reading fun _ nodes => nodes.map (·.view)) firstUpdate).participants.maximum = 1 := by
    decide +kernel
  have unused := (Lifecycle.unused_iff run).mpr (clean.mp none)
  exact absurd (used.symm.trans unused) (by decide)

end CppLifecycle

end Ros2Graph
