import Ros2Graph.Cpp.Graph
import Ros2Graph.Creation.Ownership
import Ros2Graph.Update.Behaviour
import Ros2Graph.Update.NoLostUpdate

/-! Whole lifetimes of a graph: its creation, any run, and its deletion. Everything is
released that was acquired, once and in order, but for the buffer of `participants`, and
for what an entity that is not deleted keeps back. -/

set_option autoImplicit false

namespace Ros2Graph

open Foundation

namespace Graph

variable {graph : Graph}

theorem finalizeNodes_nodes (count : Nat) :
    (graph.finalizeNodes count).nodes = graph.nodes.drop count := by
  induction count generalizing graph with
  | zero => rfl
  | succ count ih =>
      unfold finalizeNodes
      rw [ih]
      unfold finalizeNode
      cases nodes : graph.nodes with
      | nil => simp [nodes]
      | cons node rest => simp

theorem Accounted.finalizeNodes {participant : DomainParticipant}
    (accounted : graph.Accounted participant) (count : Nat) :
    (graph.finalizeNodes count).Accounted participant := by
  induction count generalizing graph with
  | zero => exact accounted
  | succ count ih => exact ih (accounted.finalizeNode 0)

/-- The pools have got all their buffers back when they are deleted. -/
theorem Accounted.finalized {participant : DomainParticipant}
    (accounted : graph.Accounted participant) :
    (graph.finalizeNodes graph.nodes.length).nodes = [] ∧
      (graph.finalizeNodes graph.nodes.length).nodesPool.outstanding = 0 ∧
      (graph.finalizeNodes graph.nodes.length).endpointsPool.outstanding = 0 := by
  have empty : (graph.finalizeNodes graph.nodes.length).nodes = [] := by
    rw [finalizeNodes_nodes, List.drop_length]
  have left := accounted.finalizeNodes graph.nodes.length
  refine ⟨empty, ?_, ?_⟩
  · rw [left.nodesPool, empty]
    rfl
  · rw [left.endpointsPool, listedEndpoints, empty]
    rfl

end Graph

/-! The buffer of `participants`. -/

/-- The gathering finds a node, and gets memory for its participant. -/
def GathersFirst {Answers : Type} (graph : Graph) : Step Answers → Bool
  | .gather granted => !graph.nodes.isEmpty && granted 0
  | _ => false

section

variable {participants grown : ReusedSeq DomainParticipant} {granted : Nat → Bool}

theorem appendParticipant_maximum {answer : Bool} {participant : DomainParticipant}
    (appended : Graph.appendParticipant answer participants participant = some grown)
    (allocated : participants.maximum ≠ 0) : grown.maximum ≠ 0 := by
  unfold Graph.appendParticipant at appended
  split at appended
  · cases appended
    exact allocated
  · obtain ⟨sized, ensured, rfl⟩ := Option.map_eq_some_iff.mp appended
    unfold ReusedSeq.ensureLength at ensured
    split at ensured
    · cases ensured
      exact allocated
    · obtain ⟨_, done⟩ := Option.ite_none_right_eq_some.mp ensured
      cases done
      simp [ReusedSeq.write]

theorem appendParticipants_maximum (nodes : List GraphNode)
    (allocated : participants.maximum ≠ 0) :
    (Graph.appendParticipants granted nodes participants).2.maximum ≠ 0 := by
  induction nodes generalizing participants with
  | nil => exact allocated
  | cons node rest ih =>
      unfold Graph.appendParticipants
      split
      · exact allocated
      · next appended => exact ih (appendParticipant_maximum appended allocated)

/-- A gathering allocates the buffer with its first participant. -/
theorem gathered_maximum (graph : Graph) :
    (graph.gatherDomainParticipants granted participants).2.maximum = 0 ↔
      participants.maximum = 0 ∧ (graph.nodes = [] ∨ granted 0 = false) := by
  unfold Graph.gatherDomainParticipants ReusedSeq.setLength
  simp only [Nat.zero_le, if_true]
  by_cases allocated : participants.maximum = 0
  · cases nodes : graph.nodes with
    | nil => simp [Graph.appendParticipants, allocated]
    | cons node rest =>
        cases answer : granted 0 with
        | false =>
            simp [Graph.appendParticipants, Graph.appendParticipant, ReusedSeq.toList,
              ReusedSeq.ensureLength, allocated, answer]
        | true =>
            have first : Graph.appendParticipant true { participants with length := 0 }
                node.ddsParticipant =
                some (ReusedSeq.write { participants with length := 1, maximum := 1 } 0
                  node.ddsParticipant) := by
              simp [Graph.appendParticipant, ReusedSeq.toList, ReusedSeq.ensureLength, allocated]
            simp only [Graph.appendParticipants, answer, first]
            refine iff_of_false (appendParticipants_maximum rest ?_) (by simp)
            simp [ReusedSeq.write]
  · refine iff_of_false (appendParticipants_maximum graph.nodes ?_) (fun both => allocated both.1)
    exact allocated

end

section

variable {Sample Answers : Type} {dds : Dds} {convert : ConvertToSampleFn Sample Answers}
  {sys following : GraphSystem Sample} {step : Step Answers}

theorem StepEffect.maximum (effect : StepEffect dds convert sys step following) :
    following.participants.maximum = 0 ↔
      sys.participants.maximum = 0 ∧ GathersFirst sys.graph step = false := by
  have gathers : ∀ granted participants retcode,
      sys.graph.gatherDomainParticipants granted sys.participants = (retcode, participants) →
      (participants.maximum = 0 ↔
        sys.participants.maximum = 0 ∧
          GathersFirst sys.graph (.gather granted : Step Answers) = false) := by
    intro granted participants retcode ran
    have known := @gathered_maximum sys.participants granted sys.graph
    rw [ran] at known
    simpa [GathersFirst, Classical.or_iff_not_imp_left] using known
  cases effect with
  | gathered _ ran => exact gathers _ _ _ ran
  | gatherFailed _ _ ran => exact gathers _ _ _ ran
  | _ => simp [GathersFirst]

theorem GraphSystem.RunFrom.maximum {start : GraphSystem Sample}
    {visits : List (GraphSystem Sample × Step Answers)}
    (run : GraphSystem.RunFrom dds convert start visits sys) :
    sys.participants.maximum = 0 ↔
      start.participants.maximum = 0 ∧
        ∀ visit ∈ visits, GathersFirst visit.1.graph visit.2 = false := by
  induction run with
  | start same => simp [same]
  | extend run stepped ih =>
      rw [(GraphSystem.Steps.effect stepped).maximum, ih]
      simp [or_imp, forall_and, and_assoc]

end

/-- A library that grants all that is asked for, but for one binary semaphore. -/
def LifecycleEnv.granting (semPinfoExit : Bool) (heap : GraphMembers) : LifecycleEnv where
  toCreationEnv := { CreationEnv.granting with semPinfoExit := semPinfoExit }
  heap := heap
  heapRegistry := .initial ⟨0⟩ .zero
  thread := true
  deleteDatawriter := true
  deleteTopic := true
  deletePublisher := true

namespace Lifecycle

open Statements

variable {properties : GraphProperties}

/-- The graph as the initializer leaves it in memory. -/
def allocated (properties : GraphProperties) (graphParticipant : DomainParticipant) : Setup where
  members := { GraphMembers.initializer with sampleAdapter := initializeSampleAdapter properties }
  registry := .initial graphParticipant properties.pollPeriod
  log := [.acquired .graph]

theorem allocated_stage (properties : GraphProperties) (graphParticipant : DomainParticipant) :
    (allocated properties graphParticipant).Stage properties acquireOrder := by
  refine ⟨rfl, ?_, by simp [allocated], fun resource owned => ?_, fun resource member => ?_⟩
  · simp only [allocated, Ledger.balance, Ledger.post, nothing, Bool.false_eq_true, if_false,
      Option.bind_some]
    congr 1
    funext resource
    cases resource <;> rfl
  · cases resource <;>
      simp_all [allocated, GraphMembers.owns, GraphMembers.initializer, GraphProperties.supplies]
  · cases resource <;>
      simp_all [acquireOrder, allocated, GraphMembers.untouched, GraphMembers.owns,
        GraphMembers.initializer]

theorem new_eq {env : LifecycleEnv} {graphParticipant : DomainParticipant}
    (known : properties.graphParticipant = some graphParticipant)
    (memory : env.allocGraph = true) :
    new env (some properties) =
      match (initializeMembers env properties graphParticipant).exec
          (allocated properties graphParticipant) with
      | (some _, setup) => (true, setup)
      | (none, setup) => (false, delete env setup) := by
  simp only [new, memory, Bool.not_true, Bool.false_eq_true, if_false, initializeGraph, known]
  cases reached : (initializeMembers env properties graphParticipant).exec
      (allocated properties graphParticipant) with
  | mk result setup =>
      simp only [allocated] at reached
      rw [reached]
      cases result <;> rfl

theorem new_created {env : LifecycleEnv} {created : CreatedGraph}
    (isNew : CreatedGraph.new env.toCreationEnv (some properties) = some created) :
    ∃ log, new env (some properties) =
        (true, ⟨created.members env.thread, created.registry, log⟩) ∧
      Ledger.balance Resource.users nothing log = some (created.members env.thread).owns ∧
      ∀ resource, Entry.released resource ∉ log := by
  unfold CreatedGraph.new at isNew
  dsimp only at isNew
  split at isNew
  · cases isNew
  · next memory =>
    split at isNew
    · cases isNew
    · next other initialized =>
      cases isNew
      obtain ⟨⟨graphParticipant, known, _⟩, _⟩ :=
        CreatedGraph.initializeGraph_followsProperties initialized
      have leads := @initializeMembers_leads env properties graphParticipant _
        (allocated_stage properties graphParticipant)
      have ran := @initializeMembers_created env properties graphParticipant
        (allocated properties graphParticipant) known rfl rfl
      simp only [initialized] at ran
      obtain ⟨log, ran⟩ := ran
      simp only [ran] at leads
      refine ⟨log, ?_, leads.balanced, leads.acquiring⟩
      rw [new_eq known (by simpa using memory), ran]

theorem initializePublisher_own {env : CreationEnv} {graphParticipant : DomainParticipant}
    {publisher : Publisher} {own : Bool}
    (initialized : Ros2Graph.initializePublisher env properties graphParticipant =
      some (publisher, own)) : own = properties.graphPublisher.isNone := by
  unfold Ros2Graph.initializePublisher at initialized
  split at initialized
  · simp_all
  · simp_all [Option.map_eq_some_iff]

theorem initializeTopic_own {env : CreationEnv} {graphParticipant : DomainParticipant}
    {topic : Topic} {own : Bool}
    (initialized : Ros2Graph.initializeTopic env properties graphParticipant =
      some (topic, own)) : own = properties.graphTopic.isNone := by
  unfold Ros2Graph.initializeTopic at initialized
  split at initialized
  · simp_all
  · split at initialized
    · cases initialized
    · split at initialized
      · simp_all
      · simp_all [Option.map_eq_some_iff]

theorem initializeWriter_own {env : CreationEnv} {graphPublisher : Publisher}
    {graphTopic : Topic} {writer : GraphWriter} {own : Bool}
    (initialized : Ros2Graph.initializeWriter env properties graphPublisher graphTopic =
      some (writer, own)) : own = properties.graphWriter.isNone := by
  unfold Ros2Graph.initializeWriter at initialized
  split at initialized
  · simp_all
  · split at initialized
    · cases initialized
    · obtain ⟨_, _, same⟩ := Option.map_eq_some_iff.mp initialized
      simp_all

theorem new_own {env : CreationEnv} {created : CreatedGraph}
    (isNew : CreatedGraph.new env (some properties) = some created) :
    created.graphPublisherOwn = properties.graphPublisher.isNone ∧
      created.graphTopicOwn = properties.graphTopic.isNone ∧
      created.graphWriterOwn = properties.graphWriter.isNone := by
  unfold CreatedGraph.new CreatedGraph.initializeGraph at isNew
  simp only at isNew
  split at isNew
  · cases isNew
  · split at isNew
    · cases isNew
    · next other initialized =>
      cases isNew
      split at initialized
      · cases initialized
      · split at initialized
        · cases initialized
        · split at initialized
          · cases initialized
          · next publisher =>
            split at initialized
            · cases initialized
            · next topic =>
              split at initialized
              · cases initialized
              · next writer =>
                split at initialized
                · cases initialized
                · cases initialized
                  exact ⟨initializePublisher_own publisher, initializeTopic_own topic,
                    initializeWriter_own writer⟩

theorem new_refused {env : LifecycleEnv} (known : properties.graphParticipant ≠ none)
    (refused : CreatedGraph.new env.toCreationEnv (some properties) = none) :
    (new env (some properties)).1 = false ∧
      (∃ left, Ledger.balance Resource.users nothing (new env (some properties)).2.log =
          some left ∧
        ((properties.graphWriter = none → env.deleteDatawriter = true) →
          (properties.graphTopic = none → env.deleteTopic = true) →
          (properties.graphPublisher = none → env.deletePublisher = true) → left = nothing)) ∧
      ∀ resource, Entry.released resource ∈ (new env (some properties)).2.log →
        properties.supplies resource = false := by
  obtain ⟨graphParticipant, known⟩ := Option.ne_none_iff_exists'.mp known
  unfold CreatedGraph.new at refused
  cases memory : env.allocGraph with
  | false =>
      have log : (new env (some properties)).2.log = [] := by simp [new, memory]
      rw [log]
      exact ⟨by simp [new, memory], ⟨nothing, rfl, fun _ _ _ => rfl⟩, by simp⟩
  | true =>
      simp only [memory, Bool.not_true, Bool.false_eq_true, if_false] at refused
      split at refused
      · next retcode failed =>
        have leads := @initializeMembers_leads env properties graphParticipant _
          (allocated_stage properties graphParticipant)
        have ran := @initializeMembers_created env properties graphParticipant
          (allocated properties graphParticipant) known rfl rfl
        simp only [failed] at ran
        rw [new_eq known memory]
        cases reached : (initializeMembers env properties graphParticipant).exec
            (allocated properties graphParticipant) with
        | mk result left =>
            rw [reached] at ran leads
            dsimp only at ran
            subst ran
            have stage : left.Stage properties [.participants] := leads
            have unused : left.members.participants.maximum = 0 := by
              simpa [GraphMembers.untouched, GraphMembers.owns] using
                stage.later .participants List.mem_cons_self
            have owns := Setup.owns_unlisted stage.unlisted
            refine ⟨rfl, ⟨_, delete_balance (owns ▸ stage.balanced),
              fun writer topic publisher => ?_⟩, fun resource member => ?_⟩
            · refine (leftBehind_nothing_iff env left.members).mpr ⟨unused, fun owned => ?_,
                fun owned => ?_, fun owned => ?_⟩
              · exact writer (by simpa [GraphProperties.supplies] using stage.own _ owned)
              · exact topic (by simpa [GraphProperties.supplies] using stage.own _ owned)
              · exact publisher (by simpa [GraphProperties.supplies] using stage.own _ owned)
            · refine (delete_entries member).elim (absurd · (stage.acquiring resource)) fun owned => ?_
              exact stage.own resource (owns ▸ owned)
      · cases refused

/-- The sample of a C++ graph is no concern of its C graph. -/
theorem new_apart {env : LifecycleEnv} (known : properties.graphParticipant ≠ none) :
    ∀ entry ∈ (new env (some properties)).2.log, entry.resource ≠ .cSample := by
  obtain ⟨graphParticipant, known⟩ := Option.ne_none_iff_exists'.mp known
  cases memory : env.allocGraph with
  | false => simp [new, memory]
  | true =>
      have leads := @initializeMembers_leads env properties graphParticipant _
        (allocated_stage properties graphParticipant)
      rw [new_eq known memory]
      cases reached : (initializeMembers env properties graphParticipant).exec
          (allocated properties graphParticipant) with
      | mk result left =>
          rw [reached] at leads
          have stage : left.Stage properties [.participants] := by
            cases result <;> exact leads
          have apart : ∀ entry ∈ left.log, entry.resource ≠ .cSample := stage.apart rfl
          cases result with
          | some _ => exact apart
          | none =>
              intro entry member same
              refine (delete_entries member).elim (apart entry · same) fun owned => ?_
              rw [same] at owned
              cases owned

/-- Creation is all or nothing. A graph that is returned owns what has been acquired and not
released, each thing once; where none is returned, all that was acquired has been released
again, users first, unless the libraries do not delete an entity that was created for it. No
entity that is supplied is ever released. -/
theorem creation_accounted (env : LifecycleEnv) {properties : GraphProperties}
    (known : properties.graphParticipant ≠ none) :
    match CreatedGraph.new env.toCreationEnv (some properties) with
    | some created =>
        ∃ log, new env (some properties) =
            (true, ⟨created.members env.thread, created.registry, log⟩) ∧
          Ledger.balance Resource.users nothing log = some (created.members env.thread).owns ∧
          ∀ resource, Entry.released resource ∉ log
    | none =>
        (new env (some properties)).1 = false ∧
          (∃ left, Ledger.balance Resource.users nothing (new env (some properties)).2.log =
              some left ∧
            ((properties.graphWriter = none → env.deleteDatawriter = true) →
              (properties.graphTopic = none → env.deleteTopic = true) →
              (properties.graphPublisher = none → env.deletePublisher = true) →
              left = nothing)) ∧
          ∀ resource, Entry.released resource ∈ (new env (some properties)).2.log →
            properties.supplies resource = false := by
  split
  · next isNew => exact new_created isNew
  · next refused => exact new_refused known refused

theorem creation_accounted_refused :
    (new (.granting false .initializer) (some (participantOnly .zero).inC)).2.log.length = 18 ∧
      ∃ left, Ledger.balance Resource.users nothing
          (new (.granting false .initializer) (some (participantOnly .zero).inC)).2.log =
            some left ∧ left = nothing := by
  obtain ⟨_, ⟨left, balanced, gone⟩, _⟩ :=
    @creation_accounted (.granting false .initializer) (participantOnly .zero).inC (by decide)
  exact ⟨rfl, left, balanced, gone (fun _ => rfl) (fun _ => rfl) (fun _ => rfl)⟩

/-- The memory for a graph, as it is allocated. -/
def inHeap (env : LifecycleEnv) : Setup := ⟨env.heap, env.heapRegistry, [.acquired .graph]⟩

/-- Without a participant, the memory is finalized as it is allocated. Where it seems to have
nodes in its list or anything else that is come to, something is released that has never been
acquired, and the call need not return. Otherwise it returns NULL, and has released what it
has acquired. -/
theorem missing_participant_finalizes_memory (env : LifecycleEnv)
    (missing : properties.graphParticipant = none) :
    if env.allocGraph && (released env env.heap).any (inHeap env).owns then
      Ledger.balance Resource.users nothing (new env (some properties)).2.log = none
    else
      (new env (some properties)).1 = false ∧
        Ledger.balance Resource.users nothing (new env (some properties)).2.log =
          some nothing := by
  cases memory : env.allocGraph with
  | false => simp [new, memory, Ledger.balance]
  | true =>
      have ran : new env (some properties) = (false, delete env (inHeap env)) := by
        simp only [new, memory, initializeGraph, missing, Bool.not_true, Bool.false_eq_true,
          if_false]
        rfl
      have others : ∀ resource ∈ released env env.heap,
          Function.update nothing .graph true resource = false := by
        intro resource member
        rw [Function.update_of_ne]
        · rfl
        · rintro rfl
          simpa [member] using (released_others env env.heap).1
      have taken : Ledger.balance Resource.users nothing (inHeap env).log =
          some (Function.update nothing .graph true) := rfl
      have whole : Ledger.balance Resource.users nothing (new env (some properties)).2.log =
          if (released env env.heap).any (inHeap env).owns then none else some nothing := by
        have heap : (inHeap env).members = env.heap := rfl
        rw [ran, delete_log, Ledger.balance_append, taken, Option.bind_some,
          Ledger.balance_append, heap, Ledger.balance_foreign others]
        cases seems : (released env env.heap).any (inHeap env).owns with
        | true => rfl
        | false =>
            change some (Function.update (Function.update nothing .graph true) .graph false) =
              some nothing
            rw [Function.update_idem]
            exact congrArg some (Function.update_eq_self_iff.mpr rfl)
      rw [whole]
      cases (released env env.heap).any (inHeap env).owns with
      | true => rfl
      | false => exact ⟨by rw [ran], rfl⟩

/-- Memory in which there seems to be a node, and memory in which nothing seems to be. -/
theorem missing_participant_finalizes_memory_unset :
    Ledger.balance Resource.users nothing
        (new { LifecycleEnv.granting true .initializer with heapRegistry := oneNodeGraph }
          (some { (participantOnly .zero).inC with graphParticipant := none })).2.log = none ∧
      Ledger.balance Resource.users nothing
        (new (.granting true .initializer)
          (some { (participantOnly .zero).inC with graphParticipant := none })).2.log =
        some nothing :=
  ⟨missing_participant_finalizes_memory
      { LifecycleEnv.granting true .initializer with heapRegistry := oneNodeGraph } rfl,
    (missing_participant_finalizes_memory (.granting true .initializer) rfl).2⟩

/-- The graph in memory at some point of a run of the system. -/
def setupAt {Sample : Type} (created : CreatedGraph) (thread : Bool)
    (log : List (Entry Resource)) (sys : GraphSystem Sample) : Setup where
  members := { created.members thread with participants := sys.participants }
  registry := sys.graph
  log := log ++ (if sys.participants.maximum = 0 then [] else [.acquired .participants]) ++
    if sys.graph.nodes.isEmpty then [] else [.acquired .nodes]

theorem setupAt_balance {Sample : Type} {created : CreatedGraph} {thread : Bool}
    {log : List (Entry Resource)} (sys : GraphSystem Sample)
    (balanced : Ledger.balance Resource.users nothing log = some (created.members thread).owns) :
    Ledger.balance Resource.users nothing (setupAt created thread log sys).log =
      some (setupAt created thread log sys).owns := by
  have gathered : Ledger.balance Resource.users nothing
      (log ++ if sys.participants.maximum = 0 then [] else [.acquired .participants]) =
      some (setupAt created thread log sys).members.owns := by
    by_cases unused : sys.participants.maximum = 0
    · simp only [unused, if_true, List.append_nil, balanced]
      congr 1
      funext resource
      cases resource with
      | participants =>
          simp [setupAt, GraphMembers.owns, CreatedGraph.members, GraphMembers.initializer, unused]
      | _ => rfl
    · simp only [unused, if_false]
      rw [Ledger.balance_acquire balanced rfl]
      congr 1
      funext resource
      cases resource with
      | participants => simp [setupAt, GraphMembers.owns, unused]
      | _ => simp [setupAt, GraphMembers.owns, CreatedGraph.members]
  cases listed : sys.graph.nodes with
  | nil =>
      rw [Setup.owns_unlisted (show (setupAt created thread log sys).registry.nodes = [] from listed)]
      simpa only [setupAt, listed, List.isEmpty_nil, if_true, List.append_nil] using gathered
  | cons node rest =>
      simp only [setupAt, listed, List.isEmpty_cons, Bool.false_eq_true, if_false]
      rw [Ledger.balance_acquire gathered rfl]
      congr 1
      funext resource
      cases resource with
      | nodes => simp [Setup.owns, listed]
      | _ => simp [Setup.owns, setupAt]

theorem setupAt_acquiring {Sample : Type} {created : CreatedGraph} {thread : Bool}
    {log : List (Entry Resource)} (sys : GraphSystem Sample)
    (acquiring : ∀ resource, Entry.released resource ∉ log) (resource : Resource) :
    Entry.released resource ∉ (setupAt created thread log sys).log := by
  simp only [setupAt, List.mem_append, not_or]
  refine ⟨⟨acquiring resource, ?_⟩, ?_⟩
  · split <;> simp
  · split <;> simp

section

variable {Sample Answers : Type} {dds : Dds} {convert : ConvertToSampleFn Sample Answers}
  {env : LifecycleEnv} {created : CreatedGraph} {thread : Bool} {log : List (Entry Resource)}
  {pinfo : Sample} {visits : List (GraphSystem Sample × Step Answers)} {sys : GraphSystem Sample}

theorem setupAt_owns (isNew : CreatedGraph.new env.toCreationEnv (some properties) = some created)
    {resource : Resource} (owned : (setupAt created thread log sys).owns resource = true) :
    properties.supplies resource = false := by
  obtain ⟨publisher, topic, writer⟩ := new_own isNew
  cases resource with
  | publisher | topic | writer =>
      simpa [setupAt, CreatedGraph.members, Setup.owns, GraphMembers.owns,
        GraphProperties.supplies, *] using owned
  | _ => rfl

/-- Nothing has been gathered in the sequence as the initializer leaves it. -/
theorem unused_iff {registry : Graph}
    (run : GraphSystem.RunFrom dds convert
      (.initial registry GraphMembers.initializer.participants pinfo) visits sys) :
    sys.participants.maximum = 0 ↔
      ∀ visit ∈ visits, GathersFirst visit.1.graph visit.2 = false := by
  rw [run.maximum]
  exact and_iff_right rfl

/-- Wherever a run has come to, the finalization of the nodes returns all buffers. -/
theorem finalizeNodes_returned {registry : Graph} (initial : registry.IsInitial)
    (run : GraphSystem.RunFrom dds convert
      (.initial registry GraphMembers.initializer.participants pinfo) visits sys) :
    (sys.graph.finalizeNodes sys.graph.nodes.length).nodes = [] ∧
      (sys.graph.finalizeNodes sys.graph.nodes.length).nodesPool.outstanding = 0 ∧
      (sys.graph.finalizeNodes sys.graph.nodes.length).endpointsPool.outstanding = 0 := by
  have whole : GraphSystem.Run dds convert [] (.initial registry
      GraphMembers.initializer.participants pinfo) :=
    .start ⟨_, _, _, initial, rfl⟩
  obtain ⟨_, reached⟩ := GraphSystem.Run.graph (whole.append run)
  exact (Graph.Run.accounted reached).1.finalized

/-- A whole lifetime. Whatever calls and updates a graph has been through when its deletion
has joined the update thread, the deletion releases what the graph owns, users first and each
thing once, and none of the entities that were supplied to it. It leaves nothing behind if and
only if the library deletes the entities that were not supplied, and the update thread has
never gathered a participant: the sequence it gathers them in is never finalized. Both pools
have all their buffers back. -/
theorem lifetime_accounted
    (isNew : CreatedGraph.new env.toCreationEnv (some properties) = some created)
    (run : GraphSystem.RunFrom dds convert
      (.initial created.registry GraphMembers.initializer.participants pinfo) visits sys) :
    ∃ log deleted left, new env (some properties) =
        (true, ⟨created.members env.thread, created.registry, log⟩) ∧
      deleted = delete env (setupAt created env.thread log sys) ∧
      Ledger.balance Resource.users nothing deleted.log = some left ∧
      (left = nothing ↔
        (∀ visit ∈ visits, GathersFirst visit.1.graph visit.2 = false) ∧
        (properties.graphWriter = none → env.deleteDatawriter = true) ∧
        (properties.graphTopic = none → env.deleteTopic = true) ∧
        (properties.graphPublisher = none → env.deletePublisher = true)) ∧
      (∀ resource, Entry.released resource ∈ deleted.log →
        properties.supplies resource = false) ∧
      deleted.registry.nodes = [] ∧ deleted.registry.nodesPool.outstanding = 0 ∧
      deleted.registry.endpointsPool.outstanding = 0 := by
  obtain ⟨log, inMemory, balanced, acquiring⟩ := new_created isNew
  obtain ⟨publisher, topic, writer⟩ := new_own isNew
  obtain ⟨⟨participant, _, registry⟩, _⟩ := CreatedGraph.new_followsProperties isNew
  refine ⟨log, _, _, inMemory, rfl, delete_balance (setupAt_balance sys balanced), ?_, ?_, ?_⟩
  · rw [leftBehind_nothing_iff, ← unused_iff run]
    simp [setupAt, GraphMembers.owns, CreatedGraph.members, publisher, topic, writer]
  · intro resource member
    rcases delete_entries member with before | owned
    · exact absurd before (setupAt_acquiring sys acquiring resource)
    · exact setupAt_owns isNew owned
  · rw [delete_registry]
    exact finalizeNodes_returned ⟨participant, properties.pollPeriod, registry⟩ run

/-- A node has been registered and published, and its participant has been gathered. -/
theorem lifetime_accounted_gathered :
    ∃ log deleted left, new (.granting true .initializer)
        (some (participantOnly Duration.infinite).inC) =
          (true, ⟨(grantedGraph Duration.infinite).members true,
            (grantedGraph Duration.infinite).registry, log⟩) ∧
      deleted = delete (.granting true .initializer)
        (setupAt (grantedGraph Duration.infinite) true log restedSystem) ∧
      Ledger.balance Resource.users nothing deleted.log = some left ∧ left ≠ nothing := by
  obtain ⟨visits, run, _⟩ := @GraphSystem.RunFrom.ofReplay _ _ clientsDds
    (.reading fun _ nodes => nodes.map (·.view)) (GraphSystem.started Duration.infinite [])
    firstUpdate (by decide +kernel)
  obtain ⟨log, deleted, left, created, isDeleted, balanced, clean, _⟩ :=
    @lifetime_accounted (participantOnly Duration.infinite).inC _ _ clientsDds
      (.reading fun _ nodes => nodes.map (·.view)) (.granting true .initializer)
      (grantedGraph Duration.infinite) [] visits restedSystem (grantedGraph_new Duration.infinite) run
  refine ⟨log, deleted, left, created, isDeleted, balanced, fun none => ?_⟩
  have used : restedSystem.participants.maximum = 1 := by decide +kernel
  exact absurd (used.symm.trans ((unused_iff run).mpr (clean.mp none).1)) (by decide)

end

end Lifecycle

end Ros2Graph
