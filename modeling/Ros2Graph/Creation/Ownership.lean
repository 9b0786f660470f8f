import Ros2Graph.Creation.Lifecycle

/-! What a graph owns, on every path. A graph that is created owns exactly what has been
acquired for it and not released. One that is not created has had everything released
again, and so has one that is deleted, unless the release of an entity fails. -/

set_option autoImplicit false

namespace Ros2Graph

open Foundation

def nothing (_ : Resource) : Bool := false

/-- The member is as the initializer leaves it. -/
def GraphMembers.untouched (self : GraphMembers) : Resource → Prop
  | .publisher => self.graphPublisher = none ∧ self.graphPublisherOwn = false
  | .topic => self.graphTopic = none ∧ self.graphTopicOwn = false
  | .writer => self.graphWriter = none ∧ self.graphWriterOwn = false
  | resource => self.owns resource = false

/-- The entity belongs to whoever supplies the properties. -/
def GraphProperties.supplies (properties : GraphProperties) : Resource → Bool
  | .publisher => properties.graphPublisher.isSome
  | .topic => properties.graphTopic.isSome
  | .writer => properties.graphWriter.isSome
  | _ => false

/-- The members agree with the log, and what is to come later is not there yet. -/
structure Setup.Stage (properties : GraphProperties) (later : List Resource) (setup : Setup) :
    Prop where
  unlisted : setup.registry.nodes = []
  balanced : Ledger.balance Resource.users nothing setup.log = some setup.members.owns
  acquiring : ∀ resource, Entry.released resource ∉ setup.log
  own : ∀ resource, setup.members.owns resource = true → properties.supplies resource = false
  later : ∀ resource ∈ later, setup.members.untouched resource

/-- The assignment concerns one resource only, which is owned from then on or not. -/
def Assigns (resource : Resource) (owned : Bool) (assignment : GraphMembers → GraphMembers) :
    Prop :=
  ∀ self : GraphMembers, self.untouched resource →
    (assignment self).owns = Function.update self.owns resource owned ∧
      ∀ other, other ≠ resource → self.untouched other → (assignment self).untouched other

/-- With nothing in the list, the graph owns what its other members refer to. -/
theorem Setup.owns_unlisted {setup : Setup} (unlisted : setup.registry.nodes = []) :
    setup.owns = setup.members.owns := by
  funext resource
  cases resource with
  | nodes => simp [owns, GraphMembers.owns, unlisted]
  | _ => rfl

theorem GraphMembers.untouched_owns {self : GraphMembers} {resource : Resource}
    (untouched : self.untouched resource) : self.owns resource = false := by
  cases resource with
  | publisher | topic | writer => simp [owns, untouched.1]
  | _ => exact untouched

theorem Setup.Stage.apart {properties : GraphProperties} {later : List Resource} {setup : Setup}
    {resource : Resource} (stage : setup.Stage properties later)
    (unowned : setup.members.owns resource = false) :
    ∀ entry ∈ setup.log, entry.resource ≠ resource :=
  Ledger.balance_apart stage.balanced stage.acquiring unowned

theorem Setup.Stage.fewer {properties : GraphProperties} {later fewer : List Resource}
    {setup : Setup} (stage : setup.Stage properties later) (subset : fewer ⊆ later) :
    setup.Stage properties fewer :=
  { stage with later := fun resource member => stage.later resource (subset member) }

/-- The members of a graph that has been created. -/
def CreatedGraph.members (created : CreatedGraph) (thread : Bool) : GraphMembers where
  nodesPool := true
  endpointsPool := true
  graphParticipant := some created.registry.graphParticipant
  graphPublisher := some created.graphPublisher
  graphPublisherOwn := created.graphPublisherOwn
  graphTopic := some created.graphTopic
  graphTopicOwn := created.graphTopicOwn
  graphWriter := some created.graphWriter
  graphWriterOwn := created.graphWriterOwn
  pinfo := true
  mutexSelf := true
  semPinfo := true
  semPinfoExit := true
  threadPinfo := thread
  threadPinfoActive := true
  sampleAdapter := created.sampleAdapter
  participants := GraphMembers.initializer.participants

namespace Statements

variable {Result Next : Type} {properties : GraphProperties} {later : List Resource}
  {resource : Resource}
  {assignment : GraphMembers → GraphMembers}

/-- From states of one kind, the statements lead to states of another kind, or to the label
in states of a third kind. -/
def Leads (before : Setup → Prop) (code : Statements Result) (after : Result → Setup → Prop)
    (failed : Setup → Prop) : Prop :=
  ∀ setup, before setup →
    match code.exec setup with
    | (some result, left) => after result left
    | (none, left) => failed left

theorem exec_bind (code : Statements Result) (next : Result → Statements Next) (setup : Setup) :
    (code >>= next).exec setup =
      match code.exec setup with
      | (some result, left) => (next result).exec left
      | (none, left) => (none, left) := by
  unfold exec
  simp only [OptionT.run_bind, Option.elimM, StateT.run_bind]
  cases code.run.run setup with
  | mk result left => cases result <;> rfl

theorem Leads.bind {before failed : Setup → Prop} {code : Statements Result}
    {next : Result → Statements Next} {between : Result → Setup → Prop}
    {after : Next → Setup → Prop} (first : Leads before code between failed)
    (onwards : ∀ result, Leads (between result) (next result) after failed) :
    Leads before (code >>= next) after failed := by
  intro setup holds
  have reached := first setup holds
  rw [exec_bind]
  cases ran : code.exec setup with
  | mk result left =>
      rw [ran] at reached
      cases result with
      | none => exact reached
      | some result => exact onwards result left reached

theorem exec_acquire (granted : Bool) (setup : Setup) :
    (acquire granted resource assignment).exec setup =
      if granted then
        (some (), { setup with
          members := assignment setup.members
          log := setup.log ++ [.acquired resource] })
      else (none, setup) := by
  cases granted <;> rfl

theorem assign_exec (setup : Setup) :
    (assign assignment).exec setup =
      (some (), { setup with members := assignment setup.members }) := rfl

theorem exec_releaseIf (condition : Bool) (setup : Setup) :
    (releaseIf condition resource).exec setup =
      (some (), { setup with
        log := setup.log ++ if condition then [.released resource] else [] }) := by
  cases condition with
  | false => simp only [Bool.false_eq_true, if_false, List.append_nil]; rfl
  | true => rfl

theorem exec_deleteIf (condition deleted : Bool) (setup : Setup) :
    (deleteIf condition deleted resource).exec setup =
      if condition && !deleted then (none, setup)
      else
        (some (), { setup with
          log := setup.log ++ if condition then [.released resource] else [] }) := by
  cases condition with
  | false => simp only [Bool.false_and, Bool.false_eq_true, if_false, List.append_nil]; rfl
  | true => cases deleted <;> rfl

theorem acquire_leads (granted : Bool) (assigns : Assigns resource true assignment)
    (own : properties.supplies resource = false)
    (place : resource ∉ later ∧ .participants ∈ later) :
    Leads (Setup.Stage properties (resource :: later)) (acquire granted resource assignment)
      (fun _ => Setup.Stage properties later) (Setup.Stage properties [.participants]) := by
  intro setup stage
  have untouched := stage.later resource List.mem_cons_self
  obtain ⟨owns, others⟩ := assigns setup.members untouched
  rw [exec_acquire]
  cases granted with
  | false => exact stage.fewer (by simp [place.2])
  | true =>
      refine ⟨stage.unlisted, ?_, by simpa using stage.acquiring, fun other owned => ?_,
        fun other member => ?_⟩
      · rw [Ledger.balance_acquire stage.balanced (GraphMembers.untouched_owns untouched), owns]
      · rw [owns] at owned
        by_cases same : other = resource
        · rw [same, own]
        · exact stage.own other (by simpa [Function.update_of_ne same] using owned)
      · refine others other ?_ (stage.later other (List.mem_cons_of_mem _ member))
        rintro rfl
        exact place.1 member

/-- A member that is supplied belongs to somebody else. -/
theorem assign_leads (result : Result) (assigns : Assigns resource false assignment)
    (place : resource ∉ later ∧ .participants ∈ later) :
    Leads (Setup.Stage properties (resource :: later)) (do assign assignment; return result)
      (fun _ => Setup.Stage properties later) (Setup.Stage properties [.participants]) := by
  intro setup stage
  have untouched := stage.later resource List.mem_cons_self
  obtain ⟨owns, others⟩ := assigns setup.members untouched
  have same : (assignment setup.members).owns = setup.members.owns := by
    rw [owns, ← GraphMembers.untouched_owns untouched, Function.update_eq_self]
  refine ⟨stage.unlisted, stage.balanced.trans (congrArg some same.symm), stage.acquiring,
    fun other owned => stage.own other (same ▸ owned), fun other member => ?_⟩
  refine others other ?_ (stage.later other (List.mem_cons_of_mem _ member))
  rintro rfl
  exact place.1 member

theorem assign_aside_leads
    (aside : ∀ self : GraphMembers, (assignment self).owns = self.owns ∧
      (assignment self).untouched = self.untouched) :
    Leads (Setup.Stage properties later) (assign assignment) (fun _ => Setup.Stage properties later)
      (Setup.Stage properties [.participants]) := by
  intro setup stage
  obtain ⟨owns, untouched⟩ := aside setup.members
  exact ⟨stage.unlisted, stage.balanced.trans (congrArg some owns.symm), stage.acquiring,
    fun other owned => stage.own other (owns ▸ owned), untouched ▸ stage.later⟩

theorem create_leads {Entity : Type} (answer : Option Entity)
    {assignment : Entity → GraphMembers → GraphMembers}
    (assigns : ∀ entity, Assigns resource true (assignment entity))
    (own : properties.supplies resource = false) (place : resource ∉ later ∧ .participants ∈ later) :
    Leads (Setup.Stage properties (resource :: later)) (create answer resource assignment)
      (fun _ => Setup.Stage properties later) (Setup.Stage properties [.participants]) := by
  cases answer with
  | none => exact fun setup stage => stage.fewer (by simp [place.2])
  | some entity =>
      exact (acquire_leads true (assigns entity) own place).bind fun _ setup stage => stage

end Statements

namespace Lifecycle

open Statements

variable {env : LifecycleEnv} {properties : GraphProperties} {later : List Resource}

/-- The members that are assigned where they are acquired. -/
theorem members_assign :
    Assigns .nodesPool true ({ · with nodesPool := true }) ∧
    Assigns .endpointsPool true ({ · with endpointsPool := true }) ∧
    Assigns .sample true ({ · with pinfo := true }) ∧
    Assigns .mutexSelf true ({ · with mutexSelf := true }) ∧
    Assigns .semPinfo true ({ · with semPinfo := true }) ∧
    Assigns .semPinfoExit true ({ · with semPinfoExit := true }) ∧
    Assigns .thread true ({ · with threadPinfo := true }) := by
  refine ⟨?_, ?_, ?_, ?_, ?_, ?_, ?_⟩
  all_goals
    intro self untouched
    refine ⟨funext fun other => ?_, fun other apart kept => ?_⟩
    · cases other <;> simp [GraphMembers.owns]
    · cases other <;> simp_all [GraphMembers.untouched, GraphMembers.owns]

/-- The entities, which are supplied or created. -/
theorem entities_assign :
    (∀ publisher, Assigns .publisher false ({ · with graphPublisher := some publisher })) ∧
    (∀ publisher, Assigns .publisher true
      ({ · with graphPublisher := some publisher, graphPublisherOwn := true })) ∧
    (∀ topic, Assigns .topic false ({ · with graphTopic := some topic })) ∧
    (∀ topic, Assigns .topic true
      ({ · with graphTopic := some topic, graphTopicOwn := true })) ∧
    (∀ writer, Assigns .writer false ({ · with graphWriter := some writer })) ∧
    ∀ writer, Assigns .writer true
      ({ · with graphWriter := some writer, graphWriterOwn := true }) := by
  refine ⟨?_, ?_, ?_, ?_, ?_, ?_⟩
  all_goals
    intro entity self untouched
    refine ⟨funext fun other => ?_, fun other apart kept => ?_⟩
    · cases other <;> simp [GraphMembers.owns, untouched.2]
    · cases other <;> simp_all [GraphMembers.untouched, GraphMembers.owns]

theorem initializePublisher_leads (graphParticipant : DomainParticipant)
    (place : .publisher ∉ later ∧ .participants ∈ later) :
    Leads (Setup.Stage properties (.publisher :: later))
      (initializePublisher env properties graphParticipant)
      (fun _ => Setup.Stage properties later) (Setup.Stage properties [.participants]) := by
  obtain ⟨supplied, created, _⟩ := entities_assign
  unfold initializePublisher
  split
  · next publisher _ => exact assign_leads publisher (supplied publisher) place
  · next missing => exact create_leads _ created (by simp [GraphProperties.supplies, missing]) place

theorem initializeTopic_leads (graphParticipant : DomainParticipant)
    (place : .topic ∉ later ∧ .participants ∈ later) :
    Leads (Setup.Stage properties (.topic :: later))
      (initializeTopic env properties graphParticipant)
      (fun _ => Setup.Stage properties later) (Setup.Stage properties [.participants]) := by
  obtain ⟨_, _, supplied, created, _⟩ := entities_assign
  unfold initializeTopic
  split
  · next topic _ => exact assign_leads topic (supplied topic) place
  · next missing =>
    split
    · exact fun setup stage => stage.fewer (by simp [place.2])
    · exact create_leads _ created (by simp [GraphProperties.supplies, missing]) place

theorem initializeWriter_leads (graphPublisher : Publisher) (graphTopic : Topic)
    (place : .writer ∉ later ∧ .participants ∈ later) :
    Leads (Setup.Stage properties (.writer :: later))
      (initializeWriter env properties graphPublisher graphTopic)
      (fun _ => Setup.Stage properties later) (Setup.Stage properties [.participants]) := by
  obtain ⟨_, _, _, _, supplied, created⟩ := entities_assign
  unfold initializeWriter
  split
  · next writer _ => exact assign_leads writer (supplied writer) place
  · next missing =>
    split
    · exact create_leads _ created (by simp [GraphProperties.supplies, missing]) place
    · exact fun setup stage => stage.fewer (by simp [place.2])

/-- What `RTIROS2_Graph_initialize` acquires, in this order, and what comes after it. -/
def acquireOrder : List Resource :=
  [.nodesPool, .endpointsPool, .publisher, .topic, .writer, .sample, .mutexSelf, .semPinfo,
    .semPinfoExit, .thread, .participants]

theorem initializeMembers_leads (graphParticipant : DomainParticipant) :
    Leads (Setup.Stage properties acquireOrder) (initializeMembers env properties graphParticipant)
      (fun _ => Setup.Stage properties [.participants]) (Setup.Stage properties [.participants]) := by
  obtain ⟨nodesPool, endpointsPool, sample, mutexSelf, semPinfo, semPinfoExit, thread⟩ :=
    members_assign
  unfold initializeMembers acquireOrder
  refine (acquire_leads _ nodesPool rfl (by decide)).bind fun _ => ?_
  refine (acquire_leads _ endpointsPool rfl (by decide)).bind fun _ => ?_
  refine Leads.bind (assign_aside_leads ?_) fun _ => ?_
  · exact fun self => ⟨rfl, rfl⟩
  refine (initializePublisher_leads graphParticipant (by decide)).bind fun graphPublisher => ?_
  refine (initializeTopic_leads graphParticipant (by decide)).bind fun graphTopic => ?_
  refine (initializeWriter_leads graphPublisher graphTopic (by decide)).bind fun _ => ?_
  refine (acquire_leads _ sample rfl (by decide)).bind fun _ => ?_
  refine (acquire_leads _ mutexSelf rfl (by decide)).bind fun _ => ?_
  refine (acquire_leads _ semPinfo rfl (by decide)).bind fun _ => ?_
  refine (acquire_leads _ semPinfoExit rfl (by decide)).bind fun _ => ?_
  refine Leads.bind (assign_aside_leads ?_) fun _ => ?_
  · exact fun self => ⟨rfl, rfl⟩
  split
  · exact acquire_leads true thread rfl (by decide)
  · exact fun setup stage => stage.fewer (by simp)

/-! What is initialized is the graph that `CreatedGraph` describes. -/

theorem exec_initializePublisher (graphParticipant : DomainParticipant) (setup : Setup) :
    (initializePublisher env properties graphParticipant).exec setup =
      match Ros2Graph.initializePublisher env.toCreationEnv properties graphParticipant with
      | none => (none, setup)
      | some (publisher, own) =>
          (some publisher, { setup with
            members := { setup.members with
              graphPublisher := some publisher
              graphPublisherOwn := own || setup.members.graphPublisherOwn }
            log := setup.log ++ if own then [.acquired .publisher] else [] }) := by
  unfold initializePublisher Ros2Graph.initializePublisher
  cases properties.graphPublisher with
  | some publisher =>
      simp only [Bool.false_or, Bool.false_eq_true, if_false, List.append_nil]
      rfl
  | none => cases env.createPublisher graphParticipant <;> rfl

theorem exec_initializeTopic (graphParticipant : DomainParticipant) (setup : Setup) :
    (initializeTopic env properties graphParticipant).exec setup =
      match Ros2Graph.initializeTopic env.toCreationEnv properties graphParticipant with
      | none => (none, setup)
      | some (topic, own) =>
          (some topic, { setup with
            members := { setup.members with
              graphTopic := some topic
              graphTopicOwn := own || setup.members.graphTopicOwn }
            log := setup.log ++ if own then [.acquired .topic] else [] }) := by
  unfold initializeTopic Ros2Graph.initializeTopic
  cases properties.graphTopic with
  | some topic =>
      simp only [Bool.false_or, Bool.false_eq_true, if_false, List.append_nil]
      rfl
  | none =>
      cases env.registerType graphParticipant graphTypeName with
      | false => rfl
      | true =>
          cases env.findTopic graphParticipant graphTopicName with
          | some topic => rfl
          | none => cases env.createTopic graphParticipant graphTopicName graphTypeName <;> rfl

theorem exec_initializeWriter (graphPublisher : Publisher) (graphTopic : Topic) (setup : Setup) :
    (initializeWriter env properties graphPublisher graphTopic).exec setup =
      match Ros2Graph.initializeWriter env.toCreationEnv properties graphPublisher graphTopic with
      | none => (none, setup)
      | some (writer, own) =>
          (some writer, { setup with
            members := { setup.members with
              graphWriter := some writer
              graphWriterOwn := own || setup.members.graphWriterOwn }
            log := setup.log ++ if own then [.acquired .writer] else [] }) := by
  unfold initializeWriter Ros2Graph.initializeWriter
  cases properties.graphWriter with
  | some writer =>
      simp only [Bool.false_or, Bool.false_eq_true, if_false, List.append_nil]
      rfl
  | none =>
      cases getGraphWriterQos env.toCreationEnv graphPublisher graphTopic with
      | none => rfl
      | some qos =>
          simp only
          cases env.createDatawriter graphPublisher graphTopic qos <;> rfl

theorem initializeMembers_created {graphParticipant : DomainParticipant} {setup : Setup}
    (known : properties.graphParticipant = some graphParticipant)
    (members : setup.members =
      { GraphMembers.initializer with sampleAdapter := initializeSampleAdapter properties })
    (registry : setup.registry = .initial graphParticipant properties.pollPeriod) :
    match CreatedGraph.initializeGraph env.toCreationEnv properties with
    | .error _ => ((initializeMembers env properties graphParticipant).exec setup).1 = none
    | .ok created =>
        ∃ log, (initializeMembers env properties graphParticipant).exec setup =
          (some (), ⟨created.members env.thread, created.registry, log⟩) := by
  obtain ⟨_, _, log⟩ := setup
  dsimp only at members registry
  subst members registry
  unfold initializeMembers CreatedGraph.initializeGraph
  simp only [known, exec_bind, exec_acquire]
  cases env.nodesPool with
  | false => rfl
  | true =>
  cases env.endpointsPool with
  | false => rfl
  | true =>
  simp only [if_true, Bool.and_self, Bool.not_true, Bool.false_eq_true, if_false, assign_exec,
    exec_initializePublisher]
  cases Ros2Graph.initializePublisher env.toCreationEnv properties graphParticipant with
  | none => rfl
  | some publisher =>
  simp only [exec_initializeTopic]
  cases Ros2Graph.initializeTopic env.toCreationEnv properties graphParticipant with
  | none => rfl
  | some topic =>
  simp only [exec_initializeWriter]
  cases Ros2Graph.initializeWriter env.toCreationEnv properties publisher.1 topic.1 with
  | none => rfl
  | some writer =>
  simp only [GraphMembers.initializer, Bool.or_false]
  cases env.allocSample with
  | false => rfl
  | true =>
  cases env.mutexSelf with
  | false => rfl
  | true =>
  cases env.semPinfo with
  | false => rfl
  | true =>
  cases env.semPinfoExit with
  | false => rfl
  | true =>
  cases env.thread with
  | false => exact ⟨_, rfl⟩
  | true => exact ⟨_, rfl⟩

/-! What is finalized. -/

def releaseOrder : List Resource :=
  [.thread, .nodes, .mutexSelf, .semPinfo, .semPinfoExit, .sample, .writer, .topic, .publisher,
    .nodesPool, .endpointsPool]

/-- How far `RTIROS2_Graph_finalize` comes: up to the first entity that is not deleted. -/
def released (env : LifecycleEnv) (self : GraphMembers) : List Resource :=
  if self.owns .writer && !env.deleteDatawriter then releaseOrder.take 6
  else if self.owns .topic && !env.deleteTopic then releaseOrder.take 7
  else if self.owns .publisher && !env.deletePublisher then releaseOrder.take 8
  else releaseOrder

theorem exec_finalizeThread (threadPinfo : Bool) (setup : Setup) :
    (finalizeThread threadPinfo).exec setup =
      (some (), { setup with
        members :=
          if threadPinfo then { setup.members with threadPinfoActive := false }
          else setup.members
        log := setup.log ++ if threadPinfo then [.released .thread] else [] }) := by
  cases threadPinfo with
  | false => simp only [Bool.false_eq_true, if_false, List.append_nil]; rfl
  | true => rfl

theorem exec_finalizeNodes (setup : Setup) :
    finalizeNodes.exec setup =
      (some (), { setup with
        registry := setup.registry.finalizeNodes setup.registry.nodes.length
        log := setup.log ++
          if !setup.registry.nodes.isEmpty then [.released .nodes] else [] }) := rfl

theorem finalizeGraph_eq (setup : Setup) :
    ∃ members retcode, finalizeGraph env setup =
      (retcode, ⟨members, setup.registry.finalizeNodes setup.registry.nodes.length,
        setup.log ++ Ledger.releases setup.owns (released env setup.members)⟩) := by
  obtain ⟨self, registry, log⟩ := setup
  have writer : (self.graphWriter.isSome && self.graphWriterOwn) = self.owns .writer := rfl
  have topic : (self.graphTopic.isSome && self.graphTopicOwn) = self.owns .topic := rfl
  have publisher : (self.graphPublisher.isSome && self.graphPublisherOwn) =
    self.owns .publisher := rfl
  unfold finalizeGraph finalizeMembers released
  simp only [exec_bind, exec_releaseIf, exec_deleteIf, exec_finalizeThread, exec_finalizeNodes,
    writer, topic, publisher]
  -- the finalization stops at the first entity that is not deleted
  cases writerStays : self.owns .writer && !env.deleteDatawriter <;>
    cases topicStays : self.owns .topic && !env.deleteTopic <;>
    cases publisherStays : self.owns .publisher && !env.deletePublisher
  all_goals
    simp only [if_true, Bool.false_eq_true, if_false, Ledger.releases_eq_flatMap, releaseOrder,
      List.take, List.flatMap_cons, List.flatMap_nil, List.append_nil, List.append_assoc]
    exact ⟨_, _, rfl⟩

theorem released_sorted (env : LifecycleEnv) (self : GraphMembers) :
    Ledger.usersFirst Resource.users [] (released env self) = true := by
  unfold released
  repeat' split
  all_goals rfl

theorem released_others (env : LifecycleEnv) (self : GraphMembers) :
    (released env self).contains .graph = false ∧ (released env self).contains .thread = true ∧
      (released env self).contains .nodes = true ∧
      (released env self).contains .participants = false := by
  unfold released
  repeat' split
  all_goals exact ⟨rfl, rfl, rfl, rfl⟩

/-- What a graph still owns when its memory is freed. -/
def leftBehind (env : LifecycleEnv) (self : GraphMembers) (resource : Resource) : Bool :=
  resource != .graph && self.owns resource && !(released env self).contains resource

theorem delete_log (setup : Setup) :
    (delete env setup).log = setup.log ++
      (Ledger.releases setup.owns (released env setup.members) ++ [.released .graph]) := by
  obtain ⟨members, retcode, finalized⟩ := @finalizeGraph_eq env setup
  simp only [delete, finalized, List.append_assoc]

theorem delete_registry (setup : Setup) :
    (delete env setup).registry = setup.registry.finalizeNodes setup.registry.nodes.length := by
  obtain ⟨members, retcode, finalized⟩ := @finalizeGraph_eq env setup
  simp only [delete, finalized]

/-- What is released, up to the memory of the graph, belongs to the graph. -/
theorem delete_entries {setup : Setup} {entry : Entry Resource}
    (member : entry ∈ (delete env setup).log) :
    entry ∈ setup.log ∨ setup.owns entry.resource = true := by
  simp only [delete_log, List.mem_append, List.mem_singleton] at member
  rcases member with before | now | rfl
  · exact .inl before
  · obtain ⟨resource, among, rfl⟩ := List.mem_map.mp now
    exact .inr (List.mem_filter.mp among).2
  · exact .inr rfl

/-- The update thread is joined before anything else is released. -/
theorem leftBehind_thread (env : LifecycleEnv) (self : GraphMembers) :
    leftBehind env self .thread = false := by
  obtain ⟨_, thread, _⟩ := released_others env self
  simp only [leftBehind, thread, Bool.not_true, Bool.and_false]

/-- The nodes, too, are gone. -/
theorem leftBehind_eq (env : LifecycleEnv) (setup : Setup) (resource : Resource) :
    (resource != .graph && setup.owns resource &&
      !(released env setup.members).contains resource) =
      leftBehind env setup.members resource := by
  cases resource with
  | nodes =>
      obtain ⟨_, _, nodes, _⟩ := released_others env setup.members
      simp only [leftBehind, nodes, Bool.not_true, Bool.and_false]
  | _ => rfl

/-- The deletion of a graph releases what the graph owns. -/
theorem delete_balance {setup : Setup}
    (balanced : Ledger.balance Resource.users nothing setup.log = some setup.owns) :
    Ledger.balance Resource.users nothing (delete env setup).log =
      some (leftBehind env setup.members) := by
  obtain ⟨graph, thread, nodes, _⟩ := released_others env setup.members
  have releases : Ledger.balance Resource.users setup.owns
      (Ledger.releases setup.owns (released env setup.members)) = some _ :=
    Ledger.balance_releases (released_sorted env setup.members) (by simp)
  have memory : setup.owns .graph = true := rfl
  rw [delete_log, Ledger.balance_append, balanced, Option.bind_some, Ledger.balance_append,
    releases]
  simp only [Option.bind_some, Ledger.balance, Ledger.post, Resource.users, List.all_cons,
    List.all_nil, graph, thread, memory, Bool.not_true, Bool.and_false, Bool.not_false,
    Bool.and_true, Bool.and_self, if_true]
  congr 1
  funext resource
  rw [← leftBehind_eq]
  by_cases same : resource = .graph
  · simp [same]
  · simp [same, bne_iff_ne.mpr same]

/-- Nothing is left behind, unless an entity is not deleted, or the update thread has gathered
participants. -/
theorem leftBehind_nothing_iff (env : LifecycleEnv) (self : GraphMembers) :
    leftBehind env self = nothing ↔
      self.participants.maximum = 0 ∧
        (self.owns .writer = true → env.deleteDatawriter = true) ∧
        (self.owns .topic = true → env.deleteTopic = true) ∧
        (self.owns .publisher = true → env.deletePublisher = true) := by
  constructor
  · intro none
    have gone : ∀ resource, leftBehind env self resource = false := congrFun none
    refine ⟨?_, fun owned => ?_, fun owned => ?_, fun owned => ?_⟩
    · have here := gone .participants
      unfold leftBehind released at here
      revert here
      repeat' split
      all_goals simp [releaseOrder, GraphMembers.owns]
    all_goals
      by_contra stays
      have here := And.intro (gone .writer) (And.intro (gone .topic) (gone .publisher))
      unfold leftBehind released at here
      revert here
      repeat' split
      all_goals simp_all [releaseOrder]
  · rintro ⟨unused, writer, topic, publisher⟩
    have all : released env self = releaseOrder := by
      unfold released
      repeat' split
      all_goals simp_all
    funext resource
    cases resource <;> simp [leftBehind, all, releaseOrder, nothing, GraphMembers.owns, unused]

end Lifecycle

end Ros2Graph
