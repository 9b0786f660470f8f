import Ros2Graph.Foundation.Pairing
import Ros2Graph.Registry.PublicCalls

/-! How the public functions use `mutex_self`. The block before a label makes no call
on it, so that a function which takes it before the block and gives it behind the label
pairs the two on every way through. -/

set_option autoImplicit false

namespace Ros2Graph

open Foundation

namespace GraphCall

variable {Result Next : Type} {call : GraphCall Result} {graph : CreatedGraph}
  {events : List SemEvent}

@[simp] theorem run_pure (result : Result) (state : CallState) :
    (pure result : GraphCall Result) state = some (result, state) := rfl

@[simp] theorem run_bind (call : GraphCall Result) (next : Result → GraphCall Next)
    (state : CallState) :
    (call >>= next) state = (call state).bind fun done => next done.1 done.2 := rfl

@[simp] theorem run_map (read : Result → Next) (call : GraphCall Result) (state : CallState) :
    (read <$> call) state = (call state).bind fun done => some (read done.1, done.2) := rfl

@[simp] theorem run_isNull (state : CallState) : isNull state = some (state.self.isNone, state) :=
  rfl

@[simp] theorem run_deref : deref ⟨some graph, events⟩ = some (graph, ⟨some graph, events⟩) := rfl

@[simp] theorem run_registry :
    registry ⟨some graph, events⟩ = some (graph.registry, ⟨some graph, events⟩) := rfl

@[simp] theorem run_store (registry : Graph) :
    store registry ⟨some graph, events⟩ = some ((), ⟨some { graph with registry }, events⟩) := rfl

@[simp] theorem run_semaphore (event : SemEvent) :
    semaphore event ⟨some graph, events⟩ = some ((), ⟨some graph, events ++ [event]⟩) := rfl

/-- There is no call on `mutex_self` among the events. -/
def Unlocked (events : List SemEvent) : Prop :=
  SemEvent.takeMutexSelf ∉ events ∧ SemEvent.giveMutexSelf ∉ events

theorem Unlocked.append {first later : List SemEvent} (unlocked : Unlocked first)
    (still : Unlocked later) : Unlocked (first ++ later) := by
  constructor
  · rw [List.mem_append, not_or]
    exact ⟨unlocked.1, still.1⟩
  · rw [List.mem_append, not_or]
    exact ⟨unlocked.2, still.2⟩

/-- On a graph the call returns, without a call on `mutex_self`. -/
def Quiet (call : GraphCall Result) : Prop :=
  ∀ graph events, ∃ result after more, Unlocked more ∧
    call ⟨some graph, events⟩ = some (result, ⟨some after, events ++ more⟩)

namespace Quiet

protected theorem pure (result : Result) : Quiet (pure result) :=
  fun graph events => ⟨result, graph, [], by simp [Unlocked], by simp⟩

theorem registry : Quiet registry :=
  fun graph events => ⟨graph.registry, graph, [], by simp [Unlocked], by simp⟩

theorem deref : Quiet deref :=
  fun graph events => ⟨graph, graph, [], by simp [Unlocked], by simp⟩

theorem store (registry : Graph) : Quiet (store registry) :=
  fun graph events => ⟨(), { graph with registry }, [], by simp [Unlocked], by simp⟩

theorem giveSemPinfo : Quiet (semaphore .giveSemPinfo) :=
  fun graph events => ⟨(), graph, [.giveSemPinfo], by simp [Unlocked], by simp⟩

protected theorem bind {next : Result → GraphCall Next} (first : Quiet call)
    (rest : ∀ result, Quiet (next result)) : Quiet (call >>= next) := by
  intro graph events
  obtain ⟨result, after, more, unlocked, ran⟩ := first graph events
  obtain ⟨done, left, later, still, went⟩ := rest result after (events ++ more)
  refine ⟨done, left, more ++ later, unlocked.append still, ?_⟩
  rw [run_bind, ran, Option.bind_some, went, List.append_assoc]

end Quiet

/-- On a graph the call takes `mutex_self` first and keeps it. -/
def Opens (call : GraphCall Result) (graph : CreatedGraph) : Prop :=
  ∃ result after more, Unlocked more ∧
    call ⟨some graph, []⟩ = some (result, ⟨some after, .takeMutexSelf :: more⟩)

/-- On a graph the call gives `mutex_self` at its end. -/
def Closes (call : GraphCall Result) : Prop :=
  ∀ graph events, ∃ result after more, Unlocked more ∧
    call ⟨some graph, events⟩ = some (result, ⟨some after, events ++ (more ++ [.giveMutexSelf])⟩)

/-- On a graph the call returns and pairs what it does to `mutex_self`. -/
def Pairs (call : GraphCall Result) (graph : CreatedGraph) : Prop :=
  ∃ result after, call ⟨some graph, []⟩ = some (result, after) ∧
    Paired .takeMutexSelf .giveMutexSelf after.events

theorem Opens.take : Opens takeMutexSelf graph :=
  ⟨(), graph, [], by simp [Unlocked], rfl⟩

theorem Opens.bind {next : Result → GraphCall Next} (first : Opens call graph)
    (rest : ∀ result, Quiet (next result)) : Opens (call >>= next) graph := by
  obtain ⟨result, after, more, unlocked, ran⟩ := first
  obtain ⟨done, left, later, still, went⟩ := rest result after (.takeMutexSelf :: more)
  refine ⟨done, left, more ++ later, unlocked.append still, ?_⟩
  rw [run_bind, ran, Option.bind_some, went, List.cons_append]

theorem Opens.guarded {failure : Result} (opens : Opens call graph) :
    Opens (do if ← isNull then return failure else call) graph := opens

theorem Closes.give (result : Result) : Closes (do giveMutexSelf; return result) :=
  fun graph events => ⟨result, graph, [], by simp [Unlocked], rfl⟩

theorem Closes.bind {next : Result → GraphCall Next} (first : Quiet call)
    (rest : ∀ result, Closes (next result)) : Closes (call >>= next) := by
  intro graph events
  obtain ⟨result, after, more, unlocked, ran⟩ := first graph events
  obtain ⟨done, left, later, still, went⟩ := rest result after (events ++ more)
  refine ⟨done, left, more ++ later, unlocked.append still, ?_⟩
  rw [run_bind, ran, Option.bind_some, went, List.append_assoc, List.append_assoc]

namespace Pairs

theorem of_quiet (quiet : Quiet call) : call.Pairs graph := by
  obtain ⟨result, after, more, unlocked, ran⟩ := quiet graph []
  exact ⟨result, _, ran, .of_absent unlocked.1 unlocked.2⟩

theorem closed {next : Result → GraphCall Next} (opens : Opens call graph)
    (closes : ∀ result, Closes (next result)) : (call >>= next).Pairs graph := by
  obtain ⟨result, after, more, unlocked, ran⟩ := opens
  obtain ⟨done, left, later, still, went⟩ := closes result after (.takeMutexSelf :: more)
  refine ⟨done, _, by rw [run_bind, ran, Option.bind_some, went], ?_⟩
  have between := unlocked.append still
  rw [List.cons_append, ← List.append_assoc]
  exact .section_between (by decide) between.1 between.2

theorem guarded {failure : Result} (pairs : call.Pairs graph) :
    Pairs (do if ← isNull then return failure else call) graph := pairs

theorem map {read : Result → Next} (pairs : call.Pairs graph) : (read <$> call).Pairs graph := by
  obtain ⟨result, after, ran, paired⟩ := pairs
  refine ⟨read result, after, ?_, paired⟩
  rw [run_map, ran, Option.bind_some]

end Pairs

/-! ## The functions -/

section

variable (dds : Dds) (env : CallEnv)

theorem finalizeNodes_quiet (count : Nat) : Quiet (finalizeNodes count) := by
  induction count with
  | zero => exact .pure ()
  | succ count ih => exact .bind .registry fun _ => .bind (.store _) fun _ => ih

theorem linkLocalNode_quiet (nodeName : CString) (nodeNamespace : Option CString)
    (ddsParticipant : Option DomainParticipant) :
    Quiet (linkLocalNode dds env nodeName nodeNamespace ddsParticipant) := by
  unfold linkLocalNode
  refine .bind .registry fun _ => .bind .registry fun _ => ?_
  split
  · exact .pure _
  · refine .bind .registry fun _ => .bind (.store _) fun _ => ?_
    split
    · exact .pure _
    · refine .bind .registry fun _ => ?_
      split
      · exact .pure _
      · refine .bind .registry fun _ => .bind .registry fun _ => .bind (.store _) fun _ => ?_
        split
        · exact .pure _
        · refine .bind .registry fun _ => .bind (.store _) fun _ => ?_
          split
          · exact .pure _
          · refine .bind .registry fun _ => .bind (.store _) fun _ => .bind .giveSemPinfo fun _ => ?_
            split
            · refine .bind .registry fun _ => .bind (.store _) fun _ => ?_
              split
              · exact .pure _
              · exact .pure _
            · exact .pure _

theorem registerLocalNode_pairs (nodeName nodeNamespace : Option CString)
    (ddsParticipant : Option DomainParticipant) :
    (registerLocalNode dds env nodeName nodeNamespace ddsParticipant).Pairs graph := by
  unfold registerLocalNode
  refine .guarded ?_
  split
  · refine .closed .take fun _ => .bind (linkLocalNode_quiet dds env _ _ _) fun linked => ?_
    obtain ⟨retcode, node, result⟩ := linked
    dsimp only
    split
    · split
      · exact .give _
      · exact .bind .registry fun _ => .bind (.store _) fun _ => .give _
    · exact .give _
  · exact .of_quiet (.pure _)

theorem inspectLocalNode_pairs (nodeHandle : NodeHandle) :
    (inspectLocalNode dds env nodeHandle).Pairs graph := by
  unfold inspectLocalNode
  refine .closed (.guarded (.bind .take fun _ => .bind .registry fun _ => ?_)) fun _ => .give _
  split
  · exact .pure _
  · refine .bind .registry fun _ => .bind (.store _) fun _ => ?_
    split
    · exact .bind .giveSemPinfo fun _ => .pure _
    · exact .pure _

theorem unregisterLocalNode_pairs (nodeHandle : NodeHandle) :
    (unregisterLocalNode nodeHandle).Pairs graph := by
  unfold unregisterLocalNode
  refine .closed (.guarded (.bind .take fun _ => .bind .registry fun _ => ?_)) fun _ => .give _
  split
  · exact .pure _
  · exact .bind .registry fun _ => .bind (.store _) fun _ => .pure _

theorem registerEndpoint_pairs (missing : Bool) (nodeHandle : NodeHandle) (endpType : EndpointType)
    (ddsReader : Option DataReader) (ddsWriter : Option DataWriter) :
    (registerEndpoint dds env missing nodeHandle endpType ddsReader ddsWriter).Pairs graph := by
  unfold registerEndpoint
  cases missing with
  | true => exact .of_quiet (.pure _)
  | false =>
      refine .guarded (.closed .take fun _ => .bind ?_ fun _ => .give _)
      refine .bind .registry fun _ => .bind (.store _) fun _ => ?_
      split
      · exact .pure _
      · exact .bind .giveSemPinfo fun _ => .pure _

end

theorem unregisterEndpoint_pairs (nodeHandle : NodeHandle)
    (lookup : GraphNode → Option (EndpointPtr × GraphEndpoint)) :
    (unregisterEndpoint nodeHandle lookup).Pairs graph := by
  unfold unregisterEndpoint
  refine .closed .take fun _ => .bind (.bind .registry fun _ => ?_) fun _ => .give _
  split
  · exact .pure _
  · split
    · exact .pure _
    · exact .bind .registry fun _ => .bind (.store _) fun _ => .bind .giveSemPinfo fun _ => .pure _

theorem unregisterByEntities_pairs (missing : Bool) (nodeHandle : NodeHandle)
    (endpReader : Option DataReader) (endpWriter : Option DataWriter) :
    (unregisterByEntities missing nodeHandle endpReader endpWriter).Pairs graph := by
  unfold unregisterByEntities
  cases missing with
  | true => exact .of_quiet (.pure _)
  | false => exact .guarded (unregisterEndpoint_pairs nodeHandle _)

theorem unregisterByHandle_pairs (nodeHandle : NodeHandle) (endpHandle : EndpointHandle) :
    (unregisterByHandle nodeHandle endpHandle).Pairs graph := by
  unfold unregisterByHandle
  exact .guarded (unregisterEndpoint_pairs nodeHandle _)

theorem getNodeParticipant_pairs (nodeHandle : NodeHandle) :
    (getNodeParticipant nodeHandle).Pairs graph := by
  unfold getNodeParticipant
  refine .guarded (.closed .take fun _ => .bind (.bind .registry fun _ => ?_) fun _ => .give _)
  split
  · exact .pure _
  · exact .pure _

theorem getNodeName_pairs (nodeHandle : NodeHandle)
    (nameOut namespaceOut : Option (Option CString)) :
    (getNodeName nodeHandle nameOut namespaceOut).Pairs graph := by
  unfold getNodeName
  cases noOutput : nameOut.isNone && namespaceOut.isNone with
  | true => exact .of_quiet (.pure _)
  | false =>
      refine .guarded (.closed .take fun _ => .bind (.bind .registry fun _ => ?_) fun _ => .give _)
      split
      · exact .pure _
      · exact .pure _

theorem readEndpoint_pairs {Member : Type} (failure : Member) (member : GraphEndpoint → Member)
    (nodeHandle : NodeHandle) (endpHandle : EndpointHandle) :
    (readEndpoint failure member nodeHandle endpHandle).Pairs graph := by
  unfold readEndpoint
  refine .guarded (.closed .take fun _ => .bind (.bind .registry fun _ => ?_) fun _ => .give _)
  split
  · exact .pure _
  · split
    · exact .pure _
    · exact .pure _

/-- Deleting a graph does not wait for `mutex_self`. -/
theorem delete_pairs : delete.Pairs graph := by
  unfold delete
  refine .guarded ?_
  have finalized : Quiet finalize :=
    .bind .giveSemPinfo fun _ => .bind .registry fun _ => finalizeNodes_quiet _
  obtain ⟨result, after, more, unlocked, ran⟩ := finalized graph []
  refine ⟨(), ⟨none, more⟩, ?_, .of_absent unlocked.1 unlocked.2⟩
  rw [run_bind, ran]
  rfl

end GraphCall

theorem Operation.call_pairs (dds : Dds) (env : CallEnv) (operation : Operation)
    (graph : CreatedGraph) : (operation.call dds env).Pairs graph := by
  open GraphCall in
  cases operation with
  | registerLocalNode name space participant =>
      exact .map (registerLocalNode_pairs dds env name space participant)
  | inspectLocalNode node => exact .map (inspectLocalNode_pairs dds env node)
  | registerLocalSubscription node reader => exact .map (registerEndpoint_pairs dds env _ _ _ _ _)
  | registerLocalPublisher node writer => exact .map (registerEndpoint_pairs dds env _ _ _ _ _)
  | registerLocalClient node reader writer => exact .map (registerEndpoint_pairs dds env _ _ _ _ _)
  | registerLocalService node reader writer => exact .map (registerEndpoint_pairs dds env _ _ _ _ _)
  | unregisterLocalNode node => exact .map (unregisterLocalNode_pairs node)
  | unregisterLocalSubscription node reader => exact .map (unregisterByEntities_pairs _ _ _ _)
  | unregisterLocalPublisher node writer => exact .map (unregisterByEntities_pairs _ _ _ _)
  | unregisterLocalClient node reader writer => exact .map (unregisterByEntities_pairs _ _ _ _)
  | unregisterLocalService node reader writer => exact .map (unregisterByEntities_pairs _ _ _ _)
  | unregisterLocalSubscriptionByHandle node handle => exact .map (unregisterByHandle_pairs _ _)
  | unregisterLocalPublisherByHandle node handle => exact .map (unregisterByHandle_pairs _ _)
  | unregisterLocalClientByHandle node handle => exact .map (unregisterByHandle_pairs _ _)
  | unregisterLocalServiceByHandle node handle => exact .map (unregisterByHandle_pairs _ _)

namespace PublicCall

theorem run_pairs (dds : Dds) (env : CallEnv) (call : PublicCall) (graph : CreatedGraph) :
    (call.run dds env).Pairs graph := by
  open GraphCall in
  cases call with
  | delete => exact .map delete_pairs
  | getGraphParticipant => exact .map (.guarded (.of_quiet (.bind .deref fun _ => .pure _)))
  | getGraphPublisher => exact .map (.guarded (.of_quiet (.bind .deref fun _ => .pure _)))
  | getGraphTopic => exact .map (.guarded (.of_quiet (.bind .deref fun _ => .pure _)))
  | getGraphWriter => exact .map (.guarded (.of_quiet (.bind .deref fun _ => .pure _)))
  | perform operation => exact .map (operation.call_pairs dds env graph)
  | getNodeParticipant node => exact .map (getNodeParticipant_pairs node)
  | getNodeName node nameOut namespaceOut => exact .map (getNodeName_pairs node nameOut namespaceOut)
  | getEndpointReader node endp => exact .map (readEndpoint_pairs _ _ node endp)
  | getEndpointWriter node endp => exact .map (readEndpoint_pairs _ _ node endp)
  | getEndpointType node endp => exact .map (readEndpoint_pairs _ _ node endp)

/-- The two functions whose check of the pointer goes to the label. -/
def GivesUnguarded (call : PublicCall) : Prop :=
  ∃ nodeHandle, call = .perform (.inspectLocalNode nodeHandle) ∨
    call = .perform (.unregisterLocalNode nodeHandle)

/-- The call returns, so no NULL is dereferenced. It gives `mutex_self` as often as it
takes it and never before, and fails on NULL. -/
def Disciplined (dds : Dds) (env : CallEnv) (self : Option CreatedGraph) (call : PublicCall) :
    Prop :=
  ∃ result after, call.run dds env ⟨self, []⟩ = some (result, after) ∧
    Paired .takeMutexSelf .giveMutexSelf after.events ∧ (self = none → result = call.failure)

theorem run_null (dds : Dds) (env : CallEnv) {call : PublicCall} (guarded : ¬ call.GivesUnguarded) :
    call.run dds env ⟨none, []⟩ = some (call.failure, ⟨none, []⟩) := by
  cases call with
  | perform operation =>
      cases operation with
      | inspectLocalNode node => exact absurd ⟨node, .inl rfl⟩ guarded
      | unregisterLocalNode node => exact absurd ⟨node, .inr rfl⟩ guarded
      | _ => rfl
  | _ => rfl

theorem run_null_unguarded (dds : Dds) (env : CallEnv) {call : PublicCall}
    (unguarded : call.GivesUnguarded) : call.run dds env ⟨none, []⟩ = none := by
  obtain ⟨node, rfl | rfl⟩ := unguarded
  · rfl
  · rfl

/-- The discipline holds but where one of the two functions is called on NULL. -/
theorem lock_discipline_iff (dds : Dds) (env : CallEnv) (self : Option CreatedGraph)
    (call : PublicCall) :
    call.Disciplined dds env self ↔ ¬ (self = none ∧ call.GivesUnguarded) := by
  constructor
  · rintro ⟨result, after, ran, -⟩ ⟨rfl, unguarded⟩
    rw [run_null_unguarded dds env unguarded] at ran
    cases ran
  · intro guarded
    cases self with
    | none =>
        have ran := run_null dds env fun unguarded => guarded ⟨rfl, unguarded⟩
        exact ⟨_, _, ran, .of_absent List.not_mem_nil List.not_mem_nil, fun _ => rfl⟩
    | some graph =>
        obtain ⟨result, after, ran, paired⟩ := run_pairs dds env call graph
        exact ⟨result, after, ran, paired, fun missing => nomatch missing⟩

/-- An inspection through NULL does not return. -/
theorem null_not_inspected :
    ¬ ∀ (dds : Dds) (env : CallEnv) (self : Option CreatedGraph) (call : PublicCall),
      call.Disciplined dds env self := by
  intro disciplined
  obtain ⟨_, _, ran, -⟩ := disciplined (.onTopics (fun _ => rootNamespace) fun _ => rootNamespace)
    (.granting (.answering [] [])) none (.perform (.inspectLocalNode 0))
  cases ran

end PublicCall

end Ros2Graph
