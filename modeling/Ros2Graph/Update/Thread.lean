import Ros2Graph.Registry.Queueing
import Ros2Graph.Sample.ParticipantEntities

/-! The graph at work: calls of the public operations, the update thread and
the end of the graph, step by step. They share `mutex_self`, the counting
semaphore `sem_pinfo`, the binary semaphore `sem_pinfo_exit` and the flag
`thread_pinfo_active`. -/

set_option autoImplicit false

namespace Ros2Graph

open Foundation

/-- `RTIROS2_GraphSampleAdapter_ConvertToSampleFn`. `none` stands for a write
through a NULL reference. -/
abbrev ConvertToSampleFn (Sample Answers : Type) :=
  Answers → Graph → DomainParticipant → Sample → Option (ReturnCode × Sample)

/-- A conversion that is a function of the participant and of what is listed in
the registry, and always succeeds. -/
def ConvertToSampleFn.reading {Sample : Type}
    (snapshot : DomainParticipant → List GraphNode → Sample) : ConvertToSampleFn Sample Unit :=
  fun _ graph ddsParticipant _ => some (.ok, snapshot ddsParticipant graph.listing)

/-- Who has taken `mutex_self`. Calls that wait for it outside have no state. -/
inductive MutexHolder where
  | nobody
  | updateThread
  -- A call that has not changed the registry yet.
  | entered
  -- A call that still has these semaphore calls to make.
  | leaving (events : List SemEvent)
  deriving DecidableEq, Repr

/-- `RTIOsapiSemaphoreStatus`, of the takes of `sem_pinfo`. -/
inductive SemaphoreStatus where
  | ok
  | timeout
  | error
  deriving DecidableEq, Repr

/-- The statement that the update thread is about to execute. -/
inductive ThreadPc where
  -- `while (self->thread_pinfo_active)`
  | loopHead
  -- The take of `sem_pinfo` that waits.
  | awaitPermit
  -- `if (!self->thread_pinfo_active)`, and the tests of `take_rc` after it.
  | retest
  | lockPoll
  -- `while (NULL != node)`, with `mutex_self` taken.
  | poll
  -- The take of `sem_pinfo` with `ts_zero` that follows a poll.
  | retake
  -- The takes of `sem_pinfo` that consume it.
  | drain
  -- From here to `updated` in `RTIROS2_Graph_publish_update`.
  | lockGather
  | gather
  | unlockGather
  -- `i < seq_len`
  | pick
  | lockConvert
  | convert
  | unlockConvert
  -- Gives `mutex_self` after a gathering or a conversion that failed.
  | unlockFailed
  | publish
  -- `RTIROS2_Graph_publish_update` has returned.
  | updated
  | giveExit
  | exited
  deriving DecidableEq, Repr

/-- How far `RTIROS2_Graph_finalize` has come. -/
inductive FinalizePc where
  | notCalled
  | flagCleared
  | awaitExit
  | joined
  deriving DecidableEq, Repr

/-- Each published sample stands with the participant it was converted for. -/
structure GraphSystem (Sample : Type) where
  graph : Graph
  mutexSelf : MutexHolder
  semPinfo : Nat
  semPinfoExit : Bool
  threadPinfoActive : Bool
  participants : ReusedSeq DomainParticipant
  pinfo : Sample
  published : List (DomainParticipant × Sample)
  finalizePc : FinalizePc
  -- The update thread, with its locals.
  pc : ThreadPc
  enablePoll : Bool
  takeRc : SemaphoreStatus
  node : NodePtr
  i : Nat
  retcode : ReturnCode

/-- One step of somebody, with what the libraries answer in it. -/
inductive Step (Answers : Type) where
  -- A call takes `mutex_self`.
  | enter
  -- It does its work. Nobody sees the registry until it gives `mutex_self`.
  | perform (env : CallEnv) (operation : Operation)
  -- It makes its next semaphore call.
  | leave
  | clearActive
  | giveToStop
  | awaitExit
  | testActive
  | takePermit
  | timeOut
  | retest
  | lockPoll
  | inspect (env : CallEnv)
  | unlockPoll
  | retake
  | drain
  | lockGather
  | gather (granted : Nat → Bool)
  | unlockGather
  | pick
  | lockConvert
  | convert (answers : Answers)
  | unlockConvert
  | unlockFailed
  | publish (retcode : ReturnCode)
  | endUpdate
  | giveExit

namespace GraphSystem

variable {Sample Answers : Type}

def initial (graph : Graph) (participants : ReusedSeq DomainParticipant) (pinfo : Sample) :
    GraphSystem Sample where
  graph := graph
  mutexSelf := .nobody
  semPinfo := 0
  semPinfoExit := false
  threadPinfoActive := true
  participants := participants
  pinfo := pinfo
  published := []
  finalizePc := .notCalled
  pc := .loopHead
  enablePoll := graph.isPollingEnabled
  takeRc := .error
  node := 0
  i := 0
  retcode := .error

def IsInitial (sys : GraphSystem Sample) : Prop :=
  ∃ graph participants pinfo, graph.IsInitial ∧ sys = initial graph participants pinfo

/-- The participant at the index of the loop of `RTIROS2_Graph_publish_update`. -/
def picked (sys : GraphSystem Sample) : Option DomainParticipant :=
  sys.participants.getReference sys.i

def converted (convert : ConvertToSampleFn Sample Answers) (sys : GraphSystem Sample)
    (answers : Answers) : Option (ReturnCode × Sample) :=
  sys.picked.bind fun dp => convert answers sys.graph dp sys.pinfo

/-- The step can be taken now. A take without a permit is not one, nor is a
write through a NULL reference. -/
def enabled (dds : Dds) (convert : ConvertToSampleFn Sample Answers) (sys : GraphSystem Sample) :
    Step Answers → Bool
  | .enter => sys.mutexSelf == .nobody
  | .perform env operation =>
      sys.mutexSelf == .entered &&
        (operation.perform dds env sys.graph).events.head? == some .takeMutexSelf
  | .leave =>
      match sys.mutexSelf with
      | .leaving (event :: _) => event != .takeMutexSelf
      | _ => false
  | .clearActive => sys.finalizePc == .notCalled
  | .giveToStop => sys.finalizePc == .flagCleared
  | .awaitExit => sys.finalizePc == .awaitExit && sys.semPinfoExit
  | .testActive => sys.pc == .loopHead
  | .takePermit => sys.pc == .awaitPermit && decide (0 < sys.semPinfo)
  | .timeOut => sys.pc == .awaitPermit && sys.enablePoll && sys.semPinfo == 0
  | .retest => sys.pc == .retest
  | .lockPoll => sys.pc == .lockPoll && sys.mutexSelf == .nobody
  | .inspect _ => sys.pc == .poll && decide (sys.node < sys.graph.nodes.length)
  | .unlockPoll => sys.pc == .poll && decide (sys.graph.nodes.length ≤ sys.node)
  | .retake => sys.pc == .retake
  | .drain => sys.pc == .drain
  | .lockGather => sys.pc == .lockGather && sys.mutexSelf == .nobody
  | .gather _ => sys.pc == .gather
  | .unlockGather => sys.pc == .unlockGather
  | .pick => sys.pc == .pick
  | .lockConvert => sys.pc == .lockConvert && sys.mutexSelf == .nobody
  | .convert answers => sys.pc == .convert && (sys.converted convert answers).isSome
  | .unlockConvert => sys.pc == .unlockConvert
  | .unlockFailed => sys.pc == .unlockFailed
  | .publish _ => sys.pc == .publish
  | .endUpdate => sys.pc == .updated
  | .giveExit => sys.pc == .giveExit

def next (dds : Dds) (convert : ConvertToSampleFn Sample Answers) (sys : GraphSystem Sample) :
    Step Answers → GraphSystem Sample
  | .enter => { sys with mutexSelf := .entered }
  | .perform env operation =>
      let outcome := operation.perform dds env sys.graph
      { sys with graph := outcome.graph, mutexSelf := .leaving outcome.events.tail }
  | .leave =>
      match sys.mutexSelf with
      | .leaving (.giveSemPinfo :: rest) =>
          { sys with semPinfo := sys.semPinfo + 1, mutexSelf := .leaving rest }
      | _ => { sys with mutexSelf := .nobody }
  | .clearActive => { sys with threadPinfoActive := false, finalizePc := .flagCleared }
  | .giveToStop => { sys with semPinfo := sys.semPinfo + 1, finalizePc := .awaitExit }
  | .awaitExit => { sys with semPinfoExit := false, finalizePc := .joined }
  | .testActive => { sys with pc := if sys.threadPinfoActive then .awaitPermit else .giveExit }
  | .takePermit => { sys with semPinfo := sys.semPinfo - 1, takeRc := .ok, pc := .retest }
  | .timeOut => { sys with takeRc := .timeout, pc := .retest }
  | .retest =>
      { sys with pc :=
          if !sys.threadPinfoActive then .loopHead
          else if sys.enablePoll && sys.takeRc == .timeout then .lockPoll
          else if sys.takeRc == .ok then .drain
          else .loopHead }
  | .lockPoll => { sys with mutexSelf := .updateThread, node := 0, pc := .poll }
  | .inspect env =>
      { sys with graph := (sys.graph.inspectLocalNodeEA dds env sys.node).1, node := sys.node + 1 }
  | .unlockPoll => { sys with mutexSelf := .nobody, pc := .retake }
  | .retake =>
      if 0 < sys.semPinfo then
        { sys with semPinfo := sys.semPinfo - 1, takeRc := .ok, pc := .drain }
      else { sys with takeRc := .timeout, pc := .loopHead }
  | .drain =>
      if 0 < sys.semPinfo then { sys with semPinfo := sys.semPinfo - 1 }
      else { sys with pc := .lockGather }
  | .lockGather => { sys with mutexSelf := .updateThread, pc := .gather }
  | .gather granted =>
      let gathered := sys.graph.gatherDomainParticipants granted sys.participants
      { sys with
        participants := gathered.2
        pc := if gathered.1 == .ok then .unlockGather else .unlockFailed }
  | .unlockGather => { sys with mutexSelf := .nobody, i := 0, pc := .pick }
  | .pick =>
      if sys.i < sys.participants.length then { sys with pc := .lockConvert }
      else { sys with retcode := .ok, pc := .updated }
  | .lockConvert => { sys with mutexSelf := .updateThread, pc := .convert }
  | .convert answers =>
      match sys.converted convert answers with
      | some (retcode, pinfo) =>
          { sys with pinfo, pc := if retcode == .ok then .unlockConvert else .unlockFailed }
      | none => sys
  | .unlockConvert => { sys with mutexSelf := .nobody, pc := .publish }
  | .unlockFailed => { sys with mutexSelf := .nobody, retcode := .error, pc := .updated }
  | .publish retcode =>
      if retcode == .ok then
        { sys with
          published := sys.published ++ (sys.picked.map fun dp => (dp, sys.pinfo)).toList
          i := sys.i + 1
          pc := .pick }
      else { sys with retcode := .error, pc := .updated }
  | .endUpdate => { sys with pc := .loopHead }
  | .giveExit => { sys with semPinfoExit := true, pc := .exited }

def Steps (dds : Dds) (convert : ConvertToSampleFn Sample Answers) (sys : GraphSystem Sample)
    (step : Step Answers) (following : GraphSystem Sample) : Prop :=
  sys.enabled dds convert step = true ∧ following = sys.next dds convert step

abbrev Run (dds : Dds) (convert : ConvertToSampleFn Sample Answers) :
    List (GraphSystem Sample × Step Answers) → GraphSystem Sample → Prop :=
  Execution IsInitial (Steps dds convert)

abbrev RunFrom (dds : Dds) (convert : ConvertToSampleFn Sample Answers)
    (start : GraphSystem Sample) :
    List (GraphSystem Sample × Step Answers) → GraphSystem Sample → Prop :=
  Execution (fun sys => sys = start) (Steps dds convert)

def replay (dds : Dds) (convert : ConvertToSampleFn Sample Answers) (sys : GraphSystem Sample) :
    List (Step Answers) → Option (GraphSystem Sample)
  | [] => some sys
  | step :: rest =>
    if sys.enabled dds convert step then (sys.next dds convert step).replay dds convert rest
    else none

def after (dds : Dds) (convert : ConvertToSampleFn Sample Answers) (sys : GraphSystem Sample)
    (steps : List (Step Answers)) : GraphSystem Sample :=
  (sys.replay dds convert steps).getD sys

def started (pollPeriod : Duration) (pinfo : Sample) : GraphSystem Sample :=
  initial (.initial ⟨0⟩ pollPeriod) ⟨0, 0, fun _ => ⟨0⟩⟩ pinfo

end GraphSystem

end Ros2Graph
