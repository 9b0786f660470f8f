import Ros2Graph.Registry.Evolution
import Ros2Graph.Sample.NodeFidelity

/-! The counters of a node, in every run in which no inspection attaches an
entity to an endpoint that is already listed. -/

set_option autoImplicit false

namespace Ros2Graph

open Foundation

theorem counter_succ {counter : SizeT} {count : Nat} (holds : counter.toNat = count)
    (room : count + 1 < 2 ^ 64) : (counter + 1).toNat = count + 1 := by
  rw [UInt64.toNat_add, holds]
  exact Nat.mod_eq_of_lt room

theorem counter_pred {counter : SizeT} {count : Nat} (holds : counter.toNat = count + 1) :
    (counter - 1).toNat = count := by
  have atLeast : (1 : SizeT) ≤ counter := by
    rw [UInt64.le_iff_toNat_le, holds]
    simp
  rw [UInt64.toNat_sub_of_le _ _ atLeast, holds]
  simp

theorem counter_linked {counter : SizeT} {count : Nat} (present : Bool)
    (holds : counter.toNat = count) (room : count + 1 < 2 ^ 64) :
    (if present = true then counter + 1 else counter).toNat =
      count + if present = true then 1 else 0 := by
  cases present with
  | false => exact holds
  | true => exact counter_succ holds room

theorem counter_unlinked {counter : SizeT} {count : Nat} (present : Bool)
    (holds : counter.toNat = count + if present = true then 1 else 0) :
    (if present = true then counter - 1 else counter).toNat = count := by
  cases present with
  | false => exact holds
  | true => exact counter_pred holds

namespace GraphNode

structure Numbered (node : GraphNode) : Prop where
  distinct : (node.endpoints.map (·.handle)).Nodup
  nonnegative : ∀ endp ∈ node.endpoints, 0 ≤ endp.handle

def Sided (node : GraphNode) : Prop :=
  ∀ endp ∈ node.endpoints, endp.hasReader = true ∨ endp.hasWriter = true

theorem Numbered.length_le {node : GraphNode} (numbered : node.Numbered) :
    node.endpoints.length ≤ 2 ^ 31 := by
  have bound := handles_length_le numbered.distinct (by
    intro handle member
    obtain ⟨endp, listed, rfl⟩ := List.mem_map.mp member
    exact numbered.nonnegative endp listed)
  simpa using bound

theorem finalizeEndpoint_split {node : GraphNode} {pool : FastBufferPool}
    {front rest : List GraphEndpoint} {endp : GraphEndpoint}
    (split : node.endpoints = front ++ endp :: rest) :
    (node.finalizeEndpoint pool front.length).2 =
      { node with
        endpoints := front ++ rest
        endpointsLen := node.endpointsLen - 1
        writersLen := if endp.ddsWriter.isSome then node.writersLen - 1 else node.writersLen
        readersLen := if endp.ddsReader.isSome then node.readersLen - 1
          else node.readersLen } := by
  simp [finalizeEndpoint, split]

end GraphNode

section

variable {dds : Dds} {attaches shares : Prop} {node next : GraphNode}

theorem NodeChange.numbered (change : NodeChange dds attaches shares node next)
    (numbered : node.Numbered) : next.Numbered := by
  constructor
  · have distinct := numbered.distinct
    cases change with
    | counter => exact distinct
    | @linked endp counter _ _ _ _ fresh _ =>
        rw [GraphNode.linkEndpoint, List.map_append, List.map_singleton, ← List.concat_eq_append,
          List.nodup_concat]
        refine ⟨?_, distinct⟩
        intro member
        obtain ⟨listed, listedMember, same⟩ := List.mem_map.mp member
        exact fresh listed listedMember same
    | removed => exact distinct.sublist ((GraphNode.finalizeEndpoint_sublist _ _ _).map _)
    | @attached dw ptr endp _ _ _ first _ =>
        obtain ⟨front, rest, split, rfl⟩ := split_at_position (locate_getElem? first)
        rw [split] at distinct
        simpa [split] using distinct
  · apply change.endpointwise _ _ numbered.nonnegative
    · intro endp _ _ _ nonnegative
      exact nonnegative
    · intro _ endp dw nonnegative
      exact nonnegative

theorem NodeChange.sided (change : NodeChange dds attaches shares node next)
    (sided : node.Sided) : next.Sided := by
  apply change.endpointwise _ _ sided
  · intro endp _ _ hasEntity _
    exact hasEntity
  · intro _ endp dw _
    exact .inr rfl

/-- Nothing but an attachment leaves a counter behind. -/
theorem NodeChange.counted (change : NodeChange dds False shares node next)
    (numbered : node.Numbered) (counted : node.Counted) : next.Counted := by
  have short := numbered.length_le
  cases change with
  | counter => exact ⟨counted.endpointsLen, counted.readersLen, counted.writersLen⟩
  | @linked endp counter _ _ _ _ _ _ =>
      have readersShort := @List.countP_le_length _ GraphEndpoint.hasReader node.endpoints
      have writersShort := @List.countP_le_length _ GraphEndpoint.hasWriter node.endpoints
      constructor
      · simpa [GraphNode.linkEndpoint] using counter_succ counted.endpointsLen (by omega)
      · have linked := counter_linked endp.hasReader counted.readersLen (by omega)
        rw [GraphNode.linkEndpoint, List.countP_append, List.countP_singleton]
        exact linked
      · have linked := counter_linked endp.hasWriter counted.writersLen (by omega)
        rw [GraphNode.linkEndpoint, List.countP_append, List.countP_singleton]
        exact linked
  | @removed pool ptr endp present =>
      obtain ⟨front, rest, split, rfl⟩ := split_at_position present
      rw [GraphNode.finalizeEndpoint_split split]
      have endpointsLen := counted.endpointsLen
      have readersLen := counted.readersLen
      have writersLen := counted.writersLen
      simp only [split, List.length_append, List.length_cons, List.countP_append,
        List.countP_cons, ← Nat.add_assoc] at endpointsLen readersLen writersLen
      constructor
      · simpa using counter_pred endpointsLen
      · rw [List.countP_append]
        exact counter_unlinked endp.hasReader readersLen
      · rw [List.countP_append]
        exact counter_unlinked endp.hasWriter writersLen
  | attached impossible => exact impossible.elim

theorem GraphNode.Counted.positive (counted : node.Counted) {endp : GraphEndpoint}
    (listed : endp ∈ node.endpoints) :
    0 < node.endpointsLen.toNat ∧ (endp.hasReader = true → 0 < node.readersLen.toNat) ∧
      (endp.hasWriter = true → 0 < node.writersLen.toNat) := by
  rw [counted.endpointsLen, counted.readersLen, counted.writersLen]
  refine ⟨List.length_pos_of_mem listed, fun reader => ?_, fun writer => ?_⟩
  · exact List.countP_pos_iff.mpr ⟨endp, listed, reader⟩
  · exact List.countP_pos_iff.mpr ⟨endp, listed, writer⟩

end

theorem GraphNode.IsBlank.numbered {node : GraphNode} (blank : node.IsBlank) :
    node.Numbered := by
  constructor
  · simp [blank.endpoints]
  · simp [blank.endpoints]

theorem GraphNode.IsBlank.counted {node : GraphNode} (blank : node.IsBlank) : node.Counted := by
  constructor
  · simp [blank.endpoints, blank.endpointsLen]
  · simp [blank.endpoints, blank.readersLen]
  · simp [blank.endpoints, blank.writersLen]

namespace Graph.Run

variable {dds : Dds} {graph : Graph} {past : List (Graph × Event)}

theorem numbered (run : Run dds past graph) : ∀ node ∈ graph.nodes, node.Numbered :=
  Run.nodewise (fun _ blank => blank.numbered) (fun _ _ held change => change.numbered held) run
    (fun _ _ => ⟨fun _ => trivial, fun _ => trivial⟩)

theorem sided (run : Run dds past graph) : ∀ node ∈ graph.nodes, node.Sided :=
  Run.nodewise (fun _ blank => by simp [GraphNode.Sided, blank.endpoints])
    (fun _ _ held change => change.sided held) run
    (fun _ _ => ⟨fun _ => trivial, fun _ => trivial⟩)

theorem counted (run : Run dds past graph)
    (unattached : Execution.Guarded (fun state event => ¬ event.Attaches dds state) past) :
    ∀ node ∈ graph.nodes, node.Counted := by
  have both := @Run.nodewise dds False True graph
    (fun node => node.Numbered ∧ node.Counted)
    (fun _ blank => ⟨blank.numbered, blank.counted⟩)
    (fun _ _ held change => ⟨change.numbered held.1, change.counted held.1 held.2⟩) past run
    (fun visit member => ⟨unattached visit member, fun _ => trivial⟩)
  exact fun node member => (both node member).2

end Graph.Run

/-- In every run without attachments the counters are exact, so no decrement
underflows and every reference of a conversion is below the length just set. -/
theorem counters_exact {dds : Dds} {graph : Graph} {past : List (Graph × Event)}
    (run : Graph.Run dds past graph)
    (unattached : Execution.Guarded (fun state event => ¬ event.Attaches dds state) past) :
    ∀ node ∈ graph.nodes, node.Counted ∧
      (∀ endp ∈ node.endpoints, 0 < node.endpointsLen.toNat ∧
        (endp.hasReader = true → 0 < node.readersLen.toNat) ∧
        (endp.hasWriter = true → 0 < node.writersLen.toNat)) ∧
      ∀ env sample, ∃ answer, node.nodeToSample dds env sample = some answer := by
  intro node member
  have counted := run.counted unattached node member
  refine ⟨counted, fun endp listed => counted.positive listed, fun env sample => ?_⟩
  exact nodeToSample_succeeds counted.readersLen counted.writersLen (run.sided node member)

/-- A client and a service with two entities each, and two of plain data. -/
def variedDds : Dds :=
  .onTopics
    (fun reader => match reader.address with
      | 1 => replyTopic
      | 3 => requestTopic
      | _ => topicPrefixDefault)
    (fun writer => match writer.address with
      | 2 => requestTopic
      | 4 => replyTopic
      | _ => topicPrefixDefault)

/-- The inspection finds all of them, and registers the two of plain data. -/
def variedEvents : List Event :=
  [.call (.granting (.answering [] []))
      (.registerLocalNode (some firstName) none none),
    .call (.granting (.answering [] [])) (.registerLocalClient 0 (some ⟨1⟩) (some ⟨2⟩)),
    .call (.granting (.answering [] [])) (.registerLocalService 0 (some ⟨3⟩) (some ⟨4⟩)),
    .call (.granting (.answering [⟨2⟩, ⟨4⟩, ⟨6⟩] [⟨1⟩, ⟨3⟩, ⟨5⟩])) (.inspectLocalNode 0)]

theorem variedEvents_unattached :
    Execution.Guarded (fun state event => ¬ event.Attaches variedDds state)
      ((Graph.initial ⟨0⟩ Duration.infinite).history variedDds variedEvents) := by
  unfold Execution.Guarded
  decide +kernel

theorem counters_exact_inspected :
    ∃ node ∈ ((Graph.initial ⟨0⟩ Duration.infinite).after variedDds variedEvents).nodes,
      node.endpoints.length = 4 ∧ node.readersLen = 3 ∧ node.writersLen = 3 ∧ node.Counted := by
  have run := Graph.Run.ofInitial variedDds ⟨0⟩ Duration.infinite variedEvents
  exact ⟨_, List.mem_cons_self, by decide +kernel, by decide +kernel, by decide +kernel,
    (counters_exact run variedEvents_unattached _ List.mem_cons_self).1⟩

/-- A reader on a request topic is inspected before the first writer on it. -/
def attachingEvents : List Event :=
  [.call (.granting (.answering [] []))
      (.registerLocalNode (some firstName) none none),
    .call (.granting (.answering [] [⟨1⟩])) (.inspectLocalNode 0),
    .call (.granting (.answering [⟨2⟩] [⟨1⟩])) (.inspectLocalNode 0)]

/-- The second inspection attaches the writer, which no counter counts. -/
theorem counters_inexact_after_attachment :
    ¬ ∀ (dds : Dds) (past : List (Graph × Event)) (graph : Graph),
      Graph.Run dds past graph → ∀ node ∈ graph.nodes, node.Counted := by
  intro exact
  obtain ⟨past, run, _⟩ := Graph.Run.replay
    (.onTopics (fun _ => requestTopic) (fun _ => requestTopic)) ⟨0⟩ Duration.infinite
    attachingEvents
  have counted := (exact _ _ _ run _ List.mem_cons_self).writersLen
  revert counted
  decide

end Ros2Graph
