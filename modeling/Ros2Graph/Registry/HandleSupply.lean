import Ros2Graph.Foundation.HandleLoop
import Ros2Graph.Registry.OperationEffects

/-! The two functions that give out handles, with their loops. They end for every
counter and every graph, and do not run out of handles by wrapping around. -/

set_option autoImplicit false

namespace Ros2Graph

open Foundation

/-- What is promised of a function that draws from a counter, with the handles in use. -/
structure HandsOut {Holder : Type} (draw : Nat → Option (Int32 × Holder)) (invalid : Int32)
    (live : Finset Int32) : Prop where
  ends : ∀ fuel, intMax ≤ fuel → (draw fuel).isSome = true
  fresh : ∀ fuel handle counted, draw fuel = some (handle, counted) → handle ≠ invalid →
    0 ≤ handle ∧ handle ∉ live
  available : live.card < intMax - 1 → ∃ handle counted,
    (∀ fuel, intMax ≤ fuel → draw fuel = some (handle, counted)) ∧
      handle ≠ invalid ∧ 0 ≤ handle ∧ handle ∉ live

/-- The two functions differ in what they look a candidate up in and where they keep
the counter. -/
theorem HandsOut.of_drawHandle {Holder : Type} {draw : Nat → Option (Int32 × Holder)}
    {invalid next : Int32} {taken : Int32 → Bool} {live : Finset Int32} (count : Int32 → Holder)
    (draws : ∀ fuel, draw fuel = (drawHandle invalid taken fuel next).map fun drawn =>
      (drawn.1, count drawn.2))
    (negative : invalid < 0) (inUse : ∀ handle, taken handle = true ↔ handle ∈ live) :
    HandsOut draw invalid live where
  ends fuel enough := by
    rw [draws, drawHandle_ends enough]
    rfl
  fresh fuel handle counted drawn valid := by
    rw [draws] at drawn
    obtain ⟨⟨given, following⟩, ended, same⟩ := Option.map_eq_some_iff.mp drawn
    cases same
    obtain ⟨nonnegative, free⟩ := drawHandle_fresh ended valid
    refine ⟨nonnegative, ?_⟩
    rw [← inUse, free]
    exact Bool.false_ne_true
  available few := by
    obtain ⟨handle, following, nonnegative, free, ended⟩ := @drawHandle_available invalid taken next
      live (fun handle => (inUse handle).mp) few
    refine ⟨handle, count following, ?_, ?_, nonnegative, ?_⟩
    · intro fuel enough
      rw [draws, ended fuel enough]
      rfl
    · intro same
      rw [same] at nonnegative
      exact Int32.not_lt.mpr nonnegative negative
    · rw [← inUse, free]
      exact Bool.false_ne_true

namespace Graph

/-- `RTIROS2_Graph_next_node_handle` -/
def nextNodeHandleLoop (graph : Graph) (fuel : Nat) : Option (NodeHandle × Graph) :=
  (drawHandle NodeHandle.invalid
    (fun candidate => (graph.lookupLocalNodeByHandle candidate).isSome) fuel
    graph.nodeHandleNext).map fun drawn => (drawn.1, { graph with nodeHandleNext := drawn.2 })

def liveHandles (graph : Graph) : Finset NodeHandle := (graph.nodes.map (·.handle)).toFinset

/-- The loop ends with what registration is modelled with. -/
theorem nextNodeHandleLoop_eq (graph : Graph) {fuel : Nat} (enough : intMax ≤ fuel) :
    graph.nextNodeHandleLoop fuel =
      some (graph.nextNodeHandle.1.getD .invalid, graph.nextNodeHandle.2) := by
  unfold nextNodeHandleLoop
  rw [drawHandle_ends enough]
  rfl

theorem mem_liveHandles {graph : Graph} {handle : NodeHandle} :
    (graph.lookupLocalNodeByHandle handle).isSome = true ↔ handle ∈ graph.liveHandles := by
  unfold liveHandles
  rw [lookup_node_isSome_iff, List.mem_toFinset, List.mem_map]

end Graph

namespace GraphNode

/-- `RTIROS2_Graph_next_endpoint_handle` -/
def nextEndpointHandleLoop (node : GraphNode) (fuel : Nat) : Option (EndpointHandle × GraphNode) :=
  (drawHandle EndpointHandle.invalid
    (fun candidate => (node.lookupLocalEndpointByHandle candidate).isSome) fuel
    node.endpHandleNext).map fun drawn => (drawn.1, { node with endpHandleNext := drawn.2 })

def liveHandles (node : GraphNode) : Finset EndpointHandle :=
  (node.endpoints.map (·.handle)).toFinset

theorem nextEndpointHandleLoop_eq (node : GraphNode) {fuel : Nat} (enough : intMax ≤ fuel) :
    node.nextEndpointHandleLoop fuel =
      some (node.nextEndpointHandle.1.getD .invalid, node.nextEndpointHandle.2) := by
  unfold nextEndpointHandleLoop
  rw [drawHandle_ends enough]
  rfl

theorem mem_liveHandles {node : GraphNode} {handle : EndpointHandle} :
    (node.lookupLocalEndpointByHandle handle).isSome = true ↔ handle ∈ node.liveHandles := by
  unfold liveHandles
  rw [lookup_handle_isSome_iff, List.mem_toFinset, List.mem_map]

end GraphNode

theorem handles_survive_wrap :
    (∀ graph : Graph, HandsOut graph.nextNodeHandleLoop NodeHandle.invalid graph.liveHandles) ∧
      ∀ node : GraphNode,
        HandsOut node.nextEndpointHandleLoop EndpointHandle.invalid node.liveHandles :=
  ⟨fun graph => .of_drawHandle (fun next => { graph with nodeHandleNext := next })
      (fun _ => rfl) (by decide) fun _ => Graph.mem_liveHandles,
    fun node => .of_drawHandle (fun next => { node with endpHandleNext := next })
      (fun _ => rfl) (by decide) fun _ => GraphNode.mem_liveHandles⟩

/-- From the last handle, with that one and zero in use, the fourth try is the first that
succeeds: zero has been tried twice. -/
example :
    let live : List GraphNode := [Int32.maxValue, 0].map fun handle =>
      ⟨handle, [], 0, 0, 0, 0, some firstName, none, ⟨0⟩⟩
    let graph : Graph := { Graph.initial ⟨0⟩ .infinite with
      nodes := live, nodeHandleNext := Int32.maxValue }
    (graph.nextNodeHandleLoop 3).isNone = true ∧
      (graph.nextNodeHandleLoop 4).map Prod.fst = some 1 := by
  decide

end Ros2Graph
