import Ros2Graph.Registry.Operations

/-! The ways through the registration of a node, by where it ends. -/

set_option autoImplicit false

namespace Ros2Graph

open SemEvent

theorem modify_last {α : Type} (items : List α) (last : α) (change : α → α) :
    (items ++ [last]).modify items.length change = items ++ [change last] := by
  induction items with
  | nil => rfl
  | cons head tail ih => simpa using ih

namespace Graph

/-- The arguments are accepted, and a handle and a buffer have been drawn for the
node that is linked. -/
inductive LinksNode (env : CallEnv) (graph : Graph) (name : CString) (space : Option CString)
    (given : Option DomainParticipant) : NodeHandle → Graph → Prop where
  | linked {handle counter pool} :
      refusesNames (some name) space = false →
      graph.lookupLocalNodeByName name space = none →
      graph.nextNodeHandle = (some handle, { graph with nodeHandleNext := counter }) →
      graph.nodesPool.getBuffer env.nodeBuffer = some pool →
      LinksNode env graph name space given handle
        (Graph.linkNode { graph with nodeHandleNext := counter } pool handle given)

/-- Registration of a node, with its answer and its semaphore calls. -/
inductive NodeRegistration (dds : Dds) (env : CallEnv) (graph : Graph) (space : Option CString)
    (given : Option DomainParticipant) : Option CString → Outcome NodeHandle → Prop where
  | unnamed : NodeRegistration dds env graph space given none ⟨graph, .invalid, []⟩
  | refused {name} : refusesNames (some name) space = true →
      NodeRegistration dds env graph space given (some name) ⟨graph, .invalid, []⟩
  | known {name found} : refusesNames (some name) space = false →
      graph.lookupLocalNodeByName name space = some found →
      NodeRegistration dds env graph space given (some name)
        ⟨graph, .invalid, [takeMutexSelf, giveMutexSelf]⟩
  | unnumbered {name counter} : refusesNames (some name) space = false →
      graph.lookupLocalNodeByName name space = none →
      graph.nextNodeHandle = (none, { graph with nodeHandleNext := counter }) →
      NodeRegistration dds env graph space given (some name)
        ⟨{ graph with nodeHandleNext := counter }, .invalid, [takeMutexSelf, giveMutexSelf]⟩
  | unallocated {name handle counter} : refusesNames (some name) space = false →
      graph.lookupLocalNodeByName name space = none →
      graph.nextNodeHandle = (some handle, { graph with nodeHandleNext := counter }) →
      graph.nodesPool.getBuffer env.nodeBuffer = none →
      NodeRegistration dds env graph space given (some name)
        ⟨{ graph with nodeHandleNext := counter }, .invalid, [takeMutexSelf, giveMutexSelf]⟩
  | uncopied {name copied handle linked} : graph.LinksNode env name space given handle linked →
      (env.dupName && env.dupNamespace) = false →
      NodeRegistration dds env graph space given (some name)
        ⟨(linked.nameNode graph.nodes.length copied none).finalizeNode graph.nodes.length,
          .invalid, [takeMutexSelf, giveMutexSelf]⟩
  | listed {name handle linked} : graph.LinksNode env name space given handle linked →
      (env.dupName && env.dupNamespace) = true → graph.isPollingEnabled = false →
      NodeRegistration dds env graph space given (some name)
        ⟨linked.nameNode graph.nodes.length (some name) (some (space.getD rootNamespace)), handle,
          [takeMutexSelf, giveSemPinfo, giveMutexSelf]⟩
  | inspected {name handle linked final} : graph.LinksNode env name space given handle linked →
      (env.dupName && env.dupNamespace) = true → graph.isPollingEnabled = true →
      (linked.nameNode graph.nodes.length (some name)
        (some (space.getD rootNamespace))).inspectLocalNodeEA dds env graph.nodes.length =
          (final, .ok) →
      NodeRegistration dds env graph space given (some name)
        ⟨final, handle, [takeMutexSelf, giveSemPinfo, giveMutexSelf]⟩
  | abandoned {name handle linked final retcode} :
      graph.LinksNode env name space given handle linked →
      (env.dupName && env.dupNamespace) = true → graph.isPollingEnabled = true →
      (linked.nameNode graph.nodes.length (some name)
        (some (space.getD rootNamespace))).inspectLocalNodeEA dds env graph.nodes.length =
          (final, retcode) → retcode ≠ .ok →
      NodeRegistration dds env graph space given (some name)
        ⟨final.finalizeNode graph.nodes.length, .invalid,
          [takeMutexSelf, giveSemPinfo, giveMutexSelf]⟩

variable {dds : Dds} {env : CallEnv} {graph : Graph}

/-- A node that is linked has no names yet. -/
theorem nameNode_linkNode_none (pool : FastBufferPool) (handle : NodeHandle)
    (given : Option DomainParticipant) :
    (graph.linkNode pool handle given).nameNode graph.nodes.length none none =
      graph.linkNode pool handle given := by
  simp [linkNode, nameNode, modify_last]

theorem nextNodeHandle_counts {handle : Option NodeHandle} {counted : Graph}
    (found : graph.nextNodeHandle = (handle, counted)) :
    ∃ counter, counted = { graph with nodeHandleNext := counter } :=
  ⟨_, (congrArg Prod.snd found).symm⟩

theorem registerLocalNode_registration (name space : Option CString)
    (given : Option DomainParticipant) :
    NodeRegistration dds env graph space given name
      (graph.registerLocalNode dds env name space given) := by
  cases name with
  | none => exact .unnamed
  | some name =>
      unfold registerLocalNode
      split
      · next same accepted =>
        cases same
        split
        · next listed =>
          obtain ⟨found, known⟩ := Option.isSome_iff_exists.mp listed
          exact .known accepted known
        · next unlisted =>
          have unknown := Option.not_isSome_iff_eq_none.mp unlisted
          split
          · next found =>
            obtain ⟨counter, rfl⟩ := nextNodeHandle_counts found
            exact .unnumbered accepted unknown found
          · next handle _ found =>
            obtain ⟨counter, rfl⟩ := nextNodeHandle_counts found
            split
            · next refused => exact .unallocated accepted unknown found refused
            · next pool granted =>
              have linked := @LinksNode.linked env graph name space given _ _ _ accepted unknown
                found granted
              split
              · next uncopied =>
                rw [← nameNode_linkNode_none]
                refine .uncopied linked ?_
                rw [(Bool.not_eq_true' _).mp uncopied, Bool.false_and]
              · split
                · next uncopied =>
                  refine .uncopied linked ?_
                  rw [(Bool.not_eq_true' _).mp uncopied, Bool.and_false]
                · next copiedName copiedNamespace =>
                  have copied : (env.dupName && env.dupNamespace) = true := by
                    simpa using And.intro copiedName copiedNamespace
                  split
                  · next polling =>
                    dsimp only
                    split
                    · next ended => exact .inspected linked copied polling ended
                    · next failed ended => exact .abandoned linked copied polling ended failed
                  · next quiet =>
                    exact .listed linked copied (Bool.eq_false_iff.mpr quiet)
      · next refuses =>
        exact .refused (Bool.eq_true_of_not_eq_false fun accepted => refuses _ rfl accepted)

end Graph

end Ros2Graph
