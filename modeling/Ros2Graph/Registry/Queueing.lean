import Ros2Graph.Registry.Advertised

/-! Which operations queue an update before they give `mutex_self` back,
against what they change of the advertised registry. -/

set_option autoImplicit false

namespace Ros2Graph

open Foundation SemEvent

/-- `sem_pinfo` is given before `mutex_self` is. -/
def queuedBeforeRelease (events : List SemEvent) : Bool :=
  (events.takeWhile (· != giveMutexSelf)).contains giveSemPinfo

namespace Operation

def RemovesNode (graph : Graph) (operation : Operation) : Prop :=
  ∃ nodeHandle, operation = .unregisterLocalNode nodeHandle ∧
    (graph.lookupLocalNodeByHandle nodeHandle).isSome = true

/-- The operation inspects a listed node, and stops after it has changed it. -/
def StopsHalfway (dds : Dds) (env : CallEnv) (graph : Graph) (operation : Operation) : Prop :=
  ∃ nodeHandle ptr node, operation = .inspectLocalNode nodeHandle ∧
    graph.lookupLocalNodeByHandle nodeHandle = some (ptr, node) ∧
    (graph.inspectionPlan dds env node).completed = false ∧
    (graph.inspectionPlan dds env node).changed = true

variable {dds : Dds} {env : CallEnv} {graph : Graph} {operation : Operation}

/-- An operation that is not one of the two leaves what is listed, or queues an
update in time. -/
theorem perform_quiet_or_queued (distinct : graph.HandlesDistinct)
    (keeps : ¬ operation.RemovesNode graph) (finishes : ¬ operation.StopsHalfway dds env graph) :
    (operation.perform dds env graph).graph.listing = graph.listing ∨
      queuedBeforeRelease (operation.perform dds env graph).events = true := by
  have effect := @Operation.perform_effect dds env graph distinct operation
  generalize operation.perform dds env graph = outcome at effect ⊢
  cases effect with
  | refused => exact .inl rfl
  | nodeRolledBack same => exact .inl (by rw [Graph.listing, same, Graph.listing])
  | nodeRegistered => exact .inr rfl
  | nodeRemoved listed => exact absurd ⟨_, rfl, by rw [listed]; rfl⟩ keeps
  | @inspected nodeHandle ptr node actions left listed effects planned =>
      cases completed : (graph.inspectionPlan dds env node).completed with
      | true => exact .inr rfl
      | false =>
          cases changed : (graph.inspectionPlan dds env node).changed with
          | false =>
              obtain ⟨counter, moved⟩ := effects.moved planned changed
              rw [moved]
              exact .inl (Graph.listing_storeNode (Graph.lookup_node_found listed).1 _ counter)
          | true => exact absurd ⟨nodeHandle, ptr, node, rfl, listed, completed, changed⟩ finishes
  | @endpointRefused _ nodeHandle endpType ddsReader ddsWriter ptr node pool left _ listed ran =>
      obtain ⟨counter, rfl⟩ := GraphNode.registerEndpoint_none ran
      exact .inl (Graph.listing_storeNode (Graph.lookup_node_found listed).1 pool counter)
  | endpointRegistered => exact .inr rfl
  | endpointRemoved => exact .inr rfl

/-- An operation queues whatever it changes exactly when it removes no node and
is no inspection that stops halfway. -/
theorem changes_queued_iff (reachable : graph.Reachable dds) (env : CallEnv)
    (operation : Operation) :
    ((∃ participant, (operation.perform dds env graph).graph.advertised participant ≠
        graph.advertised participant) →
      queuedBeforeRelease (operation.perform dds env graph).events = true) ↔
    ¬ operation.RemovesNode graph ∧ ¬ operation.StopsHalfway dds env graph := by
  obtain ⟨past, run⟩ := reachable
  constructor
  · intro queued
    constructor
    · rintro ⟨nodeHandle, rfl, listed⟩
      obtain ⟨⟨ptr, node⟩, found⟩ := Option.isSome_iff_exists.mp listed
      have performed : (Operation.unregisterLocalNode nodeHandle).perform dds env graph =
          ⟨graph.finalizeNode ptr, .retcode .ok, [takeMutexSelf, giveMutexSelf]⟩ := by
        simp only [perform, Graph.unregisterLocalNode, found]
        rfl
      rw [performed] at queued
      have late := queued ⟨_, Graph.advertised_finalizeNode (Graph.lookup_node_found found).1⟩
      cases late
    · rintro ⟨nodeHandle, ptr, node, rfl, listed, stops, changed⟩
      have present := (Graph.lookup_node_found listed).1
      obtain ⟨actions, left, effects, planned, ended⟩ :=
        @Graph.inspectLocalNodeEA_planned dds env graph ptr node run.distinct present
      have performed : (Operation.inspectLocalNode nodeHandle).perform dds env graph =
          ⟨graph.storeNode ptr left.pool left.node, .retcode .error,
            [takeMutexSelf, giveMutexSelf]⟩ := by
        simp only [perform, Graph.inspectLocalNode, listed, ended, stops]
        rfl
      rw [performed] at queued
      have visible : ∃ participant, (graph.storeNode ptr left.pool left.node).advertised
          participant ≠ graph.advertised participant := by
        by_contra unseen
        have same := (Graph.advertised_storeNode present left.pool effects.participant).mp
          (fun participant => by_contra fun different => unseen ⟨participant, different⟩)
        rw [effects.view_eq_iff planned, changed] at same
        cases same
      cases queued visible
  · rintro ⟨keeps, finishes⟩ ⟨participant, changes⟩
    exact (perform_quiet_or_queued run.distinct keeps finishes).resolve_left
      (fun same => changes (Graph.advertised_of_listing same participant))

end Operation

theorem changes_queued_iff_registering :
    ((∃ participant, ((Operation.registerLocalNode (some secondName) none none).perform
          clientsDds (.granting (.answering [] [])) oneNodeGraph).graph.advertised participant ≠
        oneNodeGraph.advertised participant) →
      queuedBeforeRelease ((Operation.registerLocalNode (some secondName) none none).perform
        clientsDds (.granting (.answering [] [])) oneNodeGraph).events = true) ↔
    ¬ (Operation.registerLocalNode (some secondName) none none).RemovesNode oneNodeGraph ∧
      ¬ (Operation.registerLocalNode (some secondName) none none).StopsHalfway clientsDds
        (.granting (.answering [] [])) oneNodeGraph :=
  Operation.changes_queued_iff oneNodeGraph_reachable _ _

/-- Removing a node is never queued. -/
theorem removal_not_queued :
    ¬ ∀ (dds : Dds) (env : CallEnv) (graph : Graph) (operation : Operation),
      graph.Reachable dds →
      (∃ participant, (operation.perform dds env graph).graph.advertised participant ≠
        graph.advertised participant) →
      queuedBeforeRelease (operation.perform dds env graph).events = true := by
  intro queued
  have late := queued clientsDds (.granting (.answering [] [])) oneNodeGraph
    (.unregisterLocalNode 0) oneNodeGraph_reachable ⟨⟨0⟩, by decide⟩
  revert late
  decide

end Ros2Graph
