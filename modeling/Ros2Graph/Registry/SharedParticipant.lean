import Ros2Graph.Registry.InspectionReach

/-! Nodes on one participant. The duplicate checks of an inspection look at the
endpoints of the inspected node alone, so that an entity stays with the node
that was inspected first only as long as nothing else is taken for another. -/

set_option autoImplicit false

namespace Ros2Graph

open Foundation

/-- An inspection as a history keeps it: the node, the entities that the
enumeration calls list and those that the loop goes through. -/
structure InspectionRecord where
  nodeHandle : NodeHandle
  listed : List Visit
  reached : List Visit

def Graph.inspectionRecord (dds : Dds) (env : CallEnv) (graph : Graph) (node : GraphNode) :
    InspectionRecord where
  nodeHandle := node.handle
  listed := env.enumeration.visits node.ddsParticipant
  reached := graph.inspectionReach dds env node

/-- The inspection that the event makes of a node that is listed afterwards. -/
def Event.inspection (dds : Dds) (graph : Graph) : Event → Option InspectionRecord
  | .poll env ptr => (graph.nodes[ptr]?).map (graph.inspectionRecord dds env)
  | .call env (.inspectLocalNode nodeHandle) =>
      (graph.lookupLocalNodeByHandle nodeHandle).map
        (fun found => graph.inspectionRecord dds env found.2)
  | .call env (.registerLocalNode name space given) =>
      match graph.admittedNode env name space given with
      | none => none
      | some node =>
          if graph.isPollingEnabled && (graph.inspectionPlan dds env node).completed then
            some (graph.inspectionRecord dds env node)
          else none
  | .call _ _ => none

def inspections (dds : Dds) (past : List (Graph × Event)) : List InspectionRecord :=
  past.filterMap (fun visit => visit.2.inspection dds visit.1)

/-- The first node inspected while the entity existed. -/
def firstInspected (dds : Dds) (past : List (Graph × Event)) (entity : Visit) :
    Option NodeHandle :=
  ((inspections dds past).find? (fun record => record.listed.contains entity)).map
    (·.nodeHandle)

def FoundByInspection (dds : Dds) (past : List (Graph × Event)) (entity : Visit) : Prop :=
  entity.conforming dds = true ∧ ∃ record ∈ inspections dds past, entity ∈ record.reached

/-- Each entity found by inspection is held by one node at most, which is the
first one that was inspected while the entity existed. -/
structure FirstInspectedWins (dds : Dds) (past : List (Graph × Event)) (graph : Graph) : Prop where
  alone : ∀ entity, FoundByInspection dds past entity →
    ∀ node ∈ graph.nodes, ∀ other ∈ graph.nodes, node.holds entity = true →
      other.holds entity = true → node = other
  first : ∀ entity, FoundByInspection dds past entity →
    ∀ node ∈ graph.nodes, node.holds entity = true →
      firstInspected dds past entity = some node.handle

/-- The event registers by hand an endpoint of the node that has the entity. -/
def Event.RegistersEntity (dds : Dds) (graph : Graph) (event : Event) (nodeHandle : NodeHandle)
    (entity : Visit) : Prop :=
  ∃ env operation endpType ddsReader ddsWriter ptr node,
    event = .call env operation ∧
    operation.registration = some (nodeHandle, endpType, ddsReader, ddsWriter) ∧
    graph.lookupLocalNodeByHandle nodeHandle = some (ptr, node) ∧
    node.Admits dds endpType ddsReader ddsWriter ∧
    node.hasRoom env graph.endpointsPool 0 = true ∧
    (ddsReader.map Visit.reader = some entity ∨ ddsWriter.map Visit.writer = some entity)

/-- No entity is taken for a node when it belongs to another: an inspection goes
through none that another node holds or was inspected for first, and none that
an inspection has found is registered by hand for another node. -/
structure Event.RespectsFirst (dds : Dds) (past : List (Graph × Event)) (graph : Graph)
    (event : Event) : Prop where
  inspecting : ∀ record, event.inspection dds graph = some record → ∀ entity ∈ record.reached,
    entity.conforming dds = true →
      (∀ other ∈ graph.nodes, other.holds entity = true → other.handle = record.nodeHandle) ∧
      (firstInspected dds past entity = none ∨
        firstInspected dds past entity = some record.nodeHandle)
  registering : ∀ nodeHandle entity, event.RegistersEntity dds graph nodeHandle entity →
    FoundByInspection dds past entity → firstInspected dds past entity = some nodeHandle

section

variable {dds : Dds} {past : List (Graph × Event)} {graph : Graph} {event : Event}
  {entity : Visit}

theorem inspections_concat :
    inspections dds (past ++ [(graph, event)]) =
      inspections dds past ++ (event.inspection dds graph).toList := by
  unfold inspections
  rw [List.filterMap_append]
  cases made : event.inspection dds graph <;> simp [made]

theorem firstInspected_concat :
    firstInspected dds (past ++ [(graph, event)]) entity =
      (firstInspected dds past entity).or ((event.inspection dds graph).bind fun record =>
        if record.listed.contains entity then some record.nodeHandle else none) := by
  unfold firstInspected
  rw [inspections_concat, List.find?_append]
  cases (inspections dds past).find? (fun record => record.listed.contains entity) with
  | some record => simp
  | none =>
      cases event.inspection dds graph with
      | none => simp
      | some record => by_cases listed : entity ∈ record.listed <;> simp [listed]

theorem foundByInspection_concat :
    FoundByInspection dds (past ++ [(graph, event)]) entity ↔
      FoundByInspection dds past entity ∨ (entity.conforming dds = true ∧
        ∃ record, event.inspection dds graph = some record ∧ entity ∈ record.reached) := by
  unfold FoundByInspection
  rw [inspections_concat, ← and_or_left]
  simp only [List.mem_append, Option.mem_toList, or_and_right, exists_or]

theorem Event.inspection_listed {record : InspectionRecord}
    (inspects : event.inspection dds graph = some record) (reached : entity ∈ record.reached) :
    entity ∈ record.listed := by
  have recorded : ∃ env node, record = graph.inspectionRecord dds env node := by
    cases event with
    | poll env ptr =>
        obtain ⟨node, _, rfl⟩ := Option.map_eq_some_iff.mp inspects
        exact ⟨env, node, rfl⟩
    | call env operation =>
        cases operation with
        | inspectLocalNode =>
            obtain ⟨found, _, rfl⟩ := Option.map_eq_some_iff.mp inspects
            exact ⟨env, found.2, rfl⟩
        | registerLocalNode name space given =>
            simp only [Event.inspection] at inspects
            split at inspects
            · cases inspects
            · next node admitted =>
              split at inspects
              · cases inspects
                exact ⟨env, node, rfl⟩
              · cases inspects
        | _ => cases inspects
  obtain ⟨env, node, rfl⟩ := recorded
  exact followedVisits_mem reached

theorem FoundByInspection.listed (found : FoundByInspection dds past entity) :
    ∃ nodeHandle, firstInspected dds past entity = some nodeHandle := by
  obtain ⟨_, record, member, reached⟩ := found
  obtain ⟨visit, visited, inspects⟩ := List.mem_filterMap.mp member
  have listed := Event.inspection_listed inspects reached
  have found : ((inspections dds past).find? fun record =>
      record.listed.contains entity).isSome = true :=
    List.find?_isSome.mpr ⟨record, member, by simpa using listed⟩
  obtain ⟨first, present⟩ := Option.isSome_iff_exists.mp found
  exact ⟨first.nodeHandle, by rw [firstInspected, present]; rfl⟩

end

/-- What the nodes are after an inspection. -/
inductive InspectionResult (dds : Dds) (graph : Graph) (record : InspectionRecord) :
    List GraphNode → Prop where
  | renewed {ptr node left} : graph.nodes[ptr]? = some node →
      node.handle = record.nodeHandle → left.handle = record.nodeHandle →
      (∀ entity : Visit, entity.conforming dds = true →
        left.holds entity = (node.holds entity || record.reached.contains entity)) →
      InspectionResult dds graph record (graph.nodes.set ptr left)
  | added {left} : left.handle = record.nodeHandle →
      (∀ entity : Visit, entity.conforming dds = true →
        left.holds entity = record.reached.contains entity) →
      InspectionResult dds graph record (graph.nodes ++ [left])

namespace Graph

variable {dds : Dds} {graph : Graph} {event : Event} {entity : Visit}

theorem inspection_result (distinct : graph.HandlesDistinct) {record : InspectionRecord}
    (inspects : event.inspection dds graph = some record) :
    InspectionResult dds graph record (graph.next dds event).nodes := by
  have renewed : ∀ env ptr node, graph.nodes[ptr]? = some node →
      InspectionResult dds graph (graph.inspectionRecord dds env node)
        (graph.inspectLocalNodeEA dds env ptr).1.nodes := by
    intro env ptr node present
    obtain ⟨pool, left, ended, same, reached⟩ :=
      @inspectLocalNodeEA_reached dds env graph ptr node distinct present
    rw [ended]
    exact .renewed present rfl same reached
  cases event with
  | poll env ptr =>
      obtain ⟨node, present, rfl⟩ := Option.map_eq_some_iff.mp inspects
      exact renewed env ptr node present
  | call env operation =>
      cases operation with
      | inspectLocalNode nodeHandle =>
          obtain ⟨found, listed, rfl⟩ := Option.map_eq_some_iff.mp inspects
          obtain ⟨ptr, node⟩ := found
          have performed : (graph.next dds (.call env (.inspectLocalNode nodeHandle))).nodes =
              (graph.inspectLocalNodeEA dds env ptr).1.nodes :=
            congrArg Graph.nodes (inspectLocalNode_graph listed)
          rw [performed]
          exact renewed env ptr node (lookup_node_found listed).1
      | registerLocalNode name space given =>
          have after := @registerLocalNode_nodes dds env graph distinct name space given
          simp only [Event.inspection] at inspects
          have performed : (graph.next dds (.call env
              (.registerLocalNode name space given))).nodes =
                (graph.registerLocalNode dds env name space given).graph.nodes := rfl
          rw [performed]
          generalize (graph.registerLocalNode dds env name space given).graph.nodes = nodes
            at after ⊢
          generalize graph.admittedNode env name space given = admitted at inspects after
          cases after with
          | refused => cases inspects
          | listed polling => simp [polling] at inspects
          | abandoned polling incomplete => simp [incomplete] at inspects
          | inspected polling completed same reached =>
              simp only [polling, completed, Bool.and_self, if_true, Option.some.injEq] at inspects
              subst inspects
              exact .added same reached
      | _ => cases inspects

theorem admittedNode_endpoints {env : CallEnv} {name space : Option CString}
    {given : Option DomainParticipant} {node : GraphNode}
    (admitted : graph.admittedNode env name space given = some node) : node.endpoints = [] := by
  unfold admittedNode at admitted
  split at admitted
  · split at admitted
    · cases admitted
    · split at admitted
      · cases admitted
      · split at admitted
        · cases admitted
          rfl
        · cases admitted
  · cases admitted

/-- Without an inspection, only a registration by hand makes a node hold more. -/
theorem next_holds (distinct : graph.HandlesDistinct)
    (quiet : event.inspection dds graph = none) {node : GraphNode}
    (member : node ∈ (graph.next dds event).nodes) (holds : node.holds entity = true) :
    (∃ origin ∈ graph.nodes, origin.handle = node.handle ∧ origin.holds entity = true) ∨
      event.RegistersEntity dds graph node.handle entity := by
  cases event with
  | poll env ptr =>
      have absent : graph.nodes[ptr]? = none := by simpa [Event.inspection] using quiet
      simp only [next, inspectLocalNodeEA, absent] at member
      exact .inl ⟨node, member, rfl, holds⟩
  | call env operation =>
      have naming : ∀ name space given, operation = .registerLocalNode name space given →
          ∃ origin ∈ graph.nodes, origin.handle = node.handle ∧ origin.holds entity = true := by
        rintro name space given rfl
        have after := @registerLocalNode_nodes dds env graph distinct name space given
        have blank := @admittedNode_endpoints graph env name space given
        simp only [Event.inspection] at quiet
        replace member : node ∈ (graph.registerLocalNode dds env name space given).graph.nodes :=
          member
        generalize (graph.registerLocalNode dds env name space given).graph.nodes = nodes
          at after member
        generalize graph.admittedNode env name space given = admitted at quiet after blank
        cases after with
        | refused => exact ⟨node, member, rfl, holds⟩
        | abandoned => exact ⟨node, member, rfl, holds⟩
        | listed =>
            rcases List.mem_append.mp member with earlier | added
            · exact ⟨node, earlier, rfl, holds⟩
            · cases List.mem_singleton.mp added
              simp [GraphNode.holds, blank rfl] at holds
        | inspected polling completed => simp [polling, completed] at quiet
      have effect := @Operation.perform_effect dds env graph distinct operation
      simp only [next] at member
      generalize performed : operation.perform dds env graph = outcome at effect member
      cases effect with
      | refused => exact .inl ⟨node, member, rfl, holds⟩
      | nodeRolledBack => exact .inl (naming _ _ _ rfl)
      | nodeRegistered => exact .inl (naming _ _ _ rfl)
      | nodeRemoved =>
          rw [finalizeNode_nodes] at member
          exact .inl ⟨node, (List.eraseIdx_sublist _ _).mem member, rfl, holds⟩
      | inspected listed =>
          simp [Event.inspection, listed] at quiet
      | endpointRefused registers listed ran =>
          rcases List.mem_or_eq_of_mem_set member with earlier | rfl
          · exact .inl ⟨node, earlier, rfl, holds⟩
          · rw [holds_registered ran] at holds
            exact .inl ⟨_, List.mem_of_getElem? (lookup_node_found listed).1,
              (GraphNode.registerEndpoint_handle ran).symm, by simpa using holds⟩
      | @endpointRegistered _ handle endpType ddsReader ddsWriter ptr old pool left endp registers
          listed ran =>
          rcases List.mem_or_eq_of_mem_set member with earlier | rfl
          · exact .inl ⟨node, earlier, rfl, holds⟩
          · obtain ⟨position, handleEq⟩ := lookup_node_found listed
            have same := GraphNode.registerEndpoint_handle ran
            obtain ⟨admitted, room⟩ := GraphNode.registerEndpoint_isSome_iff.mp
              (by rw [ran]; rfl : (old.registerEndpoint dds env graph.endpointsPool endpType
                ddsReader ddsWriter).2.2.isSome = true)
            rw [holds_registered ran] at holds
            rcases Bool.or_eq_true_iff.mp holds with before | taken
            · exact .inl ⟨old, List.mem_of_getElem? position, same.symm, before⟩
            · have whose : handle = node.handle := handleEq.symm.trans same.symm
              rw [whose] at registers listed
              exact .inr ⟨env, operation, endpType, ddsReader, ddsWriter, ptr, old, rfl,
                registers, listed, admitted, room, by simpa using taken⟩
      | @endpointRemoved _ _ _ ptr old endpPtr endp removes listed located =>
          rcases List.mem_or_eq_of_mem_set member with earlier | rfl
          · exact .inl ⟨node, earlier, rfl, holds⟩
          · have present := Operation.removal_getElem? removes located
            refine .inl ⟨old, List.mem_of_getElem? (lookup_node_found listed).1, ?_, ?_⟩
            · simp [GraphNode.finalizeEndpoint, present]
            · obtain ⟨kept, listed, has⟩ := List.any_eq_true.mp holds
              exact List.any_eq_true.mpr
                ⟨kept, (GraphNode.finalizeEndpoint_sublist _ _ _).mem listed, has⟩

/-- A registration by hand that is admitted leaves its entities with the node. -/
theorem registration_holds {nodeHandle : NodeHandle}
    (registers : event.RegistersEntity dds graph nodeHandle entity) :
    ∃ node ∈ (graph.next dds event).nodes, node.handle = nodeHandle ∧
      node.holds entity = true := by
  obtain ⟨env, operation, endpType, ddsReader, ddsWriter, ptr, node, rfl, asked, listed, admitted,
    room, has⟩ := registers
  obtain ⟨position, rfl⟩ := lookup_node_found listed
  have succeeded := GraphNode.registerEndpoint_isSome_iff.mpr ⟨admitted, room⟩
  have performed : (graph.next dds (.call env operation)) =
      (graph.registerLocalEndpoint dds env node.handle endpType ddsReader ddsWriter).1 := by
    simp only [next, Operation.perform_registration asked, registerAndQueue]
    cases graph.registerLocalEndpoint dds env node.handle endpType ddsReader ddsWriter with
    | mk left added => cases added <;> rfl
  rw [performed]
  simp only [registerLocalEndpoint, listed]
  cases ran : node.registerEndpoint dds env graph.endpointsPool endpType ddsReader ddsWriter with
  | mk pool rest =>
      obtain ⟨left, added⟩ := rest
      rw [ran] at succeeded
      refine ⟨left, List.mem_of_getElem? (storeNode_getElem? position pool left),
        GraphNode.registerEndpoint_handle ran, ?_⟩
      have owned : (ddsReader.map Visit.reader == some entity ||
          ddsWriter.map Visit.writer == some entity) = true := by simpa using has
      rw [holds_registered ran, succeeded, owned]
      simp

end Graph

namespace InspectionResult

variable {dds : Dds} {graph : Graph} {record : InspectionRecord} {nodes : List GraphNode}
  {entity : Visit}

theorem gained (result : InspectionResult dds graph record nodes)
    (conforming : entity.conforming dds = true) {node : GraphNode} (member : node ∈ nodes)
    (holds : node.holds entity = true) :
    (∃ origin ∈ graph.nodes, origin.handle = node.handle ∧ origin.holds entity = true) ∨
      (node.handle = record.nodeHandle ∧ entity ∈ record.reached) := by
  cases result with
  | renewed present same renewedSame reached =>
      rcases List.mem_or_eq_of_mem_set member with earlier | rfl
      · exact .inl ⟨node, earlier, rfl, holds⟩
      · rw [reached entity conforming] at holds
        rcases Bool.or_eq_true_iff.mp holds with before | taken
        · exact .inl ⟨_, List.mem_of_getElem? present, same.trans renewedSame.symm, before⟩
        · exact .inr ⟨renewedSame, by simpa using taken⟩
  | added same reached =>
      rcases List.mem_append.mp member with earlier | last
      · exact .inl ⟨node, earlier, rfl, holds⟩
      · cases List.mem_singleton.mp last
        rw [reached entity conforming] at holds
        exact .inr ⟨same, by simpa using holds⟩

theorem taken (result : InspectionResult dds graph record nodes)
    (conforming : entity.conforming dds = true) (through : entity ∈ record.reached) :
    ∃ node ∈ nodes, node.handle = record.nodeHandle ∧ node.holds entity = true := by
  have listed : record.reached.contains entity = true := by simpa using through
  cases result with
  | @renewed ptr node left present same renewedSame reached =>
      obtain ⟨inside, _⟩ := List.getElem?_eq_some_iff.mp present
      refine ⟨left, List.mem_set inside left, renewedSame, ?_⟩
      rw [reached entity conforming, listed, Bool.or_true]
  | @added left same reached =>
      refine ⟨left, by simp, same, ?_⟩
      rw [reached entity conforming, listed]

theorem kept (result : InspectionResult dds graph record nodes)
    (conforming : entity.conforming dds = true) {other : GraphNode}
    (member : other ∈ graph.nodes) (holds : other.holds entity = true) :
    ∃ node ∈ nodes, node.handle = other.handle ∧ node.holds entity = true := by
  cases result with
  | @renewed ptr node left present same renewedSame reached =>
      by_cases renewed : other = node
      · subst renewed
        obtain ⟨inside, _⟩ := List.getElem?_eq_some_iff.mp present
        refine ⟨left, List.mem_set inside left, renewedSame.trans same.symm, ?_⟩
        rw [reached entity conforming, holds, Bool.true_or]
      · exact ⟨other, mem_set_of_ne present member renewed left, rfl, holds⟩
  | added => exact ⟨other, List.mem_append_left _ member, rfl, holds⟩

end InspectionResult

namespace FirstInspectedWins

variable {dds : Dds} {past : List (Graph × Event)} {graph : Graph} {event : Event}

theorem ofInitial (started : graph.IsInitial) : FirstInspectedWins dds [] graph := by
  obtain ⟨participant, period, rfl⟩ := started
  constructor
  · exact fun _ _ node member => absurd member (by simp [Graph.initial])
  · exact fun _ _ node member => absurd member (by simp [Graph.initial])

theorem ofFirst (distinct : graph.HandlesDistinct)
    (first : ∀ entity, FoundByInspection dds past entity →
      ∀ node ∈ graph.nodes, node.holds entity = true →
        firstInspected dds past entity = some node.handle) :
    FirstInspectedWins dds past graph where
  alone := by
    intro entity found node listed other otherListed holds otherHolds
    have same := (first entity found node listed holds).symm.trans
      (first entity found other otherListed otherHolds)
    exact List.inj_on_of_nodup_map distinct listed otherListed (Option.some.inj same)
  first := first

/-- A step that respects the first inspected nodes keeps the law. -/
theorem next (wins : FirstInspectedWins dds past graph) (distinct : graph.HandlesDistinct)
    (respects : event.RespectsFirst dds past graph) :
    FirstInspectedWins dds (past ++ [(graph, event)]) (graph.next dds event) := by
  apply ofFirst (Graph.next_evolves distinct event).distinct
  intro entity found node member holds
  have conforming := found.1
  rw [firstInspected_concat]
  cases made : event.inspection dds graph with
  | none =>
      have before : FoundByInspection dds past entity := by
        apply (foundByInspection_concat.mp found).resolve_right
        rintro ⟨_, record, inspects, _⟩
        rw [made] at inspects
        cases inspects
      have first : firstInspected dds past entity = some node.handle := by
        rcases Graph.next_holds distinct made member holds with
          ⟨origin, listed, same, held⟩ | registers
        · rw [← same]
          exact wins.first entity before origin listed held
        · exact respects.registering node.handle entity registers before
      simp [first]
  | some record =>
      have result := Graph.inspection_result distinct made
      by_cases reached : entity ∈ record.reached
      · obtain ⟨unheld, first⟩ := respects.inspecting record made entity reached conforming
        have owner : node.handle = record.nodeHandle := by
          rcases result.gained conforming member holds with ⟨origin, listed, same, held⟩ | taken
          · rw [← same]
            exact unheld origin listed held
          · exact taken.1
        have listed := Event.inspection_listed made reached
        rcases first with unseen | same
        · simp [unseen, listed, owner]
        · simp [same, owner]
      · have before : FoundByInspection dds past entity := by
          apply (foundByInspection_concat.mp found).resolve_right
          rintro ⟨_, other, inspects, through⟩
          cases made.symm.trans inspects
          exact reached through
        rcases result.gained conforming member holds with ⟨origin, listed, same, held⟩ | taken
        · simp [wins.first entity before origin listed held, same]
        · exact absurd taken.2 reached

/-- A step after which the law holds has respected the first inspected nodes. -/
theorem respected (distinct : graph.HandlesDistinct)
    (wins : FirstInspectedWins dds (past ++ [(graph, event)]) (graph.next dds event)) :
    event.RespectsFirst dds past graph := by
  constructor
  · intro record made entity reached conforming
    have found : FoundByInspection dds (past ++ [(graph, event)]) entity :=
      foundByInspection_concat.mpr (.inr ⟨conforming, record, made, reached⟩)
    have result := Graph.inspection_result distinct made
    obtain ⟨node, listed, owner, holds⟩ := result.taken conforming reached
    have first := wins.first entity found node listed holds
    rw [owner] at first
    constructor
    · intro other otherListed otherHolds
      obtain ⟨kept, keptListed, same, keptHolds⟩ := result.kept conforming otherListed otherHolds
      have also := wins.first entity found kept keptListed keptHolds
      exact same.symm.trans (Option.some.inj (also.symm.trans first))
    · rw [firstInspected_concat] at first
      cases earlier : firstInspected dds past entity with
      | none => exact .inl rfl
      | some handle =>
          rw [earlier] at first
          exact .inr first
  · intro nodeHandle entity registers found
    obtain ⟨node, listed, owner, holds⟩ := Graph.registration_holds registers
    have first := wins.first entity (foundByInspection_concat.mpr (.inl found)) node listed holds
    obtain ⟨handle, earlier⟩ := found.listed
    rw [firstInspected_concat, earlier] at first
    rw [earlier, ← owner]
    exact first

end FirstInspectedWins

/-- The law of the first inspected node holds in every state of a run exactly
when every step respects it. -/
theorem first_inspected_wins_iff {dds : Dds} {past : List (Graph × Event)} {graph : Graph}
    (run : Graph.Run dds past graph) :
    (FirstInspectedWins dds past graph ∧ ∀ front state event,
        front ++ [(state, event)] <+: past → FirstInspectedWins dds front state) ↔
      ∀ front state event, front ++ [(state, event)] <+: past →
        event.RespectsFirst dds front state := by
  induction run with
  | start started =>
      constructor
      · intro _ front state event isPrefix
        simp at isPrefix
      · intro _
        exact ⟨.ofInitial started, fun front state event isPrefix => by simp at isPrefix⟩
  | @extend past state following event earlier stepped ih =>
      subst stepped
      have distinct := Graph.Run.distinct earlier
      constructor
      · rintro ⟨wins, along⟩ front other label isPrefix
        rcases List.prefix_concat_iff.mp isPrefix with last | before
        · obtain ⟨rfl, same⟩ := List.append_inj' last rfl
          cases same
          exact wins.respected distinct
        · refine ih.mp ⟨along past state event (List.prefix_refl _), ?_⟩ front other label before
          intro front other label before
          exact along front other label (before.trans (List.prefix_append _ _))
      · intro respects
        obtain ⟨wins, along⟩ := ih.mpr fun front other label before =>
          respects front other label (before.trans (List.prefix_append _ _))
        refine ⟨wins.next distinct (respects past state event (List.prefix_refl _)), ?_⟩
        intro front other label isPrefix
        rcases List.prefix_concat_iff.mp isPrefix with last | before
        · obtain ⟨rfl, same⟩ := List.append_inj' last rfl
          cases same
          exact wins
        · exact along front other label before

/-- Two nodes on the participant of the graph, inspected one after the other;
the enumeration calls list a reader for the first and the given ones for the
second. -/
def inspectingBothEvents (readers : List DataReader) : List Event :=
  [.call (.granting (.answering [] [])) (.registerLocalNode (some firstName) none none),
    .call (.granting (.answering [] [])) (.registerLocalNode (some secondName) none none),
    .call (.granting (.answering [] [⟨1⟩])) (.inspectLocalNode 0),
    .call (.granting (.answering [] readers)) (.inspectLocalNode 1)]

/-- A step that neither inspects nor registers an endpoint respects the law. -/
theorem Event.RespectsFirst.ofQuiet {dds : Dds} {past : List (Graph × Event)} {graph : Graph}
    {env : CallEnv} {operation : Operation}
    (quiet : (Event.call env operation).inspection dds graph = none)
    (unregistering : operation.registration = none) :
    (Event.call env operation).RespectsFirst dds past graph := by
  constructor
  · intro record made
    rw [quiet] at made
    cases made
  · rintro nodeHandle entity ⟨env, asked, _, _, _, _, _, same, registers, _⟩
    cases same
    rw [unregistering] at registers
    cases registers

theorem first_inspected_wins_iff_unshared :
    FirstInspectedWins dataDds ([] ++ (Graph.initial ⟨0⟩ Duration.infinite).history dataDds
      (inspectingBothEvents [⟨2⟩])) ((Graph.initial ⟨0⟩ Duration.infinite).after dataDds
        (inspectingBothEvents [⟨2⟩])) := by
  have run := Graph.Run.ofInitial dataDds ⟨0⟩ Duration.infinite (inspectingBothEvents [⟨2⟩])
  refine ((first_inspected_wins_iff run).mpr ?_).1
  rintro front state event ⟨rest, whole⟩
  rcases front with _ | ⟨first, _ | ⟨second, _ | ⟨third, _ | ⟨fourth, front⟩⟩⟩⟩
  · cases (List.cons.inj whole).1
    exact .ofQuiet rfl rfl
  · cases (List.cons.inj (List.cons.inj whole).2).1
    exact .ofQuiet rfl rfl
  · obtain ⟨one, others⟩ := List.cons.inj whole
    obtain ⟨two, last⟩ := List.cons.inj others
    cases (List.cons.inj last).1
    subst one two
    constructor
    · intro record made entity reached _
      cases (show some (⟨0, [.reader ⟨1⟩], [.reader ⟨1⟩]⟩ : InspectionRecord) = some record from made)
      cases List.mem_singleton.mp reached
      refine ⟨?_, .inl rfl⟩
      intro other listed holds
      rcases List.mem_cons.mp listed with rfl | listed
      · rfl
      · cases List.mem_singleton.mp listed
        cases holds
    · rintro nodeHandle entity ⟨env, asked, _, _, _, _, _, same, registers, _⟩
      cases same
      cases registers
  · obtain ⟨one, others⟩ := List.cons.inj whole
    obtain ⟨two, others⟩ := List.cons.inj others
    obtain ⟨three, last⟩ := List.cons.inj others
    cases (List.cons.inj last).1
    subst one two three
    constructor
    · intro record made entity reached _
      cases (show some (⟨1, [.reader ⟨2⟩], [.reader ⟨2⟩]⟩ : InspectionRecord) = some record from made)
      cases List.mem_singleton.mp reached
      refine ⟨?_, .inl rfl⟩
      intro other listed holds
      rcases List.mem_cons.mp listed with rfl | listed
      · cases holds
      · cases List.mem_singleton.mp listed
        rfl
    · rintro nodeHandle entity ⟨env, asked, _, _, _, _, _, same, registers, _⟩
      cases same
      cases registers
  · obtain ⟨_, others⟩ := List.cons.inj whole
    obtain ⟨_, others⟩ := List.cons.inj others
    obtain ⟨_, others⟩ := List.cons.inj others
    obtain ⟨_, others⟩ := List.cons.inj others
    cases front <;> cases others

/-- The run has inspected two listed nodes that share a participant. -/
def SharedAndInspected (dds : Dds) (past : List (Graph × Event)) (graph : Graph) : Prop :=
  ∃ node ∈ graph.nodes, ∃ other ∈ graph.nodes, node.handle ≠ other.handle ∧
    node.ddsParticipant = other.ddsParticipant ∧
    (∃ record ∈ inspections dds past, record.nodeHandle = node.handle) ∧
    ∃ record ∈ inspections dds past, record.nodeHandle = other.handle

/-- The reader is held by both nodes: the duplicate checks see one node only. -/
theorem first_inspected_loses :
    ¬ ∀ (dds : Dds) (past : List (Graph × Event)) (graph : Graph), Graph.Run dds past graph →
      SharedAndInspected dds past graph → FirstInspectedWins dds past graph := by
  intro law
  have run := Graph.Run.ofInitial dataDds ⟨0⟩ Duration.infinite (inspectingBothEvents [⟨1⟩])
  have made : inspections dataDds ([] ++ (Graph.initial ⟨0⟩ Duration.infinite).history dataDds
      (inspectingBothEvents [⟨1⟩])) = [⟨0, [.reader ⟨1⟩], [.reader ⟨1⟩]⟩,
        ⟨1, [.reader ⟨1⟩], [.reader ⟨1⟩]⟩] := rfl
  have wins := law _ _ _ run ⟨_, List.mem_cons_self, _,
    List.mem_cons_of_mem _ List.mem_cons_self, by decide, rfl,
    ⟨_, made ▸ List.mem_cons_self, rfl⟩,
    ⟨_, made ▸ List.mem_cons_of_mem _ List.mem_cons_self, rfl⟩⟩
  have found : FoundByInspection dataDds ([] ++ (Graph.initial ⟨0⟩ Duration.infinite).history
      dataDds (inspectingBothEvents [⟨1⟩])) (.reader ⟨1⟩) :=
    ⟨by decide, _, made ▸ List.mem_cons_self, by decide⟩
  have same := wins.alone _ found _ List.mem_cons_self _
    (List.mem_cons_of_mem _ List.mem_cons_self) (by decide) (by decide)
  exact absurd (congrArg GraphNode.handle same) (by decide)

end Ros2Graph
