import Ros2Graph.Directory.Nodes
import Ros2Graph.Foundation.Refinement
import Ros2Graph.Registry.Names
import Ros2Graph.Registry.Representation

/-! The registry is a directory: in every run it does what its directory may do, and
answers every question as the directory does. -/

set_option autoImplicit false

namespace Ros2Graph

open Foundation Relation

/-- The directory of a graph lists what the graph lists. -/
def Directory.Describes (directory : Directory) (graph : Graph) : Prop :=
  Agrees NodeListing.Describes directory.nodes (keyed (·.handle) graph.nodes)

theorem Graph.keyed_of_lookup {graph : Graph} {handle : NodeHandle} {ptr : NodePtr}
    {node : GraphNode} (listed : graph.lookupLocalNodeByHandle handle = some (ptr, node)) :
    keyed (·.handle) graph.nodes handle = some node := by
  unfold lookupLocalNodeByHandle at listed
  rw [keyed, listed]
  rfl

theorem Graph.keyed_of_unlisted {graph : Graph} {handle : NodeHandle}
    (unlisted : graph.lookupLocalNodeByHandle handle = none) :
    keyed (·.handle) graph.nodes handle = none := by
  unfold lookupLocalNodeByHandle at unlisted
  rw [keyed, unlisted]
  rfl

theorem Graph.refusesNames_rooted {name : CString} {space : Option CString}
    (accepted : refusesNames (some name) space = false) :
    refusesNames (some name) (some (space.getD rootNamespace)) = false := by
  cases space with
  | none =>
      unfold refusesNames at accepted ⊢
      rw [Bool.or_eq_false_iff] at accepted ⊢
      exact ⟨accepted.1, by decide⟩
  | some space => exact accepted

/-- A removal searches for the first endpoint that it may take. -/
theorem Operation.removal_target (operation : Operation) :
    (operation.removal = none ∧ operation.target = none) ∨
      ∃ nodeHandle search wanted test, operation.removal = some (nodeHandle, search) ∧
        operation.target = some (nodeHandle, wanted) ∧
        (∀ node, search node = locate test node.endpoints) ∧
        ∀ known endp, EndpointListing.Describes known endp →
          (test endp = true ↔ wanted endp.handle known) := by
  have byEntities : ∀ reader writer (known : EndpointListing) (endp : GraphEndpoint),
      known.Describes endp → (_ ↔ known.Matches reader writer) :=
    fun reader writer _ _ same => same.matches_iff reader writer
  cases operation with
  | registerLocalNode | inspectLocalNode | registerLocalSubscription | registerLocalPublisher
  | registerLocalClient | registerLocalService | unregisterLocalNode => exact .inl ⟨rfl, rfl⟩
  | unregisterLocalSubscription _ reader =>
      cases reader with
      | none => exact .inl ⟨rfl, rfl⟩
      | some reader => exact .inr ⟨_, _, _, _, rfl, rfl, fun _ => rfl, byEntities _ _⟩
  | unregisterLocalPublisher _ writer =>
      cases writer with
      | none => exact .inl ⟨rfl, rfl⟩
      | some writer => exact .inr ⟨_, _, _, _, rfl, rfl, fun _ => rfl, byEntities _ _⟩
  | unregisterLocalClient _ reader writer | unregisterLocalService _ reader writer =>
      cases reader with
      | none => exact .inl ⟨rfl, rfl⟩
      | some reader =>
          cases writer with
          | none => exact .inl ⟨rfl, rfl⟩
          | some writer => exact .inr ⟨_, _, _, _, rfl, rfl, fun _ => rfl, byEntities _ _⟩
  | unregisterLocalSubscriptionByHandle | unregisterLocalPublisherByHandle
  | unregisterLocalClientByHandle | unregisterLocalServiceByHandle =>
      exact .inr ⟨_, _, _, _, rfl, rfl, fun _ => rfl, fun _ _ _ => beq_iff_eq⟩

namespace Directory.Describes

variable {dds : Dds} {env : CallEnv} {graph : Graph} {directory : Directory}

/-- What is not in the directory, an operation does not find. -/
theorem lacks (describes : directory.Describes graph) {operation : Operation}
    (failed : (operation.perform dds env graph).result.succeeded = false) :
    directory.Lacks operation := by
  constructor
  · rintro nodeHandle rfl
    cases listed : graph.lookupLocalNodeByHandle nodeHandle with
    | none => exact describes.none_iff.mpr (Graph.keyed_of_unlisted listed)
    | some found =>
        simp [Operation.perform, Graph.unregisterLocalNode, listed, Outcome.ofRetcode,
          Answer.succeeded] at failed
  · intro nodeHandle wanted targets handle endp found takes
    obtain ⟨_, absent⟩ | ⟨_, search, _, test, removes, aims, searches, tests⟩ :=
      operation.removal_target
    · cases absent.symm.trans targets
    · cases aims.symm.trans targets
      obtain ⟨entry, atNode, atEndpoint⟩ := Option.bind_eq_some_iff.mp found
      obtain ⟨node, keyedAt, describesNode⟩ := describes.right atNode
      obtain ⟨listed, member, same, described⟩ := describesNode.listed atEndpoint
      subst same
      rw [Operation.perform_removal removes] at failed
      cases lookup : graph.lookupLocalNodeByHandle nodeHandle with
      | none => cases (Graph.keyed_of_unlisted lookup).symm.trans keyedAt
      | some located =>
          obtain ⟨ptr, other⟩ := located
          cases (Graph.keyed_of_lookup lookup).symm.trans keyedAt
          cases first : search node with
          | none =>
              rw [searches, locate_eq_none_iff] at first
              have rejected := first listed member
              rw [(tests endp listed described).mpr takes] at rejected
              cases rejected
          | some target => simp [lookup, first, Outcome.ofRetcode, Answer.succeeded] at failed

/-- A listed node has an entry. -/
theorem entry (describes : directory.Describes graph) (distinct : graph.HandlesDistinct)
    {ptr : NodePtr} {node : GraphNode} (present : graph.nodes[ptr]? = some node) :
    ∃ entry, directory.nodes node.handle = some entry ∧ entry.Describes node :=
  describes.left (keyed_getElem? distinct present)

/-- A node is stored back with what has been made of it. -/
theorem stored (describes : directory.Describes graph) (distinct : graph.HandlesDistinct)
    {ptr : NodePtr} {node left : GraphNode} (present : graph.nodes[ptr]? = some node)
    (same : left.handle = node.handle) {entry : NodeListing} (described : entry.Describes left)
    (pool : FastBufferPool) :
    Agrees NodeListing.Describes (Function.update directory.nodes node.handle (some entry))
      (keyed (·.handle) (graph.storeNode ptr pool left).nodes) := by
  unfold Graph.storeNode
  rw [keyed_set distinct present same]
  exact describes.update _ (.some described)

theorem inspected (describes : directory.Describes graph) (distinct : graph.HandlesDistinct)
    (numbered : ∀ node ∈ graph.nodes, node.Numbered) {ptr : NodePtr} {node : GraphNode}
    (present : graph.nodes[ptr]? = some node) {left : Scope} {visits : List Visit}
    {actions : List Action} {continues : Bool}
    (effects : VisitedAll dds env ⟨graph.endpointsPool, node, EndpointHandle.invalid⟩ visits
      actions continues left) :
    ∃ entry later next, directory.nodes node.handle = some entry ∧
      ReflTransGen (NodeListing.Learns dds) entry later ∧
      next.nodes = Function.update directory.nodes node.handle (some later) ∧
      Describes next (graph.storeNode ptr left.pool left.node) := by
  obtain ⟨entry, found, described⟩ := describes.entry distinct present
  obtain ⟨later, learnt, describedLater⟩ :=
    NodeListing.Describes.inspected described (numbered node (List.mem_of_getElem? present)) effects
  have changes : ReflTransGen (NodeChange dds True False) node left.node :=
    effects.changes fun _ => trivial
  exact ⟨entry, later, directory.replace found later (NodeListing.learns_fullName learnt), found,
    learnt, rfl, describes.stored distinct present (nodeChanges_handle changes) describedLater _⟩

/-- A name that the registry does not know, no entry has. -/
theorem nameless (describes : directory.Describes graph) {name : CString}
    {space : Option CString} (unknown : graph.lookupLocalNodeByName name space = none)
    {handle : NodeHandle} {listed : NodeListing} (found : directory.nodes handle = some listed) :
    listed.fullName ≠ (name, space.getD rootNamespace) := by
  intro same
  obtain ⟨node, keyedAt, described⟩ := describes.right found
  refine Graph.lookup_name_none unknown (List.mem_map.mpr ⟨node.identity, ?_, ?_⟩)
  · exact List.mem_map.mpr ⟨node, (keyed_mem keyedAt).1, rfl⟩
  · obtain ⟨nameEq, spaceEq⟩ := Prod.mk.inj same
    simp [GraphNode.identity, GraphNode.fullName, described.nodeName, described.nodeNamespace,
      nameEq, spaceEq]

section

variable {name : CString} {space : Option CString} {participant : Option DomainParticipant}

theorem registered (describes : directory.Describes graph) {handle : NodeHandle}
    {blank : GraphNode} {left : Scope} {final : Graph} {visits : List Visit}
    {actions : List Action} (accepted : Graph.refusesNames (some name) space = false)
    (unknown : graph.lookupLocalNodeByName name space = none) (nonnegative : 0 ≤ handle)
    (fresh : ∀ node ∈ graph.nodes, node.handle ≠ handle) (isBlank : blank.IsBlank)
    (handleEq : blank.handle = handle) (nameEq : blank.nodeName = some name)
    (spaceEq : blank.nodeNamespace = some (space.getD rootNamespace))
    (participantEq : blank.ddsParticipant = participant.getD graph.graphParticipant)
    (effects : VisitedAll dds env ⟨graph.endpointsPool, blank, EndpointHandle.invalid⟩ visits
      actions true left)
    (nodes : final.nodes = graph.nodes ++ [left.node]) :
    ∃ next, Step dds graph.graphParticipant directory
        (.answered (.registerLocalNode (some name) space participant) (.handle handle)) next ∧
      next.Describes final := by
  let start : NodeListing :=
    { nodeName := name
      nodeNamespace := space.getD rootNamespace
      ddsParticipant := participant.getD graph.graphParticipant
      endpoints := fun _ => none
      accepted := Graph.refusesNames_rooted accepted
      valid := by simp }
  have described : start.Describes blank :=
    ⟨nameEq, spaceEq, participantEq, isBlank.endpoints ▸ .empty⟩
  obtain ⟨later, learnt, describesLeft⟩ :=
    NodeListing.Describes.inspected described isBlank.numbered effects
  have changes : ReflTransGen (NodeChange dds True False) blank left.node :=
    effects.changes fun _ => trivial
  have leftHandle : left.node.handle = handle := (nodeChanges_handle changes).trans handleEq
  have apart : ∀ other listed, directory.nodes other = some listed →
      listed.fullName = later.fullName → other = handle := fun other listed found same =>
    absurd (same.trans (NodeListing.learns_fullName learnt)) (describes.nameless unknown found)
  refine ⟨directory.put handle nonnegative later apart, .nodeRegistered ?_ rfl rfl rfl rfl
    learnt rfl, ?_⟩
  · exact describes.none_iff.mpr (keyed_eq_none_iff.mpr fresh)
  · unfold Describes
    rw [nodes, keyed_append (leftHandle ▸ fresh), leftHandle]
    exact Agrees.update describes handle (.some describesLeft)

end

section

variable {operation : Operation} {nodeHandle : NodeHandle} {endpType : EndpointType}
  {ddsReader : Option DataReader} {ddsWriter : Option DataWriter} {ptr : NodePtr}
  {node left : GraphNode} {pool : FastBufferPool}

private theorem registered_handle
    (registers : operation.registration = some (nodeHandle, endpType, ddsReader, ddsWriter))
    {added : Option GraphEndpoint} {before : FastBufferPool}
    (ran : node.registerEndpoint dds env before endpType ddsReader ddsWriter =
      (pool, left, added)) : left.handle = node.handle := by
  obtain ⟨known, sided⟩ := Operation.registration_known registers
  have changes : ReflTransGen (NodeChange dds False True) node left :=
    GraphNode.registerEndpoint_change known sided (fun _ _ => .inr trivial) ran
  exact nodeChanges_handle changes

theorem endpointRefused (describes : directory.Describes graph)
    (distinct : graph.HandlesDistinct)
    (registers : operation.registration = some (nodeHandle, endpType, ddsReader, ddsWriter))
    (present : graph.nodes[ptr]? = some node)
    (ran : node.registerEndpoint dds env graph.endpointsPool endpType ddsReader ddsWriter =
      (pool, left, none)) : directory.Describes (graph.storeNode ptr pool left) := by
  obtain ⟨entry, found, described⟩ := describes.entry distinct present
  have kept := describes.stored distinct present (registered_handle registers ran)
    (described.refused ran) pool
  rwa [← found, Function.update_eq_self] at kept

theorem endpointRegistered (describes : directory.Describes graph)
    (distinct : graph.HandlesDistinct)
    (registers : operation.registration = some (node.handle, endpType, ddsReader, ddsWriter))
    (present : graph.nodes[ptr]? = some node) {endp : GraphEndpoint}
    (ran : node.registerEndpoint dds env graph.endpointsPool endpType ddsReader ddsWriter =
      (pool, left, some endp)) :
    ∃ next, Step dds graph.graphParticipant directory
        (.answered operation (.handle endp.handle)) next ∧
      next.Describes (graph.storeNode ptr pool left) := by
  obtain ⟨entry, found, described⟩ := describes.entry distinct present
  obtain ⟨known, sided⟩ := Operation.registration_known registers
  let added : EndpointListing := ⟨endpType, ddsReader, ddsWriter, known, sided⟩
  obtain ⟨nonnegative, unlisted, admits, describesLeft⟩ :=
    @NodeListing.Describes.registered _ _ _ _ _ _ _ _ _ _ described endp ran added rfl rfl rfl
  exact ⟨directory.replace found (entry.put endp.handle nonnegative added) rfl,
    .endpointRegistered nonnegative registers found unlisted admits rfl rfl rfl rfl,
    describes.stored distinct present (registered_handle registers ran) describesLeft pool⟩

theorem endpointRemoved (describes : directory.Describes graph)
    (distinct : graph.HandlesDistinct) (numbered : node.Numbered)
    {search : GraphNode → Option (EndpointPtr × GraphEndpoint)}
    (removes : operation.removal = some (node.handle, search))
    (present : graph.nodes[ptr]? = some node) {endpPtr : EndpointPtr} {endp : GraphEndpoint}
    (located : search node = some (endpPtr, endp)) :
    ∃ next, Step dds graph.graphParticipant directory
        (.answered operation (.retcode .ok)) next ∧
      next.Describes (graph.finalizeEndpointAt ptr node endpPtr) := by
  obtain ⟨entry, found, described⟩ := describes.entry distinct present
  obtain ⟨absent, _⟩ | ⟨_, _, wanted, test, removal, targets, searches, tests⟩ :=
    operation.removal_target
  · cases absent.symm.trans removes
  · cases removal.symm.trans removes
    have listed := Operation.removal_getElem? removes located
    rw [searches] at located
    obtain ⟨known, atEndpoint, same⟩ := described.known numbered listed
    have change : NodeChange dds False False node
        (node.finalizeEndpoint graph.endpointsPool endpPtr).2 := .removed listed
    exact ⟨directory.replace found (entry.drop endp.handle) rfl,
      .endpointRemoved targets found atEndpoint ((tests known endp same).mp (locate_mem located).2)
        rfl,
      describes.stored distinct present change.handle (described.drop numbered listed _) _⟩

end

/-- Every operation is a step of the directory, with the answer that the caller gets. -/
theorem operated (describes : directory.Describes graph) (distinct : graph.HandlesDistinct)
    (numbered : ∀ node ∈ graph.nodes, node.Numbered) (operation : Operation) :
    ∃ next, Step dds graph.graphParticipant directory
        (.answered operation (operation.perform dds env graph).result) next ∧
      next.Describes (operation.perform dds env graph).graph := by
  have effect := @Operation.perform_effect dds env graph distinct operation
  have lacks := fun failed => @lacks dds env graph directory describes operation failed
  generalize operation.perform dds env graph = outcome at effect lacks ⊢
  cases effect with
  | refused failed => exact ⟨directory, .refused failed (lacks failed), describes⟩
  | nodeRolledBack same =>
      refine ⟨directory, .refused rfl (lacks rfl), ?_⟩
      unfold Describes
      rw [same]
      exact describes
  | nodeRegistered accepted unknown nonnegative fresh isBlank handleEq nameEq spaceEq
      participantEq effects _ nodes =>
      exact describes.registered accepted unknown nonnegative fresh isBlank handleEq nameEq
        spaceEq participantEq effects nodes
  | @nodeRemoved nodeHandle ptr node listed =>
      obtain ⟨present, rfl⟩ := Graph.lookup_node_found listed
      obtain ⟨entry, found, described⟩ := describes.entry distinct present
      refine ⟨directory.remove node.handle, .nodeRemoved found rfl, ?_⟩
      unfold Describes
      rw [Graph.finalizeNode_nodes, keyed_eraseIdx distinct present]
      exact describes.update _ .none
  | inspected listed effects _ =>
      obtain ⟨present, rfl⟩ := Graph.lookup_node_found listed
      obtain ⟨entry, later, next, found, learnt, stored, described⟩ :=
        describes.inspected distinct numbered present effects
      exact ⟨next, .inspected found learnt stored, described⟩
  | endpointRefused registers listed ran =>
      obtain ⟨present, rfl⟩ := Graph.lookup_node_found listed
      exact ⟨directory, .refused rfl (lacks rfl),
        describes.endpointRefused distinct registers present ran⟩
  | endpointRegistered registers listed ran =>
      obtain ⟨present, rfl⟩ := Graph.lookup_node_found listed
      exact describes.endpointRegistered distinct registers present ran
  | endpointRemoved removes listed located =>
      obtain ⟨present, rfl⟩ := Graph.lookup_node_found listed
      exact describes.endpointRemoved distinct (numbered _ (List.mem_of_getElem? present)) removes
        present located

/-- Every event of the registry is a step of the directory. -/
theorem next (describes : directory.Describes graph) (distinct : graph.HandlesDistinct)
    (numbered : ∀ node ∈ graph.nodes, node.Numbered) (event : Event) :
    ∃ next, Step dds graph.graphParticipant directory (event.occurrence dds graph) next ∧
      next.Describes (graph.next dds event) := by
  cases event with
  | call env operation => exact describes.operated distinct numbered operation
  | poll env ptr =>
      cases present : graph.nodes[ptr]? with
      | none =>
          refine ⟨directory, .polledNothing, ?_⟩
          simpa [Graph.next, Graph.inspectLocalNodeEA, present] using describes
      | some node =>
          obtain ⟨actions, left, effects, _, ended⟩ :=
            @Graph.inspectLocalNodeEA_planned dds env graph ptr node distinct present
          obtain ⟨entry, later, next, found, learnt, stored, described⟩ :=
            describes.inspected distinct numbered present effects
          refine ⟨next, .polled found learnt stored, ?_⟩
          rw [Graph.next, ended]
          exact described

/-! The questions. -/

theorem endpointAt (describes : directory.Describes graph) (nodeHandle : NodeHandle)
    (endpHandle : EndpointHandle) :
    Option.Rel EndpointListing.Describes (directory.endpointAt nodeHandle endpHandle)
      (graph.endpointAt nodeHandle endpHandle) := by
  unfold Directory.endpointAt Graph.endpointAt
  cases listed : graph.lookupLocalNodeByHandle nodeHandle with
  | none =>
      rw [describes.none_iff.mpr (Graph.keyed_of_unlisted listed)]
      exact .none
  | some found =>
      obtain ⟨ptr, node⟩ := found
      obtain ⟨entry, atNode, described⟩ := describes.left (Graph.keyed_of_lookup listed)
      rw [atNode]
      exact described.endpoints endpHandle

theorem getNodeParticipant (describes : directory.Describes graph) (nodeHandle : NodeHandle) :
    graph.getNodeParticipant nodeHandle =
      (directory.nodes nodeHandle).map (·.ddsParticipant) := by
  unfold Graph.getNodeParticipant
  cases listed : graph.lookupLocalNodeByHandle nodeHandle with
  | none => rw [describes.none_iff.mpr (Graph.keyed_of_unlisted listed), Option.map_none]
  | some found =>
      obtain ⟨entry, atNode, described⟩ := describes.left (Graph.keyed_of_lookup listed)
      simp [atNode, described.ddsParticipant]

theorem getNodeName (describes : directory.Describes graph) (nodeHandle : NodeHandle)
    (nameOut namespaceOut : Option (Option CString)) :
    graph.getNodeName nodeHandle nameOut namespaceOut =
      if nameOut.isNone && namespaceOut.isNone then (.badParameter, nameOut, namespaceOut)
      else
        match directory.nodes nodeHandle with
        | none => (.preconditionNotMet, nameOut, namespaceOut)
        | some node => (.ok, nameOut.map fun _ => some node.nodeName,
            namespaceOut.map fun _ => some node.nodeNamespace) := by
  unfold Graph.getNodeName
  cases listed : graph.lookupLocalNodeByHandle nodeHandle with
  | none => rw [describes.none_iff.mpr (Graph.keyed_of_unlisted listed)]
  | some found =>
      obtain ⟨entry, atNode, described⟩ := describes.left (Graph.keyed_of_lookup listed)
      simp [atNode, described.nodeName, described.nodeNamespace]

theorem getEndpointReader (describes : directory.Describes graph) (nodeHandle : NodeHandle)
    (endpHandle : EndpointHandle) :
    graph.getEndpointReader nodeHandle endpHandle =
      (directory.endpointAt nodeHandle endpHandle).bind (·.ddsReader) := by
  have same := describes.endpointAt nodeHandle endpHandle
  unfold Graph.getEndpointReader
  generalize directory.endpointAt nodeHandle endpHandle = known,
    graph.endpointAt nodeHandle endpHandle = endp at same ⊢
  cases same with
  | none => rfl
  | some same => exact same.ddsReader

theorem getEndpointWriter (describes : directory.Describes graph) (nodeHandle : NodeHandle)
    (endpHandle : EndpointHandle) :
    graph.getEndpointWriter nodeHandle endpHandle =
      (directory.endpointAt nodeHandle endpHandle).bind (·.ddsWriter) := by
  have same := describes.endpointAt nodeHandle endpHandle
  unfold Graph.getEndpointWriter
  generalize directory.endpointAt nodeHandle endpHandle = known,
    graph.endpointAt nodeHandle endpHandle = endp at same ⊢
  cases same with
  | none => rfl
  | some same => exact same.ddsWriter

theorem getEndpointType (describes : directory.Describes graph) (nodeHandle : NodeHandle)
    (endpHandle : EndpointHandle) :
    graph.getEndpointType nodeHandle endpHandle =
      ((directory.endpointAt nodeHandle endpHandle).map (·.endpType)).getD .unknown := by
  have same := describes.endpointAt nodeHandle endpHandle
  unfold Graph.getEndpointType
  generalize directory.endpointAt nodeHandle endpHandle = known,
    graph.endpointAt nodeHandle endpHandle = endp at same ⊢
  cases same with
  | none => rfl
  | some same => exact same.endpType

theorem answers (describes : directory.Describes graph) (dds : Dds) (env : CallEnv)
    {request : Request} {value : PublicAnswer} (answered : directory.answer request = some value) :
    (request.outcome dds env graph).result = value := by
  cases request with
  | perform operation => cases answered
  | getNodeParticipant nodeHandle =>
      cases answered
      exact congrArg PublicAnswer.participant (describes.getNodeParticipant nodeHandle)
  | getNodeName nodeHandle nameOut namespaceOut =>
      cases answered
      simp only [Request.outcome, Request.outcome.reading, describes.getNodeName]
      split <;> rfl
  | getEndpointReader nodeHandle endpHandle =>
      cases answered
      exact congrArg PublicAnswer.reader (describes.getEndpointReader nodeHandle endpHandle)
  | getEndpointWriter nodeHandle endpHandle =>
      cases answered
      exact congrArg PublicAnswer.writer (describes.getEndpointWriter nodeHandle endpHandle)
  | getEndpointType nodeHandle endpHandle =>
      cases answered
      exact congrArg PublicAnswer.endpointType (describes.getEndpointType nodeHandle endpHandle)

end Directory.Describes

namespace Graph

/-- Whatever is asked of the graph, it answers as the directory does. -/
def AnswersAs (dds : Dds) (graph : Graph) (directory : Directory) : Prop :=
  ∀ env request value, directory.answer request = some value →
    (Request.outcome dds env graph request).result = value

variable {dds : Dds} {graph : Graph} {past : List (Graph × Event)}

/-- The participant of a graph is the one that it was created with. -/
theorem fromInitial_participant {participant : DomainParticipant} {period : Duration}
    (run : Execution (fun first => first = Graph.initial participant period)
      (fun graph event next => next = graph.next dds event) past graph) :
    Run dds past graph ∧ graph.graphParticipant = participant := by
  have reached : Run dds past graph := run.weaken fun _ same => ⟨participant, period, same⟩
  refine ⟨reached, ?_⟩
  induction run with
  | start same => rw [same, initial]
  | @extend past state next event earlier stepped ih =>
      have before : Run dds past state := earlier.weaken fun _ same => ⟨participant, period, same⟩
      have kept := @Accounted.next dds _ state before.accounted.1 before.distinct event
      rw [← stepped] at kept
      exact kept.graphParticipant.trans (ih before)

theorem fromInitial_directory {participant : DomainParticipant} {period : Duration}
    (run : Execution (fun first => first = Graph.initial participant period)
      (fun graph event next => next = graph.next dds event) past graph) :
    ∃ records directory, Directory.Run dds participant records directory ∧
      Execution.Simulated (fun graph directory => directory.Describes graph)
        (fun graph event => event.occurrence dds graph) past graph records directory := by
  refine Execution.simulated ?_ ?_ run
  · rintro _ rfl
    exact ⟨.empty, rfl, .empty⟩
  · intro past state event next directory earlier stepped describes
    obtain ⟨reached, same⟩ := fromInitial_participant earlier
    rw [stepped, ← same]
    exact describes.next reached.distinct reached.numbered event

end Graph

/-- In every run there is a run of a directory in which the same calls get the same answers;
and at every point of it all questions have the answers that the directory gives there. -/
theorem registry_refines_directory {dds : Dds} {graph : Graph} {past : List (Graph × Event)}
    (run : Graph.Run dds past graph) :
    ∃ records directory, Directory.Run dds graph.graphParticipant records directory ∧
      records.map (·.2) = past.map (fun visit => visit.2.occurrence dds visit.1) ∧
      List.Forall₂ (Graph.AnswersAs dds) (Execution.states past graph)
        (Execution.states records directory) := by
  obtain ⟨_, ⟨participant, period, rfl⟩, fromStart⟩ := run.begins
  obtain ⟨records, directory, reached, simulated⟩ := Graph.fromInitial_directory fromStart
  rw [(Graph.fromInitial_participant fromStart).2]
  exact ⟨records, directory, reached, simulated.labels, simulated.states.imp
    fun state directory describes env request value => describes.answers dds env⟩

theorem registry_refines_directory_failing :
    let start := Graph.initial ⟨0⟩ Duration.infinite
    ∃ records directory, Directory.Run dataDds ⟨0⟩ records directory ∧
      records.map (·.2) =
        [.answered (.registerLocalNode (some firstName) none none) (.handle 0),
          .answered (.registerLocalSubscription 0 (some ⟨1⟩)) (.handle 0),
          .answered (.registerLocalNode (some secondName) none none) (.handle (-1)),
          .answered (.registerLocalSubscription 0 (some ⟨2⟩)) (.handle (-1))] ∧
      List.Forall₂ (Graph.AnswersAs dataDds)
        (Execution.states (start.history dataDds failingEvents)
          (start.after dataDds failingEvents))
        (Execution.states records directory) := by
  intro start
  have run := @Graph.Run.history dataDds Graph.IsInitial _ _
    (.start ⟨⟨0⟩, Duration.infinite, rfl⟩) failingEvents
  exact registry_refines_directory run

end Ros2Graph
