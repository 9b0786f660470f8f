import Ros2Graph.Directory.Entries
import Ros2Graph.Registry.Counters

/-! The entry of a node keeps up with its list of endpoints: with registration, removal and
inspection, whatever they come to. -/

set_option autoImplicit false

namespace Ros2Graph

open Foundation Relation

structure EndpointListing.Describes (entry : EndpointListing) (endp : GraphEndpoint) : Prop where
  endpType : endp.endpType = entry.endpType
  ddsReader : endp.ddsReader = entry.ddsReader
  ddsWriter : endp.ddsWriter = entry.ddsWriter

structure NodeListing.Describes (entry : NodeListing) (node : GraphNode) : Prop where
  nodeName : node.nodeName = some entry.nodeName
  nodeNamespace : node.nodeNamespace = some entry.nodeNamespace
  ddsParticipant : node.ddsParticipant = entry.ddsParticipant
  endpoints : Agrees EndpointListing.Describes entry.endpoints (keyed (·.handle) node.endpoints)

namespace EndpointListing

variable {entry : EndpointListing} {endp : GraphEndpoint}

/-- The test of the search by entities. -/
theorem Describes.matches_iff (describes : entry.Describes endp) (ddsReader : Option DataReader)
    (ddsWriter : Option DataWriter) :
    ((ddsReader.isNone || endp.ddsReader == ddsReader) &&
      (ddsWriter.isNone || endp.ddsWriter == ddsWriter)) = true ↔
        entry.Matches ddsReader ddsWriter := by
  unfold Matches
  rw [Bool.and_eq_true, describes.ddsReader, describes.ddsWriter]
  refine and_congr ?_ ?_
  · cases ddsReader <;> simp
  · cases ddsWriter <;> simp

end EndpointListing

namespace NodeListing.Describes

variable {entry : NodeListing} {node : GraphNode}

/-- An endpoint of the entry is one of the list. -/
theorem listed (describes : entry.Describes node) {handle : EndpointHandle}
    {known : EndpointListing} (found : entry.endpoints handle = some known) :
    ∃ endp ∈ node.endpoints, endp.handle = handle ∧ known.Describes endp := by
  obtain ⟨endp, keyedAt, same⟩ := describes.endpoints.right found
  obtain ⟨member, handleEq⟩ := keyed_mem keyedAt
  exact ⟨endp, member, handleEq, same⟩

/-- An endpoint of the list is one of the entry. -/
theorem known (describes : entry.Describes node) (numbered : node.Numbered)
    {ptr : EndpointPtr} {endp : GraphEndpoint} (present : node.endpoints[ptr]? = some endp) :
    ∃ known, entry.endpoints endp.handle = some known ∧ known.Describes endp :=
  describes.endpoints.left (keyed_getElem? numbered.distinct present)

theorem unlisted (describes : entry.Describes node) {handle : EndpointHandle}
    (fresh : ∀ endp ∈ node.endpoints, endp.handle ≠ handle) : entry.endpoints handle = none :=
  describes.endpoints.none_iff.mpr (keyed_eq_none_iff.mpr fresh)

theorem counted (describes : entry.Describes node) (counter : EndpointHandle) :
    entry.Describes { node with endpHandleNext := counter } :=
  ⟨describes.nodeName, describes.nodeNamespace, describes.ddsParticipant, describes.endpoints⟩

theorem put (describes : entry.Describes node) {endp : GraphEndpoint} {known : EndpointListing}
    (same : known.Describes endp) (nonnegative : 0 ≤ endp.handle)
    (fresh : ∀ listed ∈ node.endpoints, listed.handle ≠ endp.handle) :
    (entry.put endp.handle nonnegative known).Describes (node.linkEndpoint endp) := by
  refine ⟨describes.nodeName, describes.nodeNamespace, describes.ddsParticipant, ?_⟩
  unfold GraphNode.linkEndpoint
  rw [keyed_append fresh]
  exact describes.endpoints.update _ (.some same)

theorem drop (describes : entry.Describes node) (numbered : node.Numbered)
    {ptr : EndpointPtr} {endp : GraphEndpoint} (present : node.endpoints[ptr]? = some endp)
    (pool : FastBufferPool) :
    (entry.drop endp.handle).Describes (node.finalizeEndpoint pool ptr).2 := by
  unfold GraphNode.finalizeEndpoint
  rw [present]
  refine ⟨describes.nodeName, describes.nodeNamespace, describes.ddsParticipant, ?_⟩
  rw [keyed_eraseIdx numbered.distinct present]
  exact describes.endpoints.update _ .none

theorem overwritten (describes : entry.Describes node) (numbered : node.Numbered)
    {ptr : EndpointPtr} {endp new : GraphEndpoint} (present : node.endpoints[ptr]? = some endp)
    {known : EndpointListing} (same : known.Describes new) (handleEq : new.handle = endp.handle) :
    Agrees EndpointListing.Describes (Function.update entry.endpoints endp.handle (some known))
      (keyed (·.handle) (node.endpoints.set ptr new)) := by
  rw [keyed_set numbered.distinct present handleEq]
  exact describes.endpoints.update _ (.some same)

section

variable {dds : Dds} {env : CallEnv}

theorem admits (describes : entry.Describes node) {known : EndpointListing} {endp : GraphEndpoint}
    (same : known.Describes endp)
    (admitted : node.Admits dds endp.endpType endp.ddsReader endp.ddsWriter) :
    entry.Admits dds known := by
  refine ⟨fun handle listed found matching => ?_, ⟨fun reader given => ?_, fun writer given => ?_⟩⟩
  · obtain ⟨other, member, _, described⟩ := describes.listed found
    have rejected := locate_eq_none_iff.mp admitted.unused other member
    rw [same.ddsReader, same.ddsWriter] at rejected
    rw [(described.matches_iff _ _).mpr matching] at rejected
    cases rejected
  · rw [← same.endpType]
    exact admitted.readerKind reader (same.ddsReader ▸ given)
  · rw [← same.endpType]
    exact admitted.writerKind writer (same.ddsWriter ▸ given)

/-- What one visit of an inspection changes is something that the directory can learn. -/
theorem visited (describes : entry.Describes node) (numbered : node.Numbered) {action : Action}
    {left : GraphNode} (change : VisitChange dds node action left) :
    ∃ later, ReflTransGen (NodeListing.Learns dds) entry later ∧ later.Describes left := by
  cases change with
  | kept => exact ⟨entry, .refl, describes.counted _⟩
  | @linked endp counter admitted known oneEntity nonnegative fresh =>
      have sided : endp.ddsReader.isSome = true ∨ endp.ddsWriter.isSome = true :=
        oneEntity.symm.imp And.left And.right
      let learnt : EndpointListing := ⟨endp.endpType, endp.ddsReader, endp.ddsWriter, known, sided⟩
      have same : learnt.Describes endp := ⟨rfl, rfl, rfl⟩
      refine ⟨_, .single (.listed nonnegative (describes.unlisted fresh)
        (describes.admits same admitted) (oneEntity.imp And.left And.right)), ?_⟩
      exact (describes.counted counter).put same nonnegative fresh
  | @attached dw ptr endp unheld service first vacant =>
      have present := locate_getElem? first
      obtain ⟨known, found, same⟩ := describes.known numbered present
      obtain ⟨reader, reads, topic⟩ := Option.map_eq_some_iff.mp
        (beq_iff_eq.mp (locate_mem first).2)
      refine ⟨_, .single (.completed found (same.ddsWriter ▸ vacant) (same.ddsReader ▸ reads)
        topic service ?_), describes.nodeName, describes.nodeNamespace, describes.ddsParticipant, ?_⟩
      · intro other listed held writes
        obtain ⟨holder, member, _, described⟩ := describes.listed held
        have rejected := locate_eq_none_iff.mp unheld holder member
        simp [GraphEndpoint.holdsWriter, described.ddsWriter, writes] at rejected
      · have complete : (known.completed dw).Describes { endp with ddsWriter := some dw } :=
          ⟨same.endpType, same.ddsReader, rfl⟩
        exact describes.overwritten numbered present complete rfl

theorem inspected {scope left : Scope} (describes : entry.Describes scope.node)
    (numbered : scope.node.Numbered) {visits : List Visit} {actions : List Action}
    {continues : Bool} (effects : VisitedAll dds env scope visits actions continues left) :
    ∃ later, ReflTransGen (NodeListing.Learns dds) entry later ∧ later.Describes left.node := by
  induction effects generalizing entry with
  | nil => exact ⟨entry, .refl, describes⟩
  | stop effect => exact describes.visited numbered effect.nodeChange
  | next effect _ ih =>
      obtain ⟨middle, learnt, onwards⟩ := describes.visited numbered effect.nodeChange
      have change : NodeChange dds True False _ _ := effect.nodeChange.change fun _ => trivial
      obtain ⟨later, learntLater, described⟩ := ih onwards (change.numbered numbered)
      exact ⟨later, learnt.trans learntLater, described⟩

section

variable {pool after : FastBufferPool} {left : GraphNode} {endpType : EndpointType}
  {ddsReader : Option DataReader} {ddsWriter : Option DataWriter}

/-- A registration that fails may have drawn a handle. -/
theorem refused (describes : entry.Describes node)
    (ran : node.registerEndpoint dds env pool endpType ddsReader ddsWriter =
      (after, left, none)) : entry.Describes left := by
  rcases GraphNode.registerEndpoint_cases with
    ⟨counter, failed⟩ | ⟨handle, counter, _, _, _, _, done⟩
  · cases ran.symm.trans failed
    exact describes.counted counter
  · cases ran.symm.trans done

theorem registered (describes : entry.Describes node) {endp : GraphEndpoint}
    (ran : node.registerEndpoint dds env pool endpType ddsReader ddsWriter =
      (after, left, some endp)) {known : EndpointListing} (typed : known.endpType = endpType)
    (read : known.ddsReader = ddsReader) (written : known.ddsWriter = ddsWriter) :
    ∃ nonnegative : 0 ≤ endp.handle, entry.endpoints endp.handle = none ∧
      entry.Admits dds known ∧ (entry.put endp.handle nonnegative known).Describes left := by
  subst typed read written
  rcases GraphNode.registerEndpoint_cases with
    ⟨counter, failed⟩ | ⟨handle, counter, admitted, nonnegative, fresh, _, done⟩
  · cases ran.symm.trans failed
  · cases ran.symm.trans done
    have same : known.Describes ⟨handle, known.ddsReader, known.ddsWriter, known.endpType⟩ :=
      ⟨rfl, rfl, rfl⟩
    exact ⟨nonnegative, describes.unlisted fresh, describes.admits same admitted,
      (describes.counted counter).put same nonnegative fresh⟩

end

end

end NodeListing.Describes

end Ros2Graph
