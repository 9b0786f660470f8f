import Mathlib.Data.List.Forall2
import Mathlib.Data.List.Nodup
import Mathlib.Logic.Function.Basic
import Ros2Graph.Foundation.Locate

/-! A list whose elements have distinct keys, as a partial map. Adding an element at the
back, overwriting one and unlinking one are updates of the map at one key. -/

set_option autoImplicit false

namespace Ros2Graph.Foundation

section

variable {Key Item : Type} [DecidableEq Key] {key : Item → Key}

/-- The first element that has the key. -/
def keyed (key : Item → Key) (items : List Item) (wanted : Key) : Option Item :=
  (locate (fun item => key item == wanted) items).map (·.2)

theorem keyed_cons (head : Item) (tail : List Item) :
    keyed key (head :: tail) = Function.update (keyed key tail) (key head) (some head) := by
  funext wanted
  by_cases same : key head = wanted
  · subst same
    simp [keyed, locate]
  · rw [Function.update_of_ne (Ne.symm same)]
    simp [keyed, locate, same, Function.comp_def]

theorem keyed_eq_none_iff {items : List Item} {wanted : Key} :
    keyed key items wanted = none ↔ ∀ item ∈ items, key item ≠ wanted := by
  unfold keyed
  rw [Option.map_eq_none_iff, locate_eq_none_iff]
  simp

theorem keyed_mem {items : List Item} {wanted : Key} {item : Item}
    (found : keyed key items wanted = some item) : item ∈ items ∧ key item = wanted := by
  obtain ⟨⟨position, located⟩, first, same⟩ := Option.map_eq_some_iff.mp found
  cases same
  obtain ⟨member, accepted⟩ := locate_mem first
  exact ⟨member, by simpa using accepted⟩

/-- An element behind others with other keys. -/
theorem keyed_middle {front rest : List Item} {item : Item}
    (apart : ∀ earlier ∈ front, key earlier ≠ key item) :
    keyed key (front ++ item :: rest) =
      Function.update (keyed key (front ++ rest)) (key item) (some item) := by
  induction front with
  | nil => exact keyed_cons item rest
  | cons head front ih =>
      have different : key head ≠ key item := apart head List.mem_cons_self
      rw [List.cons_append, keyed_cons, ih fun earlier member =>
        apart earlier (List.mem_cons_of_mem _ member), List.cons_append, keyed_cons,
        Function.update_comm different]

theorem keyed_append {items : List Item} {last : Item}
    (fresh : ∀ item ∈ items, key item ≠ key last) :
    keyed key (items ++ [last]) = Function.update (keyed key items) (key last) (some last) := by
  simpa using @keyed_middle _ _ _ key items [] last fresh

section

variable {items : List Item} {position : Nat} {item : Item}

omit [DecidableEq Key] in
private theorem apart_of_distinct {front rest : List Item}
    (distinct : ((front ++ item :: rest).map key).Nodup) :
    (∀ earlier ∈ front, key earlier ≠ key item) ∧
      ∀ other ∈ front ++ rest, key other ≠ key item := by
  rw [List.map_append, List.map_cons, List.nodup_middle, List.nodup_cons, ← List.map_append]
    at distinct
  have apart : ∀ other ∈ front ++ rest, key other ≠ key item := fun other member same =>
    distinct.1 (List.mem_map.mpr ⟨other, member, same⟩)
  exact ⟨fun earlier member => apart earlier (List.mem_append_left _ member), apart⟩

theorem keyed_getElem? (distinct : (items.map key).Nodup)
    (present : items[position]? = some item) : keyed key items (key item) = some item := by
  obtain ⟨front, rest, rfl, rfl⟩ := split_at_position present
  rw [keyed_middle (apart_of_distinct distinct).1, Function.update_self]

theorem keyed_set (distinct : (items.map key).Nodup) (present : items[position]? = some item)
    {new : Item} (same : key new = key item) :
    keyed key (items.set position new) =
      Function.update (keyed key items) (key item) (some new) := by
  obtain ⟨front, rest, rfl, rfl⟩ := split_at_position present
  obtain ⟨apart, _⟩ := apart_of_distinct distinct
  rw [set_at_split, keyed_middle apart, keyed_middle (same ▸ apart), same, Function.update_idem]

theorem keyed_eraseIdx (distinct : (items.map key).Nodup)
    (present : items[position]? = some item) :
    keyed key (items.eraseIdx position) = Function.update (keyed key items) (key item) none := by
  obtain ⟨front, rest, rfl, rfl⟩ := split_at_position present
  obtain ⟨apart, others⟩ := apart_of_distinct distinct
  have absent : keyed key (front ++ rest) (key item) = none := keyed_eq_none_iff.mpr others
  rw [eraseIdx_at_split, keyed_middle apart, Function.update_idem, ← absent,
    Function.update_eq_self]

end

end

/-- What is left when a key is taken out was there before. -/
theorem update_none {Key Value : Type} [DecidableEq Key] {map : Key → Option Value}
    {key other : Key} {value : Value} (found : Function.update map key none other = some value) :
    map other = some value := by
  by_cases same : other = key
  · subst same
    rw [Function.update_self] at found
    cases found
  · exact (Function.update_of_ne same ..).symm.trans found

/-- Two partial maps have the same keys, and related values under each. -/
def Agrees {Key One Other : Type} (related : One → Other → Prop) (first : Key → Option One)
    (second : Key → Option Other) : Prop :=
  ∀ key, Option.Rel related (first key) (second key)

namespace Agrees

variable {Key One Other : Type} {related : One → Other → Prop} {first : Key → Option One}
  {second : Key → Option Other}

theorem empty : Agrees related (fun _ : Key => none) fun _ => none := fun _ => .none

theorem update [DecidableEq Key] (agrees : Agrees related first second) (key : Key)
    {one : Option One} {other : Option Other} (values : Option.Rel related one other) :
    Agrees related (Function.update first key one) (Function.update second key other) := by
  intro wanted
  by_cases same : wanted = key
  · subst same
    rw [Function.update_self, Function.update_self]
    exact values
  · rw [Function.update_of_ne same, Function.update_of_ne same]
    exact agrees wanted

theorem left (agrees : Agrees related first second) {key : Key} {other : Other}
    (found : second key = some other) : ∃ one, first key = some one ∧ related one other := by
  have values := agrees key
  rw [found] at values
  cases value : first key with
  | none =>
      rw [value] at values
      cases values
  | some one =>
      rw [value] at values
      cases values with
      | some holds => exact ⟨one, rfl, holds⟩

theorem right (agrees : Agrees related first second) {key : Key} {one : One}
    (found : first key = some one) : ∃ other, second key = some other ∧ related one other := by
  have values := agrees key
  rw [found] at values
  cases value : second key with
  | none =>
      rw [value] at values
      cases values
  | some other =>
      rw [value] at values
      cases values with
      | some holds => exact ⟨other, rfl, holds⟩

theorem none_iff (agrees : Agrees related first second) {key : Key} :
    first key = none ↔ second key = none := by
  constructor
  · intro absent
    cases value : second key with
    | none => rfl
    | some other =>
        obtain ⟨one, present, _⟩ := agrees.left value
        cases absent.symm.trans present
  · intro absent
    cases value : first key with
    | none => rfl
    | some one =>
        obtain ⟨other, present, _⟩ := agrees.right value
        cases absent.symm.trans present

end Agrees

/-- A list has one element for each key whose value is selected, which shows that value. -/
def Enumerates {Key Value Shown : Type} (selected : Value → Prop) (shows : Value → Shown → Prop)
    (map : Key → Option Value) (shown : List Shown) : Prop :=
  ∃ keys : List Key, keys.Nodup ∧
    (∀ key, key ∈ keys ↔ ∃ value, map key = some value ∧ selected value) ∧
    List.Forall₂ (fun key one => ∃ value, map key = some value ∧ shows value one) keys shown

theorem forall₂_filterMap {Item Value : Type} (content : Item → Option Value)
    (items : List Item) :
    List.Forall₂ (fun item value => content item = some value)
      (items.filter fun item => (content item).isSome) (items.filterMap content) := by
  induction items with
  | nil => exact .nil
  | cons head tail ih =>
      cases value : content head with
      | none => simpa [value] using ih
      | some one => simpa [value] using ih

namespace Agrees

variable {Key Value Item Shown : Type} [DecidableEq Key] {key : Item → Key}
  {related : Value → Item → Prop} {map : Key → Option Value} {items : List Item}
  {selected : Value → Prop} {shows : Value → Shown → Prop} {shown : List Shown}

/-- What is made of the elements accepted, in their order, enumerates the map that the list is. -/
theorem enumerates (agrees : Agrees related map (keyed key items))
    (distinct : (items.map key).Nodup) (accepts : Item → Bool)
    (same : ∀ {value item}, related value item → (accepts item = true ↔ selected value))
    (made : List.Forall₂ (fun item one => ∀ value, related value item → shows value one)
      (items.filter accepts) shown) :
    Enumerates selected shows map shown := by
  have listed : ∀ item ∈ items, keyed key items (key item) = some item := by
    intro item member
    obtain ⟨position, present⟩ := List.mem_iff_getElem?.mp member
    exact keyed_getElem? distinct present
  refine ⟨(items.filter accepts).map key, distinct.sublist (List.filter_sublist.map key), ?_, ?_⟩
  · intro wanted
    constructor
    · intro among
      obtain ⟨item, member, rfl⟩ := List.mem_map.mp among
      obtain ⟨inside, accepted⟩ := List.mem_filter.mp member
      obtain ⟨value, found, holds⟩ := agrees.left (listed item inside)
      exact ⟨value, found, (same holds).mp accepted⟩
    · rintro ⟨value, found, chosen⟩
      obtain ⟨item, keyedAt, holds⟩ := agrees.right found
      obtain ⟨inside, rfl⟩ := keyed_mem keyedAt
      exact List.mem_map.mpr ⟨item, List.mem_filter.mpr ⟨inside, (same holds).mpr chosen⟩, rfl⟩
  · have inside : ∀ item ∈ items.filter accepts, item ∈ items := fun item =>
      List.mem_of_mem_filter
    refine List.forall₂_map_left_iff.mpr
      (((List.forall₂_and_left _ _).mpr ⟨inside, made⟩).imp fun item one told => ?_)
    obtain ⟨value, found, holds⟩ := agrees.left (listed item told.1)
    exact ⟨value, found, told.2 value holds⟩

end Agrees

end Ros2Graph.Foundation
