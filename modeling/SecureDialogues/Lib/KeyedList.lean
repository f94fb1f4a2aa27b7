import Mathlib.Data.List.Nodup
import Mathlib.Tactic

/-!
# Lists with one element for each key

A collection with distinct keys, kept in the order in which its elements were added, and the rows of a
view that follows its events. A view finds the first row of a key; since the keys are distinct, it is
the only one, so that the rows stay those of a view made anew.
-/

namespace SecureDialogues

variable {K E R : Type} [DecidableEq K]

/-! ## The collection -/

/-- The elements, each with a key of its own. -/
structure KeyedList (key : E → K) where
  elements : List E
  distinct : (elements.map key).Nodup

/-- What the listeners of a collection are told. -/
inductive KeyedEvent (E : Type) where
  | added (element : E)
  | changed (element : E)
  | removed (element : E)
  deriving DecidableEq, Repr

namespace KeyedList

variable {key : E → K} (s : KeyedList key)

def keys : List K := s.elements.map key

/-- Only absent elements are added, and only present ones are changed and removed. -/
def Accepts : KeyedEvent E → Prop
  | .added element => key element ∉ s.keys
  | .changed element => key element ∈ s.keys
  | .removed element => key element ∈ s.keys

instance decidableAccepts : (event : KeyedEvent E) → Decidable (s.Accepts event)
  | .added element => inferInstanceAs (Decidable (key element ∉ s.keys))
  | .changed element => inferInstanceAs (Decidable (key element ∈ s.keys))
  | .removed element => inferInstanceAs (Decidable (key element ∈ s.keys))

/-- An element takes the place of the one with its key. -/
def replaced (key : E → K) (element : E) : List E → List E :=
  List.map fun old => if key old = key element then element else old

theorem map_key_replaced (element : E) (elements : List E) :
    (replaced key element elements).map key = elements.map key := by
  rw [replaced, List.map_map]
  apply List.map_congr_left
  intro old _
  by_cases same : key old = key element <;> simp [same]

/-- The collection after an event that it accepts. -/
def next : (event : KeyedEvent E) → s.Accepts event → KeyedList key
  | .added element, accepted => {
      elements := s.elements ++ [element]
      distinct := by
        rw [List.map_append]
        exact s.distinct.append (List.nodup_singleton _) (List.disjoint_singleton.mpr accepted) }
  | .changed element, _ => {
      elements := replaced key element s.elements
      distinct := by
        rw [map_key_replaced]
        exact s.distinct }
  | .removed element, _ => {
      elements := s.elements.filter fun old => key old ≠ key element
      distinct := s.distinct.sublist (List.filter_sublist.map key) }

variable {s}

/-- The element of a key is found. -/
theorem find?_key {element : E} (member : element ∈ s.elements) :
    (s.elements.find? fun x => key x = key element) = some element := by
  have present : (s.elements.find? fun x => key x = key element).isSome :=
    List.find?_isSome.mpr ⟨element, member, decide_eq_true rfl⟩
  obtain ⟨found, eq⟩ := Option.isSome_iff_exists.mp present
  have same : key found = key element := by simpa using List.find?_some eq
  rw [eq, List.inj_on_of_nodup_map s.distinct (List.mem_of_find?_eq_some eq) member same]

theorem keys_added {element : E} (accepted : s.Accepts (.added element)) :
    (s.next (.added element) accepted).keys = s.keys ++ [key element] := List.map_append

theorem keys_changed {element : E} (accepted : s.Accepts (.changed element)) :
    (s.next (.changed element) accepted).keys = s.keys := map_key_replaced element s.elements

theorem keys_removed {element : E} (accepted : s.Accepts (.removed element)) :
    (s.next (.removed element) accepted).keys ⊆ s.keys :=
  (List.filter_sublist.map key).subset

end KeyedList

/-! ## The rows -/

section

variable (key : R → K)

/-- The first row of a key is changed in its place. -/
def modifyFirst (k : K) (change : R → R) (rows : List R) : List R :=
  rows.modify (rows.findIdx fun row => key row = k) change

/-- The first row of a key is erased. -/
def eraseFirst (k : K) (rows : List R) : List R :=
  rows.eraseIdx (rows.findIdx fun row => key row = k)

end

variable {key : R → K}

/-- No row of a key other than the first one is passed over. -/
theorem modifyFirst_eq_map {rows : List R} (distinct : (rows.map key).Nodup) (k : K)
    (change : R → R) : modifyFirst key k change rows =
      rows.map fun row => if key row = k then change row else row := by
  induction rows with
  | nil => rfl
  | cons row rest ih =>
    obtain ⟨fresh, distinct⟩ := List.nodup_cons.mp distinct
    by_cases here : key row = k
    · have others : ∀ other ∈ rest, (if key other = k then change other else other) = other := by
        intro other member
        apply if_neg
        rintro same
        exact fresh (List.mem_map.mpr ⟨other, member, same.trans here.symm⟩)
      simp [modifyFirst, List.findIdx_cons, here, List.map_congr_left others]
    · have later := ih distinct
      rw [modifyFirst] at later
      simp [modifyFirst, List.findIdx_cons, here, later]

theorem eraseFirst_eq_filter {rows : List R} (distinct : (rows.map key).Nodup) (k : K) :
    eraseFirst key k rows = rows.filter fun row => key row ≠ k := by
  induction rows with
  | nil => rfl
  | cons row rest ih =>
    obtain ⟨fresh, distinct⟩ := List.nodup_cons.mp distinct
    by_cases here : key row = k
    · have others : ∀ other ∈ rest, key other ≠ k := by
        intro other member same
        exact fresh (List.mem_map.mpr ⟨other, member, same.trans here.symm⟩)
      have kept : rest.filter (fun other => key other ≠ k) = rest := by
        apply List.filter_eq_self.mpr
        simpa using others
      simpa [eraseFirst, List.findIdx_cons, here] using kept.symm
    · have later := ih distinct
      rw [eraseFirst] at later
      simpa [eraseFirst, List.findIdx_cons, here] using later

theorem modifyFirst_perm {rows rows' : List R} (perm : rows.Perm rows')
    (distinct : (rows'.map key).Nodup) (k : K) (change : R → R) :
    (modifyFirst key k change rows).Perm (modifyFirst key k change rows') := by
  rw [modifyFirst_eq_map ((perm.map key).nodup_iff.mpr distinct), modifyFirst_eq_map distinct]
  exact perm.map _

theorem eraseFirst_perm {rows rows' : List R} (perm : rows.Perm rows')
    (distinct : (rows'.map key).Nodup) (k : K) :
    (eraseFirst key k rows).Perm (eraseFirst key k rows') := by
  rw [eraseFirst_eq_filter ((perm.map key).nodup_iff.mpr distinct), eraseFirst_eq_filter distinct]
  exact perm.filter _

/-! ## Views

`f` and `g` show the elements before and after an event. -/

namespace KeyedList

variable {rowKey : R → K} {elementKey : E → K} {s : KeyedList elementKey} {f g : E → R}

section

variable (shown : ∀ x ∈ s.elements, rowKey (f x) = elementKey x)

include shown

omit [DecidableEq K] in
theorem distinct_map : ((s.elements.map f).map rowKey).Nodup := by
  have same : s.elements.map (rowKey ∘ f) = s.elements.map elementKey := List.map_congr_left shown
  rw [List.map_map, same]
  exact s.distinct

theorem map_modifyFirst {k : K} {change : R → R}
    (here : ∀ x ∈ s.elements, elementKey x = k → change (f x) = g x)
    (others : ∀ x ∈ s.elements, elementKey x ≠ k → f x = g x) :
    modifyFirst rowKey k change (s.elements.map f) = s.elements.map g := by
  rw [modifyFirst_eq_map (distinct_map shown), List.map_map]
  apply List.map_congr_left
  intro x member
  rw [Function.comp_apply, shown x member]
  by_cases same : elementKey x = k
  · rw [if_pos same, here x member same]
  · rw [if_neg same, others x member same]

theorem map_changed {element : E} (accepted : s.Accepts (.changed element)) {change : R → R}
    (here : ∀ x ∈ s.elements, elementKey x = elementKey element → change (f x) = g element)
    (others : ∀ x ∈ s.elements, elementKey x ≠ elementKey element → f x = g x) :
    (s.next (.changed element) accepted).elements.map g =
      modifyFirst rowKey (elementKey element) change (s.elements.map f) := by
  rw [modifyFirst_eq_map (distinct_map shown), List.map_map]
  show (replaced elementKey element s.elements).map g = _
  rw [replaced, List.map_map]
  apply List.map_congr_left
  intro x member
  rw [Function.comp_apply, Function.comp_apply, shown x member]
  by_cases same : elementKey x = elementKey element
  · rw [if_pos same, if_pos same, here x member same]
  · rw [if_neg same, if_neg same, others x member same]

theorem map_removed {element : E} (accepted : s.Accepts (.removed element))
    (others : ∀ x ∈ s.elements, elementKey x ≠ elementKey element → f x = g x) :
    (s.next (.removed element) accepted).elements.map g =
      eraseFirst rowKey (elementKey element) (s.elements.map f) := by
  rw [eraseFirst_eq_filter (distinct_map shown), List.filter_map]
  have same : s.elements.filter ((fun row => decide (rowKey row ≠ elementKey element)) ∘ f) =
      s.elements.filter fun x => elementKey x ≠ elementKey element := by
    apply List.filter_congr
    intro x member
    simp [shown x member]
  rw [same]
  apply List.map_congr_left
  intro x member
  obtain ⟨inside, different⟩ := List.mem_filter.mp member
  exact (others x inside (by simpa using different)).symm

end

theorem map_added {element : E} (accepted : s.Accepts (.added element))
    (others : ∀ x ∈ s.elements, elementKey x ≠ elementKey element → f x = g x) :
    (s.next (.added element) accepted).elements.map g = s.elements.map f ++ [g element] := by
  show (s.elements ++ [element]).map g = _
  rw [List.map_append]
  congr 1
  apply List.map_congr_left
  intro x member
  refine (others x member ?_).symm
  intro same
  exact accepted (List.mem_map.mpr ⟨x, member, same⟩)

end KeyedList

end SecureDialogues
