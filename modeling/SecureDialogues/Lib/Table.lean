import SecureDialogues.Lib.Text

/-!
# Sorted tables

`std::map` and the key-value stores of the program: extensional tree maps, which the standard
library keeps sorted by key, over byte strings and over pairs of a byte string and a number.
-/

namespace SecureDialogues.Text

/-- `std::map<std::string, V>`. -/
abbrev Table (V : Type) := Std.ExtTreeMap Str V compare

/-- A key made of a name and a number. -/
abbrev NumberedKey (w : Nat) := Str × BitVec w

/-- The order of `std::pair`. -/
def numberedCompare {w : Nat} : NumberedKey w → NumberedKey w → Ordering :=
  compareLex (compareOn Prod.fst) (compareOn fun key => key.2.toNat)

instance {w : Nat} : Std.TransCmp (numberedCompare (w := w)) :=
  inferInstanceAs (Std.TransCmp (compareLex _ _))

instance {w : Nat} : Std.LawfulEqCmp (numberedCompare (w := w)) where
  eq_of_compare {a b} same := by
    obtain ⟨nameA, numberA⟩ := a
    obtain ⟨nameB, numberB⟩ := b
    simp only [numberedCompare, compareLex, compareOn, Ordering.then_eq_eq,
      Std.compare_eq_iff_eq] at same
    rw [same.1, BitVec.eq_of_toNat_eq same.2]

/-- `std::map<std::pair<std::string, unsigned long>, V>`. -/
abbrev NumberedTable (w : Nat) (V : Type) := Std.ExtTreeMap (NumberedKey w) V numberedCompare

section

variable {K V : Type} [DecidableEq K] {cmp : K → K → Ordering} [Std.TransCmp cmp]
  [Std.LawfulEqCmp cmp] (table : Std.ExtTreeMap K V cmp) (key other : K) (value : V)

theorem getElem?_insert : (table.insert key value)[other]? =
    if key = other then some value else table[other]? := by
  simp only [Std.ExtTreeMap.getElem?_insert, Std.LawfulEqCmp.compare_eq_iff_eq]

theorem getElem?_erase : (table.erase key)[other]? =
    if key = other then none else table[other]? := by
  simp only [Std.ExtTreeMap.getElem?_erase, Std.LawfulEqCmp.compare_eq_iff_eq]

theorem getElem?_insertIfNew : (table.insertIfNew key value)[other]? =
    if key = other ∧ table[key]? = none then some value else table[other]? := by
  simp [Std.ExtTreeMap.getElem?_insertIfNew]

omit [DecidableEq K] in
/-- Entries of a kind that only one key has are the entry of that key, if it is of the kind. -/
theorem filter_toList_of_key {kind : K × V → Bool}
    (only : ∀ entry ∈ table.toList, kind entry = true → entry.1 = key) :
    table.toList.filter kind = (table[key]?.map (key, ·)).toList.filter kind := by
  have distinct : table.toList.Pairwise fun a b => a.1 ≠ b.1 := by
    apply table.distinct_keys_toList.imp
    intro a b different same
    exact different (Std.LawfulEqCmp.compare_eq_iff_eq.mpr same)
  have lookup : ∀ v, (key, v) ∈ table.toList ↔ table[key]? = some v :=
    fun v => Std.ExtTreeMap.mem_toList_iff_getElem?_eq_some
  cases found : table[key]? with
  | none =>
    apply List.filter_eq_nil_iff.mpr
    intro entry member holds
    have here : entry = (key, entry.2) := by rw [← only entry member holds]
    rw [here, lookup, found] at member
    cases member
  | some v =>
    obtain ⟨front, back, split⟩ := List.append_of_mem ((lookup v).mpr found)
    rw [split, List.pairwise_append] at distinct
    have others : ∀ entry ∈ front ++ back, ¬ kind entry = true := by
      intro entry member holds
      have inside : entry ∈ table.toList := by
        rw [split]
        simp only [List.mem_append, List.mem_cons] at member ⊢
        tauto
      have same := only entry inside holds
      rcases List.mem_append.mp member with before | behind
      · exact distinct.2.2 entry before (key, v) List.mem_cons_self same
      · exact (List.pairwise_cons.mp distinct.2.1).1 entry behind same.symm
    rw [split, List.filter_append, List.filter_cons,
      List.filter_eq_nil_iff.mpr fun entry member => others entry (List.mem_append_left _ member),
      List.filter_eq_nil_iff.mpr fun entry member => others entry (List.mem_append_right _ member)]
    simp [List.filter_cons]

end

end SecureDialogues.Text
