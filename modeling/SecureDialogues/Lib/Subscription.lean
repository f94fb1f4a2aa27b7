import Mathlib.Tactic

/-!
# Reading a growing history

A subscriber follows a history that only grows, and knows the position that it has read up to. It
may lose its position and enter again at the end, or skip a part. Whatever happens, the messages of
the history are delivered in their order and none of them twice; where nothing is skipped, exactly
the messages between the two positions are delivered.
-/

namespace SecureDialogues

/-- A history of elements, some of which are messages, and how far it was read. -/
structure Subscription (α β : Type) where
  history : List α
  position : Option Nat
  delivered : List β

namespace Subscription

variable {α β : Type} (message : α → Option β)

/-- The messages of the history between two positions. -/
def between (history : List α) (start upto : Nat) : List β :=
  ((history.take upto).drop start).filterMap message

/-- What can happen. The steps that may pass over a message are made only if losses are allowed. -/
inductive Step (lossy : Prop) (s : Subscription α β) : Subscription α β → Prop
  | publish (element : α) : Step lossy s { s with history := s.history ++ [element] }
  | read (start upto : Nat) (here : s.position = some start) (forth : start ≤ upto)
    (known : upto ≤ s.history.length) :
    Step lossy s { s with
      position := some upto
      delivered := s.delivered ++ between message s.history start upto }
  | skip (start upto : Nat) (here : s.position = some start) (forth : start ≤ upto)
    (known : upto ≤ s.history.length) (allowed : lossy) :
    Step lossy s { s with position := some upto }
  | leave (allowed : lossy) : Step lossy s { s with position := none }
  | enter (allowed : lossy) : Step lossy s { s with position := some s.history.length }

variable {message} {lossy : Prop} {s s' s'' : Subscription α β}

/-! ## In order and at most once -/

variable (message) in
/-- The delivered messages are some of those up to the position, in the same order. -/
structure InOrder (s : Subscription α β) : Prop where
  known : ∀ n ∈ s.position, n ≤ s.history.length
  delivered : s.delivered.Sublist
    (between message s.history 0 (s.position.getD s.history.length))

theorem sublist_between {history history' : List α} {n m : Nat} (grown : history <+: history')
    (known : n ≤ history.length) (forth : n ≤ m) :
    (between message history 0 n).Sublist (between message history' 0 m) := by
  obtain ⟨rest, rfl⟩ := grown
  apply List.Sublist.filterMap
  simp only [List.drop_zero]
  have same : history.take n = (history ++ rest).take n := by
    rw [List.take_append_of_le_length known]
  rw [same]
  exact (List.take_prefix_take_left forth).sublist

theorem between_append (history : List α) {n m k : Nat} (first : n ≤ m) (second : m ≤ k) :
    between message history n m ++ between message history m k = between message history n k := by
  have whole : (history.take k).drop n = (history.take m).drop n ++ (history.take k).drop m := by
    have cut := List.take_append_drop (m - n) ((history.take k).drop n)
    rw [List.drop_drop, Nat.add_sub_cancel' first, List.take_drop, Nat.add_sub_cancel' first,
      List.take_take, min_eq_left second] at cut
    exact cut.symm
  rw [between, between, between, ← List.filterMap_append, ← whole]

theorem Step.inOrder (step : Step message lossy s s') (inOrder : s.InOrder message) :
    s'.InOrder message := by
  obtain ⟨known, delivered⟩ := inOrder
  have whole : (between message s.history 0 (s.position.getD s.history.length)).Sublist
      (between message s.history 0 s.history.length) := by
    cases here : s.position with
    | none => exact List.Sublist.refl _
    | some n => exact sublist_between (List.prefix_refl _) (known n here) (known n here)
  cases step with
  | publish element =>
    refine ⟨?_, ?_⟩
    · intro n here
      exact (known n here).trans (by simp)
    · apply delivered.trans
      apply sublist_between (List.prefix_append _ _)
      · cases here : s.position with
        | none => exact le_refl _
        | some n => exact known n here
      · cases s.position <;> simp
  | read start upto here forth end' =>
    rw [here] at delivered
    refine ⟨?_, ?_⟩
    · intro n same
      cases same
      exact end'
    · rw [Option.getD_some, ← between_append s.history (Nat.zero_le start) forth]
      exact delivered.append (List.Sublist.refl _)
  | skip start upto here forth end' =>
    rw [here] at delivered
    refine ⟨?_, ?_⟩
    · intro n same
      cases same
      exact end'
    · exact delivered.trans (sublist_between (List.prefix_refl _) (forth.trans end') forth)
  | leave =>
    refine ⟨?_, delivered.trans whole⟩
    intro n same
    cases same
  | enter =>
    refine ⟨?_, delivered.trans whole⟩
    intro n same
    cases same
    exact le_refl _

/-! ## Exactly once -/

variable (message) in
/-- From a known position on, exactly the messages up to the later position are delivered. -/
def Continues (s s' : Subscription α β) : Prop :=
  ∀ n, s.position = some n → n ≤ s.history.length →
    ∃ m, s'.position = some m ∧ n ≤ m ∧ m ≤ s'.history.length ∧ s.history <+: s'.history ∧
      s'.delivered = s.delivered ++ between message s'.history n m

theorem Continues.refl (s : Subscription α β) : Continues message s s := by
  intro n here known
  refine ⟨n, here, le_refl n, known, List.prefix_refl _, ?_⟩
  simp [between]

theorem between_of_prefix {history history' : List α} (grown : history <+: history') {n m : Nat}
    (known : m ≤ history.length) :
    between message history' n m = between message history n m := by
  obtain ⟨rest, rfl⟩ := grown
  rw [between, between, List.take_append_of_le_length known]

theorem Continues.trans (first : Continues message s s') (second : Continues message s' s'') :
    Continues message s s'' := by
  intro n here known
  obtain ⟨m, here', forth, known', grown, delivered⟩ := first n here known
  obtain ⟨k, here'', forth', known'', grown', delivered'⟩ := second m here' known'
  refine ⟨k, here'', forth.trans forth', known'', grown.trans grown', ?_⟩
  rw [delivered', delivered, ← between_of_prefix grown' known', List.append_assoc,
    between_append _ forth forth']

theorem Step.continues (step : Step message False s s') : Continues message s s' := by
  intro n here known
  cases step with
  | publish element =>
    refine ⟨n, here, le_refl n, known.trans (by simp), List.prefix_append _ _, ?_⟩
    simp [between]
  | read start upto here' forth end' =>
    obtain rfl : start = n := Option.some.inj (here'.symm.trans here)
    exact ⟨upto, rfl, forth, end', List.prefix_refl _, rfl⟩
  | skip start upto here' forth end' allowed => exact allowed.elim
  | leave allowed => exact allowed.elim
  | enter allowed => exact allowed.elim

/-! ## Runs -/

variable (message lossy) in
/-- Any number of steps. -/
abbrev Steps : Subscription α β → Subscription α β → Prop :=
  Relation.ReflTransGen (Step message lossy)

theorem Steps.inOrder (steps : Steps message lossy s s') (inOrder : s.InOrder message) :
    s'.InOrder message := by
  induction steps with
  | refl => exact inOrder
  | tail _ step ih => exact step.inOrder ih

theorem Steps.continues (steps : Steps message False s s') : Continues message s s' := by
  induction steps with
  | refl => exact .refl s
  | tail _ step ih => exact ih.trans step.continues

end Subscription

end SecureDialogues
