import SecureDialogues.Utils.TimeoutedRepository
import SecureDialogues.Lib.Run

/-!
# What becomes of a pending delivery

`TimeoutedRrepository` of `messages/src/utils/timeoutedrepository.h` over a history of its
operations. The repository never looks at its elements, so the histories store each handler together
with the number of the operation that stores it: two deliveries are told apart even if their
handlers are equal.
-/

namespace SecureDialogues.TimeoutedRrepository

open Text Run

variable {T K : Type} [DecidableEq K] {cmp : K → K → Ordering} [Std.TransCmp cmp]
  [Std.LawfulEqCmp cmp]

/-- The two functions that an element type brings along (`timeoutedrepository.h:10-15`). -/
inductive Callback where
  | removed
  | timeouted
  deriving DecidableEq, Repr

/-- `mValues` (`timeoutedrepository.h:58`). -/
abbrev Values (T K : Type) (cmp : K → K → Ordering) := Std.ExtTreeMap K (StoredElement T) cmp

/-! ## The operations -/

section

variable (mValues : Values T K cmp)

/-- `store` with a timeout in seconds (`timeoutedrepository.h:94-109`); `now` is what
`system_clock::now` returns. -/
def store (now : Int) (obj : T) (key : K) (timeout : Int) : Bool × Values T K cmp :=
  if mValues.contains key then (false, mValues)
  else (true, mValues.insertIfNew key { element := obj, validTo := now + timeout * nanoseconds })

/-- `remove` (`timeoutedrepository.h:111-124`), with the callback that it runs. -/
def remove (k : K) : Bool × List (T × Callback) × Values T K cmp :=
  match mValues[k]? with
  | none => (false, [], mValues)
  | some it => (true, [(it.element, .removed)], mValues.erase k)

/-- The body of the loop in `checkInThread`, at one entry. -/
def checkEntry (now : Int) (state : List (T × Callback) × Values T K cmp)
    (it : K × StoredElement T) : List (T × Callback) × Values T K cmp :=
  if it.2.validTo > now then state
  else (state.1 ++ [(it.2.element, .timeouted)], state.2.erase it.1)

/-- `checkInThread` (`timeoutedrepository.h:126-141`): the loop visits the entries in the order of
their keys, and erases none but the one it is at. -/
def checkInThread (now : Int) : List (T × Callback) × Values T K cmp :=
  mValues.toList.foldl (checkEntry now) ([], mValues)

end

/-! ## What each operation does -/

section

variable {mValues : Values T K cmp} {key other : K}

omit [DecidableEq K] [Std.LawfulEqCmp cmp] in
theorem store_of_pending (pending : mValues[key]?.isSome) (now : Int) (obj : T) (timeout : Int) :
    store mValues now obj key timeout = (false, mValues) := by
  rw [store, Std.ExtTreeMap.contains_eq_isSome_getElem?, if_pos pending]

theorem getElem?_store (fresh : mValues[key]? = none) (other : K) (now : Int) (obj : T)
    (timeout : Int) : (store mValues now obj key timeout).1 = true ∧
    (store mValues now obj key timeout).2[other]? = if key = other then
      some { element := obj, validTo := now + timeout * nanoseconds } else mValues[other]? := by
  rw [store, Std.ExtTreeMap.contains_eq_isSome_getElem?, fresh]
  simp [getElem?_insertIfNew, fresh]

theorem getElem?_remove : (remove mValues key).2.2[other]? =
    if key = other then none else mValues[other]? := by
  unfold remove
  split
  · rename_i fresh
    split
    · rename_i same
      rw [← same, fresh]
    · rfl
  · exact getElem?_erase _ _ _

omit [DecidableEq K] [Std.LawfulEqCmp cmp] in
/-- The entries that the loop has still to visit give the callbacks that it still runs. -/
theorem foldl_checkEntry_calls (now : Int) (entries : List (K × StoredElement T))
    (state : List (T × Callback) × Values T K cmp) :
    (entries.foldl (checkEntry now) state).1 = state.1 ++
      (entries.filter fun it => it.2.validTo ≤ now).map fun it => (it.2.element, .timeouted) := by
  induction entries generalizing state with
  | nil => simp
  | cons it rest ih =>
    rw [List.foldl_cons, ih, checkEntry]
    by_cases early : it.2.validTo > now
    · simp [early]
    · simp [early, show it.2.validTo ≤ now by omega]

theorem foldl_checkEntry_values (now : Int) (entries : List (K × StoredElement T))
    (state : List (T × Callback) × Values T K cmp) :
    (entries.foldl (checkEntry now) state).2[key]? =
      if entries.any fun it => it.1 = key ∧ it.2.validTo ≤ now then none else state.2[key]? := by
  induction entries generalizing state with
  | nil => simp
  | cons it rest ih =>
    rw [List.foldl_cons, ih, checkEntry]
    rw [List.any_cons]
    by_cases early : it.2.validTo > now
    · have visited : decide (it.1 = key ∧ it.2.validTo ≤ now) = false := by
        apply decide_eq_false
        omega
      rw [if_pos early, visited, Bool.false_or]
    · rw [if_neg early, getElem?_erase]
      by_cases here : it.1 = key
      · have visited : decide (it.1 = key ∧ it.2.validTo ≤ now) = true :=
          decide_eq_true ⟨here, by omega⟩
        rw [visited, Bool.true_or, if_pos rfl, if_pos here, ite_self]
      · have visited : decide (it.1 = key ∧ it.2.validTo ≤ now) = false := by
          apply decide_eq_false
          exact fun both => here both.1
        rw [visited, Bool.false_or, if_neg here]

omit [DecidableEq K] [Std.LawfulEqCmp cmp] in
theorem checkInThread_calls (now : Int) : (checkInThread mValues now).1 =
    (mValues.toList.filter fun it => it.2.validTo ≤ now).map
      fun it => (it.2.element, .timeouted) := by
  rw [checkInThread, foldl_checkEntry_calls, List.nil_append]

/-- The scan erases an entry exactly if its time is over. -/
theorem getElem?_checkInThread (now : Int) : (checkInThread mValues now).2[key]? =
    mValues[key]?.filter fun it => now < it.validTo := by
  have listed : (mValues.toList.any fun it => it.1 = key ∧ it.2.validTo ≤ now) = true ↔
      ∃ stored, mValues[key]? = some stored ∧ stored.validTo ≤ now := by
    rw [List.any_eq_true]
    constructor
    · intro ⟨it, member, due⟩
      obtain ⟨here, late⟩ := of_decide_eq_true due
      refine ⟨it.2, ?_, late⟩
      rw [← here]
      exact Std.ExtTreeMap.mem_toList_iff_getElem?_eq_some.mp member
    · intro ⟨stored, found, late⟩
      exact ⟨(key, stored), Std.ExtTreeMap.mem_toList_iff_getElem?_eq_some.mpr found,
        decide_eq_true ⟨rfl, late⟩⟩
  rw [checkInThread, foldl_checkEntry_values]
  cases found : mValues[key]? with
  | none => simp
  | some stored =>
    by_cases late : stored.validTo ≤ now
    · rw [if_pos (listed.mpr ⟨stored, found, late⟩)]
      simp [Option.filter_some, late]
    · rw [if_neg]
      · simp [Option.filter_some, late]
      · intro due
        obtain ⟨stored', found', late'⟩ := listed.mp due
        cases found.symm.trans found'
        exact late late'

end

/-! ## Histories -/

/-- A call on the repository, with what the clock says where it is read. -/
inductive Operation (T K : Type) where
  | store (now : Int) (obj : T) (key : K) (timeout : Int)
  | remove (key : K)
  | checkInThread (now : Int)

/-- The repository, the number of operations so far and all callbacks in their order. A delivery is
the number of the operation that stored it and its handler. -/
structure Log (T K : Type) (cmp : K → K → Ordering) where
  mValues : Values (Nat × T) K cmp
  count : Nat
  calls : List ((Nat × T) × Callback)

namespace Log

def start : Log T K cmp := ⟨∅, 0, []⟩

/-- The log after one more operation. -/
def step (log : Log T K cmp) : Operation T K → Log T K cmp
  | .store now obj key timeout =>
    { log with
      mValues := (store log.mValues now (log.count, obj) key timeout).2
      count := log.count + 1 }
  | .remove key =>
    { mValues := (remove log.mValues key).2.2
      count := log.count + 1
      calls := log.calls ++ (remove log.mValues key).2.1 }
  | .checkInThread now =>
    { mValues := (checkInThread log.mValues now).2
      count := log.count + 1
      calls := log.calls ++ (checkInThread log.mValues now).1 }

/-- The callbacks that a delivery has received. -/
def received (log : Log T K cmp) (number : Nat) : List Callback :=
  (log.calls.filter fun call => call.1.1 = number).map (·.2)

end Log

/-- The callback that an operation means for a delivery that is pending under a key until a time. -/
def ends (key : K) (validTo : Int) : Operation T K → Option Callback
  | .store .. => none
  | .remove other => if other = key then some .removed else none
  | .checkInThread now => if validTo ≤ now then some .timeouted else none

/-- What becomes of a delivery in the operations after its own: its first end, if there is one. -/
def fate (key : K) (validTo : Int) (later : List (Operation T K)) : Option Callback :=
  later.findSome? (ends key validTo)

/-- The delivery waits in the repository, alone with its number, and has received nothing. -/
structure Waits (number : Nat) (obj : T) (key : K) (validTo : Int) (log : Log T K cmp) : Prop where
  stored : log.mValues[key]? = some ⟨(number, obj), validTo⟩
  alone : ∀ (other : K) it, log.mValues[other]? = some it → it.element.1 = number → other = key
  earlier : number < log.count
  silent : log.received number = []

/-- The delivery has left the repository, or never came in, with the callbacks it has received. -/
structure Left (number : Nat) (called : List Callback) (log : Log T K cmp) : Prop where
  absent : ∀ (other : K) it, log.mValues[other]? = some it → it.element.1 ≠ number
  earlier : number < log.count
  received : log.received number = called

/-- What has become of a delivery. -/
def Outcome (number : Nat) (obj : T) (key : K) (validTo : Int) (log : Log T K cmp) :
    Option Callback → Prop
  | none => Waits number obj key validTo log
  | some callback => Left number [callback] log

/-! ## What one operation means for a delivery -/

section

variable {log : Log T K cmp} {number : Nat}

/-- An entry after an operation was there before or belongs to this operation. -/
theorem entry_of_step {operation : Operation T K} {key : K} {it : StoredElement (Nat × T)}
    (found : (log.step operation).mValues[key]? = some it) :
    log.mValues[key]? = some it ∨ it.element.1 = log.count := by
  cases operation with
  | store now obj other timeout =>
    cases pending : log.mValues[other]? with
    | some stored =>
      rw [Log.step, store_of_pending (by rw [pending]; rfl)] at found
      exact .inl found
    | none =>
      rw [Log.step, (getElem?_store pending _ now (log.count, obj) timeout).2] at found
      split at found
      · cases found
        exact .inr rfl
      · exact .inl found
  | remove other =>
    rw [Log.step, getElem?_remove] at found
    split at found
    · cases found
    · exact .inl found
  | checkInThread now =>
    rw [Log.step, getElem?_checkInThread] at found
    exact .inl (Option.filter_eq_some_iff.mp found).1

omit [DecidableEq K] [Std.LawfulEqCmp cmp] in
theorem count_step (operation : Operation T K) : (log.step operation).count = log.count + 1 := by
  cases operation <;> rfl

omit [DecidableEq K] [Std.LawfulEqCmp cmp] in
/-- A scan calls the due entries back. -/
theorem received_checkInThread (log : Log T K cmp) (number : Nat) (now : Int) :
    (log.step (.checkInThread now)).received number = log.received number ++
      (log.mValues.toList.filter fun it =>
        it.2.validTo ≤ now ∧ it.2.element.1 = number).map fun _ => .timeouted := by
  simp only [Log.received, Log.step, checkInThread_calls, List.filter_append, List.map_append,
    List.filter_map, List.map_map, List.filter_filter]
  congr 1
  simp [Function.comp_def, Bool.and_comm]

omit [DecidableEq K] [Std.LawfulEqCmp cmp] in
theorem received_remove (key : K) : (log.step (.remove key)).received number =
    log.received number ++ ((log.mValues[key]?).toList.filter fun it =>
      it.element.1 = number).map fun _ => .removed := by
  simp only [Log.received, Log.step, remove]
  cases found : log.mValues[key]? with
  | none => simp
  | some it => by_cases same : it.element.1 = number <;> simp [same]

omit [DecidableEq K] in
/-- A delivery that no entry belongs to receives nothing. -/
theorem received_of_absent {operation : Operation T K}
    (absent : ∀ (other : K) it, log.mValues[other]? = some it → it.element.1 ≠ number) :
    (log.step operation).received number = log.received number := by
  cases operation with
  | store now obj key timeout => rfl
  | remove key =>
    rw [received_remove]
    cases found : log.mValues[key]? with
    | none => simp
    | some it => simp [absent key it found]
  | checkInThread now =>
    have none_due : (log.mValues.toList.filter fun it =>
        it.2.validTo ≤ now ∧ it.2.element.1 = number) = [] := by
      apply List.filter_eq_nil_iff.mpr
      intro it member due
      exact absent it.1 it.2 (Std.ExtTreeMap.mem_toList_iff_getElem?_eq_some.mp member)
        (of_decide_eq_true due).2
    rw [received_checkInThread, none_due, List.map_nil, List.append_nil]

theorem Left.step {called : List Callback} (left : Left number called log)
    (operation : Operation T K) : Left number called (log.step operation) where
  absent := by
    intro other it found
    rcases entry_of_step found with old | new
    · exact left.absent other it old
    · rw [new]
      exact Nat.ne_of_gt left.earlier
  earlier := by
    rw [count_step]
    exact Nat.lt_succ_of_lt left.earlier
  received := by rw [received_of_absent left.absent, left.received]

variable {obj : T} {key : K} {validTo : Int}

/-- A delivery that stays alone in the repository and receives nothing goes on waiting. -/
theorem Waits.stay (waits : Waits number obj key validTo log) {operation : Operation T K}
    (stored : (log.step operation).mValues[key]? = some ⟨(number, obj), validTo⟩)
    (silent : (log.step operation).received number = log.received number) :
    Waits number obj key validTo (log.step operation) where
  stored := stored
  alone := by
    intro other it found same
    rcases entry_of_step found with old | new
    · exact waits.alone other it old same
    · rw [new] at same
      exact absurd same (Nat.ne_of_gt waits.earlier)
  earlier := by
    rw [count_step]
    exact Nat.lt_succ_of_lt waits.earlier
  silent := by rw [silent, waits.silent]

/-- A delivery whose entry goes with a callback has left. -/
theorem Waits.leave (waits : Waits number obj key validTo log) {operation : Operation T K}
    {callback : Callback} (gone : (log.step operation).mValues[key]? = none)
    (called : (log.step operation).received number = log.received number ++ [callback]) :
    Left number [callback] (log.step operation) where
  absent := by
    intro other it found same
    rcases entry_of_step found with old | new
    · have here := waits.alone other it old same
      rw [here, gone] at found
      cases found
    · rw [new] at same
      exact absurd same (Nat.ne_of_gt waits.earlier)
  earlier := by
    rw [count_step]
    exact Nat.lt_succ_of_lt waits.earlier
  received := by rw [called, waits.silent, List.nil_append]

/-- An operation ends a delivery as it should, or leaves it waiting. -/
theorem Waits.step (waits : Waits number obj key validTo log) (operation : Operation T K) :
    Outcome number obj key validTo (log.step operation) (ends key validTo operation) := by
  cases operation with
  | store now other name timeout =>
    apply waits.stay _ rfl
    cases pending : log.mValues[name]? with
    | some it =>
      rw [Log.step, store_of_pending (by rw [pending]; rfl)]
      exact waits.stored
    | none =>
      have different : name ≠ key := by
        intro same
        rw [same, waits.stored] at pending
        cases pending
      rw [Log.step, (getElem?_store pending _ now (log.count, other) timeout).2, if_neg different]
      exact waits.stored
  | remove name =>
    by_cases same : name = key
    · rw [ends, if_pos same]
      apply waits.leave
      · rw [Log.step, getElem?_remove, if_pos same]
      · simp [received_remove, same, waits.stored]
    · rw [ends, if_neg same]
      apply waits.stay
      · rw [Log.step, getElem?_remove, if_neg same]
        exact waits.stored
      · rw [received_remove]
        cases found : log.mValues[name]? with
        | none => simp
        | some it =>
          have foreign : it.element.1 ≠ number := fun own => same (waits.alone name it found own)
          simp [foreign]
  | checkInThread now =>
    have only : ∀ it ∈ log.mValues.toList,
        decide (it.2.validTo ≤ now ∧ it.2.element.1 = number) = true → it.1 = key := by
      intro it member due
      exact waits.alone it.1 it.2 (Std.ExtTreeMap.mem_toList_iff_getElem?_eq_some.mp member)
        (of_decide_eq_true due).2
    have received := received_checkInThread log number now
    rw [filter_toList_of_key _ _ only, waits.stored] at received
    by_cases late : validTo ≤ now
    · rw [ends, if_pos late]
      apply waits.leave
      · rw [Log.step, getElem?_checkInThread, waits.stored]
        simp [Option.filter_some, late]
      · simp [received, late]
    · rw [ends, if_neg late]
      apply waits.stay
      · rw [Log.step, getElem?_checkInThread, waits.stored]
        simp [Option.filter_some, show now < validTo by omega]
      · simp [received, late]

theorem Left.after {called : List Callback} (left : Left number called log)
    (later : List (Operation T K)) : Left number called (after Log.step log later) := by
  induction later generalizing log with
  | nil => exact left
  | cons operation rest ih => exact ih (left.step operation)

/-- A waiting delivery meets its fate. -/
theorem Waits.after (waits : Waits number obj key validTo log) (later : List (Operation T K)) :
    Outcome number obj key validTo (after Log.step log later) (fate key validTo later) := by
  induction later generalizing log with
  | nil => exact waits
  | cons operation rest ih =>
    have next := waits.step operation
    rw [fate, List.findSome?_cons]
    cases ended : ends key validTo operation with
    | none =>
      rw [ended] at next
      exact ih next
    | some callback =>
      rw [ended] at next
      exact next.after rest

end

/-! ## Numbers of deliveries -/

/-- Whatever waits or was called back is from an earlier operation. -/
structure Numbered (log : Log T K cmp) : Prop where
  entries : ∀ (key : K) it, log.mValues[key]? = some it → it.element.1 < log.count
  calls : ∀ call ∈ log.calls, call.1.1 < log.count

/-- The log after a history. -/
abbrev history (operations : List (Operation T K)) : Log T K cmp := after Log.step Log.start operations

omit [DecidableEq K] in
theorem calls_of_step {log : Log T K cmp} {operation : Operation T K} {call : (Nat × T) × Callback}
    (member : call ∈ (log.step operation).calls) :
    call ∈ log.calls ∨ ∃ (key : K) (it : StoredElement (Nat × T)),
      log.mValues[key]? = some it ∧ it.element = call.1 := by
  cases operation with
  | store now obj key timeout => exact .inl member
  | remove key =>
    rcases List.mem_append.mp member with old | new
    · exact .inl old
    · rw [remove] at new
      split at new
      · cases new
      · rename_i it found
        cases List.mem_singleton.mp new
        exact .inr ⟨key, it, found, rfl⟩
  | checkInThread now =>
    rcases List.mem_append.mp member with old | new
    · exact .inl old
    · rw [checkInThread_calls] at new
      obtain ⟨it, due, rfl⟩ := List.mem_map.mp new
      exact .inr ⟨it.1, it.2, Std.ExtTreeMap.mem_toList_iff_getElem?_eq_some.mp
        (List.mem_filter.mp due).1, rfl⟩

theorem Numbered.step {log : Log T K cmp} (numbered : Numbered log) (operation : Operation T K) :
    Numbered (log.step operation) where
  entries := by
    intro key it found
    rw [count_step]
    rcases entry_of_step found with old | new
    · exact Nat.lt_succ_of_lt (numbered.entries key it old)
    · rw [new]
      exact Nat.lt_succ_self _
  calls := by
    intro call member
    rw [count_step]
    rcases calls_of_step member with old | ⟨key, it, found, same⟩
    · exact Nat.lt_succ_of_lt (numbered.calls call old)
    · rw [← same]
      exact Nat.lt_succ_of_lt (numbered.entries key it found)

/-- What `store` returns after a history. -/
def Accepts (cmp : K → K → Ordering) [Std.TransCmp cmp] (before : List (Operation T K)) (now : Int)
    (obj : T) (key : K) (timeout : Int) : Prop :=
  (store (history before : Log T K cmp).mValues now (before.length, obj) key timeout).1 = true

instance (before : List (Operation T K)) (now : Int) (obj : T) (key : K) (timeout : Int) :
    Decidable (Accepts cmp before now obj key timeout) := inferInstanceAs (Decidable (_ = _))

section

variable {before : List (Operation T K)} {now : Int} {obj : T} {key : K} {timeout : Int}

end

/-- An entry belongs to an accepted delivery that has not met its fate. -/
def Owned (cmp : K → K → Ordering) [Std.TransCmp cmp] (operations : List (Operation T K)) (key : K)
    (it : StoredElement (Nat × T)) : Prop :=
  ∃ before now obj timeout later,
    operations = before ++ .store now obj key timeout :: later ∧
    Accepts cmp before now obj key timeout ∧
    it.validTo = now + timeout * nanoseconds ∧ fate key it.validTo later = none

omit [Std.LawfulEqCmp cmp] in
theorem Owned.concat {operations : List (Operation T K)} {key : K} {it : StoredElement (Nat × T)}
    (owned : Owned cmp operations key it) {operation : Operation T K}
    (goes_on : ends key it.validTo operation = none) :
    Owned cmp (operations ++ [operation]) key it := by
  obtain ⟨before, now, obj, timeout, later, rfl, accepts, until_, open_⟩ := owned
  refine ⟨before, now, obj, timeout, later ++ [operation], by simp, accepts, until_, ?_⟩
  unfold fate at open_ ⊢
  simp [List.findSome?_append, open_, goes_on]

omit [DecidableEq K] [Std.LawfulEqCmp cmp] in
/-- What a log shows of a delivery that met the fate. -/
theorem Outcome.shows {number : Nat} {obj : T} {key : K} {validTo : Int} {log : Log T K cmp}
    {fate : Option Callback} (outcome : Outcome number obj key validTo log fate) :
    log.received number = fate.toList ∧
    (log.mValues[key]? = some ⟨(number, obj), validTo⟩ ↔ fate = none) := by
  cases fate with
  | none => exact ⟨outcome.silent, iff_of_true outcome.stored rfl⟩
  | some callback =>
    refine ⟨outcome.received, iff_of_false ?_ (by simp)⟩
    intro stored
    exact outcome.absent key _ stored rfl

end SecureDialogues.TimeoutedRrepository
