import Kata.Drill.Collections
import Mathlib

/-! Edits at either end of a list act as a double-ended queue. -/

namespace Kata.Value

@[simp] theorem str_equals_str (text other : String) :
    (Value.str text).equals (.str other) = (text == other) := by
  simp [Value.equals, scalarEquals]

theorem equals_str_iff (value : Value) (text : String) :
    value.equals (.str text) = true ↔ value = .str text := by
  cases value <;> simp [Value.equals, scalarEquals, isNumber]

end Kata.Value

namespace Kata.Drill

open Value

def pushAt : Value → Value → List Value → List Value
  | .str "beginning", value, items => value :: items
  | .str "end", value, items => items ++ [value]
  | _, _, items => items

def popAt : Value → List Value → List Value
  | .str "beginning", items => items.tail
  | .str "end", items => items.dropLast
  | _, items => items

theorem popAt_pushAt (location value : Value) (items : List Value) :
    popAt location (pushAt location value items) = items := by
  unfold pushAt popAt
  split <;> simp_all

theorem popAt_nil (location : Value) : popAt location [] = [] := by
  unfold popAt
  split <;> rfl

theorem eq_nil_of_pushAt_eq_nil {location value : Value} {items : List Value}
    (emptied : pushAt location value items = []) : items = [] := by
  unfold pushAt at emptied
  split at emptied <;> simp_all

theorem popAt_eq_self_iff (location : Value) (items : List Value) :
    popAt location items = items ↔
      items = [] ∨ (location ≠ .str "beginning" ∧ location ≠ .str "end") := by
  have shortened : ∀ popped : List Value,
      popped.length = items.length - 1 → (popped = items ↔ items = []) := by
    intro popped lengths
    constructor
    · intro same
      subst same
      cases popped with
      | nil => rfl
      | cons first rest => simp at lengths
    · rintro rfl
      cases popped with
      | nil => rfl
      | cons first rest => simp at lengths
  unfold popAt
  split
  · simpa using shortened items.tail (by simp)
  · simpa using shortened items.dropLast (by simp)
  · simp_all

theorem listEditInPlace_add_list (items : List Value) (location value : Value)
    (placed : location.truthy) :
    listEditInPlace (.list items) (.str "add") location value =
      if value.truthy then
        (.ok (.list (pushAt location value items)), .list (pushAt location value items))
      else (.ok (.str "please input where to add or an value"), .list items) := by
  by_cases kept : value.truthy
  · by_cases atBeginning : location = .str "beginning"
    · subst atBeginning
      simp [listEditInPlace, kept, placed, insertFront, inPlace, pushAt]
    by_cases atEnd : location = .str "end"
    · subst atEnd
      simp [listEditInPlace, kept, placed, append, inPlace, pushAt]
    have elsewhere : pushAt location value items = items := by
      unfold pushAt
      split <;> simp_all
    simp [listEditInPlace, kept, placed, elsewhere, Value.equals_str_iff, atBeginning, atEnd]
  · simp [listEditInPlace, kept]

theorem listEditInPlace_remove_list (items : List Value) (location : Value) :
    listEditInPlace (.list items) (.str "remove") location .none =
      if items.isEmpty then (.ok (.str "List is empty"), .list items)
      else (.ok (.list (popAt location items)), .list (popAt location items)) := by
  cases items with
  | nil => simp [listEditInPlace, truthy]
  | cons first rest =>
      by_cases atBeginning : location = .str "beginning"
      · subst atBeginning
        simp [listEditInPlace, truthy, removeFront, inPlace, popAt]
      by_cases atEnd : location = .str "end"
      · subst atEnd
        simp [listEditInPlace, truthy, removeBack, inPlace, popAt]
      have elsewhere : popAt location (first :: rest) = first :: rest := by
        unfold popAt
        split <;> simp_all
      simp [listEditInPlace, truthy, elsewhere, Value.equals_str_iff, atBeginning, atEnd]

def addThenRemove (items : List Value) (location value : Value) : Value :=
  (listEditInPlace (listEditInPlace (.list items) (.str "add") location value).2
    (.str "remove") location .none).2

theorem addThenRemove_eq (items : List Value) (location value : Value)
    (placed : location.truthy) :
    addThenRemove items location value =
      .list (if value.truthy then items else popAt location items) := by
  unfold addThenRemove
  rw [listEditInPlace_add_list items location value placed]
  by_cases kept : value.truthy
  · simp only [kept, if_true, listEditInPlace_remove_list, popAt_pushAt]
    split
    · rename_i emptied
      have pushedEmpty := List.isEmpty_iff.mp emptied
      rw [pushedEmpty, eq_nil_of_pushAt_eq_nil pushedEmpty]
    · rfl
  · simp only [kept, Bool.false_eq_true, if_false, listEditInPlace_remove_list]
    split
    · rename_i emptied
      rw [List.isEmpty_iff.mp emptied, popAt_nil]
    · rfl

/-- On a list and at a truthy place, an add pushes a truthy value at the named end and refuses a
falsy one, leaving the list; a remove pops the named end of a nonempty list and answers an empty
one with a sentence. So a remove after an add gives the list back exactly when the value was
truthy or the remove changes nothing. -/
theorem listEditInPlace_deque (items : List Value) (location value : Value)
    (placed : location.truthy) :
    listEditInPlace (.list items) (.str "add") location value =
        (if value.truthy then
          (.ok (.list (pushAt location value items)), .list (pushAt location value items))
        else (.ok (.str "please input where to add or an value"), .list items)) ∧
      listEditInPlace (.list items) (.str "remove") location .none =
        (if items.isEmpty then (.ok (.str "List is empty"), .list items)
        else (.ok (.list (popAt location items)), .list (popAt location items))) ∧
      (addThenRemove items location value = .list items ↔
        value.truthy ∨ items = [] ∨
          (location ≠ .str "beginning" ∧ location ≠ .str "end")) := by
  refine ⟨listEditInPlace_add_list items location value placed,
    listEditInPlace_remove_list items location, ?_⟩
  rw [addThenRemove_eq items location value placed]
  by_cases kept : value.truthy
  · simp [kept]
  · simp only [kept, Bool.false_eq_true, if_false, Value.list.injEq, false_or]
    exact popAt_eq_self_iff location items

theorem listEditInPlace_deque_zero :
    (Value.str "beginning").truthy ∧
      listEditInPlace (.list [.int 1, .int 2]) (.str "add") (.str "beginning") (.int 0) =
        (.ok (.str "please input where to add or an value"), .list [.int 1, .int 2]) ∧
      addThenRemove [.int 1, .int 2] (.str "beginning") (.int 0) = .list [.int 2] := by
  obtain ⟨added, -, -⟩ :=
    listEditInPlace_deque [.int 1, .int 2] (.str "beginning") (.int 0) rfl
  refine ⟨rfl, ?_, ?_⟩
  · simpa [truthy] using added
  · rw [addThenRemove_eq _ _ _ rfl]
    simp [truthy, popAt]

def editRefusals : List String :=
  ["please input where to add or an value", "Get rid of value parameter on remove", "List is empty"]

theorem listEditInPlace_cases (arr operation location value : Value) :
    (∃ sentence ∈ editRefusals,
        listEditInPlace arr operation location value = (.ok (.str sentence), arr)) ∨
      listEditInPlace arr operation location value = (.ok arr, arr) ∨
      ∃ edit ∈ [insertFront arr value, append arr value, removeFront arr, removeBack arr],
        listEditInPlace arr operation location value = inPlace arr edit := by
  unfold listEditInPlace
  dsimp only
  split_ifs <;> simp [editRefusals]

/-- The faults of an edit in place on `arr`: a list method called on a value that is no list, a
mapping's pop without a key, and a mapping's pop of the key `0` when no key equals it. -/
inductive EditFault : Value → Fault → Prop
  | noMethod {arr : Value} {name : String} (method : name ∈ ["insert", "append", "pop"])
      (notList : ∀ items, arr ≠ .list items) : EditFault arr (.noAttribute arr.typeName name)
  | popWithoutKey (entries : List (Value × Value)) : EditFault (.dict entries) .popWithoutKey
  | missingZero {entries : List (Value × Value)} (missing : lookup? entries (.int 0) = Option.none) :
      EditFault (.dict entries) (.missingKey "0")

def EditOutcome (arr : Value) (outcome : Except Fault Value) : Prop :=
  (∀ changed, outcome = .ok changed → ∀ text, changed ≠ .str text) ∧
    ∀ fault, outcome = .error fault → EditFault arr fault

theorem editOutcome_insertFront (arr item : Value) : EditOutcome arr (insertFront arr item) := by
  cases arr with
  | list xs => exact ⟨by simp [insertFront], by simp [insertFront]⟩
  | _ => exact ⟨by simp [insertFront], by
      rintro fault ⟨⟩
      exact .noMethod (by simp) (by simp)⟩

theorem editOutcome_append (arr item : Value) : EditOutcome arr (append arr item) := by
  cases arr with
  | list xs => exact ⟨by simp [append], by simp [append]⟩
  | _ => exact ⟨by simp [append], by
      rintro fault ⟨⟩
      exact .noMethod (by simp) (by simp)⟩

theorem editOutcome_removeFront (arr : Value) : EditOutcome arr (removeFront arr) := by
  cases arr with
  | list xs => exact ⟨by simp [removeFront], by simp [removeFront]⟩
  | dict entries =>
    cases found : lookup? entries (.int 0) with
    | none =>
      refine ⟨by simp [removeFront, found], ?_⟩
      rintro fault failed
      simp only [removeFront, found, Option.isSome_none, Bool.false_eq_true, if_false,
        Except.error.injEq] at failed
      subst failed
      exact .missingZero found
    | some _ => exact ⟨by simp [removeFront, found], by simp [removeFront, found]⟩
  | _ => exact ⟨by simp [removeFront], by
      rintro fault ⟨⟩
      exact .noMethod (by simp) (by simp)⟩

theorem editOutcome_removeBack (arr : Value) : EditOutcome arr (removeBack arr) := by
  cases arr with
  | list xs => exact ⟨by simp [removeBack], by simp [removeBack]⟩
  | dict entries => exact ⟨by simp [removeBack], by
      rintro fault ⟨⟩
      exact .popWithoutKey entries⟩
  | _ => exact ⟨by simp [removeBack], by
      rintro fault ⟨⟩
      exact .noMethod (by simp) (by simp)⟩

/-- An edit that refuses or fails leaves its argument as it was, and fails only as an edit can;
every other answer is the argument as the edit leaves it. -/
theorem listEditInPlace_untouched (arr operation location value : Value) :
    (∀ fault, (listEditInPlace arr operation location value).1 = .error fault →
      (listEditInPlace arr operation location value).2 = arr ∧ EditFault arr fault) ∧
    (∀ sentence ∈ editRefusals,
      (listEditInPlace arr operation location value).1 = .ok (.str sentence) →
        (listEditInPlace arr operation location value).2 = arr) ∧
    ∀ answer, (listEditInPlace arr operation location value).1 = .ok answer →
      answer = (listEditInPlace arr operation location value).2 ∨
        ∃ sentence ∈ editRefusals, answer = .str sentence := by
  rcases listEditInPlace_cases arr operation location value with
    ⟨refusal, refused, edited⟩ | edited | ⟨edit, oneOf, edited⟩ <;> rw [edited]
  · refine ⟨by simp, fun _ _ _ => rfl, ?_⟩
    rintro answer ⟨⟩
    exact .inr ⟨refusal, refused, rfl⟩
  · refine ⟨by simp, fun _ _ _ => rfl, ?_⟩
    rintro answer ⟨⟩
    exact .inl rfl
  · have outcome : EditOutcome arr edit := by
      simp only [List.mem_cons, List.not_mem_nil, or_false] at oneOf
      rcases oneOf with rfl | rfl | rfl | rfl
      · exact editOutcome_insertFront arr value
      · exact editOutcome_append arr value
      · exact editOutcome_removeFront arr
      · exact editOutcome_removeBack arr
    cases edit with
    | error fault =>
      refine ⟨?_, fun _ _ _ => rfl, fun answer answered => by cases answered⟩
      rintro _ ⟨⟩
      exact ⟨rfl, outcome.2 fault rfl⟩
    | ok changed =>
      refine ⟨fun _ failed => (by cases failed), ?_, ?_⟩
      · rintro sentence - answered
        cases answered
        exact absurd rfl (outcome.1 _ rfl sentence)
      · rintro answer ⟨⟩
        exact .inl rfl

end Kata.Drill
