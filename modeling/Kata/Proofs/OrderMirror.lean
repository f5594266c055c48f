import Kata.Drill.Numbers
import Kata.Proofs.CommonItems
import Mathlib

/-! Comparing two values the other way round mirrors the outcome. -/

namespace Kata.Value

inductive Plain : Value → Prop
  | none : Plain .none
  | bool (b : Bool) : Plain (.bool b)
  | int (n : Int) : Plain (.int n)
  | float (x : Binary64) : Plain (.float x)
  | str (s : String) : Plain (.str s)
  | list {items : List Value} : (∀ x ∈ items, Plain x) → Plain (.list items)

@[simp] theorem plain_list_iff (items : List Value) :
    (Value.list items).Plain ↔ ∀ x ∈ items, x.Plain :=
  ⟨fun | .list items => items, .list⟩

theorem not_plain_dict (entries : List (Value × Value)) : ¬(Value.dict entries).Plain := nofun

mutual

/-- The three-way outcome of comparing two values: the ordering of the pair that decides, `none`
when no ordering holds there (a NaN), or the two type names when they have no order. -/
def threeWay : Value → Value → Except (String × String) (Option Ordering)
  | .list xs, .list ys => threeWayItems xs ys
  | .str s, .str t => .ok (some (compare s t))
  | a, b =>
    if a.isNumber && b.isNumber then
      .ok (match a.magnitude?, b.magnitude? with
        | some x, some y => some (x.compare y)
        | _, _ => Option.none)
    else .error (a.typeName, b.typeName)

def threeWayItems : List Value → List Value → Except (String × String) (Option Ordering)
  | x :: xs, y :: ys => if equals x y then threeWayItems xs ys else threeWay x y
  | xs, ys => .ok (some (compare xs.length ys.length))

end

def swapOutcome (outcome : Except (String × String) (Option Ordering)) :
    Except (String × String) (Option Ordering) :=
  (outcome.map (Option.map Ordering.swap)).mapError Prod.swap

def notOrderableBy (op : Comparison) (names : String × String) : Fault :=
  .notOrderable op.symbol names.1 names.2

end Kata.Value

namespace Kata

def Comparison.atOutcome (op : Comparison) : Option Ordering → Bool
  | some o => op.holds o
  | none => false

namespace Value

theorem compareBy_eq_threeWay (op : Comparison) (a b : Value) :
    compareBy op a b = ((threeWay a b).map op.atOutcome).mapError (notOrderableBy op) := by
  refine compareBy.induct
    (fun a b => compareBy op a b =
      ((threeWay a b).map op.atOutcome).mapError (notOrderableBy op))
    (fun xs ys => compareItems op xs ys =
      ((threeWayItems xs ys).map op.atOutcome).mapError (notOrderableBy op))
    ?lists ?texts ?numbers ?unordered ?same ?differ ?short a b
  case lists => exact fun xs ys items => by simpa [compareBy, threeWay] using items
  case texts =>
    intro s t
    simp [compareBy, threeWay, Except.map, Except.mapError, Comparison.atOutcome]
  case numbers =>
    intro a b notLists notTexts numbers
    rw [compareBy.eq_3 op a b notLists notTexts, threeWay.eq_3 a b notLists notTexts,
      if_pos numbers, if_pos numbers]
    cases a.magnitude? <;> cases b.magnitude? <;> rfl
  case unordered =>
    intro a b notLists notTexts unordered
    rw [compareBy.eq_3 op a b notLists notTexts, threeWay.eq_3 a b notLists notTexts,
      if_neg unordered, if_neg unordered]
    rfl
  case same =>
    exact fun x xs y ys same rest => by simpa [compareItems, threeWayItems, same] using rest
  case differ =>
    exact fun x xs y ys differ first => by simpa [compareItems, threeWayItems, differ] using first
  case short =>
    intro xs ys short
    rw [compareItems.eq_2 op xs ys short, threeWayItems.eq_2 xs ys short]
    rfl

theorem equals_comm_of_plain {a b : Value} (plainA : a.Plain) (plainB : b.Plain) :
    a.equals b = b.equals a := by
  revert plainA plainB
  refine equals.induct
    (fun a b => a.Plain → b.Plain → a.equals b = b.equals a)
    (fun _ _ => True)
    (fun xs ys => (∀ x ∈ xs, x.Plain) → (∀ y ∈ ys, y.Plain) →
      equalsList xs ys = equalsList ys xs)
    ?lists ?dicts ?scalars ?empty ?cons ?uneven ?noEntries ?entries a b
  case lists =>
    intro xs ys items plainA plainB
    simp only [equals]
    exact items ((plain_list_iff xs).mp plainA) ((plain_list_iff ys).mp plainB)
  case dicts => exact fun xs _ _ plainA => absurd plainA (not_plain_dict xs)
  case scalars =>
    intro a b notLists notDicts _ _
    rw [equals.eq_3 a b notLists notDicts,
      equals.eq_3 b a (fun xs ys hb ha => notLists ys xs ha hb)
        (fun xs ys hb ha => notDicts ys xs ha hb), scalarEquals_comm]
  case empty => exact fun _ _ => rfl
  case cons =>
    intro x xs y ys first rest plainXs plainYs
    simp only [equalsList]
    rw [first (plainXs x (by simp)) (plainYs y (by simp)),
      rest (fun z mem => plainXs z (by simp [mem])) (fun z mem => plainYs z (by simp [mem]))]
  case uneven =>
    intro xs ys notBoth notCons _ _
    rw [equalsList.eq_3 xs ys notBoth notCons,
      equalsList.eq_3 ys xs (fun hy hx => notBoth hx hy)
        (fun y ys' x xs' hy hx => notCons x xs' y ys' hx hy)]
  case noEntries => exact fun _ => trivial
  case entries => exact fun _ _ _ _ _ _ => trivial

theorem string_compare_swap (s t : String) : compare t s = (compare s t).swap := by
  rw [← cmp_eq_compare, ← cmp_eq_compare, cmp_swap]

theorem extended_compare_swap (x y : Extended) : y.compare x = (x.compare y).swap := by
  rw [Extended.compare_eq, Extended.compare_eq, ← cmp_eq_compare, ← cmp_eq_compare, cmp_swap]

theorem threeWay_swap {a b : Value} (plainA : a.Plain) (plainB : b.Plain) :
    threeWay b a = swapOutcome (threeWay a b) := by
  revert plainA plainB
  refine threeWay.induct
    (fun a b => a.Plain → b.Plain → threeWay b a = swapOutcome (threeWay a b))
    (fun xs ys => (∀ x ∈ xs, x.Plain) → (∀ y ∈ ys, y.Plain) →
      threeWayItems ys xs = swapOutcome (threeWayItems xs ys))
    ?lists ?texts ?numbers ?unordered ?same ?differ ?short a b
  case lists =>
    intro xs ys items plainA plainB
    simp only [threeWay]
    exact items ((plain_list_iff xs).mp plainA) ((plain_list_iff ys).mp plainB)
  case texts =>
    intro s t _ _
    rw [threeWay, threeWay, string_compare_swap]
    rfl
  case numbers =>
    intro a b notLists notTexts numbers _ _
    rw [threeWay.eq_3 a b notLists notTexts,
      threeWay.eq_3 b a (fun xs ys hb ha => notLists ys xs ha hb)
        (fun s t hb ha => notTexts t s ha hb), if_pos numbers, if_pos (by rwa [Bool.and_comm])]
    cases a.magnitude? with
    | none => cases b.magnitude? <;> rfl
    | some x =>
      cases b.magnitude? with
      | none => rfl
      | some y =>
        show Except.ok (some (y.compare x)) = Except.ok (some (x.compare y).swap)
        rw [extended_compare_swap x y]
  case unordered =>
    intro a b notLists notTexts unordered _ _
    rw [threeWay.eq_3 a b notLists notTexts,
      threeWay.eq_3 b a (fun xs ys hb ha => notLists ys xs ha hb)
        (fun s t hb ha => notTexts t s ha hb), if_neg unordered,
      if_neg (by rwa [Bool.and_comm])]
    rfl
  case same =>
    intro x xs y ys same rest plainXs plainYs
    have back : y.equals x = true := by
      rw [equals_comm_of_plain (plainYs y (by simp)) (plainXs x (by simp))]
      exact same
    simp only [threeWayItems, same, back, if_true]
    exact rest (fun z mem => plainXs z (by simp [mem])) (fun z mem => plainYs z (by simp [mem]))
  case differ =>
    intro x xs y ys differ first plainXs plainYs
    have back : y.equals x = false := by
      rw [equals_comm_of_plain (plainYs y (by simp)) (plainXs x (by simp))]
      simpa using differ
    simp only [threeWayItems, differ, back, if_false, Bool.false_eq_true]
    exact first (plainXs x (by simp)) (plainYs y (by simp))
  case short =>
    intro xs ys short _ _
    rw [threeWayItems.eq_2 xs ys short,
      threeWayItems.eq_2 ys xs (fun y ys' x xs' hy hx => short x xs' y ys' hx hy),
      ← Nat.compare_swap]
    rfl

end Value

namespace Drill

open Value

def Verdict.ofOutcome : Option Ordering → Verdict
  | some .gt => .firstGreater
  | some .lt => .secondGreater
  | _ => .equal

def Verdict.swap : Verdict → Verdict
  | .firstGreater => .secondGreater
  | .secondGreater => .firstGreater
  | .equal => .equal

theorem Verdict.ofOutcome_swap (outcome : Option Ordering) :
    Verdict.ofOutcome (outcome.map Ordering.swap) = (Verdict.ofOutcome outcome).swap := by
  rcases outcome with _ | _ | _ | _ <;> rfl

theorem Verdict.text_inj {v w : Verdict} : v.text = w.text ↔ v = w := by
  cases v <;> cases w <;> simp [Verdict.text]

theorem verdict_eq_threeWay (a b : Value) :
    verdict a b = ((threeWay a b).map Verdict.ofOutcome).mapError (notOrderableBy .gt) := by
  simp only [verdict, compareBy_eq_threeWay]
  cases threeWay a b with
  | error names => rfl
  | ok outcome => rcases outcome with _ | _ | _ | _ <;> rfl

theorem verdict_eq_error_iff (a b : Value) (fault : Fault) :
    verdict a b = .error fault ↔
      ∃ names, threeWay a b = .error names ∧ fault = notOrderableBy .gt names := by
  rw [verdict_eq_threeWay]
  cases threeWay a b <;> simp [Except.map, Except.mapError, eq_comm]

theorem verdict_swap {a b : Value} (plainA : a.Plain) (plainB : b.Plain) :
    verdict b a = ((verdict a b).map Verdict.swap).mapError fun fault =>
      match fault with
      | .notOrderable op left right => .notOrderable op right left
      | other => other := by
  rw [verdict_eq_threeWay, verdict_eq_threeWay, threeWay_swap plainA plainB]
  cases threeWay a b with
  | error names => rfl
  | ok outcome =>
    show Except.ok (Verdict.ofOutcome (outcome.map Ordering.swap)) = _
    rw [Verdict.ofOutcome_swap]
    rfl

theorem compareNumbers_eq_verdict (a b : Value) :
    compareNumbers a b = (verdict a b).map fun v => .str v.text := rfl

theorem compareNumbers_eq_error_iff (a b : Value) (fault : Fault) :
    compareNumbers a b = .error fault ↔ verdict a b = .error fault := by
  rw [compareNumbers_eq_verdict]
  cases verdict a b <;> simp [Except.map]

theorem compareNumbers_eq_ok_iff (a b : Value) (v : Verdict) :
    compareNumbers a b = .ok (.str v.text) ↔ verdict a b = .ok v := by
  rw [compareNumbers_eq_verdict]
  cases verdict a b <;> simp [Except.map, Verdict.text_inj]

/-- Comparing two values built from nothing, truth values, numbers, strings and lists fails in one
order exactly when it fails in the other, always for lack of an order between two types; otherwise
the two sentences mirror each other. -/
theorem compareNumbers_mirror {a b : Value} (plainA : a.Plain) (plainB : b.Plain) :
    ((∃ fault, compareNumbers a b = .error fault) ↔
        ∃ fault, compareNumbers b a = .error fault) ∧
      (∀ fault, compareNumbers a b = .error fault → fault.kind = .type) ∧
      ∀ v : Verdict, compareNumbers a b = .ok (.str v.text) →
        compareNumbers b a = .ok (.str v.swap.text) := by
  have swapped := verdict_swap plainA plainB
  refine ⟨?_, ?_, ?_⟩
  · simp only [compareNumbers_eq_error_iff, swapped]
    cases verdict a b <;> simp [Except.map, Except.mapError]
  · intro fault failed
    obtain ⟨names, -, rfl⟩ := (verdict_eq_error_iff a b fault).mp
      ((compareNumbers_eq_error_iff a b fault).mp failed)
    rfl
  · intro v answered
    rw [compareNumbers_eq_ok_iff] at answered ⊢
    rw [swapped, answered]
    rfl

theorem compareNumbers_mirror_nan :
    (Value.list [.int 1, .list [.float .nan, .str "x"]]).Plain ∧
      (Value.list [.bool true, .list [.float .nan, .int 3]]).Plain ∧
      (((∃ fault, compareNumbers (.list [.int 1, .list [.float .nan, .str "x"]])
          (.list [.bool true, .list [.float .nan, .int 3]]) = .error fault) ↔
        ∃ fault, compareNumbers (.list [.bool true, .list [.float .nan, .int 3]])
          (.list [.int 1, .list [.float .nan, .str "x"]]) = .error fault) ∧
      (∀ fault, compareNumbers (.list [.int 1, .list [.float .nan, .str "x"]])
          (.list [.bool true, .list [.float .nan, .int 3]]) = .error fault →
            fault.kind = .type) ∧
      ∀ v : Verdict, compareNumbers (.list [.int 1, .list [.float .nan, .str "x"]])
          (.list [.bool true, .list [.float .nan, .int 3]]) = .ok (.str v.text) →
        compareNumbers (.list [.bool true, .list [.float .nan, .int 3]])
          (.list [.int 1, .list [.float .nan, .str "x"]]) = .ok (.str v.swap.text)) := by
  have plainA : (Value.list [.int 1, .list [.float .nan, .str "x"]]).Plain := by
    simp [Plain.int, Plain.float, Plain.str]
  have plainB : (Value.list [.bool true, .list [.float .nan, .int 3]]).Plain := by
    simp [Plain.int, Plain.float, Plain.bool]
  exact ⟨plainA, plainB, compareNumbers_mirror plainA plainB⟩

example : compareNumbers (.list [.int 1, .list [.float .nan, .str "x"]])
    (.list [.bool true, .list [.float .nan, .int 3]]) = .ok (.str "they are equal") := by
  rfl

end Drill

end Kata
