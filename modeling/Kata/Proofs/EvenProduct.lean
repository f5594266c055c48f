import Kata.Drill.Numbers
import Mathlib

/-! The product of the even items and the partition of a collection by evenness. -/

namespace Kata.Drill

open Value

def productStep (acc : Value × Nat) (x : Value) : Except Fault (Value × Nat) := do
  if ← x.isEven then return (← acc.1.mul x, acc.2 + 1) else return acc

theorem productOfEvens_list (xs : List Value) : productOfEvens (.list xs) = (do
    let (total, count) ← xs.foldlM productStep (.int 1, 0)
    if count = 0 then return .str "no even numbers in this list"
    return total) := rfl

def flagged (xs : List Value) (flags : List Bool) : List Value :=
  ((xs.zip flags).filter (·.2)).map (·.1)

def unflagged (xs : List Value) (flags : List Bool) : List Value :=
  ((xs.zip flags).filter (!·.2)).map (·.1)

theorem partitionEven_list (xs : List Value) : partitionEven (.list xs) =
    (xs.mapM Value.isEven) >>= fun flags =>
      pure (.list [.list (flagged xs flags), .list (unflagged xs flags)]) := rfl

theorem partitionEven_eq_ok_iff (xs : List Value) (parts : Value) :
    partitionEven (.list xs) = .ok parts ↔ ∃ flags, xs.mapM Value.isEven = .ok flags ∧
      parts = .list [.list (flagged xs flags), .list (unflagged xs flags)] := by
  rw [partitionEven_list]
  cases xs.mapM Value.isEven <;> simp [bind, Except.bind, pure, Except.pure, eq_comm]

theorem partitionEven_eq_error_iff (xs : List Value) (fault : Fault) :
    partitionEven (.list xs) = .error fault ↔ xs.mapM Value.isEven = .error fault := by
  rw [partitionEven_list]
  cases xs.mapM Value.isEven <;> simp [bind, Except.bind, pure, Except.pure]

theorem forall₂_of_mapM_isEven {xs : List Value} {flags : List Bool}
    (tested : xs.mapM Value.isEven = .ok flags) :
    List.Forall₂ (fun x b => x.isEven = .ok b) xs flags := by
  induction xs generalizing flags with
  | nil =>
    cases tested
    exact .nil
  | cons x rest ih =>
    rw [List.mapM_cons] at tested
    cases first : x.isEven with
    | error f => simp [first, bind, Except.bind] at tested
    | ok b =>
      cases others : rest.mapM Value.isEven with
      | error f => simp [first, others, bind, Except.bind] at tested
      | ok bs =>
        simp only [first, others, bind, Except.bind, pure, Except.pure, Except.ok.injEq] at tested
        subst tested
        exact .cons first (ih others)

theorem foldlM_productStep {xs : List Value} {flags : List Bool}
    (answers : List.Forall₂ (fun x b => x.isEven = .ok b) xs flags) (acc : Value) (count : Nat) :
    xs.foldlM productStep (acc, count) =
      ((flagged xs flags).foldlM Value.mul acc).map
        fun total => (total, count + (flagged xs flags).length) := by
  induction answers generalizing acc count with
  | nil => rfl
  | @cons x b rest bs even _ ih =>
    rw [List.foldlM_cons]
    cases b with
    | false =>
      have skipped : productStep (acc, count) x = .ok (acc, count) := by
        simp [productStep, even, bind, Except.bind, pure, Except.pure]
      rw [skipped]
      exact ih acc count
    | true =>
      have kept : flagged (x :: rest) (true :: bs) = x :: flagged rest bs := rfl
      rw [kept, List.foldlM_cons]
      cases product : acc.mul x with
      | error f => simp [productStep, even, product, bind, Except.bind, Except.map]
      | ok next =>
        have counted : productStep (acc, count) x = .ok (next, count + 1) := by
          simp [productStep, even, product, bind, Except.bind, pure, Except.pure]
        rw [counted]
        simp only [bind, Except.bind, ih next (count + 1), List.length_cons]
        congr 2
        funext total
        rw [Nat.add_assoc, Nat.add_comm 1]

theorem foldlM_productStep_error {xs : List Value} {fault : Fault}
    (failed : xs.mapM Value.isEven = .error fault) (state : Value × Nat) :
    ∃ stopped, xs.foldlM productStep state = .error stopped := by
  induction xs generalizing state with
  | nil => cases failed
  | cons x rest ih =>
    rw [List.foldlM_cons]
    rw [List.mapM_cons] at failed
    cases first : x.isEven with
    | error f => exact ⟨f, by simp [productStep, first, bind, Except.bind]⟩
    | ok b =>
      have others : rest.mapM Value.isEven = .error fault := by
        cases found : rest.mapM Value.isEven <;>
          simp_all [bind, Except.bind, pure, Except.pure]
      cases step : productStep state x with
      | error f => exact ⟨f, rfl⟩
      | ok next => simpa [bind, Except.bind] using ih others next

theorem isNumber_of_isEven {x : Value} (even : x.isEven = .ok true) : x.isNumber := by
  cases x with
  | str s =>
    simp only [isEven] at even
    split at even <;> simp at even
  | bool | int | float => rfl
  | _ => simp [isEven] at even

theorem isNumber_of_mul {a b c : Value} (numberA : a.isNumber) (numberB : b.isNumber)
    (product : a.mul b = .ok c) : c.isNumber := by
  unfold mul at product
  cases pair : binaryPair? a b with
  | some rounded =>
    rw [pair] at product
    cases rounded with
    | error f => cases product
    | ok operands => cases product; rfl
  | none =>
    rw [pair] at product
    cases a <;> cases b <;> simp_all [isNumber, asInt?, binaryPair?] <;> rw [← product]

theorem isNumber_of_foldlM_mul {items : List Value} {acc total : Value}
    (numbers : ∀ x ∈ items, x.isNumber) (numberAcc : acc.isNumber)
    (product : items.foldlM Value.mul acc = .ok total) : total.isNumber := by
  induction items generalizing acc with
  | nil =>
    cases product
    exact numberAcc
  | cons x rest ih =>
    rw [List.foldlM_cons] at product
    cases first : acc.mul x with
    | error f => simp [first, bind, Except.bind] at product
    | ok next =>
      simp only [first, bind, Except.bind] at product
      exact ih (fun y mem => numbers y (by simp [mem]))
        (isNumber_of_mul numberAcc (numbers x (by simp)) first) product

theorem flagged_append_unflagged_perm {xs : List Value} {flags : List Bool}
    (lengths : xs.length = flags.length) :
    (flagged xs flags ++ unflagged xs flags).Perm xs := by
  have whole := (List.filter_append_perm (·.2) (xs.zip flags)).map Prod.fst
  rw [List.map_append, List.map_fst_zip lengths.le] at whole
  exact whole

theorem flagged_sublist {xs : List Value} {flags : List Bool}
    (lengths : xs.length = flags.length) : (flagged xs flags).Sublist xs := by
  have part := (List.filter_sublist (p := (·.2)) (l := xs.zip flags)).map Prod.fst
  rwa [List.map_fst_zip lengths.le] at part

theorem unflagged_sublist {xs : List Value} {flags : List Bool}
    (lengths : xs.length = flags.length) : (unflagged xs flags).Sublist xs := by
  have part := (List.filter_sublist (p := (!·.2)) (l := xs.zip flags)).map Prod.fst
  rwa [List.map_fst_zip lengths.le] at part

theorem isEven_of_mem_flagged {xs : List Value} {flags : List Bool}
    (answers : List.Forall₂ (fun x b => x.isEven = .ok b) xs flags) {x : Value}
    (mem : x ∈ flagged xs flags) : x.isEven = .ok true := by
  obtain ⟨⟨y, b⟩, found, rfl⟩ := List.mem_map.mp mem
  obtain ⟨inZip, set⟩ := List.mem_filter.mp found
  cases set
  exact (List.forall₂_iff_zip.mp answers).2 inZip

theorem isEven_of_mem_unflagged {xs : List Value} {flags : List Bool}
    (answers : List.Forall₂ (fun x b => x.isEven = .ok b) xs flags) {x : Value}
    (mem : x ∈ unflagged xs flags) : x.isEven = .ok false := by
  obtain ⟨⟨y, b⟩, found, rfl⟩ := List.mem_map.mp mem
  obtain ⟨inZip, clear⟩ := List.mem_filter.mp found
  simp only [Bool.not_eq_true'] at clear
  cases clear
  exact (List.forall₂_iff_zip.mp answers).2 inZip

theorem productOfEvens_of_answers {xs : List Value} {flags : List Bool}
    (answers : List.Forall₂ (fun x b => x.isEven = .ok b) xs flags) :
    productOfEvens (.list xs) =
      if flagged xs flags = [] then .ok (.str "no even numbers in this list")
      else (flagged xs flags).foldlM Value.mul (.int 1) := by
  rw [productOfEvens_list, foldlM_productStep answers]
  by_cases none : flagged xs flags = []
  · rw [if_pos none, none]
    rfl
  · rw [if_neg none]
    cases (flagged xs flags).foldlM Value.mul (.int 1) with
    | error f => rfl
    | ok total => simp [Except.map, bind, Except.bind, none, pure, Except.pure]

/-- When the partition succeeds, its two parts split the list stably by the evenness test, and
the product of the even items is the sentence exactly when the first part is empty and otherwise
the left-to-right product of that part from one, fault included; when the partition fails, so
does the product. -/
theorem productOfEvens_partitionEven (xs : List Value) :
    (∀ evens odds : List Value,
      partitionEven (.list xs) = .ok (.list [.list evens, .list odds]) →
        (evens ++ odds).Perm xs ∧ evens.Sublist xs ∧ odds.Sublist xs ∧
        (∀ x ∈ evens, x.isEven = .ok true) ∧ (∀ x ∈ odds, x.isEven = .ok false) ∧
        (productOfEvens (.list xs) = .ok (.str "no even numbers in this list") ↔ evens = []) ∧
        (evens ≠ [] → productOfEvens (.list xs) = evens.foldlM Value.mul (.int 1))) ∧
    ((∃ fault, partitionEven (.list xs) = .error fault) →
      ∃ fault, productOfEvens (.list xs) = .error fault) := by
  refine ⟨?_, ?_⟩
  · intro evens odds parted
    obtain ⟨flags, tested, split⟩ := (partitionEven_eq_ok_iff xs _).mp parted
    simp only [Value.list.injEq, List.cons.injEq, and_true] at split
    obtain ⟨rfl, rfl⟩ := split
    have answers := forall₂_of_mapM_isEven tested
    have lengths := answers.length_eq
    refine ⟨flagged_append_unflagged_perm lengths, flagged_sublist lengths,
      unflagged_sublist lengths, fun x mem => isEven_of_mem_flagged answers mem,
      fun x mem => isEven_of_mem_unflagged answers mem, ?_, ?_⟩
    · rw [productOfEvens_of_answers answers]
      by_cases none : flagged xs flags = []
      · simp [none]
      · rw [if_neg none]
        refine ⟨fun product => absurd (isNumber_of_foldlM_mul
          (fun x mem => isNumber_of_isEven (isEven_of_mem_flagged answers mem)) rfl product) ?_,
          fun empty => absurd empty none⟩
        simp [isNumber]
    · intro some
      rw [productOfEvens_of_answers answers, if_neg some]
  · rintro ⟨fault, failed⟩
    rw [partitionEven_eq_error_iff] at failed
    obtain ⟨stopped, looped⟩ := foldlM_productStep_error failed (.int 1, 0)
    refine ⟨stopped, ?_⟩
    rw [productOfEvens_list, looped]
    rfl

example :
    partitionEven (.list [.int (-4), .bool false, .str "%d", .float Binary64.negZero, .int 3]) =
      .ok (.list [.list [.int (-4), .bool false, .float Binary64.negZero],
        .list [.str "%d", .int 3]]) := by
  rfl

end Kata.Drill
