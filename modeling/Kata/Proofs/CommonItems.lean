import Kata.Drill.Collections
import Kata.Proofs.ExactOrder

/-! The common members of two collections, under equality of values as a partial equivalence. -/

namespace Kata.Value

theorem scalarEquals_numbers {a b : Value} (na : a.isNumber) (nb : b.isNumber) :
    scalarEquals a b = true ↔ ∃ r, a.realValue? = some r ∧ b.realValue? = some r := by
  rw [scalarEquals.eq_3 a b (fun list _ => by simp [list, isNumber] at na)
      (fun _ _ text _ => by simp [text, isNumber] at na), na, nb, Bool.true_and, Bool.true_and,
    realValue?, realValue?]
  cases a.magnitude? <;> cases b.magnitude? <;> simp [Extended.compare_eq]
  exact eq_comm

theorem scalarEquals_iff (a b : Value) :
    scalarEquals a b = true ↔
      (a = .none ∧ b = .none) ∨ (∃ s, a = .str s ∧ b = .str s) ∨
        ∃ r, a.realValue? = some r ∧ b.realValue? = some r := by
  by_cases numbers : a.isNumber ∧ b.isNumber
  · rw [scalarEquals_numbers numbers.1 numbers.2]
    cases a <;> cases b <;> simp_all [isNumber]
  · cases a <;> cases b <;> simp_all [isNumber, scalarEquals, realValue?, magnitude?]
    exact eq_comm

theorem scalarEquals_comm (a b : Value) : scalarEquals a b = scalarEquals b a := by
  rw [Bool.eq_iff_iff, scalarEquals_iff, scalarEquals_iff]
  exact or_congr and_comm
    (or_congr (exists_congr fun _ => and_comm) (exists_congr fun _ => and_comm))

theorem scalarEquals_trans {a b c : Value} (ab : scalarEquals a b) (bc : scalarEquals b c) :
    scalarEquals a c := by
  rw [scalarEquals_iff] at ab bc ⊢
  rcases ab with ⟨rfl, rfl⟩ | ⟨s, rfl, rfl⟩ | ⟨r, ar, br⟩
  · rcases bc with ⟨-, rfl⟩ | ⟨t, bt, -⟩ | ⟨r, br, -⟩ <;> simp_all [realValue?, magnitude?]
  · rcases bc with ⟨bn, -⟩ | ⟨t, bt, rfl⟩ | ⟨r, br, -⟩ <;> simp_all [realValue?, magnitude?]
  · rcases bc with ⟨rfl, -⟩ | ⟨t, rfl, -⟩ | ⟨r', br', cr⟩
    · simp [realValue?, magnitude?] at br
    · simp [realValue?, magnitude?] at br
    · rw [br, Option.some.injEq] at br'
      exact .inr (.inr ⟨r, ar, br' ▸ cr⟩)

theorem equals_of_hashable {a : Value} (hashed : a.hashable) (b : Value) :
    a.equals b = scalarEquals a b := by
  cases a <;> simp_all [hashable, Value.equals]

theorem hashable_of_equals {a b : Value} (hashedA : a.hashable) (ab : a.equals b = true) :
    b.hashable := by
  rw [equals_of_hashable hashedA, scalarEquals_iff] at ab
  rcases ab with ⟨-, rfl⟩ | ⟨s, -, rfl⟩ | ⟨r, -, valued⟩
  · rfl
  · rfl
  · cases b <;> simp_all [hashable, realValue?, magnitude?]

theorem equals_symm {a b : Value} (hashedA : a.hashable) (ab : a.equals b = true) :
    b.equals a = true := by
  rw [equals_of_hashable (hashable_of_equals hashedA ab), scalarEquals_comm,
    ← equals_of_hashable hashedA]
  exact ab

theorem equals_trans {a b c : Value} (hashedA : a.hashable) (ab : a.equals b = true)
    (bc : b.equals c = true) : a.equals c = true := by
  rw [equals_of_hashable (hashable_of_equals hashedA ab)] at bc
  rw [equals_of_hashable hashedA] at ab ⊢
  exact scalarEquals_trans ab bc

theorem equals_false_of_equals {a b c : Value} (hashedA : a.hashable) (same : a.equals b = true)
    (apart : a.equals c = false) : b.equals c = false := by
  apply Bool.eq_false_iff.mpr
  intro meets
  rw [equals_trans hashedA same meets] at apart
  exact Bool.noConfusion apart

end Kata.Value

namespace Kata.Drill

open Value

def insertNew (acc : List Value) (x : Value) : List Value :=
  if acc.any fun y => y.equals x then acc else acc ++ [x]

def IsFirstOfClass (items : List Value) (x : Value) : Prop :=
  ∃ before after, items = before ++ x :: after ∧ ∀ z ∈ before, z.equals x = false

theorem IsFirstOfClass.cons {x z : Value} {rest : List Value} (apart : x.equals z = false)
    (first : IsFirstOfClass rest z) : IsFirstOfClass (x :: rest) z := by
  obtain ⟨before, after, split, firstOf⟩ := first
  refine ⟨x :: before, after, by simp [split], fun w placed => ?_⟩
  rcases List.mem_cons.mp placed with rfl | earlier
  · exact apart
  · exact firstOf w earlier

theorem equals_false_of_not_any {acc : List Value} {x : Value}
    (fresh : ¬(acc.any fun y => y.equals x) = true) : ∀ y ∈ acc, y.equals x = false := by
  intro y member
  simpa using List.any_eq_false.mp (Bool.eq_false_iff.mpr fresh) y member

/-- `members` is the set of `items`: some of the items in their order, no two of them equal, each
the first of its class, and every item one of them or equal to one of them. -/
structure SetOf (items members : List Value) : Prop where
  sublist : members.Sublist items
  distinct : members.Pairwise fun x y => x.equals y = false
  covers : ∀ x ∈ items, x ∈ members ∨ ∃ y ∈ members, y.equals x = true
  first : ∀ x ∈ members, IsFirstOfClass items x

theorem foldlM_members (xs acc : List Value) (hashed : ∀ x ∈ xs, x.hashable) :
    xs.foldlM (fun acc x =>
      if !x.hashable then throw (Fault.unhashable x.typeName)
      else if acc.any fun y => y.equals x then pure acc
      else pure (acc ++ [x])) acc = (.ok (xs.foldl insertNew acc) : Except Fault (List Value)) := by
  induction xs generalizing acc with
  | nil => rfl
  | cons x rest ih =>
    have restHashed : ∀ y ∈ rest, y.hashable := fun y mem => hashed y (List.mem_cons_of_mem x mem)
    rw [List.foldlM_cons, List.foldl_cons, if_neg (by simp [hashed x List.mem_cons_self]),
      insertNew]
    split <;> exact ih _ restHashed

theorem members_list (xs : List Value) (hashed : ∀ x ∈ xs, x.hashable) :
    members (.list xs) = .ok (xs.foldl insertNew []) := by
  rw [members, items]
  exact foldlM_members xs [] hashed

theorem foldl_insertNew_append (acc xs : List Value) :
    ∃ new, xs.foldl insertNew acc = acc ++ new ∧ new.Sublist xs := by
  induction xs generalizing acc with
  | nil => exact ⟨[], by simp, .slnil⟩
  | cons x rest ih =>
    rw [List.foldl_cons, insertNew]
    split
    · obtain ⟨new, built, sublist⟩ := ih acc
      exact ⟨new, built, sublist.cons x⟩
    · obtain ⟨new, built, sublist⟩ := ih (acc ++ [x])
      exact ⟨x :: new, by simp [built], sublist.cons_cons x⟩

theorem foldl_insertNew_distinct {acc : List Value} (xs : List Value)
    (distinct : acc.Pairwise fun x y => x.equals y = false) :
    (xs.foldl insertNew acc).Pairwise fun x y => x.equals y = false := by
  induction xs generalizing acc with
  | nil => exact distinct
  | cons x rest ih =>
    rw [List.foldl_cons, insertNew]
    split
    · exact ih distinct
    · rename_i fresh
      apply ih
      refine List.pairwise_append.mpr ⟨distinct, List.pairwise_singleton _ x, ?_⟩
      intro y member z single
      rw [List.mem_singleton.mp single]
      exact equals_false_of_not_any fresh y member

theorem foldl_insertNew_covers (acc xs : List Value) :
    ∀ x ∈ acc ++ xs, x ∈ xs.foldl insertNew acc ∨
      ∃ y ∈ xs.foldl insertNew acc, y.equals x = true := by
  induction xs generalizing acc with
  | nil =>
    intro x mem
    exact .inl (by simpa using mem)
  | cons x rest ih =>
    rw [List.foldl_cons, insertNew]
    split
    · rename_i seen
      intro z mem
      obtain ⟨new, built, -⟩ := foldl_insertNew_append acc rest
      rcases List.mem_append.mp mem with old | tail
      · exact ih acc z (List.mem_append_left rest old)
      rcases List.mem_cons.mp tail with rfl | later
      · obtain ⟨y, member, equal⟩ := List.any_eq_true.mp seen
        exact .inr ⟨y, built ▸ List.mem_append_left new member, equal⟩
      · exact ih acc z (List.mem_append_right acc later)
    · intro z mem
      exact ih (acc ++ [x]) z (by simpa using mem)

theorem foldl_insertNew_first {acc : List Value} (xs : List Value)
    (accHashed : ∀ y ∈ acc, y.hashable) (hashed : ∀ x ∈ xs, x.hashable) :
    ∀ x ∈ xs.foldl insertNew acc, x ∈ acc ∨
      ((∀ y ∈ acc, y.equals x = false) ∧ IsFirstOfClass xs x) := by
  induction xs generalizing acc with
  | nil =>
    intro x mem
    exact .inl (by simpa using mem)
  | cons x rest ih =>
    have restHashed : ∀ y ∈ rest, y.hashable := fun y mem => hashed y (List.mem_cons_of_mem x mem)
    intro z mem
    rw [List.foldl_cons, insertNew] at mem
    split at mem
    · rename_i seen
      rcases ih accHashed restHashed z mem with old | ⟨apart, first⟩
      · exact .inl old
      obtain ⟨y, member, equal⟩ := List.any_eq_true.mp seen
      exact .inr ⟨apart, first.cons (equals_false_of_equals (accHashed y member) equal
        (apart y member))⟩
    · rename_i fresh
      have grownHashed : ∀ y ∈ acc ++ [x], y.hashable := by
        intro y mem
        rcases List.mem_append.mp mem with old | single
        · exact accHashed y old
        · exact List.mem_singleton.mp single ▸ hashed x List.mem_cons_self
      rcases ih grownHashed restHashed z mem with old | ⟨apart, first⟩
      · rcases List.mem_append.mp old with old | single
        · exact .inl old
        rw [List.mem_singleton.mp single]
        exact .inr ⟨equals_false_of_not_any fresh, [], rest, rfl, by simp⟩
      · exact .inr ⟨fun y member => apart y (List.mem_append_left _ member),
          first.cons (apart x (by simp))⟩

theorem members_setOf (xs : List Value) (hashed : ∀ x ∈ xs, x.hashable) :
    ∃ set, members (.list xs) = .ok set ∧ SetOf xs set := by
  refine ⟨xs.foldl insertNew [], members_list xs hashed, ?_, ?_, ?_, ?_⟩
  · obtain ⟨new, built, sublist⟩ := foldl_insertNew_append [] xs
    simpa [built] using sublist
  · exact foldl_insertNew_distinct xs .nil
  · simpa using foldl_insertNew_covers [] xs
  · intro x mem
    simpa using foldl_insertNew_first xs (by simp) hashed x mem

theorem frequency_pos_iff (xs : List Value) (v : Value) :
    (∃ n, 0 < n ∧ frequency (.list xs) v = .ok (.int n)) ↔ ∃ x ∈ xs, x.equals v = true := by
  cases xs with
  | nil => simp [frequency, truthy, pure, Except.pure]
  | cons x rest => simp [frequency, truthy, items, bind, Except.bind, pure, Except.pure]

section Common

variable {xs ys small large : List Value}

theorem SetOf.hashable_of_mem (set : SetOf xs small) (hashed : ∀ x ∈ xs, x.hashable)
    {x : Value} (member : x ∈ small) : x.hashable :=
  hashed x (set.sublist.subset member)

theorem SetOf.exists_equals (set : SetOf xs small) (hashed : ∀ x ∈ xs, x.hashable)
    {a v : Value} (mem : a ∈ xs) (equal : a.equals v = true) :
    ∃ y ∈ small, y.equals v = true := by
  rcases set.covers a mem with member | ⟨y, member, same⟩
  · exact ⟨a, member, equal⟩
  · exact ⟨y, member, equals_trans (set.hashable_of_mem hashed member) same equal⟩

theorem common_members (setSmall : SetOf xs small) (setLarge : SetOf ys large)
    (hashedSmall : ∀ x ∈ xs, x.hashable) (hashedLarge : ∀ y ∈ ys, y.hashable) :
    (∀ x ∈ small.filter (fun x => large.any fun y => y.equals x), x.equals x = true) ∧
      ∀ v, (∃ x ∈ small.filter (fun x => large.any fun y => y.equals x), x.equals v = true) ↔
        (∃ a ∈ xs, a.equals v = true) ∧ (∃ b ∈ ys, b.equals v = true) := by
  have kept : ∀ x, x ∈ small.filter (fun x => large.any fun y => y.equals x) ↔
      x ∈ small ∧ ∃ y ∈ large, y.equals x = true := by
    simp only [List.mem_filter, List.any_eq_true, implies_true]
  refine ⟨?_, fun v => ⟨?_, ?_⟩⟩
  · intro x mem
    obtain ⟨member, y, other, same⟩ := (kept x).mp mem
    have hashedY := setLarge.hashable_of_mem hashedLarge other
    exact equals_trans (hashable_of_equals hashedY same) (equals_symm hashedY same) same
  · rintro ⟨x, mem, equal⟩
    obtain ⟨member, y, other, same⟩ := (kept x).mp mem
    exact ⟨⟨x, setSmall.sublist.subset member, equal⟩, ⟨y, setLarge.sublist.subset other,
      equals_trans (setLarge.hashable_of_mem hashedLarge other) same equal⟩⟩
  · rintro ⟨⟨a, inSmall, equalA⟩, ⟨b, inLarge, equalB⟩⟩
    obtain ⟨x, member, equalX⟩ := setSmall.exists_equals hashedSmall inSmall equalA
    obtain ⟨y, other, equalY⟩ := setLarge.exists_equals hashedLarge inLarge equalB
    have meet := equals_trans (setLarge.hashable_of_mem hashedLarge other) equalY
      (equals_symm (setSmall.hashable_of_mem hashedSmall member) equalX)
    exact ⟨x, (kept x).mpr ⟨member, y, other, meet⟩, equalX⟩

theorem common_distinct (setSmall : SetOf xs small) (hashedSmall : ∀ x ∈ xs, x.hashable)
    (large : List Value) :
    ((small.filter fun x => large.any fun y => y.equals x).mergeSort memberLE).Pairwise
      fun x y => x.equals y = false := by
  have scalar : (small.filter fun x => large.any fun y => y.equals x).Pairwise
      fun x y => scalarEquals x y = false := by
    refine (setSmall.distinct.filter _).imp_of_mem fun {x y} member _ unequal => ?_
    rwa [← equals_of_hashable
      (setSmall.hashable_of_mem hashedSmall (List.mem_filter.mp member).1)]
  refine ((List.mergeSort_perm _ _).symm.pairwise scalar fun {x y} unequal => ?_).imp_of_mem
    fun {x y} member _ unequal => ?_
  · rwa [scalarEquals_comm]
  · have mem := (List.mem_filter.mp ((List.mergeSort_perm _ _).subset member)).1
    rwa [equals_of_hashable (setSmall.hashable_of_mem hashedSmall mem)]

theorem sorted_common (setSmall : SetOf xs small) (setLarge : SetOf ys large)
    (hashedSmall : ∀ x ∈ xs, x.hashable) (hashedLarge : ∀ y ∈ ys, y.hashable) :
    ((small.filter fun x => large.any fun y => y.equals x).mergeSort memberLE).Pairwise
        (fun x y => x.equals y = false) ∧
      (∀ x ∈ (small.filter fun x => large.any fun y => y.equals x).mergeSort memberLE,
        x.equals x = true) ∧
      (∀ v, (∃ x ∈ (small.filter fun x => large.any fun y => y.equals x).mergeSort memberLE,
          x.equals v = true) ↔
        (∃ a ∈ xs, a.equals v = true) ∧ (∃ b ∈ ys, b.equals v = true)) ∧
      ∀ x ∈ (small.filter fun x => large.any fun y => y.equals x).mergeSort memberLE,
        x ∈ small ∧ IsFirstOfClass xs x := by
  obtain ⟨selfEqual, meets⟩ := common_members setSmall setLarge hashedSmall hashedLarge
  refine ⟨common_distinct setSmall hashedSmall large, fun x mem => ?_, fun v => ?_,
    fun x mem => ?_⟩
  · exact selfEqual x ((List.mergeSort_perm _ _).subset mem)
  · rw [← meets v]
    exact exists_congr fun x => and_congr_left fun _ => List.mem_mergeSort
  · have member := (List.mem_filter.mp ((List.mergeSort_perm _ _).subset mem)).1
    exact ⟨member, setSmall.first x member⟩

end Common

theorem commonItems_of_members {a b : Value} {left right : List Value}
    (leftMembers : members a = .ok left) (rightMembers : members b = .ok right) :
    commonItems a b = .ok (.list (if left.length < right.length then
      (left.filter fun x => right.any fun y => y.equals x).mergeSort memberLE
      else (right.filter fun x => left.any fun y => y.equals x).mergeSort memberLE)) := by
  simp only [commonItems, leftMembers, rightMembers, bind, Except.bind, pure, Except.pure,
    gt_iff_lt]
  split <;> rfl

/-- What the set intersection of two lists of scalars answers, with `left` and `right` their sets:
no two of its members are equal and none is a NaN; a value equals one of them exactly when its
frequency in both lists is positive; and each is the member, first of its class, of the smaller of
the two sets, of the second set when both have the same size. -/
structure Intersection (xs ys left right common : List Value) : Prop where
  distinct : common.Pairwise fun x y => x.equals y = false
  selfEqual : ∀ x ∈ common, x.equals x = true
  meets : ∀ v, (∃ x ∈ common, x.equals v = true) ↔
    (∃ n, 0 < n ∧ frequency (.list xs) v = .ok (.int n)) ∧
      (∃ n, 0 < n ∧ frequency (.list ys) v = .ok (.int n))
  representative : ∀ x ∈ common, if left.length < right.length then x ∈ left ∧ IsFirstOfClass xs x
    else x ∈ right ∧ IsFirstOfClass ys x

/-- The common members of two lists of scalars are their set intersection under the equality of
values, so equal numbers of different kinds meet and a NaN meets nothing. -/
theorem commonItems_intersection (xs ys : List Value) (hashedLeft : ∀ x ∈ xs, x.hashable)
    (hashedRight : ∀ y ∈ ys, y.hashable) :
    ∃ left right common,
      members (.list xs) = .ok left ∧ members (.list ys) = .ok right ∧
      commonItems (.list xs) (.list ys) = .ok (.list common) ∧
      Intersection xs ys left right common := by
  obtain ⟨left, leftMembers, setLeft⟩ := members_setOf xs hashedLeft
  obtain ⟨right, rightMembers, setRight⟩ := members_setOf ys hashedRight
  refine ⟨left, right, _, leftMembers, rightMembers,
    commonItems_of_members leftMembers rightMembers, ?_⟩
  by_cases shorter : left.length < right.length
  · obtain ⟨distinct, selfEqual, meets, first⟩ :=
      sorted_common setLeft setRight hashedLeft hashedRight
    rw [if_pos shorter]
    exact ⟨distinct, selfEqual, fun v => by rw [frequency_pos_iff, frequency_pos_iff, meets v],
      fun x mem => by simpa only [if_pos shorter] using first x mem⟩
  · obtain ⟨distinct, selfEqual, meets, first⟩ :=
      sorted_common setRight setLeft hashedRight hashedLeft
    rw [if_neg shorter]
    exact ⟨distinct, selfEqual,
      fun v => by rw [frequency_pos_iff, frequency_pos_iff, meets v, and_comm],
      fun x mem => by simpa only [if_neg shorter] using first x mem⟩

theorem commonItems_intersection_mixed :
    (∀ x ∈ [Value.bool true, .int 2, .float Binary64.nan], x.hashable) ∧
      (∀ y ∈ [Value.int 1, .float Binary64.nan, .str "2"], y.hashable) ∧
      ∃ left right common,
        members (.list [.bool true, .int 2, .float Binary64.nan]) = .ok left ∧
        members (.list [.int 1, .float Binary64.nan, .str "2"]) = .ok right ∧
        commonItems (.list [.bool true, .int 2, .float Binary64.nan])
          (.list [.int 1, .float Binary64.nan, .str "2"]) = .ok (.list common) ∧
        Intersection [.bool true, .int 2, .float Binary64.nan]
          [.int 1, .float Binary64.nan, .str "2"] left right common :=
  ⟨by decide, by decide, commonItems_intersection _ _ (by decide) (by decide)⟩

end Kata.Drill
