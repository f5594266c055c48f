import Mathlib
import Kata.Tally

/-! A tally holds each item once, in order of first appearance; its most common list is stable. -/

namespace Kata

variable {α : Type} [DecidableEq α]

theorem sum_count_of_nodup {xs keys : List α} (nodup : keys.Nodup)
    (mem_iff : ∀ x, x ∈ keys ↔ x ∈ xs) : (keys.map xs.count).sum = xs.length := by
  have perm : keys.Perm xs.dedup :=
    (List.perm_ext_iff_of_nodup nodup (List.nodup_dedup xs)).mpr fun x => by
      rw [mem_iff, List.mem_dedup]
  rw [(perm.map _).sum_eq, List.sum_map_count_dedup_eq_length]

/-- `keys` lists the distinct items of `xs`, each once, in the order of their first appearance. -/
structure FirstSeen (xs keys : List α) : Prop where
  mem_iff : ∀ x, x ∈ keys ↔ x ∈ xs
  ordered : keys.Pairwise fun a b => xs.idxOf a < xs.idxOf b

namespace FirstSeen

variable {xs keys : List α} {x : α}

theorem nodup (seen : FirstSeen xs keys) : keys.Nodup :=
  seen.ordered.imp fun before same => by
    subst same
    exact Nat.lt_irrefl _ before

theorem nil : FirstSeen ([] : List α) [] := ⟨by simp, .nil⟩

theorem sum_count (seen : FirstSeen xs keys) : (keys.map xs.count).sum = xs.length :=
  sum_count_of_nodup seen.nodup seen.mem_iff

theorem ordered_append (seen : FirstSeen xs keys) (x : α) :
    keys.Pairwise fun a b => (xs ++ [x]).idxOf a < (xs ++ [x]).idxOf b :=
  seen.ordered.imp_of_mem fun memA memB before => by
    rwa [List.idxOf_append_of_mem ((seen.mem_iff _).mp memA),
      List.idxOf_append_of_mem ((seen.mem_iff _).mp memB)]

theorem append_old (seen : FirstSeen xs keys) (old : x ∈ xs) : FirstSeen (xs ++ [x]) keys := by
  refine ⟨fun y => ?_, seen.ordered_append x⟩
  rw [seen.mem_iff, List.mem_append, List.mem_singleton]
  exact ⟨.inl, fun found => found.elim id fun same => same ▸ old⟩

theorem append_new (seen : FirstSeen xs keys) (new : x ∉ xs) :
    FirstSeen (xs ++ [x]) (keys ++ [x]) := by
  refine ⟨fun y => by simp [seen.mem_iff], ?_⟩
  rw [List.pairwise_append]
  refine ⟨seen.ordered_append x, List.pairwise_singleton _ _, fun a memA b memB => ?_⟩
  rw [List.mem_singleton.mp memB, List.idxOf_append_of_mem ((seen.mem_iff a).mp memA),
    List.idxOf_append_of_notMem new, List.idxOf_cons_self, Nat.add_zero]
  exact List.idxOf_lt_length_iff.mpr ((seen.mem_iff a).mp memA)

end FirstSeen

namespace Tally

def Counts (t : Tally α) (xs : List α) : Prop :=
  ∃ keys, FirstSeen xs keys ∧ t.entries = keys.map fun x => (x, xs.count x)

theorem counts_empty : (empty : Tally α).Counts [] := ⟨[], FirstSeen.nil, rfl⟩

theorem add_entries_of_present {t : Tally α} {x : α} (present : t.entries.any (·.1 == x)) :
    (t.add x).entries = t.entries.map fun (y, n) => if y == x then (y, n + 1) else (y, n) := by
  rw [Tally.add, if_pos present]

theorem add_entries_of_absent {t : Tally α} {x : α} (absent : ¬t.entries.any (·.1 == x)) :
    (t.add x).entries = t.entries ++ [(x, 1)] := by
  rw [Tally.add, if_neg absent]

theorem Counts.add {t : Tally α} {xs : List α} (counts : t.Counts xs) (x : α) :
    (t.add x).Counts (xs ++ [x]) := by
  obtain ⟨keys, seen, entries⟩ := counts
  by_cases old : x ∈ xs
  · have present : (t.entries.any (·.1 == x)) = true := by
      simpa [entries, seen.mem_iff] using old
    refine ⟨keys, seen.append_old old, ?_⟩
    rw [add_entries_of_present present, entries, List.map_map]
    refine List.map_congr_left fun y _ => ?_
    by_cases same : y = x <;> simp [same, List.count_append, Ne.symm]
  · have absent : ¬t.entries.any (·.1 == x) := by
      simpa [entries, seen.mem_iff] using old
    refine ⟨keys ++ [x], seen.append_new old, ?_⟩
    rw [add_entries_of_absent absent, entries, List.map_append, List.map_singleton,
      List.count_append, List.count_eq_zero_of_not_mem old, List.count_singleton_self,
      Nat.zero_add]
    refine congrArg (· ++ [(x, 1)]) (List.map_congr_left fun y mem => ?_)
    have other : x ≠ y := fun same => old (same ▸ (seen.mem_iff y).mp mem)
    simp [List.count_append, other]

theorem Counts.foldl {t : Tally α} {xs : List α} (counts : t.Counts xs) (ys : List α) :
    (ys.foldl Tally.add t).Counts (xs ++ ys) := by
  induction ys generalizing xs t with
  | nil => simpa using counts
  | cons y rest ih =>
    rw [List.foldl_cons, ← List.singleton_append, ← List.append_assoc]
    exact ih (counts.add y)

theorem ofList_counts (xs : List α) : (ofList xs).Counts xs := by
  have counted := Counts.foldl counts_empty xs
  rwa [List.nil_append] at counted

omit [DecidableEq α] in
private theorem byCount_trans (a b c : α × Nat) (ab : decide (a.2 ≥ b.2) = true)
    (bc : decide (b.2 ≥ c.2) = true) : decide (a.2 ≥ c.2) = true := by
  simp only [decide_eq_true_eq] at *
  omega

omit [DecidableEq α] in
private theorem byCount_total (a b : α × Nat) :
    (decide (a.2 ≥ b.2) || decide (b.2 ≥ a.2)) = true := by
  simp only [Bool.or_eq_true, decide_eq_true_eq]
  omega

omit [DecidableEq α] in
theorem mostCommon_pairwise (t : Tally α) : t.mostCommon.Pairwise fun a b => b.2 ≤ a.2 := by
  simpa [mostCommon] using List.pairwise_mergeSort byCount_trans byCount_total t.entries

omit [DecidableEq α] in
theorem mostCommon_filter_count (t : Tally α) (c : Nat) :
    t.mostCommon.filter (·.2 == c) = t.entries.filter (·.2 == c) := by
  have oneCount : (t.entries.filter (·.2 == c)).Pairwise fun a b => decide (a.2 ≥ b.2) := by
    refine List.pairwise_of_forall_mem_list fun a memA b memB => ?_
    simp only [List.mem_filter, beq_iff_eq] at memA memB
    simp [memA.2, memB.2]
  have kept : (t.entries.filter (·.2 == c)).Sublist (t.mostCommon.filter (·.2 == c)) := by
    simpa [mostCommon] using (List.sublist_mergeSort byCount_trans byCount_total oneCount
      List.filter_sublist).filter (·.2 == c)
  exact (kept.eq_of_length ((List.mergeSort_perm _ _).filter _).length_eq.symm).symm

end Tally

/-- `entries` lists the tally of `xs` in most common order: each distinct item of `xs` once with
its number of occurrences, larger counts first, equal counts in order of first appearance. -/
structure MostCommonOf (xs : List α) (entries : List (α × Nat)) : Prop where
  mem_iff : ∀ x, x ∈ entries.map Prod.fst ↔ x ∈ xs
  count_eq : ∀ e ∈ entries, e.2 = xs.count e.1
  ordered : entries.Pairwise fun a b => b.2 < a.2 ∨ a.2 = b.2 ∧ xs.idxOf a.1 < xs.idxOf b.1

namespace MostCommonOf

variable {xs : List α} {entries : List (α × Nat)}

theorem keys_nodup (most : MostCommonOf xs entries) : (entries.map Prod.fst).Nodup := by
  rw [List.Nodup, List.pairwise_map]
  refine most.ordered.imp_of_mem fun {a b} memA memB before same => ?_
  have counts : a.2 = b.2 := by rw [most.count_eq a memA, most.count_eq b memB, same]
  rw [counts, same] at before
  omega

theorem sum_counts (most : MostCommonOf xs entries) : (entries.map Prod.snd).sum = xs.length := by
  have counts : entries.map Prod.snd = (entries.map Prod.fst).map xs.count := by
    rw [List.map_map]
    exact List.map_congr_left fun e mem => most.count_eq e mem
  rw [counts, sum_count_of_nodup most.keys_nodup most.mem_iff]

end MostCommonOf

theorem Tally.Counts.mostCommon {t : Tally α} {xs : List α} (counts : t.Counts xs) :
    MostCommonOf xs t.mostCommon := by
  obtain ⟨keys, seen, entries⟩ := counts
  have perm : t.mostCommon.Perm t.entries := List.mergeSort_perm _ _
  have firstSeen : t.entries.Pairwise fun a b => xs.idxOf a.1 < xs.idxOf b.1 := by
    rw [entries, List.pairwise_map]
    exact seen.ordered
  refine ⟨fun x => ?_, fun e mem => ?_, List.pairwise_of_forall_sublist fun {a b} pair => ?_⟩
  · rw [(perm.map Prod.fst).mem_iff, entries, List.map_map]
    simp [seen.mem_iff]
  · obtain ⟨y, -, rfl⟩ := List.mem_map.mp (entries ▸ perm.mem_iff.mp mem)
    rfl
  · rcases Nat.lt_or_eq_of_le (t.mostCommon_pairwise.forall_sublist pair) with fewer | same
    · exact .inl fewer
    · refine .inr ⟨same.symm, firstSeen.forall_sublist ?_⟩
      have oneCount : [a, b].Sublist (t.mostCommon.filter (·.2 == a.2)) := by
        simpa [same] using pair.filter (·.2 == a.2)
      rw [Tally.mostCommon_filter_count] at oneCount
      exact oneCount.trans List.filter_sublist

end Kata
