import Mathlib.Data.List.Perm.Subperm
import Kata.Play.Games
import Kata.Proofs.Draws

/-! Sampling without replacement draws items at distinct positions of the population. -/

namespace Kata.Random

section Vacate

variable {β : Type}

def vacate (live : List β) (j : Nat) : List β :=
  match live.getLast? with
  | some last => (live.set j last).dropLast
  | none => []

theorem set_length_sub_one (l : List β) (a : β) (nonempty : l ≠ []) :
    l.set (l.length - 1) a = l.dropLast ++ [a] := by
  conv_lhs => rw [← List.dropLast_append_getLast nonempty]
  simp [List.set_append_right]

theorem vacate_eq {live : List β} {j : Nat} (inside : j < live.length) :
    vacate live j = (live.set j live[live.length - 1]).dropLast := by
  rw [vacate, List.getLast?_eq_getElem?, List.getElem?_eq_getElem (by omega)]

theorem length_vacate {live : List β} {j : Nat} (inside : j < live.length) :
    (vacate live j).length = live.length - 1 := by
  simp [vacate_eq inside]

theorem getElem_vacate {live : List β} {j m : Nat} (inside : j < live.length)
    (stillLive : m < live.length) (slot : m < (vacate live j).length) :
    (vacate live j)[m] = if j = m then live[live.length - 1] else live[m] := by
  simp only [vacate_eq inside, List.getElem_dropLast, List.getElem_set]

theorem vacate_perm {live : List β} {j : Nat} (inside : j < live.length) :
    (vacate live j ++ [live[j]]).Perm live := by
  have last : live.length - 1 < live.length := by omega
  have swapped := List.set_set_perm inside last
  have dropped : (live.set j live[live.length - 1]).set (live.length - 1) live[j] =
      vacate live j ++ [live[j]] := by
    have setLast := set_length_sub_one (live.set j live[live.length - 1]) live[j]
      (List.ne_nil_of_length_pos (by simp; omega))
    rwa [List.length_set, ← vacate_eq inside] at setLast
  rwa [dropped] at swapped

end Vacate

variable {α : Type} [Inhabited α]

/-- The pool of a sample of `xs` after some draws: its live slots hold, one each, the items at the
positions `live`; the items drawn are the items at the positions `taken`, in order of drawing; and
`live` and `taken` together are all the positions of `xs`, each once. -/
structure PoolState (xs : List α) (pool : Array α) (drawn : List α)
    (live taken : List (Fin xs.length)) : Prop where
  size : pool.size = xs.length
  slots : ∀ m (slot : m < live.length), pool.getD m default = xs.get live[m]
  drawn_eq : drawn = taken.map xs.get
  perm : (live ++ taken).Perm (List.finRange xs.length)

namespace PoolState

variable {xs : List α} {pool : Array α} {drawn : List α} {live taken : List (Fin xs.length)}

theorem start (xs : List α) : PoolState xs xs.toArray [] (List.finRange xs.length) [] where
  size := List.size_toArray
  slots m slot := by
    simp only [List.length_finRange] at slot
    simp [Array.getD_eq_getD_getElem?, slot, List.getElem_finRange]
  drawn_eq := rfl
  perm := by simp

theorem length_add (state : PoolState xs pool drawn live taken) :
    live.length + taken.length = xs.length := by
  simpa using state.perm.length_eq

theorem taken_nodup (state : PoolState xs pool drawn live taken) : taken.Nodup :=
  ((state.perm.nodup_iff.mpr (List.nodup_finRange _)).sublist (List.sublist_append_right _ _))

theorem draw (state : PoolState xs pool drawn live taken) {j : Nat} (inside : j < live.length) :
    PoolState xs (pool.setIfInBounds j (pool.getD (live.length - 1) default))
      (drawn ++ [pool.getD j default]) (vacate live j) (taken ++ [live[j]]) where
  size := by rw [Array.size_setIfInBounds, state.size]
  slots m slot := by
    have stillLive : m < live.length := by rw [length_vacate inside] at slot; omega
    have inPool : j < pool.size := by have := state.length_add; rw [state.size]; omega
    rw [getElem_vacate inside stillLive slot, Array.getD_eq_getD_getElem?,
      Array.getElem?_setIfInBounds]
    by_cases moved : j = m
    · rw [if_pos moved, if_pos inPool, if_pos moved, Option.getD_some]
      exact state.slots _ (by omega)
    · rw [if_neg moved, if_neg moved, ← Array.getD_eq_getD_getElem?]
      exact state.slots m stillLive
  drawn_eq := by rw [state.drawn_eq, state.slots j inside, List.map_append, List.map_singleton]
  perm := by
    have moved : (vacate live j ++ (taken ++ [live[j]])).Perm
        (vacate live j ++ [live[j]] ++ taken) := by
      rw [List.append_assoc]
      exact List.Perm.append_left _ (List.perm_append_comm)
    exact moved.trans (((vacate_perm inside).append_right taken).trans state.perm)

end PoolState

open Draw.Always

def PoolDrawn (xs : List α) (i : Nat) (state : Array α × List α) : Prop :=
  ∃ live taken, PoolState xs state.1 state.2 live taken ∧ taken.length = i

theorem poolDraw_always (xs : List α) {i : Nat} (bound : i < xs.length)
    {state : Array α × List α} (drawn : PoolDrawn xs i state) :
    (poolDraw xs.length state i).Always (PoolDrawn xs (i + 1)) := by
  obtain ⟨live, taken, pool, count⟩ := drawn
  have liveCount : live.length = xs.length - i := by have := pool.length_add; omega
  unfold poolDraw
  refine bind (below_always (by omega)) fun j inside => of_pure ?_
  rw [← liveCount] at inside ⊢
  exact ⟨_, _, pool.draw inside, by simp [count]⟩

theorem poolDraws_always (xs : List α) {i : Nat} (bound : i ≤ xs.length) :
    ((List.range i).foldlM (poolDraw xs.length) (xs.toArray, [])).Always (PoolDrawn xs i) :=
  foldlM_range i ⟨_, [], PoolState.start xs, rfl⟩ fun _ before _ drawn =>
    poolDraw_always xs (by omega) drawn

theorem sample_pooled (xs : List α) {k : Nat} (fits : k ≤ xs.length)
    (pooled : xs.length ≤ poolLimit k) :
    (sample xs k).Always fun ys =>
      ∃ taken : List (Fin xs.length), taken.Nodup ∧ taken.length = k ∧ ys = taken.map xs.get := by
  unfold sample
  rw [if_neg (by omega), if_pos pooled]
  refine bind (poolDraws_always xs fits) fun state drawn => of_pure ?_
  obtain ⟨live, taken, pool, count⟩ := drawn
  exact ⟨taken, pool.taken_nodup, count, pool.drawn_eq⟩

omit [Inhabited α] in
theorem count_le_of_positions [DecidableEq α] (xs : List α) {taken : List (Fin xs.length)}
    (distinct : taken.Nodup) (x : α) : (taken.map xs.get).count x ≤ xs.count x := by
  obtain ⟨order, reordered, within⟩ := distinct.subperm fun i _ => List.mem_finRange i
  calc (taken.map xs.get).count x = (order.map xs.get).count x :=
        ((reordered.map xs.get).count_eq x).symm
    _ ≤ ((List.finRange xs.length).map xs.get).count x := (within.map xs.get).count_le x
    _ = xs.count x := by rw [List.map_get_finRange]

/-- A sample of `k` items from a population that fits a pool: at every stage of its loop the live
slots of the pool hold the items at the positions not drawn yet, one slot each; its items are the
items at `k` distinct positions; and a deal of twenty cards therefore has twenty cards, at most
sixteen of them tens and at most thirty-six low. -/
theorem sample_without_replacement (xs : List α) (k : Nat) (fits : k ≤ xs.length)
    (pooled : xs.length ≤ poolLimit k) :
    (∀ i ≤ k, ((List.range i).foldlM (poolDraw xs.length) (xs.toArray, [])).Always fun state =>
      ∃ live taken, PoolState xs state.1 state.2 live taken ∧ taken.length = i) ∧
    (sample xs k).Always (fun ys =>
      ∃ taken : List (Fin xs.length), taken.Nodup ∧ taken.length = k ∧ ys = taken.map xs.get) ∧
    (sample Play.deck 20).Always fun deal =>
      deal.length = 20 ∧ deal.count "tens" ≤ 16 ∧ deal.count "low" ≤ 36 := by
  refine ⟨fun i bound => poolDraws_always xs (by omega), sample_pooled xs fits pooled, ?_⟩
  refine (sample_pooled Play.deck (by decide) (by decide)).mono ?_
  rintro deal ⟨taken, distinct, count, rfl⟩
  have tens := count_le_of_positions Play.deck distinct "tens"
  have low := count_le_of_positions Play.deck distinct "low"
  exact ⟨by simp [count], Nat.le_trans tens (by decide), Nat.le_trans low (by decide)⟩

theorem sample_without_replacement_deck :
    20 ≤ Play.deck.length ∧ Play.deck.length ≤ poolLimit 20 ∧
      (sample Play.deck 20).Always fun ys =>
        ∃ taken : List (Fin Play.deck.length), taken.Nodup ∧ taken.length = 20 ∧
          ys = taken.map Play.deck.get :=
  ⟨by decide, by decide,
    (sample_without_replacement Play.deck 20 (by decide) (by decide)).2.1⟩

end Kata.Random
