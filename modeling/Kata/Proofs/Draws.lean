import Kata.Random.Draw

/-! Draws that succeed from every generator state, built from binds, folds and maps. -/

namespace Kata

theorem bind_eq_ok {ε α β : Type} {x : Except ε α} {f : α → Except ε β} {b : β} :
    (x >>= f) = .ok b ↔ ∃ a, x = .ok a ∧ f a = .ok b := by
  cases x <;> simp [bind, Except.bind]

end Kata

namespace Kata.Random

/-- From every generator state the draw succeeds, with a result that satisfies `post`. -/
def Draw.Always {α : Type} (d : Draw α) (post : α → Prop) : Prop :=
  ∀ t, ∃ a t', d.run t = .ok (a, t') ∧ post a

namespace Draw.Always

variable {α β γ : Type} {d : Draw α} {post : α → Prop}

theorem of_pure {a : α} (holds : post a) : (pure a : Draw α).Always post :=
  fun t => ⟨a, t, rfl, holds⟩

theorem bind {f : α → Draw β} {next : β → Prop} (first : d.Always post)
    (rest : ∀ a, post a → (f a).Always next) : (d >>= f).Always next := by
  intro t
  obtain ⟨a, t₁, ran, holds⟩ := first t
  obtain ⟨b, t₂, ranRest, holdsRest⟩ := rest a holds t₁
  exact ⟨b, t₂, by rw [StateT.run_bind, ran]; exact ranRest, holdsRest⟩

theorem mono {weaker : α → Prop} (always : d.Always post) (implies : ∀ a, post a → weaker a) :
    d.Always weaker := by
  intro t
  obtain ⟨a, t', ran, holds⟩ := always t
  exact ⟨a, t', ran, implies a holds⟩

theorem of_modifyGet {f : Twister → α × Twister} (holds : ∀ t, post (f t).1) :
    (modifyGet f : Draw α).Always post :=
  fun t => ⟨(f t).1, (f t).2, rfl, holds t⟩

theorem of_lift {x : Except Fault α} {a : α} (ok : x = .ok a) :
    (liftM x : Draw α).Always (· = a) := by
  intro t
  refine ⟨a, t, ?_, rfl⟩
  rw [ok]
  rfl

theorem foldlM_range {inv : Nat → β → Prop} {f : β → Nat → Draw β} {init : β} (k : Nat)
    (start : inv 0 init) (step : ∀ i < k, ∀ b, inv i b → (f b i).Always (inv (i + 1))) :
    ((List.range k).foldlM f init).Always (inv k) := by
  induction k with
  | zero => exact of_pure start
  | succ k ih =>
    rw [List.range_succ, List.foldlM_append]
    refine bind (ih fun i bound => step i (by omega)) fun b holds => ?_
    simp only [List.foldlM_cons, List.foldlM_nil, bind_pure]
    exact step k (by omega) b holds

theorem mapM {f : γ → Draw α} (l : List γ) (each : ∀ x ∈ l, (f x).Always post) :
    (l.mapM f).Always fun ys => ys.length = l.length ∧ ∀ y ∈ ys, post y := by
  induction l with
  | nil => exact of_pure ⟨rfl, List.forall_mem_nil _⟩
  | cons x rest ih =>
    rw [List.mapM_cons]
    refine bind (each x List.mem_cons_self) fun y holds => ?_
    refine bind (ih fun z mem => each z (List.mem_cons_of_mem x mem)) fun ys ⟨length, all⟩ => ?_
    refine of_pure ⟨by simp [length], fun z mem => ?_⟩
    rcases List.mem_cons.mp mem with rfl | later
    · exact holds
    · exact all z later

end Draw.Always

open Draw.Always

theorem word_always : word.Always fun _ => True := of_modifyGet fun _ => trivial

theorem units_always : units.Always fun _ => True := of_modifyGet fun _ => trivial

theorem bits_always (k : Nat) : (bits k).Always fun _ => True := by
  unfold bits
  split
  · exact of_pure trivial
  · split
    · exact bind word_always fun _ _ => of_pure trivial
    · exact @foldlM_range _ (fun _ _ => True) _ _ _ trivial fun _ _ _ _ =>
        bind word_always fun _ _ => of_pure trivial

theorem belowTries_always {n : Nat} (positive : 0 < n) (k fuel : Nat) :
    (belowTries n k fuel).Always (· < n) := by
  induction fuel with
  | zero => exact of_pure positive
  | succ fuel ih =>
    refine bind (bits_always k) fun r _ => ?_
    split
    · rename_i below
      exact of_pure below
    · exact ih

theorem below_always {n : Nat} (positive : 0 < n) : (below n).Always (· < n) := by
  unfold below
  rw [if_neg (by omega)]
  exact belowTries_always positive _ _

theorem bisect_le (less : Nat → Bool) {lo hi : Nat} (ordered : lo ≤ hi) :
    bisect less lo hi ≤ hi := by
  fun_induction bisect less lo hi <;> omega

theorem bisect_eq_of_threshold (less : Nat → Bool) {lo hi N : Nat} (low : lo ≤ N) (high : N ≤ hi)
    (threshold : ∀ i, lo ≤ i → i < hi → (less i = true ↔ N ≤ i)) : bisect less lo hi = N := by
  fun_induction bisect less lo hi with
  | case1 lo hi inside mid holds ih =>
    have atMost := (threshold mid (by omega) (by omega)).mp holds
    exact ih low atMost fun i above below => threshold i above (by omega)
  | case2 lo hi inside mid fails ih =>
    have beyond : ¬N ≤ mid := fun atMost =>
      fails ((threshold mid (by omega) (by omega)).mpr atMost)
    exact ih (by omega) high fun i above below => threshold i (by omega) below
  | case3 lo hi empty => omega

theorem itemAt_always [Inhabited α] {xs : List α} {i : Nat} (inside : i < xs.length) :
    (itemAt xs i).Always (· ∈ xs) := by
  unfold itemAt
  rw [List.getElem?_eq_getElem inside]
  exact of_pure (List.getElem_mem inside)

theorem Wheel.ofWeights_ok {items : Nat} {weights : List Value} {w : Wheel}
    (built : Wheel.ofWeights items weights = .ok w) :
    ∃ cum last, runningTotals weights = .ok cum ∧ cum.length = items ∧ cum.getLast? = some last ∧
      w.totals = cum.toArray ∧ last.add (.float Binary64.zero) = .ok (.float w.total) ∧
      w.cutoffs = (cum.map (cutoff w.total)).toArray := by
  unfold Wheel.ofWeights at built
  obtain ⟨cum, totals, built⟩ := bind_eq_ok.mp built
  dsimp only at built
  split at built
  · cases built
  rename_i sized
  split at built
  · rename_i last ended
    refine ⟨cum, last, totals, by omega, ended, ?_⟩
    obtain ⟨_, taken, built⟩ := bind_eq_ok.mp built
    cases taken
    obtain ⟨sum, summed, built⟩ := bind_eq_ok.mp built
    split at built
    · obtain ⟨total, taken, built⟩ := bind_eq_ok.mp built
      cases taken
      split at built
      · cases built
      split at built
      · cases built
      cases built
      exact ⟨rfl, summed, rfl⟩
    · cases built
  · obtain ⟨_, thrown, _⟩ := bind_eq_ok.mp built
    cases thrown

theorem Wheel.ofWeights_cutoffs {items : Nat} {weights : List Value} {w : Wheel}
    (built : Wheel.ofWeights items weights = .ok w) : w.cutoffs.size = items := by
  obtain ⟨cum, -, -, sized, -, -, -, cutoffs⟩ := Wheel.ofWeights_ok built
  rw [cutoffs, List.size_toArray, List.length_map, sized]

theorem Wheel.spin_always [Inhabited α] (w : Wheel) {xs : List α} (k : Nat) (nonempty : xs ≠ [])
    (sized : w.cutoffs.size = xs.length) :
    (w.spin xs k).Always fun ys => ys.length = k ∧ ∀ y ∈ ys, y ∈ xs := by
  have length : 0 < xs.length := List.length_pos_iff.mpr nonempty
  refine (mapM _ fun _ _ => bind units_always fun v _ => itemAt_always ?_).mono ?_
  · have picked := bisect_le (fun i => v < w.cutoffs.getD i 0) (Nat.zero_le (w.cutoffs.size - 1))
    unfold Wheel.pickUnits
    omega
  · intro ys ⟨count, picked⟩
    exact ⟨by simpa using count, picked⟩

theorem weightedChoices_always [Inhabited α] {xs : List α} {weights : List Value} {w : Wheel}
    (k : Nat) (nonempty : xs ≠ []) (built : Wheel.ofWeights xs.length weights = .ok w) :
    (weightedChoices xs weights k).Always fun ys => ys.length = k ∧ ∀ y ∈ ys, y ∈ xs :=
  bind (of_lift built) fun _ same =>
    same ▸ Wheel.spin_always w k nonempty (Wheel.ofWeights_cutoffs built)

end Kata.Random
