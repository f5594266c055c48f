import Mathlib.Data.List.Basic
import Kata.Drill.Letters

/-! Lowering text character by character away from a capital sigma, and the letter count and
palindrome test it gives. -/

namespace Kata.Unicode

theorem lowercase_apply_cases (c : Char) :
    (c = 'İ' ∧ lowercase.apply c = ['i', '̇']) ∨ (c ≠ 'İ' ∧ ∃ d, lowercase.apply c = [d]) := by
  by_cases dotted : c = 'İ'
  · subst dotted
    exact .inl ⟨rfl, by decide +kernel⟩
  · refine .inr ⟨dotted, ?_⟩
    have noExpansion : lowerExpansions.find? (·.code == c.toNat) = none := by
      have code : 0x130 ≠ c.toNat := fun same => dotted (Char.toNat_inj.mp same.symm)
      simp [lowerExpansions, code]
    simp only [lowercase, CaseMap.apply, noExpansion]
    split
    · exact ⟨_, rfl⟩
    · exact ⟨c, rfl⟩

theorem lowercase_apply_ne_nil (c : Char) : lowercase.apply c ≠ [] := by
  rcases lowercase_apply_cases c with ⟨-, image⟩ | ⟨-, d, image⟩ <;> simp [image]

theorem lowercase_apply_length_eq {a b : Char}
    (heads : (lowercase.apply a).head? = (lowercase.apply b).head?)
    (lasts : (lowercase.apply a).getLast? = (lowercase.apply b).getLast?) :
    (lowercase.apply a).length = (lowercase.apply b).length := by
  rcases lowercase_apply_cases a with ⟨-, imageA⟩ | ⟨-, x, imageA⟩ <;>
    rcases lowercase_apply_cases b with ⟨-, imageB⟩ | ⟨-, y, imageB⟩ <;>
    simp only [imageA, imageB, List.head?_cons, List.getLast?_singleton, List.getLast?_cons_cons,
      Option.some.injEq, List.length_singleton] at heads lasts ⊢
  · exact absurd (heads.trans lasts.symm) (by decide)
  · exact absurd (heads.symm.trans lasts) (by decide)

end Kata.Unicode

namespace Kata.Text

open Unicode

@[simp] theorem lowerFrom_nil (before : List Char) : lowerFrom before [] = [] := rfl

theorem lowerFrom_cons (before : List Char) (c : Char) (rest : List Char) :
    lowerFrom before (c :: rest) =
      (if c = 'Σ' then [if endsWord before rest then 'ς' else 'σ'] else lowercase.apply c) ++
        lowerFrom (c :: before) rest := rfl

theorem lowerFrom_of_not_mem (before cs : List Char) (noSigma : 'Σ' ∉ cs) :
    lowerFrom before cs = cs.flatMap lowercase.apply := by
  induction cs generalizing before with
  | nil => rfl
  | cons c rest ih =>
    have other : c ≠ 'Σ' := fun same => noSigma (same ▸ List.mem_cons_self)
    rw [lowerFrom_cons, if_neg other, ih (c :: before) (fun mem => noSigma (.tail c mem)),
      List.flatMap_cons]

theorem lower_of_not_mem {cs : List Char} (noSigma : 'Σ' ∉ cs) :
    lower cs = cs.flatMap lowercase.apply :=
  lowerFrom_of_not_mem [] cs noSigma

theorem lower_singleton (c : Char) :
    lower [c] = if c = 'Σ' then ['σ'] else lowercase.apply c := by
  rw [lower, lowerFrom_cons, lowerFrom_nil, List.append_nil]
  rfl

theorem lower_singleton_of_ne {c : Char} (other : c ≠ 'Σ') : lower [c] = lowercase.apply c := by
  rw [lower_singleton, if_neg other]

theorem lower_append {cs ds : List Char} (noSigma : 'Σ' ∉ cs ++ ds) :
    lower (cs ++ ds) = lower cs ++ lower ds := by
  rw [lower_of_not_mem noSigma, lower_of_not_mem (fun mem => noSigma (List.mem_append_left ds mem)),
    lower_of_not_mem (fun mem => noSigma (List.mem_append_right cs mem)), List.flatMap_append]

theorem countP_flatMap_lowercase {cs : List Char} (image : List Char)
    (single : ∀ c ∈ cs, c ≠ 'İ') :
    (cs.flatMap lowercase.apply).countP (fun d => [d] == image) =
      cs.countP fun c => lowercase.apply c == image := by
  induction cs with
  | nil => rfl
  | cons c rest ih =>
    obtain ⟨d, lowered⟩ : ∃ d, lowercase.apply c = [d] := by
      rcases lowercase_apply_cases c with ⟨dotted, -⟩ | ⟨-, found⟩
      · exact absurd dotted (single c List.mem_cons_self)
      · exact found
    rw [List.flatMap_cons, List.countP_append, ih (fun c mem => single c (.tail _ mem)),
      List.countP_cons, lowered]
    simp only [List.countP_singleton]
    omega

theorem map_eq_map_reverse_of_flatten {α β : Type} {f : α → List β} (nonempty : ∀ a, f a ≠ [])
    (ends : ∀ a b, (f a).head? = (f b).head? → (f a).getLast? = (f b).getLast? →
      (f a).length = (f b).length) :
    ∀ (n : Nat) (t : List α), t.length ≤ n →
      (t.map f).flatten = (t.reverse.map f).flatten → t.map f = t.reverse.map f := by
  intro n
  induction n with
  | zero =>
    intro t short _
    rw [List.eq_nil_of_length_eq_zero (Nat.le_zero.mp short)]
    rfl
  | succ n ih =>
    intro t short same
    rcases t with _ | ⟨a, rest⟩
    · rfl
    rcases List.eq_nil_or_concat rest with rfl | ⟨middle, b, rfl⟩
    · rfl
    have forwardBlocks : (a :: middle.concat b).map f = f a :: (middle.map f ++ [f b]) := by
      simp
    have backwardBlocks : (a :: middle.concat b).reverse.map f =
        f b :: (middle.reverse.map f ++ [f a]) := by
      simp
    have forward : ((a :: middle.concat b).map f).flatten =
        f a ++ ((middle.map f).flatten ++ f b) := by
      simp
    have backward : ((a :: middle.concat b).reverse.map f).flatten =
        f b ++ ((middle.reverse.map f).flatten ++ f a) := by
      simp
    rw [forward, backward] at same
    have lengths : (f a).length = (f b).length := by
      apply ends a b
      · have heads := congrArg List.head? same
        rwa [List.head?_append_of_ne_nil _ (nonempty a),
          List.head?_append_of_ne_nil _ (nonempty b)] at heads
      · have lasts := congrArg List.getLast? same
        rw [← List.append_assoc, ← List.append_assoc, List.getLast?_append_of_ne_nil _ (nonempty b),
          List.getLast?_append_of_ne_nil _ (nonempty a)] at lasts
        exact lasts.symm
    obtain ⟨outer, inner⟩ := List.append_inj same lengths
    rw [outer] at inner
    have middleSame := ih middle (by simp at short; omega) (List.append_cancel_right inner)
    rw [forwardBlocks, backwardBlocks, outer, middleSame]

theorem fieldsFrom_flatten (current cs : List Char) :
    (fieldsFrom current cs).flatten = current.reverse ++ cs.filter fun c => !isBlank c := by
  induction cs generalizing current with
  | nil =>
    cases current with
    | nil => rfl
    | cons c rest => simp [fieldsFrom]
  | cons c rest ih =>
    rw [fieldsFrom]
    by_cases blank : isBlank c
    · rw [if_pos blank, List.filter_cons_of_neg (by simp [blank])]
      split
      · rename_i empty
        rw [ih, List.isEmpty_iff.mp empty]
      · rw [List.flatten_cons, ih, List.reverse_nil, List.nil_append]
    · rw [if_neg blank, ih, List.filter_cons_of_pos (by simpa using blank)]
      simp

theorem fields_flatten (cs : List Char) :
    (fields cs).flatten = cs.filter fun c => !isBlank c := by
  rw [fields, fieldsFrom_flatten, List.reverse_nil, List.nil_append]

end Kata.Text

namespace Kata.Drill

open Unicode Text

theorem letterCount_str (s letter : String) :
    letterCount (.str s) (.str letter) =
      .ok (.int ((lower s.toList).countP fun d => [d] == lower letter.toList)) := by
  simp only [letterCount, lowered, bind, Except.bind, pure, Except.pure]
  split
  · rename_i empty
    rw [List.isEmpty_iff.mp empty, List.countP_nil]
    rfl
  · rfl

/-- On a text with no capital sigma and no dotted capital I the count of a letter is the number of
characters whose lowered form is the lowered letter; on texts with no capital sigma it adds up over
concatenation; and a letter that does not lower to one character, as the dotted capital I does not,
is counted nowhere. -/
theorem letterCount_per_character (s t letter : String) :
    ('İ' ∉ s.toList → 'Σ' ∉ s.toList →
      letterCount (.str s) (.str letter) =
        .ok (.int (s.toList.countP fun c => lower [c] == lower letter.toList))) ∧
    ('Σ' ∉ (s ++ t).toList →
      ∃ m n, letterCount (.str s) (.str letter) = .ok (.int m) ∧
        letterCount (.str t) (.str letter) = .ok (.int n) ∧
        letterCount (.str (s ++ t)) (.str letter) = .ok (.int (m + n))) ∧
    ((lower letter.toList).length ≠ 1 → letterCount (.str s) (.str letter) = .ok (.int 0)) := by
  refine ⟨fun noDotted noSigma => ?_, fun noSigma => ?_, fun notSingle => ?_⟩
  · rw [letterCount_str, lower_of_not_mem noSigma,
      countP_flatMap_lowercase _ fun c mem same => noDotted (same ▸ mem)]
    have alone : ∀ c ∈ s.toList, (lowercase.apply c == lower letter.toList) =
        (lower [c] == lower letter.toList) := by
      intro c mem
      rw [lower_singleton_of_ne fun same => noSigma (same ▸ mem)]
    rw [List.countP_congr fun c mem => by rw [alone c mem]]
  · refine ⟨_, _, letterCount_str s letter, letterCount_str t letter, ?_⟩
    rw [letterCount_str, String.toList_append, lower_append (String.toList_append ▸ noSigma),
      List.countP_append, Int.natCast_add]
  · have none : ∀ d ∈ lower s.toList, ¬([d] == lower letter.toList) = true := by
      intro d _ same
      exact notSingle (by rw [← beq_iff_eq.mp same, List.length_singleton])
    rw [letterCount_str, List.countP_eq_zero.mpr none]
    rfl

theorem letterCount_per_character_mississippi :
    ('İ' ∉ "Mississippi".toList ∧ 'Σ' ∉ "Mississippi".toList ∧
      letterCount (.str "Mississippi") (.str "I") =
        .ok (.int ("Mississippi".toList.countP fun c => lower [c] == lower "I".toList))) ∧
    ('Σ' ∉ ("Mississippi" ++ "İSTANBUL").toList ∧
      ∃ m n, letterCount (.str "Mississippi") (.str "I") = .ok (.int m) ∧
        letterCount (.str "İSTANBUL") (.str "I") = .ok (.int n) ∧
        letterCount (.str ("Mississippi" ++ "İSTANBUL")) (.str "I") = .ok (.int (m + n))) ∧
    ((lower "İ".toList).length ≠ 1 ∧ letterCount (.str "İSTANBUL") (.str "İ") = .ok (.int 0)) := by
  obtain ⟨perCharacter, additive, -⟩ :=
    letterCount_per_character "Mississippi" "İSTANBUL" "I"
  obtain ⟨-, -, uncounted⟩ := letterCount_per_character "İSTANBUL" "" "İ"
  have twoCharacters : (lower "İ".toList).length ≠ 1 := by decide +kernel
  exact ⟨⟨by decide, by decide, perCharacter (by decide) (by decide)⟩,
    ⟨by decide, additive (by decide)⟩, ⟨twoCharacters, uncounted twoCharacters⟩⟩

theorem isPalindrome_str (s : String) :
    isPalindrome (.str s) =
      .ok (.bool (lower (s.toList.filter fun c => !isBlank c) ==
        lower (s.toList.filter fun c => !isBlank c).reverse)) := by
  simp only [isPalindrome, words, bind, Except.bind, pure, Except.pure, fields_flatten]

/-- On a text with no capital sigma, the palindrome test holds exactly when each character that is
not blank lowers as its mirror image does. -/
theorem isPalindrome_iff_pairs (s : String) (noSigma : 'Σ' ∉ s.toList) :
    ∃ b, isPalindrome (.str s) = .ok (.bool b) ∧
      (b = true ↔ ∀ i : Fin (s.toList.filter fun c => !isBlank c).length,
        lower [(s.toList.filter fun c => !isBlank c).get i] =
          lower [(s.toList.filter fun c => !isBlank c).get i.rev]) := by
  refine ⟨_, isPalindrome_str s, ?_⟩
  generalize unblanked : s.toList.filter (fun c => !isBlank c) = t
  have tNoSigma : 'Σ' ∉ t := by
    intro mem
    rw [← unblanked] at mem
    exact noSigma (List.mem_of_mem_filter mem)
  have lowered : ∀ c ∈ t, lower [c] = lowercase.apply c :=
    fun c mem => lower_singleton_of_ne fun same => tNoSigma (same ▸ mem)
  rw [beq_iff_eq, lower_of_not_mem tNoSigma,
    lower_of_not_mem fun mem => tNoSigma (List.mem_reverse.mp mem), List.flatMap_def,
    List.flatMap_def]
  constructor
  · -- equal lowerings force equal blocks, and equal blocks are the mirrored pairs
    intro same i
    have blocks := map_eq_map_reverse_of_flatten lowercase_apply_ne_nil
      (fun a b => lowercase_apply_length_eq) t.length t (Nat.le_refl _) same
    have atI := congrArg (fun l => l[i.val]?) blocks
    have mirror : t.length - 1 - i.val < t.length := by omega
    simp only [List.getElem?_map, List.getElem?_reverse i.isLt, List.getElem?_eq_getElem i.isLt,
      List.getElem?_eq_getElem mirror, Option.map_some, Option.some.injEq] at atI
    rw [lowered _ (List.get_mem t i), lowered _ (List.get_mem t i.rev)]
    simpa [Fin.rev, Nat.sub_sub, Nat.add_comm 1 i.val] using atI
  · intro pairs
    congr 1
    apply List.ext_getElem (by simp)
    intro k inT inReverse
    have mirrored := pairs ⟨k, by simpa using inT⟩
    rw [lowered _ (List.get_mem t _), lowered _ (List.get_mem t _)] at mirrored
    simpa [Fin.rev, List.getElem_reverse, Nat.sub_sub, Nat.add_comm 1 k] using mirrored

theorem isPalindrome_iff_pairs_pets :
    'Σ' ∉ "Step on no\u3000pets".toList ∧
      ∃ b, isPalindrome (.str "Step on no\u3000pets") = .ok (.bool b) ∧
        (b = true ↔ ∀ i : Fin ("Step on no\u3000pets".toList.filter fun c => !isBlank c).length,
          lower [("Step on no\u3000pets".toList.filter fun c => !isBlank c).get i] =
            lower [("Step on no\u3000pets".toList.filter fun c => !isBlank c).get i.rev]) :=
  ⟨by decide, isPalindrome_iff_pairs _ (by decide)⟩

/-- In `ΣαΑσ` each character lowers as its mirror image does, but the capital sigma in front is
`σ` and, read backwards, the final `ς`. -/
theorem isPalindrome_final_sigma :
    isPalindrome (.str "ΣαΑσ") = .ok (.bool false) ∧
      ∀ i : Fin ("ΣαΑσ".toList.filter fun c => !isBlank c).length,
        lower [("ΣαΑσ".toList.filter fun c => !isBlank c).get i] =
          lower [("ΣαΑσ".toList.filter fun c => !isBlank c).get i.rev] := by
  have unequal : (lower ("ΣαΑσ".toList.filter fun c => !isBlank c) ==
      lower ("ΣαΑσ".toList.filter fun c => !isBlank c).reverse) = false := by
    decide +kernel
  refine ⟨?_, by decide +kernel⟩
  rw [isPalindrome_str, unequal]

end Kata.Drill
