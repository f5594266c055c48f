import Kata.Drill.Collections
import Kata.Proofs.ListEdit
import Kata.Proofs.Lowering
import Kata.Proofs.TallyOrder

/-! Three counts of a letter: by scanning, by the tally and by frequency. -/

namespace Kata.Text

open Unicode

theorem lowerFrom_eq_nil_iff (before cs : List Char) : lowerFrom before cs = [] ↔ cs = [] := by
  cases cs with
  | nil => simp
  | cons c rest =>
    rw [lowerFrom_cons]
    simp only [List.append_eq_nil_iff, reduceCtorEq, iff_false, not_and]
    intro image
    split at image
    · simp at image
    · exact absurd image (lowercase_apply_ne_nil c)

theorem lowerString_eq_empty_iff (s : String) : lowerString s = "" ↔ s = "" := by
  rw [← String.toList_eq_nil_iff, lowerString, String.toList_ofList, lower, lowerFrom_eq_nil_iff,
    String.toList_eq_nil_iff]

end Kata.Text

namespace Kata.Value

theorem scalarEquals_str_ofChar (w : String) (c : Char) :
    scalarEquals (.str w) (ofChar c) = ([c] == w.toList) := by
  simp [scalarEquals, ofChar, String.ext_iff, eq_comm]

theorem equals_ofChar_str (c : Char) (w : String) :
    (ofChar c).equals (.str w) = ([c] == w.toList) := by
  rw [ofChar, str_equals_str]
  simp [String.ext_iff]

theorem lookup_charCounts {cs keys : List Char} (seen : FirstSeen cs keys) (w : String) :
    (lookup? (keys.map fun c => (ofChar c, .int (cs.count c))) (.str w)).getD (.int 0) =
      .int (cs.countP fun c => [c] == w.toList) := by
  have byChar : ((fun e : Value × Value => scalarEquals (.str w) e.1) ∘
      fun c => (ofChar c, Value.int (cs.count c))) = fun c => [c] == w.toList := by
    funext c
    exact scalarEquals_str_ofChar w c
  rw [lookup?, List.find?_map, byChar]
  cases found : keys.find? (fun c => [c] == w.toList) with
  | none =>
    have uncounted : cs.countP (fun c => [c] == w.toList) = 0 :=
      List.countP_eq_zero.mpr fun c mem =>
        List.find?_eq_none.mp found c ((seen.mem_iff c).mpr mem)
    simp [uncounted]
  | some d =>
    have matched : ([d] == w.toList) = true := List.find?_some (p := fun c => [c] == w.toList) found
    have single : w.toList = [d] := (beq_iff_eq.mp matched).symm
    rw [Option.map_some, Option.map_some, Option.getD_some, single, List.count_eq_countP]
    exact congrArg (fun n : Nat => Value.int n) (List.countP_congr fun c _ => by simp)

end Kata.Value

namespace Kata.Drill

open Unicode Text Value

theorem letterTally_str (s : String) :
    ∃ keys, FirstSeen (lowerString s).toList keys ∧
      letterTally (.str s) =
        .ok (.dict (keys.map fun c => (ofChar c, .int ((lowerString s).toList.count c)))) := by
  obtain ⟨keys, seen, entries⟩ := Tally.ofList_counts (lower s.toList)
  refine ⟨keys, by rwa [lowerString, String.toList_ofList], ?_⟩
  simp only [letterTally, lowered, bind, Except.bind, pure, Except.pure, entries, List.map_map,
    lowerString, String.toList_ofList]
  rfl

theorem frequency_str (t w : String) :
    frequency (.str t) (.str w) =
      if t = "" then .ok (.str "arr is None")
      else .ok (.int (t.toList.countP fun c => [c] == w.toList)) := by
  by_cases empty : t = ""
  · simp [frequency, truthy, empty, pure, Except.pure]
  · have present : (Value.str t).truthy = true := by simpa [truthy, String.isEmpty_iff] using empty
    simp only [frequency, present, Bool.not_true, bind, Except.bind, pure, Except.pure,
      if_neg empty, items, List.countP_map]
    simp only [Bool.false_eq_true, ↓reduceIte, Function.comp_def, equals_ofChar_str]

/-- Three ways of counting letters agree. The tally of a string holds the distinct characters of the
lowered string in order of first appearance, each with its count, and the counts add up to the
length of the lowered string; lowering may make it longer than the string. The count of a letter is
what the tally holds under the lowered letter, zero when it holds nothing there, and it is the
frequency of the lowered letter in the lowered string whenever the string is not empty. -/
theorem letterCounts_agree :
    (∀ s letter : String, ∃ keys entries,
      FirstSeen (lowerString s).toList keys ∧
      entries = keys.map (fun c => (ofChar c, .int ((lowerString s).toList.count c))) ∧
      letterTally (.str s) = .ok (.dict entries) ∧
      (keys.map (lowerString s).toList.count).sum = (lowerString s).length ∧
      letterCount (.str s) (.str letter) =
        .ok ((lookup? entries (.str (lowerString letter))).getD (.int 0)) ∧
      frequency (.str (lowerString s)) (.str (lowerString letter)) =
        if s = "" then .ok (.str "arr is None") else letterCount (.str s) (.str letter)) ∧
    ∃ s : String, s.length < (lowerString s).length := by
  refine ⟨fun s letter => ?_, ⟨"İ", by decide +kernel⟩⟩
  obtain ⟨keys, seen, tally⟩ := letterTally_str s
  have scan : letterCount (.str s) (.str letter) =
      .ok (.int ((lowerString s).toList.countP fun c => [c] == (lowerString letter).toList)) := by
    rw [letterCount_str, lowerString, lowerString, String.toList_ofList, String.toList_ofList]
  refine ⟨keys, _, seen, rfl, tally, ?_, ?_, ?_⟩
  · rw [seen.sum_count, String.length_toList]
  · rw [scan, lookup_charCounts seen]
  · simp only [frequency_str, scan, lowerString_eq_empty_iff]

end Kata.Drill
