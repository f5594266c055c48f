import Mathlib
import Kata.Proofs.Capitals
import Kata.Proofs.Lowering

/-! The fields of a text are its maximal runs of characters that are not blank. -/

namespace Kata.Text

open Unicode

theorem fieldsFrom_eq_splitOnPPrepend (current cs : List Char) :
    fieldsFrom current cs = (cs.splitOnPPrepend isBlank current).filter (· ≠ []) := by
  induction cs generalizing current with
  | nil => cases current <;> simp [fieldsFrom]
  | cons c rest ih =>
    rw [fieldsFrom, List.splitOnPPrepend_cons_eq_if]
    by_cases blank : isBlank c
    · rw [if_pos blank, if_pos blank, List.filter_cons, ← List.splitOnPPrepend_nil_right, ← ih]
      cases current <;> simp
    · rw [if_neg blank, if_neg blank, ih]

theorem fields_eq_splitOnP (cs : List Char) :
    fields cs = (cs.splitOnP isBlank).filter (· ≠ []) :=
  fieldsFrom_eq_splitOnPPrepend [] cs

end Kata.Text

namespace Kata.Drill

open Unicode Text

/-- Splitting a string into words cuts it at every blank and keeps the pieces that are not empty:
the words are its maximal runs of characters that are not blank, in order. Joined, they are the
string with exactly its blanks deleted; and runs of characters that are not blank, joined by single
spaces, split back into themselves. The blanks include the information separators U+001C to
U+001F, next line, no-break space and the ideographic space, but not the zero-width space. -/
theorem words_blank_runs :
    (∀ s : String, ∃ ws, words (.str s) = .ok ws ∧
      ws = (s.toList.splitOnP isBlank).filter (· ≠ []) ∧
      (∀ w ∈ ws, w ≠ [] ∧ ∀ c ∈ w, isBlank c = false) ∧
      ws.flatten = s.toList.filter fun c => !isBlank c) ∧
    (∀ ws : List String, (∀ w ∈ ws, w ≠ "" ∧ ∀ c ∈ w.toList, isBlank c = false) →
      words (.str (" ".intercalate ws)) = .ok (ws.map String.toList)) ∧
    ['\x1c', '\x1d', '\x1e', '\x1f', '\x85', '\xa0', '\u3000'].all isBlank = true ∧
    isBlank '\u200b' = false := by
  refine ⟨fun s => ⟨fields s.toList, rfl, fields_eq_splitOnP _, fun w => mem_fields,
    fields_flatten _⟩, fun ws runs => ?_, by decide, by decide⟩
  have space : " ".toList = [' '] := rfl
  have charRuns : ∀ w ∈ ws.map String.toList, w ≠ [] ∧ ∀ c ∈ w, isBlank c = false := by
    intro w mem
    obtain ⟨v, held, rfl⟩ := List.mem_map.mp mem
    exact ⟨by simpa using (runs v held).1, (runs v held).2⟩
  rw [words, String.toList_intercalate, space, fields_intercalate _ charRuns]

theorem words_blank_runs_two_words :
    (∀ w ∈ ["ab", "c"], w ≠ "" ∧ ∀ c ∈ w.toList, isBlank c = false) ∧
      words (.str (" ".intercalate ["ab", "c"])) = .ok [['a', 'b'], ['c']] := by
  have runs : ∀ w ∈ ["ab", "c"], w ≠ "" ∧ ∀ c ∈ w.toList, isBlank c = false := by
    simp
    decide
  refine ⟨runs, ?_⟩
  rw [words_blank_runs.2.1 ["ab", "c"] runs]
  simp

end Kata.Drill
