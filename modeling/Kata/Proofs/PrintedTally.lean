import Kata.Play.Games
import Kata.Proofs.Draws
import Kata.Proofs.TallyOrder

/-! The printed text of a tally, and the games that print one. -/

namespace Kata.Play

open Kata.Random Kata.Random.Draw.Always

theorem tallyText_mostCommon (xs : List String) :
    ∃ entries, MostCommonOf xs entries ∧
      tallyText xs = if xs = [] then "Counter()" else
        "Counter(\x7b" ++ ", ".intercalate (entries.map fun e =>
          Text.quoteString e.1 ++ ": " ++ toString e.2) ++ "\x7d)" := by
  obtain ⟨keys, seen, entries⟩ := Tally.ofList_counts xs
  refine ⟨_, (Tally.ofList_counts xs).mostCommon, ?_⟩
  have empty : (Tally.ofList xs).entries.isEmpty = decide (xs = []) := by
    rw [entries, Bool.eq_iff_iff, List.isEmpty_iff, List.map_eq_nil_iff, decide_eq_true_eq]
    exact ⟨fun none => List.eq_nil_iff_forall_not_mem.mpr fun x mem =>
        by simpa [none] using (seen.mem_iff x).mpr mem,
      fun nothing => List.eq_nil_iff_forall_not_mem.mpr fun x mem =>
        by simpa [nothing] using (seen.mem_iff x).mp mem⟩
  rw [tallyText, Tally.text, empty]
  by_cases nothing : xs = [] <;> simp [nothing]

theorem exists_ok_of_toBool {ε α : Type} {x : Except ε α} (ok : x.toBool = true) :
    ∃ a, x = .ok a := by
  cases x with
  | error e => cases ok
  | ok a => exact ⟨a, rfl⟩

theorem rouletteWeighted_prints :
    Game.rouletteWeighted.play.Always fun out =>
      ∃ spins : List String, spins.length = 6 ∧ out = tallyText spins ++ "\n" := by
  obtain ⟨wheel, built⟩ := exists_ok_of_toBool (x := Wheel.ofWeights
    ["red", "black", "green"].length (intWeights [18, 18, 2])) (by decide +kernel)
  exact bind (weightedChoices_always 6 (by simp) built) fun spins ⟨count, _⟩ =>
    of_pure ⟨spins, count, rfl⟩

theorem templeTheft_prints :
    Game.templeTheft.play.Always fun out =>
      ∃ loot : List String, loot.length = 6 ∧ out = tallyText loot ++ "\n" := by
  obtain ⟨first, builtFirst⟩ := exists_ok_of_toBool (x := Wheel.ofWeights
    ["被发现了", "得到天山大便掌", "得到东北娘们掌", "得到拈花指", "得到易筋经"].length
      (intWeights [50, 5, 5, 1, 1])) (by decide +kernel)
  obtain ⟨later, builtLater⟩ := exists_ok_of_toBool (x := Wheel.ofWeights
    ["被发现了", "天山大便掌", "东北娘们掌", "拈花指", "易筋经"].length
      (intWeights [50, 5, 5, 1, 1])) (by decide +kernel)
  exact bind (weightedChoices_always 1 (by simp) builtFirst) fun _ _ =>
    bind (weightedChoices_always 6 (by simp) builtLater) fun loot ⟨count, _⟩ =>
      of_pure ⟨loot, count, rfl⟩

theorem printed_of_six {out : String}
    (prints : ∃ draws : List String, draws.length = 6 ∧ out = tallyText draws ++ "\n") :
    ∃ draws entries, draws.length = 6 ∧ MostCommonOf draws entries ∧
      (entries.map Prod.snd).sum = 6 ∧
      out = "Counter(\x7b" ++ ", ".intercalate (entries.map fun e =>
        Text.quoteString e.1 ++ ": " ++ toString e.2) ++ "\x7d)\n" := by
  obtain ⟨draws, count, rfl⟩ := prints
  obtain ⟨entries, most, text⟩ := tallyText_mostCommon draws
  have drawn : draws ≠ [] := List.ne_nil_of_length_pos (by omega)
  refine ⟨draws, entries, count, most, by rw [most.sum_counts, count], ?_⟩
  rw [text, if_neg drawn, String.append_assoc]
  rfl

/-- The line that weighted roulette prints, and the one that the temple theft prints, is the tally
of six draws in most common order, from every generator state: each distinct outcome once with its
number of occurrences, the counts adding up to six, larger counts first and equal counts in the
order the outcomes were first drawn. The text of any tally of strings is its most common list so
written, and `Counter()` when nothing was counted. -/
theorem printedTally_mostCommon :
    (Game.rouletteWeighted.play.Always fun out =>
      ∃ spins entries, spins.length = 6 ∧ MostCommonOf spins entries ∧
        (entries.map Prod.snd).sum = 6 ∧
        out = "Counter(\x7b" ++ ", ".intercalate (entries.map fun e =>
          Text.quoteString e.1 ++ ": " ++ toString e.2) ++ "\x7d)\n") ∧
    (Game.templeTheft.play.Always fun out =>
      ∃ loot entries, loot.length = 6 ∧ MostCommonOf loot entries ∧
        (entries.map Prod.snd).sum = 6 ∧
        out = "Counter(\x7b" ++ ", ".intercalate (entries.map fun e =>
          Text.quoteString e.1 ++ ": " ++ toString e.2) ++ "\x7d)\n") ∧
    ∀ xs : List String, ∃ entries, MostCommonOf xs entries ∧
      tallyText xs = if xs = [] then "Counter()" else
        "Counter(\x7b" ++ ", ".intercalate (entries.map fun e =>
          Text.quoteString e.1 ++ ": " ++ toString e.2) ++ "\x7d)" :=
  ⟨rouletteWeighted_prints.mono fun _ => printed_of_six,
    templeTheft_prints.mono fun _ => printed_of_six, tallyText_mostCommon⟩

end Kata.Play
