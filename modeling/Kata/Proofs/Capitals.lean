import Kata.Drill.Letters
import Kata.Proofs.UpperImages

/-! Capital letters at the front of a text and of each of its words. -/

namespace Kata.Text

open Unicode

theorem reverse_current {current : List Char} (nonempty : ¬current.isEmpty = true)
    (currentUnblank : ∀ c ∈ current, isBlank c = false) :
    current.reverse ≠ [] ∧ ∀ c ∈ current.reverse, isBlank c = false :=
  ⟨by simpa using nonempty, fun c held => currentUnblank c (List.mem_reverse.mp held)⟩

theorem mem_fieldsFrom {current cs w : List Char}
    (currentUnblank : ∀ c ∈ current, isBlank c = false) (mem : w ∈ fieldsFrom current cs) :
    w ≠ [] ∧ ∀ c ∈ w, isBlank c = false := by
  induction cs generalizing current with
  | nil =>
    rw [fieldsFrom] at mem
    split at mem
    · simp at mem
    · rename_i nonempty
      rw [List.mem_singleton.mp mem]
      exact reverse_current nonempty currentUnblank
  | cons c rest ih =>
    rw [fieldsFrom] at mem
    by_cases blank : isBlank c
    · rw [if_pos blank] at mem
      split at mem
      · exact ih (List.forall_mem_nil _) mem
      · rename_i nonempty
        rcases List.mem_cons.mp mem with rfl | later
        · exact reverse_current nonempty currentUnblank
        · exact ih (List.forall_mem_nil _) later
    · rw [if_neg blank] at mem
      refine ih (fun d held => ?_) mem
      rcases List.mem_cons.mp held with rfl | earlier
      · simpa using blank
      · exact currentUnblank d earlier

theorem mem_fields {cs w : List Char} (mem : w ∈ fields cs) :
    w ≠ [] ∧ ∀ c ∈ w, isBlank c = false :=
  mem_fieldsFrom (List.forall_mem_nil _) mem

theorem fieldsFrom_append_of_unblank (current w rest : List Char)
    (unblank : ∀ c ∈ w, isBlank c = false) :
    fieldsFrom current (w ++ rest) = fieldsFrom (w.reverse ++ current) rest := by
  induction w generalizing current with
  | nil => rfl
  | cons c w ih =>
    rw [List.cons_append, fieldsFrom, if_neg (by simp [unblank c List.mem_cons_self]),
      ih (c :: current) fun d held => unblank d (List.mem_cons_of_mem c held)]
    simp

theorem fields_intercalate (ws : List (List Char))
    (wordsOk : ∀ w ∈ ws, w ≠ [] ∧ ∀ c ∈ w, isBlank c = false) :
    fields ([' '].intercalate ws) = ws := by
  induction ws with
  | nil => rfl
  | cons w rest ih =>
    obtain ⟨nonempty, unblank⟩ := wordsOk w List.mem_cons_self
    have restOk : ∀ v ∈ rest, v ≠ [] ∧ ∀ c ∈ v, isBlank c = false :=
      fun v mem => wordsOk v (List.mem_cons_of_mem w mem)
    cases rest with
    | nil =>
      rw [List.intercalate_singleton, fields, ← List.append_nil w,
        fieldsFrom_append_of_unblank _ _ _ unblank, fieldsFrom, if_neg (by simpa using nonempty)]
      simp
    | cons v rest =>
      rw [List.intercalate_cons_cons, List.append_assoc, fields,
        fieldsFrom_append_of_unblank _ _ _ unblank, List.singleton_append, fieldsFrom,
        if_pos (by decide), if_neg (by simpa using nonempty), ← fields, ih restOk]
      simp

end Kata.Text

namespace Kata.Drill

open Unicode Text Value

theorem upper_singleton (c : Char) : upper [c] = uppercase.apply c := by
  simp [upper]

theorem capitalizeWord_ok {w : List Char} (wordOk : w ≠ [] ∧ ∀ c ∈ w, isBlank c = false) :
    capitalizeWord w ≠ [] ∧ ∀ c ∈ capitalizeWord w, isBlank c = false := by
  obtain ⟨nonempty, unblank⟩ := wordOk
  obtain ⟨c, rest, rfl⟩ := List.exists_cons_of_ne_nil nonempty
  obtain ⟨d, more, image, -⟩ := uppercase_apply_head c
  refine ⟨by simp [capitalizeWord, upper_singleton, image], fun e held => ?_⟩
  rw [capitalizeWord, upper_singleton, List.mem_append] at held
  rcases held with uppered | later
  · exact isBlank_of_mem_uppercase (unblank c List.mem_cons_self) uppered
  · exact unblank e (List.mem_cons_of_mem c later)

theorem capitalizeWord_capitalizeWord (w : List Char) :
    capitalizeWord (capitalizeWord w) = capitalizeWord w := by
  cases w with
  | nil => rfl
  | cons c rest =>
    obtain ⟨d, more, image, fixed⟩ := uppercase_apply_head c
    rw [capitalizeWord, upper_singleton, image, List.cons_append, capitalizeWord, upper_singleton,
      fixed, List.singleton_append]

theorem capitalizeWords_str (s : String) :
    capitalizeWords (.str s) =
      .ok (.str (String.ofList ([' '].intercalate ((fields s.toList).map capitalizeWord)))) := by
  have space : " ".toList = [' '] := rfl
  simp only [capitalizeWords, words, bind, Except.bind, pure, Except.pure, Value.str.injEq,
    Except.ok.injEq, ← String.toList_inj, String.toList_intercalate, String.toList_ofList,
    List.map_map, Function.comp_def, space]

theorem capitalizeFirst_str (s : String) :
    capitalizeFirst (.str s) =
      if s = "" then .error (.indexOutOfRange "string")
      else .ok (.str (String.ofList (capitalizeWord s.toList))) := by
  cases chars : s.toList with
  | nil =>
    have empty : s = "" := String.toList_eq_nil_iff.mp chars
    subst empty
    rfl
  | cons c rest =>
    have nonempty : s ≠ "" := fun empty => by simp [empty] at chars
    have length : s.length = rest.length + 1 := by rw [← String.length_toList, chars]; rfl
    simp [capitalizeFirst, Value.index, position?, length, chars, nonempty, uppered, ofChar,
      dropFront, Value.add, binaryPair?, asInt?, bind, Except.bind, capitalizeWord, upperString,
      upper_singleton]

theorem fields_intercalate_capitalizeWord (cs : List Char) :
    fields ([' '].intercalate ((fields cs).map capitalizeWord)) =
      (fields cs).map capitalizeWord := by
  refine fields_intercalate _ fun w mem => ?_
  obtain ⟨v, field, rfl⟩ := List.mem_map.mp mem
  exact capitalizeWord_ok (mem_fields field)

theorem mapM_capitalizeFirst {ws : List (List Char)} (nonempty : ∀ w ∈ ws, w ≠ []) :
    ws.mapM (fun w => capitalizeFirst (.str (String.ofList w))) =
      .ok (ws.map fun w => Value.str (String.ofList (capitalizeWord w))) := by
  induction ws with
  | nil => rfl
  | cons w rest ih =>
    have front : String.ofList w ≠ "" := by
      simpa [← String.toList_inj] using nonempty w List.mem_cons_self
    rw [List.mapM_cons, ih fun v mem => nonempty v (List.mem_cons_of_mem w mem),
      capitalizeFirst_str, if_neg front, String.toList_ofList]
    rfl

theorem capitalizeFirst_eq_error_iff (s : String) (f : Fault) :
    capitalizeFirst (.str s) = .error f ↔ s = "" ∧ f = .indexOutOfRange "string" := by
  rw [capitalizeFirst_str]
  by_cases empty : s = ""
  · simp [empty, eq_comm]
  · simp [empty]

/-- Capitalizing the words of a string never fails, and capitalizing the result again gives it
back. The fields of the result are the fields of the string, each capitalized at the front as a
string on its own would be; that never fails on a field, while on the empty string it is an index
fault and on no other string a fault at all. -/
theorem capitalizeWords_idempotent (s : String) :
    ∃ out, capitalizeWords (.str s) = .ok (.str out) ∧
      capitalizeWords (.str out) = .ok (.str out) ∧
      (words (.str out)).map (·.map fun w => Value.str (String.ofList w)) =
        (do
          let ws ← words (.str s)
          ws.mapM fun w => capitalizeFirst (.str (String.ofList w))) ∧
      ((∃ f, capitalizeFirst (.str s) = .error f) ↔ s = "") ∧
      ∀ f, capitalizeFirst (.str s) = .error f → f.kind = .index := by
  have split := fields_intercalate_capitalizeWord s.toList
  refine ⟨_, capitalizeWords_str s, ?_, ?_, ?_, ?_⟩
  · rw [capitalizeWords_str, String.toList_ofList, split, List.map_map]
    simp only [Function.comp_def, capitalizeWord_capitalizeWord]
  · simp only [words, String.toList_ofList, split, bind, Except.bind, Except.map, List.map_map]
    rw [mapM_capitalizeFirst fun w mem => (mem_fields mem).1]
    rfl
  · constructor
    · rintro ⟨f, failed⟩
      exact ((capitalizeFirst_eq_error_iff s f).mp failed).1
    · intro empty
      exact ⟨_, (capitalizeFirst_eq_error_iff s _).mpr ⟨empty, rfl⟩⟩
  · intro f failed
    obtain ⟨-, rfl⟩ := (capitalizeFirst_eq_error_iff s f).mp failed
    rfl

end Kata.Drill
