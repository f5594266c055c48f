import Mathlib
import Kata.Unicode.Uppercase
import Kata.Unicode.Blank

/-! Images of the uppercase mapping: never empty, without blanks, and fixed at the front. -/

namespace Kata.Unicode

theorem CaseMap.apply_cases (m : CaseMap) (c : Char) :
    (∃ e ∈ m.expansions, e.code = c.toNat ∧ m.apply c = e.image.map Char.ofNat) ∨
    (∃ r ∈ m.runs, ∃ d, r.image? c.toNat = some d ∧ m.apply c = [Char.ofNat d]) ∨
    ((∀ e ∈ m.expansions, e.code ≠ c.toNat) ∧ (∀ r ∈ m.runs, r.image? c.toNat = none) ∧
      m.apply c = [c]) := by
  unfold CaseMap.apply
  split
  · rename_i e found
    have matched : (e.code == c.toNat) = true :=
      List.find?_some (p := fun e : Expansion => e.code == c.toNat) found
    exact .inl ⟨e, List.mem_of_find?_eq_some found, beq_iff_eq.mp matched, rfl⟩
  · rename_i unexpanded
    have others : ∀ e ∈ m.expansions, e.code ≠ c.toNat := fun e mem same =>
      List.find?_eq_none.mp unexpanded e mem (beq_iff_eq.mpr same)
    split
    · rename_i d found
      obtain ⟨r, mem, moved⟩ := List.exists_of_findSome?_eq_some found
      exact .inr (.inl ⟨r, mem, d, moved, rfl⟩)
    · rename_i unmoved
      exact .inr (.inr ⟨others, List.findSome?_eq_none_iff.mp unmoved, rfl⟩)

theorem CaseRun.image?_eq_some {r : CaseRun} {c d : Nat} (moved : r.image? c = some d) :
    r.first ≤ c ∧ c ≤ r.last ∧ (c - r.first) % r.stride = 0 ∧ d = ((c : Int) + r.shift).toNat := by
  unfold CaseRun.image? at moved
  split at moved
  · rename_i covers
    simp only [Bool.and_eq_true, decide_eq_true_eq, beq_iff_eq] at covers
    exact ⟨covers.1.1, covers.1.2, covers.2, (Option.some.inj moved).symm⟩
  · cases moved

def CaseRun.imageLow (r : CaseRun) : Nat := ((r.first : Int) + r.shift).toNat

def CaseRun.imageHigh (r : CaseRun) : Nat := ((r.last : Int) + r.shift).toNat

theorem CaseRun.image_mem_range {r : CaseRun} {c d : Nat} (moved : r.image? c = some d) :
    r.imageLow ≤ d ∧ d ≤ r.imageHigh := by
  obtain ⟨low, high, -, rfl⟩ := r.image?_eq_some moved
  unfold imageLow imageHigh
  omega

def CaseRun.imagesMiss (r q : CaseRun) : Bool :=
  r.imageHigh < q.first || q.last < r.imageLow ||
    (r.first == r.last && q.image? r.imageLow == none) ||
    (r.stride == 2 && q.stride == 2 && r.imageLow % 2 != q.first % 2)

theorem CaseRun.image?_eq_none_of_imagesMiss {r q : CaseRun} {c d : Nat}
    (nonneg : 0 ≤ (r.first : Int) + r.shift) (miss : r.imagesMiss q) (moved : r.image? c = some d) :
    q.image? d = none := by
  obtain ⟨low, high, onStride, rfl⟩ := r.image?_eq_some moved
  have inRange := r.image_mem_range moved
  cases hit : q.image? ((c : Int) + r.shift).toNat with
  | none => rfl
  | some e =>
    obtain ⟨qLow, qHigh, qStride, -⟩ := q.image?_eq_some hit
    simp only [imagesMiss, Bool.or_eq_true, Bool.and_eq_true, decide_eq_true_eq, beq_iff_eq,
      bne_iff_ne, ne_eq] at miss
    rcases miss with (((before | after) | ⟨single, unmoved⟩) | ⟨⟨step, qStep⟩, parity⟩)
    · omega
    · omega
    · have same : c = r.first := by omega
      rw [imageLow, ← same] at unmoved
      rw [unmoved] at hit
      cases hit
    · rw [step] at onStride
      rw [qStep] at qStride
      unfold imageLow at parity
      omega

def CaseRun.imagesUpperFixed (r : CaseRun) : Bool :=
  decide (0 ≤ (r.first : Int) + r.shift) &&
    (r.imageHigh < 0xD800 || (0xDFFF < r.imageLow && r.imageHigh < 0x110000)) &&
    upperRuns.all r.imagesMiss &&
    upperExpansions.all (fun e => r.imageHigh < e.code || e.code < r.imageLow) &&
    blankRanges.all fun b => r.imageHigh < b.first || b.last < r.imageLow

def Expansion.upperFixedHead (e : Expansion) : Bool :=
  (match e.image with
   | d :: _ => uppercase.apply (Char.ofNat d) == [Char.ofNat d]
   | [] => false) &&
    e.image.all fun d => !isBlank (Char.ofNat d)

theorem upperRuns_imagesUpperFixed : upperRuns.all CaseRun.imagesUpperFixed = true := by
  decide +kernel

theorem upperExpansions_upperFixedHead : upperExpansions.all Expansion.upperFixedHead = true := by
  decide +kernel

theorem CaseRun.imagesUpperFixed_image {r : CaseRun} (checked : r.imagesUpperFixed)
    {c d : Nat} (moved : r.image? c = some d) :
    (Char.ofNat d).toNat = d ∧ isBlank (Char.ofNat d) = false ∧
      uppercase.apply (Char.ofNat d) = [Char.ofNat d] := by
  simp only [imagesUpperFixed, Bool.and_eq_true, decide_eq_true_eq, Bool.or_eq_true,
    List.all_eq_true] at checked
  obtain ⟨⟨⟨⟨nonneg, valid⟩, runs⟩, expansions⟩, blanks⟩ := checked
  have inRange := r.image_mem_range moved
  have code : (Char.ofNat d).toNat = d := by
    rw [Char.toNat_ofNat, if_pos (by unfold Nat.isValidChar; omega)]
  refine ⟨code, ?_, ?_⟩
  · simp only [isBlank, code, inRanges, List.any_eq_false, Bool.and_eq_true, decide_eq_true_eq]
    intro b mem
    have := blanks b mem
    omega
  · rcases uppercase.apply_cases (Char.ofNat d) with ⟨e, mem, same, -⟩ | ⟨q, mem, _, hit, -⟩ |
      ⟨-, -, fixed⟩
    · have := expansions e mem
      omega
    · rw [code, r.image?_eq_none_of_imagesMiss nonneg (runs q mem) moved] at hit
      cases hit
    · exact fixed

theorem uppercase_apply_head (c : Char) :
    ∃ d rest, uppercase.apply c = d :: rest ∧ uppercase.apply d = [d] := by
  rcases uppercase.apply_cases c with ⟨e, mem, -, image⟩ | ⟨r, mem, d, moved, image⟩ |
    ⟨-, -, fixed⟩
  · have checked := List.all_eq_true.mp upperExpansions_upperFixedHead e mem
    simp only [Expansion.upperFixedHead, Bool.and_eq_true] at checked
    rw [image]
    cases first : e.image with
    | nil => simp [first] at checked
    | cons d rest =>
      simp only [first, beq_iff_eq] at checked
      exact ⟨Char.ofNat d, rest.map Char.ofNat, rfl, checked.1⟩
  · have checked := List.all_eq_true.mp upperRuns_imagesUpperFixed r mem
    exact ⟨Char.ofNat d, [], image, (r.imagesUpperFixed_image checked moved).2.2⟩
  · exact ⟨c, [], fixed, fixed⟩

theorem isBlank_of_mem_uppercase {c d : Char} (notBlank : isBlank c = false)
    (mem : d ∈ uppercase.apply c) : isBlank d = false := by
  rcases uppercase.apply_cases c with ⟨e, member, -, image⟩ | ⟨r, member, n, moved, image⟩ |
    ⟨-, -, fixed⟩
  · have checked := List.all_eq_true.mp upperExpansions_upperFixedHead e member
    simp only [Expansion.upperFixedHead, Bool.and_eq_true, List.all_eq_true,
      Bool.not_eq_eq_eq_not, Bool.not_true] at checked
    rw [image, List.mem_map] at mem
    obtain ⟨n, image, rfl⟩ := mem
    exact checked.2 n image
  · have checked := List.all_eq_true.mp upperRuns_imagesUpperFixed r member
    rw [image, List.mem_singleton] at mem
    rw [mem]
    exact (r.imagesUpperFixed_image checked moved).2.1
  · rw [fixed, List.mem_singleton] at mem
    rw [mem]
    exact notBlank

end Kata.Unicode
