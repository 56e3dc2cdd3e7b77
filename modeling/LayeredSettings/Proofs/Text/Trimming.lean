import LayeredSettings.Text.Blank
import Mathlib.Data.List.DropRight

/-
  What trimming drops and what it keeps.

  Key theorems include:
    * `trim_eq_rdropWhile`
    * `trim_eq_nil_iff`
    * `trim_append_of_forall`
    * `trim_eq_self`
    * `exists_eq_append_trim`
    * `eq_false_of_mem_head?_trim`
    * `eq_false_of_mem_getLast?_trim`
-/

namespace LayeredSettings

namespace Text

variable {p : Char → Bool}

/- Trimming drops the longest prefix, then the suffix. -/
theorem trim_eq_rdropWhile
    (cs : List Char) :
    trim p cs = (cs.dropWhile p).rdropWhile p := rfl

/- Nothing is left exactly if all characters are dropped. -/
theorem trim_eq_nil_iff
    {cs : List Char} :
    trim p cs = [] ↔ ∀ c ∈ cs, p c = true := by
  rw [trim_eq_rdropWhile, List.rdropWhile_eq_nil_iff]
  constructor
  · intro h c hMem
    rw [← List.takeWhile_append_dropWhile (p := p)
      (l := cs)] at hMem
    rcases List.mem_append.mp hMem with hTake | hDrop
    · exact List.mem_takeWhile_imp hTake
    · exact h c hDrop
  · intro h c hMem
    exact h c ((List.dropWhile_sublist p).subset hMem)

/- Characters of the class in front are dropped. -/
theorem trim_append_of_forall
    {front cs : List Char}
    (hFront : ∀ c ∈ front, p c = true) :
    trim p (front ++ cs) = trim p cs := by
  rw [trim_eq_rdropWhile, trim_eq_rdropWhile,
    List.dropWhile_append_of_pos hFront]

/- A text with other characters at both ends stays. -/
theorem trim_eq_self
    {cs : List Char}
    (hFirst : ∀ c ∈ cs.head?, p c = false)
    (hLast : ∀ c ∈ cs.getLast?, p c = false) :
    trim p cs = cs := by
  cases cs with
  | nil => rfl
  | cons c rest =>
      have hHead : p c = false := hFirst c rfl
      rw [trim_eq_rdropWhile,
        List.dropWhile_cons_of_neg (by simp [hHead])]
      apply List.rdropWhile_eq_self_iff.mpr
      intro hNonempty
      have hEnd :=
        hLast ((c :: rest).getLast hNonempty)
          (List.getLast?_eq_some_getLast hNonempty)
      simp [hEnd]

/- What is dropped stands in front and behind. -/
theorem exists_eq_append_trim
    (p : Char → Bool)
    (cs : List Char) :
    ∃ front back,
      cs = front ++ trim p cs ++ back ∧
        ∀ c ∈ front, p c = true := by
  refine
    ⟨cs.takeWhile p, (cs.dropWhile p).rtakeWhile p, ?_, ?_⟩
  · rw [trim_eq_rdropWhile, List.append_assoc,
      List.rdropWhile_append_rtakeWhile,
      List.takeWhile_append_dropWhile]
  · intro c hMem
    exact List.mem_takeWhile_imp hMem

/- A trimmed text starts with no character of the class. -/
theorem eq_false_of_mem_head?_trim
    {c : Char}
    {cs : List Char}
    (hFirst : c ∈ (trim p cs).head?) :
    p c = false := by
  rcases List.rdropWhile_prefix p (cs.dropWhile p) with
    ⟨back, hBack⟩
  rw [← trim_eq_rdropWhile] at hBack
  cases hTrim : trim p cs with
  | nil =>
      rw [hTrim] at hFirst
      cases hFirst
  | cons d rest =>
      rw [hTrim] at hFirst hBack
      cases hFirst
      have hNonempty : cs.dropWhile p ≠ [] := by
        rw [← hBack]
        simp
      have hHead := List.head_dropWhile_not p hNonempty
      simpa [← hBack] using hHead

/- A trimmed text ends with no character of the class. -/
theorem eq_false_of_mem_getLast?_trim
    {c : Char}
    {cs : List Char}
    (hLast : c ∈ (trim p cs).getLast?) :
    p c = false := by
  rw [trim_eq_rdropWhile] at hLast
  have hNonempty : (cs.dropWhile p).rdropWhile p ≠ [] := by
    intro hEmpty
    rw [hEmpty] at hLast
    cases hLast
  have hNot := List.rdropWhile_last_not p _ hNonempty
  rw [List.getLast?_eq_some_getLast hNonempty] at hLast
  rw [Option.some.inj hLast] at hNot
  simpa using hNot

end Text

end LayeredSettings
