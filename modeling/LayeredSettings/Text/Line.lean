/-
  This file splits text: into lines, at separators, at the
  first occurrence of a character, and after a word.

  Key definitions include:
    * `lines`
    * `splitAll`
    * `splitFirst`
    * `after?`

  Key theorems include:
    * `after?_eq_some_iff`
    * `splitFirst_eq_some_iff`
    * `splitFirst_eq_none_iff`

  A line ends at a line feed.  One carriage return directly
  before the line feed belongs to the line's end; any other
  carriage return is a character of the line.
-/

namespace LayeredSettings

namespace Text

------------------------------------------------------------
-- Lines
------------------------------------------------------------

/-
  The lines of a text, without their ends.  A last line
  without a line feed counts if it has a character.
-/
def lines : List Char → List (List Char)
| [] => []
| '\r' :: '\n' :: rest => [] :: lines rest
| '\n' :: rest => [] :: lines rest
| c :: rest =>
    match lines rest with
    | [] => [[c]]
    | l :: ls => (c :: l) :: ls

------------------------------------------------------------
-- Separators
------------------------------------------------------------

/- The parts of a list between the separators. -/
def splitAll
    {α : Type} [DecidableEq α]
    (sep : α) : List α → List (List α)
| [] => [[]]
| a :: rest =>
    if a = sep then [] :: splitAll sep rest
    else
      match splitAll sep rest with
      | [] => [[a]]
      | part :: parts => (a :: part) :: parts

/- The text before and after the first separator. -/
def splitFirst
    (sep : Char) :
    List Char → Option (List Char × List Char)
| [] => none
| c :: rest =>
    if c = sep then some ([], rest)
    else
      (splitFirst sep rest).map fun (before, after) =>
        (c :: before, after)

/- The list after a word that it starts with. -/
def after?
    {α : Type} [DecidableEq α] :
    List α → List α → Option (List α)
| [], cs => some cs
| _ :: _, [] => none
| w :: word, c :: cs =>
    if w = c then after? word cs else none

/- A list goes on after a word exactly if it has it first. -/
theorem after?_eq_some_iff
    {α : Type} [DecidableEq α]
    {word cs rest : List α} :
    after? word cs = some rest ↔ cs = word ++ rest := by
  induction word generalizing cs with
  | nil => simp [after?]
  | cons w word ih =>
      cases cs with
      | nil => simp [after?]
      | cons c cs =>
          by_cases h : w = c
          · simp [after?, h, ih]
          · simp [after?, h, Ne.symm h]

/- A split text is its parts around a first separator. -/
theorem splitFirst_eq_some_iff
    {sep : Char}
    {cs before after : List Char} :
    splitFirst sep cs = some (before, after) ↔
      sep ∉ before ∧ cs = before ++ sep :: after := by
  induction cs generalizing before after with
  | nil => simp [splitFirst]
  | cons c rest ih =>
      by_cases h : c = sep
      · subst h
        cases before with
        | nil => simp [splitFirst]
        | cons b bs =>
            simp only [splitFirst, if_true,
              Option.some.injEq, Prod.mk.injEq,
              List.nil_eq, reduceCtorEq, false_and,
              List.mem_cons, not_or, List.cons_append,
              List.cons.injEq, false_iff, not_and]
            rintro ⟨hb, -⟩ hc
            exact absurd hc hb
      · cases before with
        | nil => simp [splitFirst, h]
        | cons b bs =>
            simp only [splitFirst, if_neg h,
              Option.map_eq_some_iff, Prod.exists,
              Prod.mk.injEq, List.cons.injEq, ih,
              List.mem_cons, not_or, List.cons_append]
            constructor
            · rintro ⟨x, y, ⟨hx, hr⟩, ⟨hc, rfl⟩, rfl⟩
              subst hc
              exact ⟨⟨Ne.symm h, hx⟩, rfl, hr⟩
            · rintro ⟨⟨hb, hbs⟩, hc, hr⟩
              exact ⟨bs, after, ⟨hbs, hr⟩, ⟨hc, rfl⟩, rfl⟩

/- A text is not split exactly if it has no separator. -/
theorem splitFirst_eq_none_iff
    {sep : Char}
    {cs : List Char} :
    splitFirst sep cs = none ↔ sep ∉ cs := by
  induction cs with
  | nil => simp [splitFirst]
  | cons c rest ih =>
      by_cases h : c = sep
      · simp [splitFirst, h]
      · simp [splitFirst, h, ih, Ne.symm h]

end Text

end LayeredSettings
