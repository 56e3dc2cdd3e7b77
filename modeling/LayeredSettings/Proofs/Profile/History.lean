import Mathlib.Data.List.Induction

/-
  This file is about lists that are read from the front, and
  about what was read before.

  Key definitions include:
    * `Since`
    * `IsLast`

  Key theorems include:
    * `since_concat_iff`
    * `isLast_concat_iff`
    * `since_filter_iff`
    * `since_iff_exists_mem`
    * `IsLast.since_iff`
    * `exists_isLast`
-/

namespace LayeredSettings

namespace Grammar

variable {α : Type}

/-
  A list with one more element splits at that element, or as
  it split before.
-/
theorem concat_eq_append_cons_iff
    {xs before after : List α}
    {x y : α} :
    xs ++ [x] = before ++ y :: after ↔
      (before = xs ∧ y = x ∧ after = []) ∨
        ∃ middle,
          after = middle ++ [x] ∧
            xs = before ++ y :: middle := by
  constructor
  · intro hList
    rcases List.eq_nil_or_concat after with
      rfl | ⟨middle, last, rfl⟩
    · have hFront := List.append_inj_left' hList rfl
      have hLast := List.append_inj_right' hList rfl
      exact Or.inl
        ⟨hFront.symm, (List.cons.inj hLast).1.symm, rfl⟩
    · have hParts :
          xs ++ [x] = (before ++ y :: middle) ++ [last] := by
        rw [hList]
        simp
      have hFront := List.append_inj_left' hParts rfl
      have hLast := List.append_inj_right' hParts rfl
      rw [(List.cons.inj hLast).1]
      exact Or.inr ⟨middle, by simp, hFront⟩
  · intro hCases
    rcases hCases with
      ⟨rfl, rfl, rfl⟩ | ⟨middle, rfl, rfl⟩
    · rfl
    · simp

/-
  Something happened, and since then nothing that would have
  ended it.  An event may depend on what was before it.
-/
def Since
    (event : List α → α → Prop)
    (stop : α → Prop)
    (xs : List α) : Prop :=
  ∃ before x after,
    xs = before ++ x :: after ∧
      event before x ∧ ∀ later ∈ after, ¬ stop later

/- The place where something happened last. -/
def IsLast
    (event : List α → α → Prop)
    (xs before : List α)
    (x : α)
    (after : List α) : Prop :=
  xs = before ++ x :: after ∧
    event before x ∧
      ∀ between later rest,
        after = between ++ later :: rest →
          ¬ event (before ++ x :: between) later

variable {event : List α → α → Prop}
variable {stop : α → Prop}

/- Nothing happened before the first element. -/
theorem not_since_nil :
    ¬ Since event stop [] := by
  intro hSince
  rcases hSince with ⟨before, x, after, hList, -⟩
  exact absurd hList (by simp)

/- What one more element changes. -/
theorem since_concat_iff
    {xs : List α}
    {x : α} :
    Since event stop (xs ++ [x]) ↔
      event xs x ∨ ¬ stop x ∧ Since event stop xs := by
  constructor
  · intro hSince
    rcases hSince with
      ⟨before, found, after, hList, hEvent, hNone⟩
    rcases concat_eq_append_cons_iff.mp hList with
      ⟨rfl, rfl, -⟩ | ⟨middle, rfl, rfl⟩
    · exact Or.inl hEvent
    · have hLast : ¬ stop x := hNone x (by simp)
      refine Or.inr
        ⟨hLast, before, found, middle, rfl, hEvent, ?_⟩
      intro later hMem
      exact hNone later (by simp [hMem])
  · intro hCases
    rcases hCases with hEvent | ⟨hStop, hSince⟩
    · exact ⟨xs, x, [], rfl, hEvent, by simp⟩
    · rcases hSince with
        ⟨before, found, after, rfl, hEvent, hNone⟩
      refine ⟨before, found, after ++ [x], by simp,
        hEvent, ?_⟩
      intro later hMem
      rcases List.mem_append.mp hMem with hOld | hNew
      · exact hNone later hOld
      · rw [List.mem_singleton.mp hNew]
        exact hStop

/- What is neither an event nor a stop may be left out. -/
theorem since_filter_iff
    {isEvent : α → Prop}
    {keep : α → Bool}
    (hEvent : ∀ x, isEvent x → keep x = true)
    (hStop : ∀ x, stop x → keep x = true)
    {xs : List α} :
    Since (fun _ => isEvent) stop (xs.filter keep) ↔
      Since (fun _ => isEvent) stop xs := by
  induction xs using List.reverseRecOn with
  | nil => rfl
  | append_singleton xs x ih =>
      rw [List.filter_append, since_concat_iff]
      cases hKeep : keep x with
      | true => simp [hKeep, since_concat_iff, ih]
      | false =>
          have hNone : ¬ isEvent x := by
            intro hThis
            simp [hEvent x hThis] at hKeep
          have hGoes : ¬ stop x := by
            intro hThis
            simp [hStop x hThis] at hKeep
          simp [hKeep, ih, hNone, hGoes]

/- If what stops is an event again, any event will do. -/
theorem since_iff_exists_mem
    {isEvent : α → Prop}
    {xs : List α}
    (hAgain :
      ∀ x ∈ xs, isEvent x →
        ∀ y ∈ xs, stop y → isEvent y) :
    Since (fun _ => isEvent) stop xs ↔
      ∃ x ∈ xs, isEvent x := by
  constructor
  · rintro ⟨before, x, after, rfl, hEvent, -⟩
    exact ⟨x, by simp, hEvent⟩
  · rintro ⟨x, hMem, hEvent⟩
    induction xs using List.reverseRecOn with
    | nil => exact absurd hMem (by simp)
    | append_singleton xs last ih =>
        rw [since_concat_iff]
        by_cases hLast : isEvent last
        · exact Or.inl hLast
        · have hGoes : ¬ stop last := fun hStop =>
            hLast (hAgain x hMem hEvent last (by simp) hStop)
          have hBefore : x ∈ xs := by
            rcases List.mem_append.mp hMem with hOld | hNew
            · exact hOld
            · rw [List.mem_singleton.mp hNew] at hEvent
              exact absurd hEvent hLast
          refine Or.inr ⟨hGoes, ih ?_ hBefore⟩
          intro y hFirst hThis z hSecond
          exact hAgain y (by simp [hFirst]) hThis z
            (by simp [hSecond])

/- Where something happened last after one more element. -/
theorem isLast_concat_iff
    {xs before after : List α}
    {x y : α} :
    IsLast event (xs ++ [x]) before y after ↔
      (before = xs ∧ y = x ∧ after = [] ∧ event xs x) ∨
        ¬ event xs x ∧
          ∃ middle,
            after = middle ++ [x] ∧
              IsLast event xs before y middle := by
  constructor
  · intro hIsLast
    rcases hIsLast with ⟨hList, hEvent, hNone⟩
    rcases concat_eq_append_cons_iff.mp hList with
      ⟨rfl, rfl, rfl⟩ | ⟨middle, rfl, rfl⟩
    · exact Or.inl ⟨rfl, rfl, rfl, hEvent⟩
    · refine Or.inr
        ⟨hNone middle x [] rfl, middle, rfl, rfl, hEvent, ?_⟩
      intro between later rest hMiddle
      apply hNone between later (rest ++ [x])
      rw [hMiddle]
      simp
  · intro hCases
    rcases hCases with
      ⟨rfl, rfl, rfl, hEvent⟩ | ⟨hNot, middle, rfl, hIsLast⟩
    · exact ⟨rfl, hEvent, by simp⟩
    · rcases hIsLast with ⟨rfl, hEvent, hNone⟩
      refine ⟨by simp, hEvent, ?_⟩
      intro between later rest hAfter
      rcases concat_eq_append_cons_iff.mp hAfter with
        ⟨rfl, rfl, -⟩ | ⟨front, -, hMiddle⟩
      · exact hNot
      · exact hNone between later front hMiddle

/-
  Nothing has ended what happened exactly if nothing has
  since it happened last.
-/
theorem IsLast.since_iff
    {xs before after : List α}
    {x : α}
    (hIsLast : IsLast event xs before x after) :
    Since event stop xs ↔ ∀ later ∈ after, ¬ stop later := by
  induction xs using List.reverseRecOn generalizing
    after with
  | nil => exact absurd hIsLast.1 (by simp)
  | append_singleton xs y ih =>
      rw [since_concat_iff]
      rcases isLast_concat_iff.mp hIsLast with
        ⟨rfl, rfl, rfl, hEvent⟩ |
        ⟨hNot, middle, rfl, hBefore⟩
      · exact iff_of_true (Or.inl hEvent) (by simp)
      · rw [or_iff_right hNot, ih hBefore]
        constructor
        · intro hNone later hMem
          rcases List.mem_append.mp hMem with hOld | hNew
          · exact hNone.2 later hOld
          · rw [List.mem_singleton.mp hNew]
            exact hNone.1
        · intro hNone
          exact ⟨hNone y (by simp), fun later hMem =>
            hNone later (by simp [hMem])⟩

/- What happened at all happened somewhere last. -/
theorem exists_isLast
    {xs front back : List α}
    {x : α}
    (hList : xs = front ++ x :: back)
    (hEvent : event front x) :
    ∃ before y after, IsLast event xs before y after := by
  induction xs using List.reverseRecOn generalizing
    front x back with
  | nil => exact absurd hList (by simp)
  | append_singleton xs last ih =>
      by_cases hLast : event xs last
      · exact ⟨xs, last, [],
          isLast_concat_iff.mpr
            (Or.inl ⟨rfl, rfl, rfl, hLast⟩)⟩
      · rcases concat_eq_append_cons_iff.mp hList with
          ⟨rfl, rfl, -⟩ | ⟨middle, -, hFront⟩
        · exact absurd hEvent hLast
        · rcases ih hFront hEvent with
            ⟨before, y, after, hIsLast⟩
          exact ⟨before, y, after ++ [last],
            isLast_concat_iff.mpr
              (Or.inr ⟨hLast, after, rfl, hIsLast⟩)⟩

end Grammar

end LayeredSettings
