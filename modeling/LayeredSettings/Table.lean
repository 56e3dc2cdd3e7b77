/-
  This file defines finite tables that remember the order in
  which their keys were first inserted.

  Key definitions include:
    * `Table`
    * `Table.get?`
    * `Table.insert`
    * `Table.erase`
    * `Table.ofList`
    * `Table.Equivalent`

  Key theorems include:
    * `Table.get?_empty`
    * `Table.get?_insert`
    * `Table.get?_erase`
    * `Table.mem_keys_iff`
    * `Table.get?_eq_some_iff_mem`

  Every table is read through `get?`, so each operation has
  one lemma that says what it does to `get?`.  Two tables
  with the same answers are `Equivalent`, whatever their
  orders are.
-/

namespace LayeredSettings

------------------------------------------------------------
-- Association Lists
------------------------------------------------------------

namespace Entries

variable {κ α : Type} [DecidableEq κ]

/- The value of the first entry with the key. -/
def get?
    (k : κ) : List (κ × α) → Option α
| [] => none
| (j, a) :: rest =>
    if j = k then some a else get? k rest

/- Replace the value of a key in place, or append it. -/
def insert
    (k : κ)
    (a : α) : List (κ × α) → List (κ × α)
| [] => [(k, a)]
| (j, b) :: rest =>
    if j = k then (k, a) :: rest
    else (j, b) :: insert k a rest

/- A key is listed exactly if it has a value. -/
theorem mem_keys_iff
    (k : κ)
    (es : List (κ × α)) :
    k ∈ es.map Prod.fst ↔ (get? k es).isSome := by
  induction es with
  | nil => simp [get?]
  | cons e rest ih =>
      obtain ⟨j, a⟩ := e
      by_cases h : j = k
      · simp [get?, h]
      · simp [get?, h, ← ih, Ne.symm h]

/- An inserted key has the new value; others keep theirs. -/
theorem get?_insert
    (k l : κ)
    (a : α)
    (es : List (κ × α)) :
    get? l (insert k a es) =
      if k = l then some a else get? l es := by
  induction es with
  | nil => rfl
  | cons e rest ih =>
      obtain ⟨j, b⟩ := e
      by_cases h : j = k
      · subst h
        by_cases hl : j = l <;> simp [insert, get?, hl]
      · by_cases hl : j = l
        · subst hl
          simp [insert, get?, h, Ne.symm h]
        · simp [insert, get?, h, hl, ih]

/- A key is read as the value it is listed with. -/
theorem get?_eq_some_iff_mem
    {k : κ}
    {a : α}
    {es : List (κ × α)}
    (hKeys : (es.map Prod.fst).Nodup) :
    get? k es = some a ↔ (k, a) ∈ es := by
  induction es with
  | nil => simp [get?]
  | cons e rest ih =>
      obtain ⟨j, b⟩ := e
      simp only [List.map_cons, List.nodup_cons] at hKeys
      have hRest := ih hKeys.2
      by_cases h : j = k
      · subst h
        have hNot : (j, a) ∉ rest := by
          intro hMem
          exact hKeys.1 (List.mem_map_of_mem hMem)
        simp [get?, hNot, eq_comm]
      · simp [get?, h, hRest, Ne.symm h]

/- The order of entries does not matter to what is read. -/
theorem get?_eq_of_perm
    {es fs : List (κ × α)}
    (hKeys : (es.map Prod.fst).Nodup)
    (hPerm : es.Perm fs)
    (k : κ) :
    get? k es = get? k fs := by
  have hOther : (fs.map Prod.fst).Nodup :=
    (hPerm.map Prod.fst).nodup_iff.mp hKeys
  apply Option.ext
  intro a
  rw [get?_eq_some_iff_mem hKeys,
    get?_eq_some_iff_mem hOther, hPerm.mem_iff]

/- Values that are changed one by one are found changed. -/
theorem get?_map
    {β : Type}
    (f : α → β)
    (k : κ)
    (es : List (κ × α)) :
    get? k (es.map fun e => (e.1, f e.2)) =
      (get? k es).map f := by
  induction es with
  | nil => rfl
  | cons e rest ih =>
      by_cases h : e.1 = k
      · simp [get?, h]
      · simp [get?, h, ih]

/- A key that is not listed is appended. -/
theorem insert_of_not_mem
    {k : κ}
    {es : List (κ × α)}
    (hKey : k ∉ es.map Prod.fst)
    (a : α) :
    insert k a es = es ++ [(k, a)] := by
  induction es with
  | nil => rfl
  | cons e rest ih =>
      rw [List.map_cons, List.mem_cons, not_or] at hKey
      rw [insert, if_neg (Ne.symm hKey.1), ih hKey.2]
      rfl

/- The value of the last key is replaced in place. -/
theorem insert_concat
    {k : κ}
    {es : List (κ × α)}
    (hKey : k ∉ es.map Prod.fst)
    (a b : α) :
    insert k b (es ++ [(k, a)]) = es ++ [(k, b)] := by
  induction es with
  | nil => simp [insert]
  | cons e rest ih =>
      rw [List.map_cons, List.mem_cons, not_or] at hKey
      rw [List.cons_append, insert, if_neg (Ne.symm hKey.1),
        ih hKey.2]
      rfl

/- Of two values for a key the first leaves no trace. -/
theorem insert_insert
    (k : κ)
    (a b : α)
    (es : List (κ × α)) :
    insert k b (insert k a es) = insert k b es := by
  induction es with
  | nil => simp [insert]
  | cons e rest ih =>
      by_cases h : e.1 = k
      · simp [insert, h]
      · simp [insert, h, ih]

/- Insertion adds no key but the inserted one. -/
theorem mem_keys_insert_iff
    (k l : κ)
    (a : α)
    (es : List (κ × α)) :
    l ∈ (insert k a es).map Prod.fst ↔
      l = k ∨ l ∈ es.map Prod.fst := by
  rw [mem_keys_iff, mem_keys_iff, get?_insert]
  by_cases h : k = l
  · simp [h]
  · simp [h, Ne.symm h]

/- Insertion keeps the keys distinct. -/
theorem nodup_insert
    (k : κ)
    (a : α)
    {es : List (κ × α)}
    (h : (es.map Prod.fst).Nodup) :
    ((insert k a es).map Prod.fst).Nodup := by
  induction es with
  | nil => simp [insert]
  | cons e rest ih =>
      obtain ⟨j, b⟩ := e
      simp only [List.map_cons, List.nodup_cons] at h
      by_cases hj : j = k
      · subst hj
        simpa [insert] using h
      · simp only [insert, if_neg hj, List.map_cons,
          List.nodup_cons, mem_keys_insert_iff, not_or]
        exact ⟨⟨hj, h.1⟩, ih h.2⟩

/- Erasing a key by a filter hides it and nothing else. -/
theorem get?_filter_ne
    (k l : κ)
    (es : List (κ × α)) :
    get? l (es.filter fun e => e.1 ≠ k) =
      if k = l then none else get? l es := by
  induction es with
  | nil => simp [get?]
  | cons e rest ih =>
      obtain ⟨j, b⟩ := e
      by_cases hj : j = k
      · subst hj
        by_cases hl : j = l
        · simpa [hl] using ih
        · simpa [get?, hl] using ih
      · by_cases hl : j = l
        · subst hl
          simp [get?, hj, Ne.symm hj]
        · simpa [get?, hj, hl] using ih

end Entries

------------------------------------------------------------
-- Tables
------------------------------------------------------------

/-
  A finite map from keys to values.  The keys are listed in
  the order of their first insertion, each of them once.
-/
structure Table
    (κ α : Type) where
  entries : List (κ × α)
  nodup_keys : (entries.map Prod.fst).Nodup

namespace Table

variable {κ α β : Type}

/- Two tables with the same entries are the same table. -/
theorem ext_entries
    {s t : Table κ α}
    (h : s.entries = t.entries) :
    s = t := by
  cases s
  cases t
  simp_all

instance
    [DecidableEq κ] [DecidableEq α] :
    DecidableEq (Table κ α) :=
  fun s t =>
    if h : s.entries = t.entries then
      isTrue (ext_entries h)
    else
      isFalse fun he => h (congrArg Table.entries he)

/- The table without keys. -/
def empty : Table κ α where
  entries := []
  nodup_keys := List.nodup_nil

/- The keys in the order of their first insertion. -/
def keys
    (t : Table κ α) : List κ :=
  t.entries.map Prod.fst

/- Whether the table has no key. -/
def isEmpty
    (t : Table κ α) : Bool :=
  t.entries.isEmpty

/- The number of keys. -/
def size
    (t : Table κ α) : Nat :=
  t.entries.length

/- Change the values that `f` accepts and drop the others. -/
def filterMapValues
    (f : α → Option β)
    (t : Table κ α) : Table κ β where
  entries := t.entries.filterMap fun e =>
    (f e.2).map fun b => (e.1, b)
  nodup_keys := by
    have hSub :
        ((t.entries.filterMap fun e =>
          (f e.2).map fun b => (e.1, b)).map
            Prod.fst).Sublist
          (t.entries.map Prod.fst) := by
      induction t.entries with
      | nil => simp
      | cons e rest ih =>
          cases h : f e.2 with
          | none =>
              simpa [List.filterMap_cons, h]
                using ih.cons e.1
          | some b =>
              simpa [List.filterMap_cons, h]
                using ih.cons_cons e.1
    exact t.nodup_keys.sublist hSub

variable [DecidableEq κ]

/- The value of a key. -/
def get?
    (t : Table κ α)
    (k : κ) : Option α :=
  Entries.get? k t.entries

/- Whether a key has a value. -/
def contains
    (t : Table κ α)
    (k : κ) : Bool :=
  (t.get? k).isSome

/- Give a key a value, keeping the place of an old key. -/
def insert
    (t : Table κ α)
    (k : κ)
    (a : α) : Table κ α where
  entries := Entries.insert k a t.entries
  nodup_keys := Entries.nodup_insert k a t.nodup_keys

/- Remove a key. -/
def erase
    (t : Table κ α)
    (k : κ) : Table κ α where
  entries := t.entries.filter fun e => e.1 ≠ k
  nodup_keys :=
    t.nodup_keys.sublist
      (List.filter_sublist.map Prod.fst)

/- Insert pairs from left to right: later pairs win. -/
def ofList
    (es : List (κ × α)) : Table κ α :=
  es.foldl (fun t e => t.insert e.1 e.2) empty

/- Tables that give every key the same value. -/
def Equivalent
    (s t : Table κ α) : Prop :=
  ∀ k, s.get? k = t.get? k

------------------------------------------------------------
-- Reading Tables
------------------------------------------------------------

@[simp]
theorem get?_empty
    (k : κ) :
    (empty : Table κ α).get? k = none := rfl

@[simp]
theorem get?_insert
    (t : Table κ α)
    (k l : κ)
    (a : α) :
    (t.insert k a).get? l =
      if k = l then some a else t.get? l :=
  Entries.get?_insert k l a t.entries

@[simp]
theorem get?_erase
    (t : Table κ α)
    (k l : κ) :
    (t.erase k).get? l =
      if k = l then none else t.get? l :=
  Entries.get?_filter_ne k l t.entries

/- Of two values for a key the first leaves no trace. -/
@[simp]
theorem insert_insert
    (t : Table κ α)
    (k : κ)
    (a b : α) :
    (t.insert k a).insert k b = t.insert k b :=
  ext_entries (Entries.insert_insert k a b t.entries)

/- The keys are exactly what has a value. -/
theorem mem_keys_iff
    (t : Table κ α)
    (k : κ) :
    k ∈ t.keys ↔ (t.get? k).isSome :=
  Entries.mem_keys_iff k t.entries

/- A key has exactly the value that it is listed with. -/
theorem get?_eq_some_iff_mem
    (t : Table κ α)
    (k : κ)
    (a : α) :
    t.get? k = some a ↔ (k, a) ∈ t.entries :=
  Entries.get?_eq_some_iff_mem t.nodup_keys

end Table

end LayeredSettings
