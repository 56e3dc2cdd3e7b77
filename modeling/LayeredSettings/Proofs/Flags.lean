import LayeredSettings.Environment.Flags
import LayeredSettings.Proofs.Profile.History
import Mathlib

/-
  Which properties the arguments of a command line set.

  Key definitions include:
    * `Flags.IsKey`
    * `Flags.Gives`, `Flags.IsAbout`
    * `Flags.Writes`

  Key theorems include:
    * `Table.get?_ofList_filterMap`
    * `Flags.property?_eq_some_iff`
    * `Flags.get?_properties_eq_some_iff`
    * `Flags.Writes.get?_properties_eq_some_iff`
    * `Flags.properties_last_wins`

  A key has no `=`, so the first `=` of an argument ends its
  key, and two arguments are about one key only if they have
  the same text up to there.  That the last argument about a
  key wins is a fact about tables that are built from lists.
-/

------------------------------------------------------------
-- Tables from Lists
------------------------------------------------------------

namespace LayeredSettings

open Grammar

namespace Table

variable {κ α β : Type}
variable [DecidableEq κ]

/- The last entry of a list is inserted last. -/
theorem ofList_concat
    (entries : List (κ × α))
    (k : κ)
    (a : α) :
    ofList (entries ++ [(k, a)]) =
      (ofList entries).insert k a := by
  unfold ofList
  rw [List.foldl_append]
  rfl

/-
  A key has the value of the last element that an entry for
  the key is made from.
-/
theorem get?_ofList_filterMap
    {entryOf : β → Option (κ × α)}
    {elements : List β}
    {k : κ}
    {a : α} :
    (ofList (elements.filterMap entryOf)).get? k = some a ↔
      Since (fun _ element => entryOf element = some (k, a))
        (fun element => ∃ b, entryOf element = some (k, b))
        elements := by
  induction elements using List.reverseRecOn with
  | nil => exact iff_of_false (by simp [ofList]) not_since_nil
  | append_singleton elements last ih =>
      rw [since_concat_iff, ← ih, List.filterMap_append]
      cases hEntry : entryOf last with
      | none => simp [hEntry]
      | some entry =>
          obtain ⟨l, b⟩ := entry
          simp only [List.filterMap_cons, hEntry,
            List.filterMap_nil, ofList_concat, get?_insert]
          by_cases hKey : l = k
          · simp [hKey]
          · simp [hKey]

/- The keys are those of the entries. -/
theorem mem_keys_ofList_iff
    {entries : List (κ × α)}
    {k : κ} :
    k ∈ (ofList entries).keys ↔ ∃ a, (k, a) ∈ entries := by
  induction entries using List.reverseRecOn with
  | nil => simp [ofList, keys, empty]
  | append_singleton entries last ih =>
      obtain ⟨l, b⟩ := last
      rw [mem_keys_iff] at ih ⊢
      rw [ofList_concat, get?_insert]
      by_cases hKey : l = k
      · simp [hKey]
      · simp [hKey, Ne.symm hKey, ih]

end Table

end LayeredSettings

------------------------------------------------------------
-- Arguments
------------------------------------------------------------

namespace LayeredSettings

open Grammar

namespace Flags

/- A key that an argument can set. -/
structure IsKey
    (key : String) : Prop where
  ne_empty : key ≠ ""
  no_equals : '=' ∉ key.toList

/-
  An argument that sets a key: to the empty text, or to all
  that comes after the first `=`.
-/
def Gives
    (argument key value : String) : Prop :=
  argument = "-D" ++ key ∧ value = "" ∨
    argument = "-D" ++ key ++ "=" ++ value

/- An argument that is the flag of a key, or starts so. -/
def IsAbout
    (argument key : String) : Prop :=
  argument = "-D" ++ key ∨
    ∃ rest, argument = "-D" ++ key ++ "=" ++ rest

/-
  Arguments that write pairs one after the other.  Between
  them there may be any arguments that are no flags.
-/
inductive Writes :
    List (String × String) → List String → Prop where
| nil : Writes [] []
| pair
    (key value : String)
    {pairs : List (String × String)}
    {arguments : List String}
    (is_key : IsKey key)
    (rest : Writes pairs arguments) :
    Writes ((key, value) :: pairs)
      (("-D" ++ key ++ "=" ++ value) :: arguments)
| other
    (argument : String)
    {pairs : List (String × String)}
    {arguments : List String}
    (no_flag : ¬ ['-', 'D'] <+: argument.toList)
    (rest : Writes pairs arguments) :
    Writes pairs (argument :: arguments)

/- An argument is about the keys that it sets. -/
theorem isAbout_iff
    {argument key : String} :
    IsAbout argument key ↔
      ∃ value, Gives argument key value := by
  constructor
  · rintro (hFlag | ⟨rest, hRest⟩)
    · exact ⟨"", Or.inl ⟨hFlag, rfl⟩⟩
    · exact ⟨rest, Or.inr hRest⟩
  · rintro ⟨value, ⟨hFlag, -⟩ | hRest⟩
    · exact Or.inl hFlag
    · exact Or.inr ⟨value, hRest⟩

/- A flag is parted at its first `=`, if it has one. -/
theorem getD_splitFirst_eq_iff
    {flag key value : List Char} :
    (Text.splitFirst '=' flag).getD (flag, []) =
        (key, value) ↔
      '=' ∉ key ∧
        (flag = key ∧ value = [] ∨
          flag = key ++ '=' :: value) := by
  cases hSplit : Text.splitFirst '=' flag with
  | none =>
      have hNone : '=' ∉ flag :=
        Text.splitFirst_eq_none_iff.mp hSplit
      rw [Option.getD_none, Prod.mk.injEq]
      constructor
      · rintro ⟨rfl, rfl⟩
        exact ⟨hNone, Or.inl ⟨rfl, rfl⟩⟩
      · rintro ⟨-, ⟨rfl, rfl⟩ | rfl⟩
        · exact ⟨rfl, rfl⟩
        · simp at hNone
  | some parts =>
      obtain ⟨before, after⟩ := parts
      rcases Text.splitFirst_eq_some_iff.mp hSplit with
        ⟨hBefore, rfl⟩
      rw [Option.getD_some, Prod.mk.injEq]
      constructor
      · rintro ⟨rfl, rfl⟩
        exact ⟨hBefore, Or.inr rfl⟩
      · rintro ⟨hKey, ⟨rfl, -⟩ | hFlag⟩
        · simp at hKey
        · have hOther :=
            Text.splitFirst_eq_some_iff.mpr ⟨hKey, hFlag⟩
          rw [hSplit] at hOther
          exact Prod.mk.inj (Option.some.inj hOther)

/- What an argument sets, told from its characters. -/
theorem gives_iff
    {argument key value : String} :
    Gives argument key value ↔
      ∃ flag,
        argument.toList = '-' :: 'D' :: flag ∧
          (flag = key.toList ∧ value.toList = [] ∨
            flag = key.toList ++ '=' :: value.toList) := by
  have hFlag :
      ("-D" ++ key).toList = '-' :: 'D' :: key.toList := by
    rw [String.toList_append]
    rfl
  have hPair :
      ("-D" ++ key ++ "=" ++ value).toList =
        '-' :: 'D' :: (key.toList ++ '=' :: value.toList) := by
    simp only [String.toList_append, List.append_assoc]
    rfl
  unfold Gives
  rw [← String.toList_inj, ← String.toList_inj,
    ← String.toList_inj, hFlag, hPair]
  constructor
  · rintro (⟨hArgument, hValue⟩ | hArgument)
    · exact ⟨_, hArgument, Or.inl ⟨rfl, hValue⟩⟩
    · exact ⟨_, hArgument, Or.inr rfl⟩
  · rintro ⟨flag, hArgument, ⟨rfl, hValue⟩ | rfl⟩
    · exact Or.inl ⟨hArgument, hValue⟩
    · exact Or.inr hArgument

/- An argument is read as what it sets. -/
theorem property?_eq_some_iff
    {argument key value : String} :
    property? argument = some (key, value) ↔
      IsKey key ∧ Gives argument key value := by
  rw [gives_iff]
  unfold property?
  split
  · rename_i flag hFlag
    have hFlagOnly :
        ∀ other,
          argument.toList = '-' :: 'D' :: other ↔
            flag = other := by
      intro other
      simp [hFlag]
    obtain ⟨⟨before, after⟩, hParts⟩ :
        ∃ parts,
          (Text.splitFirst '=' flag).getD (flag, []) =
            parts :=
      ⟨_, rfl⟩
    have hIff :=
      @getD_splitFirst_eq_iff flag key.toList value.toList
    simp only [hFlagOnly, exists_eq_left', hParts,
      Prod.mk.injEq] at hIff ⊢
    constructor
    · intro hProperty
      split at hProperty
      · exact absurd hProperty (by simp)
      · rename_i hNonempty
        cases hProperty
        simp only [String.toList_ofList] at hIff ⊢
        rcases hIff.mp ⟨trivial, trivial⟩ with ⟨hEquals, hFlag⟩
        refine ⟨⟨?_, ?_⟩, hFlag⟩
        · simpa using hNonempty
        · rw [String.toList_ofList]
          exact hEquals
    · rintro ⟨hKey, hGives⟩
      rcases hIff.mpr ⟨hKey.no_equals, hGives⟩ with
        ⟨rfl, rfl⟩
      have hNonempty : key.toList ≠ [] := by
        simpa using hKey.ne_empty
      rw [if_neg hNonempty, String.ofList_toList,
        String.ofList_toList]
  · rename_i hOther
    constructor
    · intro hNone
      exact absurd hNone (by simp)
    · rintro ⟨-, flag, hFlag, -⟩
      exact absurd hFlag (hOther flag)

/- What is written is read, and nothing else. -/
theorem Writes.filterMap_eq
    {pairs : List (String × String)}
    {arguments : List String}
    (hWrites : Writes pairs arguments) :
    arguments.filterMap property? = pairs := by
  induction hWrites with
  | nil => rfl
  | pair key value is_key _ ih =>
      have hPair :
          property? ("-D" ++ key ++ "=" ++ value) =
            some (key, value) :=
        property?_eq_some_iff.mpr ⟨is_key, Or.inr rfl⟩
      rw [List.filterMap_cons, hPair, ih]
  | other argument no_flag _ ih =>
      have hNone : property? argument = none := by
        unfold property?
        split
        · rename_i flag hFlag
          exact absurd ⟨flag, hFlag.symm⟩ no_flag
        · rfl
      rw [List.filterMap_cons, hNone, ih]

------------------------------------------------------------
-- Properties
------------------------------------------------------------

/- The last argument about a key gives it its value. -/
theorem get?_properties_eq_some_iff
    {arguments : List String}
    {key value : String} :
    (properties arguments).get? key = some value ↔
      IsKey key ∧
        Since (fun _ argument => Gives argument key value)
          (fun argument => IsAbout argument key)
          arguments := by
  unfold properties
  rw [Table.get?_ofList_filterMap]
  simp only [property?_eq_some_iff, exists_and_left,
    ← isAbout_iff]
  constructor
  · rintro ⟨before, argument, after, hList,
      ⟨hKey, hGives⟩, hNone⟩
    refine
      ⟨hKey, before, argument, after, hList, hGives, ?_⟩
    intro later hMem hAbout
    exact hNone later hMem ⟨hKey, hAbout⟩
  · rintro ⟨hKey, before, argument, after, hList, hGives,
      hNone⟩
    refine
      ⟨before, argument, after, hList, ⟨hKey, hGives⟩, ?_⟩
    intro later hMem hAbout
    exact hNone later hMem hAbout.2

/- A key is set if there is an argument about it. -/
theorem mem_keys_properties_iff
    {arguments : List String}
    {key : String} :
    key ∈ (properties arguments).keys ↔
      IsKey key ∧
        ∃ argument ∈ arguments, IsAbout argument key := by
  unfold properties
  simp only [Table.mem_keys_ofList_iff, List.mem_filterMap,
    property?_eq_some_iff, isAbout_iff]
  constructor
  · rintro ⟨value, argument, hMem, hKey, hGives⟩
    exact ⟨hKey, argument, hMem, value, hGives⟩
  · rintro ⟨hKey, argument, hMem, value, hGives⟩
    exact ⟨value, argument, hMem, hKey, hGives⟩

/- The last pair that is written for a key is read. -/
theorem Writes.get?_properties_eq_some_iff
    {pairs : List (String × String)}
    {arguments : List String}
    (hWrites : Writes pairs arguments)
    {key value : String} :
    (properties arguments).get? key = some value ↔
      Since (fun _ pair => pair = (key, value))
        (fun pair => pair.1 = key) pairs := by
  have hPairs :
      arguments.filterMap property? =
        pairs.filterMap some := by
    rw [hWrites.filterMap_eq, List.filterMap_some]
  have hKey (pair : String × String) :
      (∃ other, pair = (key, other)) ↔ pair.1 = key := by
    obtain ⟨own, other⟩ := pair
    simp
  unfold properties
  rw [hPairs, Table.get?_ofList_filterMap]
  simp only [Option.some.injEq, hKey]

/-
  The last argument about a key gives it its value, and keys
  that no argument is about are not set.  So what is written
  pair by pair is read as the table of the pairs.
-/
theorem properties_last_wins
    (arguments : List String) :
    (∀ key value,
      (properties arguments).get? key = some value ↔
        IsKey key ∧
          Since (fun _ argument => Gives argument key value)
            (fun argument => IsAbout argument key)
            arguments) ∧
    (∀ key,
      key ∈ (properties arguments).keys ↔
        IsKey key ∧
          ∃ argument ∈ arguments, IsAbout argument key) ∧
    ∀ pairs,
      Writes pairs arguments →
        ∀ key value,
          (properties arguments).get? key = some value ↔
            Since (fun _ pair => pair = (key, value))
              (fun pair => pair.1 = key) pairs := by
  refine ⟨?_, ?_, ?_⟩
  · intro key value
    exact get?_properties_eq_some_iff
  · intro key
    exact mem_keys_properties_iff
  · intro pairs hWrites key value
    exact hWrites.get?_properties_eq_some_iff

/-
  Of two pairs for a key the later wins, and its value keeps
  the `=` in it.  A longer key is another key.
-/
theorem properties_last_wins_pairs :
    Writes [("a", "1"), ("ab", ""), ("a", "x=y")]
      ["app", "-Da=1", "--v", "-Dab=", "-Da=x=y"] ∧
    (properties
      ["app", "-Da=1", "--v", "-Dab=", "-Da=x=y"]).get? "a" =
        some "x=y" := by
  have hKey : IsKey "a" := ⟨by decide, by decide⟩
  have hLonger : IsKey "ab" := ⟨by decide, by decide⟩
  have hWrites :
      Writes [("a", "1"), ("ab", ""), ("a", "x=y")]
        ["app", "-Da=1", "--v", "-Dab=", "-Da=x=y"] :=
    .other "app" (by decide)
      (.pair "a" "1" hKey
        (.other "--v" (by decide)
          (.pair "ab" "" hLonger
            (.pair "a" "x=y" hKey .nil))))
  refine ⟨hWrites, ?_⟩
  refine
    ((properties_last_wins _).2.2 _ hWrites "a" "x=y").mpr ?_
  exact
    ⟨[("a", "1"), ("ab", "")], ("a", "x=y"), [], rfl, rfl,
      by simp⟩

end Flags

end LayeredSettings
