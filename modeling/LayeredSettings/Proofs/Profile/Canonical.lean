import LayeredSettings.Proofs.Profile.Grammar
import LayeredSettings.Proofs.Profile.Merging

/-
  Canonical profile sets, and listings of them.

  Key definitions include:
    * `Canonical.IsName`, `Canonical.IsKey`,
      `Canonical.IsValue`
    * `ProfileSet.IsCanonical`
    * `ProfileSet.IsListedAs`
    * `ProfileSet.HasSameValues`

  Key theorems include:
    * `ProfileSet.IsListedAs.isListing`
    * `ProfileSet.IsListedAs.listed?_eq`

  A profile file can say anything that a canonical set has.
  A listing has the profiles of a set and the properties of
  each in an order, in which they can be written.
-/

------------------------------------------------------------
-- Names, Keys and Values
------------------------------------------------------------

namespace LayeredSettings

namespace Canonical

open Grammar

/- What stands in a list has a partner in the other. -/
theorem exists_of_mem_forall₂
    {α β : Type}
    {r : α → β → Prop}
    {xs : List α}
    {ys : List β}
    {x : α}
    (hPairs : List.Forall₂ r xs ys)
    (hMem : x ∈ xs) :
    ∃ y ∈ ys, r x y := by
  induction hPairs with
  | nil => cases hMem
  | cons hHead _ ih =>
      rcases List.mem_cons.mp hMem with rfl | hRest
      · exact ⟨_, by simp, hHead⟩
      · rcases ih hRest with ⟨y, hIn, hPair⟩
        exact ⟨y, by simp [hIn], hPair⟩

/- The letters of names that keys do not have. -/
def capitals : List Char :=
  "ABCDEFGHIJKLMNOPQRSTUVWXYZ".toList

/- The characters of keys. -/
def keyCharacters : List Char :=
  "abcdefghijklmnopqrstuvwxyz0123456789_-/.%@:+".toList

/- A name of a profile. -/
def IsName
    (name : String) : Prop :=
  name.toList ≠ [] ∧
    ∀ c ∈ name.toList, c ∈ capitals ++ keyCharacters

/- A key of a property, which has no capital letter. -/
def IsKey
    (key : String) : Prop :=
  key.toList ≠ [] ∧ ∀ c ∈ key.toList, c ∈ keyCharacters

/- A line without returns and without blanks around. -/
structure IsTrimmed
    (line : List Char) : Prop where
  no_return : '\r' ∉ line
  first : ∀ c ∈ line.head?, Text.isBlank c = false
  last : ∀ c ∈ line.getLast?, Text.isBlank c = false

/- A line that says something when it is indented. -/
structure IsFurther
    (line : List Char) : Prop extends IsTrimmed line where
  nonempty : line ≠ []
  no_comment : ∀ c ∈ line.head?, isCommentMark c = false

/-
  A value that a property and its continuations can have:
  no comment starts in its first line, and none of its
  further lines is empty or is a comment.
-/
def IsValue
    (value : String) : Prop :=
  ∃ first further,
    Text.splitAll '\n' value.toList = first :: further ∧
      IsTrimmed first ∧ IsCommentFree first ∧
        ∀ line ∈ further, IsFurther line

/- The name of the section of a profile in a file. -/
def heading
    (kind : FileKind)
    (name : String) : String :=
  match kind with
  | .config => "profile " ++ name
  | .credentials => name

/- A character with a meaning of its own nowhere in a file. -/
def IsPlain
    (c : Char) : Prop :=
  Text.isWhiteSpace c = false ∧ isCommentMark c = false ∧
    c ∉ ['=', '[', ']', '\n', '\r']

instance (c : Char) :
    Decidable (IsPlain c) :=
  inferInstanceAs
    (Decidable
      (Text.isWhiteSpace c = false ∧ isCommentMark c = false ∧
        c ∉ ['=', '[', ']', '\n', '\r']))

/- The characters of names are plain and accepted. -/
theorem isPlain_of_mem
    {c : Char}
    (hMem : c ∈ capitals ++ keyCharacters) :
    IsPlain c ∧ Text.isIdentifierChar c = true := by
  have hAll :
      ((capitals ++ keyCharacters).all fun c =>
        IsPlain c ∧ Text.isIdentifierChar c = true) =
        true := by
    decide
  exact of_decide_eq_true (List.all_eq_true.mp hAll c hMem)

/- The characters of keys have no other lower case. -/
theorem toLower_of_mem
    {c : Char}
    (hMem : c ∈ keyCharacters) :
    c.toLower = c := by
  have hAll :
      (keyCharacters.all fun c => c.toLower = c) = true := by
    decide
  exact of_decide_eq_true (List.all_eq_true.mp hAll c hMem)

/- Characters that are no white space are no blanks. -/
theorem isBlank_eq_false
    {c : Char}
    (hSpace : Text.isWhiteSpace c = false) :
    Text.isBlank c = false := by
  cases hBlank : Text.isBlank c with
  | false => rfl
  | true =>
      rw [Text.isWhiteSpace_of_isBlank hBlank] at hSpace
      cases hSpace

/- Every key is a name. -/
theorem IsKey.isName
    {key : String}
    (hKey : IsKey key) :
    IsName key :=
  ⟨hKey.1, fun c hMem =>
    List.mem_append_right capitals (hKey.2 c hMem)⟩

/- Every name is accepted. -/
theorem IsName.isIdentifier
    {name : String}
    (hName : IsName name) :
    Text.isIdentifier name = true := by
  unfold Text.isIdentifier
  rw [Bool.and_eq_true]
  constructor
  · simpa using hName.1
  · rw [List.all_eq_true]
    intro c hMem
    exact (isPlain_of_mem (hName.2 c hMem)).2

/- Every key is in lower case. -/
theorem IsKey.lowerCase_eq
    {key : String}
    (hKey : IsKey key) :
    Text.lowerCase key = key := by
  unfold Text.lowerCase
  have hSame :
      key.toList.map Char.toLower = key.toList.map id := by
    apply List.map_congr_left
    intro c hMem
    exact toLower_of_mem (hKey.2 c hMem)
  rw [hSame, List.map_id, String.ofList_toList]

end Canonical

end LayeredSettings

------------------------------------------------------------
-- Sets and Listings
------------------------------------------------------------

namespace LayeredSettings

namespace ProfileSet

/- The value under a name and a key. -/
def value?
    (set : ProfileSet)
    (name key : String) : Option String :=
  (set.property? name key).map Property.value

/- Sets with the same profiles and the same properties. -/
structure HasSameValues
    (set other : ProfileSet) : Prop where
  names :
    ∀ name,
      (set.profile? name).isSome ↔
        (other.profile? name).isSome
  values :
    ∀ name key, set.value? name key = other.value? name key

/- All that is in the set can be written. -/
def IsCanonical
    (set : ProfileSet) : Prop :=
  ∀ name profile,
    set.profile? name = some profile →
      Canonical.IsName name ∧
        ∀ key property,
          profile.properties.get? key = some property →
            Canonical.IsKey key ∧
              Canonical.IsValue property.value

/- The keys and values of a profile in some order. -/
def IsListedProfile
    (listed : String × List (String × String))
    (entry : String × Profile) : Prop :=
  listed.1 = entry.1 ∧
    listed.2.Perm
      (entry.2.properties.entries.map fun e =>
        (e.1, e.2.value))

/- The profiles of a set in some order, each in some order. -/
def IsListedAs
    (set : ProfileSet)
    (listing : List (String × List (String × String))) :
    Prop :=
  ∃ profiles : List (String × Profile),
    profiles.Perm set.profiles.entries ∧
      List.Forall₂ IsListedProfile listing profiles

end ProfileSet

namespace Canonical

/- What is listed of a profile can be written. -/
structure IsEntry
    (entry : String × List (String × String)) : Prop where
  name : IsName entry.1
  nodup : (entry.2.map Prod.fst).Nodup
  keys : ∀ property ∈ entry.2, IsKey property.1
  values : ∀ property ∈ entry.2, IsValue property.2

/- All that is listed can be written, each thing once. -/
structure IsListing
    (listing : List (String × List (String × String))) :
    Prop where
  nodup : (listing.map Prod.fst).Nodup
  entries : ∀ entry ∈ listing, IsEntry entry

/- The value of a key of a name in a listing. -/
def listed?
    (listing : List (String × List (String × String)))
    (name key : String) : Option String :=
  (Entries.get? name listing).bind fun properties =>
    Entries.get? key properties

end Canonical

namespace ProfileSet

open Canonical

variable {set : ProfileSet}
variable {listing : List (String × List (String × String))}

/- The names of a listing are those of its profiles. -/
theorem map_fst_eq_of_forall₂
    {profiles : List (String × Profile)}
    (hListed :
      List.Forall₂ IsListedProfile listing profiles) :
    listing.map Prod.fst = profiles.map Prod.fst := by
  induction hListed with
  | nil => rfl
  | cons hHead _ ih =>
      rw [List.map_cons, List.map_cons, hHead.1, ih]

/- A listing of a canonical set is one that can be written. -/
theorem IsListedAs.isListing
    (hListing : set.IsListedAs listing)
    (hSet : set.IsCanonical) :
    IsListing listing := by
  rcases hListing with ⟨profiles, hPerm, hListed⟩
  constructor
  · rw [map_fst_eq_of_forall₂ hListed]
    exact (hPerm.map Prod.fst).nodup_iff.mpr
      set.profiles.nodup_keys
  · intro entry hMem
    rcases exists_of_mem_forall₂ hListed hMem with
      ⟨⟨name, profile⟩, hFound, hName, hProperties⟩
    have hProfile : set.profile? name = some profile :=
      (set.profiles.get?_eq_some_iff_mem name profile).mpr
        (hPerm.mem_iff.mp hFound)
    have hCanonical := hSet name profile hProfile
    have hProperty :
        ∀ property ∈ entry.2,
          IsKey property.1 ∧ IsValue property.2 := by
      intro property hIn
      rcases List.mem_map.mp (hProperties.mem_iff.mp hIn) with
        ⟨stored, hStored, rfl⟩
      exact hCanonical.2 stored.1 stored.2
        ((profile.properties.get?_eq_some_iff_mem _ _).mpr
          hStored)
    constructor
    · rw [hName]
      exact hCanonical.1
    · rw [(hProperties.map Prod.fst).nodup_iff, List.map_map]
      exact profile.properties.nodup_keys
    · intro property hIn
      exact (hProperty property hIn).1
    · intro property hIn
      exact (hProperty property hIn).2

/- A name is listed exactly if it has a profile. -/
theorem IsListedAs.mem_iff
    (hListing : set.IsListedAs listing)
    (name : String) :
    name ∈ listing.map Prod.fst ↔
      (set.profile? name).isSome := by
  rcases hListing with ⟨profiles, hPerm, hListed⟩
  rw [map_fst_eq_of_forall₂ hListed,
    (hPerm.map Prod.fst).mem_iff]
  exact set.profiles.mem_keys_iff name

/- A listing has the values of its set. -/
theorem IsListedAs.listed?_eq
    (hListing : set.IsListedAs listing)
    (name key : String) :
    listed? listing name key = set.value? name key := by
  rcases hListing with ⟨profiles, hPerm, hListed⟩
  have hKeys : (profiles.map Prod.fst).Nodup :=
    (hPerm.map Prod.fst).nodup_iff.mpr
      set.profiles.nodup_keys
  have hProfile :
      Entries.get? name profiles = set.profile? name :=
    Entries.get?_eq_of_perm hKeys hPerm name
  unfold listed? value? property?
  rw [← hProfile]
  clear hPerm hKeys hProfile
  induction hListed with
  | nil => rfl
  | @cons entry found rest others hHead _ ih =>
      rcases entry with ⟨listedName, properties⟩
      rcases found with ⟨foundName, profile⟩
      rcases hHead with ⟨hName, hProperties⟩
      dsimp only at hName hProperties
      subst hName
      by_cases hSame : listedName = name
      · have hNodup : (properties.map Prod.fst).Nodup := by
          rw [(hProperties.map Prod.fst).nodup_iff,
            List.map_map]
          exact profile.properties.nodup_keys
        rw [Entries.get?, Entries.get?, if_pos hSame,
          if_pos hSame, Option.bind_some, Option.bind_some,
          Entries.get?_eq_of_perm hNodup hProperties]
        exact Entries.get?_map Property.value key
          profile.properties.entries
      · rw [Entries.get?, Entries.get?, if_neg hSame,
          if_neg hSame]
        exact ih

end ProfileSet

end LayeredSettings
