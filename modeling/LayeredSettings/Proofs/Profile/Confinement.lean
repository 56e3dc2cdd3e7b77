import LayeredSettings.Proofs.Profile.AnyOrder
import LayeredSettings.Proofs.Profile.Blocks

/-
  A profile depends on the sections that count for it, and
  on no others.

  Key definitions include:
    * `Sections.CountsFor`
    * `Sections.partOf`
    * `Sections.AgreeFor`

  Key theorems include:
    * `Merge.giftOf_eq_none`
    * `Merge.IsViewAt.mergeFile_congr`
    * `Sections.AgreeFor.exists_listing`
    * `Sections.AgreeFor.gives`
    * `ProfileSet.property?_mergeFile_congr`

  Files agree for a profile if they have the same sections
  that count for it.  If they are merged in the order of the
  files, the profile is the same.  If they are merged in any
  order, it is if none of its keys is given two values.
-/

------------------------------------------------------------
-- Sections That Count
------------------------------------------------------------

namespace LayeredSettings

namespace Sections

open Grammar SectionReader

/-
  A heading that stands for a profile.  Both headings of the
  default profile count for it, also where one is passed
  over.  No section counts for a name that is not valid.
-/
def CountsFor
    (kind : FileKind)
    (name heading : String) : Prop :=
  Text.isIdentifier name = true ∧
    match kind with
    | .credentials => heading = name
    | .config =>
        IsPrefixed heading name ∨
          heading = "default" ∧ name = "default"

instance (heading name : String) :
    Decidable (IsPrefixed heading name) :=
  decidable_of_iff
    (Designation.afterKeyword heading = some name)
    Designation.afterKeyword_eq_some_iff

instance (kind : FileKind) (name heading : String) :
    Decidable (CountsFor kind name heading) :=
  match kind with
  | .credentials =>
      inferInstanceAs
        (Decidable
          (Text.isIdentifier name = true ∧ heading = name))
  | .config =>
      inferInstanceAs
        (Decidable
          (Text.isIdentifier name = true ∧
            (IsPrefixed heading name ∨
              heading = "default" ∧ name = "default")))

/-
  The sections of a text that count for a profile, in the
  order of the file: their headings and the lines below.
-/
def partOf
    (kind : FileKind)
    (name text : String) :
    List (String × List (List Char)) :=
  keptSections (fun heading => CountsFor kind name heading)
    (Text.lines text.toList)

/- Sections that are the same as far as they count. -/
def AgreeFor
    (kind : FileKind)
    (name : String)
    (sections others : Sections) : Prop :=
  (sections.entries.filter fun entry =>
      CountsFor kind name entry.1) =
    others.entries.filter fun entry =>
      CountsFor kind name entry.1

/- Texts that have the same part are read alike. -/
theorem agreeFor_of_partOf_eq
    {path place text other name : String}
    {kind : FileKind}
    {sections others : Sections}
    (hParse : parse path text = .ok sections)
    (hOther : parse place other = .ok others)
    (hSame : partOf kind name text = partOf kind name other) :
    AgreeFor kind name sections others :=
  filter_entries_eq hParse hOther hSame

end Sections

end LayeredSettings

------------------------------------------------------------
-- Merging in the Order of Files
------------------------------------------------------------

namespace LayeredSettings

namespace Merge

open Sections

variable {β : Type}
variable {kind : FileKind}
variable {name : String}
variable {view : ProfileSet → Option β}
variable {gift : List (String × String) → Option β}
variable {listing others : List (String × List (String × String))}

/- Sections that do not count give nothing. -/
theorem giftOf_eq_none
    {entry : String × List (String × String)}
    (hNot : ¬ CountsFor kind name entry.1)
    (gift : List (String × String) → Option β)
    (claimed : Bool) :
    giftOf gift kind name claimed entry = none := by
  unfold giftOf
  apply if_neg
  rintro ⟨hTarget, hValid⟩
  apply hNot
  refine ⟨hValid, ?_⟩
  cases kind with
  | credentials => exact Option.some.inj hTarget
  | config =>
      exact
        ((target_ofConfig_eq_some_iff claimed entry.1
          name).mp hTarget).imp_right
          fun hBare => ⟨hBare.1, hBare.2.1⟩

/- So they are of no account to the last gift. -/
theorem lastGift_filter
    (gift : List (String × String) → Option β)
    (claimed : Bool)
    (listing : List (String × List (String × String))) :
    lastGift gift kind name claimed
        (listing.filter fun entry =>
          CountsFor kind name entry.1) =
      lastGift gift kind name claimed listing := by
  induction listing with
  | nil => rfl
  | cons entry rest ih =>
      rw [lastGift_cons, ← ih]
      by_cases hCounts : CountsFor kind name entry.1
      · rw [List.filter_cons_of_pos (by simpa using hCounts),
          lastGift_cons]
      · rw [List.filter_cons_of_neg (by simpa using hCounts),
          giftOf_eq_none hCounts, Option.or_none]

/- Only the default profile can be claimed. -/
theorem lastGift_claimed
    (gift : List (String × String) → Option β)
    (hName : name ≠ "default")
    (claimed other : Bool)
    (listing : List (String × List (String × String))) :
    lastGift gift kind name claimed listing =
      lastGift gift kind name other listing := by
  have hTarget :
      ∀ designation,
        target claimed designation = some name ↔
          target other designation = some name := by
    intro designation
    cases designation with
    | bareDefault =>
        cases claimed <;> cases other <;>
          simp [target, Ne.symm hName]
    | _ => exact Iff.rfl
  have hGift :
      giftOf gift kind name claimed =
        giftOf gift kind name other := by
    funext entry
    unfold giftOf
    simp only [hTarget]
  unfold lastGift
  rw [hGift]

/- What claims the default profile counts for it. -/
theorem claims_filter
    (kind : FileKind)
    (listing : List (String × List (String × String))) :
    claims kind
        (listing.filter fun entry =>
          CountsFor kind "default" entry.1) =
      claims kind listing := by
  unfold claims
  rw [List.any_filter]
  congr 1
  funext entry
  by_cases hClaim :
      Designation.of kind entry.1 = .prefixedDefault
  · have hCounts : CountsFor kind "default" entry.1 := by
      refine ⟨by decide, ?_⟩
      cases kind with
      | credentials => cases hClaim
      | config =>
          exact Or.inl
            (Designation.ofConfig_eq_prefixedDefault_iff.mp
              hClaim)
    simp [hCounts]
  · simp [hClaim]

/-
  What is seen of a profile after a merge depends on what
  was seen before and on the sections that count for it.
-/
theorem IsViewAt.mergeFile_congr
    (hView : IsViewAt name view gift)
    (hSame :
      (listing.filter fun entry =>
          CountsFor kind name entry.1) =
        others.filter fun entry =>
          CountsFor kind name entry.1)
    {base other : ProfileSet}
    (hBase : view base = view other) :
    view (base.mergeFile kind listing).value =
      view (other.mergeFile kind others).value := by
  have hGift (claimed : Bool) :
      lastGift gift kind name claimed listing =
        lastGift gift kind name claimed others := by
    rw [← lastGift_filter, hSame, lastGift_filter]
  rw [hView.mergeFile_eq, hView.mergeFile_eq]
  by_cases hName : name = "default"
  · subst hName
    have hClaims : claims kind listing = claims kind others := by
      rw [← claims_filter, hSame, claims_filter]
    rw [hGift, hClaims, hBase]
  · rw [hGift, lastGift_claimed gift hName _
      (claims kind others)]
    simp [hName, hBase]

end Merge

end LayeredSettings

------------------------------------------------------------
-- Merging in Any Order
------------------------------------------------------------

namespace LayeredSettings

namespace Sections

namespace AgreeFor

variable {kind : FileKind}
variable {name heading key value : String}
variable {sections others : Sections}

theorem symm
    (hAgree : AgreeFor kind name sections others) :
    AgreeFor kind name others sections :=
  Eq.symm hAgree

/- Sections that count are the same sections. -/
theorem get?_eq
    (hAgree : AgreeFor kind name sections others)
    (hCounts : CountsFor kind name heading) :
    sections.get? heading = others.get? heading := by
  have hKept :=
    Entries.get?_filter_of_pos
      (α := Table String String)
      (fun other => CountsFor kind name other)
      (decide_eq_true hCounts)
  unfold Table.get?
  rw [← hKept sections.entries, ← hKept others.entries]
  exact congrArg (Entries.get? heading) hAgree

/- A heading that counts is listed in both or in neither. -/
theorem mem_keys_iff
    (hAgree : AgreeFor kind name sections others)
    (hCounts : CountsFor kind name heading) :
    heading ∈ sections.keys ↔ heading ∈ others.keys := by
  rw [Table.mem_keys_iff, Table.mem_keys_iff,
    hAgree.get?_eq hCounts]

/- The sections that count are listed in the same order. -/
theorem filter_toLists
    (hAgree : AgreeFor kind name sections others) :
    (sections.toLists.filter fun entry =>
        CountsFor kind name entry.1) =
      others.toLists.filter fun entry =>
        CountsFor kind name entry.1 := by
  unfold toLists
  rw [List.filter_map, List.filter_map]
  exact congrArg (List.map _) hAgree

/-
  However the one file is listed, the other one can be
  listed with the sections that count in the same order.
-/
theorem exists_listing
    (hAgree : AgreeFor kind name sections others)
    {listing : List (String × List (String × String))}
    (hListing : sections.IsListedAs listing) :
    ∃ given,
      others.IsListedAs given ∧
        (listing.filter fun entry =>
            CountsFor kind name entry.1) =
          given.filter fun entry =>
            CountsFor kind name entry.1 := by
  rcases hListing with ⟨entries, hPerm, hListed⟩
  rcases others.isListedAs_toLists with
    ⟨rest, hRestPerm, hRest⟩
  refine
    ⟨(listing.filter fun entry =>
          CountsFor kind name entry.1) ++
        others.toLists.filter fun entry =>
          ¬ CountsFor kind name entry.1,
      ⟨(entries.filter fun entry =>
            CountsFor kind name entry.1) ++
          rest.filter fun entry =>
            ¬ CountsFor kind name entry.1, ?_, ?_⟩, ?_⟩
  · have hCounts :=
      hPerm.filter fun entry =>
        decide (CountsFor kind name entry.1)
    rw [show sections.entries.filter _ = _ from hAgree]
      at hCounts
    have hOthers :=
      hRestPerm.filter fun entry =>
        !decide (CountsFor kind name entry.1)
    simpa using
      (hCounts.append hOthers).trans
        (List.filter_append_perm _ _)
  · apply List.rel_append
    · apply List.rel_filter _ hListed
      intro listed entry hSection
      dsimp only
      rw [hSection.1]
    · apply List.rel_filter _ hRest
      intro listed entry hSection
      dsimp only
      rw [hSection.1]
  · simp [List.filter_append, List.filter_filter]

/- So is every claim of the default profile. -/
theorem prefixesDefault
    (hAgree : AgreeFor .config "default" sections others)
    (hPrefixes : sections.PrefixesDefault) :
    others.PrefixesDefault := by
  rcases hPrefixes with ⟨heading, hKey, hPrefixed⟩
  have hCounts : CountsFor .config "default" heading :=
    ⟨by decide, Or.inl hPrefixed⟩
  exact
    ⟨heading, (hAgree.mem_keys_iff hCounts).mp hKey,
      hPrefixed⟩

theorem supersedes
    (hAgree : AgreeFor kind name sections others)
    (hSupersedes : sections.Supersedes kind name) :
    others.Supersedes kind name := by
  rcases hSupersedes with ⟨rfl, rfl, hPrefixes⟩
  exact ⟨rfl, rfl, hAgree.prefixesDefault hPrefixes⟩

end AgreeFor

/- What contributes to a profile counts for it. -/
theorem Contributes.countsFor
    {kind : FileKind}
    {name heading : String}
    {sections : Sections}
    (hContributes : sections.Contributes kind heading name) :
    CountsFor kind name heading := by
  refine ⟨hContributes.valid, ?_⟩
  have hDesignates := hContributes.designates
  cases kind with
  | credentials => exact hDesignates
  | config =>
      exact hDesignates.imp_right
        fun hBare => ⟨hBare.1, hBare.2.1⟩

namespace AgreeFor

variable {kind : FileKind}
variable {name heading key value : String}
variable {sections others : Sections}

theorem contributes
    (hAgree : AgreeFor kind name sections others)
    (hContributes : sections.Contributes kind heading name) :
    others.Contributes kind heading name := by
  have hCounts := hContributes.countsFor
  refine
    ⟨(hAgree.mem_keys_iff hCounts).mp hContributes.listed,
      hContributes.valid, ?_⟩
  have hDesignates := hContributes.designates
  cases kind with
  | credentials => exact hDesignates
  | config =>
      rcases hDesignates with hPrefixed | ⟨hBare, rfl, hNone⟩
      · exact Or.inl hPrefixed
      · refine Or.inr ⟨hBare, rfl, ?_⟩
        intro hPrefixes
        exact hNone (hAgree.symm.prefixesDefault hPrefixes)

/- Keys of the profile are given the same values. -/
theorem gives
    (hAgree : AgreeFor kind name sections others)
    (hGives : sections.Gives kind name key value) :
    others.Gives kind name key value := by
  rcases hGives with
    ⟨heading, properties, written, hContributes, hSection,
      hValue⟩
  have hSame := hAgree.get?_eq hContributes.countsFor
  exact
    ⟨heading, properties, written,
      hAgree.contributes hContributes,
      hSame.symm.trans hSection, hValue⟩

end AgreeFor

end Sections

namespace Merge

open Sections

variable {kind : FileKind}
variable {name : String}
variable {sections others : Sections}
variable {listing other : List (String × List (String × String))}

/- A key that is given one value has it as its last gift. -/
theorem lastGift_eq_of_gives
    (hListing : sections.IsListedAs listing)
    (hUnambiguous : IsUnambiguousFor kind name sections)
    {key value : String}
    (hGives : sections.Gives kind name key value) :
    lastGift (givenProperty key) kind name
        (claims kind listing) listing =
      some ⟨key, value⟩ := by
  cases hGift : lastGift (givenProperty key) kind name
      (claims kind listing) listing with
  | none =>
      exact absurd hGives
        (not_gives_of_lastGift_eq_none hListing hGift value)
  | some property =>
      rcases gives_of_lastGift_eq_some hListing hGift with
        ⟨hProperty, hGiven⟩
      rw [hProperty,
        hUnambiguous key _ _ hGiven hGives]

/- Sections that agree for a profile give it the same. -/
theorem lastGift_eq_of_agreeFor
    (hListing : sections.IsListedAs listing)
    (hOther : others.IsListedAs other)
    (hAgree : AgreeFor kind name sections others)
    (hUnambiguous : IsUnambiguousFor kind name sections)
    (key : String) :
    lastGift (givenProperty key) kind name
        (claims kind listing) listing =
      lastGift (givenProperty key) kind name
        (claims kind other) other := by
  have hOtherUnambiguous :
      IsUnambiguousFor kind name others := by
    intro key first second hFirst hSecond
    exact hUnambiguous key first second
      (hAgree.symm.gives hFirst)
      (hAgree.symm.gives hSecond)
  by_cases hGives :
      ∃ value, sections.Gives kind name key value
  · rcases hGives with ⟨value, hGives⟩
    rw [lastGift_eq_of_gives hListing hUnambiguous hGives,
      lastGift_eq_of_gives hOther hOtherUnambiguous
        (hAgree.gives hGives)]
  · have hNone := not_exists.mp hGives
    rw [lastGift_eq_none_of_not_gives hListing hNone,
      lastGift_eq_none_of_not_gives hOther fun value h =>
        hNone value (hAgree.symm.gives h)]

end Merge

namespace ProfileSet

open Merge Sections

/-
  Sections that agree for a profile are merged to the same
  properties of it, in whatever orders they are merged.
-/
theorem property?_mergeFile_congr
    {kind : FileKind}
    {name key : String}
    {sections others : Sections}
    {listing other : List (String × List (String × String))}
    {base old : ProfileSet}
    (hListing : sections.IsListedAs listing)
    (hOther : others.IsListedAs other)
    (hAgree : AgreeFor kind name sections others)
    (hUnambiguous : IsUnambiguousFor kind name sections)
    (hBase : base.property? name key = old.property? name key) :
    (base.mergeFile kind listing).value.property? name key =
      (old.mergeFile kind other).value.property? name key := by
  have hView := isViewAt_property name key
  have hGift :=
    lastGift_eq_of_agreeFor hListing hOther hAgree
      hUnambiguous key
  by_cases hSupersedes : sections.Supersedes kind name
  · rw [hView.mergeFile_of_supersedes hListing base kind
        hSupersedes,
      hView.mergeFile_of_supersedes hOther old kind
        (hAgree.supersedes hSupersedes), hGift]
  · have hOtherKept : ¬ others.Supersedes kind name :=
      fun h => hSupersedes (hAgree.symm.supersedes h)
    rw [hView.mergeFile hListing base kind hSupersedes,
      hView.mergeFile hOther old kind hOtherKept, hGift,
      hBase]

end ProfileSet

end LayeredSettings
