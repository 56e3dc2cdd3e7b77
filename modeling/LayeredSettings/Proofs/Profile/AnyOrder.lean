import LayeredSettings.Proofs.Profile.Contributions

/-
  Merging the sections of a file in any order.

  Key definitions include:
    * `Merge.target`
    * `Merge.claims`
    * `Merge.IsViewAt`
    * `Merge.lastGift`

  Key theorems include:
    * `Merge.IsViewAt.addSection`
    * `Merge.IsViewAt.addSections`
    * `Merge.IsViewAt.mergeFile_eq`
    * `Merge.contributes_iff`
    * `ProfileSet.isSome_profile?_mergeFile_iff`,
      `ProfileSet.isSome_property?_mergeFile_iff`
    * `ProfileSet.isMerged_mergeFile`

  Whether a profile exists and what a key of it is are two
  views of a set that change in the same way, so one lemma
  on views serves both.  It says what a listing gives to a
  view in its order: the last gift.  Whether there is one is
  the same in every order.  Where no key is given two values
  the last gift is any gift.
-/

------------------------------------------------------------
-- Targets of Sections
------------------------------------------------------------

namespace LayeredSettings

namespace Merge

/-
  The profile that a section adds to, if the default profile
  is claimed in the file or not.
-/
def target
    (claimed : Bool) : Designation → Option String
| .named name => some name
| .bareDefault => if claimed then none else some "default"
| .prefixedDefault => some "default"
| .nothing => none

/- Whether one of the sections claims the default profile. -/
def claims
    (kind : FileKind)
    (listing : List (String × List (String × String))) :
    Bool :=
  listing.any fun entry =>
    Designation.of kind entry.1 = .prefixedDefault

theorem claims_cons
    (kind : FileKind)
    (entry : String × List (String × String))
    (rest : List (String × List (String × String))) :
    claims kind (entry :: rest) =
      (decide (Designation.of kind entry.1 =
        .prefixedDefault) || claims kind rest) := rfl

/- A file that names the default profile has no claims. -/
theorem claims_eq_false_of_named_default
    {kind : FileKind}
    {heading : String}
    (hNamed :
      Designation.of kind heading = .named "default")
    (listing : List (String × List (String × String))) :
    claims kind listing = false := by
  cases kind with
  | credentials =>
      simp [claims, Designation.of]
  | config =>
      have hOther :=
        (Designation.ofConfig_eq_named_iff.mp hNamed).2
      exact absurd rfl hOther

/- A section claims the default profile or leaves it. -/
theorem prefixedDefault_addSection
    (merge : Merge)
    (kind : FileKind)
    (heading : String)
    (properties : List (String × String)) :
    (merge.addSection kind heading
      properties).value.prefixedDefault =
        (merge.prefixedDefault ||
          decide (Designation.of kind heading =
            .prefixedDefault)) := by
  have hContribute (m : Merge) (name : String) :
      (m.contribute name properties).value.prefixedDefault =
        m.prefixedDefault := by
    rw [value_contribute]
    by_cases hName : Text.isIdentifier name = true
    · rw [if_pos hName]
    · rw [if_neg hName]
  unfold addSection
  cases Designation.of kind heading with
  | named name => simp [hContribute]
  | bareDefault =>
      by_cases hClaimed : merge.prefixedDefault = true
      · simp [hClaimed]
      · simp [hClaimed, hContribute]
  | prefixedDefault =>
      by_cases hClaimed : merge.prefixedDefault = true
      · simp [hContribute, value_claimDefault, hClaimed]
      · simp [hContribute, value_claimDefault, hClaimed]
  | nothing => simp

/- So do sections, one after the other. -/
theorem prefixedDefault_addSections
    (merge : Merge)
    (kind : FileKind)
    (listing : List (String × List (String × String))) :
    (addSections kind merge listing).value.prefixedDefault =
      (merge.prefixedDefault || claims kind listing) := by
  induction listing generalizing merge with
  | nil => simp [addSections, claims]
  | cons entry rest ih =>
      obtain ⟨heading, properties⟩ := entry
      rw [value_addSections_cons, ih,
        prefixedDefault_addSection, Bool.or_assoc,
        claims_cons]

end Merge

end LayeredSettings

------------------------------------------------------------
-- Views
------------------------------------------------------------

namespace LayeredSettings

namespace Merge

variable {β : Type}
variable {name : String}
variable {view : ProfileSet → Option β}
variable {gift : List (String × String) → Option β}

/-
  A view of what a set has under a name.  A contribution to
  that name is seen before what was there, and nothing is
  seen of what is removed.
-/
structure IsViewAt
    (name : String)
    (view : ProfileSet → Option β)
    (gift : List (String × String) → Option β) : Prop where
  contribute :
    ∀ merge other properties,
      view (Merge.contribute merge other
        properties).value.profiles =
          (if other = name ∧ Text.isIdentifier other then
            gift properties
          else none).or (view merge.profiles)
  remove :
    ∀ set other,
      view (ProfileSet.remove set other) =
        if other = name then none else view set

/- What a section gives to a view. -/
def giftOf
    (gift : List (String × String) → Option β)
    (kind : FileKind)
    (name : String)
    (claimed : Bool)
    (entry : String × List (String × String)) : Option β :=
  if target claimed (Designation.of kind entry.1) =
      some name ∧ Text.isIdentifier name then
    gift entry.2
  else none

/- What the last section that gives anything gives. -/
def lastGift
    (gift : List (String × String) → Option β)
    (kind : FileKind)
    (name : String)
    (claimed : Bool)
    (listing : List (String × List (String × String))) :
    Option β :=
  listing.reverse.findSome? (giftOf gift kind name claimed)

theorem lastGift_cons
    (kind : FileKind)
    (claimed : Bool)
    (entry : String × List (String × String))
    (rest : List (String × List (String × String))) :
    lastGift gift kind name claimed (entry :: rest) =
      (lastGift gift kind name claimed rest).or
        (giftOf gift kind name claimed entry) := by
  unfold lastGift
  rw [List.reverse_cons, List.findSome?_append]
  cases h : giftOf gift kind name claimed entry with
  | none => simp [h]
  | some b => simp [h]

/- What one section does to a view. -/
theorem IsViewAt.addSection
    (hView : IsViewAt name view gift)
    (merge : Merge)
    (kind : FileKind)
    (heading : String)
    (properties : List (String × String)) :
    view (merge.addSection kind heading
      properties).value.profiles =
        (giftOf gift kind name merge.prefixedDefault
          (heading, properties)).or
          (if Designation.of kind heading =
                .prefixedDefault ∧
              merge.prefixedDefault = false ∧
                name = "default" then none
          else view merge.profiles) := by
  unfold Merge.addSection giftOf
  cases Designation.of kind heading with
  | named other =>
      have hStep := hView.contribute merge other properties
      by_cases hOther : other = name
      · subst hOther
        simpa [target] using hStep
      · simpa [target, hOther] using hStep
  | bareDefault =>
      by_cases hClaimed : merge.prefixedDefault = true
      · simp [target, hClaimed]
      · have hStep :=
          hView.contribute merge "default" properties
        by_cases hName : "default" = name
        · subst hName
          simpa [target, hClaimed] using hStep
        · simpa [target, hClaimed, hName] using hStep
  | prefixedDefault =>
      have hStep :=
        hView.contribute merge.claimDefault.value "default"
          properties
      rw [value_claimDefault] at hStep
      by_cases hClaimed : merge.prefixedDefault = true
      · rw [if_pos hClaimed] at hStep
        by_cases hName : "default" = name
        · subst hName
          simpa [target, value_claimDefault, hClaimed]
            using hStep
        · simpa [target, value_claimDefault, hClaimed, hName]
            using hStep
      · rw [if_neg hClaimed, hView.remove] at hStep
        by_cases hName : "default" = name
        · subst hName
          simpa [target, value_claimDefault, hClaimed]
            using hStep
        · simpa [target, value_claimDefault, hClaimed, hName,
            Ne.symm hName] using hStep
  | nothing => simp [target]

/-
  What a listing does to a view.  The sections that come
  before the first claim of the default profile give nothing
  to it in the end, as if it had been claimed before.
-/
theorem IsViewAt.addSections
    (hView : IsViewAt name view gift)
    (merge : Merge)
    (kind : FileKind)
    (listing : List (String × List (String × String))) :
    view (addSections kind merge listing).value.profiles =
      (lastGift gift kind name
        (merge.prefixedDefault || claims kind listing)
          listing).or
        (if claims kind listing = true ∧
            merge.prefixedDefault = false ∧
              name = "default" then none
        else view merge.profiles) := by
  induction listing generalizing merge with
  | nil => simp [Merge.addSections, lastGift, claims]
  | cons entry rest ih =>
      obtain ⟨heading, properties⟩ := entry
      rw [value_addSections_cons, ih, hView.addSection,
        prefixedDefault_addSection, lastGift_cons,
        Option.or_assoc, claims_cons, Bool.or_assoc]
      congr 1
      unfold giftOf
      cases hTarget : Designation.of kind heading with
      | named other =>
          by_cases hOther : other = "default"
          · subst hOther
            simp [target,
              claims_eq_false_of_named_default hTarget]
          · by_cases hName : name = "default"
            · simp [target, hName, hOther]
            · simp [target, hName]
      | bareDefault =>
          by_cases hName : name = "default"
          · subst hName
            cases merge.prefixedDefault with
            | true => simp [target]
            | false => cases claims kind rest <;> simp [target]
          · cases merge.prefixedDefault <;>
              simp [target, hName, Ne.symm hName]
      | prefixedDefault =>
          cases merge.prefixedDefault <;>
            simp [target]
      | nothing => simp [target]

/- What is seen after a file: gifts over what was there. -/
theorem IsViewAt.mergeFile_eq
    (hView : IsViewAt name view gift)
    (base : ProfileSet)
    (kind : FileKind)
    (listing : List (String × List (String × String))) :
    view (base.mergeFile kind listing).value =
      (lastGift gift kind name (claims kind listing)
        listing).or
        (if claims kind listing = true ∧ name = "default"
        then none else view base) := by
  have hMerged := hView.addSections ⟨base, false⟩ kind listing
  simp only [Bool.false_or, true_and] at hMerged
  exact hMerged

end Merge

end LayeredSettings

------------------------------------------------------------
-- The Two Views
------------------------------------------------------------

namespace LayeredSettings

namespace Merge

/- Whether there is a profile is a view. -/
theorem isViewAt_profile
    (name : String) :
    IsViewAt name
      (fun set => (set.profile? name).map fun _ => ())
      (fun _ => some ()) := by
  constructor
  · intro merge other properties
    rw [value_contribute]
    by_cases hValid : Text.isIdentifier other = true
    · by_cases hOther : other = name
      · subst hOther
        simp [hValid]
      · simp [hValid, hOther]
    · simp [hValid]
  · intro set other
    rw [ProfileSet.profile?_remove]
    by_cases hOther : other = name
    · simp [hOther]
    · simp [hOther]

/- The property under a key is a view. -/
theorem isViewAt_property
    (name key : String) :
    IsViewAt name
      (fun set => set.property? name key)
      (givenProperty key) := by
  constructor
  · intro merge other properties
    exact property?_contribute merge other name key
      properties
  · intro set other
    unfold ProfileSet.property?
    rw [ProfileSet.profile?_remove]
    by_cases hOther : other = name
    · simp [hOther]
    · simp [hOther]

end Merge

end LayeredSettings

------------------------------------------------------------
-- Gifts as Contributions
------------------------------------------------------------

namespace LayeredSettings

namespace Merge

variable {β : Type}
variable {sections : Sections}
variable {listing : List (String × List (String × String))}

/- A file has a claim exactly if it is a section's heading. -/
theorem claims_eq_true_iff
    (hListing : sections.IsListedAs listing)
    (kind : FileKind) :
    claims kind listing = true ↔
      kind = .config ∧ sections.PrefixesDefault := by
  unfold claims
  rw [List.any_eq_true]
  cases kind with
  | credentials => simp [Designation.of]
  | config =>
      constructor
      · intro hAny
        rcases hAny with ⟨⟨heading, properties⟩, hMem, hClaim⟩
        have hPrefixed :=
          Designation.ofConfig_eq_prefixedDefault_iff.mp
            (of_decide_eq_true hClaim)
        exact ⟨rfl, heading,
          (hListing.mem_keys_iff heading).mpr
            ⟨properties, hMem⟩,
          hPrefixed⟩
      · intro hPrefixes
        rcases hPrefixes.2 with ⟨heading, hKey, hPrefixed⟩
        rcases (hListing.mem_keys_iff heading).mp hKey with
          ⟨properties, hMem⟩
        exact ⟨(heading, properties), hMem,
          decide_eq_true
            (Designation.ofConfig_eq_prefixedDefault_iff.mpr
              hPrefixed)⟩

/- A section of a config file adds to what it designates. -/
theorem target_ofConfig_eq_some_iff
    (claimed : Bool)
    (heading name : String) :
    target claimed (Designation.ofConfig heading) =
        some name ↔
      Sections.IsPrefixed heading name ∨
        heading = "default" ∧ name = "default" ∧
          claimed = false := by
  by_cases hBare : heading = "default"
  · rw [Designation.ofConfig_eq_bareDefault_iff.mpr hBare,
      hBare]
    cases claimed with
    | true =>
        simp [target, Designation.not_isPrefixed_default]
    | false =>
        simp [target, Designation.not_isPrefixed_default,
          eq_comm]
  · simp only [hBare, false_and, or_false]
    rw [← Designation.afterKeyword_eq_some_iff]
    unfold Designation.ofConfig
    rw [if_neg hBare]
    cases Designation.afterKeyword heading with
    | none => simp [target]
    | some found =>
        by_cases hFound : found = "default"
        · simp [target, hFound]
        · simp [target, hFound]

/- A section adds to the profile that it stands for. -/
theorem target_eq_some_iff
    (hListing : sections.IsListedAs listing)
    (kind : FileKind)
    (heading name : String) :
    target (claims kind listing)
        (Designation.of kind heading) = some name ↔
      sections.Designates kind heading name := by
  cases kind with
  | credentials =>
      simp [target, Designation.of, Sections.Designates]
  | config =>
      have hClaims := claims_eq_true_iff hListing .config
      refine (target_ofConfig_eq_some_iff _ heading
        name).trans ?_
      rw [← Bool.not_eq_true, hClaims]
      simp [Sections.Designates]

/- A section adds to the profile that it contributes to. -/
theorem contributes_iff
    (hListing : sections.IsListedAs listing)
    (kind : FileKind)
    (heading name : String) :
    sections.Contributes kind heading name ↔
      heading ∈ sections.keys ∧
        target (claims kind listing)
            (Designation.of kind heading) = some name ∧
          Text.isIdentifier name = true := by
  rw [target_eq_some_iff hListing]
  constructor
  · intro hContributes
    exact ⟨hContributes.listed, hContributes.designates,
      hContributes.valid⟩
  · intro hParts
    exact ⟨hParts.1, hParts.2.2, hParts.2.1⟩

/- A gift comes from a section that contributes. -/
theorem exists_of_lastGift_eq_some
    (hListing : sections.IsListedAs listing)
    {gift : List (String × String) → Option β}
    {kind : FileKind}
    {name : String}
    {b : β}
    (hGift :
      lastGift gift kind name (claims kind listing)
        listing = some b) :
    ∃ entry ∈ listing,
      sections.Contributes kind entry.1 name ∧
        gift entry.2 = some b := by
  rcases List.exists_of_findSome?_eq_some hGift with
    ⟨⟨heading, properties⟩, hMem, hFound⟩
  rw [List.mem_reverse] at hMem
  rw [giftOf, Option.ite_none_right_eq_some] at hFound
  rcases hFound with ⟨⟨hTarget, hValid⟩, hSome⟩
  have hKey : heading ∈ sections.keys :=
    (hListing.mem_keys_iff heading).mpr ⟨properties, hMem⟩
  exact ⟨(heading, properties), hMem,
    (contributes_iff hListing kind heading name).mpr
      ⟨hKey, hTarget, hValid⟩,
    hSome⟩

/- Without a gift no section that contributes gives any. -/
theorem gift_eq_none_of_lastGift_eq_none
    (hListing : sections.IsListedAs listing)
    {gift : List (String × String) → Option β}
    {kind : FileKind}
    {name : String}
    (hNone :
      lastGift gift kind name (claims kind listing)
        listing = none)
    {entry : String × List (String × String)}
    (hMem : entry ∈ listing)
    (hContributes :
      sections.Contributes kind entry.1 name) :
    gift entry.2 = none := by
  have hGift :=
    List.findSome?_eq_none_iff.mp hNone entry
      (List.mem_reverse.mpr hMem)
  rw [giftOf, if_pos ((contributes_iff hListing kind entry.1
    name).mp hContributes).2] at hGift
  exact hGift

/- Some section gives anything if one contributes. -/
theorem isSome_lastGift_iff
    (hListing : sections.IsListedAs listing)
    (kind : FileKind)
    (name : String) :
    (lastGift (fun _ => some ()) kind name
      (claims kind listing) listing).isSome ↔
        ∃ heading,
          sections.Contributes kind heading name := by
  constructor
  · intro hSome
    rcases Option.isSome_iff_exists.mp hSome with
      ⟨_, hGift⟩
    rcases exists_of_lastGift_eq_some hListing hGift with
      ⟨entry, -, hContributes, -⟩
    exact ⟨entry.1, hContributes⟩
  · intro hExists
    rcases hExists with ⟨heading, hContributes⟩
    rw [Option.isSome_iff_ne_none]
    intro hNone
    rcases (hListing.mem_keys_iff heading).mp
        hContributes.listed with ⟨properties, hMem⟩
    have hGift :=
      gift_eq_none_of_lastGift_eq_none hListing hNone hMem
        hContributes
    cases hGift

/- A key is given the last of its valid properties. -/
theorem givenProperty_eq_findSome?
    (key : String)
    (properties : List (String × String)) :
    givenProperty key properties =
      properties.reverse.findSome? fun property =>
        if Text.isIdentifier property.1 ∧
            Text.lowerCase property.1 = key then
          some ⟨key, property.2⟩
        else none := by
  induction properties with
  | nil => rfl
  | cons property rest ih =>
      obtain ⟨written, value⟩ := property
      rw [givenProperty, ih, List.reverse_cons,
        List.findSome?_append]
      congr 1
      by_cases hKey :
          Text.isIdentifier written = true ∧
            Text.lowerCase written = key
      · simp [hKey]
      · simp [hKey]

/- What is given is what a listed property says. -/
theorem gives_iff
    (hListing : sections.IsListedAs listing)
    (kind : FileKind)
    (name key value : String) :
    sections.Gives kind name key value ↔
      ∃ entry ∈ listing,
        sections.Contributes kind entry.1 name ∧
          ∃ written,
            (written, value) ∈ entry.2 ∧
              Text.isIdentifier written = true ∧
                Text.lowerCase written = key := by
  constructor
  · intro hGives
    rcases hGives with
      ⟨heading, table, written, hContributes, hTable, hValue,
        hValid, hKey⟩
    rcases hListing.mem_of_get? hTable with
      ⟨properties, hMem, hPerm⟩
    refine ⟨(heading, properties), hMem, hContributes,
      written, ?_, hValid, hKey⟩
    exact hPerm.mem_iff.mpr
      ((table.get?_eq_some_iff_mem written value).mp hValue)
  · intro hExists
    rcases hExists with
      ⟨⟨heading, properties⟩, hMem, hContributes, written,
        hProperty, hValid, hKey⟩
    rcases hListing.get?_of_mem hMem with
      ⟨table, hTable, hPerm⟩
    refine ⟨heading, table, written, hContributes, hTable,
      ?_, hValid, hKey⟩
    exact (table.get?_eq_some_iff_mem written value).mpr
      (hPerm.mem_iff.mp hProperty)

/- The last gift to a key is a value that it is given. -/
theorem gives_of_lastGift_eq_some
    (hListing : sections.IsListedAs listing)
    {kind : FileKind}
    {name key : String}
    {property : Property}
    (hGift :
      lastGift (givenProperty key) kind name
        (claims kind listing) listing = some property) :
    property = ⟨key, property.value⟩ ∧
      sections.Gives kind name key property.value := by
  rcases exists_of_lastGift_eq_some hListing hGift with
    ⟨entry, hMem, hContributes, hGiven⟩
  rw [givenProperty_eq_findSome?] at hGiven
  rcases List.exists_of_findSome?_eq_some hGiven with
    ⟨⟨written, value⟩, hProperty, hFound⟩
  rw [Option.ite_none_right_eq_some] at hFound
  rcases hFound with ⟨⟨hValid, hKey⟩, hSame⟩
  cases hSame
  exact ⟨rfl,
    (gives_iff hListing kind name key value).mpr
      ⟨entry, hMem, hContributes, written,
        List.mem_reverse.mp hProperty, hValid, hKey⟩⟩

/- A key that is given no value has no last gift. -/
theorem lastGift_eq_none_of_not_gives
    (hListing : sections.IsListedAs listing)
    {kind : FileKind}
    {name key : String}
    (hNone :
      ∀ value, ¬ sections.Gives kind name key value) :
    lastGift (givenProperty key) kind name
      (claims kind listing) listing = none := by
  rw [Option.eq_none_iff_forall_ne_some]
  intro property hGift
  apply hNone property.value
  exact (gives_of_lastGift_eq_some hListing hGift).2

/- Without a last gift a key is given no value. -/
theorem not_gives_of_lastGift_eq_none
    (hListing : sections.IsListedAs listing)
    {kind : FileKind}
    {name key : String}
    (hNone :
      lastGift (givenProperty key) kind name
        (claims kind listing) listing = none)
    (value : String) :
    ¬ sections.Gives kind name key value := by
  rw [gives_iff hListing]
  intro hExists
  rcases hExists with
    ⟨entry, hMem, hContributes, written, hProperty, hValid,
      hKey⟩
  have hGiven :=
    gift_eq_none_of_lastGift_eq_none hListing hNone hMem
      hContributes
  rw [givenProperty_eq_findSome?,
    List.findSome?_eq_none_iff] at hGiven
  have hProperty :=
    hGiven (written, value) (List.mem_reverse.mpr hProperty)
  simp [hValid, hKey] at hProperty

/- A key has a last gift exactly if it is given a value. -/
theorem isSome_lastGift_givenProperty_iff
    (hListing : sections.IsListedAs listing)
    (kind : FileKind)
    (name key : String) :
    (lastGift (givenProperty key) kind name
      (claims kind listing) listing).isSome ↔
        ∃ value, sections.Gives kind name key value := by
  constructor
  · intro hSome
    rcases Option.isSome_iff_exists.mp hSome with
      ⟨property, hGift⟩
    exact ⟨_, (gives_of_lastGift_eq_some hListing hGift).2⟩
  · intro hGiven
    rcases hGiven with ⟨value, hGives⟩
    rw [Option.isSome_iff_ne_none]
    intro hNone
    exact not_gives_of_lastGift_eq_none hListing hNone value
      hGives

end Merge

end LayeredSettings

------------------------------------------------------------
-- Merging in Any Order
------------------------------------------------------------

namespace LayeredSettings

namespace Merge

variable {sections : Sections}
variable {listing : List (String × List (String × String))}

/- A file with a claim supersedes the default profile. -/
theorem supersedes_iff
    (hListing : sections.IsListedAs listing)
    (kind : FileKind)
    (name : String) :
    sections.Supersedes kind name ↔
      claims kind listing = true ∧ name = "default" := by
  rw [claims_eq_true_iff hListing]
  constructor
  · intro hSupersedes
    rcases hSupersedes with ⟨hKind, hName, hPrefixes⟩
    exact ⟨⟨hKind, hPrefixes⟩, hName⟩
  · intro hClaims
    rcases hClaims with ⟨⟨hKind, hPrefixes⟩, hName⟩
    exact ⟨hKind, hName, hPrefixes⟩

variable {β : Type}
variable {name : String}
variable {view : ProfileSet → Option β}
variable {gift : List (String × String) → Option β}

/- A merge shows the last gift, else what there was before. -/
theorem IsViewAt.mergeFile
    (hView : IsViewAt name view gift)
    (hListing : sections.IsListedAs listing)
    (base : ProfileSet)
    (kind : FileKind)
    (hKept : ¬ sections.Supersedes kind name) :
    view (base.mergeFile kind listing).value =
      (lastGift gift kind name (claims kind listing)
        listing).or (view base) := by
  rw [supersedes_iff hListing] at hKept
  rw [hView.mergeFile_eq, if_neg hKept]

/- Of a profile that is superseded a merge shows gifts only. -/
theorem IsViewAt.mergeFile_of_supersedes
    (hView : IsViewAt name view gift)
    (hListing : sections.IsListedAs listing)
    (base : ProfileSet)
    (kind : FileKind)
    (hSupersedes : sections.Supersedes kind name) :
    view (base.mergeFile kind listing).value =
      lastGift gift kind name (claims kind listing)
        listing := by
  rw [supersedes_iff hListing] at hSupersedes
  rw [hView.mergeFile_eq, if_pos hSupersedes, Option.or_none]

/- A last gift is what a merge shows in any case. -/
theorem IsViewAt.mergeFile_of_lastGift_eq_some
    (hView : IsViewAt name view gift)
    (hListing : sections.IsListedAs listing)
    (base : ProfileSet)
    {kind : FileKind}
    {b : β}
    (hGift :
      lastGift gift kind name (claims kind listing)
        listing = some b) :
    view (base.mergeFile kind listing).value = some b := by
  by_cases hSupersedes : sections.Supersedes kind name
  · rw [hView.mergeFile_of_supersedes hListing base kind
      hSupersedes, hGift]
  · rw [hView.mergeFile hListing base kind hSupersedes,
      hGift, Option.some_or]

/- A merge shows anything if it is given or was there. -/
theorem IsViewAt.isSome_mergeFile_iff
    (hView : IsViewAt name view gift)
    (hListing : sections.IsListedAs listing)
    (base : ProfileSet)
    (kind : FileKind) :
    (view (base.mergeFile kind listing).value).isSome ↔
      (lastGift gift kind name (claims kind listing)
        listing).isSome ∨
        ¬ sections.Supersedes kind name ∧
          (view base).isSome := by
  by_cases hSupersedes : sections.Supersedes kind name
  · rw [hView.mergeFile_of_supersedes hListing base kind
      hSupersedes]
    simp [hSupersedes]
  · rw [hView.mergeFile hListing base kind hSupersedes,
      Option.isSome_or, Bool.or_eq_true]
    simp [hSupersedes]

end Merge

namespace ProfileSet

open Merge

/- Which profiles there are is the same in every order. -/
theorem isSome_profile?_mergeFile_iff
    {sections : Sections}
    {listing : List (String × List (String × String))}
    (base : ProfileSet)
    (kind : FileKind)
    (hListing : sections.IsListedAs listing)
    (name : String) :
    ((base.mergeFile kind listing).value.profile?
      name).isSome ↔
        (∃ heading,
          sections.Contributes kind heading name) ∨
        ¬ sections.Supersedes kind name ∧
          (base.profile? name).isSome := by
  have hView :=
    (isViewAt_profile name).isSome_mergeFile_iff hListing
      base kind
  rw [isSome_lastGift_iff hListing, Option.isSome_map,
    Option.isSome_map] at hView
  exact hView

/- So is which keys they have. -/
theorem isSome_property?_mergeFile_iff
    {sections : Sections}
    {listing : List (String × List (String × String))}
    (base : ProfileSet)
    (kind : FileKind)
    (hListing : sections.IsListedAs listing)
    (name key : String) :
    ((base.mergeFile kind listing).value.property? name
      key).isSome ↔
        (∃ value, sections.Gives kind name key value) ∨
        ¬ sections.Supersedes kind name ∧
          (base.property? name key).isSome := by
  have hView :=
    (isViewAt_property name key).isSome_mergeFile_iff
      hListing base kind
  rw [isSome_lastGift_givenProperty_iff hListing] at hView
  exact hView

/-
  The sections of a file are merged to what they contribute,
  in whatever order the sections and their properties come,
  if they give no key two values.
-/
theorem isMerged_mergeFile
    {sections : Sections}
    {listing : List (String × List (String × String))}
    (base : ProfileSet)
    (kind : FileKind)
    (hListing : sections.IsListedAs listing)
    (hUnambiguous : sections.IsUnambiguous kind) :
    base.IsMerged kind sections
      (base.mergeFile kind listing).value := by
  constructor
  · exact selected_mergeFile base kind listing
  · exact isSome_profile?_mergeFile_iff base kind hListing
  · intro name key value hGives
    have hView := isViewAt_property name key
    cases hGift :
        lastGift (givenProperty key) kind name
          (claims kind listing) listing with
    | none =>
        exact absurd hGives
          (not_gives_of_lastGift_eq_none hListing hGift value)
    | some property =>
        have hMerged :=
          hView.mergeFile_of_lastGift_eq_some hListing base
            hGift
        rcases gives_of_lastGift_eq_some hListing hGift with
          ⟨hProperty, hGiven⟩
        have hValue : property.value = value :=
          hUnambiguous name key _ _ hGiven hGives
        rw [hMerged, hProperty, hValue]
  · intro name key hNone hKept
    rw [(isViewAt_property name key).mergeFile hListing base
      kind hKept, lastGift_eq_none_of_not_gives hListing hNone,
      Option.none_or]
  · intro name key hNone hSupersedes
    rw [(isViewAt_property name key).mergeFile_of_supersedes
      hListing base kind hSupersedes,
      lastGift_eq_none_of_not_gives hListing hNone]

/- Two spellings of one heading, and the bare heading. -/
def threeDefaults : Sections where
  entries :=
    [ ("default", Table.ofList [("a", "plain")]),
      ("profile default", Table.ofList [("B", "two")]),
      ( "profile\tdefault",
        Table.ofList [("b", "two"), ("c", "three")] ) ]
  nodup_keys := by decide

/- The sections and the properties in another order. -/
def threeDefaultsListed :
    List (String × List (String × String)) :=
  [ ("default", [("a", "plain")]),
    ("profile\tdefault", [("c", "three"), ("b", "two")]),
    ("profile default", [("B", "two")]) ]

/- A set that has a default profile before. -/
def oldDefault : ProfileSet where
  profiles := Table.ofList
    [ ( "default",
        ⟨"default", Table.ofList [("z", ⟨"z", "old"⟩)]⟩ ) ]
  selected := "default"

theorem isUnambiguous_threeDefaults :
    threeDefaults.IsUnambiguous .config := by
  have hGiven (name key value : String)
      (hGives :
        threeDefaults.Gives .config name key value) :
      (key, value) ∈
        [("a", "plain"), ("b", "two"), ("c", "three")] := by
    rcases hGives with
      ⟨heading, properties, written, -, hSection, hValue, -,
        rfl⟩
    have hEntry :=
      (threeDefaults.get?_eq_some_iff_mem _ _).mp hSection
    have hProperty :=
      (properties.get?_eq_some_iff_mem _ _).mp hValue
    simp only [threeDefaults, List.mem_cons, Prod.mk.injEq,
      List.not_mem_nil, or_false] at hEntry
    rcases hEntry with
      ⟨rfl, rfl⟩ | ⟨rfl, rfl⟩ | ⟨rfl, rfl⟩
    · rcases List.mem_singleton.mp hProperty with ⟨rfl, rfl⟩
      decide
    · rcases List.mem_singleton.mp hProperty with ⟨rfl, rfl⟩
      decide
    · rcases List.mem_pair.mp hProperty with hPair | hPair
      · rcases hPair with ⟨rfl, rfl⟩
        decide
      · rcases hPair with ⟨rfl, rfl⟩
        decide
  intro name key first second hFirst hSecond
  have hOne := hGiven name key first hFirst
  have hTwo := hGiven name key second hSecond
  simp only [List.mem_cons, Prod.mk.injEq, List.not_mem_nil,
    or_false] at hOne hTwo
  rcases hOne with ⟨rfl, rfl⟩ | ⟨rfl, rfl⟩ | ⟨rfl, rfl⟩
  · simpa [eq_comm] using hTwo
  · simpa [eq_comm] using hTwo
  · simpa [eq_comm] using hTwo

theorem isMerged_threeDefaults :
    threeDefaults.IsListedAs threeDefaultsListed ∧
      threeDefaults.IsUnambiguous .config ∧
        oldDefault.IsMerged .config threeDefaults
          (oldDefault.mergeFile .config
            threeDefaultsListed).value := by
  have hListing :
      threeDefaults.IsListedAs threeDefaultsListed := by
    refine
      ⟨[ ("default", Table.ofList [("a", "plain")]),
         ( "profile\tdefault",
           Table.ofList [("b", "two"), ("c", "three")] ),
         ("profile default", Table.ofList [("B", "two")]) ],
        ?_, ?_⟩
    · exact .cons _ (.swap _ _ _)
    · refine .cons ⟨rfl, .refl _⟩
        (.cons ⟨rfl, ?_⟩ (.cons ⟨rfl, .refl _⟩ .nil))
      exact .swap _ _ _
  exact ⟨hListing, isUnambiguous_threeDefaults,
    isMerged_mergeFile oldDefault .config hListing
      isUnambiguous_threeDefaults⟩

end ProfileSet

end LayeredSettings
