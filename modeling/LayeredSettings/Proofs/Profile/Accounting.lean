import LayeredSettings.Proofs.Profile.AnyOrder

/-
  Nothing of a file, and nothing of the profiles before it,
  is lost in a merge without an event.

  Key definitions include:
    * `Logged.Reports`
    * `ProfileSet.nameAt`
    * `Sections.IsDroppedBy`
    * `Sections.Overwrites`
    * `ProfileSet.IsAccounted`
    * `Merge.IsTraced`

  Key theorems include:
    * `Merge.isTraced_addSections`
    * `Merge.exists_reached`
    * `ProfileSet.isAccounted_mergeFile`

  What is stored stays, or an event names its key: this is
  what every step of a merge keeps to (`Merge.IsTraced`),
  but for a step that drops the default profile, and that
  step has an event of its own.
-/

------------------------------------------------------------
-- Accounts
------------------------------------------------------------

namespace LayeredSettings

/- An event is reported, at a level. -/
def Logged.Reports
    {α : Type}
    (x : Logged α)
    (level : Level)
    (e : Event) : Prop :=
  e ∈ x.events ∧ e.record.level = level

/- The name that a profile goes by where it is stored. -/
def ProfileSet.nameAt
    (set : ProfileSet)
    (name : String) : String :=
  (set.profileOrNew name).name

namespace Sections

/- Why a section is dropped, as the event of it says. -/
inductive IsDroppedBy
    (sections : Sections)
    (kind : FileKind)
    (heading : String) : Event → Prop where
  | unprefixed :
      kind = .config →
        heading ≠ "default" →
          (∀ name, ¬ IsPrefixed heading name) →
            sections.IsDroppedBy kind heading
              (.sectionIgnored heading)
  | invalid {name : String} :
      sections.Designates kind heading name →
        Text.isIdentifier name = false →
          sections.IsDroppedBy kind heading
            (.profileNameInvalid name)
  | superseded :
      kind = .config →
        heading = "default" →
          sections.PrefixesDefault →
            sections.IsDroppedBy kind heading
              .defaultSuperseded

/- A section is dropped with a warning that says why. -/
def IsDropped
    (sections : Sections)
    (kind : FileKind)
    (heading : String)
    (merged : Logged ProfileSet) : Prop :=
  ∃ e,
    sections.IsDroppedBy kind heading e ∧
      merged.Reports .warn e

/-
  Another property of the file has taken the place of one,
  and an event names the profile and the key.
-/
def Overwrites
    (sections : Sections)
    (kind : FileKind)
    (merged : Logged ProfileSet)
    (name key : String)
    (property : Property) : Prop :=
  ∃ value,
    ⟨key, value⟩ ≠ property ∧
      sections.Gives kind name key value ∧
        merged.value.property? name key =
            some ⟨key, value⟩ ∧
          merged.Reports .trace
            (.propertyOverwritten
              (merged.value.nameAt name) key)

end Sections

/-
  An account of a merge.  A section has a profile or it is
  dropped.  A property of a section that is not dropped has
  a key that is not valid, or it is stored, or another one
  has taken its place.  A property from before is stored, or
  another one has taken its place, or it is dropped together
  with the default profile.
-/
structure ProfileSet.IsAccounted
    (base : ProfileSet)
    (kind : FileKind)
    (sections : Sections)
    (merged : Logged ProfileSet) : Prop where
  named :
    base.IsCoherent →
      ∀ name, merged.value.nameAt name = name
  of_section :
    ∀ heading ∈ sections.keys,
      sections.IsDropped kind heading merged ∨
        ∃ name,
          sections.Contributes kind heading name ∧
            (merged.value.profile? name).isSome
  of_property :
    ∀ heading properties written value,
      sections.get? heading = some properties →
        properties.get? written = some value →
          sections.IsDropped kind heading merged ∨
            ∃ name,
              sections.Contributes kind heading name ∧
                if Text.isIdentifier written then
                  merged.value.property? name
                      (Text.lowerCase written) =
                    some ⟨Text.lowerCase written, value⟩ ∨
                  sections.Overwrites kind merged name
                    (Text.lowerCase written)
                    ⟨Text.lowerCase written, value⟩
                else
                  merged.Reports .warn
                    (.keyInvalid name written)
  of_base :
    ∀ name key property,
      base.property? name key = some property →
        merged.value.property? name key = some property ∨
          sections.Overwrites kind merged name key
            property ∨
          sections.Supersedes kind name ∧
            merged.Reports .warn .defaultSuperseded

end LayeredSettings

------------------------------------------------------------
-- Names of Stored Profiles
------------------------------------------------------------

namespace LayeredSettings

namespace ProfileSet

@[simp]
theorem nameAt_store
    (set : ProfileSet)
    (name other : String)
    (profile : Profile) :
    (set.store name profile).nameAt other =
      if name = other then profile.name
      else set.nameAt other := by
  unfold nameAt profileOrNew
  rw [profile?_store]
  by_cases h : name = other
  · simp [h]
  · simp [h]

@[simp]
theorem nameAt_remove
    (set : ProfileSet)
    (name other : String) :
    (set.remove name).nameAt other =
      if name = other then other else set.nameAt other := by
  unfold nameAt profileOrNew
  rw [profile?_remove]
  by_cases h : name = other
  · simp [h, Profile.empty]
  · simp [h]

/- In a coherent set that is the name it is stored under. -/
theorem IsCoherent.nameAt_eq
    {set : ProfileSet}
    (hSet : set.IsCoherent)
    (name : String) :
    set.nameAt name = name :=
  (hSet.profileOrNew name).1

end ProfileSet

end LayeredSettings

------------------------------------------------------------
-- Properties of a Section
------------------------------------------------------------

namespace LayeredSettings

namespace Merge

/- A stored property stays, or its key is reported. -/
theorem kept_or_overwritten_addProperties
    {profile : Profile}
    {key : String}
    {property : Property}
    (hStored :
      profile.properties.get? key = some property)
    (name : String)
    (properties : List (String × String)) :
    (addProperties profile name
        properties).value.properties.get? key =
          some property ∨
      .propertyOverwritten profile.name key ∈
        (addProperties profile name properties).events := by
  induction properties generalizing profile with
  | nil => exact Or.inl hStored
  | cons entry rest ih =>
      obtain ⟨written, value⟩ := entry
      cases hValid : Text.isIdentifier written with
      | false =>
          rw [addProperties_cons_of_invalid profile name
            hValid]
          rcases ih hStored with hKept | hOverwritten
          · exact Or.inl hKept
          · exact Or.inr (List.mem_append_right _ hOverwritten)
      | true =>
          rw [addProperties_cons_of_valid profile name hValid]
          by_cases hSame : Text.lowerCase written = key
          -- the key has a value, so the insertion reports it
          · right
            apply List.mem_append_left
            rw [Profile.events_insert, hSame,
              if_pos (by simp [Table.contains, hStored])]
            exact List.mem_singleton_self _
          · have hNext :
                (profile.insert written
                  value).value.properties.get? key =
                    some property := by
              simp [hSame, hStored]
            rcases ih hNext with hKept | hOverwritten
            · exact Or.inl hKept
            · right
              apply List.mem_append_right
              simpa using hOverwritten

/- A listed property is stored, or its key is reported. -/
theorem stored_or_overwritten_addProperties
    {written value : String}
    {properties : List (String × String)}
    (hMem : (written, value) ∈ properties)
    (hValid : Text.isIdentifier written = true)
    (profile : Profile)
    (name : String) :
    (addProperties profile name
        properties).value.properties.get?
          (Text.lowerCase written) =
            some ⟨Text.lowerCase written, value⟩ ∨
      .propertyOverwritten profile.name
          (Text.lowerCase written) ∈
        (addProperties profile name properties).events := by
  rcases List.append_of_mem hMem with ⟨before, after, rfl⟩
  rw [addProperties_append]
  generalize hReached :
    (addProperties profile name before).value = reached
  have hName : reached.name = profile.name := by
    rw [← hReached, name_addProperties]
  have hInserted :
      (reached.insert written
        value).value.properties.get?
          (Text.lowerCase written) =
            some ⟨Text.lowerCase written, value⟩ := by
    simp
  have hRest :=
    kept_or_overwritten_addProperties hInserted name after
  rw [Logged.value_bind, Logged.events_bind, hReached,
    addProperties_cons_of_valid reached name hValid]
  rcases hRest with hKept | hOverwritten
  · exact Or.inl hKept
  · right
    apply List.mem_append_right
    apply List.mem_append_right
    simpa [hName] using hOverwritten

/- A listed property with an invalid key is reported. -/
theorem keyInvalid_mem_events_addProperties
    {written value : String}
    {properties : List (String × String)}
    (hMem : (written, value) ∈ properties)
    (hInvalid : Text.isIdentifier written = false)
    (profile : Profile)
    (name : String) :
    .keyInvalid name written ∈
      (addProperties profile name properties).events := by
  rcases List.append_of_mem hMem with ⟨before, after, rfl⟩
  rw [addProperties_append, Logged.events_bind,
    addProperties_cons_of_invalid _ name hInvalid]
  apply List.mem_append_right
  exact List.mem_cons_self

end Merge

end LayeredSettings

------------------------------------------------------------
-- Traced Changes
------------------------------------------------------------

namespace LayeredSettings

namespace Merge

variable {name key : String}
variable {merge : Merge}

/-
  A property is stored under a name and a key, or an event
  says that something else was stored there.
-/
def IsNoted
    (name key : String)
    (property : Property)
    (changed : Logged Merge) : Prop :=
  changed.value.profiles.property? name key =
      some property ∨
    .propertyOverwritten
        (changed.value.profiles.nameAt name) key ∈
      changed.events

/-
  A change after which a property that was stored is noted,
  in a profile that goes by the same name.
-/
structure IsTraced
    (name key : String)
    (merge : Merge)
    (changed : Logged Merge) : Prop where
  named :
    changed.value.profiles.nameAt name =
      merge.profiles.nameAt name
  noted :
    ∀ property,
      merge.profiles.property? name key = some property →
        IsNoted name key property changed

variable {property : Property}
variable {changed : Logged Merge}
variable {next : Merge → Logged Merge}

/- What is noted last is noted. -/
theorem IsNoted.of_next
    (hNext :
      IsNoted name key property (next changed.value)) :
    IsNoted name key property (changed >>= next) := by
  rcases hNext with hStored | hOverwritten
  · exact Or.inl hStored
  · exact Or.inr (List.mem_append_right _ hOverwritten)

/- What is noted stays so if what follows is traced. -/
theorem IsNoted.bind
    (hFirst : IsNoted name key property changed)
    (hNext :
      IsTraced name key changed.value
        (next changed.value)) :
    IsNoted name key property (changed >>= next) := by
  rcases hFirst with hStored | hOverwritten
  · exact (hNext.noted property hStored).of_next
  · right
    rw [Logged.value_bind, hNext.named]
    exact List.mem_append_left _ hOverwritten

/- Changes are traced one after the other. -/
theorem IsTraced.bind
    (hFirst : IsTraced name key merge changed)
    (hNext :
      IsTraced name key changed.value
        (next changed.value)) :
    IsTraced name key merge (changed >>= next) := by
  constructor
  · exact hNext.named.trans hFirst.named
  · intro property hStored
    exact (hFirst.noted property hStored).bind hNext

/- A change that keeps the profiles is traced. -/
theorem isTraced_of_profiles_eq
    (hProfiles : changed.value.profiles = merge.profiles) :
    IsTraced name key merge changed := by
  constructor
  · rw [hProfiles]
  · intro property hStored
    left
    rw [hProfiles]
    exact hStored

/- A contribution to a valid name reports its properties. -/
theorem events_contribute_of_valid
    (merge : Merge)
    {name : String}
    (hName : Text.isIdentifier name = true)
    (properties : List (String × String)) :
    (merge.contribute name properties).events =
      (addProperties (merge.profiles.profileOrNew name) name
        properties).events := by
  simp [contribute, hName]

/- A contribution changes no name that a profile goes by. -/
theorem nameAt_contribute
    (merge : Merge)
    (name other : String)
    (properties : List (String × String)) :
    (merge.contribute name
      properties).value.profiles.nameAt other =
        merge.profiles.nameAt other := by
  rw [value_contribute]
  by_cases hName : Text.isIdentifier name = true
  · rw [if_pos hName, ProfileSet.nameAt_store,
      name_addProperties]
    by_cases hSame : name = other
    · rw [if_pos hSame, hSame]
      rfl
    · rw [if_neg hSame]
  · rw [if_neg hName]

/- Contributions are traced, to whatever profile. -/
theorem isTraced_contribute
    (merge : Merge)
    (other : String)
    (properties : List (String × String)) :
    IsTraced name key merge
      (merge.contribute other properties) := by
  constructor
  · exact nameAt_contribute merge other name properties
  · intro property hStored
    unfold IsNoted
    rw [nameAt_contribute, value_contribute]
    by_cases hOther : Text.isIdentifier other = true
    · rw [if_pos hOther,
        events_contribute_of_valid merge hOther]
      by_cases hSame : other = name
      · subst hSame
        have hOld :
            (merge.profiles.profileOrNew
              other).properties.get? key =
                some property := by
          simpa using hStored
        simpa [ProfileSet.nameAt] using
          kept_or_overwritten_addProperties hOld other
            properties
      · left
        simpa [hSame] using hStored
    · rw [if_neg hOther]
      exact Or.inl hStored

/- A claim is traced where it does not drop the profile. -/
theorem isTraced_claimDefault
    (hKept :
      merge.prefixedDefault = true ∨ name ≠ "default") :
    IsTraced name key merge merge.claimDefault := by
  have hValue := value_claimDefault merge
  by_cases hClaimed : merge.prefixedDefault = true
  · rw [if_pos hClaimed] at hValue
    apply isTraced_of_profiles_eq
    rw [hValue]
  · have hName : "default" ≠ name :=
      Ne.symm (hKept.resolve_left hClaimed)
    rw [if_neg hClaimed] at hValue
    constructor
    · rw [hValue]
      simp [hName]
    · intro property hStored
      left
      rw [hValue]
      simpa [ProfileSet.property?, hName] using hStored

/- Whether sections drop what a profile had before them. -/
def Drops
    (merge : Merge)
    (kind : FileKind)
    (listing : List (String × List (String × String)))
    (name : String) : Prop :=
  claims kind listing = true ∧
    merge.prefixedDefault = false ∧ name = "default"

/- A section is traced unless it drops the profile. -/
theorem isTraced_addSection
    {kind : FileKind}
    {heading : String}
    (hKept :
      Designation.of kind heading = .prefixedDefault →
        merge.prefixedDefault = true ∨ name ≠ "default")
    (properties : List (String × String)) :
    IsTraced name key merge
      (merge.addSection kind heading properties) := by
  unfold addSection
  cases hDesignation : Designation.of kind heading with
  | named other =>
      exact isTraced_contribute merge other properties
  | bareDefault =>
      by_cases hClaimed : merge.prefixedDefault = true
      · simp only [hClaimed, if_true]
        exact isTraced_of_profiles_eq rfl
      · simp only [if_neg hClaimed]
        exact isTraced_contribute merge "default" properties
  | prefixedDefault =>
      exact (isTraced_claimDefault (hKept hDesignation)).bind
        (isTraced_contribute _ "default" properties)
  | nothing => exact isTraced_of_profiles_eq rfl

/- So are all sections, if none of them drops the profile. -/
theorem isTraced_addSections
    {kind : FileKind}
    {listing : List (String × List (String × String))}
    (hKept : ¬ merge.Drops kind listing name) :
    IsTraced name key merge
      (addSections kind merge listing) := by
  induction listing generalizing merge with
  | nil => exact isTraced_of_profiles_eq rfl
  | cons entry rest ih =>
      obtain ⟨heading, properties⟩ := entry
      unfold Drops at hKept
      rw [claims_cons] at hKept
      apply IsTraced.bind
      -- a claim of the first section is one of the listing
      · apply isTraced_addSection
        intro hDesignation
        by_contra hNeither
        rw [not_or, Bool.not_eq_true, not_not] at hNeither
        exact hKept ⟨by simp [hDesignation], hNeither⟩
      · apply ih
        intro hDrops
        rcases hDrops with ⟨hRest, hFlag, hName⟩
        rw [prefixedDefault_addSection, Bool.or_eq_false_iff]
          at hFlag
        exact hKept ⟨by simp [hRest], hFlag.1, hName⟩

end Merge

end LayeredSettings

------------------------------------------------------------
-- Listed Sections
------------------------------------------------------------

namespace LayeredSettings

namespace Merge

variable {kind : FileKind}
variable {listing : List (String × List (String × String))}

/-
  A listed section is reached by some merge, which goes on
  with it and with the sections after it.  The default
  profile is claimed from there on or was before, exactly if
  it is claimed at all.
-/
theorem exists_reached
    {entry : String × List (String × String)}
    (hMem : entry ∈ listing)
    (base : ProfileSet)
    (kind : FileKind) :
    ∃ reached rest,
      claims kind listing =
          (reached.prefixedDefault ||
            claims kind (entry :: rest)) ∧
        (addSections kind ⟨base, false⟩ listing).value =
            (addSections kind reached
              (entry :: rest)).value ∧
          (addSections kind reached (entry :: rest)).events ⊆
            (addSections kind ⟨base, false⟩
              listing).events := by
  rcases List.append_of_mem hMem with ⟨before, rest, rfl⟩
  refine
    ⟨(addSections kind ⟨base, false⟩ before).value, rest,
      ?_, ?_, ?_⟩
  · rw [prefixedDefault_addSections, Bool.false_or]
    simp [claims]
  · rw [addSections_append]
    rfl
  · rw [addSections_append, Logged.events_bind]
    exact List.subset_append_right _ _

/- A section that adds to a profile contributes to it. -/
theorem exists_contribute_of_target
    {merge : Merge}
    {heading name : String}
    (hTarget :
      target merge.prefixedDefault
        (Designation.of kind heading) = some name)
    (properties : List (String × String)) :
    ∃ readied : Logged Merge,
      merge.addSection kind heading properties =
        readied >>= fun next =>
          next.contribute name properties := by
  unfold addSection
  cases hDesignation : Designation.of kind heading with
  | named other =>
      rw [hDesignation] at hTarget
      cases hTarget
      exact ⟨pure merge, rfl⟩
  | bareDefault =>
      rw [hDesignation] at hTarget
      cases hClaimed : merge.prefixedDefault with
      | true => simp [target, hClaimed] at hTarget
      | false =>
          rw [hClaimed] at hTarget
          cases hTarget
          exact ⟨pure merge, rfl⟩
  | prefixedDefault =>
      rw [hDesignation] at hTarget
      cases hTarget
      exact ⟨merge.claimDefault, rfl⟩
  | nothing => simp [target, hDesignation] at hTarget

/- What a section adds to in the end it adds to at once. -/
theorem target_of_target_or
    {claimed later : Bool}
    {designation : Designation}
    {name : String}
    (hTarget :
      target (claimed || later) designation = some name) :
    target claimed designation = some name := by
  cases claimed with
  | true => exact hTarget
  | false =>
      cases designation with
      | named other => exact hTarget
      | bareDefault =>
          cases later with
          | true => cases hTarget
          | false => exact hTarget
      | prefixedDefault => exact hTarget
      | nothing => exact hTarget

/- No later section drops what is added to in the end. -/
theorem not_drops_of_target
    {reached : Merge}
    {heading name : String}
    {properties : List (String × String)}
    {rest : List (String × List (String × String))}
    (hTarget :
      target
          (reached.prefixedDefault ||
            claims kind ((heading, properties) :: rest))
          (Designation.of kind heading) =
        some name) :
    ¬ (reached.addSection kind heading
      properties).value.Drops kind rest name := by
  intro hDrops
  rcases hDrops with ⟨hRest, hFlag, rfl⟩
  rw [prefixedDefault_addSection, Bool.or_eq_false_iff]
    at hFlag
  rw [claims_cons, hRest, Bool.or_true, Bool.or_true]
    at hTarget
  cases hDesignation : Designation.of kind heading with
  -- only a credentials file names the default profile so
  | named other =>
      rw [hDesignation] at hTarget
      cases hTarget
      have hNone :=
        claims_eq_false_of_named_default hDesignation rest
      exact absurd hRest (by simp [hNone])
  | bareDefault =>
      rw [hDesignation] at hTarget
      cases hTarget
  | prefixedDefault =>
      simp [hDesignation] at hFlag
  | nothing =>
      rw [hDesignation] at hTarget
      cases hTarget

/- A contribution notes each of its properties. -/
theorem isNoted_contribute
    {written value : String}
    {properties : List (String × String)}
    (hMem : (written, value) ∈ properties)
    (hValid : Text.isIdentifier written = true)
    {name : String}
    (hName : Text.isIdentifier name = true)
    (merge : Merge) :
    IsNoted name (Text.lowerCase written)
      ⟨Text.lowerCase written, value⟩
        (merge.contribute name properties) := by
  unfold IsNoted
  rw [nameAt_contribute, value_contribute, if_pos hName,
    events_contribute_of_valid merge hName]
  simpa [ProfileSet.nameAt] using
    stored_or_overwritten_addProperties hMem hValid
      (merge.profiles.profileOrNew name) name

/- So does a listing, of a section that it starts with. -/
theorem isNoted_addSections
    {reached : Merge}
    {heading name written value : String}
    {properties : List (String × String)}
    {rest : List (String × List (String × String))}
    (hTarget :
      target
          (reached.prefixedDefault ||
            claims kind ((heading, properties) :: rest))
          (Designation.of kind heading) =
        some name)
    (hName : Text.isIdentifier name = true)
    (hMem : (written, value) ∈ properties)
    (hValid : Text.isIdentifier written = true) :
    IsNoted name (Text.lowerCase written)
      ⟨Text.lowerCase written, value⟩
        (addSections kind reached
          ((heading, properties) :: rest)) := by
  apply IsNoted.bind
  · rcases exists_contribute_of_target
        (target_of_target_or hTarget) properties with
      ⟨readied, hStep⟩
    rw [hStep]
    exact (isNoted_contribute hMem hValid hName _).of_next
  · exact isTraced_addSections (not_drops_of_target hTarget)

/- An invalid key of such a section is reported. -/
theorem keyInvalid_mem_events_addSections
    {reached : Merge}
    {heading name written value : String}
    {properties : List (String × String)}
    {rest : List (String × List (String × String))}
    (hTarget :
      target
          (reached.prefixedDefault ||
            claims kind ((heading, properties) :: rest))
          (Designation.of kind heading) =
        some name)
    (hName : Text.isIdentifier name = true)
    (hMem : (written, value) ∈ properties)
    (hInvalid : Text.isIdentifier written = false) :
    .keyInvalid name written ∈
      (addSections kind reached
        ((heading, properties) :: rest)).events := by
  rcases exists_contribute_of_target
      (target_of_target_or hTarget) properties with
    ⟨readied, hStep⟩
  apply List.mem_append_left
  rw [hStep]
  apply List.mem_append_right
  rw [events_contribute_of_valid _ hName]
  exact keyInvalid_mem_events_addProperties hMem hInvalid _ _

end Merge

end LayeredSettings

------------------------------------------------------------
-- The Superseded Default Profile
------------------------------------------------------------

namespace LayeredSettings

namespace Merge

variable {kind : FileKind}

/- A default profile stays unless a section claims it. -/
theorem isSome_default_addSection
    {heading : String}
    (hOther :
      Designation.of kind heading ≠ .prefixedDefault)
    (merge : Merge)
    (properties : List (String × String)) :
    ((merge.addSection kind heading
      properties).value.profiles.profile? "default").isSome =
        (decide (target merge.prefixedDefault
            (Designation.of kind heading) =
              some "default") ||
          (merge.profiles.profile? "default").isSome) := by
  have hView :=
    (isViewAt_profile "default").addSection merge kind
      heading properties
  have hValid : Text.isIdentifier "default" = true := by
    decide
  have hSome := congrArg Option.isSome hView
  rw [Option.isSome_map, Option.isSome_or] at hSome
  rw [hSome]
  by_cases hTarget :
      target merge.prefixedDefault
        (Designation.of kind heading) = some "default"
  · simp [giftOf, hValid, hTarget]
  · simp [giftOf, hOther, hTarget]

/- A claim reports the default profile that it drops. -/
theorem defaultSuperseded_mem_events_claimDefault
    {merge : Merge}
    (hClaimed : merge.prefixedDefault = false)
    (hOld :
      (merge.profiles.profile? "default").isSome = true) :
    .defaultSuperseded ∈ merge.claimDefault.events := by
  simp [claimDefault, hClaimed, hOld]

/- So do sections of which one claims the profile. -/
theorem defaultSuperseded_mem_events_addSections
    {merge : Merge}
    {listing : List (String × List (String × String))}
    (hDrops : merge.Drops kind listing "default")
    (hOld :
      (merge.profiles.profile? "default").isSome = true) :
    .defaultSuperseded ∈
      (addSections kind merge listing).events := by
  induction listing generalizing merge with
  | nil => exact absurd hDrops.1 (by simp [claims])
  | cons entry rest ih =>
      obtain ⟨heading, properties⟩ := entry
      rcases hDrops with ⟨hClaims, hFlag, -⟩
      by_cases hClaim :
          Designation.of kind heading = .prefixedDefault
      · apply List.mem_append_left
        unfold addSection
        rw [hClaim]
        apply List.mem_append_left
        exact defaultSuperseded_mem_events_claimDefault hFlag
          hOld
      · apply List.mem_append_right
        apply ih
        · refine ⟨?_, ?_, rfl⟩
          · simpa [claims, hClaim] using hClaims
          · rw [prefixedDefault_addSection, hFlag]
            simp [hClaim]
        · rw [isSome_default_addSection hClaim, hOld,
            Bool.or_true]

/- The bare heading is reported if the profile is claimed. -/
theorem defaultSuperseded_mem_events_of_bareDefault
    {reached : Merge}
    {heading : String}
    {properties : List (String × String)}
    {rest : List (String × List (String × String))}
    (hBare : Designation.of kind heading = .bareDefault)
    (hClaimed :
      (reached.prefixedDefault ||
        claims kind ((heading, properties) :: rest)) =
          true) :
    .defaultSuperseded ∈
      (addSections kind reached
        ((heading, properties) :: rest)).events := by
  cases hFlag : reached.prefixedDefault with
  | true =>
      apply List.mem_append_left
      unfold addSection
      simp [hBare, hFlag]
  | false =>
      -- the section contributes first and is dropped later
      apply List.mem_append_right
      apply defaultSuperseded_mem_events_addSections
      · refine ⟨?_, ?_, rfl⟩
        · simpa [hFlag, claims, hBare] using hClaimed
        · rw [prefixedDefault_addSection, hFlag]
          simp [hBare]
      · have hOther :
            Designation.of kind heading ≠
              .prefixedDefault := by
          simp [hBare]
        rw [isSome_default_addSection hOther, hBare, hFlag]
        rfl

end Merge

end LayeredSettings

------------------------------------------------------------
-- The Account of a File
------------------------------------------------------------

namespace LayeredSettings

namespace ProfileSet

open Merge

variable {sections : Sections}
variable {listing : List (String × List (String × String))}

/- A file reports what its sections report. -/
theorem events_mergeFile
    (base : ProfileSet)
    (kind : FileKind)
    (listing : List (String × List (String × String))) :
    (base.mergeFile kind listing).events =
      (addSections kind ⟨base, false⟩ listing).events :=
  List.append_nil _

/- A section without a profile to add to is dropped. -/
theorem isDropped_of_target_eq_none
    (base : ProfileSet)
    {kind : FileKind}
    (hListing : sections.IsListedAs listing)
    {heading : String}
    {properties : List (String × String)}
    (hMem : (heading, properties) ∈ listing)
    (hTarget :
      target (claims kind listing)
        (Designation.of kind heading) = none) :
    sections.IsDropped kind heading
      (base.mergeFile kind listing) := by
  rcases exists_reached hMem base kind with
    ⟨reached, rest, hClaimed, -, hEvents⟩
  rw [← events_mergeFile] at hEvents
  cases kind with
  | credentials => cases hTarget
  | config =>
      cases hDesignation : Designation.ofConfig heading with
      | named name =>
          simp [Designation.of, hDesignation, target]
            at hTarget
      | prefixedDefault =>
          simp [Designation.of, hDesignation, target]
            at hTarget
      | bareDefault =>
          have hClaims : claims .config listing = true := by
            simpa [Designation.of, hDesignation, target]
              using hTarget
          refine
            ⟨.defaultSuperseded, .superseded rfl ?_ ?_, ?_,
              rfl⟩
          · exact Designation.ofConfig_eq_bareDefault_iff.mp
              hDesignation
          · exact
              ((claims_eq_true_iff hListing .config).mp
                hClaims).2
          · apply hEvents
            exact defaultSuperseded_mem_events_of_bareDefault
              hDesignation (hClaimed.symm.trans hClaims)
      | nothing =>
          have hNothing :=
            Designation.ofConfig_eq_nothing_iff.mp
              hDesignation
          refine
            ⟨.sectionIgnored heading,
              .unprefixed rfl hNothing.1 hNothing.2, ?_, rfl⟩
          apply hEvents
          apply List.mem_append_left
          simp [addSection, Designation.of, hDesignation]

/- A section that names no valid profile is dropped. -/
theorem isDropped_of_isIdentifier_eq_false
    (base : ProfileSet)
    {kind : FileKind}
    (hListing : sections.IsListedAs listing)
    {heading name : String}
    {properties : List (String × String)}
    (hMem : (heading, properties) ∈ listing)
    (hTarget :
      target (claims kind listing)
        (Designation.of kind heading) = some name)
    (hInvalid : Text.isIdentifier name = false) :
    sections.IsDropped kind heading
      (base.mergeFile kind listing) := by
  rcases exists_reached hMem base kind with
    ⟨reached, rest, hClaimed, -, hEvents⟩
  rw [← events_mergeFile] at hEvents
  refine
    ⟨.profileNameInvalid name, .invalid ?_ hInvalid, ?_,
      rfl⟩
  · exact (target_eq_some_iff hListing kind heading name).mp
      hTarget
  · rw [hClaimed] at hTarget
    rcases exists_contribute_of_target
        (target_of_target_or hTarget) properties with
      ⟨readied, hStep⟩
    apply hEvents
    apply List.mem_append_left
    rw [hStep]
    apply List.mem_append_right
    simp [contribute, hInvalid]

/- A section adds to a profile or is dropped. -/
theorem contributes_or_isDropped
    (base : ProfileSet)
    (kind : FileKind)
    (hListing : sections.IsListedAs listing)
    {heading : String}
    {properties : List (String × String)}
    (hMem : (heading, properties) ∈ listing) :
    sections.IsDropped kind heading
        (base.mergeFile kind listing) ∨
      ∃ name, sections.Contributes kind heading name := by
  cases hTarget :
      target (claims kind listing)
        (Designation.of kind heading) with
  | none =>
      left
      exact isDropped_of_target_eq_none base hListing hMem
        hTarget
  | some name =>
      cases hValid : Text.isIdentifier name with
      | false =>
          left
          exact isDropped_of_isIdentifier_eq_false base
            hListing hMem hTarget hValid
      | true =>
          right
          refine ⟨name, ?_⟩
          rw [contributes_iff hListing]
          exact
            ⟨(hListing.mem_keys_iff heading).mpr
                ⟨properties, hMem⟩,
              hTarget, hValid⟩

/- The profile of a section that contributes exists. -/
theorem isSome_profile?_mergeFile
    (base : ProfileSet)
    {kind : FileKind}
    (hListing : sections.IsListedAs listing)
    {heading name : String}
    (hContributes :
      sections.Contributes kind heading name) :
    ((base.mergeFile kind listing).value.profile?
      name).isSome = true := by
  have hSome :=
    (isSome_lastGift_iff hListing kind name).mpr
      ⟨heading, hContributes⟩
  rcases Option.isSome_iff_exists.mp hSome with ⟨_, hGift⟩
  have hView :=
    (isViewAt_profile name).mergeFile_of_lastGift_eq_some
      hListing base hGift
  rw [← Option.isSome_map, hView]
  rfl

/-
  Where a file gives a key a value, a property that is noted
  is stored or another one has taken its place.
-/
theorem stored_or_overwrites
    (base : ProfileSet)
    {kind : FileKind}
    (hListing : sections.IsListedAs listing)
    {name key : String}
    {property given : Property}
    (hNoted :
      IsNoted name key property
        (addSections kind ⟨base, false⟩ listing))
    (hGift :
      lastGift (givenProperty key) kind name
        (claims kind listing) listing = some given) :
    (base.mergeFile kind listing).value.property? name key =
        some property ∨
      sections.Overwrites kind (base.mergeFile kind listing)
        name key property := by
  have hMerged :=
    (isViewAt_property name
      key).mergeFile_of_lastGift_eq_some hListing base hGift
  rcases gives_of_lastGift_eq_some hListing hGift with
    ⟨hGiven, hGives⟩
  by_cases hSame : given = property
  · left
    rw [← hSame]
    exact hMerged
  · right
    rcases hNoted with hStored | hOverwritten
    · have hBoth := hMerged.symm.trans hStored
      exact absurd (Option.some.inj hBoth) hSame
    · refine ⟨given.value, ?_, hGives, ?_, ?_, rfl⟩
      · rw [← hGiven]
        exact hSame
      · rw [← hGiven]
        exact hMerged
      · rw [events_mergeFile]
        exact hOverwritten

/- A property that was there before is accounted for. -/
theorem base_isAccounted
    (base : ProfileSet)
    (kind : FileKind)
    (hListing : sections.IsListedAs listing)
    {name key : String}
    {property : Property}
    (hStored : base.property? name key = some property) :
    (base.mergeFile kind listing).value.property? name key =
        some property ∨
      sections.Overwrites kind (base.mergeFile kind listing)
        name key property ∨
      sections.Supersedes kind name ∧
        (base.mergeFile kind listing).Reports .warn
          .defaultSuperseded := by
  by_cases hSupersedes : sections.Supersedes kind name
  · right
    right
    refine ⟨hSupersedes, ?_, rfl⟩
    rcases (supersedes_iff hListing kind name).mp
        hSupersedes with ⟨hClaims, rfl⟩
    rw [events_mergeFile]
    apply defaultSuperseded_mem_events_addSections
    · exact ⟨hClaims, rfl, rfl⟩
    · unfold property? at hStored
      rw [Option.bind_eq_some_iff] at hStored
      rcases hStored with ⟨profile, hProfile, -⟩
      exact Option.isSome_of_eq_some hProfile
  · have hTraced :
        IsTraced name key ⟨base, false⟩
          (addSections kind ⟨base, false⟩ listing) := by
      apply isTraced_addSections
      intro hDrops
      exact hSupersedes
        ((supersedes_iff hListing kind name).mpr
          ⟨hDrops.1, hDrops.2.2⟩)
    have hMerged :=
      (isViewAt_property name key).mergeFile hListing base
        kind hSupersedes
    cases hGift :
        lastGift (givenProperty key) kind name
          (claims kind listing) listing with
    | none =>
        left
        rw [hMerged, hGift, Option.none_or, hStored]
    | some given =>
        rw [← or_assoc]
        left
        exact stored_or_overwrites base hListing
          (hTraced.noted property hStored) hGift

/- A property of a section that contributes is, too. -/
theorem property_isAccounted
    (base : ProfileSet)
    {kind : FileKind}
    (hListing : sections.IsListedAs listing)
    {heading name written value : String}
    {properties : List (String × String)}
    (hMem : (heading, properties) ∈ listing)
    (hContributes : sections.Contributes kind heading name)
    (hProperty : (written, value) ∈ properties) :
    if Text.isIdentifier written then
      (base.mergeFile kind listing).value.property? name
          (Text.lowerCase written) =
        some ⟨Text.lowerCase written, value⟩ ∨
      sections.Overwrites kind (base.mergeFile kind listing)
        name (Text.lowerCase written)
        ⟨Text.lowerCase written, value⟩
    else
      (base.mergeFile kind listing).Reports .warn
        (.keyInvalid name written) := by
  rcases exists_reached hMem base kind with
    ⟨reached, rest, hClaimed, hValue, hEvents⟩
  rcases (contributes_iff hListing kind heading name).mp
      hContributes with ⟨-, hTarget, hName⟩
  rw [hClaimed] at hTarget
  cases hValid : Text.isIdentifier written with
  | false =>
      refine ⟨?_, rfl⟩
      rw [events_mergeFile]
      apply hEvents
      exact keyInvalid_mem_events_addSections hTarget hName
        hProperty hValid
  | true =>
      have hNoted :
          IsNoted name (Text.lowerCase written)
            ⟨Text.lowerCase written, value⟩
              (addSections kind ⟨base, false⟩ listing) := by
        rcases isNoted_addSections hTarget hName hProperty
            hValid with hStored | hOverwritten
        · left
          rw [hValue]
          exact hStored
        · right
          rw [hValue]
          exact hEvents hOverwritten
      have hGives :
          sections.Gives kind name (Text.lowerCase written)
            value := by
        rw [gives_iff hListing]
        exact
          ⟨(heading, properties), hMem, hContributes, written,
            hProperty, hValid, rfl⟩
      cases hGift :
          lastGift (givenProperty (Text.lowerCase written))
            kind name (claims kind listing) listing with
      | none =>
          exact absurd hGives
            (not_gives_of_lastGift_eq_none hListing hGift
              value)
      | some given =>
          exact stored_or_overwrites base hListing hNoted
            hGift

/-
  A merge accounts for every section and property of a file,
  and for every property from before, in whatever order the
  sections and their properties come.
-/
theorem isAccounted_mergeFile
    (base : ProfileSet)
    (kind : FileKind)
    (hListing : sections.IsListedAs listing) :
    base.IsAccounted kind sections
      (base.mergeFile kind listing) := by
  constructor
  · intro hBase name
    exact (isCoherent_mergeFile hBase kind
      listing).nameAt_eq name
  · intro heading hKey
    rcases (hListing.mem_keys_iff heading).mp hKey with
      ⟨properties, hMem⟩
    rcases contributes_or_isDropped base kind hListing hMem
      with hDropped | ⟨name, hContributes⟩
    · exact Or.inl hDropped
    · exact Or.inr
        ⟨name, hContributes,
          isSome_profile?_mergeFile base hListing
            hContributes⟩
  · intro heading table written value hTable hValue
    rcases hListing.mem_of_get? hTable with
      ⟨properties, hMem, hPerm⟩
    have hProperty : (written, value) ∈ properties :=
      hPerm.mem_iff.mpr
        ((table.get?_eq_some_iff_mem written value).mp hValue)
    rcases contributes_or_isDropped base kind hListing hMem
      with hDropped | ⟨name, hContributes⟩
    · exact Or.inl hDropped
    · exact Or.inr
        ⟨name, hContributes,
          property_isAccounted base hListing hMem
            hContributes hProperty⟩
  · intro name key property hStored
    exact base_isAccounted base kind hListing hStored

/- A file in which something of each kind goes wrong. -/
def untidySections : Sections where
  entries :=
    [ ("profile default", Table.ofList [("a", "prefixed")]),
      ( "profile dev",
        Table.ofList
          [("k", "one"), ("K", "two"), ("bad key", "x")] ),
      ("profile b c", Table.ofList [("k", "x")]),
      ("plain", Table.ofList [("k", "x")]),
      ("default", Table.ofList [("a", "bare")]) ]
  nodup_keys := by decide

/- The bare default profile comes before the prefixed one. -/
def untidyListing :
    List (String × List (String × String)) :=
  [ ("default", [("a", "bare")]),
    ("plain", [("k", "x")]),
    ("profile b c", [("k", "x")]),
    ( "profile dev",
      [("K", "two"), ("k", "one"), ("bad key", "x")] ),
    ("profile default", [("a", "prefixed")]) ]

/- A set that has both profiles before. -/
def setBefore : ProfileSet where
  profiles := Table.ofList
    [ ( "default",
        ⟨"default",
          Table.ofList [("z", ⟨"z", "old"⟩)]⟩ ),
      ( "dev",
        ⟨"dev", Table.ofList [("k", ⟨"k", "old"⟩)]⟩ ) ]
  selected := "default"

theorem isAccounted_untidySections :
    untidySections.IsListedAs untidyListing ∧
      setBefore.IsAccounted .config untidySections
        (setBefore.mergeFile .config untidyListing) ∧
      (setBefore.mergeFile .config untidyListing).events =
        [ .sectionIgnored "plain",
          .profileNameInvalid "b c",
          .propertyOverwritten "dev" "k",
          .propertyOverwritten "dev" "k",
          .keyInvalid "dev" "bad key",
          .defaultSuperseded ] := by
  have hListing :
      untidySections.IsListedAs untidyListing := by
    refine
      ⟨untidySections.entries.reverse,
        List.reverse_perm _, ?_⟩
    refine .cons ⟨rfl, .refl _⟩ (.cons ⟨rfl, .refl _⟩
      (.cons ⟨rfl, .refl _⟩ (.cons ⟨rfl, ?_⟩
        (.cons ⟨rfl, .refl _⟩ .nil))))
    exact .swap _ _ _
  exact ⟨hListing,
    isAccounted_mergeFile setBefore .config hListing,
    by decide⟩

end ProfileSet

end LayeredSettings
