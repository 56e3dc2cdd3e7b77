import LayeredSettings.Proofs.Profile.History
import LayeredSettings.Proofs.Profile.LoadOrder
import LayeredSettings.Proofs.Text.LetterCase

/-
  Profile sets that are built step by step, and what they
  answer to keys in any letter case.

  Key definitions include:
    * `Assignment`
    * `ProfileSet.IsBuilt`, `ProfileSet.IsBuiltFrom`
    * `ProfileSet.IsCaseBlind`
    * `Sections.NeverClashes`
    * `ProfileSet.IsMadeOf`

  Key theorems include:
    * `ProfileSet.IsBuilt.isCoherent`
    * `ProfileSet.IsBuilt.valueAt_eq_some_iff`
    * `ProfileSet.IsBuilt.addAll`
    * `ProfileSet.IsBuiltFrom.mergeFile`
    * `ProfileSet.isBuiltFrom_of_mayLoad`
    * `ProfileSet.built_isCaseBlind`

  There are four steps, and every way to come by a set takes
  no others.  The values that were written on the way are
  kept in a list, so that a key is found by the spelling
  that it was written with and not only by the stored one.
-/

------------------------------------------------------------
-- Building
------------------------------------------------------------

namespace LayeredSettings

/- A value that is written to a key of a profile. -/
structure Assignment where
  profile : String
  key : String
  value : String
  deriving DecidableEq

namespace Assignment

/- It is written to a key, in one letter case or another. -/
def IsAt
    (a : Assignment)
    (name key : String) : Prop :=
  a.profile = name ∧ Text.IsCaseVariant a.key key

/- What lists of profiles, keys and values write. -/
def listed
    (profiles : List (String × List (String × String))) :
    List Assignment :=
  profiles.flatMap fun (name, properties) =>
    properties.map fun (key, value) => ⟨name, key, value⟩

end Assignment

namespace ProfileSet

/-
  A set that is built by steps: a profile is there from now
  on, a value is written, or a profile is removed.  What is
  written to a profile is gone when the profile is removed.
-/
inductive IsBuilt : List Assignment → ProfileSet → Prop
| empty (selected : String) : IsBuilt [] (empty selected)
| opened
    (name : String)
    {done : List Assignment}
    {set : ProfileSet}
    (built : IsBuilt done set) :
    IsBuilt done (set.store name (set.profileOrNew name))
| inserted
    (name key value : String)
    {done : List Assignment}
    {set : ProfileSet}
    (built : IsBuilt done set) :
    IsBuilt (done ++ [⟨name, key, value⟩])
      (set.store name
        ((set.profileOrNew name).insert key value).value)
| removed
    (name : String)
    {done : List Assignment}
    {set : ProfileSet}
    (built : IsBuilt done set) :
    IsBuilt (done.filter fun a => a.profile ≠ name)
      (set.remove name)

/- A set of which all that was written is from a source. -/
def IsBuiltFrom
    (source : Assignment → Prop)
    (set : ProfileSet) : Prop :=
  ∃ done, IsBuilt done set ∧ ∀ a ∈ done, source a

/- The value of a key in a profile. -/
def valueAt
    (set : ProfileSet)
    (name key : String) : Option String :=
  (set.profile? name).bind fun profile => profile.get key

/-
  A set that stores all under their own names and no key in
  upper case, and answers to a key as to its variants.  The
  last value that was written to any of them is found.
-/
structure IsCaseBlind
    (done : List Assignment)
    (set : ProfileSet) : Prop where
  name_eq :
    ∀ name profile,
      set.profile? name = some profile →
        profile.name = name
  key_eq :
    ∀ name profile key property,
      set.profile? name = some profile →
        profile.properties.get? key = some property →
          property.key = key ∧
            ∀ c ∈ key.toList, c.isUpper = false
  profile_get_eq :
    ∀ name profile key other,
      set.profile? name = some profile →
        Text.IsCaseVariant key other →
          profile.get key = profile.get other
  get_eq :
    ∀ key other,
      Text.IsCaseVariant key other →
        set.get key = set.get other
  found_as_written :
    ∀ name profile key property,
      set.profile? name = some profile →
        profile.properties.get? key = some property →
          ∃ a ∈ done,
            a.IsAt name key ∧ a.value = property.value ∧
              ∀ spelling,
                Text.IsCaseVariant spelling a.key →
                  profile.get spelling = some property.value
  last_wins :
    ∀ name key value,
      set.valueAt name key = some value ↔
        Grammar.Since
          (fun _ a => a.IsAt name key ∧ a.value = value)
          (fun a => a.IsAt name key) done

/-
  A set that has the profiles of a map, and in each of them
  the values that the map has for it.
-/
structure IsMadeOf
    (map : Sections)
    (selected : String)
    (set : ProfileSet) : Prop where
  exists_iff :
    ∀ name,
      (set.profile? name).isSome ↔ name ∈ map.keys
  get_eq :
    ∀ name properties key value,
      map.get? name = some properties →
        properties.get? key = some value →
          ∃ profile,
            set.profile? name = some profile ∧
              profile.get key = some value
  get_iff :
    ∀ name profile key value,
      set.profile? name = some profile →
        (profile.get key = some value ↔
          ∃ properties written,
            map.get? name = some properties ∧
              properties.get? written = some value ∧
                Text.IsCaseVariant written key)
  selected_get :
    ∀ key,
      set.get key =
        (set.profile? selected).bind fun profile =>
          profile.get key

end ProfileSet

/- No profile has two keys that differ in case only. -/
def Sections.NeverClashes
    (map : Sections) : Prop :=
  ∀ name properties key other,
    map.get? name = some properties →
      key ∈ properties.keys →
        other ∈ properties.keys →
          Text.IsCaseVariant key other → key = other

/- A file gives a value to a key somewhere in its text. -/
def ProfileFile.Lists
    (file : ProfileFile)
    (key value : String) : Prop :=
  ∃ sections heading properties,
    Sections.parse file.path file.text = .ok sections ∧
      sections.get? heading = some properties ∧
        properties.get? key = some value

end LayeredSettings

------------------------------------------------------------
-- Steps
------------------------------------------------------------

namespace LayeredSettings

/- A value that is inserted is found by every variant. -/
theorem Profile.get_insert
    (profile : Profile)
    (written value key : String) :
    (profile.insert written value).value.get key =
      if Text.lowerCase written = Text.lowerCase key then
        some value
      else profile.get key := by
  unfold Profile.get
  rw [Profile.value_insert, Table.get?_insert]
  by_cases hKey : Text.lowerCase written = Text.lowerCase key
  · rw [if_pos hKey, if_pos hKey]
    rfl
  · rw [if_neg hKey, if_neg hKey]

/- A key is looked up in lower case, so case is no matter. -/
theorem Profile.get_eq_of_isCaseVariant
    (profile : Profile)
    {key other : String}
    (hVariant : Text.IsCaseVariant key other) :
    profile.get key = profile.get other := by
  unfold Profile.get
  rw [Text.isCaseVariant_iff.mp hVariant]

namespace ProfileSet

variable {set : ProfileSet}
variable {done : List Assignment}

theorem valueAt_store
    (set : ProfileSet)
    (name other key : String)
    (profile : Profile) :
    (set.store name profile).valueAt other key =
      if name = other then profile.get key
      else set.valueAt other key := by
  unfold valueAt
  rw [profile?_store]
  by_cases hName : name = other
  · rw [if_pos hName, if_pos hName]
    rfl
  · rw [if_neg hName, if_neg hName]

theorem valueAt_remove
    (set : ProfileSet)
    (name other key : String) :
    (set.remove name).valueAt other key =
      if name = other then none
      else set.valueAt other key := by
  unfold valueAt
  rw [profile?_remove]
  by_cases hName : name = other
  · rw [if_pos hName, if_pos hName]
    rfl
  · rw [if_neg hName, if_neg hName]

theorem get_profileOrNew
    (set : ProfileSet)
    (name key : String) :
    (set.profileOrNew name).get key =
      set.valueAt name key := by
  unfold profileOrNew valueAt
  cases set.profile? name with
  | none => rfl
  | some profile => rfl

namespace IsBuilt

/- Every step keeps names and keys where they belong. -/
theorem isCoherent
    (hBuilt : IsBuilt done set) :
    set.IsCoherent := by
  induction hBuilt with
  | empty selected => exact isCoherent_empty selected
  | opened name _ ih =>
      have hOld := ih.profileOrNew name
      exact ih.store hOld.1 hOld.2
  | inserted name key value _ ih =>
      have hOld := ih.profileOrNew name
      apply ih.store
      · rw [Profile.value_insert]
        exact hOld.1
      · exact hOld.2.insert key value
  | removed name _ ih => exact ih.remove name

/- The last value that was written to a key is its value. -/
theorem valueAt_eq_some_iff
    (hBuilt : IsBuilt done set)
    {name key value : String} :
    set.valueAt name key = some value ↔
      Grammar.Since
        (fun _ a => a.IsAt name key ∧ a.value = value)
        (fun a => a.IsAt name key) done := by
  induction hBuilt with
  | empty selected =>
      exact iff_of_false (by simp [valueAt])
        Grammar.not_since_nil
  | opened other _ ih =>
      rw [valueAt_store, get_profileOrNew, ← ih]
      by_cases hName : other = name
      · rw [if_pos hName, hName]
      · rw [if_neg hName]
  | inserted other written new _ ih =>
      rw [valueAt_store, Profile.get_insert,
        get_profileOrNew, Grammar.since_concat_iff, ← ih]
      unfold Assignment.IsAt
      rw [Text.isCaseVariant_iff]
      by_cases hName : other = name
      · subst hName
        by_cases hKey :
            Text.lowerCase written = Text.lowerCase key
        · simp [hKey]
        · simp [hKey]
      · simp [hName]
  | removed other _ ih =>
      rw [valueAt_remove]
      by_cases hName : other = name
      · -- Nothing that was written to the profile is left.
        rw [if_pos hName]
        refine iff_of_false (by simp) ?_
        rintro ⟨before, a, after, hList, ⟨hAt, -⟩, -⟩
        have hMem : a ∈ before ++ a :: after := by simp
        rw [← hList, List.mem_filter] at hMem
        simp [hAt.1, hName] at hMem
      · rw [if_neg hName, ih]
        symm
        apply Grammar.since_filter_iff
        · intro a hAt
          simp [hAt.1.1, Ne.symm hName]
        · intro a hAt
          simp [hAt.1, Ne.symm hName]

/-
  A property is stored under a variant of the key that was
  written last, and so it is found by all variants of it.
-/
theorem exists_written
    (hBuilt : IsBuilt done set)
    {name key : String}
    {profile : Profile}
    {property : Property}
    (hStored : set.profile? name = some profile)
    (hProperty :
      profile.properties.get? key = some property) :
    ∃ a ∈ done,
      a.IsAt name key ∧ a.value = property.value ∧
        ∀ spelling,
          Text.IsCaseVariant spelling a.key →
            profile.get spelling = some property.value := by
  have hLower : Text.lowerCase key = key :=
    ((hBuilt.isCoherent name profile hStored).2 key property
      hProperty).2
  have hGet : profile.get key = some property.value := by
    unfold Profile.get
    rw [hLower, hProperty]
    rfl
  have hValue :
      set.valueAt name key = some property.value := by
    unfold valueAt
    rw [hStored]
    exact hGet
  rcases hBuilt.valueAt_eq_some_iff.mp hValue with
    ⟨before, a, after, hList, ⟨hAt, hSame⟩, -⟩
  refine ⟨a, by simp [hList], hAt, hSame, ?_⟩
  intro spelling hSpelling
  rw [profile.get_eq_of_isCaseVariant hSpelling,
    profile.get_eq_of_isCaseVariant hAt.2, hGet]

/- What is built step by step answers in any letter case. -/
theorem isCaseBlind
    (hBuilt : IsBuilt done set) :
    IsCaseBlind done set := by
  refine ⟨?_, ?_, ?_, ?_, ?_, ?_⟩
  · intro name profile hStored
    exact (hBuilt.isCoherent name profile hStored).1
  · intro name profile key property hStored hProperty
    have hOwn :=
      (hBuilt.isCoherent name profile hStored).2 key property
        hProperty
    exact ⟨hOwn.1, Text.lowerCase_eq_self_iff.mp hOwn.2⟩
  · intro name profile key other _ hVariant
    exact profile.get_eq_of_isCaseVariant hVariant
  · intro key other hVariant
    unfold ProfileSet.get
    cases set.profile? set.selected with
    | none => rfl
    | some profile =>
        exact profile.get_eq_of_isCaseVariant hVariant
  · intro name profile key property hStored hProperty
    exact hBuilt.exists_written hStored hProperty
  · intro name key value
    exact hBuilt.valueAt_eq_some_iff

end IsBuilt

end ProfileSet

end LayeredSettings

------------------------------------------------------------
-- Lists and Files
------------------------------------------------------------

namespace LayeredSettings

namespace ProfileSet

variable {set : ProfileSet}
variable {done : List Assignment}
variable {source : Assignment → Prop}

/- A profile that is stored is the one that is added to. -/
theorem store_insert_profileOrNew
    (set : ProfileSet)
    (profile : Profile)
    (name key value : String) :
    (set.store name profile).store name
        (((set.store name profile).profileOrNew
          name).insert key value).value =
      set.store name (profile.insert key value).value := by
  unfold profileOrNew
  rw [profile?_store, if_pos rfl, Option.getD_some]
  unfold store
  rw [Table.insert_insert]

/- Keys that are given values write them one by one. -/
theorem IsBuilt.insertAll
    {profile : Profile}
    {name : String}
    (hBuilt : IsBuilt done (set.store name profile))
    (properties : List (String × String)) :
    IsBuilt
      (done ++ properties.map fun (key, value) =>
        ⟨name, key, value⟩)
      (set.store name
        (profile.insertAll properties).value) := by
  induction properties generalizing done profile with
  | nil =>
      rw [List.map_nil, List.append_nil]
      exact hBuilt
  | cons property rest ih =>
      obtain ⟨key, value⟩ := property
      have hNext := hBuilt.inserted name key value
      rw [store_insert_profileOrNew] at hNext
      have hAll := ih hNext
      rw [List.append_assoc, List.singleton_append] at hAll
      exact hAll

/- A set that is added to is built on. -/
theorem IsBuilt.addAll
    (hBuilt : IsBuilt done set)
    (profiles : List (String × List (String × String))) :
    IsBuilt (done ++ Assignment.listed profiles)
      (set.addAll profiles).value := by
  induction profiles generalizing done set with
  | nil =>
      rw [Assignment.listed, List.flatMap_nil,
        List.append_nil]
      exact hBuilt
  | cons entry rest ih =>
      obtain ⟨name, properties⟩ := entry
      have hNext := (hBuilt.opened name).insertAll properties
      have hAll := ih hNext
      rw [List.append_assoc] at hAll
      exact hAll

/- What is written from a source is written. -/
theorem IsBuiltFrom.store_insert
    {profile : Profile}
    {name key value : String}
    (hBuilt : IsBuiltFrom source (set.store name profile))
    (hSource : source ⟨name, key, value⟩) :
    IsBuiltFrom source
      (set.store name (profile.insert key value).value) := by
  rcases hBuilt with ⟨done, hDone, hAll⟩
  have hNext := hDone.inserted name key value
  rw [store_insert_profileOrNew] at hNext
  refine ⟨_, hNext, ?_⟩
  intro a hMem
  rcases List.mem_append.mp hMem with hOld | hNew
  · exact hAll a hOld
  · rw [List.mem_singleton.mp hNew]
    exact hSource

/- Of the properties of a section some are written. -/
theorem IsBuiltFrom.addProperties
    {profile : Profile}
    {name : String}
    (hBuilt : IsBuiltFrom source (set.store name profile))
    {properties : List (String × String)}
    (hSource :
      ∀ key value,
        (key, value) ∈ properties →
          source ⟨name, key, value⟩) :
    IsBuiltFrom source
      (set.store name
        (Merge.addProperties profile name
          properties).value) := by
  induction properties generalizing profile with
  | nil => exact hBuilt
  | cons property rest ih =>
      obtain ⟨key, value⟩ := property
      have hFirst : source ⟨name, key, value⟩ :=
        hSource key value (by simp)
      have hRest (other next : String)
          (hMem : (other, next) ∈ rest) :
          source ⟨name, other, next⟩ :=
        hSource other next (by simp [hMem])
      cases hValid : Text.isIdentifier key with
      | true =>
          rw [Merge.addProperties_cons_of_valid profile name
            hValid]
          exact ih (hBuilt.store_insert hFirst) hRest
      | false =>
          rw [Merge.addProperties_cons_of_invalid profile
            name hValid]
          exact ih hBuilt hRest

/- Whatever a file says, a merge takes the same steps. -/
theorem IsBuiltFrom.mergeFile
    (hBuilt : IsBuiltFrom source set)
    {sections : List (String × List (String × String))}
    (hSource :
      ∀ heading properties key value,
        (heading, properties) ∈ sections →
          (key, value) ∈ properties →
            ∀ name, source ⟨name, key, value⟩)
    (kind : FileKind) :
    IsBuiltFrom source (set.mergeFile kind sections).value := by
  apply Merge.addSections_induction
    (I := fun merge => IsBuiltFrom source merge.profiles)
  · intro heading properties hMem merge name hMerge
    rw [Merge.value_contribute]
    by_cases hName : Text.isIdentifier name = true
    · rw [if_pos hName]
      rcases hMerge with ⟨done, hDone, hAll⟩
      apply IsBuiltFrom.addProperties
        ⟨done, hDone.opened name, hAll⟩
      intro key value hProperty
      exact hSource heading properties key value hMem
        hProperty name
    · rw [if_neg hName]
      exact hMerge
  · intro merge hMerge
    rw [Merge.value_claimDefault]
    by_cases hClaimed : merge.prefixedDefault = true
    · rw [if_pos hClaimed]
      exact hMerge
    · rw [if_neg hClaimed]
      rcases hMerge with ⟨done, hDone, hAll⟩
      refine ⟨_, hDone.removed "default", ?_⟩
      intro a hMem
      exact hAll a (List.mem_of_mem_filter hMem)
  · exact hBuilt

/- A file that is parsed brings what it lists. -/
theorem IsBuiltFrom.mergeFile_of_parse
    {files : List ProfileFile}
    (hBuilt :
      IsBuiltFrom
        (fun a => ∃ file ∈ files, file.Lists a.key a.value)
        set)
    {file : ProfileFile}
    (hMem : file ∈ files)
    {sections : Sections}
    (hParse :
      Sections.parse file.path file.text = .ok sections)
    (order : Enumeration) :
    IsBuiltFrom
      (fun a => ∃ file ∈ files, file.Lists a.key a.value)
      (set.mergeFile file.kind
        (order.list file.kind sections)).value := by
  apply hBuilt.mergeFile
  intro heading properties key value hSection hProperty name
  rcases (order.isListedAs file.kind
      sections).get?_of_mem hSection with
    ⟨table, hTable, hPerm⟩
  exact
    ⟨file, hMem, sections, heading, table, hParse, hTable,
      (table.get?_eq_some_iff_mem key value).mpr
        (hPerm.mem_iff.mp hProperty)⟩

/- Profiles are loaded from what two files list. -/
theorem isBuiltFrom_of_mayLoad
    {config : Config}
    {host : Host}
    {loaded : ProfileSet}
    (hLoad : config.MayLoad host loaded) :
    ∃ files selected,
      (config.profileFiles host).outcome =
          .ok (files, selected) ∧
        IsBuiltFrom
          (fun a =>
            ∃ file ∈ files, file.Lists a.key a.value)
          loaded := by
  rcases hLoad with ⟨order, hLoaded⟩
  rcases Config.exists_ofFiles_of_loadProfilesIn hLoaded with
    ⟨files, selected, hFiles, hSet⟩
  rcases Config.eq_pair_of_profileFiles hFiles with
    ⟨configFile, credentialsFile, rfl, _, _, _⟩
  rcases eq_mergeFile_of_ofFiles_pair hSet with
    ⟨first, second, hFirst, hSecond, rfl⟩
  refine ⟨_, selected, hFiles, ?_⟩
  have hEmpty :
      IsBuiltFrom
        (fun a =>
          ∃ file ∈ [configFile, credentialsFile],
            file.Lists a.key a.value)
        (empty selected) :=
    ⟨[], .empty selected, by simp⟩
  have hConfigured :=
    hEmpty.mergeFile_of_parse (by simp) hFirst order
  exact hConfigured.mergeFile_of_parse (by simp) hSecond order

end ProfileSet

end LayeredSettings

------------------------------------------------------------
-- Maps
------------------------------------------------------------

namespace LayeredSettings

namespace ProfileSet

/- What is listed is there, and what was there before. -/
theorem isSome_profile?_addAll
    (set : ProfileSet)
    (profiles : List (String × List (String × String)))
    (name : String) :
    ((set.addAll profiles).value.profile? name).isSome ↔
      (set.profile? name).isSome ∨
        ∃ properties, (name, properties) ∈ profiles := by
  induction profiles generalizing set with
  | nil => simp [addAll]
  | cons entry rest ih =>
      obtain ⟨other, properties⟩ := entry
      have hNext :
          (set.addAll ((other, properties) :: rest)).value =
            ((set.store other
              ((set.profileOrNew other).insertAll
                properties).value).addAll rest).value := rfl
      rw [hNext, ih, profile?_store]
      by_cases hName : other = name
      · subst hName
        simp
      · simp [hName, Ne.symm hName]

theorem selected_addAll
    (set : ProfileSet)
    (profiles : List (String × List (String × String))) :
    (set.addAll profiles).value.selected =
      set.selected := by
  induction profiles generalizing set with
  | nil => rfl
  | cons entry rest ih => exact ih _

end ProfileSet

namespace Sections

variable {map : Sections}
variable {listing : List (String × List (String × String))}

/- Keys clash if they are the same in lower case. -/
theorem neverClashes_iff :
    map.NeverClashes ↔
      ∀ entry ∈ map.entries,
        (entry.2.keys.map Text.lowerCase).Nodup := by
  have hKeys (properties : Table String String) :
      (properties.keys.map Text.lowerCase).Nodup ↔
        ∀ key ∈ properties.keys,
          ∀ other ∈ properties.keys,
            Text.lowerCase key = Text.lowerCase other →
              key = other :=
    List.nodup_map_iff_inj_on properties.nodup_keys
  unfold NeverClashes
  simp only [hKeys, Text.isCaseVariant_iff]
  constructor
  · rintro hClash ⟨name, properties⟩ hMem key hKey other
      hOther
    exact hClash name properties key other
      ((map.get?_eq_some_iff_mem name properties).mpr hMem)
      hKey hOther
  · intro hNodup name properties key other hTable hKey hOther
    exact hNodup (name, properties)
      ((map.get?_eq_some_iff_mem name properties).mp hTable)
      key hKey other hOther

instance (map : Sections) : Decidable map.NeverClashes :=
  decidable_of_iff' _ neverClashes_iff

/- What a listing writes is what the map has. -/
theorem IsListedAs.mem_listed_iff
    (hListing : map.IsListedAs listing)
    {a : Assignment} :
    a ∈ Assignment.listed listing ↔
      ∃ properties,
        map.get? a.profile = some properties ∧
          properties.get? a.key = some a.value := by
  unfold Assignment.listed
  rw [List.mem_flatMap]
  constructor
  · rintro ⟨⟨name, properties⟩, hMem, hWritten⟩
    rcases List.mem_map.mp hWritten with
      ⟨⟨key, value⟩, hProperty, rfl⟩
    rcases hListing.get?_of_mem hMem with
      ⟨table, hTable, hPerm⟩
    exact ⟨table, hTable,
      (table.get?_eq_some_iff_mem key value).mpr
        (hPerm.mem_iff.mp hProperty)⟩
  · rintro ⟨table, hTable, hValue⟩
    rcases hListing.mem_of_get? hTable with
      ⟨properties, hMem, hPerm⟩
    have hProperty : (a.key, a.value) ∈ properties :=
      hPerm.mem_iff.mpr
        ((table.get?_eq_some_iff_mem a.key a.value).mp
          hValue)
    exact ⟨(a.profile, properties), hMem,
      List.mem_map.mpr ⟨(a.key, a.value), hProperty, rfl⟩⟩

/- Without a clash a key is written once at most. -/
theorem NeverClashes.value_eq
    (hClash : map.NeverClashes)
    (hListing : map.IsListedAs listing)
    {name key : String}
    {a b : Assignment}
    (hFirst : a ∈ Assignment.listed listing)
    (hAt : a.IsAt name key)
    (hSecond : b ∈ Assignment.listed listing)
    (hOther : b.IsAt name key) :
    a.value = b.value := by
  rcases hListing.mem_listed_iff.mp hFirst with
    ⟨properties, hTable, hValue⟩
  rcases hListing.mem_listed_iff.mp hSecond with
    ⟨others, hOthers, hOtherValue⟩
  rw [hAt.1] at hTable
  rw [hOther.1, hTable] at hOthers
  cases hOthers
  have hVariant : Text.IsCaseVariant a.key b.key := by
    rw [Text.isCaseVariant_iff,
      Text.isCaseVariant_iff.mp hAt.2,
      Text.isCaseVariant_iff.mp hOther.2]
  have hKey : a.key = b.key :=
    hClash name properties a.key b.key hTable
      ((properties.mem_keys_iff a.key).mpr (by simp [hValue]))
      ((properties.mem_keys_iff b.key).mpr
        (by simp [hOtherValue]))
      hVariant
  rw [hKey, hOtherValue] at hValue
  exact (Option.some.inj hValue).symm

end Sections

namespace ProfileSet

variable {map : Sections}
variable {listing : List (String × List (String × String))}

/- What lists build is built of what they write. -/
theorem isBuilt_ofLists
    (profiles : List (String × List (String × String)))
    (selected : String) :
    IsBuilt (Assignment.listed profiles)
      (ofLists profiles selected).value :=
  (IsBuilt.empty selected).addAll profiles

/- A value is found if a variant of its key is in the map. -/
theorem valueAt_ofLists_eq_some_iff
    (hListing : map.IsListedAs listing)
    (hClash : map.NeverClashes)
    {selected name key value : String} :
    (ofLists listing selected).value.valueAt name key =
        some value ↔
      ∃ properties written,
        map.get? name = some properties ∧
          properties.get? written = some value ∧
            Text.IsCaseVariant written key := by
  rw [(isBuilt_ofLists listing selected).valueAt_eq_some_iff,
    Grammar.since_iff_exists_mem]
  · constructor
    · rintro ⟨a, hMem, ⟨rfl, hVariant⟩, rfl⟩
      rcases hListing.mem_listed_iff.mp hMem with
        ⟨properties, hTable, hValue⟩
      exact ⟨properties, a.key, hTable, hValue, hVariant⟩
    · rintro ⟨properties, written, hTable, hValue, hVariant⟩
      exact ⟨⟨name, written, value⟩,
        hListing.mem_listed_iff.mpr
          ⟨properties, hTable, hValue⟩,
        ⟨rfl, hVariant⟩, rfl⟩
  · rintro a hFirst ⟨hAt, rfl⟩ b hSecond hOther
    exact ⟨hOther,
      hClash.value_eq hListing hSecond hOther hFirst hAt⟩

/- A map without a clash is stored as it is. -/
theorem isMadeOf_ofLists
    (hListing : map.IsListedAs listing)
    (hClash : map.NeverClashes)
    (selected : String) :
    IsMadeOf map selected
      (ofLists listing selected).value := by
  have hExists (name : String) :
      ((ofLists listing selected).value.profile?
          name).isSome ↔
        name ∈ map.keys := by
    unfold ofLists
    rw [isSome_profile?_addAll,
      hListing.mem_keys_iff name]
    simp
  refine ⟨hExists, ?_, ?_, ?_⟩
  · intro name properties key value hTable hValue
    have hFound :
        (ofLists listing selected).value.valueAt name key =
          some value :=
      (valueAt_ofLists_eq_some_iff hListing hClash).mpr
        ⟨properties, key, hTable, hValue,
          Text.isCaseVariant_iff.mpr rfl⟩
    exact Option.bind_eq_some_iff.mp hFound
  · intro name profile key value hStored
    rw [← valueAt_ofLists_eq_some_iff hListing hClash,
      valueAt, hStored]
    rfl
  · intro key
    have hSelected :
        (ofLists listing selected).value.selected =
          selected :=
      selected_addAll (empty selected) listing
    unfold get
    rw [hSelected]
    rfl

end ProfileSet

end LayeredSettings

------------------------------------------------------------
-- Letter Case
------------------------------------------------------------

namespace LayeredSettings

namespace ProfileSet

/-
  Sets that are built step by step answer in any letter
  case, and so do sets that are merged, listed or loaded, in
  whichever order a load goes through the sections.  A map in
  which no keys clash is stored as it is, however it is
  listed.
-/
theorem built_isCaseBlind :
    (∀ done set,
      IsBuilt done set → IsCaseBlind done set) ∧
    (∀ done set kind sections,
      IsBuilt done set →
        ∃ later,
          IsBuilt later
            (set.mergeFile kind sections).value) ∧
    (∀ profiles selected,
      IsBuilt (Assignment.listed profiles)
        (ofLists profiles selected).value) ∧
    (∀ (config : Config) (host : Host) loaded,
      config.MayLoad host loaded →
        ∃ files selected,
          (config.profileFiles host).outcome =
              .ok (files, selected) ∧
            IsBuiltFrom
              (fun a =>
                ∃ file ∈ files, file.Lists a.key a.value)
              loaded) ∧
    ∀ (map : Sections) listing selected,
      map.IsListedAs listing →
        map.NeverClashes →
          IsMadeOf map selected
            (ofLists listing selected).value := by
  refine
    ⟨fun done set hBuilt => hBuilt.isCaseBlind, ?_,
      isBuilt_ofLists, ?_, ?_⟩
  · intro done set kind sections hBuilt
    have hFrom : IsBuiltFrom (fun _ => True) set :=
      ⟨done, hBuilt, fun _ _ => trivial⟩
    rcases hFrom.mergeFile (fun _ _ _ _ _ _ _ => trivial)
        kind with
      ⟨later, hLater, -⟩
    exact ⟨later, hLater⟩
  · intro config host loaded hLoad
    exact isBuiltFrom_of_mayLoad hLoad
  · intro map listing selected hListing hClash
    exact isMadeOf_ofLists hListing hClash selected

/- A config file with a key in mixed case. -/
def mixedFile : Config :=
  { Config.empty with
    files := .memory
      (Table.ofList
        [ ( Utf8.encode ".aws/config",
            Utf8.encode "[default]\nRegion = one\n" ) ]) }

/- The profiles of the file. -/
def mixedProfiles : ProfileSet where
  profiles := Table.ofList
    [ ( "default",
        ⟨"default", Table.ofList
          [("region", ⟨"region", "one"⟩)]⟩ ) ]
  selected := "default"

/- Two profiles of which the names differ in case only. -/
def mixedMap : Sections :=
  Table.ofList
    [ ("dev", Table.ofList [("Region", "one"), ("b", "two")]),
      ("Dev", Table.ofList [("region", "three")]) ]

/-
  A key is found in a case that neither the file nor the map
  has, and the names of profiles are told apart by case.
-/
theorem built_isCaseBlind_mixed :
    ((mixedFile.loadProfiles Host.initial).outcome =
        .ok mixedProfiles ∧
      mixedProfiles.get "rEGION" =
        mixedProfiles.get "region") ∧
    mixedMap.NeverClashes ∧
    (∃ profile,
      (ofLists mixedMap.toLists "dev").value.profile?
          "dev" = some profile ∧
        profile.get "Region" = some "one") ∧
    ∃ later,
      IsBuilt later
        ((ofLists mixedMap.toLists "dev").value.mergeFile
          .credentials [("Dev", [("B", "four")])]).value := by
  rcases built_isCaseBlind with
    ⟨hBlind, hMerged, hListed, hLoads, hMade⟩
  have hLoaded :
      (mixedFile.loadProfiles Host.initial).outcome =
        .ok mixedProfiles := by
    cbv
  have hClash : mixedMap.NeverClashes := by decide
  refine ⟨⟨hLoaded, ?_⟩, hClash, ?_, ?_⟩
  · rcases hLoads mixedFile Host.initial mixedProfiles
        ⟨.written, hLoaded⟩ with
      ⟨files, selected, -, done, hBuilt, -⟩
    apply (hBlind done mixedProfiles hBuilt).get_eq
    exact Text.isCaseVariant_iff.mpr (by decide)
  · have hIs :=
      hMade mixedMap mixedMap.toLists "dev"
        (Sections.isListedAs_toLists mixedMap) hClash
    exact
      hIs.get_eq "dev"
        (Table.ofList [("Region", "one"), ("b", "two")])
        "Region" "one" rfl rfl
  · exact hMerged _ _ .credentials [("Dev", [("B", "four")])]
      (hListed mixedMap.toLists "dev")

end ProfileSet

end LayeredSettings
