import LayeredSettings.Proofs.Profile.Layering

/-
  No load of profiles reports a value of a property.

  Key definitions include:
    * `Logged.Alike`, `Attempt.Alike`
    * `ProfileSet.SameKeys`
    * `Sections.outline`
    * `Storage.DiffersInValuesAt`
    * `ProfileFile.ListedAlike`
    * `Config.MayReport`

  Key theorems include:
    * `Logged.Alike.bind`, `Attempt.Alike.bind`
    * `Profile.insert_alike`
    * `Merge.addSections_alike`
    * `Sections.exists_listing_of_outline_eq`
    * `ProfileFile.read_alike`
    * `Config.loadFrom_reports_no_values`

  Two loads are compared step by step.  They report the same
  events and have profiles with the same keys, and a step
  that is taken on such profiles is alike again.  So a step
  needs one lemma, and what is composed of steps none of its
  own idea.

  Each load goes through the sections in an order of its own.
  Loads in which headings and keys come alike report alike,
  and to each order of the one load there is such an order
  of the other.
-/

------------------------------------------------------------
-- Computations That Are Alike
------------------------------------------------------------

namespace LayeredSettings

namespace Logged

variable {α β γ δ : Type}
variable {R : α → β → Prop}
variable {S : γ → δ → Prop}
variable {x : Logged α}
variable {y : Logged β}

/- The same events are reported, and values are related. -/
structure Alike
    (R : α → β → Prop)
    (x : Logged α)
    (y : Logged β) : Prop where
  events_eq : x.events = y.events
  related : R x.value y.value

theorem Alike.refl
    (x : Logged α) :
    Alike Eq x x :=
  ⟨rfl, rfl⟩

theorem Alike.pure
    {a : α}
    {b : β}
    (hRelated : R a b) :
    Alike R (Pure.pure a) (Pure.pure b) :=
  ⟨rfl, hRelated⟩

/- The values may be kept in mind. -/
theorem Alike.withValues
    (hAlike : Alike R x y) :
    Alike (fun a b => R a b ∧ a = x.value ∧ b = y.value)
      x y :=
  ⟨hAlike.events_eq, hAlike.related, rfl, rfl⟩

/- What goes on alike from related values is alike. -/
theorem Alike.bind
    (hFirst : Alike R x y)
    {f : α → Logged γ}
    {g : β → Logged δ}
    (hNext : ∀ a b, R a b → Alike S (f a) (g b)) :
    Alike S (x >>= f) (y >>= g) := by
  have hLast := hNext x.value y.value hFirst.related
  constructor
  · rw [events_bind, events_bind, hFirst.events_eq,
      hLast.events_eq]
  · exact hLast.related

/- The same event may come first. -/
theorem Alike.emit_bind
    (e : Event)
    {f : Unit → Logged γ}
    {g : Unit → Logged δ}
    (hNext : Alike S (f ()) (g ())) :
    Alike S (emit e >>= f) (emit e >>= g) :=
  (Alike.refl (emit e)).bind fun _ _ _ => hNext

end Logged

namespace Attempt

variable {ε ζ α β γ δ : Type}
variable {R : α → β → Prop}
variable {S : γ → δ → Prop}

/- Related values, or the same error. -/
inductive Agree
    (R : α → β → Prop) :
    Except ε α → Except ε β → Prop where
  | ok {a : α} {b : β} :
      R a b → Agree R (.ok a) (.ok b)
  | error (e : ε) :
      Agree R (.error e) (.error e)

/- Attempts with the same events that come to the same. -/
def Alike
    (R : α → β → Prop)
    (x : Attempt ε α)
    (y : Attempt ε β) : Prop :=
  Logged.Alike (Agree R) x.run y.run

/- An attempt is like itself, with what it comes to. -/
theorem Alike.of_outcome
    {x : Attempt ε α}
    {P : α → Prop}
    (hOutcome : ∀ a, outcome x = .ok a → P a) :
    Alike (fun a b => a = b ∧ P a) x x := by
  constructor
  · rfl
  · unfold outcome at hOutcome
    cases hValue : x.run.value with
    | ok a => exact .ok ⟨rfl, hOutcome a hValue⟩
    | error e => exact .error e

theorem Alike.pure
    {a : α}
    {b : β}
    (hRelated : R a b) :
    Alike R (Pure.pure a : Attempt ε α) (Pure.pure b) :=
  Logged.Alike.pure (.ok hRelated)

theorem Alike.throw
    (e : ε) :
    Alike R (throw e : Attempt ε α) (throw e) :=
  Logged.Alike.pure (.error e)

theorem Alike.lift
    {x : Logged α}
    {y : Logged β}
    (hAlike : Logged.Alike R x y) :
    Alike R (liftM x : Attempt ε α) (liftM y) :=
  hAlike.bind fun _ _ hRelated =>
    Logged.Alike.pure (.ok hRelated)

/- Attempts are alike if what they are made of is. -/
theorem Alike.bind
    {x : Attempt ε α}
    {y : Attempt ε β}
    (hFirst : Alike R x y)
    {f : α → Attempt ε γ}
    {g : β → Attempt ε δ}
    (hNext : ∀ a b, R a b → Alike S (f a) (g b)) :
    Alike S (x >>= f) (y >>= g) := by
  apply Logged.Alike.bind hFirst
  intro first second hAgree
  cases hAgree with
  | ok hRelated => exact hNext _ _ hRelated
  | error e => exact Logged.Alike.pure (.error e)

/- A change of the errors keeps attempts alike. -/
theorem Alike.adapt
    {x : Attempt ε α}
    {y : Attempt ε β}
    (hAlike : Alike R x y)
    (f : ε → ζ) :
    Alike R (x.adapt f) (y.adapt f) := by
  apply Logged.Alike.bind hAlike
  intro first second hAgree
  cases hAgree with
  | ok hRelated => exact Logged.Alike.pure (.ok hRelated)
  | error e => exact Logged.Alike.pure (.error (f e))

end Attempt

end LayeredSettings

------------------------------------------------------------
-- Profiles With the Same Keys
------------------------------------------------------------

namespace LayeredSettings

open Logged

/- Profiles with the same name and the same keys. -/
structure Profile.SameKeys
    (profile other : Profile) : Prop where
  name_eq : profile.name = other.name
  contains_eq :
    ∀ key,
      profile.properties.contains key =
        other.properties.contains key

/- Sets of profiles with the same names and keys. -/
structure ProfileSet.SameKeys
    (set other : ProfileSet) : Prop where
  selected_eq : set.selected = other.selected
  profile_rel :
    ∀ name,
      Option.Rel Profile.SameKeys (set.profile? name)
        (other.profile? name)

/- Merges of such sets, which claimed the default or not. -/
structure Merge.SameKeys
    (merge other : Merge) : Prop where
  profiles : merge.profiles.SameKeys other.profiles
  prefixedDefault_eq :
    merge.prefixedDefault = other.prefixedDefault

/- An insertion reports the key, whatever the values are. -/
theorem Profile.insert_alike
    {profile other : Profile}
    (hSame : profile.SameKeys other)
    (key value given : String) :
    Alike SameKeys (profile.insert key value)
      (other.insert key given) := by
  constructor
  · rw [events_insert, events_insert, hSame.contains_eq,
      hSame.name_eq]
  · rw [value_insert, value_insert]
    constructor
    · exact hSame.name_eq
    · intro found
      have hFound := hSame.contains_eq found
      unfold Table.contains at hFound ⊢
      rw [Table.get?_insert, Table.get?_insert]
      by_cases hKey : Text.lowerCase key = found
      · simp [hKey]
      · simpa [hKey] using hFound

namespace ProfileSet

variable {set other : ProfileSet}

theorem SameKeys.refl_empty
    (selected : String) :
    (empty selected).SameKeys (empty selected) :=
  ⟨rfl, fun _ => .none⟩

theorem SameKeys.isSome_eq
    (hSame : set.SameKeys other)
    (name : String) :
    (set.profile? name).isSome =
      (other.profile? name).isSome := by
  have hRel := hSame.profile_rel name
  generalize set.profile? name = profile at hRel ⊢
  generalize other.profile? name = found at hRel ⊢
  cases hRel with
  | some _ => rfl
  | none => rfl

theorem SameKeys.profileOrNew
    (hSame : set.SameKeys other)
    (name : String) :
    (set.profileOrNew name).SameKeys
      (other.profileOrNew name) := by
  have hRel := hSame.profile_rel name
  unfold ProfileSet.profileOrNew
  generalize set.profile? name = profile at hRel ⊢
  generalize other.profile? name = found at hRel ⊢
  cases hRel with
  | some hProfile => exact hProfile
  | none => exact ⟨rfl, fun _ => rfl⟩

theorem SameKeys.store
    (hSame : set.SameKeys other)
    {profile found : Profile}
    (hProfile : profile.SameKeys found)
    (name : String) :
    (set.store name profile).SameKeys
      (other.store name found) := by
  constructor
  · exact hSame.selected_eq
  · intro sought
    rw [profile?_store, profile?_store]
    by_cases hName : name = sought
    · rw [if_pos hName, if_pos hName]
      exact .some hProfile
    · rw [if_neg hName, if_neg hName]
      exact hSame.profile_rel sought

theorem SameKeys.remove
    (hSame : set.SameKeys other)
    (name : String) :
    (set.remove name).SameKeys (other.remove name) := by
  constructor
  · exact hSame.selected_eq
  · intro sought
    rw [profile?_remove, profile?_remove]
    by_cases hName : name = sought
    · rw [if_pos hName, if_pos hName]
      exact .none
    · rw [if_neg hName, if_neg hName]
      exact hSame.profile_rel sought

end ProfileSet

end LayeredSettings

------------------------------------------------------------
-- Merges of the Same Keys
------------------------------------------------------------

namespace LayeredSettings

open Logged

/- The headings of a listing and the keys below, in order. -/
def Sections.outline
    (listing : List (String × List (String × String))) :
    List (String × List String) :=
  listing.map fun entry => (entry.1, entry.2.map Prod.fst)

namespace Merge

variable {merge other : Merge}

/- Properties of the same keys are added alike. -/
theorem addProperties_alike
    {profile found : Profile}
    (hSame : profile.SameKeys found)
    (name : String)
    {properties given : List (String × String)}
    (hKeys : properties.map Prod.fst = given.map Prod.fst) :
    Alike Profile.SameKeys
      (addProperties profile name properties)
      (addProperties found name given) := by
  induction properties generalizing profile found given with
  | nil =>
      cases given with
      | nil => exact .pure hSame
      | cons property rest => cases hKeys
  | cons property rest ih =>
      cases given with
      | nil => cases hKeys
      | cons next others =>
          obtain ⟨written, value⟩ := property
          obtain ⟨key, text⟩ := next
          rw [List.map_cons, List.map_cons,
            List.cons.injEq] at hKeys
          rcases hKeys with ⟨rfl, hRest⟩
          unfold addProperties
          by_cases hValid : Text.isIdentifier written = true
          · simp only [hValid, if_true]
            apply (Profile.insert_alike hSame written value
              text).bind
            intro inserted put hInserted
            exact ih hInserted hRest
          · simp only [if_neg hValid]
            exact .emit_bind _ (ih hSame hRest)

/- So they are to the profile that a section adds to. -/
theorem contribute_alike
    (hSame : merge.SameKeys other)
    (name : String)
    {properties given : List (String × String)}
    (hKeys : properties.map Prod.fst = given.map Prod.fst) :
    Alike SameKeys (merge.contribute name properties)
      (other.contribute name given) := by
  unfold contribute
  by_cases hName : Text.isIdentifier name = true
  · simp only [hName, if_true]
    apply (addProperties_alike
      (hSame.profiles.profileOrNew name) name hKeys).bind
    intro profile found hProfile
    exact .pure
      ⟨hSame.profiles.store hProfile name,
        hSame.prefixedDefault_eq⟩
  · simp only [if_neg hName]
    exact .emit_bind _ (.pure hSame)

/- The default profile is claimed alike. -/
theorem claimDefault_alike
    (hSame : merge.SameKeys other) :
    Alike SameKeys merge.claimDefault other.claimDefault := by
  have hRemoved :
      SameKeys ⟨merge.profiles.remove "default", true⟩
        ⟨other.profiles.remove "default", true⟩ :=
    ⟨hSame.profiles.remove "default", rfl⟩
  unfold claimDefault
  rw [hSame.prefixedDefault_eq,
    hSame.profiles.isSome_eq "default"]
  by_cases hClaimed : other.prefixedDefault = true
  · simp only [hClaimed, if_true]
    exact .pure hSame
  · simp only [if_neg hClaimed]
    by_cases hOld :
        (other.profiles.profile? "default").isSome = true
    · simp only [hOld, if_true]
      exact .emit_bind _ (.pure hRemoved)
    · simp only [if_neg hOld]
      exact .pure hRemoved

/- Sections of the same keys are merged alike. -/
theorem addSection_alike
    (hSame : merge.SameKeys other)
    (kind : FileKind)
    (heading : String)
    {properties given : List (String × String)}
    (hKeys : properties.map Prod.fst = given.map Prod.fst) :
    Alike SameKeys (merge.addSection kind heading properties)
      (other.addSection kind heading given) := by
  unfold addSection
  cases Designation.of kind heading with
  | named name => exact contribute_alike hSame name hKeys
  | bareDefault =>
      rw [hSame.prefixedDefault_eq]
      by_cases hClaimed : other.prefixedDefault = true
      · simp only [hClaimed, if_true]
        exact .emit_bind _ (.pure hSame)
      · simp only [if_neg hClaimed]
        exact contribute_alike hSame "default" hKeys
  | prefixedDefault =>
      apply (claimDefault_alike hSame).bind
      intro claimed next hClaimed
      exact contribute_alike hClaimed "default" hKeys
  | nothing => exact .emit_bind _ (.pure hSame)

/- So are all sections of files with one outline. -/
theorem addSections_alike
    (hSame : merge.SameKeys other)
    (kind : FileKind)
    {listing given : List (String × List (String × String))}
    (hOutline :
      Sections.outline listing = Sections.outline given) :
    Alike SameKeys (addSections kind merge listing)
      (addSections kind other given) := by
  induction listing generalizing merge other given with
  | nil =>
      cases given with
      | nil => exact .pure hSame
      | cons entry rest => cases hOutline
  | cons entry rest ih =>
      cases given with
      | nil => cases hOutline
      | cons next others =>
          obtain ⟨heading, properties⟩ := entry
          obtain ⟨title, texts⟩ := next
          unfold Sections.outline at hOutline
          rw [List.map_cons, List.map_cons, List.cons.injEq,
            Prod.mk.injEq] at hOutline
          rcases hOutline with ⟨⟨rfl, hKeys⟩, hRest⟩
          apply (addSection_alike hSame kind heading
            hKeys).bind
          intro merged found hMerged
          exact ih hMerged hRest

end Merge

/- Files with one outline are merged alike, in any order. -/
theorem ProfileSet.mergeFile_alike
    {set other : ProfileSet}
    (hSame : set.SameKeys other)
    (kind : FileKind)
    {listing given : List (String × List (String × String))}
    (hOutline :
      Sections.outline listing = Sections.outline given) :
    Alike SameKeys (set.mergeFile kind listing)
      (other.mergeFile kind given) := by
  have hStart :
      Merge.SameKeys ⟨set, false⟩ ⟨other, false⟩ :=
    ⟨hSame, rfl⟩
  apply (Merge.addSections_alike hStart kind hOutline).bind
  intro merged next hMerged
  exact .pure hMerged.profiles

end LayeredSettings

------------------------------------------------------------
-- Listings With One Outline
------------------------------------------------------------

namespace LayeredSettings

namespace Sections

/- A list is reordered as one with the same images is. -/
theorem exists_perm_map_eq
    {α β γ : Type}
    {f : α → γ}
    {g : β → γ}
    {listed first : List α}
    {second : List β}
    (hPerm : listed.Perm first)
    (hSame : first.map f = second.map g) :
    ∃ given : List β,
      given.Perm second ∧ listed.map f = given.map g := by
  have hImages :
      List.Forall₂ (fun a b => f a = g b) first second := by
    rwa [← List.forall₂_eq_eq_eq, List.forall₂_map_left_iff,
      List.forall₂_map_right_iff] at hSame
  rcases List.perm_comp_forall₂ hPerm hImages with
    ⟨given, hListed, hGiven⟩
  refine ⟨given, hGiven, ?_⟩
  rwa [← List.forall₂_eq_eq_eq, List.forall₂_map_left_iff,
    List.forall₂_map_right_iff]

/- Sections of the same keys can be listed alike. -/
theorem exists_isListedSection
    {listing : List (String × List (String × String))}
    {entries others : List (String × Table String String)}
    (hListed :
      List.Forall₂ IsListedSection listing entries)
    (hKeys :
      entries.map (fun e => (e.1, e.2.keys)) =
        others.map fun e => (e.1, e.2.keys)) :
    ∃ given,
      List.Forall₂ IsListedSection given others ∧
        outline listing = outline given := by
  induction hListed generalizing others with
  | nil =>
      cases others with
      | nil => exact ⟨[], .nil, rfl⟩
      | cons entry rest => cases hKeys
  | @cons listed entry _ _ hSection _ ih =>
      cases others with
      | nil => cases hKeys
      | cons other rest =>
          rw [List.map_cons, List.map_cons, List.cons.injEq,
            Prod.mk.injEq] at hKeys
          rcases hKeys with ⟨⟨hHeading, hFirst⟩, hRest⟩
          rcases ih hRest with ⟨given, hGiven, hOutline⟩
          rcases exists_perm_map_eq hSection.2 hFirst with
            ⟨properties, hPerm, hNames⟩
          refine
            ⟨(other.1, properties) :: given,
              .cons ⟨rfl, hPerm⟩ hGiven, ?_⟩
          unfold outline at hOutline ⊢
          rw [List.map_cons, List.map_cons, hSection.1,
            hHeading, hNames, hOutline]

/- So can be whole files, in each order of the one. -/
theorem exists_listing_of_outline_eq
    {sections found : Sections}
    (hOutline :
      outline sections.toLists = outline found.toLists)
    {listing : List (String × List (String × String))}
    (hListing : sections.IsListedAs listing) :
    ∃ given,
      found.IsListedAs given ∧
        outline listing = outline given := by
  rcases hListing with ⟨entries, hPerm, hListed⟩
  unfold outline toLists at hOutline
  rw [List.map_map, List.map_map] at hOutline
  rcases exists_perm_map_eq hPerm hOutline with
    ⟨others, hOthers, hKeys⟩
  rcases exists_isListedSection hListed hKeys with
    ⟨given, hGiven, hSame⟩
  exact ⟨given, ⟨others, hOthers, hGiven⟩, hSame⟩

end Sections

end LayeredSettings

------------------------------------------------------------
-- Loads That Differ in Values
------------------------------------------------------------

namespace LayeredSettings

open Sections

/- Texts of one size that are parsed to one outline. -/
structure Sections.DifferInValues
    (place text other : String) : Prop where
  size_eq :
    (Utf8.encode text).length = (Utf8.encode other).length
  outline_eq :
    ∃ sections found,
      parse place text = .ok sections ∧
        parse place other = .ok found ∧
          outline sections.toLists = outline found.toLists

/- Read the file at a place of a storage. -/
def Storage.read
    (storage : Storage)
    (place : String) : Except ReadError Bytes :=
  storage.files.read storage.disk (Utf8.encode place)

/-
  Two storages of which the files at a place are the same, or
  are texts that differ in the values of properties alone.
-/
def Storage.DiffersInValuesAt
    (storage other : Storage)
    (place : String) : Prop :=
  storage.read place = other.read place ∨
    ∃ text found,
      storage.read place = .ok (Utf8.encode text) ∧
        other.read place = .ok (Utf8.encode found) ∧
          DifferInValues place text found

/- That two texts differ in values goes both ways. -/
theorem Sections.DifferInValues.symm
    {place text other : String}
    (hDiffer : DifferInValues place text other) :
    DifferInValues place other text := by
  rcases hDiffer.outline_eq with
    ⟨sections, found, hSections, hFound, hOutline⟩
  exact
    ⟨hDiffer.size_eq.symm, found, sections, hFound, hSections,
      hOutline.symm⟩

/- So it does for the files of two storages. -/
theorem Storage.DiffersInValuesAt.symm
    {storage other : Storage}
    {place : String}
    (hDiffer : storage.DiffersInValuesAt other place) :
    other.DiffersInValuesAt storage place := by
  rcases hDiffer with
    hSame | ⟨text, found, hText, hFound, hValues⟩
  · exact Or.inl hSame.symm
  · exact Or.inr ⟨found, text, hFound, hText, hValues.symm⟩

/- What is reported on the way to an outcome. -/
def Attempt.events
    {ε α : Type}
    (x : Attempt ε α) : List Event :=
  x.run.events

/- Files of one kind and place that differ in values. -/
structure ProfileFile.DiffersInValues
    (file other : ProfileFile) : Prop where
  kind_eq : file.kind = other.kind
  path_eq : file.path = other.path
  text_eq_or :
    file.text = other.text ∨
      DifferInValues file.path file.text other.text

/- Orders in which the sections of files come alike. -/
def ProfileFile.ListedAlike
    (left right : Enumeration)
    (file other : ProfileFile) : Prop :=
  ListedBy
    (fun listing given => outline listing = outline given)
    left right file other

/- Parsed files that differ in values have one outline. -/
theorem ProfileFile.DiffersInValues.outline_eq
    {file other : ProfileFile}
    (hDiffer : file.DiffersInValues other)
    {sections found : Sections}
    (hSections : parse file.path file.text = .ok sections)
    (hFound : parse other.path other.text = .ok found) :
    outline sections.toLists = outline found.toLists := by
  rw [← hDiffer.path_eq] at hFound
  rcases hDiffer.text_eq_or with hText | hValues
  · rw [← hText, hSections] at hFound
    rw [Except.ok.inj hFound]
  · rcases hValues.outline_eq with
      ⟨first, second, hFirst, hSecond, hOutline⟩
    rw [hSections] at hFirst
    rw [hFound] at hSecond
    cases hFirst
    cases hSecond
    exact hOutline

/- In the order of the files they come alike. -/
theorem ProfileFile.DiffersInValues.listedAlike_written
    {file other : ProfileFile}
    (hDiffer : file.DiffersInValues other) :
    ListedAlike .written .written file other :=
  fun _ _ => hDiffer.outline_eq

/-
  To the order of the one file there is a listing of the
  other one in which headings and keys come alike.
-/
theorem ProfileFile.DiffersInValues.exists_listing
    {file other : ProfileFile}
    (hDiffer : file.DiffersInValues other)
    (left : Enumeration) :
    ∃ found : Sections, ∃ given,
      found.IsListedAs given ∧
        ∀ right : Enumeration,
          right.list other.kind found = given →
            ListedAlike left right file other := by
  apply exists_listedBy
  intro sections found listing hSections hFound hListing
  exact
    exists_listing_of_outline_eq
      (hDiffer.outline_eq hSections hFound) hListing

/- The size that is reported is that of the encoded text. -/
theorem Utf8.length_encode
    (s : String) :
    (encode s).length = s.utf8ByteSize := by
  have hBytes :
      s.toByteArray = (encode s).toByteArray := by
    conv_lhs => rw [← String.ofList_toList (s := s)]
    rw [String.toByteArray_ofList]
    rfl
  rw [← String.size_toByteArray, hBytes,
    List.size_toByteArray]

namespace ProfileFile

variable {config : Config}
variable {host : Host}
variable {storage other : Storage}

/- Texts that are the same or differ in values alone. -/
def TextsAlike
    (place text found : String) : Prop :=
  text = found ∨ DifferInValues place text found

/- The size of a text is no matter of its values. -/
theorem TextsAlike.size_eq
    {place text found : String}
    (hAlike : TextsAlike place text found) :
    text.utf8ByteSize = found.utf8ByteSize := by
  rcases hAlike with rfl | hDiffer
  · rfl
  · rw [← Utf8.length_encode, ← Utf8.length_encode,
      hDiffer.size_eq]

/- A file of text is decoded without an event. -/
theorem decoded_encode
    (path text : String) :
    decoded path (Utf8.encode text) = pure text := by
  unfold decoded
  rw [Utf8.decode_encode]

/- The texts of files that differ in values are read alike. -/
theorem text_alike
    (kind : FileKind)
    (path : String)
    {place : String}
    (hFiles : storage.DiffersInValuesAt other place) :
    Logged.Alike (TextsAlike place)
      (bytes { config with files := storage.files }
          { host with disk := storage.disk } kind path
          place >>= decoded path)
      (bytes { config with files := other.files }
          { host with disk := other.disk } kind path
          place >>= decoded path) := by
  have hRead (storage : Storage) :
      Config.fileAt { config with files := storage.files }
          { host with disk := storage.disk }
          (Utf8.encode place) =
        storage.read place := rfl
  unfold bytes
  rw [hRead, hRead]
  rcases hFiles with
    hSame | ⟨text, found, hText, hFound, hDiffer⟩
  -- whatever is reported of one file is of the other
  · rw [hSame]
    exact ⟨rfl, Or.inl rfl⟩
  · rw [hText, hFound]
    simp only [pure_bind, decoded_encode]
    exact .pure (Or.inr hDiffer)

/- So are the files, with their kinds and places. -/
theorem read_alike
    (kind : FileKind)
    (path : String)
    (hFiles :
      storage.DiffersInValuesAt other
        (config.placeOf host path)) :
    Logged.Alike DiffersInValues
      (read { config with files := storage.files }
        { host with disk := storage.disk } kind path)
      (read { config with files := other.files }
        { host with disk := other.disk } kind path) := by
  have hExpand :
      Logged.Alike
        (fun first second =>
          first = config.placeOf host path ∧
            second = config.placeOf host path)
        (HomePath.expand (config.source host) path)
        (HomePath.expand (config.source host) path) :=
    ⟨rfl, rfl, rfl⟩
  unfold read
  apply Logged.Alike.emit_bind
  apply hExpand.bind
  rintro first second ⟨rfl, rfl⟩
  apply Logged.Alike.emit_bind
  rw [← bind_assoc, ← bind_assoc]
  apply (text_alike kind path hFiles).bind
  intro text found hTexts
  rw [hTexts.size_eq]
  exact .emit_bind _ (.pure ⟨rfl, rfl, hTexts⟩)

end ProfileFile

namespace ProfileSet

open ProfileFile

variable {set other : ProfileSet}

variable {left right : Enumeration}

/- A file is added alike, whatever its values are. -/
theorem addFile_alike
    (hSame : set.SameKeys other)
    {file next : ProfileFile}
    (hFile : file.DiffersInValues next)
    (hOrders : ListedAlike left right file next) :
    Attempt.Alike SameKeys (set.addFile left file)
      (other.addFile right next) := by
  unfold ListedAlike ListedBy at hOrders
  unfold addFile
  rw [← hFile.path_eq, ← hFile.kind_eq] at hOrders ⊢
  apply (Attempt.Alike.lift (.refl _)).bind
  intro _ _ _
  rcases hFile.text_eq_or with hText | hDiffer
  · rw [← hText] at hOrders ⊢
    cases hParse : parse file.path file.text with
    | error error => exact .throw _
    | ok sections =>
        exact
          .lift (mergeFile_alike hSame file.kind
            (hOrders _ _ hParse hParse))
  · rcases hDiffer.outline_eq with
      ⟨sections, found, hSections, hFound, _⟩
    rw [hSections, hFound]
    exact
      .lift (mergeFile_alike hSame file.kind
        (hOrders _ _ hSections hFound))

/- So are files, one after the other. -/
theorem addFiles_alike
    (hSame : set.SameKeys other)
    {files others : List ProfileFile}
    (hFiles :
      List.Forall₂
        (fun file next =>
          file.DiffersInValues next ∧
            ListedAlike left right file next)
        files others) :
    Attempt.Alike SameKeys (set.addFiles left files)
      (other.addFiles right others) := by
  induction hFiles generalizing set other with
  | nil => exact .pure hSame
  | cons hFile _ ih =>
      apply (addFile_alike hSame hFile.1 hFile.2).bind
      intro added found hAdded
      exact ih hAdded

end ProfileSet

namespace Config

open ProfileFile

variable {config : Config}
variable {host : Host}
variable {storage other : Storage}
variable {left right : Enumeration}

/-
  The files are found alike: no path and no name is up to
  what is in a file.
-/
theorem profileFiles_alike
    (hFiles :
      ∀ kind path,
        (config.filePath host kind).outcome = .ok path →
          storage.DiffersInValuesAt other
            (config.placeOf host path))
    (hOrders :
      ∀ kind path,
        (config.filePath host kind).outcome = .ok path →
          ListedAlike left right
            (config.readFrom host storage kind path)
            (config.readFrom host other kind path)) :
    Attempt.Alike
      (fun first second =>
        List.Forall₂
          (fun file next =>
            file.DiffersInValues next ∧
              ListedAlike left right file next)
          first.1 second.1 ∧
          first.2 = second.2)
      (profileFiles { config with files := storage.files }
        { host with disk := storage.disk })
      (profileFiles { config with files := other.files }
        { host with disk := other.disk }) := by
  have hPath (kind : FileKind) :
      Attempt.Alike
        (fun first second =>
          first = second ∧
            storage.DiffersInValuesAt other
                (config.placeOf host first) ∧
              ListedAlike left right
                (config.readFrom host storage kind first)
                (config.readFrom host other kind first))
        (config.filePath host kind)
        (config.filePath host kind) :=
    .of_outcome fun path hFound =>
      ⟨hFiles kind path hFound, hOrders kind path hFound⟩
  unfold profileFiles
  apply (hPath .config).bind
  rintro configPath _ ⟨rfl, hConfig, hConfigOrders⟩
  apply (hPath .credentials).bind
  rintro credentialsPath _
    ⟨rfl, hCredentials, hCredentialsOrders⟩
  have hSelected :
      Attempt.Alike (fun a b => a = b ∧ True)
        (config.selectedProfile host)
        (config.selectedProfile host) :=
    .of_outcome fun _ _ => trivial
  apply hSelected.bind
  rintro selected _ ⟨rfl, _⟩
  apply (Attempt.Alike.lift
    (read_alike .config configPath hConfig).withValues).bind
  rintro configFile next ⟨hConfigFile, rfl, rfl⟩
  apply (Attempt.Alike.lift
    (read_alike .credentials credentialsPath
      hCredentials).withValues).bind
  rintro credentialsFile next ⟨hCredentialsFile, rfl, rfl⟩
  exact .pure
    ⟨.cons ⟨hConfigFile, hConfigOrders⟩
      (.cons ⟨hCredentialsFile, hCredentialsOrders⟩ .nil),
      rfl⟩

/- Loads in orders that list the files alike report alike. -/
theorem events_loadFrom_eq
    (hFiles :
      ∀ kind path,
        (config.filePath host kind).outcome = .ok path →
          storage.DiffersInValuesAt other
            (config.placeOf host path))
    (hOrders :
      ∀ kind path,
        (config.filePath host kind).outcome = .ok path →
          ListedAlike left right
            (config.readFrom host storage kind path)
            (config.readFrom host other kind path)) :
    (config.loadFrom left host storage).events =
      (config.loadFrom right host other).events := by
  have hAlike :
      Attempt.Alike ProfileSet.SameKeys
        (config.loadFrom left host storage)
        (config.loadFrom right host other) := by
    unfold loadFrom loadProfilesIn
    apply ((profileFiles_alike hFiles hOrders).adapt _).bind
    rintro ⟨files, selected⟩ ⟨others, _⟩ ⟨hForall, rfl⟩
    apply (ProfileSet.addFiles_alike
      (.refl_empty selected) hForall).bind
    intro set found hSame
    dsimp only
    rw [← Option.not_isSome, ← Option.not_isSome,
      hSame.isSome_eq]
    by_cases hMissing :
        (!(found.profile? selected).isSome) = true
    · simp only [hMissing, if_true]
      apply (Attempt.Alike.lift (.refl _)).bind
      intro _ _ _
      exact .pure hSame
    · simp only [if_neg hMissing]
      exact .pure hSame
  exact hAlike.events_eq

/- What a load may report. -/
def MayReport
    (config : Config)
    (host : Host)
    (storage : Storage)
    (events : List Event) : Prop :=
  ∃ order, (config.loadFrom order host storage).events = events

/- What may be reported of one storage may of the other. -/
theorem MayReport.of_differsInValues
    {events : List Event}
    (hReport : config.MayReport host storage events)
    (hFiles :
      ∀ kind path,
        (config.filePath host kind).outcome = .ok path →
          storage.DiffersInValuesAt other
            (config.placeOf host path)) :
    config.MayReport host other events := by
  rcases hReport with ⟨left, rfl⟩
  -- a listing of each of the two files, if there is a path
  have hListings (kind : FileKind) :
      ∃ found : Sections, ∃ given,
        found.IsListedAs given ∧
          ∀ right : Enumeration,
            right.list kind found = given →
              ∀ path,
                (config.filePath host kind).outcome =
                    .ok path →
                  ListedAlike left right
                    (config.readFrom host storage kind path)
                    (config.readFrom host other kind
                      path) := by
    cases hPath : (config.filePath host kind).outcome with
    | error error =>
        refine
          ⟨Table.empty, _, left.isListedAs kind _, ?_⟩
        intro right _ path hFound
        cases hFound
    | ok path =>
        rcases (read_alike kind path
            (hFiles kind path hPath)).related.exists_listing
            left with
          ⟨found, given, hGiven, hAlike⟩
        refine ⟨found, given, hGiven, ?_⟩
        intro right hList place hFound
        cases hFound
        exact hAlike right hList
  rcases hListings .config with
    ⟨first, listing, hListing, hConfig⟩
  rcases hListings .credentials with
    ⟨second, given, hGiven, hCredentials⟩
  rcases Enumeration.exists_list_eq hListing hGiven with
    ⟨right, hFirst, hSecond⟩
  refine ⟨right, (events_loadFrom_eq hFiles ?_).symm⟩
  intro kind path hPath
  cases kind with
  | config => exact hConfig right hFirst path hPath
  | credentials => exact hCredentials right hSecond path hPath

/-
  Two loads report the same if their files are the same or
  differ in the values of properties alone: the same sizes,
  headings and keys, in the same order.  This holds of loads
  that go through headings and keys alike, so in the order
  of the files, and the same may be reported of both.
-/
theorem loadFrom_reports_no_values
    (hFiles :
      ∀ kind path,
        (config.filePath host kind).outcome = .ok path →
          storage.DiffersInValuesAt other
            (config.placeOf host path)) :
    (∀ left right,
      (∀ kind path,
        (config.filePath host kind).outcome = .ok path →
          ListedAlike left right
            (config.readFrom host storage kind path)
            (config.readFrom host other kind path)) →
        (config.loadFrom left host storage).events =
          (config.loadFrom right host other).events) ∧
    (config.loadFrom .written host storage).events =
      (config.loadFrom .written host other).events ∧
    ∀ events,
      config.MayReport host storage events ↔
        config.MayReport host other events := by
  have hDiffer (kind : FileKind) (path : String)
      (hPath :
        (config.filePath host kind).outcome = .ok path) :
      (config.readFrom host storage kind path).DiffersInValues
        (config.readFrom host other kind path) :=
    (read_alike kind path (hFiles kind path hPath)).related
  refine ⟨?_, ?_, ?_⟩
  · intro left right hOrders
    exact events_loadFrom_eq hFiles hOrders
  · apply events_loadFrom_eq hFiles
    intro kind path hPath
    exact (hDiffer kind path hPath).listedAlike_written
  · intro events
    constructor
    · intro hReport
      exact hReport.of_differsInValues hFiles
    · intro hReport
      apply hReport.of_differsInValues
      intro kind path hPath
      exact (hFiles kind path hPath).symm

/- A file with a value of two lines, and two keys in one. -/
def secretText : String :=
  "[default]\nK=one\n two\nk=x\n[b c]"

/- The same headings and keys, with other values. -/
def otherSecretText : String :=
  "[default]\nK=abc==def\nk=\t\n[b c]"

theorem differInValues_secretText
    (place : String) :
    DifferInValues place secretText otherSecretText := by
  refine ⟨by decide, ?_⟩
  refine
    ⟨Table.ofList
        [ ( "default",
            Table.ofList [("K", "one\ntwo"), ("k", "x")] ),
          ("b c", Table.empty) ],
      Table.ofList
        [ ( "default",
            Table.ofList [("K", "abc==def"), ("k", "")] ),
          ("b c", Table.empty) ],
      ?_, ?_, ?_⟩
  · cbv
  · cbv
  · cbv

theorem events_loadFrom_secretText :
    (atHome.loadFrom .written Host.initial
        (filesAtHome secretText otherSecretText)).events =
      (atHome.loadFrom .written Host.initial
        (filesAtHome otherSecretText secretText)).events ∧
    ∀ events,
      atHome.MayReport Host.initial
          (filesAtHome secretText otherSecretText) events ↔
        atHome.MayReport Host.initial
          (filesAtHome otherSecretText secretText) events := by
  have hFiles :
      ∀ kind path,
        (atHome.filePath Host.initial kind).outcome =
            .ok path →
          (filesAtHome secretText
            otherSecretText).DiffersInValuesAt
              (filesAtHome otherSecretText secretText)
              (atHome.placeOf Host.initial path) := by
    intro kind path hPath
    right
    cases kind with
    | config =>
        rw [filePath_atHome_config] at hPath
        cases hPath
        rw [placeOf_atHome_config]
        exact
          ⟨secretText, otherSecretText, by cbv, by cbv,
            differInValues_secretText _⟩
    | credentials =>
        rw [filePath_atHome_credentials] at hPath
        cases hPath
        rw [placeOf_atHome_credentials]
        exact
          ⟨otherSecretText, secretText, by cbv, by cbv,
            (differInValues_secretText _).symm⟩
  exact (loadFrom_reports_no_values hFiles).2

end Config

end LayeredSettings
