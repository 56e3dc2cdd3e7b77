import LayeredSettings.Proofs.Profile.Obstacles

/-
  Where a profile file is read, given the path that is
  configured for it.

  Key definitions include:
    * `HomePath.StartsAtHome`
    * `HomePath.steps`
    * `HomePath.below`
    * `Source.IsHome`

  Key theorems include:
    * `HomePath.tail?_of_startsAtHome`
    * `HomePath.foldl_push`
    * `Source.IsHome.value_expand`
    * `ProfileFile.read_expands_home`

  A path is split at its slashes, so none of its parts has a
  slash in it.  That is why a part which is pushed can never
  stand for the whole path.
-/

------------------------------------------------------------
-- Paths
------------------------------------------------------------

namespace LayeredSettings

namespace HomePath

/- A path that is `~` or goes on with `/` after that. -/
def StartsAtHome
    (path : List Char) : Prop :=
  path = ['~'] ∨ ['~', '/'] <+: path

instance
    (path : List Char) : Decidable (StartsAtHome path) :=
  inferInstanceAs (Decidable (_ ∨ _))

/- The parts of a path, without empty ones and `.`. -/
def steps
    (path : List Char) : List (List Char) :=
  (path.splitOn '/').filter fun part =>
    part ≠ [] ∧ part ≠ ['.']

/- What stands between a directory and what is in it. -/
def slashAfter
    (path : List Char) : List Char :=
  if path = [] ∨ path.getLast? = some '/' then []
  else ['/']

/- The path that some steps lead to from a directory. -/
def below
    (home : List Char)
    (parts : List (List Char)) : List Char :=
  if parts = [] then home
  else home ++ slashAfter home ++ ['/'].intercalate parts

end HomePath

/- The value of HOME, or nothing if that is no text. -/
def Source.IsHome
    (source : Source)
    (home : String) : Prop :=
  source.variableOf "HOME" = some (Utf8.encode home) ∨
    (∀ text,
      source.variableOf "HOME" ≠
        some (Utf8.encode text)) ∧
      home = ""

end LayeredSettings

------------------------------------------------------------
-- Parts
------------------------------------------------------------

namespace LayeredSettings

/- Splitting at all separators is that of lists. -/
theorem Text.splitAll_eq_splitOn
    (sep : Char)
    (cs : List Char) :
    splitAll sep cs = cs.splitOn sep := by
  induction cs with
  | nil => rfl
  | cons c rest ih =>
      rcases exists_splitAll_eq_cons sep rest with
        ⟨first, further, hParts⟩
      rw [List.splitOn,
        List.splitOnP_cons_eq_if_modifyHead,
        ← List.splitOn, ← ih]
      by_cases hSame : c = sep
      · simp [splitAll, hSame]
      · rw [splitAll_cons_of_ne hSame hParts, hParts]
        simp [hSame]

namespace HomePath

/- A separator after the first part starts another one. -/
theorem splitOn_tilde
    (rest : List Char) :
    ('~' :: '/' :: rest).splitOn '/' =
      ['~'] :: rest.splitOn '/' := by
  simp [List.splitOn,
    List.splitOnP_cons_eq_if_modifyHead]

/- A slash in front leads nowhere else. -/
theorem steps_slash
    (rest : List Char) :
    steps ('/' :: rest) = steps rest := by
  simp [steps, List.splitOn,
    List.splitOnP_cons_eq_if_modifyHead]

/- Of a path at home the parts after the tilde are taken. -/
theorem tail?_of_startsAtHome
    {path : List Char}
    (hHome : StartsAtHome path) :
    tail? path = some (steps path.tail) := by
  unfold tail?
  rw [Text.splitAll_eq_splitOn]
  rcases hHome with rfl | ⟨rest, rfl⟩
  · rfl
  · have hParts := splitOn_tilde rest
    have hSteps := steps_slash rest
    simp only [List.cons_append, List.nil_append,
      List.tail_cons, hParts, hSteps]
    refine congrArg some (List.filter_congr ?_)
    intro part _
    cases part <;> simp

/- Any other path does not have a tilde as its first part. -/
theorem tail?_of_not
    {path : List Char}
    (hElsewhere : ¬ StartsAtHome path) :
    tail? path = none := by
  unfold tail?
  rw [Text.splitAll_eq_splitOn]
  split
  · rename_i parts hParts
    -- joined again, the parts give a path that is at home
    have hPath :
        ['/'].intercalate (path.splitOn '/') = path :=
      List.intercalate_splitOn '/'
    rw [hParts] at hPath
    refine absurd ?_ hElsewhere
    cases parts with
    | nil => exact Or.inl hPath.symm
    | cons part further =>
        rw [List.intercalate_cons_cons] at hPath
        exact Or.inr ⟨_, hPath⟩
  · rfl

/- A step is neither empty nor `.`, and has no slash. -/
theorem of_mem_steps
    {path part : List Char}
    (hPart : part ∈ steps path) :
    part ≠ [] ∧ part ≠ ['.'] ∧ '/' ∉ part := by
  rcases List.mem_filter.mp hPart with ⟨hMem, hKept⟩
  rw [← Text.splitAll_eq_splitOn] at hMem
  have hBoth : part ≠ [] ∧ part ≠ ['.'] := by
    simpa using hKept
  exact ⟨hBoth.1, hBoth.2,
    Text.not_mem_of_mem_splitAll hMem⟩

/- All steps upwards are kept. -/
theorem count_steps
    (path : List Char) :
    (steps path).count ['.', '.'] =
      (path.splitOn '/').count ['.', '.'] :=
  List.count_filter (by decide)

------------------------------------------------------------
-- Pushes
------------------------------------------------------------

/- A part that is pushed is put below the path. -/
theorem push_eq
    (path part : List Char) :
    push path part = path ++ slashAfter path ++ part := by
  unfold push slashAfter
  split_ifs with hNone
  · simp
  · simp

/- A path that ends in a step has a slash after it. -/
theorem slashAfter_append
    (path : List Char)
    {part : List Char}
    (hNonempty : part ≠ [])
    (hSlash : '/' ∉ part) :
    slashAfter (path ++ part) = ['/'] := by
  refine if_neg ?_
  rintro (hEmpty | hLast)
  · exact hNonempty (List.append_eq_nil_iff.mp hEmpty).2
  · rw [List.getLast?_append_of_ne_nil path hNonempty]
      at hLast
    exact hSlash (List.mem_of_getLast? hLast)

/- Parts that are pushed one by one lead below the path. -/
theorem foldl_push
    (home : List Char)
    {parts : List (List Char)}
    (hParts :
      ∀ part ∈ parts, part ≠ [] ∧ '/' ∉ part) :
    parts.foldl push home = below home parts := by
  induction parts generalizing home with
  | nil => rfl
  | cons part further ih =>
      have hFirst := hParts part List.mem_cons_self
      have hFurther :=
        ih (push home part) fun other hMem =>
          hParts other (List.mem_cons_of_mem part hMem)
      rw [List.foldl_cons, hFurther]
      cases further with
      | nil => simp [below, push_eq]
      | cons second others =>
          have hSlash :=
            slashAfter_append (home ++ slashAfter home)
              hFirst.1 hFirst.2
          simp only [below, push_eq, hSlash,
            List.cons_ne_nil, if_false,
            List.intercalate_cons_cons]
          simp only [List.append_assoc]

/- What is below a directory starts with its path. -/
theorem prefix_below
    (home : List Char)
    (parts : List (List Char)) :
    home <+: below home parts := by
  unfold below
  split_ifs with hNone
  · exact List.prefix_rfl
  · rw [List.append_assoc]
    exact List.prefix_append _ _

end HomePath

end LayeredSettings

------------------------------------------------------------
-- Homes
------------------------------------------------------------

namespace LayeredSettings

namespace Source

/- Every source has a home, be it the empty path. -/
theorem exists_isHome
    (source : Source) :
    ∃ home, source.IsHome home := by
  by_cases hText :
      ∃ home,
        source.variableOf "HOME" = some (Utf8.encode home)
  · rcases hText with ⟨home, hHome⟩
    exact ⟨home, Or.inl hHome⟩
  · exact ⟨"", Or.inr ⟨not_exists.mp hText, rfl⟩⟩

namespace IsHome

variable {source : Source}
variable {home path : String}

/- The home that is asked for is the value of HOME. -/
theorem value_home?
    (hHome : source.IsHome home) :
    (HomePath.home? source).value.getD "" = home := by
  have hText :
      source.textOf "HOME" = some home ∨
        source.textOf "HOME" = none ∧ home = "" := by
    unfold textOf
    rcases hHome with hSet | ⟨hNone, hEmpty⟩
    · left
      rw [hSet, Option.bind_some, Utf8.decode?,
        Utf8.decode_encode]
      rfl
    · right
      refine ⟨?_, hEmpty⟩
      cases hBytes : source.variableOf "HOME" with
      | none => rfl
      | some bytes =>
          rw [hBytes] at hNone
          refine Utf8.decode?_eq_none_iff.mpr ?_
          intro text hSame
          exact hNone text (congrArg some hSame)
  unfold HomePath.home?
  rcases hText with hSome | ⟨hNone, rfl⟩
  · simp [hSome]
  · simp [hNone]

/- A source has no other home. -/
theorem unique
    {other : String}
    (hHome : source.IsHome home)
    (hOther : source.IsHome other) :
    home = other := by
  rcases hHome with hSet | ⟨hNone, rfl⟩
  · rcases hOther with hSame | ⟨hNone, rfl⟩
    · rw [hSet] at hSame
      exact Utf8.encode_injective (Option.some.inj hSame)
    · exact absurd hSet (hNone home)
  · rcases hOther with hSet | ⟨-, rfl⟩
    · exact absurd hSet (hNone other)
    · rfl

/- A path at home is expanded to one below the home. -/
theorem value_expand
    (hHome : source.IsHome home)
    (hPath : HomePath.StartsAtHome path.toList) :
    (HomePath.expand source path).value.toList =
      HomePath.below home.toList
        (HomePath.steps path.toList.tail) := by
  have hParts :
      ∀ part ∈ HomePath.steps path.toList.tail,
        part ≠ [] ∧ '/' ∉ part := by
    intro part hMem
    have hStep := HomePath.of_mem_steps hMem
    exact ⟨hStep.1, hStep.2.2⟩
  unfold HomePath.expand
  rw [HomePath.tail?_of_startsAtHome hPath]
  simp only [Logged.value_bind, Logged.value_pure,
    hHome.value_home?, String.toList_ofList]
  exact HomePath.foldl_push home.toList hParts

end IsHome

end Source

/- Any other path stays as it is. -/
theorem HomePath.value_expand_of_not
    {path : String}
    (hPath : ¬ StartsAtHome path.toList)
    (source : Source) :
    (expand source path).value = path := by
  unfold expand
  rw [tail?_of_not hPath]
  rfl

end LayeredSettings

------------------------------------------------------------
-- Reads
------------------------------------------------------------

namespace LayeredSettings

namespace ProfileFile

/-
  The path at which a file is read, and which stands in its
  errors: what is there is its text, unless that is no text.
  A path that does not start at home is this path itself.
  Otherwise this path is that of the home with the steps of
  the rest put below it, so it starts with the home, whatever
  the rest is.
-/
theorem read_expands_home
    (config : Config)
    (host : Host)
    (kind : FileKind)
    (path : String) :
    ∃ home place,
      (config.source host).IsHome home ∧
        (read config host kind path).value.path = place ∧
        (∀ text,
          config.fileAt host (Utf8.encode place) =
              .ok (Utf8.encode text) →
            (read config host kind path).value.text =
              text) ∧
        ((∀ text,
          config.fileAt host (Utf8.encode place) ≠
            .ok (Utf8.encode text)) →
          (read config host kind path).value.text = "") ∧
        (¬ HomePath.StartsAtHome path.toList →
          place = path) ∧
        (HomePath.StartsAtHome path.toList →
          place.toList =
              HomePath.below home.toList
                (HomePath.steps path.toList.tail) ∧
            home.toList <+: place.toList ∧
            (∀ part ∈ HomePath.steps path.toList.tail,
              part ≠ [] ∧ part ≠ ['.'] ∧ '/' ∉ part) ∧
            (HomePath.steps path.toList.tail).count
                ['.', '.'] =
              (path.toList.tail.splitOn '/').count
                ['.', '.']) := by
  rcases (config.source host).exists_isHome with
    ⟨home, hHome⟩
  refine
    ⟨home, config.placeOf host path, hHome, rfl,
      fun text => Config.text_read_eq,
      Config.text_read_eq_empty,
      fun hPath => HomePath.value_expand_of_not hPath _, ?_⟩
  intro hPath
  have hPlace := hHome.value_expand hPath
  refine
    ⟨hPlace, ?_, fun part => HomePath.of_mem_steps,
      HomePath.count_steps _⟩
  rw [show (config.placeOf host path).toList = _ from hPlace]
  exact HomePath.prefix_below _ _

/- A home that ends in a slash, and a file above it. -/
def slashedHome : Config :=
  { Config.empty with
    environment := .fixed
      (Table.ofList [("HOME", Utf8.encode "/h/")])
    files := .memory
      (Table.ofList
        [ ( Utf8.encode "/h/../etc/x",
            Utf8.encode "[default]" ) ]) }

theorem read_slashedHome :
    (HomePath.StartsAtHome "~//../etc/./x/".toList ∧
      slashedHome.fileAt Host.initial
          (Utf8.encode "/h/../etc/x") =
        .ok (Utf8.encode "[default]") ∧
      (read slashedHome Host.initial .config
          "~//../etc/./x/").value.path = "/h/../etc/x" ∧
      (read slashedHome Host.initial .config
          "~//../etc/./x/").value.text = "[default]") ∧
    ¬ HomePath.StartsAtHome "./~".toList ∧
      (∀ text,
        slashedHome.fileAt Host.initial
            (Utf8.encode "./~") ≠
          .ok (Utf8.encode text)) ∧
      (read slashedHome Host.initial .config
          "./~").value.path = "./~" ∧
      (read slashedHome Host.initial .config
          "./~").value.text = "" := by
  have hStarts :
      HomePath.StartsAtHome "~//../etc/./x/".toList := by
    decide
  have hAway : ¬ HomePath.StartsAtHome "./~".toList := by
    decide
  have hFile :
      slashedHome.fileAt Host.initial
          (Utf8.encode "/h/../etc/x") =
        .ok (Utf8.encode "[default]") := by
    cbv
  have hNoFile (text : String) :
      slashedHome.fileAt Host.initial
          (Utf8.encode "./~") ≠
        .ok (Utf8.encode text) := by
    intro hText
    have hNone :
        slashedHome.fileAt Host.initial
            (Utf8.encode "./~") =
          .error .notFound := by
      cbv
    rw [hNone] at hText
    cases hText
  rcases read_expands_home slashedHome Host.initial .config
      "~//../etc/./x/" with
    ⟨home, place, hHome, hPlace, hText, -, -, hBelow⟩
  have hSet :
      (slashedHome.source Host.initial).IsHome "/h/" := by
    left
    cbv
  have hHomeEq : home = "/h/" := hHome.unique hSet
  have hPlaceEq : place = "/h/../etc/x" := by
    apply String.toList_inj.mp
    rw [(hBelow hStarts).1, hHomeEq]
    decide
  rcases read_expands_home slashedHome Host.initial .config
      "./~" with
    ⟨-, other, -, hOther, -, hEmpty, hSame, -⟩
  have hOtherEq : other = "./~" := hSame hAway
  rw [hPlaceEq] at hPlace hText
  rw [hOtherEq] at hOther hEmpty
  exact
    ⟨⟨hStarts, hFile, hPlace, hText _ hFile⟩, hAway,
      hNoFile, hOther, hEmpty hNoFile⟩

end ProfileFile

end LayeredSettings
