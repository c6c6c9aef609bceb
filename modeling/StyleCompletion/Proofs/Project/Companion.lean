/-
The view of a style document in the standard layout.

The styles of an application, of a theme and of a widget stand in a directory `styles` of their
own, and the view of each is at the same place below a directory `views`: that of the widget, or
else that of the application.  The view is looked for by the names of directories alone, wherever
they stand in the path.  So it is found at its place unless a directory below the styles is itself
named `styles`, or the project of the application is a directory named `themes`.
-/
import StyleCompletion.Project
import StyleCompletion.Proofs.Path.Components

namespace StyleCompletion

/-! ## The standard layout -/

/-- A part of an application that has styles of its own. -/
inductive StyleOwner where
  | app
  | theme (name : String)
  | widget (name : String)
deriving DecidableEq, Repr

namespace StyleOwner

/-- The directories from the root of a project to the one that holds the styles. -/
def home : StyleOwner → List String
  | app => ["app"]
  | theme name => ["app", "themes", name]
  | widget name => ["app", "widgets", name]

/-- The directories from the root of a project to the one that holds the views for the styles.
A theme has no views of its own. -/
def viewHome : StyleOwner → List String
  | app => ["app"]
  | theme _ => ["app"]
  | widget name => ["app", "widgets", name]

theorem viewHome_subset (owner : StyleOwner) : owner.viewHome ⊆ owner.home := by
  cases owner <;> simp [home, viewHome]

end StyleOwner

/-- The place of a style document in a project with the standard layout. -/
structure StylePlace where
  root : Path
  owner : StyleOwner
  /-- The directories below the styles. -/
  directories : List String
  /-- The name of the document without its extension. -/
  stem : String
  home_named : ∀ name ∈ owner.home, (Component.normal name).IsStep
  directories_named : ∀ name ∈ directories, (Component.normal name).IsStep
  stem_ne : stem ≠ ""
  stem_no_slash : '/' ∉ stem.toList

namespace StylePlace

/-- The path of a file at this place, below the directory `kind` of `home`. -/
def fileIn (place : StylePlace) (home : List String) (kind extension : String) : Path :=
  place.root.under (home ++ kind :: (place.directories ++ [place.stem ++ "." ++ extension]))

/-- The path of the style document. -/
def style (place : StylePlace) : Path := place.fileIn place.owner.home "styles" "tss"

/-- The path of the view at the same place. -/
def view (place : StylePlace) : Path := place.fileIn place.owner.viewHome "views" "xml"

/-- The directories that are looked for stand where no others of their names are in the way:
none below the styles is named as they are, and that of the application is not below one of
themes. -/
def IsClear (place : StylePlace) : Prop :=
  "styles" ∉ place.directories ∧
    ¬(place.owner = .app ∧ place.root.components.getLast? = some (.normal "themes"))

instance (place : StylePlace) : Decidable place.IsClear :=
  inferInstanceAs (Decidable (_ ∧ ¬(_ ∧ _)))

end StylePlace

namespace Project

/-! ## Themes -/

theorem dropTheme_append_pair (above : List Component) (directory last : Component) :
    dropTheme (above ++ [directory, last]) =
      if directory = .normal "themes" then above else above ++ [directory, last] := by
  simp [dropTheme]

/-- A base keeps all its parts, or loses a theme at its end. -/
theorem dropTheme_cases (base : List Component) :
    dropTheme base = base ∨ ∃ last, base = dropTheme base ++ [.normal "themes", last] := by
  generalize hreverse : base.reverse = reversed
  rw [List.reverse_eq_iff] at hreverse
  match reversed with
  | [] => exact .inl (by rw [hreverse]; rfl)
  | [only] => exact .inl (by rw [hreverse]; rfl)
  | last :: directory :: above =>
      have hbase : base = above.reverse ++ [directory, last] := by simpa using hreverse
      rw [hbase, dropTheme_append_pair]
      split
      · next htheme => exact .inr ⟨last, by rw [htheme]⟩
      · exact .inl rfl

theorem dropTheme_isPrefix (base : List Component) : dropTheme base <+: base := by
  rcases dropTheme_cases base with heq | ⟨last, heq⟩
  · exact ⟨[], by rw [heq, List.append_nil]⟩
  · exact ⟨_, heq.symm⟩

/-- The styles of a theme and of a widget are told apart from each other and from those of an
application, unless the latter is itself below a directory of themes. -/
theorem dropTheme_home_iff (root : List Component) (owner : StyleOwner) :
    dropTheme (root ++ owner.home.map .normal) = root ++ owner.viewHome.map .normal ↔
      ¬(owner = .app ∧ root.getLast? = some (.normal "themes")) := by
  cases owner with
  | app =>
      cases hlast : root.getLast? with
      | none =>
          rw [List.getLast?_eq_none_iff.mp hlast]
          simp [StyleOwner.home, StyleOwner.viewHome, dropTheme]
      | some last =>
          obtain ⟨above, rfl⟩ := List.getLast?_eq_some_iff.mp hlast
          have hpair := dropTheme_append_pair above last (.normal "app")
          simp only [StyleOwner.home, StyleOwner.viewHome, List.map_cons, List.map_nil,
            List.append_assoc, List.singleton_append, hpair]
          by_cases htheme : last = .normal "themes" <;> simp [htheme]
  | theme name =>
      have hpair :=
        dropTheme_append_pair (root ++ [.normal "app"]) (.normal "themes") (.normal name)
      simpa [StyleOwner.home, StyleOwner.viewHome] using hpair
  | widget name =>
      have hpair := dropTheme_append_pair (root ++ [.normal "app"]) (.normal "widgets")
        (.normal name)
      simpa [StyleOwner.home, StyleOwner.viewHome] using hpair

/-- Below the styles, the directory of the styles is not where that of the views has to be. -/
theorem dropTheme_below_styles_ne (root below rest : List Component) (owner : StyleOwner) :
    dropTheme (root ++ owner.home.map .normal ++ .normal "styles" :: below) ++
        .normal "views" :: rest ≠
      root ++ owner.viewHome.map .normal ++
        .normal "views" :: (below ++ .normal "styles" :: rest) := by
  intro heq
  rcases dropTheme_cases (root ++ owner.home.map .normal ++ .normal "styles" :: below) with
    hkept | ⟨last, hdropped⟩
  · rw [hkept] at heq
    cases owner <;> simp [StyleOwner.home, StyleOwner.viewHome] at heq
  · generalize dropTheme _ = kept at heq hdropped
    have hlength := congrArg List.length heq
    have hlengths := congrArg List.length hdropped
    cases owner with
    | app =>
        simp [StyleOwner.home, StyleOwner.viewHome] at hlength hlengths
        omega
    | widget name =>
        simp [StyleOwner.home, StyleOwner.viewHome] at hlength hlengths
        omega
    | theme name =>
        -- The theme may be lost, but not the directory of the themes.
        have hlong : root.length + 1 < kept.length := by
          simp [StyleOwner.home] at hlengths
          omega
        have hviews := congrArg (·[root.length + 1]?) heq
        have hthemes := congrArg (·[root.length + 1]?) hdropped
        simp [StyleOwner.home, StyleOwner.viewHome, List.getElem?_append_left hlong]
          at hviews hthemes
        rw [hviews] at hthemes
        exact absurd hthemes (by decide)

/-! ## The parts of a view -/

theorem viewOf_of_split {style : Path} {base rest : List Component}
    (h : splitAtStyles? style.components = some (base, rest)) (hrest : rest ≠ []) :
    viewOf style = some ((Path.ofComponents
      (dropTheme base ++ [.normal "views"] ++ rest)).withExtension "xml") := by
  obtain ⟨first, more, rfl⟩ := List.exists_cons_of_ne_nil hrest
  rw [viewOf, h]

/-- The view of a style is read off the last directory of styles on its path: apart from its
extension, it is the path with `views` in the place of that directory, without a theme. -/
theorem exists_viewOf {style : Path} {base rest : List Component}
    (h : style.components = base ++ .normal "styles" :: rest)
    (hlast : Component.normal "styles" ∉ rest) (hrest : rest ≠ []) :
    ∃ path : Path, viewOf style = some (path.withExtension "xml") ∧
      path.components = dropTheme base ++ .normal "views" :: rest := by
  have hproper := Path.areProper_components style
  rw [h] at hproper
  have hview : Path.AreProper (dropTheme base ++ [.normal "views"] ++ rest) := by
    have hbase := hproper.of_prefix ((dropTheme_isPrefix base).trans (List.prefix_append ..))
    exact (hbase.append (by decide)).append fun step hmem => hproper.isStep_of_mem hmem
  have hsplit : splitAtStyles? style.components = some (base, rest) := by
    rw [h]
    exact Text.splitAtLast?_append_cons hlast
  refine ⟨_, viewOf_of_split hsplit hrest, ?_⟩
  rw [Path.components_ofComponents hview, List.append_assoc, List.singleton_append]

/-- The view of a style that is a file is one with another extension. -/
theorem components_viewOf {style : Path} {base below : List Component} {name : String}
    (h : style.components = base ++ .normal "styles" :: (below ++ [.normal name]))
    (hlast : Component.normal "styles" ∉ below ++ [.normal name])
    (hrenamed : (Component.normal ((Path.splitName name).1 ++ "." ++ "xml")).IsStep) :
    (viewOf style).map Path.components =
      some (dropTheme base ++ .normal "views" ::
        (below ++ [.normal ((Path.splitName name).1 ++ "." ++ "xml")])) := by
  obtain ⟨path, hview, hcomponents⟩ := exists_viewOf h hlast (by simp)
  rw [← List.cons_append, ← List.append_assoc] at hcomponents
  rw [hview, Option.map_some, Path.components_withExtension hcomponents hrenamed]
  simp

end Project

/-! ## The view at the same place -/

namespace StylePlace

variable (place : StylePlace)

theorem isStep_file {extension : String} (hdot : '.' ∉ extension.toList)
    (hslash : '/' ∉ extension.toList) (hne : extension ≠ "") :
    (Component.normal (place.stem ++ "." ++ extension)).IsStep :=
  Path.isStep_append_extension hdot hne place.stem_no_slash hslash

theorem isStep_xml : (Component.normal (place.stem ++ "." ++ "xml")).IsStep :=
  place.isStep_file (by decide) (by decide) (by decide)

theorem components_fileIn {home : List String} {kind extension : String}
    (hhome : ∀ name ∈ home, (Component.normal name).IsStep)
    (hkind : (Component.normal kind).IsStep)
    (hfile : (Component.normal (place.stem ++ "." ++ extension)).IsStep) :
    (place.fileIn home kind extension).components =
      place.root.components ++ home.map .normal ++ .normal kind ::
        (place.directories.map .normal ++ [.normal (place.stem ++ "." ++ extension)]) := by
  rw [fileIn, Path.components_under]
  · simp
  · intro name hmem
    simp only [List.mem_append, List.mem_cons, List.not_mem_nil, or_false] at hmem
    rcases hmem with hmem | rfl | hmem | rfl
    · exact hhome name hmem
    · exact hkind
    · exact place.directories_named name hmem
    · exact hfile

theorem components_style :
    place.style.components =
      place.root.components ++ place.owner.home.map .normal ++ .normal "styles" ::
        (place.directories.map .normal ++ [.normal (place.stem ++ "." ++ "tss")]) :=
  place.components_fileIn place.home_named (by decide)
    (place.isStep_file (by decide) (by decide) (by decide))

theorem components_view :
    place.view.components =
      place.root.components ++ place.owner.viewHome.map .normal ++ .normal "views" ::
        (place.directories.map .normal ++ [.normal (place.stem ++ "." ++ "xml")]) :=
  place.components_fileIn
    (fun name hmem => place.home_named name (place.owner.viewHome_subset hmem))
    (by decide) place.isStep_xml

/-- From a style whose path ends in `styles`, directories of other names and the document, the
view is looked for below the directory of the styles, without a theme. -/
theorem components_viewOf {style : Path} {base : List Component} {below : List String}
    (hstyle : style.components = base ++ .normal "styles" ::
      (below.map .normal ++ [.normal (place.stem ++ "." ++ "tss")]))
    (hbelow : "styles" ∉ below) :
    (Project.viewOf style).map Path.components =
      some (Project.dropTheme base ++ .normal "views" ::
        (below.map .normal ++ [.normal (place.stem ++ "." ++ "xml")])) := by
  have hstem : (Path.splitName (place.stem ++ "." ++ "tss")).1 = place.stem := by
    rw [Path.splitName_append (by decide) (by decide) place.stem_ne]
  have hfile : "styles" ≠ place.stem ++ "." ++ "tss" := by
    intro heq
    have hdot : '.' ∈ "styles".toList := by rw [heq]; simp
    exact absurd hdot (by decide)
  have hview := Project.components_viewOf hstyle (by simp [hbelow, hfile])
    (by rw [hstem]; exact place.isStep_xml)
  rwa [hstem] at hview

end StylePlace

/-- The view of a style document is found at the same place, whatever directories the project is
in and the document is below, exactly when the place is clear: no directory below the styles is
itself named `styles`, and if the styles are those of the application, the project is no directory
named `themes`. -/
theorem Project.companion_at_same_place_iff (place : StylePlace) (locale : String) {style : Path}
    (hstyle : style.components = place.style.components) :
    ((Project.alloy place.root locale).companion style).map Path.components =
      some place.view.components ↔ place.IsClear := by
  show (viewOf style).map Path.components = _ ↔ _
  rw [place.components_style] at hstyle
  rw [place.components_view, StylePlace.IsClear]
  by_cases hbelow : "styles" ∈ place.directories
  · -- The last directory of styles is not the one that the styles are in.
    obtain ⟨after, before, hreverse, hafter⟩ :=
      List.eq_append_cons_of_mem (List.mem_reverse.mpr hbelow)
    have hdirectories : place.directories = before.reverse ++ "styles" :: after.reverse := by
      rw [List.reverse_eq_iff] at hreverse
      simpa using hreverse
    have hsplit : style.components =
        (place.root.components ++ place.owner.home.map .normal ++
          .normal "styles" :: before.reverse.map .normal) ++ .normal "styles" ::
            (after.reverse.map .normal ++ [.normal (place.stem ++ "." ++ "tss")]) := by
      rw [hstyle, hdirectories]
      simp
    have hne := dropTheme_below_styles_ne place.root.components (before.reverse.map .normal)
      (after.reverse.map .normal ++ [.normal (place.stem ++ "." ++ "xml")]) place.owner
    rw [place.components_viewOf hsplit (by simpa using hafter), hdirectories]
    refine iff_of_false (fun heq => hne ?_) (by simp)
    rw [Option.some.inj heq]
    simp
  · rw [place.components_viewOf hstyle hbelow, Option.some.injEq, List.append_left_inj,
      dropTheme_home_iff]
    simp [hbelow]

/-- The styles of a theme named `styles`, in a project below directories named `themes` and
`styles`. -/
def nightPlace : StylePlace where
  root := ⟨"./styles//themes/shop/"⟩
  owner := .theme "styles"
  directories := ["views", "themes", "a.b"]
  stem := "index"
  home_named := by decide
  directories_named := by decide
  stem_ne := by decide
  stem_no_slash := by decide

/-- That place is clear, however the path is written. -/
theorem Project.companion_nightPlace :
    nightPlace.IsClear ∧
    ((Project.alloy nightPlace.root "en").companion
        ⟨"./styles/themes/shop/app/./themes/styles/styles/views/themes//a.b/index.tss"⟩).map
      Path.components =
        some (Path.components ⟨"./styles/themes/shop/app/views/views/themes/a.b/index.xml"⟩) := by
  have hclear : nightPlace.IsClear := by decide
  refine ⟨hclear, ?_⟩
  rw [(Project.companion_at_same_place_iff nightPlace "en" (by decide +kernel)).mpr hclear]
  decide +kernel

/-- Styles below a directory that is itself named `styles`. -/
def innerPlace : StylePlace where
  root := ⟨"shop"⟩
  owner := .app
  directories := ["styles"]
  stem := "index"
  home_named := by decide
  directories_named := by decide
  stem_ne := by decide
  stem_no_slash := by decide

/-- Not every style document has its view at the same place. -/
theorem Project.not_forall_companion_at_same_place :
    ¬∀ place : StylePlace,
      ((Project.alloy place.root "en").companion place.style).map Path.components =
        some place.view.components := by
  intro hall
  have hfound : ((Project.alloy innerPlace.root "en").companion innerPlace.style).map
      Path.components = some (Path.components ⟨"shop/app/styles/views/index.xml"⟩) := by
    decide +kernel
  have hplace := hfound.symm.trans (hall innerPlace)
  exact absurd hplace (by decide +kernel)

end StyleCompletion
