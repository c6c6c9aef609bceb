/-
The last directory of styles on a path.

In the standard layout the view of a style is read off the parts of its path alone.  The last part
named `styles` becomes `views`, a theme before it is dropped, and the last part of all takes the
extension `xml`.  So there is a view unless no part is named so, or nothing follows it; and what
does not change the parts of the path, such as a second slash, does not change the view.
-/
import Mathlib.Data.List.Basic
import Mathlib.Logic.Relation
import StyleCompletion.Proofs.Project.Companion

namespace StyleCompletion

/-! ## Spellings of one path -/

namespace Path

/-- The second path is the first one with a slash doubled, a slash at its end, or a `.` between two
slashes. -/
inductive Lengthens : Path → Path → Prop where
  | slash (front back : String) : Lengthens ⟨front ++ "/" ++ back⟩ ⟨front ++ "//" ++ back⟩
  | slashAtEnd {front : String} (h : front ≠ "") : Lengthens ⟨front⟩ ⟨front ++ "/"⟩
  | dot (front back : String) : Lengthens ⟨front ++ "/" ++ back⟩ ⟨front ++ "/./" ++ back⟩

/-- The paths differ only in repeated slashes, slashes at the end and inner `.` segments. -/
def SameWay : Path → Path → Prop := Relation.EqvGen Lengthens

theorem segments_slash (front : String) : segments ⟨front ++ "/"⟩ = segments ⟨front⟩ ++ [""] := by
  have hempty : front ++ "/" ++ "" = front ++ "/" := String.append_empty
  rw [← hempty, segments_append_slash]
  rfl

/-- What follows a slash adds the parts of its own segments. -/
theorem components_slash (front back : String) :
    components ⟨front ++ "/" ++ back⟩ =
      components ⟨front ++ "/"⟩ ++ stepsOf (segments ⟨back⟩) := by
  have hne : front ++ "/" ≠ "" := by simp
  refine components_append_text hne (segments_ne_nil ⟨front⟩) (segments_slash front) (by decide) ?_
  exact segments_append_slash front back

/-- An idle segment after a slash adds nothing. -/
theorem components_slash_idle (front back : String) {idle : String} (hidle : isIdle idle = true)
    (hslash : '/' ∉ idle.toList) :
    components ⟨front ++ "/" ++ (idle ++ "/" ++ back)⟩ = components ⟨front ++ "/" ++ back⟩ := by
  have hnothing : stepsOf [idle] = [] := stepsOf_of_isIdle (by simpa using hidle)
  rw [components_slash, components_slash, segments_append_slash, segments_of_no_slash hslash,
    stepsOf_append, hnothing, List.nil_append]

theorem Lengthens.components_eq {path other : Path} (h : Lengthens path other) :
    other.components = path.components := by
  cases h with
  | slash front back =>
      have htext : front ++ "//" ++ back = front ++ "/" ++ ("" ++ "/" ++ back) := by
        simp [← String.toList_inj]
      rw [htext, components_slash_idle front back (by decide) (by decide)]
  | dot front back =>
      have htext : front ++ "/./" ++ back = front ++ "/" ++ ("." ++ "/" ++ back) := by
        simp [← String.toList_inj]
      rw [htext, components_slash_idle front back (by decide) (by decide)]
  | @slashAtEnd front hne =>
      have hparts := components_append_text hne (segments_ne_nil ⟨front⟩)
        (List.append_nil _).symm (by simp) (segments_slash front)
      rw [hparts, stepsOf_of_isIdle (by decide), List.append_nil]

/-- Spellings of one path have the same parts. -/
theorem SameWay.components_eq {path other : Path} (h : path.SameWay other) :
    other.components = path.components := by
  induction h with
  | rel path other hlonger => exact hlonger.components_eq
  | refl path => rfl
  | symm path other _ ih => exact ih.symm
  | trans path between other _ _ ih ih' => exact ih'.trans ih

end Path

/-! ## The extension of a part -/

/-- The second part is the first one with the extension `extension`.  An extension goes from the
last dot on, which is not the first character, to the end, and it is replaced; a name without one
gets it at its end; a `..` has no name and stays as it is. -/
inductive Component.WithExtension (extension : String) : Component → Component → Prop where
  | replaced {stem old : String} (hstem : stem ≠ "") (hold : '.' ∉ old.toList) :
      WithExtension extension (.normal (stem ++ "." ++ old)) (.normal (stem ++ "." ++ extension))
  | added {name : String} (hname : '.' ∉ name.toList.tail) :
      WithExtension extension (.normal name) (.normal (name ++ "." ++ extension))
  | parent : WithExtension extension .parent .parent

/-- A part takes an extension in one way. -/
theorem Component.WithExtension.unique {extension : String} {part renamed other : Component}
    (h : part.WithExtension extension renamed) (h' : part.WithExtension extension other) :
    renamed = other := by
  have hsplit (stem : String) {old : String} (hold : '.' ∉ old.toList) :
      Text.splitAtLast? '.' (stem ++ "." ++ old).toList = some (stem.toList, old.toList) := by
    have htext : (stem ++ "." ++ old).toList = stem.toList ++ '.' :: old.toList := by simp
    rw [htext, Text.splitAtLast?_append_cons hold]
  have htail {stem old : String} (hstem : stem ≠ "") :
      '.' ∈ (stem ++ "." ++ old).toList.tail := by
    obtain ⟨c, cs, hcs⟩ := List.exists_cons_of_ne_nil (by simpa using hstem : stem.toList ≠ [])
    simp [hcs]
  generalize hpart : part = same at h'
  cases h with
  | parent =>
      cases h' with
      | parent => rfl
      | replaced | added => exact absurd hpart (by simp)
  | @replaced stem old hstem hold =>
      cases h' with
      | parent => exact absurd hpart (by simp)
      | added hname =>
          obtain rfl := Component.normal.inj hpart
          exact absurd (htail hstem) hname
      | @replaced stem' old' hstem' hold' =>
          have hcut := hsplit stem hold
          rw [Component.normal.inj hpart, hsplit stem' hold', Option.some.injEq, Prod.mk.injEq,
            String.toList_inj, String.toList_inj] at hcut
          rw [hcut.1]
  | added hname =>
      cases h' with
      | parent => exact absurd hpart (by simp)
      | added => rw [Component.normal.inj hpart]
      | replaced hstem =>
          rw [Component.normal.inj hpart] at hname
          exact absurd (htail hstem) hname

namespace Path

/-- The stem of a name with a new extension is the name with that extension. -/
theorem withExtension_splitName {name : String} (hparent : name ≠ "..") (extension : String) :
    Component.WithExtension extension (.normal name)
      (.normal ((splitName name).1 ++ "." ++ extension)) := by
  rw [splitName]
  rcases Text.splitAtLast?_cases '.' name.toList with
    ⟨hnotMem, hnone⟩ | ⟨stem, old, hname, hold, hsome⟩
  · rw [hnone]
    exact .added (fun hmem => hnotMem (List.mem_of_mem_tail hmem))
  · rw [hsome]
    by_cases hstem : stem = []
    · -- The only dot starts the name, so it starts no extension.
      have htail : '.' ∉ name.toList.tail := by
        rw [hname, hstem]
        exact hold
      simpa [hstem] using .added htail
    · have hcut : name = String.ofList stem ++ "." ++ String.ofList old := by
        rw [← String.toList_inj, hname]
        simp
      have hreplaced : Component.WithExtension extension (.normal name)
          (.normal (String.ofList stem ++ "." ++ extension)) := by
        rw [hcut]
        exact .replaced (by simpa using hstem) (by simpa using hold)
      simpa [hparent, hstem] using hreplaced

/-- With an extension a step is still one. -/
theorem isStep_of_withExtension {extension : String} (hdot : '.' ∉ extension.toList)
    (hslash : '/' ∉ extension.toList) (hne : extension ≠ "") {part renamed : Component}
    (h : part.WithExtension extension renamed) (hstep : part.IsStep) : renamed.IsStep := by
  have hpart := hstep.no_slash
  cases h with
  | replaced _ _ =>
      simp only [Component.text, String.toList_append, List.mem_append, not_or] at hpart
      exact isStep_append_extension hdot hne hpart.1.1 hslash
  | added _ => exact isStep_append_extension hdot hne hpart hslash
  | parent => exact hstep

/-- The last part of a path, which is a step, takes the extension. -/
theorem exists_components_withExtension {path : Path} {front : List Component} {last : Component}
    (h : path.components = front ++ [last]) (hstep : last.IsStep) (extension : String)
    (hdot : '.' ∉ extension.toList) (hslash : '/' ∉ extension.toList) (hne : extension ≠ "") :
    ∃ renamed, last.WithExtension extension renamed ∧
      (path.withExtension extension).components = front ++ [renamed] := by
  cases last with
  | root => exact absurd hstep (by decide)
  | current => exact absurd hstep (by decide)
  | parent => exact ⟨.parent, .parent, by rw [withExtension_of_parent h, h]⟩
  | normal name =>
      have hparent : name ≠ ".." := by
        rintro rfl
        exact absurd hstep (by decide)
      have hrenamed := withExtension_splitName hparent extension
      have hrenamedStep := isStep_of_withExtension hdot hslash hne hrenamed hstep
      exact ⟨_, hrenamed, components_withExtension h hrenamedStep⟩

end Path

/-! ## The view -/

namespace Project

/-- A theme is dropped where the part before the last one is named `themes`. -/
theorem dropTheme_eq (base : List Component) :
    dropTheme base =
      if base.dropLast.getLast? = some (.normal "themes") then base.dropLast.dropLast
      else base := by
  rcases List.eq_nil_or_concat' base with rfl | ⟨front, last, rfl⟩
  · rfl
  · rcases List.eq_nil_or_concat' front with rfl | ⟨above, directory, rfl⟩
    · rfl
    · rw [List.dropLast_concat, List.dropLast_concat, List.getLast?_concat, List.append_assoc,
        List.singleton_append, dropTheme_append_pair]
      simp only [Option.some.injEq]

/-- There is no view without a part named `styles`, or with nothing after the last one. -/
theorem viewOf_eq_none_iff (style : Path) :
    viewOf style = none ↔
      .normal "styles" ∉ style.components ∨
        style.components.getLast? = some (.normal "styles") := by
  rcases Text.splitAtLast?_cases (Component.normal "styles") style.components with
    ⟨hnotMem, hnone⟩ | ⟨base, rest, hsplit, hnotMem, hsome⟩
  · have hview : viewOf style = none := by rw [viewOf, splitAtStyles?, hnone]
    exact iff_of_true hview (.inl hnotMem)
  · rcases List.eq_nil_or_concat' rest with rfl | ⟨below, last, rfl⟩
    · have hview : viewOf style = none := by rw [viewOf, splitAtStyles?, hsome]
      exact iff_of_true hview (.inr (by simp [hsplit]))
    · -- The last part comes after the last one named `styles`.
      obtain ⟨path, hview, -⟩ := exists_viewOf hsplit hnotMem (by simp)
      have hend : style.components.getLast? = some last := by
        rw [hsplit, ← List.cons_append, ← List.append_assoc, List.getLast?_concat]
      refine iff_of_false (by simp [hview]) ?_
      rintro (habsent | hstyles)
      · exact habsent (by simp [hsplit])
      · obtain rfl := Option.some.inj (hend.symm.trans hstyles)
        exact hnotMem (by simp)

/-- The view of a style is its path with the last `styles` rewritten to `views`: a theme before it
is dropped, and the last part takes the extension `xml`.  It is missing exactly if no part is named
`styles` or the last one so named is the last part of all.  It is the same for all spellings of the
path. -/
theorem companion_rewrites_last_styles (root : Path) (locale : String) (style : Path) :
    ((alloy root locale).companion style = none ↔
      .normal "styles" ∉ style.components ∨
        style.components.getLast? = some (.normal "styles")) ∧
    (∀ base rest, style.components = base ++ .normal "styles" :: rest →
      .normal "styles" ∉ rest → rest ≠ [] →
      ∃ view below last renamed, (alloy root locale).companion style = some view ∧
        rest = below ++ [last] ∧ last.WithExtension "xml" renamed ∧
        view.components =
          (if base.dropLast.getLast? = some (.normal "themes") then base.dropLast.dropLast
            else base) ++ .normal "views" :: (below ++ [renamed])) ∧
    ∀ other, style.SameWay other →
      (alloy root locale).companion other = (alloy root locale).companion style := by
  refine ⟨viewOf_eq_none_iff style, fun base rest hsplit hlast hrest => ?_,
    fun other hother => ?_⟩
  · obtain ⟨path, hview, hcomponents⟩ := exists_viewOf hsplit hlast hrest
    obtain ⟨below, last, rfl⟩ := (List.eq_nil_or_concat' rest).resolve_left hrest
    have hstep : last.IsStep :=
      (hsplit ▸ Path.areProper_components style).isStep_of_mem (by simp)
    rw [← List.cons_append, ← List.append_assoc] at hcomponents
    obtain ⟨renamed, hrenamed, hrenamedComponents⟩ := Path.exists_components_withExtension
      hcomponents hstep "xml" (by decide) (by decide) (by decide)
    refine ⟨_, below, last, renamed, hview, rfl, hrenamed, ?_⟩
    rw [hrenamedComponents, dropTheme_eq, List.append_assoc, List.cons_append]
  · show viewOf other = viewOf style
    rw [viewOf, viewOf, hother.components_eq]

/-- The styles of a theme, spelled with a doubled slash, a `.` and a slash at the end, have their
view below the directory that holds the themes. -/
theorem companion_darkForms :
    ((alloy ⟨"shop"⟩ "en").companion ⟨"./app//themes/./dark/styles/forms/index.v2.tss/"⟩).map
      Path.components =
        some (Path.components ⟨"./app/views/forms/index.v2.xml"⟩) := by
  have hspelled : Path.SameWay ⟨"./app/themes/dark/styles/forms/index.v2.tss"⟩
      ⟨"./app//themes/./dark/styles/forms/index.v2.tss/"⟩ :=
    .trans _ _ _ (.rel _ _ (.slash "./app" "themes/dark/styles/forms/index.v2.tss"))
      (.trans _ _ _ (.rel _ _ (.dot "./app//themes" "dark/styles/forms/index.v2.tss"))
        (.rel _ _ (.slashAtEnd (by decide))))
  have hparts : Path.components ⟨"./app/themes/dark/styles/forms/index.v2.tss"⟩ =
      [.current, .normal "app", .normal "themes", .normal "dark"] ++
        .normal "styles" :: [.normal "forms", .normal "index.v2.tss"] := by
    decide +kernel
  obtain ⟨-, hview, hsame⟩ := companion_rewrites_last_styles ⟨"shop"⟩ "en"
    ⟨"./app/themes/dark/styles/forms/index.v2.tss"⟩
  obtain ⟨view, below, last, renamed, hfound, hrest, hrenamed, hcomponents⟩ :=
    hview _ _ hparts (by decide) (by decide)
  have hrest : [.normal "forms"] ++ [.normal "index.v2.tss"] = below ++ [last] := hrest
  obtain ⟨rfl, hlast⟩ := List.append_inj' hrest rfl
  obtain rfl : .normal "index.v2.tss" = last := List.singleton_inj.mp hlast
  have hxml : Component.WithExtension "xml" (.normal ("index.v2" ++ "." ++ "tss"))
      (.normal ("index.v2" ++ "." ++ "xml")) := .replaced (by decide) (by decide)
  rw [hsame _ hspelled, hfound, Option.map_some, hcomponents, hrenamed.unique hxml]
  decide +kernel

end Project

end StyleCompletion
