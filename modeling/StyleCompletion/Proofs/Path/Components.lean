/-
Paths and their parts.

The parts of a path are read off the segments between its slashes.  Here a path is put together
from parts again: joining a path with the text of a part appends that part, so a path that is
built from the parts of another one has these parts, however the other one was written.  The
extension of the file that a path leads to is a matter of the last part alone.
-/
import StyleCompletion.Path
import StyleCompletion.Proofs.Text.Runs

namespace StyleCompletion

/-! ## The last place of an entry -/

/-- A list is cut at the last place of an entry. -/
theorem Text.splitAtLast?_append_cons {α : Type} [BEq α] [LawfulBEq α] {x : α}
    {before after : List α} (h : x ∉ after) :
    splitAtLast? x (before ++ x :: after) = some (before, after) := by
  have hnone {xs : List α} (hxs : x ∉ xs) : splitAtLast? x xs = none := by
    induction xs with
    | nil => rfl
    | cons y rest ih =>
        rw [List.mem_cons, not_or] at hxs
        obtain ⟨hy, hrest⟩ := hxs
        have hne : ¬y = x := fun heq => hy heq.symm
        simp [splitAtLast?, ih hrest, hne]
  induction before with
  | nil => simp [splitAtLast?, hnone h]
  | cons y before ih => simp [splitAtLast?, ih]

/-- A list is cut at the last place of an entry, or does not hold it. -/
theorem Text.splitAtLast?_cases {α : Type} [BEq α] [LawfulBEq α] (x : α) (xs : List α) :
    x ∉ xs ∧ splitAtLast? x xs = none ∨
      ∃ before after, xs = before ++ x :: after ∧ x ∉ after ∧
        splitAtLast? x xs = some (before, after) := by
  induction xs with
  | nil => exact .inl ⟨List.not_mem_nil, rfl⟩
  | cons y rest ih =>
      rcases ih with ⟨hnotMem, hnone⟩ | ⟨before, after, rfl, hnotMem, hsome⟩
      · by_cases hy : y = x
        · exact .inr ⟨[], rest, by rw [hy, List.nil_append], hnotMem,
            by simp [splitAtLast?, hnone, hy]⟩
        · have hx : x ≠ y := fun heq => hy heq.symm
          exact .inl ⟨by simp [hx, hnotMem], by simp [splitAtLast?, hnone, hy]⟩
      · exact .inr ⟨y :: before, after, rfl, hnotMem, by simp [splitAtLast?, hsome]⟩

theorem Text.splitAtLast?_eq_some_iff {α : Type} [BEq α] [LawfulBEq α] {x : α}
    {xs before after : List α} :
    splitAtLast? x xs = some (before, after) ↔ xs = before ++ x :: after ∧ x ∉ after := by
  constructor
  · intro h
    rcases splitAtLast?_cases x xs with ⟨-, hnone⟩ | ⟨front, back, hsplit, hnotMem, hsome⟩
    · exact absurd (hnone.symm.trans h) (by simp)
    · obtain ⟨rfl, rfl⟩ := Prod.mk.inj (Option.some.inj (hsome.symm.trans h))
      exact ⟨hsplit, hnotMem⟩
  · rintro ⟨rfl, hnotMem⟩
    exact splitAtLast?_append_cons hnotMem

/-! ## Segments -/

/-- A part that a segment of a path stands for. -/
structure Component.IsStep (component : Component) : Prop where
  not_idle : Path.isIdle component.text = false
  no_slash : '/' ∉ component.text.toList
  reads_back : Path.componentOf component.text = component

instance (component : Component) : Decidable component.IsStep :=
  decidable_of_iff
    (Path.isIdle component.text = false ∧ '/' ∉ component.text.toList ∧
      Path.componentOf component.text = component)
    ⟨fun h => ⟨h.1, h.2.1, h.2.2⟩, fun h => ⟨h.not_idle, h.no_slash, h.reads_back⟩⟩

namespace Path

theorem segments_of_no_slash {text : String} (h : '/' ∉ text.toList) :
    segments ⟨text⟩ = [text] := by
  rw [segments, List.splitOn_eq_singleton h, List.map_singleton, String.ofList_toList]

/-- A slash ends a segment. -/
theorem segments_append_slash (front back : String) :
    segments ⟨front ++ "/" ++ back⟩ = segments ⟨front⟩ ++ segments ⟨back⟩ := by
  have htext : (front ++ "/" ++ back).toList = front.toList ++ '/' :: back.toList := by simp
  rw [segments, htext, List.splitOn_append_cons_self, List.map_append]
  rfl

theorem segments_ne_nil (path : Path) : path.segments ≠ [] := by
  rw [segments, Ne, List.map_eq_nil_iff]
  exact List.splitOn_ne_nil '/' _

/-- No segment holds a slash. -/
theorem slash_notMem_of_mem_segments {path : Path} {segment : String}
    (h : segment ∈ path.segments) : '/' ∉ segment.toList := by
  have hparts {cs part : List Char} (hpart : part ∈ cs.splitOn '/') : '/' ∉ part := by
    induction cs generalizing part with
    | nil =>
        rw [List.splitOn_nil, List.mem_singleton] at hpart
        simp [hpart]
    | cons c rest ih =>
        rw [List.splitOn_cons_eq_if_modifyHead] at hpart
        split at hpart
        · rcases List.mem_cons.mp hpart with rfl | hpart
          · simp
          · exact ih hpart
        · next hc =>
            -- The character goes to the first part of what follows it.
            obtain ⟨first, more, hsplit⟩ :=
              List.exists_cons_of_ne_nil (List.splitOn_ne_nil '/' rest)
            rw [hsplit, List.modifyHead_cons] at hpart
            rcases List.mem_cons.mp hpart with rfl | hpart
            · have hfirst : '/' ∉ first := ih (by simp [hsplit])
              simpa [hfirst] using fun heq => hc (by simp [← heq])
            · exact ih (by simp [hsplit, hpart])
  obtain ⟨part, hpart, rfl⟩ := List.mem_map.mp h
  rw [String.toList_ofList]
  exact hparts hpart

/-- Segments that are joined by slashes are read back. -/
theorem segments_intercalate {segments : List String} (hne : segments ≠ [])
    (h : ∀ segment ∈ segments, '/' ∉ segment.toList) :
    Path.segments ⟨String.intercalate "/" segments⟩ = segments := by
  have hslash : "/".toList = ['/'] := rfl
  have hparts : ∀ part ∈ segments.map String.toList, '/' ∉ part := by simpa using h
  rw [Path.segments, String.toList_intercalate, hslash,
    List.splitOn_intercalate '/' hparts (by simpa using hne), List.map_map]
  simp

/-! ## Parts -/

/-- What a path starts with besides its segments. -/
def leading (path : Path) : List Component :=
  if path.isAbsolute then [.root] else if path.segments.head? = some "." then [.current] else []

/-- The parts that segments stand for. -/
def stepsOf (segments : List String) : List Component :=
  (segments.filter (!isIdle ·)).map componentOf

theorem components_eq (path : Path) :
    path.components = path.leading ++ stepsOf path.segments := rfl

theorem leading_cases (path : Path) :
    path.leading = [] ∨ path.leading = [.root] ∨ path.leading = [.current] := by
  rw [leading]
  split
  · simp
  · split <;> simp

theorem stepsOf_append (front back : List String) :
    stepsOf (front ++ back) = stepsOf front ++ stepsOf back := by
  simp [stepsOf]

theorem stepsOf_singleton {segment : String} (h : isIdle segment = false) :
    stepsOf [segment] = [componentOf segment] := by
  simp [stepsOf, h]

theorem stepsOf_text {component : Component} (h : component.IsStep) :
    stepsOf [component.text] = [component] := by
  rw [stepsOf_singleton h.not_idle, h.reads_back]

theorem stepsOf_of_isIdle {segments : List String}
    (h : ∀ segment ∈ segments, isIdle segment = true) :
    stepsOf segments = [] := by
  rw [stepsOf, List.map_eq_nil_iff, List.filter_eq_nil_iff]
  intro segment hmem
  simp [h segment hmem]

/-- Every part but a leading one is a step. -/
theorem isStep_of_mem_stepsOf {path : Path} {component : Component}
    (h : component ∈ stepsOf path.segments) : component.IsStep := by
  obtain ⟨segment, hmem, rfl⟩ := List.mem_map.mp h
  obtain ⟨hmem, hidle⟩ := List.mem_filter.mp hmem
  have hidle : isIdle segment = false := by simpa using hidle
  have hslash := slash_notMem_of_mem_segments hmem
  by_cases hparent : segment = ".."
  · subst hparent
    decide
  · have hnormal : componentOf segment = .normal segment := if_neg hparent
    rw [hnormal]
    exact ⟨hidle, hslash, hnormal⟩

/-! ## Joining -/

/-- A text behind that of a path adds the parts of the segments that it adds. -/
theorem components_append_text {text more : String} {front idle back : List String}
    (htext : text ≠ "") (hfront : front ≠ [])
    (hold : segments ⟨text⟩ = front ++ idle) (hidle : ∀ segment ∈ idle, isIdle segment = true)
    (hnew : segments ⟨text ++ more⟩ = front ++ back) :
    components ⟨text ++ more⟩ = components ⟨text⟩ ++ stepsOf back := by
  -- Neither the first character nor the first segment changes.
  have hleading : leading ⟨text ++ more⟩ = leading ⟨text⟩ := by
    obtain ⟨c, cs, hcs⟩ := List.exists_cons_of_ne_nil (by simpa using htext : text.toList ≠ [])
    obtain ⟨first, rest, rfl⟩ := List.exists_cons_of_ne_nil hfront
    simp [leading, isAbsolute, hold, hnew, hcs]
  rw [components_eq, components_eq, hleading, hnew, hold, stepsOf_append, stepsOf_append,
    stepsOf_of_isIdle hidle, List.append_nil, List.append_assoc]

/-- A path that is joined with the text of a step has that step as its last part. -/
theorem components_join (path : Path) {component : Component} (h : component.IsStep) :
    (path.join component.text).components = path.components ++ [component] := by
  generalize hsegment : component.text = segment
  have hstep : stepsOf [segment] = [component] := hsegment ▸ stepsOf_text h
  have hself : segments ⟨segment⟩ = [segment] := segments_of_no_slash (hsegment ▸ h.no_slash)
  have hhead : segment.toList.head? ≠ some '/' :=
    fun hhead => h.no_slash (hsegment ▸ List.mem_of_head? hhead)
  obtain ⟨text⟩ := path
  rw [join, if_neg hhead, ← hstep]
  by_cases hempty : text = ""
  · -- The step stands alone.
    have hdot : segment ≠ "." := by
      rintro rfl
      exact absurd (hsegment ▸ h.not_idle) (by decide)
    have hnothing : components ⟨""⟩ = [] := by decide
    subst hempty
    simp [hnothing, components_eq, leading, isAbsolute, hhead, hself, hdot]
  · by_cases hslash : text.toList.getLast? = some '/'
    · -- The segment goes in the place of the empty one behind the last slash.
      obtain ⟨front, hfront⟩ := List.getLast?_eq_some_iff.mp hslash
      have htext : text = String.ofList front ++ "/" := by
        rw [← String.toList_inj, hfront]
        simp
      have hold : segments ⟨text⟩ = segments ⟨String.ofList front⟩ ++ [""] := by
        rw [htext, ← String.append_empty (s := String.ofList front ++ "/"), segments_append_slash]
        rfl
      rw [if_pos (by simp [hslash])]
      refine components_append_text hempty (segments_ne_nil _) hold (by decide) ?_
      rw [htext, segments_append_slash, hself]
    · rw [if_neg (by simp [hslash, hempty]), String.append_assoc]
      refine components_append_text hempty (segments_ne_nil ⟨text⟩) (List.append_nil _).symm
        (by simp) ?_
      rw [← String.append_assoc, segments_append_slash, hself]

/-- Joining step after step appends the steps. -/
theorem components_foldl_join {steps : List Component} (base : Path)
    (h : ∀ step ∈ steps, step.IsStep) :
    (steps.foldl (fun path step => path.join step.text) base).components =
      base.components ++ steps := by
  induction steps generalizing base with
  | nil => simp
  | cons step rest ih =>
      obtain ⟨hstep, hrest⟩ := List.forall_mem_cons.mp h
      rw [List.foldl_cons, ih _ hrest, components_join base hstep, List.append_assoc,
        List.singleton_append]

/-- The path that leads from `base` along these names. -/
def under (base : Path) (names : List String) : Path := names.foldl join base

theorem components_under {names : List String} (base : Path)
    (h : ∀ name ∈ names, (Component.normal name).IsStep) :
    (base.under names).components = base.components ++ names.map .normal := by
  have hsteps : ∀ step ∈ names.map Component.normal, step.IsStep := by simpa using h
  rw [← components_foldl_join base hsteps, List.foldl_map]
  rfl

/-! ## Building a path from its parts -/

/-- Parts as a path has them: all are steps, but the first may be the root or a `.`. -/
structure AreProper (components : List Component) : Prop where
  head : ∀ first, components.head? = some first →
    first.IsStep ∨ first = .root ∨ first = .current
  tail : ∀ step ∈ components.tail, step.IsStep

theorem areProper_components (path : Path) : AreProper path.components := by
  have hsteps (step : Component) (hmem : step ∈ stepsOf path.segments) : step.IsStep :=
    isStep_of_mem_stepsOf hmem
  rw [components_eq]
  rcases path.leading_cases with hnil | hroot | hcurrent
  · rw [hnil, List.nil_append]
    exact ⟨fun first hfirst => .inl (hsteps first (List.mem_of_head? hfirst)),
      fun step hmem => hsteps step (List.mem_of_mem_tail hmem)⟩
  · rw [hroot]
    exact ⟨by simp, hsteps⟩
  · rw [hcurrent]
    exact ⟨by simp, hsteps⟩

theorem AreProper.append {components steps : List Component} (h : AreProper components)
    (hsteps : ∀ step ∈ steps, step.IsStep) : AreProper (components ++ steps) := by
  cases components with
  | nil =>
      exact ⟨fun first hfirst => .inl (hsteps first (List.mem_of_head? hfirst)),
        fun step hmem => hsteps step (List.mem_of_mem_tail hmem)⟩
  | cons first rest =>
      refine ⟨h.head, fun step hmem => ?_⟩
      exact (List.mem_append.mp hmem).elim (h.tail step) (hsteps step)

/-- The first parts of a path are parts of a path. -/
theorem AreProper.of_prefix {front components : List Component} (h : AreProper components)
    (hfront : front <+: components) : AreProper front := by
  obtain ⟨back, rfl⟩ := hfront
  cases front with
  | nil => exact ⟨by simp, by simp⟩
  | cons first rest => exact ⟨h.head, fun step hmem => h.tail step (List.mem_append_left _ hmem)⟩

/-- What follows another part is a step. -/
theorem AreProper.isStep_of_mem {base rest : List Component} {part step : Component}
    (h : AreProper (base ++ part :: rest)) (hmem : step ∈ rest) : step.IsStep := by
  apply h.tail
  cases base <;> simp [hmem]

/-- A path that is built from proper parts has these parts. -/
theorem components_ofComponents {components : List Component} (h : AreProper components) :
    (ofComponents components).components = components := by
  cases components with
  | nil => decide
  | cons first rest =>
      have hfirst : (join ⟨""⟩ first.text).components = [first] := by
        rcases h.head first rfl with hstep | rfl | rfl
        · rw [components_join _ hstep]
          rfl
        · decide
        · decide
      have hrest : ∀ step ∈ rest, step.IsStep := h.tail
      rw [ofComponents, List.foldl_cons, components_foldl_join _ hrest, hfirst,
        List.singleton_append]

/-! ## Extensions -/

section

variable {stem extension : String} (hdot : '.' ∉ extension.toList) (hne : extension ≠ "")

include hdot hne

/-- A name with an extension does not consist of dots. -/
theorem append_extension_ne {dots : String} (hdots : ∀ c ∈ dots.toList, c = '.') :
    stem ++ "." ++ extension ≠ dots := by
  rintro rfl
  obtain ⟨c, rest, hcons⟩ := List.exists_cons_of_ne_nil (by simpa using hne : extension.toList ≠ [])
  have hmem : c ∈ extension.toList := by simp [hcons]
  obtain rfl : c = '.' := hdots c (by simp [hmem])
  exact hdot hmem

/-- A file name with an extension is cut before it. -/
theorem splitName_append (hstem : stem ≠ "") :
    splitName (stem ++ "." ++ extension) = (stem, some extension) := by
  have htext : (stem ++ "." ++ extension).toList = stem.toList ++ '.' :: extension.toList := by
    simp
  have hname : stem ++ "." ++ extension ≠ ".." := append_extension_ne hdot hne (by simp)
  rw [splitName, htext, Text.splitAtLast?_append_cons hdot]
  simp [hname, hstem]

theorem isStep_append_extension (hstem : '/' ∉ stem.toList) (hslash : '/' ∉ extension.toList) :
    (Component.normal (stem ++ "." ++ extension)).IsStep where
  not_idle := by
    have hempty : stem ++ "." ++ extension ≠ "" := append_extension_ne hdot hne (by simp)
    have hcurrent : stem ++ "." ++ extension ≠ "." := append_extension_ne hdot hne (by simp)
    simp only [Component.text, isIdle, hempty, hcurrent, decide_false, Bool.or_false]
  no_slash := by simp [Component.text, hstem, hslash]
  reads_back := if_neg (append_extension_ne hdot hne (by simp))

end

/-- A path is absolute when nothing stands before its first slash. -/
theorem isAbsolute_iff {path : Path} :
    path.isAbsolute = true ↔ ∃ rest, rest ≠ [] ∧ path.segments = "" :: rest := by
  rw [isAbsolute, segments, decide_eq_true_eq]
  cases path.text.toList with
  | nil => simp
  | cons c cs =>
      obtain ⟨first, more, hsplit⟩ := List.exists_cons_of_ne_nil (List.splitOn_ne_nil '/' cs)
      rw [List.splitOn_cons_eq_if_modifyHead, hsplit]
      by_cases hc : c = '/' <;> simp [hc]

/-- What a path starts with is told by the segments before any that leads somewhere. -/
theorem leading_of_segments {path : Path} {before after : List String} {segment : String}
    (h : path.segments = before ++ segment :: after) (hsegment : isIdle segment = false) :
    path.leading =
      if before.head? = some "" then [.root]
      else if before.head? = some "." then [.current] else [] := by
  have hne : segment ≠ "" ∧ segment ≠ "." := by simpa [isIdle] using hsegment
  have habsolute : path.isAbsolute = true ↔ before.head? = some "" := by
    rw [isAbsolute_iff, h]
    cases before with
    | nil => simp [hne.1]
    | cons first rest => simp
  have hcurrent : path.segments.head? = some "." ↔ before.head? = some "." := by
    rw [h]
    cases before with
    | nil => simp [hne.2]
    | cons first rest => simp
  simp only [leading, habsolute, hcurrent]

/-- The last part of a path, if it is not the leading one, is that of a segment with only idle ones
after it. -/
theorem exists_last_segment {path : Path} {front : List Component} {last : Component}
    (h : path.components = front ++ [last]) (hroot : last ≠ .root) (hcurrent : last ≠ .current) :
    ∃ before segment idle, path.segments = before ++ segment :: idle ∧
      (∀ segment ∈ idle, isIdle segment = true) ∧ isIdle segment = false ∧
      componentOf segment = last ∧ path.leading ++ stepsOf before = front := by
  obtain ⟨steps, idle, hsegments, hsteps, hidle⟩ := Text.exists_run_at_end isIdle path.segments
  rw [components_eq, hsegments, stepsOf_append, stepsOf_of_isIdle hidle, List.append_nil] at h
  cases hlast : steps.getLast? with
  | none =>
      -- Without a step there are leading parts only.
      have hmem : last ∈ path.leading ++ stepsOf steps := by simp [h]
      rw [List.getLast?_eq_none_iff.mp hlast] at hmem
      rcases path.leading_cases with hnil | hstart | hstart
      · simp [hnil, stepsOf] at hmem
      · simp [hstart, stepsOf, hroot] at hmem
      · simp [hstart, stepsOf, hcurrent] at hmem
  | some segment =>
      obtain ⟨before, rfl⟩ := List.getLast?_eq_some_iff.mp hlast
      have hsegment : isIdle segment = false := hsteps segment hlast
      rw [stepsOf_append, stepsOf_singleton hsegment, ← List.append_assoc] at h
      obtain ⟨hfront, hcomponent⟩ := List.append_inj' h rfl
      exact ⟨before, segment, idle, by simpa using hsegments, hidle, hsegment,
        List.singleton_inj.mp hcomponent, hfront⟩

/-- A path that leads to a file has a segment with its name, and only idle ones after it. -/
theorem exists_segments_of_components {path : Path} {front : List Component} {name : String}
    (h : path.components = front ++ [.normal name]) :
    ∃ before idle, path.segments = before ++ name :: idle ∧
      (∀ segment ∈ idle, isIdle segment = true) ∧ isIdle name = false ∧ name ≠ ".." ∧
      path.leading ++ stepsOf before = front := by
  obtain ⟨before, segment, idle, hsegments, hidle, hsegment, hnormal, hfront⟩ :=
    exists_last_segment h (by simp) (by simp)
  rw [componentOf] at hnormal
  split at hnormal
  · exact absurd hnormal (by simp)
  · next hparent =>
      obtain rfl : segment = name := Component.normal.inj hnormal
      exact ⟨before, idle, hsegments, hidle, hsegment, hparent, hfront⟩

/-- Read backwards, a path starts with that segment. -/
theorem dropWhile_reverse_segments {path : Path} {before idle : List String} {segment : String}
    (hsegments : path.segments = before ++ segment :: idle)
    (hidle : ∀ segment ∈ idle, isIdle segment = true) (hsegment : isIdle segment = false) :
    path.segments.reverse.dropWhile isIdle = segment :: before.reverse := by
  rw [hsegments, List.append_cons, Text.dropWhile_reverse_run (Text.stopsAt_concat hsegment) hidle,
    List.reverse_concat]

/-- The extension of a file is replaced in the last part of its path. -/
theorem components_withExtension {path : Path} {front : List Component} {name extension : String}
    (h : path.components = front ++ [.normal name])
    (hrenamed : (Component.normal ((splitName name).1 ++ "." ++ extension)).IsStep) :
    (path.withExtension extension).components =
      front ++ [.normal ((splitName name).1 ++ "." ++ extension)] := by
  obtain ⟨before, idle, hsegments, hidle, hname, hparent, rfl⟩ := exists_segments_of_components h
  have hdrop := dropWhile_reverse_segments hsegments hidle hname
  generalize hfile : (splitName name).1 ++ "." ++ extension = renamed at hrenamed
  have hpath : path.withExtension extension = ⟨String.intercalate "/" (before ++ [renamed])⟩ := by
    simp only [withExtension, hdrop]
    simp [hparent, hfile]
  have hrenamedSegments : (path.withExtension extension).segments = before ++ [renamed] := by
    rw [hpath]
    refine segments_intercalate (by simp) (fun segment hmem => ?_)
    rcases List.mem_append.mp hmem with hmem | hmem
    · exact slash_notMem_of_mem_segments (hsegments ▸ List.mem_append_left _ hmem)
    · rw [List.mem_singleton.mp hmem]
      exact hrenamed.no_slash
  have hstep : stepsOf [renamed] = [.normal renamed] := stepsOf_text hrenamed
  rw [components_eq, leading_of_segments hrenamedSegments hrenamed.not_idle,
    ← leading_of_segments hsegments hname, hrenamedSegments, stepsOf_append, hstep,
    List.append_assoc]

/-- A path that ends in a `..` leads to no file whose extension could be replaced. -/
theorem withExtension_of_parent {path : Path} {front : List Component}
    (h : path.components = front ++ [.parent]) (extension : String) :
    path.withExtension extension = path := by
  obtain ⟨before, segment, idle, hsegments, hidle, hsegment, hparent, -⟩ :=
    exists_last_segment h (by simp) (by simp)
  obtain rfl : segment = ".." := by
    rw [componentOf] at hparent
    split at hparent
    · assumption
    · exact absurd hparent (by simp)
  have hdrop := dropWhile_reverse_segments hsegments hidle hsegment
  simp only [withExtension, hdrop, if_true]

end Path

end StyleCompletion
