/-
The labels of images.

A label is written from three things: the directories on the way to an image, its stem without a
density, and its extension.  They can be read off the label again, by its slashes and its last dot.
So two files have one label exactly if they are one image in densities that may differ.
-/
import StyleCompletion.Image
import StyleCompletion.Proofs.Path.Components

namespace StyleCompletion

/-! ## Densities -/

/-- `stem` is `base` in a density, that is, with an `@`, digits of ASCII and an `x` after it. -/
def InDensity (base stem : List Char) : Prop :=
  ∃ digits, digits ≠ [] ∧ (∀ d ∈ digits, d.isDigit = true) ∧ stem = base ++ '@' :: (digits ++ ['x'])

/-- `base` is left of `stem` when one density at the end, if there is any, is removed. -/
inductive WithoutDensity : List Char → List Char → Prop where
  | removed {base stem : List Char} (h : InDensity base stem) : WithoutDensity stem base
  | kept {stem : List Char} (h : ∀ base, ¬InDensity base stem) : WithoutDensity stem stem

theorem isDensity_iff {cs : List Char} :
    isDensity cs = true ↔
      ∃ digits, digits ≠ [] ∧ (∀ d ∈ digits, d.isDigit = true) ∧ cs = digits ++ ['x'] := by
  constructor
  · intro h
    rw [isDensity] at h
    split at h
    · next digits hreverse =>
        rw [Bool.and_eq_true, Bool.not_eq_true', List.isEmpty_eq_false_iff, List.all_eq_true] at h
        refine ⟨digits.reverse, by simpa using h.1, fun d hd => h.2 d (List.mem_reverse.mp hd), ?_⟩
        rw [← List.reverse_cons, ← hreverse, List.reverse_reverse]
    · exact absurd h (by simp)
  · rintro ⟨digits, hne, hdigits, rfl⟩
    have hall : digits.all Char.isDigit = true := List.all_eq_true.mpr hdigits
    simp [isDensity, hne, List.all_reverse, hall]

/-- A density is what follows the last `@`. -/
theorem inDensity_iff {base stem : List Char} :
    InDensity base stem ↔
      ∃ density, isDensity density = true ∧ Text.splitAtLast? '@' stem = some (base, density) := by
  simp only [InDensity, isDensity_iff, Text.splitAtLast?_eq_some_iff]
  constructor
  · rintro ⟨digits, hne, hdigits, rfl⟩
    refine ⟨digits ++ ['x'], ⟨digits, hne, hdigits, rfl⟩, rfl, fun hmem => ?_⟩
    rcases List.mem_append.mp hmem with hmem | hmem
    · exact absurd (hdigits _ hmem) (by decide)
    · exact absurd hmem (by decide)
  · rintro ⟨_, ⟨digits, hne, hdigits, rfl⟩, rfl, -⟩
    exact ⟨digits, hne, hdigits, rfl⟩

theorem plainStem_of_inDensity {base stem : List Char} (h : InDensity base stem) :
    plainStem stem = base := by
  obtain ⟨density, hdensity, hsplit⟩ := inDensity_iff.mp h
  simp only [plainStem, hsplit, hdensity, if_true]

theorem plainStem_of_not_inDensity {stem : List Char} (h : ∀ base, ¬InDensity base stem) :
    plainStem stem = stem := by
  rw [plainStem]
  split
  · next base density hsplit =>
      refine if_neg fun hdensity => h base ?_
      exact inDensity_iff.mpr ⟨density, hdensity, hsplit⟩
  · rfl

/-- A stem without its density is what one density that is removed, if there is any, leaves. -/
theorem plainStem_eq_iff {stem base : List Char} :
    plainStem stem = base ↔ WithoutDensity stem base := by
  constructor
  · rintro rfl
    by_cases h : ∃ base, InDensity base stem
    · obtain ⟨base, hbase⟩ := h
      rw [plainStem_of_inDensity hbase]
      exact .removed hbase
    · have hnone : ∀ base, ¬InDensity base stem := fun base hbase => h ⟨base, hbase⟩
      rw [plainStem_of_not_inDensity hnone]
      exact .kept hnone
  · rintro (h | h)
    · exact plainStem_of_inDensity h
    · exact plainStem_of_not_inDensity h

/-- What is left of a stem starts it. -/
theorem WithoutDensity.isPrefix {stem base : List Char} (h : WithoutDensity stem base) :
    base <+: stem := by
  cases h with
  | removed h =>
      obtain ⟨digits, -, -, rfl⟩ := h
      exact List.prefix_append ..
  | kept h => exact List.prefix_rfl

/-! ## File names -/

namespace Path

/-- The last dot of a name tells stem and extension. -/
theorem append_extension_inj {stem other extension otherExtension : String}
    (hdot : '.' ∉ extension.toList) (hotherDot : '.' ∉ otherExtension.toList)
    (h : stem ++ "." ++ extension = other ++ "." ++ otherExtension) :
    stem = other ∧ extension = otherExtension := by
  have hchars : stem.toList ++ '.' :: extension.toList =
      other.toList ++ '.' :: otherExtension.toList := by
    simpa using congrArg String.toList h
  have hsplit : Text.splitAtLast? '.' (stem.toList ++ '.' :: extension.toList) =
      some (stem.toList, extension.toList) := Text.splitAtLast?_append_cons hdot
  rw [hchars, Text.splitAtLast?_append_cons hotherDot] at hsplit
  obtain ⟨hstem, hextension⟩ := Prod.mk.inj (Option.some.inj hsplit)
  exact ⟨(String.toList_inj.mp hstem).symm, (String.toList_inj.mp hextension).symm⟩

/-- A name with an extension is its stem, which is not empty, a dot and the extension. -/
theorem eq_of_splitName {name stem extension : String}
    (h : splitName name = (stem, some extension)) :
    name = stem ++ "." ++ extension ∧ stem ≠ "" ∧ '.' ∉ extension.toList := by
  rw [splitName] at h
  split at h
  · next before after hsplit =>
      obtain ⟨hname, hdot⟩ := Text.splitAtLast?_eq_some_iff.mp hsplit
      split at h
      · exact absurd h (by simp)
      · next hcut =>
          obtain ⟨rfl, hafter⟩ := Prod.mk.inj h
          obtain rfl := Option.some.inj hafter
          refine ⟨?_, ?_, by simpa using hdot⟩
          · rw [← String.toList_inj, hname]
            simp
          · simp only [Bool.or_eq_true, not_or, List.isEmpty_iff] at hcut
            simpa using hcut.2
  · exact absurd h (by simp)

/-- Names that are written with a slash before each are segments of a path. -/
theorem segments_append_join {names : List String} (front : String)
    (h : ∀ name ∈ names, '/' ∉ name.toList) :
    segments ⟨front ++ String.join (names.map ("/" ++ ·))⟩ = segments ⟨front⟩ ++ names := by
  induction names generalizing front with
  | nil => simp
  | cons name names ih =>
      obtain ⟨hname, hnames⟩ := List.forall_mem_cons.mp h
      rw [List.map_cons, String.join_cons, ← String.append_assoc, ← String.append_assoc,
        ih _ hnames, segments_append_slash, segments_of_no_slash hname, List.append_assoc]
      rfl

/-- The names along a path without a root, a `.` or a `..` are steps. -/
theorem isStep_of_components {path : Path} {names : List String}
    (h : path.components = names.map .normal) : ∀ name ∈ names, (Component.normal name).IsStep := by
  intro name hmem
  have hproper := areProper_components path
  rw [h] at hproper
  -- A name is a step also if it is the first part, which may not be one.
  have hfirst : (names.map Component.normal).head? = some (.normal name) ∨
      Component.normal name ∈ (names.map Component.normal).tail := by
    cases names with
    | nil => exact absurd hmem List.not_mem_nil
    | cons first rest =>
        rcases List.mem_cons.mp hmem with rfl | hmem
        · exact .inl rfl
        · exact .inr (List.mem_map_of_mem hmem)
  rcases hfirst with hfirst | hlater
  · exact (hproper.head _ hfirst).resolve_right (by simp)
  · exact hproper.tail _ hlater

end Path

/-! ## Reading a label -/

/-- The label of an image in these directories. -/
def labelOf (directories : List String) (base extension : String) : String :=
  String.join (directories.map ("/" ++ ·)) ++ "/" ++ base ++ "." ++ extension

/-- Directories, stem and extension as labels have them. -/
structure AreLabelParts (directories : List String) (base extension : String) : Prop where
  slash_directories : ∀ name ∈ directories, '/' ∉ name.toList
  slash_base : '/' ∉ base.toList
  slash_extension : '/' ∉ extension.toList
  dot_extension : '.' ∉ extension.toList

namespace AreLabelParts

variable {directories others : List String} {base other extension otherExtension : String}

/-- The segments of a label are the directories and the file. -/
theorem segments_labelOf (h : AreLabelParts directories base extension) :
    Path.segments ⟨labelOf directories base extension⟩ =
      "" :: (directories ++ [base ++ "." ++ extension]) := by
  have hfile : '/' ∉ (base ++ "." ++ extension).toList := by simp [h.slash_base, h.slash_extension]
  have hstart := Path.segments_append_join "" h.slash_directories
  rw [String.empty_append] at hstart
  have hlabel : labelOf directories base extension =
      String.join (directories.map ("/" ++ ·)) ++ "/" ++ (base ++ "." ++ extension) := by
    simp only [labelOf, String.append_assoc]
  rw [hlabel, Path.segments_append_slash, hstart, Path.segments_of_no_slash hfile]
  rfl

/-- A label tells its parts. -/
theorem eq_of_labelOf_eq (h : AreLabelParts directories base extension)
    (hother : AreLabelParts others other otherExtension)
    (heq : labelOf directories base extension = labelOf others other otherExtension) :
    directories = others ∧ base = other ∧ extension = otherExtension := by
  have hsegments := h.segments_labelOf
  rw [heq, hother.segments_labelOf] at hsegments
  obtain ⟨rfl, hfile⟩ := List.append_inj' (List.cons.inj hsegments).2 rfl
  exact ⟨rfl, Path.append_extension_inj h.dot_extension hother.dot_extension
    (List.singleton_inj.mp hfile).symm⟩

end AreLabelParts

/-! ## The label of a file -/

/-- The way leads through `directories` to a file with this stem and extension, which the last dot
of its name parts. -/
structure LeadsTo (way directories : List String) (stem extension : String) : Prop where
  way_eq : way = directories ++ [stem ++ "." ++ extension]
  stem_ne : stem ≠ ""
  no_dot : '.' ∉ extension.toList

/-- The ways lead to one image in densities that may differ: through the same directories, to files
with the same extension whose stems without density are the same. -/
def DensityVariants (way other : List String) : Prop :=
  ∃ directories stem otherStem extension base,
    LeadsTo way directories stem extension ∧ LeadsTo other directories otherStem extension ∧
      WithoutDensity stem.toList base ∧ WithoutDensity otherStem.toList base

section

variable {way directories others : List String} {stem otherStem extension otherExtension : String}

/-- A way leads to one file. -/
theorem LeadsTo.unique (h : LeadsTo way directories stem extension)
    (hother : LeadsTo way others otherStem otherExtension) :
    directories = others ∧ stem = otherStem ∧ extension = otherExtension := by
  obtain ⟨rfl, hfile⟩ := List.append_inj' (h.way_eq.symm.trans hother.way_eq) rfl
  exact ⟨rfl, Path.append_extension_inj h.no_dot hother.no_dot (List.singleton_inj.mp hfile)⟩

/-- A file with the extension of an image has a label. -/
theorem LeadsTo.imageLabel?_eq (h : LeadsTo way directories stem extension)
    (himage : isImageExtension extension = true) :
    imageLabel? way =
      some (labelOf directories (String.ofList (plainStem stem.toList)) extension) := by
  have hne : extension ≠ "" := by
    rintro rfl
    exact absurd himage (by decide)
  simp only [h.way_eq, imageLabel?, List.getLast?_concat,
    Path.splitName_append h.no_dot hne h.stem_ne, himage, if_true, List.dropLast_concat, labelOf]

/-- A label is that of the file to which the way leads. -/
theorem exists_leadsTo_of_imageLabel? {label : String} (h : imageLabel? way = some label) :
    ∃ directories stem extension, LeadsTo way directories stem extension ∧
      label = labelOf directories (String.ofList (plainStem stem.toList)) extension := by
  rw [imageLabel?] at h
  split at h
  · exact absurd h (by simp)
  · next name hlast =>
      obtain ⟨directories, rfl⟩ := List.getLast?_eq_some_iff.mp hlast
      rw [List.dropLast_concat] at h
      split at h
      · exact absurd h (by simp)
      · next stem extension hsplit =>
          obtain ⟨rfl, hstem, hdot⟩ := Path.eq_of_splitName hsplit
          split at h
          · exact ⟨directories, stem, extension, ⟨rfl, hstem, hdot⟩, (Option.some.inj h).symm⟩
          · exact absurd h (by simp)

/-- What a way of steps leads through and to are parts of a label. -/
theorem LeadsTo.areLabelParts (h : LeadsTo way directories stem extension)
    (hsteps : ∀ name ∈ way, (Component.normal name).IsStep) :
    AreLabelParts directories (String.ofList (plainStem stem.toList)) extension := by
  have hslash (name : String) (hname : name ∈ directories ++ [stem ++ "." ++ extension]) :
      '/' ∉ name.toList := (hsteps name (h.way_eq ▸ hname)).no_slash
  have hfile := hslash (stem ++ "." ++ extension) (by simp)
  simp only [String.toList_append, List.mem_append, not_or] at hfile
  refine ⟨fun name hname => hslash name (List.mem_append_left _ hname), ?_, hfile.2, h.no_dot⟩
  rw [String.toList_ofList]
  exact fun hmem => hfile.1.1 ((plainStem_eq_iff.mp rfl).isPrefix.subset hmem)

end

/-- Two ways of steps lead to images with one label exactly if the images are density variants. -/
theorem label_eq_iff_densityVariants {way otherWay : List String} {label other : String}
    (hsteps : ∀ name ∈ way, (Component.normal name).IsStep)
    (hotherSteps : ∀ name ∈ otherWay, (Component.normal name).IsStep)
    (hlabel : imageLabel? way = some label) (hother : imageLabel? otherWay = some other) :
    label = other ↔ DensityVariants way otherWay := by
  obtain ⟨directories, stem, extension, hleads, rfl⟩ := exists_leadsTo_of_imageLabel? hlabel
  obtain ⟨others, otherStem, otherExtension, hotherLeads, rfl⟩ :=
    exists_leadsTo_of_imageLabel? hother
  constructor
  · intro heq
    obtain ⟨rfl, hbase, rfl⟩ := (hleads.areLabelParts hsteps).eq_of_labelOf_eq
      (hotherLeads.areLabelParts hotherSteps) heq
    exact ⟨directories, stem, otherStem, extension, plainStem stem.toList, hleads, hotherLeads,
      plainStem_eq_iff.mp rfl, plainStem_eq_iff.mp (String.ofList_inj.mp hbase).symm⟩
  · rintro ⟨_, _, _, _, base, hway, hotherWay, hbase, hotherBase⟩
    obtain ⟨rfl, rfl, rfl⟩ := hleads.unique hway
    obtain ⟨rfl, rfl, rfl⟩ := hotherLeads.unique hotherWay
    rw [plainStem_eq_iff.mpr hbase, plainStem_eq_iff.mpr hotherBase]

/-- No extension of an image has a dot. -/
theorem dot_notMem_of_isImageExtension {extension : String}
    (h : isImageExtension extension = true) : '.' ∉ extension.toList := by
  intro hmem
  rw [isImageExtension, List.contains_iff_mem] at h
  have hlower : '.' ∈ (String.ofList (extension.toList.map Char.toLower)).toList := by
    rw [String.toList_ofList]
    exact List.mem_map.mpr ⟨'.', hmem, rfl⟩
  generalize String.ofList (extension.toList.map Char.toLower) = lower at h hlower
  have hnone : ∀ known ∈ imageExtensions, '.' ∉ known.toList := by decide
  exact hnone lower h hlower

/-- Two files reached by names alone have one label exactly if they are density variants: they are
in the same directories, have the same extension and, without a density, the same stem.  So an
image in a density has the label of the plain image. -/
theorem imageLabel?_eq_iff_densityVariants :
    (∀ (path otherPath : Path) (way otherWay : List String) (label other : String),
      path.components = way.map .normal → otherPath.components = otherWay.map .normal →
      imageLabel? way = some label → imageLabel? otherWay = some other →
      (label = other ↔ DensityVariants way otherWay)) ∧
    ∀ (directories : List String) (base digits extension : String),
      base ≠ "" → (∀ shorter, ¬InDensity shorter base.toList) →
      digits ≠ "" → (∀ d ∈ digits.toList, d.isDigit = true) →
      String.ofList (extension.toList.map Char.toLower) ∈ imageExtensions →
      ∃ label,
        imageLabel? (directories ++ [base ++ "@" ++ digits ++ "x" ++ "." ++ extension]) =
          some label ∧
        imageLabel? (directories ++ [base ++ "." ++ extension]) = some label := by
  refine ⟨fun path otherPath way otherWay label other hpath hotherPath hlabel hother =>
    label_eq_iff_densityVariants (Path.isStep_of_components hpath)
      (Path.isStep_of_components hotherPath) hlabel hother, ?_⟩
  intro directories base digits extension hbase hplain hdigits hall hextension
  have himage : isImageExtension extension = true := by
    rw [isImageExtension, List.contains_iff_mem]
    exact hextension
  have hdot := dot_notMem_of_isImageExtension himage
  have hvariant : LeadsTo (directories ++ [base ++ "@" ++ digits ++ "x" ++ "." ++ extension])
      directories (base ++ "@" ++ digits ++ "x") extension := ⟨rfl, by simp, hdot⟩
  have hsame : LeadsTo (directories ++ [base ++ "." ++ extension]) directories base extension :=
    ⟨rfl, hbase, hdot⟩
  have hdensity : InDensity base.toList (base ++ "@" ++ digits ++ "x").toList :=
    ⟨digits.toList, by simpa using hdigits, hall, by simp⟩
  refine ⟨_, hvariant.imageLabel?_eq himage, ?_⟩
  rw [hsame.imageLabel?_eq himage, plainStem_of_inDensity hdensity,
    plainStem_of_not_inDensity hplain]

/-- A stem with an `@` that is not followed by digits is in no density. -/
theorem not_inDensity_home (shorter : List Char) : ¬InDensity shorter "icon@home".toList := by
  intro h
  obtain ⟨density, hdensity, hsplit⟩ := inDensity_iff.mp h
  have hlast : Text.splitAtLast? '@' "icon@home".toList = some ("icon".toList, "home".toList) := by
    decide
  obtain ⟨-, rfl⟩ := Prod.mk.inj (Option.some.inj (hlast.symm.trans hsplit))
  exact absurd hdensity (by decide)

/-- Variants of a logo, one of them on a path that is spelled with idle segments, and of an icon
whose plain stem has an `@`; with another case of the extension a logo is another image. -/
theorem imageLabel?_logo_and_icon :
    Path.components ⟨"images/logo@2x.png"⟩ = ["images", "logo@2x.png"].map .normal ∧
    Path.components ⟨"images/.//logo.png/"⟩ = ["images", "logo.png"].map .normal ∧
    DensityVariants ["images", "logo@2x.png"] ["images", "logo.png"] ∧
    ¬DensityVariants ["images", "logo@2x.png"] ["images", "logo.PNG"] ∧
    ∃ label, imageLabel? ["icon@home@12x.PNG"] = some label ∧
      imageLabel? ["icon@home.PNG"] = some label := by
  have hlogo : Path.components ⟨"images/logo@2x.png"⟩ = ["images", "logo@2x.png"].map .normal := by
    decide
  have hplain : Path.components ⟨"images/.//logo.png/"⟩ = ["images", "logo.png"].map .normal := by
    decide
  have hcapital : Path.components ⟨"images/logo.PNG"⟩ = ["images", "logo.PNG"].map .normal := by
    decide
  obtain ⟨hvariants, hdensity⟩ := imageLabel?_eq_iff_densityVariants
  refine ⟨hlogo, hplain, ?_, ?_, ?_⟩
  · exact (hvariants _ _ _ _ "/images/logo.png" _ hlogo hplain (by decide) (by decide)).mp rfl
  · intro hsame
    have hlabel := (hvariants _ _ _ _ "/images/logo.png" "/images/logo.PNG" hlogo hcapital
      (by decide) (by decide)).mpr hsame
    exact absurd hlabel (by decide)
  · exact hdensity [] "icon@home" "12" "PNG" (by decide) not_inDensity_home (by decide)
      (List.all_eq_true.mp (by decide)) (by decide)

end StyleCompletion
