/-
The images that are offered.

The rule for images lists the files below the assets directory that are images, by their
labels.  Files for several screen densities share a label, which stands where the first of them
does in a walk through the directory.  The filter takes the whole text after the quote.
-/
import StyleCompletion.Proofs.FileTree.Walk
import StyleCompletion.Proofs.Rule.Library
import StyleCompletion.Proofs.Text.Distinct

namespace StyleCompletion

/-! ## Images of a tree -/

/-- The file at the end of the way has one of the extensions of images, in ASCII letters of either
case. -/
def HasImageExtension (way : List String) : Prop :=
  ∃ name stem extension, way.getLast? = some name ∧
    Path.splitName name = (stem, some extension) ∧
      String.ofList (extension.toList.map Char.toLower) ∈
        ["png", "jpg", "jpeg", "gif", "webp", "svg"]

/-- The labels are those of the images in the tree that hold what is typed.  Each stands there once,
at the place of the first file that has it in a walk through the tree. -/
structure FileTree.ListsImages (tree : FileTree) (typed : String) (labels : List String) :
    Prop where
  nodup : labels.Nodup
  mem_iff : ∀ label, label ∈ labels ↔
    ∃ way, tree.HasFile way ∧ HasImageExtension way ∧ imageLabel? way = some label ∧
      candidateMatches label typed = true
  in_order : labels.Pairwise fun label next =>
    ∃ way, tree.HasFile way ∧ imageLabel? way = some label ∧
      ∀ other, tree.HasFile other → imageLabel? other = some next →
        FileTree.VisitedBefore way other

/-- The files that have a label are those with the extension of an image. -/
theorem exists_imageLabel?_iff {way : List String} :
    (∃ label, imageLabel? way = some label) ↔ HasImageExtension way := by
  rw [imageLabel?, HasImageExtension]
  cases hlast : way.getLast? with
  | none => simp
  | some name =>
      cases hsplit : Path.splitName name with
      | mk stem extension =>
          cases extension with
          | none => simp [hsplit]
          | some extension =>
              simp [hsplit, isImageExtension, imageExtensions]

theorem listsImages_filter {tree : FileTree} (hnames : tree.NamesDiffer) (typed : String) :
    tree.ListsImages typed
      (Text.distinct ((tree.files.filterMap imageLabel?).filter (candidateMatches · typed))) where
  nodup := Text.nodup_distinct _
  mem_iff label := by
    rw [Text.mem_distinct, List.mem_filter, List.mem_filterMap]
    constructor
    · rintro ⟨⟨way, hway, hlabel⟩, hmatches⟩
      exact ⟨way, FileTree.mem_files.mp hway, exists_imageLabel?_iff.mp ⟨label, hlabel⟩, hlabel,
        hmatches⟩
    · rintro ⟨way, hway, -, hlabel, hmatches⟩
      exact ⟨⟨way, FileTree.mem_files.mpr hway, hlabel⟩, hmatches⟩
  in_order := by
    rw [Text.distinct_filter]
    refine ((Text.pairwise_distinct _).imp fun happears => ?_).filter _
    obtain ⟨way, hway, hlabel, hothers⟩ :=
      happears.exists_of_filterMap (FileTree.pairwise_files hnames)
    exact ⟨way, FileTree.mem_files.mp hway, hlabel,
      fun other hother => hothers other (FileTree.mem_files.mpr hother)⟩

/-! ## What the rule offers -/

/-- What the rule for images reads as typed is what it filters with. -/
theorem LibraryRule.Reads.typedImagePath?_eq {linePrefix key typed : String}
    (h : LibraryRule.image.Reads linePrefix key typed) :
    typedImagePath? linePrefix = some typed := by
  have hread : quotedAssignment? isImagePathChar linePrefix.toList =
      some (key.toList, typed.toList) := quotedAssignment?_iff.mpr ⟨h.quoted, h.inside⟩
  have hnames : namesImage key.toList = true := by
    rw [namesImage, Bool.or_eq_true, List.isSuffixOf_iff_suffix, List.isSuffixOf_iff_suffix]
    exact h.isFor
  simp only [typedImagePath?, hread, hnames, if_true, String.ofList_toList]

/-- The rule for images offers the images of the project: for a line that it is for, the labels
are those of the files at any depth below the assets directory that are images and whose label
holds the whole text after the quote, each once, in the order in which a walk first comes to
them. -/
theorem Rule.image_lists_images {context : RuleContext} {assets : Path} {tree : FileTree}
    (happlies : Rule.image.applies context.linePrefix = true)
    (hassets : context.project.assets context.files context.stylePath = some assets)
    (htree : context.files.find assets = .ok tree) (hnames : tree.NamesDiffer) :
    ∃ key typed labels, LibraryRule.image.Reads context.linePrefix key typed ∧
      Rule.image.answer context = pure (some (labels.map (Candidate.new · .file))) ∧
      tree.ListsImages typed labels ∧
      ∀ way, HasImageExtension way → ∃ label, imageLabel? way = some label := by
  have happlies : LibraryRule.image.rule.applies context.linePrefix = true := happlies
  obtain ⟨key, typed, hreads⟩ := LibraryRule.applies_iff.mp happlies
  refine ⟨key, typed, _, hreads, ?_, listsImages_filter hnames typed,
    fun way => exists_imageLabel?_iff.mpr⟩
  simp only [Rule.image, hassets, htree, hreads.typedImagePath?_eq, Option.getD_some,
    imageCandidates]

/-- Assets with an image in two densities, an extension in capital letters and a file that is no
image. -/
def iconTree : FileTree :=
  .directory [
    ("zoom.svg", .file .empty),
    ("images", .directory [
      ("logo@2x.png", .file .empty), ("logo.png", .file .empty), ("readme.txt", .file .empty)]),
    ("Icon.PNG", .file .empty)]

theorem namesDiffer_iconTree : iconTree.NamesDiffer := by
  refine .directory (by decide) ?_
  simp only [List.forall_mem_cons, List.not_mem_nil, false_imp_iff, implies_true, and_true]
  refine ⟨.file, .directory (by decide) ?_, .file⟩
  simp only [List.forall_mem_cons, List.not_mem_nil, false_imp_iff, implies_true, and_true]
  exact ⟨.file, .file, .file⟩

/-- A rule asked for the images in these assets whose labels hold `/i`. -/
def iconContext : RuleContext where
  linePrefix := "image: \"/i"
  word := some "i"
  stylePath := ⟨"index.tss"⟩
  project := .inMemory [] none none (some ⟨"assets"⟩)
  files := (FileTree.directory [("assets", iconTree)]).asFileSystem
  schema := {}
  settings := {}

/-- The image in two densities is offered under the label of both, and the image whose label does
not hold what is typed is not offered. -/
theorem Rule.image_lists_icons :
    Rule.image.applies iconContext.linePrefix = true ∧
    iconContext.project.assets iconContext.files iconContext.stylePath = some ⟨"assets"⟩ ∧
    iconContext.files.find ⟨"assets"⟩ = .ok iconTree ∧ iconTree.NamesDiffer ∧
    ∃ labels : List String,
      Rule.image.answer iconContext = pure (some (labels.map (Candidate.new · .file))) ∧
      labels.Nodup ∧ "/images/logo.png" ∈ labels ∧ "/Icon.PNG" ∈ labels ∧
        "/zoom.svg" ∉ labels := by
  have happlies : Rule.image.applies iconContext.linePrefix = true := by decide
  have htree : iconContext.files.find ⟨"assets"⟩ = .ok iconTree := rfl
  refine ⟨happlies, rfl, htree, namesDiffer_iconTree, ?_⟩
  obtain ⟨key, typed, labels, hreads, hanswer, hlists, -⟩ :=
    Rule.image_lists_images happlies rfl htree namesDiffer_iconTree
  obtain rfl : "/i" = typed := by
    have htyped : typedImagePath? iconContext.linePrefix = some "/i" := by decide
    exact Option.some.inj (htyped.symm.trans hreads.typedImagePath?_eq)
  have hlabel {way : List String} {label : String} (hway : iconTree.HasFile way)
      (hlabel : imageLabel? way = some label) (hmatches : candidateMatches label "/i" = true) :
      label ∈ labels :=
    (hlists.mem_iff label).mpr ⟨way, hway, exists_imageLabel?_iff.mp ⟨label, hlabel⟩, hlabel,
      hmatches⟩
  refine ⟨labels, hanswer, hlists.nodup, ?_, ?_, ?_⟩
  · have hway : iconTree.HasFile ["images", "logo@2x.png"] :=
      .entry (.tail _ (.head _)) (.entry (.head _) .file)
    exact hlabel hway (by decide) (by decide)
  · have hway : iconTree.HasFile ["Icon.PNG"] := .entry (.tail _ (.tail _ (.head _))) .file
    exact hlabel hway (by decide) (by decide)
  · intro hmem
    obtain ⟨way, -, -, -, hmatches⟩ := (hlists.mem_iff _).mp hmem
    exact absurd hmatches (by decide)

end StyleCompletion
