/-
The search for a block against a stack of open blocks.

Read from the top, a document opens and closes blocks, and the blocks that are open at a line
form a stack.  The search does not keep a stack: it walks up to the nearest line that tells.
In documents with at most one block opened or closed a line, what it finds is the top of the
stack; what it does not find is either no block at all or one that lies behind a closed one.
Where blocks are not nested the two agree.
-/
import StyleCompletion.Proofs.Block.Opening
import StyleCompletion.Proofs.Block.Search

namespace StyleCompletion

/-! ## Shapes of lines -/

/-- The braces of a line, in order. -/
def braces (line : List Char) : List Char := line.filter fun c => c = '\x7b' || c = '\x7d'

/-- What a line with at most one block on it does to the blocks around the lines below. -/
inductive LineShape where
  /-- The line has no brace. -/
  | plain
  /-- The line opens a block and leaves it open. -/
  | opening (name : List Char)
  /-- The line closes a block. -/
  | closing
  /-- The line opens a block and closes it again. -/
  | enclosed
deriving DecidableEq, Repr

/-- `line` has this shape. -/
inductive HasShape (line : List Char) : LineShape → Prop where
  | plain (hbraces : braces line = []) : HasShape line .plain
  | opening {name : List Char} (hopening : IsBlockOpening line name)
      (hbraces : braces line = ['\x7b']) : HasShape line (.opening name)
  | closing (hbraces : braces line = ['\x7d']) : HasShape line .closing
  | enclosed {name : List Char} (hopening : IsBlockOpening line name) (hname : braces name = [])
      (hbraces : braces line = ['\x7b', '\x7d']) : HasShape line .enclosed

/-- A line of the document has this shape.  A missing line counts as plain. -/
inductive DocumentView.LineHasShape (document : DocumentView) (n : Nat) : LineShape → Prop where
  | missing (htext : document.lineText n = none) : LineHasShape document n .plain
  | present {text : String} {shape : LineShape} (htext : document.lineText n = some text)
      (hshape : HasShape text.toList shape) : LineHasShape document n shape

/-- The lines of the document have these shapes. -/
def DocumentView.Shaped (document : DocumentView) (shape : Nat → LineShape) : Prop :=
  ∀ n < document.lineCount, document.LineHasShape n (shape n)

/-! ## The stack of open blocks -/

/-- What a line makes of the stack: it puts its block on top, or takes the top away. -/
def LineShape.apply : LineShape → List (List Char) → List (List Char)
  | .opening name, stack => name :: stack
  | .closing, stack => stack.tail
  | .plain, stack | .enclosed, stack => stack

/-- The blocks that are open after the first `n` lines, the innermost first. -/
def openBlocks (shape : Nat → LineShape) : Nat → List (List Char)
  | 0 => []
  | n + 1 => (shape n).apply (openBlocks shape n)

/-- Plain lines leave the stack as it is. -/
theorem openBlocks_eq_of_plain {shape : Nat → LineShape} {n stop : Nat} (hle : n ≤ stop)
    (hplain : ∀ k, n ≤ k → k < stop → shape k = .plain) :
    openBlocks shape stop = openBlocks shape n := by
  induction hle with
  | refl => rfl
  | @step stop hle ih =>
      rw [openBlocks, hplain stop hle (by omega)]
      exact ih (fun k hk hstop => hplain k hk (by omega))

/-! ## Shapes and roles -/

theorem mem_braces_iff {line : List Char} {c : Char} (hc : c = '\x7b' ∨ c = '\x7d') :
    c ∈ braces line ↔ c ∈ line := by
  simp [braces, List.mem_filter, hc]

/-- A line with a closing brace and no opening closes a block, and so does one whose closing
brace stands past the start of a name. -/
theorem lineRole_eq_closes {line : List Char} (hclose : '\x7d' ∈ line)
    (hpast : ∀ name, BlockReading line name → '\x7d' ∈ (Text.trimLeft line).tail) :
    lineRole line = .closes := by
  cases hrole : lineRole line with
  | opens name =>
      obtain ⟨hopening, hnone⟩ := lineRole_eq_opens_iff.mp hrole
      exact absurd (hpast name hopening.1) hnone
  | closes => rfl
  | plain => exact absurd hclose (lineRole_eq_plain_iff.mp hrole).2

/-- The role that a shape gives to a line. -/
def LineShape.role : LineShape → LineRole
  | .plain => .plain
  | .opening name => .opens name
  | .closing | .enclosed => .closes

theorem HasShape.lineRole_eq {line : List Char} {shape : LineShape} (h : HasShape line shape) :
    lineRole line = shape.role := by
  cases h with
  | plain hbraces =>
      refine lineRole_eq_plain_iff.mpr ⟨fun name hreading => ?_, ?_⟩
      · have hmem := (mem_braces_iff (.inl rfl)).mpr hreading.brace_mem
        simp [hbraces] at hmem
      · rw [← mem_braces_iff (.inr rfl), hbraces]
        simp
  | opening hopening hbraces =>
      refine lineRole_eq_opens_iff.mpr ⟨hopening, fun htail => ?_⟩
      have hline : '\x7d' ∈ line :=
        List.dropWhile_subset Text.isBlank (List.mem_of_mem_tail htail)
      rw [← mem_braces_iff (.inr rfl), hbraces] at hline
      exact absurd hline (by decide)
  | closing hbraces =>
      refine lineRole_eq_closes ?_ (fun name hreading => ?_)
      · rw [← mem_braces_iff (.inr rfl), hbraces]
        simp
      · have hmem := (mem_braces_iff (.inl rfl)).mpr hreading.brace_mem
        rw [hbraces] at hmem
        exact absurd hmem (by decide)
  | @enclosed name hopening hname hbraces =>
      have hclose : '\x7d' ∈ line := by
        rw [← mem_braces_iff (.inr rfl), hbraces]
        simp
      refine lineRole_eq_closes hclose (fun _ _ => ?_)
      -- The closing brace is past the indent, and the name starts with no brace.
      have htrim := Text.mem_trimLeft hclose (by decide)
      obtain ⟨hne, -, rest, hrest, -⟩ := blockReading_iff.mp hopening.1
      obtain ⟨c, tail, rfl⟩ := List.exists_cons_of_ne_nil hne
      rw [hrest, List.cons_append] at htrim ⊢
      rcases List.mem_cons.mp htrim with rfl | htail
      · have hmem : '\x7d' ∈ braces ('\x7d' :: tail) := (mem_braces_iff (.inr rfl)).mpr (by simp)
        simp [hname] at hmem
      · exact htail

/-! ## The search and the stack -/

section Shaped

variable {document : DocumentView} {n : Nat} {shape : LineShape}

/-- A silent line is plain. -/
theorem DocumentView.LineHasShape.eq_plain (h : document.LineHasShape n shape)
    (hsilent : document.IsSilent n) : shape = .plain := by
  cases h with
  | missing => rfl
  | present htext hshape =>
      have hrole := hsilent _ htext
      rw [hshape.lineRole_eq] at hrole
      cases shape <;> simp_all [LineShape.role]

/-- A line that is there has the role of its shape. -/
theorem DocumentView.LineHasShape.role_eq {role : LineRole} (h : document.LineHasShape n shape)
    (hrole : document.HasRole n role) : shape.role = role := by
  obtain ⟨text, htext, rfl⟩ := hrole
  cases h with
  | missing hnone => exact absurd (hnone.symm.trans htext) (by simp)
  | present hsome hshape =>
      rw [hsome] at htext
      rw [← Option.some.inj htext]
      exact hshape.lineRole_eq.symm

end Shaped

section Search

variable {document : DocumentView} {shape : Nat → LineShape} {stop n : Nat}

/-- From the line that decides to the cursor all lines are plain. -/
theorem NearestRole.openBlocks_eq {role : LineRole} (h : NearestRole document stop n role)
    (hshape : document.Shaped shape) (hstop : stop ≤ document.lineCount) :
    openBlocks shape stop = (shape n).apply (openBlocks shape n) :=
  openBlocks_eq_of_plain h.lt fun k hk hlt =>
    (hshape k (by omega)).eq_plain (h.silent k hk hlt)

/-- A block that the search finds is the innermost open one. -/
theorem head?_openBlocks_of_parentAbove (hshape : document.Shaped shape)
    (hstop : stop ≤ document.lineCount) {name : String}
    (hfound : (parentAbove document stop).value = some name) :
    (openBlocks shape stop).head? = some name.toList := by
  obtain ⟨n, hn⟩ := value_parentAbove_eq_some_iff.mp hfound
  have hlt := hn.lt
  have hrole := (hshape n (by omega)).role_eq hn.hasRole
  have hopening : shape n = .opening name.toList := by
    cases hkind : shape n <;> simp_all [LineShape.role]
  rw [hn.openBlocks_eq hshape hstop, hopening]
  rfl

/-- Where the search finds no block none is open, or the nearest line that is not plain
closes one. -/
theorem openBlocks_of_parentAbove_eq_none (hshape : document.Shaped shape)
    (hstop : stop ≤ document.lineCount) (hnone : (parentAbove document stop).value = none) :
    openBlocks shape stop = [] ∨
      ∃ n < stop, (shape n = .closing ∨ shape n = .enclosed) ∧
        ∀ k, n < k → k < stop → shape k = .plain := by
  rcases value_parentAbove_eq_none_iff.mp hnone with hall | ⟨n, hn⟩
  · left
    exact openBlocks_eq_of_plain (Nat.zero_le stop) fun k _ hk =>
      (hshape k (by omega)).eq_plain (hall k hk)
  · right
    have hlt := hn.lt
    have hrole := (hshape n (by omega)).role_eq hn.hasRole
    refine ⟨n, hlt, ?_, fun k hk hks => (hshape k (by omega)).eq_plain (hn.silent k hk hks)⟩
    cases hkind : shape n <;> simp_all [LineShape.role]

/-- Without nesting a block that is closed leaves none open. -/
theorem openBlocks_eq_nil_of_closed (hlt : n < stop)
    (hdepth : ∀ m ≤ stop, (openBlocks shape m).length ≤ 1)
    (houter : ∀ m < stop, shape m = .enclosed → openBlocks shape m = [])
    (hclosed : shape n = .closing ∨ shape n = .enclosed)
    (hplain : ∀ k, n < k → k < stop → shape k = .plain) :
    openBlocks shape stop = [] := by
  rw [openBlocks_eq_of_plain hlt hplain, openBlocks]
  rcases hclosed with hclosing | henclosed
  · have hlen := hdepth n (by omega)
    rw [hclosing, LineShape.apply, ← List.length_eq_zero_iff, List.length_tail]
    omega
  · rw [henclosed, LineShape.apply, houter n hlt henclosed]

end Search

/-- The block found at a line is the innermost of those open there.  Where none is found none
is open, or the last line with a brace closes a block.  Without nesting, exactly the open
block is found. -/
theorem resolveParent_and_openBlocks {document : DocumentView} {shape : Nat → LineShape}
    (hshape : document.Shaped shape) {line : Nat} (hline : line < document.lineCount) :
    (∀ name, (resolveParent document line).value = some name →
      (openBlocks shape (line + 1)).head? = some name.toList) ∧
    ((resolveParent document line).value = none →
      openBlocks shape (line + 1) = [] ∨
        ∃ n ≤ line, (shape n = .closing ∨ shape n = .enclosed) ∧
          ∀ k, n < k → k ≤ line → shape k = .plain) ∧
    ((∀ n ≤ line + 1, (openBlocks shape n).length ≤ 1) →
      (∀ n ≤ line, shape n = .enclosed → openBlocks shape n = []) →
      (resolveParent document line).value =
        (openBlocks shape (line + 1)).head?.map String.ofList) := by
  rw [resolveParent_of_lt hline]
  refine ⟨fun name => head?_openBlocks_of_parentAbove hshape hline, fun hnone => ?_,
    fun hdepth houter => ?_⟩
  · rcases openBlocks_of_parentAbove_eq_none hshape hline hnone with hempty | ⟨n, hn, hrest⟩
    · exact .inl hempty
    · exact .inr ⟨n, by omega, hrest.1, fun k hk hkl => hrest.2 k hk (by omega)⟩
  · cases hfound : (parentAbove document (line + 1)).value with
    | some name =>
        rw [head?_openBlocks_of_parentAbove hshape hline hfound]
        simp
    | none =>
        -- The nearest line with a brace closes the only block that can be open.
        have hempty : openBlocks shape (line + 1) = [] := by
          rcases openBlocks_of_parentAbove_eq_none hshape hline hfound with
            hempty | ⟨n, hn, hclosed, hplain⟩
          · exact hempty
          · exact openBlocks_eq_nil_of_closed hn hdepth
              (fun m hm => houter m (by omega)) hclosed hplain
        rw [hempty]
        rfl

/-- A document with a block that is closed, one on a line of its own, and one that is open at
the last line. -/
def threeBlocks : DocumentView :=
  .ofLines #["font: \x7b", "  size: 12", "\x7d,", "shadow: \x7b x: 1 \x7d,", "a:b : \x7b", "  "]

/-- The shapes of its lines. -/
def threeBlocksShape : Nat → LineShape
  | 0 => .opening "font".toList
  | 2 => .closing
  | 3 => .enclosed
  | 4 => .opening "a:b".toList
  | _ => .plain

theorem shaped_threeBlocks : threeBlocks.Shaped threeBlocksShape := by
  have hopening (line name : String)
      (h : blockName? (Text.trimLeft line.toList) = some name.toList) :
      IsBlockOpening line.toList name.toList := blockName?_trimLeft_eq_some_iff.mp h
  intro n hn
  match n, hn with
  | 0, _ => exact .present rfl (.opening (hopening _ _ (by decide)) (by decide))
  | 1, _ => exact .present rfl (.plain (by decide))
  | 2, _ => exact .present rfl (.closing (by decide))
  | 3, _ =>
      exact .present rfl (.enclosed (hopening _ "shadow" (by decide)) (by decide) (by decide))
  | 4, _ => exact .present rfl (.opening (hopening _ _ (by decide)) (by decide))
  | 5, _ => exact .present rfl (.plain (by decide))

/-- At the last line of that document the search finds the one open block. -/
theorem resolveParent_threeBlocks :
    threeBlocks.Shaped threeBlocksShape ∧ 5 < threeBlocks.lineCount ∧
      (∀ n ≤ 6, (openBlocks threeBlocksShape n).length ≤ 1) ∧
      (∀ n ≤ 5, threeBlocksShape n = .enclosed → openBlocks threeBlocksShape n = []) ∧
      (resolveParent threeBlocks 5).value = some "a:b" := by
  have hline : 5 < threeBlocks.lineCount := by decide
  have hdepth : ∀ n ≤ 6, (openBlocks threeBlocksShape n).length ≤ 1 := by decide
  have houter : ∀ n ≤ 5, threeBlocksShape n = .enclosed → openBlocks threeBlocksShape n = [] := by
    decide
  refine ⟨shaped_threeBlocks, hline, hdepth, houter, ?_⟩
  rw [(resolveParent_and_openBlocks shaped_threeBlocks hline).2.2 hdepth houter]
  decide

end StyleCompletion
