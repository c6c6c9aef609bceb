/-
Values that are written over several lines.

Each item and each member stands on a line of its own, and the lines are indented.  Line ends and
indents are blanks, so what is written is one more spelling of the value, and the reader takes it
back at whatever level it stands.
-/
import StyleCompletion.Proofs.Json.Spelling

namespace StyleCompletion.Json

/-! ## New lines -/

/-- A part may start on a new line. -/
theorem Spells.onNewLine {depth : Nat} {part : Part} {cs rest : List Char}
    (h : Spells depth part cs rest) (level : Nat) :
    Spells depth part (newLine level ++ cs) rest := by
  have hspaces (n : Nat) : Spells depth part (List.replicate n ' ' ++ cs) rest := by
    induction n with
    | zero => exact h
    | succ n ih =>
        rw [List.replicate_succ, List.cons_append]
        exact .blank (by decide) ih
  exact .blank (by decide) (hspaces (2 * level))

theorem afterNumber_newLine (level : Nat) (cs : List Char) : AfterNumber (newLine level ++ cs) :=
  afterNumber_cons (by decide) _

theorem afterNumber_of_isSpace {cs : List Char} (h : ∀ c ∈ cs, isSpace c = true) :
    AfterNumber cs := by
  intro c hc
  have hspace := h c (List.mem_of_head? hc)
  simp only [isSpace, Bool.or_eq_true, decide_eq_true_eq] at hspace
  rcases hspace with ((rfl | rfl) | rfl) | rfl <;> decide

/-! ## Items and members -/

/-- The value as it is written at any level, before any text that starts with no more of it. -/
def SpelledAtLevels (depth : Nat) (value : Json) : Prop :=
  ∀ level rest, AfterNumber rest →
    Spells depth (.value value) (prettyChars level value ++ rest) rest

section

variable {depth : Nat} {stop rest : List Char}

/-- Items that follow another one, up to the text `stop` that closes the array. -/
theorem spells_prettyMoreItems {items : List Json}
    (h : ∀ item ∈ items, SpelledAtLevels depth item) (level : Nat)
    (hstop : Spells depth (.items false []) stop rest) (hafter : AfterNumber stop) :
    Spells depth (.items false items) (prettyMoreItems level items ++ stop) rest ∧
      AfterNumber (prettyMoreItems level items ++ stop) := by
  induction items with
  | nil => exact ⟨hstop, hafter⟩
  | cons item items ih =>
      obtain ⟨hmore, hnext⟩ := ih fun other hother => h other (List.mem_cons_of_mem _ hother)
      have hitem := h item List.mem_cons_self level _ hnext
      simp only [prettyMoreItems, List.append_assoc, List.cons_append]
      exact ⟨.nextItem ((Spells.item hitem hmore).onNewLine level), afterNumber_cons (by decide) _⟩

/-- A member, which is a key and a value after a blank, and the members that follow it. -/
theorem spells_prettyMember (key : String) {value : Json} {members : List (String × Json)}
    {more : List Char} (hvalue : SpelledAtLevels depth value) (level : Nat)
    (hmore : Spells depth (.members false members) more rest) (hafter : AfterNumber more) :
    Spells depth (.members true ((key, value) :: members))
      (newLine level ++ (quoteText key ++ ':' :: ' ' :: (prettyChars level value ++ more))) rest :=
  (Spells.member (.blank (by decide) (hvalue level more hafter)) hmore).onNewLine level

theorem spells_prettyMoreMembers {members : List (String × Json)}
    (h : ∀ member ∈ members, SpelledAtLevels depth member.2) (level : Nat)
    (hstop : Spells depth (.members false []) stop rest) (hafter : AfterNumber stop) :
    Spells depth (.members false members) (prettyMoreMembers level members ++ stop) rest ∧
      AfterNumber (prettyMoreMembers level members ++ stop) := by
  induction members with
  | nil => exact ⟨hstop, hafter⟩
  | cons member members ih =>
      obtain ⟨hmore, hnext⟩ := ih fun other hother => h other (List.mem_cons_of_mem _ hother)
      have hmember := spells_prettyMember member.1 (h member List.mem_cons_self) level hmore hnext
      simp only [prettyMoreMembers, List.append_assoc, List.cons_append]
      exact ⟨.nextMember hmember, afterNumber_cons (by decide) _⟩

end

/-! ## Values -/

theorem Fits.spelledAtLevels {depth : Nat} {value : Json} (h : Fits depth value) :
    SpelledAtLevels depth value := by
  induction h with
  | null => exact fun _ => Fits.null.spelledBefore
  | @bool depth value => cases value <;> exact fun _ => Fits.bool.spelledBefore
  | number h => exact fun _ => (Fits.number h).spelledBefore
  | text => exact fun _ => Fits.text.spelledBefore
  | @array depth items _ ih =>
      intro level rest _
      cases items with
      | nil => exact .array .noItem
      | cons item items =>
          have hstop : Spells depth (.items false []) (newLine level ++ ']' :: rest) rest :=
            Spells.noItem.onNewLine level
          obtain ⟨hmore, hafter⟩ := spells_prettyMoreItems
            (fun other hother => ih other (List.mem_cons_of_mem _ hother)) (level + 1) hstop
            (afterNumber_newLine _ _)
          have hitem := ih item List.mem_cons_self (level + 1) _ hafter
          simp only [prettyChars, List.append_assoc, List.cons_append, List.nil_append]
          exact .array ((Spells.item hitem hmore).onNewLine (level + 1))
  | @object depth members _ ih =>
      intro level rest _
      cases members with
      | nil => exact .object .noMember
      | cons member members =>
          have hstop : Spells depth (.members false []) (newLine level ++ '\x7d' :: rest) rest :=
            Spells.noMember.onNewLine level
          obtain ⟨hmore, hafter⟩ := spells_prettyMoreMembers
            (fun other hother => ih other (List.mem_cons_of_mem _ hother)) (level + 1) hstop
            (afterNumber_newLine _ _)
          simp only [prettyChars, List.append_assoc, List.cons_append, List.nil_append]
          exact .object
            (spells_prettyMember member.1 (ih member List.mem_cons_self) (level + 1) hmore hafter)

/-- A value is what its indented text holds, also if blanks follow the text. -/
theorem parse_pretty_append {value : Json} (h : Fits depthLimit value) (blanks : String)
    (hblanks : ∀ c ∈ blanks.toList, isSpace c = true) :
    parse (value.pretty ++ blanks) = .ok value := by
  have hspelled := h.spelledAtLevels 0 blanks.toList (afterNumber_of_isSpace hblanks)
  have htext : Spells depthLimit (.value value) (value.pretty ++ blanks).toList blanks.toList := by
    rwa [String.toList_append, pretty, String.toList_ofList]
  exact decode_of_spells htext hblanks rfl

end StyleCompletion.Json
