/-
Spellings of JSON values, and that the reader takes each of them back.

The reader allows blanks before every part of a value, so a value has many spellings.  A
relation says which texts spell a value, whatever the blanks; the reader gives back the value
and leaves what follows it.  What the writers produce are spellings, so what they write is
read back.
-/
import Mathlib.Data.List.DropRight
import Mathlib.Tactic.SplitIfs
import StyleCompletion.Json.Reader
import StyleCompletion.Json.Writer

namespace StyleCompletion.Json

/-! ## Quoted texts -/

/-- The unit that is written for a control character is the character's own number. -/
theorem unit?_hexDigit : ∀ n < 0x20,
    unit? '0' '0' (hexDigit (n / 16)) (hexDigit (n % 16)) = some n := by
  decide

theorem readText_unit {n : Nat} (h : n < 0x20) (cs : List Char) :
    readText ('\\' :: 'u' :: '0' :: '0' :: hexDigit (n / 16) :: hexDigit (n % 16) :: cs) =
      prepend (Char.ofNat n) (readText cs) := by
  -- Units of pairs are far above those of control characters.
  have htrailing : isTrailing n = false := by
    simp only [isTrailing, Bool.and_eq_false_iff, decide_eq_false_iff_not]
    omega
  have hleading : isLeading n = false := by
    simp only [isLeading, Bool.and_eq_false_iff, decide_eq_false_iff_not]
    omega
  rw [readText, unit?_hexDigit n h]
  simp [htrailing, hleading]

theorem readText_escaped {c d : Char} (hunit : c ≠ 'u') (h : escaped? c = some d)
    (cs : List Char) : readText ('\\' :: c :: cs) = prepend d (readText cs) := by
  rw [readText, h]
  all_goals simp [hunit]

theorem readText_plain {c : Char} (hquote : c ≠ '"') (hslash : c ≠ '\\') (h : ¬c.toNat < 0x20)
    (cs : List Char) : readText (c :: cs) = prepend c (readText cs) := by
  rw [readText]
  · exact if_neg h
  all_goals simp [hquote, hslash]

/-- Each character is read back from the way it is written. -/
theorem readText_quoteChar (c : Char) (cs : List Char) :
    readText (quoteChar c ++ cs) = prepend c (readText cs) := by
  unfold quoteChar
  split_ifs with hquote hslash hback hfeed hline hreturn htab hcontrol
  · rw [hquote]
    exact readText_escaped (by decide) rfl cs
  · rw [hslash]
    exact readText_escaped (by decide) rfl cs
  · rw [hback]
    exact readText_escaped (by decide) rfl cs
  · rw [hfeed]
    exact readText_escaped (by decide) rfl cs
  · rw [hline]
    exact readText_escaped (by decide) rfl cs
  · rw [hreturn]
    exact readText_escaped (by decide) rfl cs
  · rw [htab]
    exact readText_escaped (by decide) rfl cs
  · exact (readText_unit hcontrol cs).trans (by rw [Char.ofNat_toNat])
  · exact readText_plain hquote hslash hcontrol cs

/-- A quoted text ends at its own closing quote, whatever characters it holds. -/
theorem readText_quote (cs rest : List Char) :
    readText (cs.flatMap quoteChar ++ '"' :: rest) = .ok (cs, rest) := by
  induction cs with
  | nil => rfl
  | cons c cs ih =>
      rw [List.flatMap_cons, List.append_assoc, readText_quoteChar, ih]
      rfl

theorem quoteText_append (value : String) (rest : List Char) :
    quoteText value ++ rest = '"' :: (value.toList.flatMap quoteChar ++ '"' :: rest) := by
  simp [quoteText, quote]

/-! ## Spellings -/

/-- What a stretch of text can stand for.  What is left of an array or an object goes up to its
closing bracket; `first` says that no item or member stands before it. -/
inductive Part where
  | value (value : Json)
  | items (first : Bool) (items : List Json)
  | members (first : Bool) (members : List (String × Json))

/-- `Spells depth part cs rest`: the text `cs` is a spelling of `part` and then `rest`, with at
most `depth` arrays and objects open at once. -/
inductive Spells : Nat → Part → List Char → List Char → Prop where
  | blank {depth : Nat} {part : Part} {c : Char} {cs rest : List Char} (hc : isSpace c = true)
      (h : Spells depth part cs rest) : Spells depth part (c :: cs) rest
  | null {depth : Nat} {rest : List Char} :
      Spells depth (.value .null) ('n' :: 'u' :: 'l' :: 'l' :: rest) rest
  | yes {depth : Nat} {rest : List Char} :
      Spells depth (.value (.bool true)) ('t' :: 'r' :: 'u' :: 'e' :: rest) rest
  | no {depth : Nat} {rest : List Char} :
      Spells depth (.value (.bool false)) ('f' :: 'a' :: 'l' :: 's' :: 'e' :: rest) rest
  | number {depth : Nat} {c : Char} {literal rest : List Char} (hc : c = '-' ∨ c.isDigit = true)
      (h : readNumber (c :: literal ++ rest) = .ok (c :: literal, rest)) :
      Spells depth (.value (.number (String.ofList (c :: literal)))) (c :: literal ++ rest) rest
  | text {depth : Nat} {value : String} {rest : List Char} :
      Spells depth (.value (.text value)) (quoteText value ++ rest) rest
  | array {depth : Nat} {items : List Json} {cs rest : List Char}
      (h : Spells depth (.items true items) cs rest) :
      Spells (depth + 1) (.value (.array items)) ('[' :: cs) rest
  | object {depth : Nat} {members : List (String × Json)} {cs rest : List Char}
      (h : Spells depth (.members true members) cs rest) :
      Spells (depth + 1) (.value (.object members)) ('\x7b' :: cs) rest
  | noItem {depth : Nat} {first : Bool} {rest : List Char} :
      Spells depth (.items first []) (']' :: rest) rest
  | item {depth : Nat} {item : Json} {items : List Json} {cs more rest : List Char}
      (hitem : Spells depth (.value item) cs more)
      (hmore : Spells depth (.items false items) more rest) :
      Spells depth (.items true (item :: items)) cs rest
  | nextItem {depth : Nat} {item : Json} {items : List Json} {cs rest : List Char}
      (h : Spells depth (.items true (item :: items)) cs rest) :
      Spells depth (.items false (item :: items)) (',' :: cs) rest
  | noMember {depth : Nat} {first : Bool} {rest : List Char} :
      Spells depth (.members first []) ('\x7d' :: rest) rest
  | member {depth : Nat} {key : String} {value : Json} {members : List (String × Json)}
      {cs more rest : List Char} (hvalue : Spells depth (.value value) cs more)
      (hmore : Spells depth (.members false members) more rest) :
      Spells depth (.members true ((key, value) :: members)) (quoteText key ++ ':' :: cs) rest
  | nextMember {depth : Nat} {member : String × Json} {members : List (String × Json)}
      {cs rest : List Char} (h : Spells depth (.members true (member :: members)) cs rest) :
      Spells depth (.members false (member :: members)) (',' :: cs) rest

/-- No part has an empty spelling. -/
theorem Spells.length_lt {depth : Nat} {part : Part} {cs rest : List Char}
    (h : Spells depth part cs rest) : rest.length < cs.length := by
  induction h with
  | null | yes | no | number => simp only [List.length_cons, List.length_append]; omega
  | text => simp only [quoteText_append, List.length_cons, List.length_append]; omega
  | noItem | noMember => exact Nat.lt_succ_self _
  | blank _ _ ih | array _ ih | object _ ih | nextItem _ ih | nextMember _ ih =>
      exact Nat.lt_succ_of_lt ih
  | item _ _ ihitem ihmore => exact Nat.lt_trans ihmore ihitem
  | member _ _ ihvalue ihmore =>
      simp only [List.length_append, List.length_cons]
      omega

/-! ## Reading, rule by rule -/

theorem skipSpaces_cons {c : Char} (hc : isSpace c = true) (cs : List Char) :
    skipSpaces (c :: cs) = skipSpaces cs :=
  List.dropWhile_cons_of_pos hc

theorem skipSpaces_of_not_isSpace {c : Char} (hc : isSpace c = false) (cs : List Char) :
    skipSpaces (c :: cs) = c :: cs :=
  List.dropWhile_cons_of_neg (by simp [hc])

/-- The reader finds the part at the start of `cs`, and `rest` after it. -/
def Part.ReadFrom (fuel depth : Nat) (cs rest : List Char) : Part → Prop
  | .value v => readValue fuel depth .any cs = .ok (v, rest)
  | .items first vs => readItems fuel depth .any first cs = .ok (vs, rest)
  | .members first ms => readMembers fuel depth .any first cs = .ok (ms, rest)

/-- Blanks before a part do not matter. -/
theorem Part.ReadFrom.of_skipSpaces_eq {fuel depth : Nat} {cs other rest : List Char} {part : Part}
    (h : part.ReadFrom fuel depth cs rest) (heq : skipSpaces other = skipSpaces cs) :
    part.ReadFrom fuel depth other rest := by
  cases fuel <;> cases part <;>
    simpa only [ReadFrom, readValue, readItems, readMembers, heq] using h

theorem readValue_scalar {c : Char} {cs rest : List Char} {value : Json}
    (hc : isSpace c = false) (h : readScalar c cs = .ok (value, rest)) (fuel depth : Nat) :
    readValue (fuel + 1) depth .any (c :: cs) = .ok (value, rest) := by
  rw [readValue, skipSpaces_of_not_isSpace hc]
  -- No scalar starts with one of the characters that the reader looks for first.
  split
  · contradiction
  · next heq =>
      obtain ⟨rfl, rfl⟩ := List.cons.inj heq
      simp [readScalar] at h
  · next heq =>
      obtain ⟨rfl, rfl⟩ := List.cons.inj heq
      simp [readScalar] at h
  · next heq =>
      obtain ⟨rfl, rfl⟩ := List.cons.inj heq
      simp [readScalar] at h
  · next heq =>
      obtain ⟨rfl, rfl⟩ := List.cons.inj heq
      simp [h, bind, Except.bind, Form.takesScalar]

/-- A number is told by its first character. -/
theorem readScalar_number {c : Char} {literal rest : List Char} (hc : c = '-' ∨ c.isDigit = true)
    (h : readNumber (c :: literal ++ rest) = .ok (c :: literal, rest)) :
    readScalar c (literal ++ rest) = .ok (.number (String.ofList (c :: literal)), rest) := by
  have hne : ∀ d, d ≠ '-' → d.isDigit = false → c ≠ d := by
    rintro d hminus hdigit rfl
    rcases hc with hc | hc
    · exact hminus hc
    · simp [hdigit] at hc
  rw [readScalar, if_neg (hne 'n' (by decide) (by decide)),
    if_neg (hne 't' (by decide) (by decide)), if_neg (hne 'f' (by decide) (by decide)),
    if_pos (by simpa using hc), ← List.cons_append, h]
  rfl

theorem isSpace_of_number {c : Char} (hc : c = '-' ∨ c.isDigit = true) : isSpace c = false := by
  by_contra hspace
  rw [Bool.not_eq_false] at hspace
  simp only [isSpace, Bool.or_eq_true, decide_eq_true_eq] at hspace
  rcases hspace with ((rfl | rfl) | rfl) | rfl <;> simp at hc

theorem readValue_text (fuel depth : Nat) (value : String) (rest : List Char) :
    readValue (fuel + 1) depth .any (quoteText value ++ rest) = .ok (.text value, rest) := by
  rw [quoteText_append, readValue, skipSpaces_of_not_isSpace (by decide)]
  simp [readText_quote, bind, Except.bind, Form.takesText]

theorem readValue_array {fuel depth : Nat} {items : List Json} {cs rest : List Char}
    (h : readItems fuel depth .any true cs = .ok (items, rest)) :
    readValue (fuel + 1) (depth + 1) .any ('[' :: cs) = .ok (.array items, rest) := by
  rw [readValue, skipSpaces_of_not_isSpace (by decide)]
  simp [Form.takesArray, h, bind, Except.bind, pure, Except.pure]

theorem readValue_object {fuel depth : Nat} {members : List (String × Json)} {cs rest : List Char}
    (h : readMembers fuel depth .any true cs = .ok (members, rest)) :
    readValue (fuel + 1) (depth + 1) .any ('\x7b' :: cs) = .ok (.object members, rest) := by
  rw [readValue, skipSpaces_of_not_isSpace (by decide)]
  simp [Form.takesObject, h, bind, Except.bind, pure, Except.pure]

/-- A text at whose start a value is read goes on with something that closes no array. -/
theorem exists_cons_of_readValue {fuel depth : Nat} {cs rest : List Char} {value : Json}
    (h : readValue fuel depth .any cs = .ok (value, rest)) :
    ∃ c tail, skipSpaces cs = c :: tail ∧ c ≠ ']' := by
  cases fuel with
  | zero => simp [readValue] at h
  | succ fuel =>
      cases hskip : skipSpaces cs with
      | nil => simp [readValue, hskip] at h
      | cons c tail =>
          refine ⟨c, tail, rfl, ?_⟩
          rintro rfl
          simp [readValue, hskip, readScalar, bind, Except.bind] at h

theorem readItems_first {fuel depth : Nat} {c : Char} {cs tail : List Char}
    (hskip : skipSpaces cs = c :: tail) (hc : c ≠ ']') :
    readItems (fuel + 1) depth .any true cs = do
      let (item, rest) ← readValue fuel depth .any (c :: tail)
      let (items, rest) ← readItems fuel depth .any false rest
      return (item :: items, rest) := by
  rw [readItems, hskip]
  simp only [Form.item?]
  rfl

theorem readItems_cons {fuel depth : Nat} {item : Json} {items : List Json}
    {cs more rest : List Char} (hitem : readValue fuel depth .any cs = .ok (item, more))
    (hmore : readItems fuel depth .any false more = .ok (items, rest)) :
    readItems (fuel + 1) depth .any true cs = .ok (item :: items, rest) := by
  obtain ⟨c, tail, hskip, hc⟩ := exists_cons_of_readValue hitem
  have hsame : skipSpaces (c :: tail) = skipSpaces cs := by
    rw [← hskip]
    exact List.dropWhile_idempotent isSpace cs
  have hfirst : (Part.value item).ReadFrom fuel depth (c :: tail) more :=
    Part.ReadFrom.of_skipSpaces_eq hitem hsame
  rw [readItems_first hskip hc, hfirst]
  simp [bind, Except.bind, hmore, pure, Except.pure]

/-- After a comma the items go on as if they began. -/
theorem readItems_comma {fuel depth : Nat} {item : Json} {items : List Json} {cs rest : List Char}
    (h : readItems (fuel + 1) depth .any true cs = .ok (item :: items, rest)) :
    readItems (fuel + 1) depth .any false (',' :: cs) = .ok (item :: items, rest) := by
  cases hskip : skipSpaces cs with
  | nil => simp [readItems, hskip] at h
  | cons c tail =>
      have hc : c ≠ ']' := by
        rintro rfl
        simp [readItems, hskip] at h
      rw [← h, readItems_first hskip hc, readItems, skipSpaces_of_not_isSpace (by decide)]
      simp [Form.item?, hskip]
      split
      · contradiction
      · next heq => exact absurd (List.cons.inj heq).1 hc
      · rfl

theorem readMembers_cons {fuel depth : Nat} {key : String} {value : Json}
    {members : List (String × Json)} {cs more rest : List Char}
    (hvalue : readValue fuel depth .any cs = .ok (value, more))
    (hmore : readMembers fuel depth .any false more = .ok (members, rest)) :
    readMembers (fuel + 1) depth .any true (quoteText key ++ ':' :: cs) =
      .ok ((key, value) :: members, rest) := by
  have hcolon : readColon (':' :: cs) = .ok cs := by
    rw [readColon, skipSpaces_of_not_isSpace (by decide)]
    rfl
  rw [quoteText_append, readMembers, skipSpaces_of_not_isSpace (by decide)]
  simp [readText_quote, Form.member?, hcolon, bind, Except.bind, hvalue, hmore, pure, Except.pure]

/-- After a comma the members go on as if they began. -/
theorem readMembers_comma {fuel depth : Nat} {member : String × Json}
    {members : List (String × Json)} {cs rest : List Char}
    (h : readMembers (fuel + 1) depth .any true cs = .ok (member :: members, rest)) :
    readMembers (fuel + 1) depth .any false (',' :: cs) = .ok (member :: members, rest) := by
  cases hskip : skipSpaces cs with
  | nil => simp [readMembers, hskip] at h
  | cons c tail =>
      have hc : c ≠ '\x7d' := by
        rintro rfl
        simp [readMembers, hskip] at h
      rw [← h, readMembers, skipSpaces_of_not_isSpace (by decide), readMembers, hskip]
      simp [hskip]

/-! ## Reading a spelling -/

/-- What is spelled is read.  Each character that the reader passes pays for one step. -/
theorem Spells.readFrom {depth : Nat} {part : Part} {cs rest : List Char}
    (h : Spells depth part cs rest) {fuel : Nat} (hfuel : cs.length ≤ fuel + 1 + rest.length) :
    part.ReadFrom (fuel + 1) depth cs rest := by
  induction h generalizing fuel with
  | blank hc h ih =>
      rw [List.length_cons] at hfuel
      exact (ih (by omega)).of_skipSpaces_eq (skipSpaces_cons hc _)
  | null | yes | no => exact readValue_scalar (by decide) rfl _ _
  | number hc h => exact readValue_scalar (isSpace_of_number hc) (readScalar_number hc h) _ _
  | text => exact readValue_text _ _ _ _
  | array h ih =>
      -- The bracket pays for the step into the array, the items for those in it.
      have hlt := h.length_lt
      rw [List.length_cons] at hfuel
      obtain ⟨fuel, rfl⟩ : ∃ n, fuel = n + 1 := ⟨fuel - 1, by omega⟩
      exact readValue_array (ih (by omega))
  | object h ih =>
      have hlt := h.length_lt
      rw [List.length_cons] at hfuel
      obtain ⟨fuel, rfl⟩ : ∃ n, fuel = n + 1 := ⟨fuel - 1, by omega⟩
      exact readValue_object (ih (by omega))
  | noItem =>
      simp only [Part.ReadFrom]
      rw [readItems, skipSpaces_of_not_isSpace (by decide)]
      rfl
  | noMember =>
      simp only [Part.ReadFrom]
      rw [readMembers, skipSpaces_of_not_isSpace (by decide)]
      rfl
  | item hitem hmore ihitem ihmore =>
      -- Neither the item nor what follows it is empty, so each leaves steps for the other.
      have hlt := hitem.length_lt
      have hlt' := hmore.length_lt
      obtain ⟨fuel, rfl⟩ : ∃ n, fuel = n + 1 := ⟨fuel - 1, by omega⟩
      exact readItems_cons (ihitem (by omega)) (ihmore (by omega))
  | nextItem h ih =>
      rw [List.length_cons] at hfuel
      exact readItems_comma (ih (by omega))
  | member hvalue hmore ihvalue ihmore =>
      have hlt := hvalue.length_lt
      have hlt' := hmore.length_lt
      rw [List.length_append, List.length_cons] at hfuel
      obtain ⟨fuel, rfl⟩ : ∃ n, fuel = n + 1 := ⟨fuel - 1, by omega⟩
      exact readMembers_cons (ihvalue (by omega)) (ihmore (by omega))
  | nextMember h ih =>
      rw [List.length_cons] at hfuel
      exact readMembers_comma (ih (by omega))

/-- A text that spells a value, with nothing but blanks behind it, is read for what the value
stands for. -/
theorem decode_of_spells {α : Type} {read : Json → Option α} {text : String} {value : Json}
    {rest : List Char} {result : α} (h : Spells depthLimit (.value value) text.toList rest)
    (hrest : ∀ c ∈ rest, isSpace c = true) (hread : read value = some result) :
    decode .any read text = .ok result := by
  have hvalue : readValue (readerFuel text.toList) depthLimit .any text.toList =
      .ok (value, rest) := h.readFrom (by omega)
  have hend : readEnd rest = .ok () := by
    rw [readEnd, skipSpaces, List.dropWhile_eq_nil_iff.mpr hrest]
    rfl
  simp only [decode, hvalue, hread, hend, bind, Except.bind]
  rfl

/-! ## What is written on one line -/

/-- The text does not go on a number that stands before it. -/
def AfterNumber (rest : List Char) : Prop :=
  ∀ c ∈ rest.head?, c.isDigit = false ∧ c ≠ '.' ∧ c ≠ 'e' ∧ c ≠ 'E'

/-- A literal that is read as a number wherever it may stand. -/
def IsNumeral (literal : List Char) : Prop :=
  (∃ c ∈ literal.head?, c = '-' ∨ c.isDigit = true) ∧
    ∀ rest, AfterNumber rest → readNumber (literal ++ rest) = .ok (literal, rest)

/-- The numbers of the value are numerals, and at most `depth` of its arrays and objects stand
in one another. -/
inductive Fits : Nat → Json → Prop where
  | null {depth : Nat} : Fits depth .null
  | bool {depth : Nat} {value : Bool} : Fits depth (.bool value)
  | number {depth : Nat} {literal : String} (h : IsNumeral literal.toList) :
      Fits depth (.number literal)
  | text {depth : Nat} {value : String} : Fits depth (.text value)
  | array {depth : Nat} {items : List Json} (h : ∀ item ∈ items, Fits depth item) :
      Fits (depth + 1) (.array items)
  | object {depth : Nat} {members : List (String × Json)}
      (h : ∀ member ∈ members, Fits depth member.2) : Fits (depth + 1) (.object members)

@[simp] theorem fits_null {depth : Nat} : Fits depth .null := .null

@[simp] theorem fits_text {depth : Nat} {value : String} : Fits depth (.text value) := .text

@[simp] theorem fits_array_iff {depth : Nat} {items : List Json} :
    Fits (depth + 1) (.array items) ↔ ∀ item ∈ items, Fits depth item :=
  ⟨fun h => by cases h; assumption, .array⟩

@[simp] theorem fits_object_iff {depth : Nat} {members : List (String × Json)} :
    Fits (depth + 1) (.object members) ↔ ∀ member ∈ members, Fits depth member.2 :=
  ⟨fun h => by cases h; assumption, .object⟩

/-- The value as it is written, before any text that starts with no more of it. -/
def SpelledBefore (depth : Nat) (value : Json) : Prop :=
  ∀ rest, AfterNumber rest → Spells depth (.value value) (compactChars value ++ rest) rest

theorem afterNumber_cons {c : Char} (h : c.isDigit = false ∧ c ≠ '.' ∧ c ≠ 'e' ∧ c ≠ 'E')
    (rest : List Char) : AfterNumber (c :: rest) := by
  intro d hd
  obtain rfl : c = d := by simpa using hd
  exact h

theorem spells_compactMoreItems {depth : Nat} {items : List Json}
    (h : ∀ item ∈ items, SpelledBefore depth item) (rest : List Char) :
    Spells depth (.items false items) (compactMoreItems items ++ ']' :: rest) rest ∧
      AfterNumber (compactMoreItems items ++ ']' :: rest) := by
  induction items with
  | nil => exact ⟨.noItem, afterNumber_cons (by decide) _⟩
  | cons item items ih =>
      obtain ⟨hmore, hafter⟩ := ih fun other hother => h other (List.mem_cons_of_mem _ hother)
      have hitem := h item List.mem_cons_self _ hafter
      rw [compactMoreItems, List.append_assoc, List.cons_append]
      refine ⟨.nextItem (.item hitem hmore), afterNumber_cons (by decide) _⟩

theorem spells_compactItems {depth : Nat} {items : List Json}
    (h : ∀ item ∈ items, SpelledBefore depth item) (rest : List Char) :
    Spells depth (.items true items) (compactItems items ++ ']' :: rest) rest := by
  cases items with
  | nil => exact .noItem
  | cons item items =>
      obtain ⟨hmore, hafter⟩ :=
        spells_compactMoreItems (fun other hother => h other (List.mem_cons_of_mem _ hother)) rest
      have hitem := h item List.mem_cons_self _ hafter
      rw [compactItems, List.append_assoc]
      exact .item hitem hmore

theorem spells_compactMoreMembers {depth : Nat} {members : List (String × Json)}
    (h : ∀ member ∈ members, SpelledBefore depth member.2) (rest : List Char) :
    Spells depth (.members false members) (compactMoreMembers members ++ '\x7d' :: rest) rest ∧
      AfterNumber (compactMoreMembers members ++ '\x7d' :: rest) := by
  induction members with
  | nil => exact ⟨.noMember, afterNumber_cons (by decide) _⟩
  | cons member members ih =>
      obtain ⟨hmore, hafter⟩ := ih fun other hother => h other (List.mem_cons_of_mem _ hother)
      have hvalue := h member List.mem_cons_self _ hafter
      simp only [compactMoreMembers, List.append_assoc, List.cons_append]
      refine ⟨.nextMember (.member hvalue hmore), afterNumber_cons (by decide) _⟩

theorem spells_compactMembers {depth : Nat} {members : List (String × Json)}
    (h : ∀ member ∈ members, SpelledBefore depth member.2) (rest : List Char) :
    Spells depth (.members true members) (compactMembers members ++ '\x7d' :: rest) rest := by
  cases members with
  | nil => exact .noMember
  | cons member members =>
      obtain ⟨hmore, hafter⟩ :=
        spells_compactMoreMembers (fun other hother => h other (List.mem_cons_of_mem _ hother)) rest
      have hvalue := h member List.mem_cons_self _ hafter
      simp only [compactMembers, List.append_assoc, List.cons_append]
      exact .member hvalue hmore

theorem Fits.spelledBefore {depth : Nat} {value : Json} (h : Fits depth value) :
    SpelledBefore depth value := by
  induction h with
  | null => exact fun rest _ => .null
  | @bool depth value =>
      intro rest _
      cases value with
      | true => exact .yes
      | false => exact .no
  | @number depth literal h =>
      intro rest hrest
      obtain ⟨⟨c, hc, hstart⟩, hread⟩ := h
      obtain ⟨tail, htail⟩ := List.head?_eq_some_iff.mp hc
      have hliteral : literal = String.ofList (c :: tail) := by
        rw [← htail, String.ofList_toList]
      have hnumber := hread rest hrest
      rw [htail] at hnumber
      rw [compactChars, htail, hliteral]
      exact .number hstart hnumber
  | text => exact fun rest _ => .text
  | array _ ih =>
      intro rest _
      simp only [compactChars, List.cons_append, List.append_assoc]
      exact .array (spells_compactItems ih rest)
  | object _ ih =>
      intro rest _
      simp only [compactChars, List.cons_append, List.append_assoc]
      exact .object (spells_compactMembers ih rest)

/-- The text of a value, read for what the value stands for. -/
theorem decode_compact {α : Type} {read : Json → Option α} {value : Json} {result : α}
    (h : Fits depthLimit value) (hread : read value = some result) :
    decode .any read value.compact = .ok result := by
  have hspelled := h.spelledBefore [] (by simp [AfterNumber])
  have htext : Spells depthLimit (.value value) value.compact.toList [] := by
    rwa [compact, String.toList_ofList, ← List.append_nil value.compactChars]
  exact decode_of_spells htext (by simp) hread

/-- A value is what its own text holds. -/
theorem parse_compact {value : Json} (h : Fits depthLimit value) :
    parse value.compact = .ok value :=
  decode_compact h rfl

end StyleCompletion.Json
