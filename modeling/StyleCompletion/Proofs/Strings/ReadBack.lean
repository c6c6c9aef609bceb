/-
Strings files read back.

A strings file is made of entries with other text before, between and after them.  An entry
starts with `<string`, which stands nowhere in the other text, and its text goes to the first
`</string>`.  So each entry is read as it was written, and none swallows its neighbour: the
entries of the file are the ones that were written, in their order.
-/
import StyleCompletion.Proofs.Markup.Lines
import StyleCompletion.Proofs.Text.Distinct
import StyleCompletion.Proofs.Text.Search
import StyleCompletion.Rule

namespace StyleCompletion

/-! ## Written strings files -/

/-- The start of an entry, up to the quote after its key. -/
def entryStart (key : List Char) : List Char := "<string name=\"".toList ++ (key ++ ['"'])

/-- `written` is the entry as a strings file may have it.  A key is not empty and has no quotes.
An entry with a text has it up to `</string>`, and one without closes itself, perhaps behind
blanks. -/
inductive StringEntry.WrittenAs : StringEntry → List Char → Prop where
  | withText {key text : List Char} (hne : key ≠ []) (hkey : '"' ∉ key)
      (htext : ¬"</string>".toList <:+: text) :
      WrittenAs ⟨key, some text⟩ (entryStart key ++ '>' :: (text ++ "</string>".toList))
  | selfClosing {key gap : List Char} (hne : key ≠ []) (hkey : '"' ∉ key)
      (hgap : ∀ c ∈ gap, Text.isBlank c = true) :
      WrittenAs ⟨key, none⟩ (entryStart key ++ (gap ++ ['/', '>']))

/-- A file has these entries, in this order, and between them other text in which no entry
starts. -/
inductive StringsFile : List StringEntry → List Char → Prop where
  | done {other : List Char} (hother : ¬"<string".toList <:+: other) : StringsFile [] other
  | entry {entry : StringEntry} {entries : List StringEntry} {other written rest : List Char}
      (hother : ¬"<string".toList <:+: other) (hwritten : entry.WrittenAs written)
      (hrest : StringsFile entries rest) :
      StringsFile (entry :: entries) (other ++ (written ++ rest))

/-! ## One entry -/

theorem entryKey?_append {key : List Char} (hne : key ≠ []) (hkey : '"' ∉ key)
    (rest : List Char) : entryKey? (key ++ '"' :: rest) = some (key, rest) := by
  rw [entryKey?, Text.dropWhile_ne_append hkey, Text.takeWhile_ne_append hkey]
  obtain ⟨c, key, rfl⟩ := List.exists_cons_of_ne_nil hne
  rfl

/-- The first `>` behind a key ends the tag. -/
theorem entryText?_append {inside : List Char} (hinside : '>' ∉ inside) (rest : List Char) :
    entryText? (inside ++ '>' :: rest) =
      if inside.getLast? = some '/' then some (none, rest)
      else (Text.splitAtFirst? "</string>".toList rest).map
        fun (text, rest) => (some text, rest) := by
  rw [entryText?, Text.dropWhile_ne_append hinside, Text.takeWhile_ne_append hinside]

theorem entryText?_withText {text : List Char} (htext : ¬"</string>".toList <:+: text)
    (rest : List Char) :
    entryText? ('>' :: (text ++ ("</string>".toList ++ rest))) = some (some text, rest) := by
  have hclosing : '<' ∉ "/string>".toList := by decide
  have hsplit : Text.splitAtFirst? "</string>".toList (text ++ ("</string>".toList ++ rest)) =
      some (text, rest) := Text.splitAtFirst?_append_mark hclosing htext rest
  have htag := entryText?_append List.not_mem_nil (text ++ ("</string>".toList ++ rest))
  rw [List.nil_append] at htag
  rw [htag, if_neg (by simp), hsplit]
  rfl

theorem entryText?_selfClosing {gap : List Char} (hgap : ∀ c ∈ gap, Text.isBlank c = true)
    (rest : List Char) : entryText? (gap ++ '/' :: '>' :: rest) = some (none, rest) := by
  have hinside : '>' ∉ gap ++ ['/'] := by
    intro hmem
    rcases List.mem_append.mp hmem with hmem | hmem
    · exact absurd (hgap _ hmem) (by decide)
    · exact absurd hmem (by decide)
  rw [List.append_cons, entryText?_append hinside, if_pos List.getLast?_concat]

theorem entryStart_append (key after : List Char) :
    entryStart key ++ after =
      "<string".toList ++ ' ' :: ("name=\"".toList ++ (key ++ '"' :: after)) := by
  have hstart : "<string name=\"".toList = "<string".toList ++ ' ' :: "name=\"".toList := by
    decide
  unfold entryStart
  rewrite [hstart]
  simp only [List.append_assoc, List.cons_append, List.nil_append]

/-- An entry is read if its key and what follows the key are. -/
theorem entryAtStart?_of_text {key after rest : List Char} {text : Option (List Char)}
    (hne : key ≠ []) (hkey : '"' ∉ key) (htext : entryText? after = some (text, rest)) :
    entryAtStart? (entryStart key ++ after) = some (⟨key, text⟩, rest) := by
  have hspace : Text.isBlank ' ' = true := by decide
  have hopening := dropStart?_eq_some_iff.mpr (entryStart_append key after)
  have hblanks : Text.trimLeft (' ' :: ("name=\"".toList ++ (key ++ '"' :: after))) =
      "name=\"".toList ++ (key ++ '"' :: after) :=
    Text.trimLeft_eq_cons_iff.mpr ⟨[' '], by simpa using hspace, by decide, rfl⟩
  have hname : dropStart? "name=\"".toList ("name=\"".toList ++ (key ++ '"' :: after)) =
      some (key ++ '"' :: after) := dropStart?_eq_some_iff.mpr rfl
  simp only [entryAtStart?, hopening, hblanks, hname, hspace, entryKey?_append hne hkey, htext,
    Option.bind_eq_bind, Option.bind_some, List.head?_cons, if_true]
  rfl

/-- An entry is read as it was written, whatever follows it. -/
theorem entryAtStart?_append {entry : StringEntry} {written : List Char}
    (h : entry.WrittenAs written) (rest : List Char) :
    entryAtStart? (written ++ rest) = some (entry, rest) := by
  cases h with
  | withText hne hkey htext =>
      rw [List.append_assoc, List.cons_append, List.append_assoc]
      exact entryAtStart?_of_text hne hkey (entryText?_withText htext rest)
  | selfClosing hne hkey hgap =>
      rw [List.append_assoc, List.append_assoc]
      exact entryAtStart?_of_text hne hkey (entryText?_selfClosing hgap rest)

/-! ## All entries -/

theorem stringEntries_of_some {cs rest : List Char} {entry : StringEntry}
    (h : entryAtStart? cs = some (entry, rest)) :
    stringEntries cs = entry :: stringEntries rest := by
  cases cs with
  | nil => exact absurd (length_entryAtStart? h) (Nat.not_lt_zero _)
  | cons c cs =>
      rw [stringEntries]
      split
      · next hentry =>
          obtain ⟨rfl, rfl⟩ := Prod.mk.inj (Option.some.inj (hentry.symm.trans h))
          rfl
      · next hnone => exact absurd (hnone.symm.trans h) (by simp)

/-- Where no `<string` starts, no entry does. -/
theorem stringEntries_of_not_isPrefix {c : Char} {cs : List Char}
    (h : ¬"<string".toList <+: c :: cs) : stringEntries (c :: cs) = stringEntries cs := by
  have hnone : entryAtStart? (c :: cs) = none := by
    have hopening : dropStart? "<string".toList (c :: cs) = none := by
      rw [Option.eq_none_iff_forall_ne_some]
      intro rest hrest
      exact h ⟨rest, (dropStart?_eq_some_iff.mp hrest).symm⟩
    simp only [entryAtStart?, hopening, Option.bind_eq_bind, Option.bind_none]
  rw [stringEntries]
  split
  · next hentry => exact absurd (hnone.symm.trans hentry) (by simp)
  · rfl

/-- Other text up to the next entry or the end is passed over. -/
theorem stringEntries_other_append {other rest : List Char}
    (hother : ¬"<string".toList <:+: other) (hrest : ∀ c ∈ rest.head?, c = '<') :
    stringEntries (other ++ rest) = stringEntries rest := by
  have hmark : '<' ∉ "string".toList := by decide
  induction other with
  | nil => rfl
  | cons c other ih =>
      have hstart : ¬"<string".toList <+: c :: other ++ rest :=
        Text.not_isPrefix_append hmark (by simp) (fun h => hother h.isInfix) hrest
      rw [List.cons_append] at hstart ⊢
      rw [stringEntries_of_not_isPrefix hstart]
      exact ih (fun h => hother (List.infix_cons h))

theorem StringEntry.WrittenAs.head?_eq {entry : StringEntry} {written : List Char}
    (h : entry.WrittenAs written) (rest : List Char) : (written ++ rest).head? = some '<' := by
  cases h with
  | withText => rfl
  | selfClosing => rfl

/-- The entries of a strings file are those that were written, in order. -/
theorem stringEntries_of_stringsFile {entries : List StringEntry} {cs : List Char}
    (h : StringsFile entries cs) : stringEntries cs = entries := by
  -- By induction on how the file is made, with the other text and one entry in each step.
  induction h with
  | @done other hother =>
      have hpassed : stringEntries (other ++ []) = stringEntries [] :=
        stringEntries_other_append hother (by simp)
      rw [List.append_nil] at hpassed
      rw [hpassed, stringEntries]
  | @entry entry entries other written rest hother hwritten _ ih =>
      have hnext : ∀ c ∈ (written ++ rest).head?, c = '<' := by
        intro c hc
        rw [hwritten.head?_eq rest] at hc
        exact (Option.some.inj hc).symm
      rw [stringEntries_other_append hother hnext,
        stringEntries_of_some (entryAtStart?_append hwritten rest), ih]

/-! ## The first entry of each key -/

theorem map_key_distinctEntries (entries : List StringEntry) :
    (distinctEntries entries).map StringEntry.key = (entries.map StringEntry.key).eraseDups := by
  have hgo (seen : List (List Char)) : (distinctEntries.go seen entries).map StringEntry.key =
      Text.distinctFrom seen (entries.map StringEntry.key) := by
    induction entries generalizing seen with
    | nil => rfl
    | cons entry rest ih =>
        rw [distinctEntries.go, List.map_cons, Text.distinctFrom]
        split
        · exact ih seen
        · rw [List.map_cons, ih]
  rw [← Text.distinct_eq_eraseDups]
  exact hgo []

/-- What is kept lies under a new key, and of the entries under that key it is the first. -/
theorem of_mem_distinctEntries_go {seen : List (List Char)} {entries : List StringEntry}
    {entry : StringEntry} (h : entry ∈ distinctEntries.go seen entries) :
    entry.key ∉ seen ∧ entries.find? (·.key = entry.key) = some entry := by
  induction entries generalizing seen with
  | nil => exact absurd h List.not_mem_nil
  | cons first rest ih =>
      rw [distinctEntries.go] at h
      split at h
      · next hseen =>
          -- The first entry is left out, but it does not lie under the key of the one that is kept.
          obtain ⟨hnew, hfind⟩ := ih h
          have hne : first.key ≠ entry.key :=
            fun heq => hnew (heq ▸ List.contains_iff_mem.mp hseen)
          exact ⟨hnew, by rw [List.find?_cons_of_neg (by simpa using hne), hfind]⟩
      · next hseen =>
          rcases List.mem_cons.mp h with rfl | h
          · refine ⟨fun hold => hseen (List.contains_iff_mem.mpr hold), ?_⟩
            exact List.find?_cons_of_pos (by simp)
          · obtain ⟨hnew, hfind⟩ := ih h
            obtain ⟨hne, hnew⟩ := List.ne_and_not_mem_of_not_mem_cons hnew
            exact ⟨hnew, by rw [List.find?_cons_of_neg (by simpa using hne.symm), hfind]⟩

/-! ## What the rule offers -/

/-- What is shown for a key: the text of its first entry without the blanks around it, if there is
such a text and anything is left of it. -/
def shownText (entries : List StringEntry) (key : List Char) : Option String :=
  match (entries.find? (·.key = key)).bind StringEntry.text with
  | none => none
  | some text => if Text.trim text = [] then none else some (String.ofList (Text.trim text))

theorem keyCandidate_eq {entries : List StringEntry} {entry : StringEntry}
    (h : entries.find? (·.key = entry.key) = some entry) :
    keyCandidate entry = {
      label := String.ofList entry.key, kind := .text, detail := shownText entries entry.key } := by
  rw [shownText, h, Option.bind_some, keyCandidate]
  cases entry.text with
  | none => rfl
  | some text =>
      cases htrim : Text.trim text with
      | nil => simp [htrim, Candidate.new]
      | cons c trimmed => simp [htrim, Candidate.new, Candidate.withDetail]

theorem keyCandidates_of_stringsFile {entries : List StringEntry} {text : String}
    (hfile : StringsFile entries text.toList) (word : Option String) :
    keyCandidates text word =
      (((entries.map StringEntry.key).eraseDups.filter
        fun key => accepts (String.ofList key) word).map fun key =>
          { label := String.ofList key, kind := .text, detail := shownText entries key }) := by
  rw [keyCandidates, stringEntries_of_stringsFile hfile, ← map_key_distinctEntries,
    List.filter_map, List.map_map]
  apply List.map_congr_left
  intro entry hmem
  exact keyCandidate_eq (of_mem_distinctEntries_go (List.mem_filter.mp hmem).1).2

/-- The rule for localized texts reads a strings file back: it offers one candidate for each
key that the word lets pass, in the order in which the keys first appear, and shows the text of
the key's first entry. -/
theorem Rule.textKey_reads_back {context : RuleContext} {path : Path} {text : String}
    {entries : List StringEntry}
    (hpath : context.project.strings context.files context.stylePath = some path)
    (htext : context.project.readText context.files path = .ok text)
    (hfile : StringsFile entries text.toList) :
    Rule.textKey.answer context = pure (some
      (((entries.map StringEntry.key).eraseDups.filter
        fun key => accepts (String.ofList key) context.word).map fun key =>
          { label := String.ofList key, kind := .text, detail := shownText entries key })) := by
  rw [← keyCandidates_of_stringsFile hfile context.word]
  -- The file is found and read, so the rule does not decline.
  simp only [Rule.textKey, hpath, htext]

/-- A strings file with an entry that closes itself before others, a text over several lines and
a key that comes twice. -/
def cartStrings : String :=
  "<resources>\n<string name=\"cart\" />\n<string name=\"total\">\n Total <b> </string>" ++
    "<string name=\"cart\">Cart</string>\n<string name=\"ok\">OK</string></resources>"

/-- The entries of this file. -/
def cartEntries : List StringEntry := [
  ⟨"cart".toList, none⟩, ⟨"total".toList, some "\n Total <b> ".toList⟩,
  ⟨"cart".toList, some "Cart".toList⟩, ⟨"ok".toList, some "OK".toList⟩]

theorem stringsFile_cartStrings : StringsFile cartEntries cartStrings.toList := by
  have hlacks {needle text : List Char} (h : Text.occursIn needle text = false) :
      ¬needle <:+: text := by
    rw [← Text.occursIn_iff_isInfix, h]
    exact Bool.false_ne_true
  have hchars : cartStrings.toList =
      "<resources>\n".toList ++ ((entryStart "cart".toList ++ ([' '] ++ ['/', '>'])) ++
      (['\n'] ++ ((entryStart "total".toList ++
        '>' :: ("\n Total <b> ".toList ++ "</string>".toList)) ++
      ([] ++ ((entryStart "cart".toList ++ '>' :: ("Cart".toList ++ "</string>".toList)) ++
      (['\n'] ++ ((entryStart "ok".toList ++ '>' :: ("OK".toList ++ "</string>".toList)) ++
      "</resources>".toList))))))) := by
    decide +kernel
  rw [hchars]
  have hgap : ∀ c ∈ [' '], Text.isBlank c = true := List.all_eq_true.mp (by decide)
  refine .entry (hlacks (by decide)) (.selfClosing (by decide) (by decide) hgap) ?_
  refine .entry (hlacks (by decide)) (.withText (by decide) (by decide) (hlacks (by decide))) ?_
  refine .entry (hlacks (by decide)) (.withText (by decide) (by decide) (hlacks (by decide))) ?_
  refine .entry (hlacks (by decide)) (.withText (by decide) (by decide) (hlacks (by decide))) ?_
  exact .done (hlacks (by decide))

/-- A rule asked for the keys of this file that hold a `t`. -/
def cartContext : RuleContext where
  linePrefix := "textid: \"t"
  word := some "t"
  stylePath := ⟨"cart.tss"⟩
  project := .inMemory [(⟨"strings.xml"⟩, cartStrings)] none (some ⟨"strings.xml"⟩) none
  files := FileTree.empty.asFileSystem
  schema := {}
  settings := {}

/-- Of the two entries for `cart` the first counts, though it has no text, and the text of `total`
is shown without the blanks around it. -/
theorem Rule.textKey_reads_back_cart :
    cartContext.project.strings cartContext.files cartContext.stylePath = some ⟨"strings.xml"⟩ ∧
    cartContext.project.readText cartContext.files ⟨"strings.xml"⟩ = .ok cartStrings ∧
    StringsFile cartEntries cartStrings.toList ∧
    Rule.textKey.answer cartContext = pure (some [
      { label := "cart", kind := .text },
      { label := "total", kind := .text, detail := some "Total <b>" }]) := by
  refine ⟨rfl, rfl, stringsFile_cartStrings, ?_⟩
  rw [Rule.textKey_reads_back rfl rfl stringsFile_cartStrings]
  exact congrArg (fun items => pure (some items)) (by decide)

end StyleCompletion
