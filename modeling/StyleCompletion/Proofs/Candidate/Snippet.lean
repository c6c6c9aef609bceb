/-
Snippets, read back.

A snippet holds the text that is inserted and the caret in one string: `$0` is the caret, and a
backslash takes its meaning from the character behind it.  This file has the reader of an editor,
which goes through a snippet from left to right and keeps the place of every caret that it meets.
What a candidate is written as is read back without loss: its text, and one caret.
-/
import StyleCompletion.Candidate
import StyleCompletion.Proofs.Document.Slices

namespace StyleCompletion

/-! ## The reader -/

namespace Snippet

/-- Reads a snippet of which the text before `offset` is read already: the characters of the
text, and the offset of each caret.  A backslash and a character are this character, `$0` is a
caret, and everything else is itself. -/
def readFrom (offset : Nat) : List Char → List Char × List Nat
  | [] => ([], [])
  | '\\' :: c :: rest =>
      let (text, carets) := readFrom (offset + c.utf8Size) rest
      (c :: text, carets)
  | '$' :: '0' :: rest =>
      let (text, carets) := readFrom offset rest
      (text, offset :: carets)
  | c :: rest =>
      let (text, carets) := readFrom (offset + c.utf8Size) rest
      (c :: text, carets)

/-- Reads a snippet: its text, and the byte offset in the text of each caret. -/
def decode (snippet : String) : String × List Nat :=
  let (text, carets) := readFrom 0 snippet.toList
  (String.ofList text, carets)

/-- A character that starts nothing is itself. -/
theorem readFrom_plain {c : Char} (hslash : c ≠ '\\') (hdollar : c ≠ '$') (offset : Nat)
    (rest : List Char) :
    readFrom offset (c :: rest) =
      (c :: (readFrom (offset + c.utf8Size) rest).1, (readFrom (offset + c.utf8Size) rest).2) := by
  rw [readFrom]
  · simp [hslash]
  · simp [hdollar]

/-- What is escaped is read back, and reading goes on behind it. -/
theorem readFrom_escapeSnippet (offset : Nat) (cs rest : List Char) :
    readFrom offset (Candidate.escapeSnippet cs ++ rest) =
      (cs ++ (readFrom (offset + Text.byteLength cs) rest).1,
        (readFrom (offset + Text.byteLength cs) rest).2) := by
  induction cs generalizing offset with
  | nil => rfl
  | cons c cs ih =>
      have hrest := ih (offset + c.utf8Size)
      rw [Nat.add_assoc, ← Text.byteLength_cons] at hrest
      rw [Candidate.escapeSnippet, List.flatMap_cons, ← Candidate.escapeSnippet, List.append_assoc]
      -- Behind its backslash a character is read as it is; without one it must start nothing.
      by_cases hspecial : c = '$' || c = '\x7d' || c = '\\'
      · rw [if_pos hspecial, List.cons_append, List.singleton_append, readFrom, hrest]
        rfl
      · rw [if_neg hspecial, List.singleton_append]
        simp only [Bool.or_eq_true, decide_eq_true_eq, not_or] at hspecial
        rw [readFrom_plain hspecial.2 hspecial.1.1, hrest]
        rfl

/-- Between two escaped texts there is one caret. -/
theorem readFrom_caret_between (before after : List Char) :
    readFrom 0 (Candidate.escapeSnippet before ++ ['$', '0'] ++ Candidate.escapeSnippet after) =
      (before ++ after, [Text.byteLength before]) := by
  have hafter (offset : Nat) :
      readFrom offset (Candidate.escapeSnippet after) = (after, []) := by
    have h := readFrom_escapeSnippet offset after []
    rwa [List.append_nil, readFrom, List.append_nil] at h
  rw [List.append_assoc, readFrom_escapeSnippet, List.cons_append, List.singleton_append, readFrom,
    hafter, Nat.zero_add]

end Snippet

/-! ## The snippet of a candidate -/

namespace Candidate

/-- The byte offset of the caret in the inserted text: the cursor where it is a place in the text,
and the end of the text otherwise. -/
def caretOffset (candidate : Candidate) : Nat :=
  match candidate.cursor with
  | some n =>
      if (String.Pos.Raw.mk n).IsValid candidate.text then n else candidate.text.utf8ByteSize
  | none => candidate.text.utf8ByteSize

/-- The text is cut at the offset of the caret. -/
theorem splitAtByte?_caretOffset (candidate : Candidate) :
    Text.splitAtByte? candidate.caretOffset candidate.text.toList = some candidate.caretSplit := by
  have hend : Text.splitAtByte? candidate.text.utf8ByteSize candidate.text.toList =
      some (candidate.text.toList, []) := by
    rw [Text.splitAtByte?_eq_some_iff, Text.byteLength_eq_utf8ByteSize, String.ofList_toList]
    exact ⟨(List.append_nil _).symm, rfl⟩
  rw [caretOffset, caretSplit]
  cases candidate.cursor with
  | none => exact hend
  | some n =>
      rw [Option.bind_some]
      by_cases hplace : (String.Pos.Raw.mk n).IsValid candidate.text
      · obtain ⟨front, rest, hsplit⟩ := Text.isValid_iff_exists_split.mp hplace
        simp only [if_pos hplace, hsplit, Option.getD_some]
      · -- A cursor inside of a character or past the end counts as the end.
        have hnone : Text.splitAtByte? n candidate.text.toList = none := by
          rw [Option.eq_none_iff_forall_ne_some]
          rintro ⟨front, rest⟩ hsplit
          exact hplace (Text.isValid_iff_exists_split.mpr ⟨front, rest, hsplit⟩)
        simp only [if_neg hplace, hnone, Option.getD_none, hend]

/-- The parts before and after the caret are the text, and the caret stands at its offset. -/
theorem caretSplit_parts (candidate : Candidate) :
    candidate.text.toList = candidate.caretSplit.1 ++ candidate.caretSplit.2 ∧
      Text.byteLength candidate.caretSplit.1 = candidate.caretOffset :=
  Text.splitAtByte?_eq_some_iff.mp candidate.splitAtByte?_caretOffset

theorem caretOffset_le (candidate : Candidate) :
    candidate.caretOffset ≤ candidate.text.utf8ByteSize := by
  obtain ⟨htext, hoffset⟩ := candidate.caretSplit_parts
  have hsize : Text.byteLength candidate.text.toList = candidate.text.utf8ByteSize := by
    rw [Text.byteLength_eq_utf8ByteSize, String.ofList_toList]
  rw [← hsize, htext, Text.byteLength_append]
  omega

theorem decode_snippet (candidate : Candidate) :
    Snippet.decode candidate.snippet = (candidate.text, [candidate.caretOffset]) := by
  obtain ⟨htext, hoffset⟩ := candidate.caretSplit_parts
  simp only [Snippet.decode, snippet, String.toList_ofList, Snippet.readFrom_caret_between]
  rw [← htext, hoffset, String.ofList_toList]

/-- Text and caret make the snippet: nothing else of a candidate is in it. -/
theorem snippet_congr {candidate other : Candidate} (htext : candidate.text = other.text)
    (hoffset : candidate.caretOffset = other.caretOffset) : candidate.snippet = other.snippet := by
  have hsplit : candidate.caretSplit = other.caretSplit := by
    apply Option.some.inj
    rw [← candidate.splitAtByte?_caretOffset, ← other.splitAtByte?_caretOffset, htext, hoffset]
  rw [snippet, snippet, hsplit]

/-- A snippet is read as the inserted text with one caret, at the cursor if that is a place in the
text and at the end otherwise.  So snippets are equal exactly when both text and caret are. -/
theorem snippet_holds_text_and_caret (candidate : Candidate) :
    Snippet.decode candidate.snippet = (candidate.text, [candidate.caretOffset]) ∧
    candidate.caretOffset ≤ candidate.text.utf8ByteSize ∧
    ∀ other : Candidate, candidate.snippet = other.snippet ↔
      candidate.text = other.text ∧ candidate.caretOffset = other.caretOffset := by
  refine ⟨candidate.decode_snippet, candidate.caretOffset_le, fun other => ⟨fun heq => ?_, ?_⟩⟩
  · have hread := congrArg Snippet.decode heq
    rw [decode_snippet, decode_snippet, Prod.mk.injEq, List.singleton_inj] at hread
    exact hread
  · rintro ⟨htext, hoffset⟩
    exact snippet_congr htext hoffset

/-- A text that looks like a caret itself, and a cursor inside of its two-byte character. -/
example : (Candidate.mk "é$0\\" .value none none (some 1)).snippet = "é\\$0\\\\$0" ∧
    Snippet.decode "é\\$0\\\\$0" = ("é$0\\", [5]) := by decide

end Candidate

end StyleCompletion
