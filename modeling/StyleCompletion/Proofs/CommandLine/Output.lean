/-
Candidates that are printed as JSON, read back.

The output is one document and a line end.  Its value is an array with an object for each
candidate, in order, and the members of the object are the fields that the candidate has, and no
others.  So nothing of a candidate is lost on the way, whatever characters its texts hold.
-/
import Mathlib.Data.List.Forall2
import StyleCompletion.CommandLine.Run
import StyleCompletion.Proofs.Json.Indented
import StyleCompletion.Proofs.Json.Numeral
import StyleCompletion.Proofs.Json.Record

namespace StyleCompletion

/-! ## The members of a candidate -/

theorem CandidateKind.eq_of_name_eq {kind other : CandidateKind} (h : kind.name = other.name) :
    kind = other := by
  cases kind <;> cases other <;> revert h <;> decide

namespace Candidate

/-- The names under which the fields of a candidate are written. -/
def fieldNames : List String := ["label", "kind", "detail", "insertText", "cursor"]

/-- `members` are the fields of the candidate: each that it has under its own name, once, and
nothing under any other name. -/
structure HasMembers (candidate : Candidate) (members : List (String × Json)) : Prop where
  label : members.lookup "label" = some (.text candidate.label)
  kind : members.lookup "kind" = some (.text candidate.kind.name)
  detail : members.lookup "detail" = candidate.detail.map .text
  insertText : members.lookup "insertText" = candidate.insertText.map .text
  cursor : members.lookup "cursor" = candidate.cursor.map fun n => .number n.repr
  known : ∀ key ∈ members.map Prod.fst, key ∈ fieldNames
  distinct : (members.map Prod.fst).Nodup

/-- The fields of a candidate, present or absent. -/
def fields (candidate : Candidate) : List (String × Option Json) :=
  [("label", some (.text candidate.label)), ("kind", some (.text candidate.kind.name)),
    ("detail", candidate.detail.map .text), ("insertText", candidate.insertText.map .text),
    ("cursor", candidate.cursor.map fun n => .number n.repr)]

theorem nodup_map_fst_fields (candidate : Candidate) :
    (candidate.fields.map Prod.fst).Nodup := by
  show fieldNames.Nodup
  decide

/-- The members that are written for a candidate. -/
def members (candidate : Candidate) : List (String × Json) := Json.presentMembers candidate.fields

theorem toJson_eq (candidate : Candidate) : candidate.toJson = .object candidate.members := by
  obtain ⟨label, kind, detail, insertText, cursor⟩ := candidate
  cases detail <;> cases insertText <;> cases cursor <;> rfl

theorem hasMembers_members (candidate : Candidate) : candidate.HasMembers candidate.members := by
  have hlookup {key : String} {value : Option Json} (h : (key, value) ∈ candidate.fields) :
      candidate.members.lookup key = value :=
    Json.lookup_presentMembers candidate.nodup_map_fst_fields h
  have hnames := Json.map_fst_presentMembers_sublist candidate.fields
  exact {
    label := hlookup (by simp [fields])
    kind := hlookup (by simp [fields])
    detail := hlookup (by simp [fields])
    insertText := hlookup (by simp [fields])
    cursor := hlookup (by simp [fields])
    known := fun key hkey => hnames.subset hkey
    distinct := hnames.nodup candidate.nodup_map_fst_fields }

/-- The members tell the candidate. -/
theorem HasMembers.unique {candidate other : Candidate} {members : List (String × Json)}
    (h : candidate.HasMembers members) (hother : other.HasMembers members) : candidate = other := by
  have htext : Function.Injective Json.text := fun _ _ => Json.text.inj
  have hnumber : Function.Injective fun n : Nat => Json.number n.repr := by
    intro m n heq
    -- The digits of a number tell its value.
    have hdigits : Nat.toDigits 10 m = Nat.toDigits 10 n := by
      rw [← Nat.toList_repr, ← Nat.toList_repr, Json.number.inj heq]
    rw [← Nat.ofDigitChars_ten_toDigits (n := m), hdigits, Nat.ofDigitChars_ten_toDigits]
  have hlabel : candidate.label = other.label :=
    htext (Option.some.inj (h.label.symm.trans hother.label))
  have hkind : candidate.kind = other.kind :=
    CandidateKind.eq_of_name_eq (htext (Option.some.inj (h.kind.symm.trans hother.kind)))
  have hdetail : candidate.detail = other.detail :=
    Option.map_injective htext (h.detail.symm.trans hother.detail)
  have hinsert : candidate.insertText = other.insertText :=
    Option.map_injective htext (h.insertText.symm.trans hother.insertText)
  have hcursor : candidate.cursor = other.cursor :=
    Option.map_injective hnumber (h.cursor.symm.trans hother.cursor)
  cases candidate
  cases other
  rw [mk.injEq]
  exact ⟨hlabel, hkind, hdetail, hinsert, hcursor⟩

theorem toJson_injective : Function.Injective toJson := by
  intro candidate other heq
  rw [toJson_eq, toJson_eq] at heq
  have hother := other.hasMembers_members
  rw [← Json.object.inj heq] at hother
  exact candidate.hasMembers_members.unique hother

/-- The cursor is a count of 32 bits, like all counts that are reported. -/
def CursorFits (candidate : Candidate) : Prop := ∀ n ∈ candidate.cursor, n ≤ 0xFFFFFFFF

/-- A candidate with a cursor of 32 bits has no number that is too large to be read. -/
theorem CursorFits.fits_toJson {candidate : Candidate} (hcursor : candidate.CursorFits)
    (depth : Nat) : Json.Fits (depth + 1) candidate.toJson := by
  have hnumber : ∀ n ∈ candidate.cursor, Json.Fits depth (.number n.repr) := by
    intro n hn
    have hshort := hcursor n hn
    have hlimit : n ≤ Json.significandMax := by
      rw [Json.significandMax]
      omega
    exact .number (Json.isNumeral_repr hlimit)
  obtain ⟨label, kind, detail, insertText, cursor⟩ := candidate
  cases detail <;> cases insertText <;> cases cursor <;> simp_all [toJson]

end Candidate

/-! ## The output -/

namespace CommandLine

/-- The array of the candidates is read from its text, also if blanks follow the text. -/
theorem parse_pretty_candidates {candidates : List Candidate}
    (hcursor : ∀ candidate ∈ candidates, candidate.CursorFits) (blanks : String)
    (hblanks : ∀ c ∈ blanks.toList, Json.isSpace c = true) :
    Json.parse ((Json.array (candidates.map Candidate.toJson)).pretty ++ blanks) =
      .ok (.array (candidates.map Candidate.toJson)) := by
  have hfits : Json.Fits Json.depthLimit (.array (candidates.map Candidate.toJson)) := by
    refine .array fun item hitem => ?_
    obtain ⟨candidate, hmem, rfl⟩ := List.mem_map.mp hitem
    exact (hcursor candidate hmem).fits_toJson _
  exact Json.parse_pretty_append hfits blanks hblanks

/-- What is printed as JSON is a document and a line end.  Read back, with the line end or without
it, it is an array with the members of each candidate, in order; and no other candidates are
printed in the same way. -/
theorem printed_json_read_back (candidates : List Candidate)
    (hcursor : ∀ candidate ∈ candidates, candidate.CursorFits) :
    (∃ (document : String) (objects : List (List (String × Json))),
      printed .json candidates = document ++ "\n" ∧
      Json.parse document = .ok (.array (objects.map .object)) ∧
      Json.parse (printed .json candidates) = .ok (.array (objects.map .object)) ∧
      List.Forall₂ Candidate.HasMembers candidates objects) ∧
    ∀ others : List Candidate, (∀ candidate ∈ others, candidate.CursorFits) →
      printed .json others = printed .json candidates → others = candidates := by
  have hread {list : List Candidate} (h : ∀ candidate ∈ list, candidate.CursorFits) :
      Json.parse (printed .json list) = .ok (.array (list.map Candidate.toJson)) :=
    parse_pretty_candidates h "\n" (by simp [Json.isSpace])
  refine ⟨?_, fun others hothers hprinted => ?_⟩
  · have hobjects : (candidates.map Candidate.members).map .object =
        candidates.map Candidate.toJson := by
      rw [List.map_map]
      exact List.map_congr_left fun candidate _ => candidate.toJson_eq.symm
    have hdocument := parse_pretty_candidates hcursor "" (by simp)
    rw [String.append_empty] at hdocument
    refine ⟨_, candidates.map Candidate.members, rfl, ?_, ?_, ?_⟩
    · rw [hobjects, hdocument]
    · rw [hobjects, hread hcursor]
    · rw [List.forall₂_map_right_iff, List.forall₂_same]
      exact fun candidate _ => candidate.hasMembers_members
  · have hsame := (hread hothers).symm.trans ((congrArg Json.parse hprinted).trans (hread hcursor))
    exact List.map_injective_iff.mpr Candidate.toJson_injective
      (Json.array.inj (Except.ok.inj hsame))

/-- A candidate with quotes, a control character and the largest cursor, and one that has neither
detail nor text nor cursor. -/
def unlikeCandidates : List Candidate :=
  [⟨"\"ü\"\x01", .text, some "\\", some "$0\n\"", some 4294967295⟩, .new "" .file]

theorem printed_json_unlikeCandidates :
    (∀ candidate ∈ unlikeCandidates, candidate.CursorFits) ∧
    ∃ full bare : List (String × Json),
      Json.parse (printed .json unlikeCandidates) = .ok (.array [.object full, .object bare]) ∧
      full.lookup "label" = some (.text "\"ü\"\x01") ∧
      full.lookup "cursor" = some (.number "4294967295") ∧
      bare.lookup "label" = some (.text "") ∧ bare.lookup "cursor" = none := by
  have hcursor : ∀ candidate ∈ unlikeCandidates, candidate.CursorFits := by
    simp [unlikeCandidates, Candidate.new, Candidate.CursorFits]
  obtain ⟨⟨document, objects, -, -, hparse, hall⟩, -⟩ :=
    printed_json_read_back unlikeCandidates hcursor
  cases hall with
  | cons hfull hmore =>
      cases hmore with
      | cons hbare hnone =>
          cases hnone
          exact ⟨hcursor, _, _, hparse, hfull.label, hfull.cursor, hbare.label, hbare.cursor⟩

end CommandLine

end StyleCompletion
