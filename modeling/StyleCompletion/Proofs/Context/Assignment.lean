/-
Assignments at the end of a line prefix.

What is being typed is told from the assignment before it: a name, a colon, blanks allowed on
both sides of the colon.  A name can be cut short and still be read as a name, so an assignment
has several readings; they differ in nothing but where the name starts, and the one that counts
starts first.  This file states the form of an assignment, of a plain value and of a quoted one,
and shows that the functions that read a line from its end follow it.
-/
import StyleCompletion.Context
import StyleCompletion.Rule
import StyleCompletion.Proofs.Text.Classes
import StyleCompletion.Proofs.Text.Runs

namespace StyleCompletion

/-! ## The form of an assignment -/

/-- `cs` can be read as an assignment to `name` that starts after `front`. -/
inductive AssignmentReading : List Char → List Char → List Char → Prop where
  | intro {front name gap inner : List Char}
      (hname : name ≠ [])
      (hletters : ∀ c ∈ name, Text.isNameChar c = true)
      (hgap : ∀ c ∈ gap, Text.isBlank c = true)
      (hinner : ∀ c ∈ inner, Text.isBlank c = true) :
      AssignmentReading (front ++ (name ++ (gap ++ ':' :: inner))) front name

/-- `cs` ends in an assignment to `name`, and the name is whole: no character of a name stands
before it. -/
def Assigns (cs name : List Char) : Prop :=
  ∃ front, AssignmentReading cs front name ∧ Text.StopsAt Text.isNameChar front

/-- A name that is not empty has no blank at its end. -/
theorem stopsAt_isBlank_append {front name : List Char} (hname : name ≠ [])
    (hletters : ∀ c ∈ name, Text.isNameChar c = true) :
    Text.StopsAt Text.isBlank (front ++ name) := by
  intro c hc
  rw [Text.getLast?_append_of_ne_nil hname] at hc
  have hletter := hletters c (List.mem_of_getLast? hc)
  exact Text.excludes_symm (p := Text.isBlank) (fun _ => Text.isNameChar_of_isBlank) hletter

/-- The parts around the colon are told from the end: the blanks after it, the colon, the blanks
before it, and what ends in no blank. -/
theorem colonParts_unique {before gap inner before' gap' inner' : List Char}
    (hbefore : Text.StopsAt Text.isBlank before) (hbefore' : Text.StopsAt Text.isBlank before')
    (hgap : ∀ c ∈ gap, Text.isBlank c = true) (hgap' : ∀ c ∈ gap', Text.isBlank c = true)
    (hinner : ∀ c ∈ inner, Text.isBlank c = true) (hinner' : ∀ c ∈ inner', Text.isBlank c = true)
    (h : (before ++ gap ++ [':']) ++ inner = (before' ++ gap' ++ [':']) ++ inner') :
    before = before' ∧ gap = gap' ∧ inner = inner' := by
  have hcolon : Text.isBlank ':' = false := by decide
  obtain ⟨hupto, hinners⟩ := Text.run_unique (Text.stopsAt_concat hcolon) hinner
    (Text.stopsAt_concat hcolon) hinner' h
  obtain ⟨hbefores, hgaps⟩ := Text.run_unique hbefore hgap hbefore' hgap'
    (List.append_cancel_right hupto)
  exact ⟨hbefores, hgaps, hinners⟩

namespace AssignmentReading

variable {cs front name : List Char}

theorem colon_mem (h : AssignmentReading cs front name) : ':' ∈ cs := by
  cases h
  simp

theorem isNameChar_of_mem (h : AssignmentReading cs front name) :
    ∀ c ∈ name, Text.isNameChar c = true := by
  cases h with
  | intro _ hletters _ _ => exact hletters

/-- An assignment ends in its colon or in a blank after it. -/
theorem eq_colon_or_isBlank_of_getLast? (h : AssignmentReading cs front name) {c : Char}
    (hc : cs.getLast? = some c) : c = ':' ∨ Text.isBlank c = true := by
  cases h with
  | @intro _ _ gap inner _ _ _ hinner =>
      rw [← List.append_assoc, ← List.append_assoc, Text.getLast?_append_of_ne_nil (by simp)] at hc
      have hmem : c ∈ ':' :: inner := List.mem_of_getLast? hc
      exact (List.mem_cons.mp hmem).imp id (hinner c)

/-- All readings have the name end at one place. -/
theorem append_eq_append {other otherName : List Char} (h : AssignmentReading cs front name)
    (hother : AssignmentReading cs other otherName) : front ++ name = other ++ otherName := by
  generalize hcs : cs = whole at h
  cases h with
  | @intro _ _ gap inner hname hletters hgap hinner =>
      cases hother with
      | @intro _ _ gap' inner' hname' hletters' hgap' hinner' =>
          have hparts : ((front ++ name) ++ gap ++ [':']) ++ inner =
              ((other ++ otherName) ++ gap' ++ [':']) ++ inner' := by
            simpa using hcs.symm
          exact (colonParts_unique (stopsAt_isBlank_append hname hletters)
            (stopsAt_isBlank_append hname' hletters') hgap hgap' hinner hinner' hparts).1

/-- Every reading can be widened to one with a whole name. -/
theorem exists_whole (h : AssignmentReading cs front name) :
    ∃ whole wholeName, AssignmentReading cs whole wholeName ∧
      Text.StopsAt Text.isNameChar whole ∧ whole.length ≤ front.length := by
  cases h with
  | @intro _ _ gap inner hname hletters hgap hinner =>
      obtain ⟨whole, start, rfl, hwhole, hstart⟩ := Text.exists_run_at_end Text.isNameChar front
      have hletters' : ∀ c ∈ start ++ name, Text.isNameChar c = true := by
        intro c hc
        exact (List.mem_append.mp hc).elim (hstart c) (hletters c)
      have hreading := @AssignmentReading.intro whole (start ++ name) gap inner
        (by simp [hname]) hletters' hgap hinner
      refine ⟨whole, start ++ name, ?_, hwhole, by simp⟩
      simpa using hreading

/-- There is one reading with a whole name. -/
theorem eq_of_stopsAt {other otherName : List Char} (h : AssignmentReading cs front name)
    (hother : AssignmentReading cs other otherName)
    (hfront : Text.StopsAt Text.isNameChar front)
    (hwhole : Text.StopsAt Text.isNameChar other) : front = other ∧ name = otherName :=
  Text.run_unique hfront h.isNameChar_of_mem hwhole hother.isNameChar_of_mem
    (h.append_eq_append hother)

/-- No reading starts before one with a whole name. -/
theorem length_le_of_stopsAt {other otherName : List Char} (h : AssignmentReading cs front name)
    (hfront : Text.StopsAt Text.isNameChar front)
    (hother : AssignmentReading cs other otherName) : front.length ≤ other.length := by
  obtain ⟨whole, wholeName, hreading, hwhole, hle⟩ := hother.exists_whole
  obtain ⟨rfl, -⟩ := h.eq_of_stopsAt hreading hfront hwhole
  exact hle

end AssignmentReading

/-! ## Reading an assignment from its end -/

/-- The parts of an assignment, read from its end.  The name may be empty here, and then there
is no assignment. -/
theorem assignedName?_reverse_parts {front name gap inner : List Char}
    (hfront : Text.StopsAt Text.isNameChar front)
    (hletters : ∀ c ∈ name, Text.isNameChar c = true)
    (hbefore : Text.StopsAt Text.isBlank (front ++ name))
    (hgap : ∀ c ∈ gap, Text.isBlank c = true)
    (hinner : ∀ c ∈ inner, Text.isBlank c = true) :
    assignedName? (((front ++ name) ++ gap ++ [':']) ++ inner).reverse =
      if name = [] then none else some name := by
  have hcolon : Text.StopsAt Text.isBlank ((front ++ name) ++ gap ++ [':']) :=
    Text.stopsAt_concat (by decide)
  have hafter : Text.trimLeft (((front ++ name) ++ gap ++ [':']) ++ inner).reverse =
      ':' :: ((front ++ name) ++ gap).reverse := by
    rw [Text.trimLeft, Text.dropWhile_reverse_run hcolon hinner, List.reverse_concat]
  have hword : (Text.trimLeft ((front ++ name) ++ gap).reverse).takeWhile Text.isNameChar =
      name.reverse := by
    rw [Text.trimLeft, Text.dropWhile_reverse_run hbefore hgap,
      Text.takeWhile_reverse_run hfront hletters]
  rw [assignedName?, hafter]
  simp only [hword]
  split
  · next hnil => rw [if_pos (List.reverse_eq_nil_iff.mp hnil)]
  · next hne =>
      rw [if_neg (fun hnil => hne (List.reverse_eq_nil_iff.mpr hnil)), List.reverse_reverse]

/-- What is read from the end of a text is the whole name that it assigns to. -/
theorem assignedName?_reverse_eq_some_iff {cs name : List Char} :
    assignedName? cs.reverse = some name ↔ Assigns cs name := by
  constructor
  · intro h
    obtain ⟨body, inner, rfl, hbody, hinner⟩ := Text.exists_run_at_end Text.isBlank cs
    -- Before the blanks at the end there must be a colon.
    have hcolon : ∃ rest, body = rest ++ [':'] := by
      rw [assignedName?, Text.trimLeft, Text.dropWhile_reverse_run hbody hinner] at h
      split at h
      · next rest hrest =>
          exact ⟨rest.reverse, by rw [← List.reverse_cons, ← hrest, List.reverse_reverse]⟩
      · exact absurd h (by simp)
    obtain ⟨rest, rfl⟩ := hcolon
    obtain ⟨word, gap, rfl, hword, hgap⟩ := Text.exists_run_at_end Text.isBlank rest
    obtain ⟨front, found, rfl, hfront, hletters⟩ := Text.exists_run_at_end Text.isNameChar word
    rw [assignedName?_reverse_parts hfront hletters hword hgap hinner,
      Option.ite_none_left_eq_some] at h
    obtain ⟨hne, hfound⟩ := h
    obtain rfl := Option.some.inj hfound
    have hreading := @AssignmentReading.intro front found gap inner hne hletters hgap hinner
    exact ⟨front, by simpa using hreading, hfront⟩
  · rintro ⟨front, hreading, hfront⟩
    cases hreading with
    | @intro _ _ gap inner hname hletters hgap hinner =>
        have hparts := assignedName?_reverse_parts hfront hletters
          (stopsAt_isBlank_append hname hletters) hgap hinner
        rw [if_neg hname] at hparts
        simpa using hparts

/-- A text that ends in neither a blank nor a colon ends in no assignment. -/
theorem assignedName?_reverse_eq_none {cs : List Char}
    (h : ∀ c, cs.getLast? = some c → Text.isBlank c = false ∧ c ≠ ':') :
    assignedName? cs.reverse = none := by
  rw [Option.eq_none_iff_forall_not_mem]
  intro name hname
  obtain ⟨front, hreading, -⟩ := assignedName?_reverse_eq_some_iff.mp hname
  have hne : cs ≠ [] := List.ne_nil_of_mem hreading.colon_mem
  have hlast := List.getLast?_eq_some_getLast hne
  obtain ⟨hblank, hcolon⟩ := h _ hlast
  rcases hreading.eq_colon_or_isBlank_of_getLast? hlast with heq | heq
  · exact hcolon heq
  · rw [hblank] at heq
    exact absurd heq (by simp)

/-! ## Plain values -/

theorem isValueChar_of_isBlank {c : Char} (hc : Text.isBlank c = true) : isValueChar c = false := by
  have hne {d : Char} (hd : Text.isBlank d = false) : c ≠ d := by
    rintro rfl
    rw [hc] at hd
    exact absurd hd (by simp)
  have hdouble : c ≠ '"' := hne (by decide)
  have hsingle : c ≠ '\'' := hne (by decide)
  have hdot : c ≠ '.' := hne (by decide)
  simp [isValueChar, Text.isNameChar_of_isBlank hc, hdouble, hsingle, hdot]

/-- A value does not reach into the assignment before it. -/
theorem AssignmentReading.stopsAt_isValueChar {cs front name : List Char}
    (h : AssignmentReading cs front name) : Text.StopsAt isValueChar cs := by
  intro c hc
  rcases h.eq_colon_or_isBlank_of_getLast? hc with rfl | hblank
  · decide
  · exact isValueChar_of_isBlank hblank

theorem Assigns.stopsAt_isValueChar {cs name : List Char} (h : Assigns cs name) :
    Text.StopsAt isValueChar cs := by
  obtain ⟨front, hreading, -⟩ := h
  exact hreading.stopsAt_isValueChar

/-- What stands before a value that is being typed tells whether there is a property. -/
theorem valueProperty?_append_typed {body typed : List Char} (hbody : Text.StopsAt isValueChar body)
    (htyped : ∀ c ∈ typed, isValueChar c = true) :
    valueProperty? (body ++ typed) = assignedName? body.reverse := by
  rw [valueProperty?, Text.dropWhile_reverse_run hbody htyped]

/-- The property of a value is the whole name that the text before the value assigns to. -/
theorem valueProperty?_eq_some_iff {cs name : List Char} :
    valueProperty? cs = some name ↔
      ∃ body typed, cs = body ++ typed ∧ Assigns body name ∧ ∀ c ∈ typed, isValueChar c = true := by
  constructor
  · intro h
    obtain ⟨body, typed, rfl, hbody, htyped⟩ := Text.exists_run_at_end isValueChar cs
    rw [valueProperty?_append_typed hbody htyped, assignedName?_reverse_eq_some_iff] at h
    exact ⟨body, typed, rfl, h, htyped⟩
  · rintro ⟨body, typed, rfl, hassigns, htyped⟩
    rw [valueProperty?_append_typed hassigns.stopsAt_isValueChar htyped]
    exact assignedName?_reverse_eq_some_iff.mpr hassigns

/-! ## Quoted values -/

theorem eq_or_eq_of_isQuote {c : Char} (hc : isQuote c = true) : c = '\'' ∨ c = '"' := by
  simpa [isQuote] using hc

theorem isBlank_of_isQuote {c : Char} (hc : isQuote c = true) : Text.isBlank c = false := by
  rcases eq_or_eq_of_isQuote hc with rfl | rfl <;> decide

theorem isNameChar_of_isQuote {c : Char} (hc : isQuote c = true) : Text.isNameChar c = false := by
  rcases eq_or_eq_of_isQuote hc with rfl | rfl <;> decide

theorem isValueChar_of_isQuote {c : Char} (hc : isQuote c = true) : isValueChar c = true := by
  rcases eq_or_eq_of_isQuote hc with rfl | rfl <;> decide

theorem ne_colon_of_isQuote {c : Char} (hc : isQuote c = true) : ':' ≠ c := by
  rintro rfl
  exact absurd hc (by decide)

/-- `cs` ends in a quote that is open, after the assignment to a whole name, and `typed` is what
stands in it. -/
inductive QuotedReading : List Char → List Char → List Char → Prop where
  | intro {body name typed : List Char} {quote : Char}
      (hassigns : Assigns body name)
      (hquote : isQuote quote = true)
      (htyped : ∀ c ∈ typed, isQuote c = false) :
      QuotedReading (body ++ quote :: typed) name typed

theorem QuotedReading.colon_mem {cs name typed : List Char} (h : QuotedReading cs name typed) :
    ':' ∈ cs := by
  cases h with
  | intro hassigns _ _ =>
      obtain ⟨front, hreading, -⟩ := hassigns
      exact List.mem_append_left _ hreading.colon_mem

/-- The character before a run of the class decides whether the run is quoted. -/
theorem quotedAssignment?_append_run {isInside : Char → Bool} {body run : List Char} {quote : Char}
    (hstop : isInside quote = false) (hrun : ∀ c ∈ run, isInside c = true) :
    quotedAssignment? isInside (body ++ quote :: run) =
      if isQuote quote then (assignedName? body.reverse).map fun name => (name, run) else none := by
  have hfront : Text.StopsAt isInside (body ++ [quote]) := Text.stopsAt_concat hstop
  rw [List.append_cons]
  simp only [quotedAssignment?, Text.dropWhile_reverse_run hfront hrun,
    Text.takeWhile_reverse_run hfront hrun, List.reverse_reverse, List.reverse_concat]

/-- A quoted value is read if all of it is of the class that may stand in the quotes. -/
theorem quotedAssignment?_eq_some_iff {isInside : Char → Bool}
    (hinside : ∀ c, isQuote c = true → isInside c = false) {cs name typed : List Char} :
    quotedAssignment? isInside cs = some (name, typed) ↔
      QuotedReading cs name typed ∧ ∀ c ∈ typed, isInside c = true := by
  constructor
  · intro h
    obtain ⟨front, run, rfl, hfront, hrun⟩ := Text.exists_run_at_end isInside cs
    cases hlast : front.getLast? with
    | none =>
        -- The class covers the whole text, so there is no quote before it.
        obtain rfl := List.getLast?_eq_none_iff.mp hlast
        have hnil := Text.dropWhile_reverse_run hfront hrun
        simp only [quotedAssignment?, hnil, List.reverse_nil] at h
        exact absurd h (by simp)
    | some quote =>
        have hstop : isInside quote = false := hfront quote hlast
        obtain ⟨body, rfl⟩ := List.getLast?_eq_some_iff.mp hlast
        rw [List.append_assoc, List.singleton_append] at h ⊢
        rw [quotedAssignment?_append_run hstop hrun, Option.ite_none_right_eq_some,
          Option.map_eq_some_iff] at h
        obtain ⟨hquote, found, hfound, hpair⟩ := h
        obtain ⟨rfl, rfl⟩ := Prod.mk.inj hpair
        have hnoquote : ∀ c ∈ run, isQuote c = false :=
          fun c hc => Text.excludes_symm hinside (hrun c hc)
        exact ⟨.intro (assignedName?_reverse_eq_some_iff.mp hfound) hquote hnoquote, hrun⟩
  · rintro ⟨hreading, hrun⟩
    cases hreading with
    | @intro body _ _ quote hassigns hquote _ =>
        rw [quotedAssignment?_append_run (hinside quote hquote) hrun, if_pos hquote,
          assignedName?_reverse_eq_some_iff.mpr hassigns]
        rfl

/-- A text is quoted in one way only. -/
theorem QuotedReading.unique {cs name typed name' typed' : List Char}
    (h : QuotedReading cs name typed) (h' : QuotedReading cs name' typed') :
    name = name' ∧ typed = typed' := by
  -- Both are what is read with a class that has all but the quotes.
  have hclass : ∀ c, isQuote c = true → (!isQuote c) = false := by simp
  have hread {n t : List Char} (hreading : QuotedReading cs n t) :
      quotedAssignment? (fun c => !isQuote c) cs = some (n, t) := by
    refine (quotedAssignment?_eq_some_iff hclass).mpr ⟨hreading, ?_⟩
    cases hreading with
    | intro _ _ htyped => simpa using htyped
  have hpair := Option.some.inj ((hread h).symm.trans (hread h'))
  exact Prod.mk.inj hpair

/-- The property of a quoted value is its name, as long as what is typed could be typed without
a quote as well. -/
theorem QuotedReading.valueProperty?_eq {cs name typed : List Char}
    (h : QuotedReading cs name typed) (htyped : ∀ c ∈ typed, Text.isBlank c = false ∧ c ≠ ':') :
    valueProperty? cs = if typed.all isValueChar then some name else none := by
  cases h with
  | @intro body _ _ quote hassigns hquote _ =>
      split
      · next hall =>
          have hpass : ∀ c ∈ quote :: typed, isValueChar c = true :=
            List.forall_mem_cons.mpr ⟨isValueChar_of_isQuote hquote, List.all_eq_true.mp hall⟩
          rw [valueProperty?_append_typed hassigns.stopsAt_isValueChar hpass]
          exact assignedName?_reverse_eq_some_iff.mpr hassigns
      · next hall =>
          -- The value starts after a character of what is typed, which is no colon.
          obtain ⟨front, run, rfl, hfront, hrun⟩ := Text.exists_run_at_end isValueChar typed
          have hne : front ≠ [] := by
            rintro rfl
            exact hall (List.all_eq_true.mpr hrun)
          have hstop : Text.StopsAt isValueChar (body ++ [quote] ++ front) := hfront.append hne
          rw [List.append_cons, ← List.append_assoc, valueProperty?_append_typed hstop hrun]
          apply assignedName?_reverse_eq_none
          intro c hc
          rw [Text.getLast?_append_of_ne_nil hne] at hc
          exact htyped c (List.mem_append_left _ (List.mem_of_getLast? hc))

end StyleCompletion
