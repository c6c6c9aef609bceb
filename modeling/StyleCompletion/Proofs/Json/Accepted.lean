/-
Reading against a form.

A text is read against a form in one pass, and what does not fit is a fault where it stands.  Yet
a form only takes away: a text is read against it exactly if it can be read as any value at all
and that value has the form.  So what a form lets through can be said about values, without a word
about blanks, escapes or the order of faults.
-/
import StyleCompletion.Json.Reader

namespace StyleCompletion.Json

/-! ## Values of a form -/

mutual

/-- The value has the form. -/
def Form.accepts (form : Form) : Json → Bool
  | .null | .bool _ | .number _ => form.takesScalar
  | .text _ => form.takesText
  | .array items => form.takesArray && form.acceptsItems items
  | .object members => form.takesObject && form.acceptsMembers members

/-- The items have the forms that the form asks of an array, one after the other. -/
def Form.acceptsItems (form : Form) : List Json → Bool
  | [] => true
  | item :: items =>
      match form.item? with
      | none => false
      | some (itemForm, next) => itemForm.accepts item && next.acceptsItems items

/-- The members have the forms that the form asks of an object, one after the other. -/
def Form.acceptsMembers (form : Form) : List (String × Json) → Bool
  | [] => true
  | (key, value) :: members =>
      match form.member? key with
      | none => false
      | some (valueForm, next) => valueForm.accepts value && next.acceptsMembers members

end

/-! ## Strict and loose reading -/

/-- What is read strictly is what is read loosely and is accepted. -/
def Narrows {α : Type} (accepted : α → Bool) (strict loose : Except Fault (α × List Char)) :
    Prop :=
  ∀ value rest, strict = .ok (value, rest) ↔ loose = .ok (value, rest) ∧ accepted value = true

namespace Narrows

variable {α β γ : Type} {accepted : α → Bool} {fault : Fault}

theorem error (other : Fault) : Narrows accepted (.error fault) (.error other) := by
  simp [Narrows]

theorem ok {value : α} {rest : List Char} (h : accepted value = true) :
    Narrows accepted (.ok (value, rest)) (.ok (value, rest)) := by
  intro found left
  refine ⟨fun heq => ⟨heq, ?_⟩, fun hboth => hboth.1⟩
  cases heq
  exact h

theorem refused {value : α} {rest : List Char} (h : accepted value = false) :
    Narrows accepted (.error fault) (.ok (value, rest)) := by
  intro found left
  refine iff_of_false (by simp) ?_
  rintro ⟨heq, haccepted⟩
  cases heq
  simp [h] at haccepted

/-- The value that was read is given on or refused. -/
theorem ite {value : α} {rest : List Char} {takes : Bool} (h : accepted value = takes) :
    Narrows accepted (if takes = true then .ok (value, rest) else .error fault)
      (.ok (value, rest)) := by
  cases takes with
  | true => exact ok h
  | false => exact refused h

/-- What both read first makes no difference. -/
theorem bind {first : Except Fault γ} {strict loose : γ → Except Fault (α × List Char)}
    (h : ∀ found, first = .ok found → Narrows accepted (strict found) (loose found)) :
    Narrows accepted (first >>= strict) (first >>= loose) := by
  cases first with
  | error => exact error _
  | ok found => exact h found rfl

/-- To refuse at once is to refuse all that could have been read on. -/
theorem refused_bind {first : Except Fault γ} {loose : γ → Except Fault (α × List Char)}
    (h : ∀ found, Narrows accepted (.error fault) (loose found)) :
    Narrows accepted (.error fault) (first >>= loose) := by
  cases first with
  | error => exact error _
  | ok found => exact h found

/-- What follows a first part may go on from it if it is accepted, and is refused with it if not. -/
theorem seq {inner : β → Bool} {strict loose : Except Fault (β × List Char)}
    {strictNext looseNext : β × List Char → Except Fault (α × List Char)}
    (h : Narrows inner strict loose)
    (haccepted : ∀ found cs, inner found = true →
      Narrows accepted (strictNext (found, cs)) (looseNext (found, cs)))
    (hrefused : ∀ fault found cs, inner found = false →
      Narrows accepted (.error fault) (looseNext (found, cs))) :
    Narrows accepted (strict >>= strictNext) (loose >>= looseNext) := by
  cases loose with
  | error other =>
      cases strict with
      | error => exact error _
      | ok found => simpa using (h found.1 found.2).mp rfl
  | ok found =>
      obtain ⟨found, cs⟩ := found
      cases hinner : inner found with
      | true =>
          rw [(h found cs).mpr ⟨rfl, hinner⟩]
          exact haccepted found cs hinner
      | false =>
          cases strict with
          | error fault => exact hrefused fault found cs hinner
          | ok other =>
              obtain ⟨heq, hother⟩ := (h other.1 other.2).mp rfl
              cases heq
              simp [hinner] at hother

/-- A value is made from what is read, if the form takes such values at all. -/
theorem guarded {inner : β → Bool} {strict loose : Except Fault (β × List Char)} {takes : Bool}
    {make : β → α} (hmake : ∀ found, accepted (make found) = (takes && inner found))
    (h : Narrows inner strict loose) :
    Narrows accepted
      (if !takes then .error fault else do
        let (found, rest) ← strict
        return (make found, rest))
      (do
        let (found, rest) ← loose
        return (make found, rest)) := by
  cases takes with
  | false => exact refused_bind fun _ => refused (hmake _)
  | true =>
      refine h.seq (fun found cs hinner => ok ?_) fun fault found cs hinner => refused ?_
      · simp [hmake, hinner]
      · simp [hmake, hinner]

/-- A list is read entry by entry. -/
theorem cons {head : β → Bool} {tail : List γ → Bool} {accepted : List γ → Bool}
    {strict loose : Except Fault (β × List Char)}
    {strictNext looseNext : List Char → Except Fault (List γ × List Char)} (make : β → γ)
    (hmake : ∀ found more, accepted (make found :: more) = (head found && tail more))
    (hhead : Narrows head strict loose)
    (htail : ∀ cs, Narrows tail (strictNext cs) (looseNext cs)) :
    Narrows accepted
      (do
        let (found, rest) ← strict
        let (more, rest) ← strictNext rest
        return (make found :: more, rest))
      (do
        let (found, rest) ← loose
        let (more, rest) ← looseNext rest
        return (make found :: more, rest)) := by
  refine hhead.seq (fun found cs hfound => ?_) fun fault found cs hfound => ?_
  · refine (htail cs).seq (fun more cs hmore => ok ?_) fun fault more cs hmore => refused ?_
    · simp [hmake, hfound, hmore]
    · simp [hmake, hmore]
  · exact refused_bind fun _ => refused (by simp [hmake, hfound])

end Narrows

/-! ## One step of the reader -/

/-- A word or a number is a scalar. -/
theorem accepts_of_readScalar {c : Char} {cs rest : List Char} {value : Json}
    (h : readScalar c cs = .ok (value, rest)) (form : Form) :
    form.accepts value = form.takesScalar := by
  have accepts_of_map {α : Type} {read : Except Fault α} {make : α → Json × List Char}
      (hmake : ∀ found, form.accepts (make found).1 = form.takesScalar)
      (hread : read.map make = .ok (value, rest)) : form.accepts value = form.takesScalar := by
    cases read with
    | error => simp [Except.map] at hread
    | ok found =>
        have hfound : make found = (value, rest) := by simpa [Except.map] using hread
        simpa [hfound] using hmake found
  unfold readScalar at h
  split at h
  · exact accepts_of_map (fun _ => by simp [Form.accepts]) h
  split at h
  · exact accepts_of_map (fun _ => by simp [Form.accepts]) h
  split at h
  · exact accepts_of_map (fun _ => by simp [Form.accepts]) h
  split at h
  · exact accepts_of_map (fun _ => by simp [Form.accepts]) h
  · cases h

/-- With this fuel, what is read against a form is what is read without one and has the form. -/
structure ReadsNarrow (fuel : Nat) : Prop where
  value : ∀ depth form cs, Narrows form.accepts
    (readValue fuel depth form cs) (readValue fuel depth .any cs)
  items : ∀ depth form first cs, Narrows form.acceptsItems
    (readItems fuel depth form first cs) (readItems fuel depth .any first cs)
  members : ∀ depth form first cs, Narrows form.acceptsMembers
    (readMembers fuel depth form first cs) (readMembers fuel depth .any first cs)

section

variable {fuel : Nat}

theorem ReadsNarrow.readValue_succ (h : ReadsNarrow fuel) (depth : Nat) (form : Form)
    (cs : List Char) :
    Narrows form.accepts (readValue (fuel + 1) depth form cs)
      (readValue (fuel + 1) depth .any cs) := by
  rw [readValue, readValue]
  generalize skipSpaces cs = chars
  split
  · exact .error _
  · exact .bind fun _ _ => .ite (by rw [Form.accepts])
  · cases depth with
    | zero => split <;> exact .error _
    | succ depth => exact .guarded (fun _ => by rw [Form.accepts]) (h.items depth form true _)
  · cases depth with
    | zero => split <;> exact .error _
    | succ depth => exact .guarded (fun _ => by rw [Form.accepts]) (h.members depth form true _)
  · exact .bind fun _ hscalar => .ite (accepts_of_readScalar hscalar form)

/-- Where the next item of an array starts, before any form is asked. -/
def itemStart (first : Bool) (c : Char) (rest : List Char) : Except Fault (List Char) :=
  if first then .ok (c :: rest)
  else if c = ',' then
    match skipSpaces rest with
    | [] => .error .endsEarly
    | ']' :: _ => .error .malformed
    | next => .ok next
  else .error .malformed

/-- Where the next member of an object starts, before any form is asked. -/
def memberStart (first : Bool) (c : Char) (rest : List Char) : Except Fault (List Char) :=
  if first then .ok (c :: rest)
  else if c = ',' then
    match skipSpaces rest with
    | [] => .error .endsEarly
    | next => .ok next
  else .error .malformed

theorem readItems_eq {c : Char} {cs tail : List Char} (hskip : skipSpaces cs = c :: tail)
    (hc : c ≠ ']') (depth : Nat) (form : Form) (first : Bool) :
    readItems (fuel + 1) depth form first cs =
      match form.item? with
      | none => .error .malformed
      | some (itemForm, next) => do
          let (item, rest) ← readValue fuel depth itemForm (← itemStart first c tail)
          let (items, rest) ← readItems fuel depth next false rest
          return (item :: items, rest) := by
  simp only [readItems, hskip, itemStart]
  cases form.item? with
  | none => rfl
  | some asked =>
      dsimp only
      split
      · rfl
      split
      · rcases skipSpaces tail with _ | ⟨d, next⟩
        · rfl
        · by_cases hd : d = ']'
          · rw [hd]
            rfl
          · simp [hd]
      · rfl

theorem readMembers_eq {c : Char} {cs tail : List Char} (hskip : skipSpaces cs = c :: tail)
    (hc : c ≠ '\x7d') (depth : Nat) (form : Form) (first : Bool) :
    readMembers (fuel + 1) depth form first cs = (do
      match ← memberStart first c tail with
      | '"' :: rest => do
          let (key, rest) ← readText rest
          match form.member? (String.ofList key) with
          | none => .error .wrongShape
          | some (valueForm, next) => do
              let (value, rest) ← readValue fuel depth valueForm (← readColon rest)
              let (members, rest) ← readMembers fuel depth next false rest
              return ((String.ofList key, value) :: members, rest)
      | _ => .error .malformed) := by
  simp only [readMembers, hskip, memberStart]
  split
  · rfl
  split
  · cases skipSpaces tail <;> rfl
  · rfl

theorem ReadsNarrow.readItems_succ (h : ReadsNarrow fuel) (depth : Nat) (form : Form)
    (first : Bool) (cs : List Char) :
    Narrows form.acceptsItems (readItems (fuel + 1) depth form first cs)
      (readItems (fuel + 1) depth .any first cs) := by
  rcases hskip : skipSpaces cs with _ | ⟨c, tail⟩
  · simpa [readItems, hskip] using .error _
  by_cases hc : c = ']'
  · simpa [readItems, hskip, hc] using .ok (by rw [Form.acceptsItems])
  rw [readItems_eq hskip hc, readItems_eq hskip hc]
  cases hitem : form.item? with
  | none =>
      -- No further item is asked for, and what is read loosely begins with one.
      exact .refused_bind fun _ => .refused_bind fun _ => .refused_bind fun _ =>
        .refused (by simp [Form.acceptsItems, hitem])
  | some asked =>
      refine .bind fun start _ => .cons (fun item => item) (fun item items => ?_)
        (h.value depth asked.1 start) fun rest => h.items depth asked.2 false rest
      simp [Form.acceptsItems, hitem]

theorem ReadsNarrow.readMembers_succ (h : ReadsNarrow fuel) (depth : Nat) (form : Form)
    (first : Bool) (cs : List Char) :
    Narrows form.acceptsMembers (readMembers (fuel + 1) depth form first cs)
      (readMembers (fuel + 1) depth .any first cs) := by
  rcases hskip : skipSpaces cs with _ | ⟨c, tail⟩
  · simpa [readMembers, hskip] using .error _
  by_cases hc : c = '\x7d'
  · simpa [readMembers, hskip, hc] using .ok (by rw [Form.acceptsMembers])
  rw [readMembers_eq hskip hc, readMembers_eq hskip hc]
  refine .bind fun start _ => ?_
  split
  case h_2 => exact .error _
  refine .bind fun found _ => ?_
  dsimp only
  cases hmember : form.member? (String.ofList found.1) with
  | none =>
      -- The key is not asked for, and what is read loosely begins with its member.
      exact .refused_bind fun _ => .refused_bind fun _ => .refused_bind fun _ =>
        .refused (by simp [Form.acceptsMembers, hmember])
  | some asked =>
      refine .bind fun start _ => .cons (fun value => (_, value)) (fun value members => ?_)
        (h.value depth asked.1 start) fun rest => h.members depth asked.2 false rest
      simp [Form.acceptsMembers, hmember]

end

/-! ## Whole texts -/

theorem readsNarrow (fuel : Nat) : ReadsNarrow fuel := by
  induction fuel with
  | zero =>
      refine ⟨fun _ _ _ => ?_, fun _ _ _ _ => ?_, fun _ _ _ _ => ?_⟩
      · rw [readValue, readValue]
        exact .error _
      · rw [readItems, readItems]
        exact .error _
      · rw [readMembers, readMembers]
        exact .error _
  | succ fuel ih => exact ⟨ih.readValue_succ, ih.readItems_succ, ih.readMembers_succ⟩

/-- A text stands for a result if a value is read that stands for it, and nothing follows. -/
theorem decode_eq_ok_iff {α : Type} {form : Form} {read : Json → Option α} {text : String}
    {result : α} :
    decode form read text = .ok result ↔
      ∃ value rest, readValue (readerFuel text.toList) depthLimit form text.toList =
          .ok (value, rest) ∧
        readEnd rest = .ok () ∧ read value = some result := by
  rw [decode]
  cases readValue (readerFuel text.toList) depthLimit form text.toList with
  | error => simp [bind, Except.bind]
  | ok found =>
      obtain ⟨value, rest⟩ := found
      constructor
      · intro h
        cases hread : read value with
        | none => simp [hread, bind, Except.bind] at h
        | some made =>
            cases hend : readEnd rest with
            | error => simp [hread, hend, bind, Except.bind] at h
            | ok =>
                obtain rfl : made = result := by
                  simpa [hread, hend, bind, Except.bind, pure, Except.pure] using h
                exact ⟨value, rest, rfl, hend, hread⟩
      · rintro ⟨_, _, heq, hend, hread⟩
        cases heq
        simp [hread, hend, bind, Except.bind, pure, Except.pure]

/-- A text is read against a form exactly if it is a value of that form. -/
theorem decode_eq_ok_iff_accepts {α : Type} {form : Form} {read : Json → Option α}
    {text : String} {result : α} :
    decode form read text = .ok result ↔
      ∃ value, parse text = .ok value ∧ form.accepts value = true ∧ read value = some result := by
  have hnarrows := (readsNarrow (readerFuel text.toList)).value depthLimit form text.toList
  rw [decode_eq_ok_iff]
  constructor
  · rintro ⟨value, rest, hvalue, hend, hread⟩
    obtain ⟨hany, haccepts⟩ := (hnarrows value rest).mp hvalue
    exact ⟨value, decode_eq_ok_iff.mpr ⟨value, rest, hany, hend, rfl⟩, haccepts, hread⟩
  · rintro ⟨value, hparse, haccepts, hread⟩
    obtain ⟨found, rest, hany, hend, hfound⟩ := decode_eq_ok_iff.mp hparse
    cases hfound
    exact ⟨value, rest, (hnarrows value rest).mpr ⟨hany, haccepts⟩, hend, hread⟩

end StyleCompletion.Json
