/-
Search for one list inside another.
-/

namespace StyleCompletion.Text

/-- `occursIn needle hay` holds when `needle` is a run of consecutive elements of
`hay`. -/
def occursIn {α : Type} [BEq α] (needle : List α) : List α → Bool
  | [] => needle.isEmpty
  | x :: rest => needle.isPrefixOf (x :: rest) || occursIn needle rest

/-- The search agrees with the relation "is an infix of". -/
theorem occursIn_iff_isInfix {α : Type} [BEq α] [LawfulBEq α] (needle hay : List α) :
    occursIn needle hay = true ↔ needle <:+: hay := by
  induction hay with
  | nil => simp [occursIn]
  | cons x rest ih =>
      rw [occursIn, Bool.or_eq_true, ih, List.isPrefixOf_iff_prefix, List.infix_cons_iff]

/-- The parts of a list before and after the first occurrence of `needle`. -/
def splitAtFirst? {α : Type} [BEq α] (needle : List α) : List α → Option (List α × List α)
  | [] => if needle.isEmpty then some ([], []) else none
  | x :: rest =>
      if needle.isPrefixOf (x :: rest) then
        some ([], (x :: rest).drop needle.length)
      else (splitAtFirst? needle rest).map fun (before, after) => (x :: before, after)

/-- The parts of `xs` before and after the last element equal to `x`. -/
def splitAtLast? {α : Type} [BEq α] (x : α) : List α → Option (List α × List α)
  | [] => none
  | y :: rest =>
      match splitAtLast? x rest with
      | some (before, after) => some (y :: before, after)
      | none => if y == x then some ([], rest) else none

/-- The distinct elements of a list that are not among `seen`, each at its first place. -/
def distinctFrom {α : Type} [BEq α] (seen : List α) : List α → List α
  | [] => []
  | x :: rest =>
      if seen.contains x then distinctFrom seen rest
      else x :: distinctFrom (x :: seen) rest

/-- The distinct elements of a list, each at its first place. -/
def distinct {α : Type} [BEq α] (xs : List α) : List α := distinctFrom [] xs

end StyleCompletion.Text
