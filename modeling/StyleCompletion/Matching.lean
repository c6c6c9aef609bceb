/-
The filter on candidates: a candidate is offered when the typed text occurs in it,
case aside.

The reference functions are `matches`, here `candidateMatches`, and `accepts`.
-/
import StyleCompletion.Text.Lowercase
import StyleCompletion.Text.Search

namespace StyleCompletion

/-- `candidate` holds `typed` somewhere, whatever the case of either.  An empty
`typed` is in every candidate. -/
def candidateMatches (candidate typed : String) : Bool :=
  typed.isEmpty || Text.occursIn (Text.lower typed.toList) (Text.lower candidate.toList)

/-- The filter for a word that may be absent; without a word all pass. -/
def accepts (candidate : String) (word : Option String) : Bool :=
  match word with
  | none => true
  | some typed => candidateMatches candidate typed

@[simp] theorem accepts_none (candidate : String) : accepts candidate none = true := rfl

end StyleCompletion
