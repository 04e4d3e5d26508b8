import RefinementTypes.Regex.Automaton
import RefinementTypes.Regex.Parser

/-! The automata of expressions that have been read before, by the texts of the expressions. A text
that is refused is not kept. -/

namespace RefinementTypes.Regex

structure Cache where
  entries : List (String × Automaton)

namespace Cache

def empty : Cache := ⟨[]⟩

/-- The automaton of an expression, made or found. -/
def automaton (cache : Cache) (pattern : String) : Except ParseError Automaton × Cache :=
  match cache.entries.lookup pattern with
  | some automaton => (.ok automaton, cache)
  | none =>
    match parse pattern with
    | .ok node =>
      let automaton := Automaton.ofNode node
      (.ok automaton, ⟨(pattern, automaton) :: cache.entries⟩)
    | .error error => (.error error, cache)

def search (cache : Cache) (pattern text : String) : Except ParseError Bool × Cache :=
  match cache.automaton pattern with
  | (.ok automaton, cache) => (.ok (automaton.matchesIn text), cache)
  | (.error error, cache) => (.error error, cache)

end Cache

end RefinementTypes.Regex
