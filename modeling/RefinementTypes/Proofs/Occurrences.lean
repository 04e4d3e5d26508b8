import RefinementTypes.Syntax.Expr

/-! Where names are used. A use of a name is free if no pattern binds it in whose scope it stands: that of a function
reaches over its body, and that of a binding over both branches, but not over what is bound. -/

namespace RefinementTypes

/-- Whether a pattern binds a name. Names are compared after `normalize`. -/
def Pat.introduces (normalize : String → String) (key : String) : Pat → Bool
  | bind label => normalize label == key
  | apply func arg => func.introduces normalize key || arg.introduces normalize key
  | wildcard | constructor _ | lit _ | foreign _ | missing => false

theorem Pat.introduces_iff {pat : Pat} {labels : List String} (binders : pat.binders = .ok labels)
    (normalize : String → String) (key : String) :
    pat.introduces normalize key = true ↔ key ∈ labels.map normalize := by
  induction pat generalizing labels with
  | bind label =>
    cases binders
    rw [introduces, beq_iff_eq, List.map_singleton, List.mem_singleton, eq_comm]
  | apply func arg first second =>
    rw [Pat.binders] at binders
    cases left : func.binders with
    | error form =>
      rw [left] at binders
      cases binders
    | ok labels₁ =>
      cases right : arg.binders with
      | error form =>
        rw [left, right] at binders
        cases binders
      | ok labels₂ =>
        rw [left, right] at binders
        cases binders
        rw [introduces, Bool.or_eq_true, first left, second right, List.map_append, List.mem_append]
  | wildcard | constructor | lit | missing =>
    cases binders
    simp [introduces]
  | foreign => cases binders

/-- A use of a name, with the patterns in whose scope it stands, the outermost first. -/
structure Occurrence where
  label : String
  patterns : List Pat

namespace Occurrence

def under (pat : Pat) (occurrence : Occurrence) : Occurrence :=
  { occurrence with patterns := pat :: occurrence.patterns }

/-- Whether a pattern binds the name. Names are compared after `normalize`. -/
def bound (normalize : String → String) (occurrence : Occurrence) : Bool :=
  occurrence.patterns.any fun pat => pat.introduces normalize (normalize occurrence.label)

theorem bound_under (normalize : String → String) (pat : Pat) (occurrence : Occurrence) :
    (occurrence.under pat).bound normalize =
      (pat.introduces normalize (normalize occurrence.label) || occurrence.bound normalize) := rfl

end Occurrence

namespace Expr

mutual
/-- The uses of names in an expression, from left to right. -/
def uses : Expr → List Occurrence
  | name label => [⟨label, []⟩]
  | anno expr _ => expr.uses
  | lam pat body => body.uses.map (Occurrence.under pat)
  | letElse pat bound thenBranch elseBranch =>
    bound.uses ++ (thenBranch.uses ++ elseBranch.uses).map (Occurrence.under pat)
  | call func arg => func.uses ++ arg.uses
  | op _ args => usesAll args
  | lit _ | impossible | invalid | foreign _ | missing => []

def usesAll : List Expr → List Occurrence
  | [] => []
  | expr :: rest => expr.uses ++ usesAll rest
end

end Expr

/-- The names of the uses that are free. -/
def freeIn (normalize : String → String) (uses : List Occurrence) : List String :=
  (uses.filter fun occurrence => !occurrence.bound normalize).map fun occurrence => normalize occurrence.label

variable {normalize : String → String}

theorem mem_freeIn {uses : List Occurrence} {key : String} : key ∈ freeIn normalize uses ↔
    ∃ occurrence ∈ uses, occurrence.bound normalize = false ∧ normalize occurrence.label = key := by
  simp [freeIn, and_assoc]

theorem freeIn_append (first second : List Occurrence) :
    freeIn normalize (first ++ second) = freeIn normalize first ++ freeIn normalize second := by
  simp [freeIn]

/-- What a pattern binds is not free outside it. -/
theorem freeIn_under (pat : Pat) (uses : List Occurrence) : freeIn normalize (uses.map (Occurrence.under pat)) =
    (freeIn normalize uses).filter fun key => !pat.introduces normalize key := by
  have outside : (fun occurrence : Occurrence => !occurrence.bound normalize) ∘ Occurrence.under pat =
      fun occurrence => !pat.introduces normalize (normalize occurrence.label) && !occurrence.bound normalize := by
    funext occurrence
    rw [Function.comp, Occurrence.bound_under, Bool.not_or]
  rw [freeIn, freeIn, List.filter_map, List.map_map, List.filter_map, List.filter_filter, outside]
  rfl

end RefinementTypes
