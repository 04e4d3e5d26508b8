import RefinementTypes.Checking.Assign
import RefinementTypes.Checking.Instantiate

/-! Literals and the solver. The solver takes up all obligations, round after round, until none is left
or a round neither settles an obligation nor binds a variable. -/

namespace RefinementTypes.Checking.Session

def reject (literal : Option Literal) (type : Ty) : Session Unit :=
  match literal with
  | some value => refuse (.nonconforming value type)
  | none => fault .absent

/-- Requires a literal to belong to a type, or leaves that to the solver while the type is an unbound
variable. -/
def conform (literal : Option Literal) (type : Ty) : Session Unit := do
  let subst ← read View.subst
  match subst.shallow type, literal with
  | .var v, _ => postpone (.conforms literal (.var v))
  | .atom .error, _ => return
  | .atom .bool, some (.bool _) => return
  | .atom .regex, some (.regex _) => return
  | .atom (.range low high), some (.int value) =>
    if low ≤ value ∧ value < high then return
    else refuse (.outOfRange value (.atom (.range low high)))
  | .atom (.string pattern), some (.string value) =>
    match ← consult pattern value with
    | .error problem => refuse (.badPattern pattern problem)
    | .ok true => return
    | .ok false => refuse (.noMatch (.string value) (.atom (.string pattern)))
  | _, _ => reject literal (subst.apply type)

def discharge : Obligation → Session Unit
  | .conforms literal type => conform literal type
  | .assignable expected found => assign expected found
  | .instantiated params fresh generic => do
    match ← read fun view => view.subst.lookup generic.id with
    | none => postpone (.instantiated params fresh generic)
    | some bound =>
      let type ← instanceOf params bound
      assign (.var fresh) type

/-- Takes up obligations in turn and counts those that left no other behind. -/
def dischargeAll : List Obligation → Session Nat
  | [] => return 0
  | obligation :: rest => do
    let before ← read fun view => view.worklist.length
    discharge obligation
    let after ← read fun view => view.worklist.length
    let settled ← dischargeAll rest
    return if after = before then settled + 1 else settled

/-- What is left when the solver stops: a final run refuses the program. -/
def stuck (final : Bool) : Session Unit := do
  if final then
    let subst ← read View.subst
    let pending ← read View.worklist
    refuse (.unsolved (pending.map (Obligation.apply subst)))

/-- Solves from a given round on, for at most `limit` rounds. -/
def solveFrom (final : Bool) : Nat → Nat → Session Unit
  | limit, round => do
    let pending ← read View.worklist
    if pending.isEmpty then return
    match limit with
    | 0 => fault .roundLimit
    | limit + 1 =>
      let bound ← read fun view => view.subst.size
      request .clear
      let settled ← dischargeAll pending
      let bound' ← read fun view => view.subst.size
      trace fun _ =>
        "solve round " ++ toString round ++ ": discharged " ++ toString settled ++ " of " ++
          toString pending.length ++ ", bound " ++ toString (bound' - bound)
      if settled = 0 ∧ bound' = bound then stuck final
      else solveFrom final limit (round + 1)

/-- Settles obligations. A final run refuses the program if any is left. -/
def solve (final : Bool) : Session Unit := do
  let config ← config
  solveFrom final config.roundLimit 1

end RefinementTypes.Checking.Session
