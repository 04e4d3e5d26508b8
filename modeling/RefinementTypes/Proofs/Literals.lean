import RefinementTypes.Proofs.Invariant
import RefinementTypes.Proofs.Obligations

/-! The literals of a checked expression belong to the types that it gives them. Whether this was seen
on the spot or put off, it holds of the trees that solve the state in the end. -/

namespace RefinementTypes.Checking

namespace Typed

variable {τ υ : Type}

def map (change : τ → υ) : Typed τ → Typed υ
  | lam type pat body => lam (change type) pat (body.map change)
  | letElse type pat bound thenBranch elseBranch =>
    letElse (change type) pat (bound.map change) (thenBranch.map change) (elseBranch.map change)
  | call type func arg => call (change type) (func.map change) (arg.map change)
  | lit type value => lit (change type) value
  | name type label => name (change type) label
  | impossible type => impossible (change type)
  | invalid type => invalid (change type)

@[simp] theorem type_map (change : τ → υ) (typed : Typed τ) : (typed.map change).type = change typed.type := by
  cases typed <;> rfl

theorem all_map {property : υ → Prop} {change : τ → υ} {typed : Typed τ}
    (all : typed.All fun type => property (change type)) : (typed.map change).All property := by
  induction typed with
  | lam _ _ _ body => exact ⟨all.1, body all.2⟩
  | letElse _ _ _ _ _ first second third => exact ⟨all.1, first all.2.1, second all.2.2.1, third all.2.2.2⟩
  | call _ _ _ first second => exact ⟨all.1, first all.2.1, second all.2.2⟩
  | lit | name | impossible | invalid => exact all

theorem map_eq_map_iff {change other : τ → υ} {typed : Typed τ} :
    typed.map change = typed.map other ↔ typed.All fun type => change type = other type := by
  induction typed <;> simp_all [map, All]

/-- The literal that a pattern compares with, with the type of what it is compared with. -/
def patternLiteral (type : τ) : Pat → List (Option Literal × τ)
  | .lit value => [(value, type)]
  | .bind _ | .wildcard | .constructor _ | .apply _ _ | .missing | .foreign _ => []

/-- The literals in an expression with their types. One in the pattern of a `let` has the type of what
is bound. -/
def literals : Typed τ → List (Option Literal × τ)
  | lam _ _ body => body.literals
  | letElse _ pat bound thenBranch elseBranch =>
    patternLiteral bound.type pat ++ bound.literals ++ thenBranch.literals ++ elseBranch.literals
  | call _ func arg => func.literals ++ arg.literals
  | lit type value => [(some value, type)]
  | name _ _ | impossible _ | invalid _ => []

theorem literals_map (change : τ → υ) (typed : Typed τ) :
    (typed.map change).literals = typed.literals.map fun entry => (entry.1, change entry.2) := by
  induction typed with
  | lam _ _ _ body => simpa [map, literals] using body
  | letElse _ pat _ _ _ first second third =>
    cases pat <;> simp [map, literals, patternLiteral, first, second, third]
  | call _ _ _ first second => simp [map, literals, first, second]
  | lit | name | impossible | invalid => rfl

end Typed

/-- A pattern is one that binds a name, leaves its place open or is a literal of the type. -/
inductive Fits (accepts : String → String → Prop) : Pat → Ty → Prop
  | wildcard (type : Ty) : Fits accepts .wildcard type
  | bind (name : String) (type : Ty) : Fits accepts (.bind name) type
  | lit {value : Option Literal} {type : Ty} (conforms : Conforms accepts value type) :
      Fits accepts (.lit value) type

private theorem Fits.patternLiteral {τ : Type} {accepts : String → String → Prop} {pat : Pat} {type : τ}
    {tree : τ → Ty} (fits : Fits accepts pat (tree type)) :
    ∀ entry ∈ Typed.patternLiteral type pat, Conforms accepts entry.1 (tree entry.2) := by
  intro entry member
  cases fits with
  | wildcard | bind => cases member
  | lit conforms =>
    cases List.mem_singleton.mp member
    exact conforms

namespace Session

variable {reading : Reading} {config : Config} {before : State}

theorem bindPat_establishes (pat : Pat) (type : Ty) :
    Establishes reading (bindPat pat type) config before fun pat' =>
      Fits config.matcher.Accepts pat' (type.image reading.trees) := by
  cases pat with
  | bind label =>
    refine .bind (normalize_quiet label).establishes fun name _ _ => ?_
    refine .bind (.kept (declare_uses (.refl _) _ _) (by decide)) fun _ _ _ => ?_
    exact .bind .trace fun _ _ _ => .pure fun _ _ _ => .bind name _
  | lit value => exact .bind (conform_establishes value type) fun _ _ _ => .pure .lit
  | wildcard => exact .pure (.wildcard _)
  | constructor | apply | missing => exact .refuse
  | foreign => exact .fault

theorem reference_name {label : String} {typed : Typed Ty} {after : State}
    (run : reference label config before = (.ok typed, after)) : ∃ type name, typed = .name type name := by
  obtain ⟨name, _, _, run⟩ := bind_ok run
  obtain ⟨template, _, _, run⟩ := bind_ok run
  cases template with
  | some template =>
    obtain ⟨type, _, _, run⟩ := bind_ok run
    cases run
    exact ⟨_, _, rfl⟩
  | none =>
    obtain ⟨_, _, _, run⟩ := bind_ok run
    obtain ⟨_, _, _, run⟩ := bind_ok run
    cases run
    exact ⟨_, _, rfl⟩

theorem settle_establishes {step : Session (Typed Ty)} {claim : Typed Ty → Prop} (expr : Expr)
    (expected : Option Ty) (establishes : Establishes reading step config before claim) :
    Establishes reading (settle expr expected step) config before fun typed =>
      claim typed ∧ ∀ type ∈ expected, (type.image reading.trees).Admits (typed.type.image reading.trees) := by
  refine .bind establishes fun result _ _ => ?_
  cases expected with
  | none => exact .pure fun holds => ⟨holds, by rintro _ ⟨⟩⟩
  | some type =>
    refine .bind (.locatedAt (assign_establishes type result.type)) fun _ _ _ => .pure fun admits holds => ?_
    exact ⟨holds, by rintro _ ⟨⟩; exact admits⟩

/-- All literals in a checked expression belong to the trees that their types stand for. -/
theorem elaborate_literals (expr : Expr) (expected : Option Ty) :
    Establishes reading (elaborate expr expected) config before fun typed =>
      ∀ entry ∈ typed.literals, Conforms config.matcher.Accepts entry.1 (entry.2.image reading.trees) := by
  induction expr, expected using elaborate_induction generalizing before with
  | anno expr type expected ih =>
    rw [elaborate]
    refine (settle_establishes _ _
      (.bind (.kept (lower_uses (.refl _) _ _) (by decide)) fun type _ _ => ?_)).imp fun _ => And.left
    exact (ih type).imp fun _ all _ => all
  | lam pat body type ih =>
    rw [elaborate]
    refine .bind (.locatedAt (splitFunction_establishes type)) ?_
    rintro ⟨domain, codomain⟩ _ _
    apply Establishes.keepingScope
    refine .bind (.locatedAt (bindPat_establishes pat domain)) fun pat' _ _ => ?_
    exact .bind (.locatedAt (ih codomain)) fun body' _ _ => .pure fun all _ _ => all
  | letElse pat bound thenBranch elseBranch expected first second third =>
    rw [elaborate]
    refine .bind (.locatedAt first) fun bound' _ _ => .keepingScope ?_
    refine .bind (.locatedAt (bindPat_establishes pat bound'.type)) fun pat' _ _ => ?_
    refine .bind (.locatedAt second) fun then' _ _ => ?_
    refine .bind (.locatedAt (third then')) fun else' _ _ => .pure fun last middle compared early => ?_
    simp only [Typed.literals, List.forall_mem_append]
    exact ⟨⟨⟨compared.patternLiteral, early⟩, middle⟩, last⟩
  | call func arg expected first second =>
    rw [elaborate]
    refine (settle_establishes _ _ ?_).imp fun _ => And.left
    refine .bind (.locatedAt first) fun func' _ _ => .bind (.locatedAt (splitFunction_establishes _)) ?_
    rintro ⟨domain, codomain⟩ _ _
    refine .bind (.locatedAt (second domain)) fun arg' _ _ => .pure fun last _ early => ?_
    exact List.forall_mem_append.mpr ⟨early, last⟩
  | literal value type notBool notRegex =>
    rw [elaborate_literal type notBool notRegex]
    refine .bind (.locatedAt (conform_establishes _ _)) fun _ _ _ => .pure fun conforms entry member => ?_
    cases List.mem_singleton.mp member
    exact conforms
  | literalFound value notBool notRegex =>
    rw [elaborate_literalFound notBool notRegex]
    exact .locatedAt .refuse
  | bool value expected =>
    rw [elaborate]
    refine (settle_establishes _ _ (.pure fun entry member => ?_)).imp fun _ => And.left
    cases List.mem_singleton.mp member
    exact .bool value
  | regex source expected =>
    rw [elaborate]
    refine (settle_establishes _ _ (.pure fun entry member => ?_)).imp fun _ => And.left
    cases List.mem_singleton.mp member
    exact .regex source
  | name label expected =>
    rw [elaborate]
    refine (settle_establishes _ _ (.of_uses (reference_uses (.refl _) label) (by decide) ?_)).imp fun _ => And.left
    intro typed _ run _ _ entry member
    obtain ⟨type, name, rfl⟩ := reference_name run
    cases member
  | impossible | invalid =>
    rw [elaborate]
    exact (settle_establishes _ _ (.pure fun _ member => by cases member)).imp fun _ => And.left
  | lamFound | op => rw [elaborate]; exact .locatedAt .refuse
  | absent | foreign => rw [elaborate]; exact .fault
  | missing => rw [elaborate]; exact .refuse

end Session

end RefinementTypes.Checking
