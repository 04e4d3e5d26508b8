import RefinementTypes.Proofs.Interning
import RefinementTypes.Proofs.Numerals
import RefinementTypes.Proofs.Ownership
import RefinementTypes.Proofs.Quoting

/-! How types are written. A type that is resolved has a number, which is written as what the type comes to. Where no
parameter is mentioned, a written form is that of one type only: what is written for an atom or in brackets can be told
from whatever follows, and what is written without brackets from a closing one, so two numbers are never written
alike. -/

namespace RefinementTypes

namespace Subst

variable {s : Subst} {type : Ty}

private theorem vars_apply_eq_nil (acyclic : s.Acyclic)
    (resolved : ∀ id ∈ type.vars, ∃ bound, s.lookup id = some bound ∧ (s.apply bound).vars = []) :
    (s.apply type).vars = [] := by
  induction type with
  | arrow domain codomain left right =>
    rw [apply_arrow, Ty.vars, left fun id member => resolved id (List.mem_append_left _ member),
      right fun id member => resolved id (List.mem_append_right _ member), List.append_nil]
  | var v =>
    obtain ⟨bound, found, none⟩ := resolved v.id (List.mem_singleton_self v.id)
    rw [apply_bound acyclic found, none]
  | atom | missing => simp [Ty.vars]

end Subst

namespace Checking.Session

/-- A type each variable of which comes to a type without variables is resolved, unless a part of it is missing, and its
number is written as what it comes to, also after more types have been issued. -/
theorem typeId_written_alike (config : Config) (before : State) (type : Ty) (acyclic : before.subst.Acyclic)
    (exact : before.Exact) (resolved : ∀ id ∈ type.vars,
      ∃ bound, before.subst.lookup id = some bound ∧ (before.subst.apply bound).vars = []) :
    let outcome := typeId type config before
    ((∃ id, outcome.1 = .ok id) ↔ (before.subst.apply type).Whole) ∧
    ∀ id, outcome.1 = .ok id →
      outcome.2.store.render id = .ok (before.subst.apply type).render ∧
      outcome.2.store.Lasts fun store => store.render id = .ok (before.subst.apply type).render := by
  intro outcome
  have lowers : LowersTo True (before.subst.apply type) (typeId type) config before :=
    typeId_lowers acyclic (fun _ => exact) type
  have denotes (id : TypeId) (ok : outcome.1 = .ok id) : outcome.2.store.Denotes id (before.subst.apply type) :=
    lowers.ok trivial id ok
  refine ⟨⟨?_, fun whole => ?_⟩, fun id ok => ⟨?_, fun more grown ordered => ?_⟩⟩
  · rintro ⟨id, ok⟩
    exact (Ty.ground_iff.mp (denotes id ok).ground).1
  · cases result : outcome.1 with
    | ok id => exact ⟨id, rfl⟩
    | error failure =>
      have refused := (lowers.failed trivial failure result).refused whole
      exact absurd (Subst.vars_apply_eq_nil acyclic resolved) refused.1
  · exact (denotes id ok).render (lowers.exact trivial).valid.ordered
  · exact ((denotes id ok).mono grown).render ordered

/-- A function type is put for both variables, of which one is bound to the other and one was resolved before. -/
theorem typeId_written_alike_chained :
    let bound : Ty := .arrow (.atom .bool) (.atom .regex)
    let before : State :=
      { State.fresh .empty with
        nextVar := 2
        subst := (Subst.empty.insert 0 bound).insert 1 (.var ⟨0, .immutable⟩)
        store := (((Store.empty.intern (.atom .regex)).2.intern (.atom .bool)).2.intern (.arrow 1 0)).2
        memo := [(.var ⟨0, .immutable⟩, 2)] }
    let config : Config := ⟨id, .regular, true, false, 8⟩
    let type : Ty := .arrow (.var ⟨1, .mutable⟩) (.var ⟨0, .immutable⟩)
    let outcome := typeId type config before
    before.subst.Acyclic ∧ before.Exact ∧
      ∃ id, outcome.1 = .ok id ∧ outcome.2.store.render id = .ok "(Bool -> Regex) -> Bool -> Regex" := by
  intro bound before config type outcome
  have acyclic : before.subst.Acyclic := (Subst.acyclic_empty.insert (by decide)).insert (by decide)
  have valid : before.store.Valid :=
    Store.intern_valid (Store.intern_valid (Store.intern_valid Store.valid_empty _) _) _
  have denotes : before.store.Denotes 2 bound := .arrow rfl (.atom rfl) (.atom rfl)
  have exact : before.Exact := .of_denotes valid fun _ member => by cases List.mem_singleton.mp member; exact denotes
  obtain ⟨resolves, written⟩ := typeId_written_alike config before type acyclic exact (by
    intro id member
    rcases List.mem_cons.mp member with rfl | member
    · exact ⟨.var ⟨0, .immutable⟩, rfl, rfl⟩
    · cases List.mem_singleton.mp member
      exact ⟨bound, rfl, rfl⟩)
  obtain ⟨id, ok⟩ := resolves.mpr ⟨⟨trivial, trivial⟩, trivial, trivial⟩
  exact ⟨acyclic, exact, id, ok, (written id ok).1⟩

end Checking.Session

variable {rest rest' : List Char}

private theorem append_inj_of_stops {kind : Char → Bool} {first second : List Char} {stop : Char}
    (all : ∀ c ∈ first, kind c = true) (all' : ∀ c ∈ second, kind c = true) (stops : kind stop = false)
    (same : first ++ stop :: rest = second ++ stop :: rest') : first = second ∧ rest = rest' := by
  have runs := congrArg (List.takeWhile kind) same
  rw [List.takeWhile_append_of_pos all, List.takeWhile_append_of_pos all', List.takeWhile_cons_of_neg (by simp [stops]),
    List.takeWhile_cons_of_neg (by simp [stops]), List.append_nil, List.append_nil] at runs
  rw [runs] at same
  exact ⟨runs, (List.cons.inj (List.append_cancel_left same)).2⟩

def isNumeral (c : Char) : Bool := c.isDigit || c == '-'

private theorem isNumeral_of_mem {value : Int} : ∀ c ∈ (toString value).toList, isNumeral c = true := by
  intro c member
  rw [Yaml.toList_toString, Yaml.digitsOf] at member
  split at member
  next => simp [isNumeral, Yaml.isDigit_of_mem_digits c member]
  next =>
    rcases List.mem_cons.mp member with rfl | digit
    · rfl
    · simp [isNumeral, Yaml.isDigit_of_mem_digits c digit]

private theorem toString_append_inj {value value' : Int} {stop : Char} (stops : isNumeral stop = false)
    (same : (toString value).toList ++ stop :: rest = (toString value').toList ++ stop :: rest') :
    value = value' ∧ rest = rest' := by
  obtain ⟨texts, rests⟩ := append_inj_of_stops isNumeral_of_mem isNumeral_of_mem stops same
  rw [Yaml.toList_toString, Yaml.toList_toString] at texts
  exact ⟨Yaml.digitsOf_inj texts, rests⟩

namespace Atom

/-- What is written for an atom can be told from what follows it, unless it is a parameter. -/
theorem render_append_inj {a b : Atom} (unnamed : ∀ name, a ≠ .named name) (unnamed' : ∀ name, b ≠ .named name)
    (same : a.render.toList ++ rest = b.render.toList ++ rest') : a = b ∧ rest = rest' := by
  cases a with
  | named name => exact absurd rfl (unnamed name)
  | range low high =>
    cases b with
    | named name => exact absurd rfl (unnamed' name)
    | range low' high' =>
      simp only [render, String.toList_append, List.append_assoc] at same
      obtain ⟨rfl, behind⟩ := toString_append_inj rfl (List.append_cancel_left same)
      obtain ⟨rfl, rests⟩ := toString_append_inj rfl (List.cons.inj behind).2
      exact ⟨rfl, rests⟩
    | bottom | bool | regex | string | error => simp [render] at same
  | string pattern =>
    cases b with
    | named name => exact absurd rfl (unnamed' name)
    | string pattern' =>
      simp only [render, String.toList_append, List.append_assoc] at same
      obtain ⟨rfl, behind⟩ := Text.quote_append_inj (List.append_cancel_left same)
      exact ⟨rfl, (List.cons.inj behind).2⟩
    | bottom | bool | regex | range | error => simp [render] at same
  | bottom | bool | regex | error =>
    cases b with
    | named name => exact absurd rfl (unnamed' name)
    | bottom | bool | regex | range | string | error => simp_all [render]

private theorem render_ne_bracket {a : Atom} (unnamed : ∀ name, a ≠ .named name) :
    a.render.toList ++ rest ≠ '(' :: rest' := by
  cases a with
  | named name => exact absurd rfl (unnamed name)
  | bottom | bool | regex | range | string | error => simp [render]

end Atom

namespace Ty

/-- A part of a type that has one written form of its own: none is missing, and none is a parameter. -/
def Plain (leaf : Ty) : Prop := leaf ≠ missing ∧ ∀ name, leaf ≠ atom (.named name)

private theorem Plain.unnamed {a : Atom} (plain : (atom a).Plain) (name : String) : a ≠ .named name :=
  fun named => plain.2 name (congrArg atom named)

private theorem over_plain {type : Ty} (ground : type.Ground) (unnamed : type.names = []) : type.Over Plain 0 := by
  induction type with
  | arrow domain codomain left right =>
    obtain ⟨first, second⟩ := List.append_eq_nil_iff.mp unnamed
    exact ⟨left ground.1 first, right ground.2 second⟩
  | atom a =>
    refine ⟨nofun, fun name same => ?_⟩
    rw [same] at unnamed
    cases unnamed
  | var v => exact ground
  | missing => exact absurd rfl ground

/-- What may follow a type that is written without brackets: nothing, or a bracket that closes. -/
def Ends : List Char → Prop
  | [] => True
  | c :: _ => c = ')'

private theorem renderAt_arrow (nested : Bool) (domain codomain : Ty) :
    ((arrow domain codomain).renderAt nested).toList =
      (if nested then ['('] else []) ++ ((domain.renderAt true).toList ++ (" -> ".toList ++
        ((codomain.renderAt false).toList ++ if nested then [')'] else []))) := by
  cases nested <;> simp [renderAt]

private theorem atom_ne_arrow {nested : Bool} {a : Atom} {domain codomain : Ty} (plain : (atom a).Over Plain 0)
    (plain' : domain.Over Plain 0) (ends : nested = false → Ends rest) :
    a.render.toList ++ rest ≠ ((arrow domain codomain).renderAt nested).toList ++ rest' := by
  intro same
  rw [renderAt_arrow] at same
  cases nested with
  | true => exact Atom.render_ne_bracket (Plain.unnamed plain) same
  | false =>
    cases domain with
    | atom b =>
      -- The arrow would have to follow the type.
      simp only [Bool.false_eq_true, if_false, List.nil_append, renderAt, List.append_assoc] at same
      obtain ⟨_, rfl⟩ := Atom.render_append_inj (Plain.unnamed plain) (Plain.unnamed plain') same
      have bracket : ' ' = ')' := ends rfl
      exact absurd bracket (by decide)
    | arrow first second =>
      rw [renderAt_arrow] at same
      exact Atom.render_ne_bracket (Plain.unnamed plain) same
    | var v => exact absurd plain' (Nat.not_lt_zero _)
    | missing => exact absurd rfl plain'.1

/-- A written type can be told from what follows it. -/
theorem renderAt_append_inj (nested : Bool) {type other : Ty} (plain : type.Over Plain 0) (plain' : other.Over Plain 0)
    (ends : nested = false → Ends rest ∧ Ends rest')
    (same : (type.renderAt nested).toList ++ rest = (other.renderAt nested).toList ++ rest') :
    type = other ∧ rest = rest' := by
  induction type generalizing nested other rest rest' with
  | var v => exact absurd plain (Nat.not_lt_zero _)
  | missing => exact absurd rfl plain.1
  | atom a =>
    cases other with
    | var v => exact absurd plain' (Nat.not_lt_zero _)
    | missing => exact absurd rfl plain'.1
    | arrow domain codomain => exact absurd same (atom_ne_arrow plain plain'.1 fun outer => (ends outer).1)
    | atom b =>
      obtain ⟨rfl, rests⟩ := Atom.render_append_inj (Plain.unnamed plain) (Plain.unnamed plain') same
      exact ⟨rfl, rests⟩
  | arrow domain codomain left right =>
    cases other with
    | var v => exact absurd plain' (Nat.not_lt_zero _)
    | missing => exact absurd rfl plain'.1
    | atom b => exact absurd same.symm (atom_ne_arrow plain' plain.1 fun outer => (ends outer).2)
    | arrow domain' codomain' =>
      rw [renderAt_arrow, renderAt_arrow] at same
      simp only [List.append_assoc] at same
      obtain ⟨rfl, behind⟩ := left true plain.1 plain'.1 nofun (List.append_cancel_left same)
      cases nested with
      | true =>
        have closes (behind : List Char) : Ends (')' :: behind) := rfl
        obtain ⟨rfl, rests⟩ := right false plain.2 plain'.2 (fun _ => ⟨closes rest, closes rest'⟩)
          (List.append_cancel_left behind)
        exact ⟨rfl, (List.cons.inj rests).2⟩
      | false =>
        obtain ⟨rfl, rests⟩ := right false plain.2 plain'.2 (fun _ => ends rfl) (List.append_cancel_left behind)
        exact ⟨rfl, rests⟩

private theorem render_inj {type other : Ty} (plain : type.Over Plain 0) (plain' : other.Over Plain 0)
    (same : type.render = other.render) : type = other := by
  have alike : (type.renderAt false).toList ++ [] = (other.renderAt false).toList ++ [] := by
    rw [List.append_nil, List.append_nil]
    exact congrArg String.toList same
  have ends : Ends [] := trivial
  exact (renderAt_append_inj false plain plain' (fun _ => ⟨ends, ends⟩) alike).1

end Ty

namespace Store

/-- Whatever has been asked of a store, every number that it issued is written, and no two of them are written alike if
no parameter is mentioned in what they stand for. -/
theorem written_unambiguous (requests : List Request) :
    let store := Store.empty.afterAll requests
    ∀ id id', id < store.size → id' < store.size → (store.unfold id).names = [] → (store.unfold id').names = [] →
      (∃ text, store.render id = .ok text) ∧ (store.render id = store.render id' → id = id') := by
  intro store id id' issued issued' unnamed unnamed'
  have valid : store.Valid := afterAll_valid valid_empty requests
  have denotes := valid.denotes issued
  have denotes' := valid.denotes issued'
  rw [denotes.render valid.ordered, denotes'.render valid.ordered]
  refine ⟨⟨_, rfl⟩, fun same => (valid.unfold_inj issued issued').mp ?_⟩
  exact Ty.render_inj (Ty.over_plain denotes.ground unnamed) (Ty.over_plain denotes'.ground unnamed')
    (Except.ok.inj same)

/-- A parameter may have the name of a type. -/
example :
    let store := Store.empty.afterAll [.bool, .intern (some (.atom (.named "Bool")))]
    store.render 0 = store.render 1 := rfl

/-- The text in a pattern looks like a function type, and brackets alone tell the types apart. -/
theorem written_unambiguous_brackets :
    let requests : List Request := [.intern (some (.atom (.string "\") -> (\""))), .arrow 0 0, .arrow 1 0, .arrow 0 1]
    let store := Store.empty.afterAll requests
    (∃ text, store.render 2 = .ok text) ∧ store.render 2 ≠ store.render 3 := by
  intro requests store
  obtain ⟨written, numbers⟩ := written_unambiguous requests 2 3 (by decide) (by decide) (by decide) (by decide)
  exact ⟨written, fun same => absurd (numbers same) (by decide)⟩

end Store

end RefinementTypes
