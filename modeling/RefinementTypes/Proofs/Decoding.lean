import RefinementTypes.Proofs.Encoding
import RefinementTypes.Source.File

/-! What decoding yields, whatever lawful reader it uses. A well-formed tree is decoded from every node that it may be
written as, and whatever is decoded from a node, of any shape, is well formed. The reader of documents is lawful. -/

namespace RefinementTypes

open Source Yaml

namespace Source

private theorem ok_bind {α β : Type} (value : α) (next : α → Decoded β) : (Except.ok value >>= next) = next value := rfl

private theorem settled_some {α : Type} (default value : α) : settled default (Reading.some value) = .ok value := rfl

private theorem typeOfWord_named {name : String} (line : Nat) (free : name ∉ ["Bool", "Regex", "_", "invalid", ""]) :
    typeOfWord line name = .ok (.named name) := by
  simp only [List.mem_cons, List.not_mem_nil, or_false, not_or] at free
  simp only [typeOfWord, free, if_false]

private theorem decodeOperator_written {operator : Operator} {node : Node} (listed : operator ∈ Operator.table)
    (written : IsText operator.render node) : decodeOperator node = .ok operator := by
  have named : ∀ operator ∈ Operator.table, Operator.ofName? operator.render = some operator := by decide
  rw [decodeOperator, written.value, named operator listed]

private theorem decodeName_written {label : String} {node : Node} (named : label ≠ "") (written : IsText label node) :
    decodeName node = .ok label := by
  simp [decodeName, written.kind, written.value, named]

section

variable {reader : Reader} (lawful : reader.Lawful)

include lawful

private theorem decodeBounds_written {low high : Int} {node : Node} (inside : InInt64 low) (inside' : InInt64 high)
    (written : IsSequence [Node.IsPlain (toString low), Node.IsPlain (toString high)] node) :
    decodeBounds reader node = .ok (low, high) := by
  rw [decodeBounds, lawful.ints inside inside' written, settled_some]
  rfl

private theorem decodeTypeN_written {type : TypeExpr} {node : Node} {depth : Nat} (wellFormed : type.WellFormed)
    (written : type.Written node) (deep : node.depth ≤ depth) : decodeTypeN reader depth node = .ok type := by
  induction type generalizing node depth with
  | bool | regex | wildcard | invalid =>
    simp [decodeTypeN.eq_def, written.kind, written.value, typeOfWord]
  | named name =>
    simp [decodeTypeN.eq_def, written.kind, written.value, typeOfWord_named node.line wellFormed]
  | missing =>
    have absent : node.kind = .absent := written
    rw [decodeTypeN.eq_def, if_pos absent]
  | foreign => cases written
  | range low high =>
    obtain ⟨value, less, rfl, one, bounds, _⟩ := written.single deep
    have bounds' := decodeBounds_written lawful wellFormed.1 wellFormed.2 bounds
    simp only [decodeTypeN, written.kind, reduceCtorEq, one, ok_bind, reduceIte, bounds']
    rfl
  | string pattern =>
    obtain ⟨value, less, rfl, one, text, _⟩ := written.single deep
    simp only [decodeTypeN, written.kind, reduceCtorEq, one, ok_bind, String.reduceEq, reduceIte, text.value]
    rfl
  | arrow domain codomain left right =>
    obtain ⟨value, less, rfl, one, parts, lower⟩ := written.single deep
    obtain ⟨first, second, two, here, here', lower₁, lower₂⟩ := parts.pair lower
    have first' := left wellFormed.1 here lower₁
    have second' := right wellFormed.2 here' lower₂
    simp only [decodeTypeN, written.kind, reduceCtorEq, one, ok_bind, String.reduceEq, reduceIte, two, first', second']
    rfl

private theorem decodeLiteral_written {literal : Literal} {node : Node} (wellFormed : literal.WellFormed)
    (written : literal.Written node) : decodeLiteral reader node = .ok literal := by
  cases literal with
  | bool value =>
    obtain ⟨_, _, _, one, plain, _⟩ := written.single (Nat.le_refl _)
    simp only [decodeLiteral, one, ok_bind, reduceIte, lawful.bool plain, settled_some]
    rfl
  | int value =>
    obtain ⟨_, _, _, one, plain, _⟩ := written.single (Nat.le_refl _)
    simp only [decodeLiteral, one, ok_bind, String.reduceEq, reduceIte, lawful.int wellFormed plain, settled_some]
    rfl
  | string value | regex value =>
    obtain ⟨_, _, _, one, text, _⟩ := written.single (Nat.le_refl _)
    simp only [decodeLiteral, one, ok_bind, String.reduceEq, reduceIte, text.value]
    rfl

private theorem decodeGiven_written {value : Option Literal} {node : Node} (given : Literal.Given value)
    (written : ∃ literal, value = some literal ∧ literal.Written node) :
    ∃ literal, value = some literal ∧ decodeLiteral reader node = .ok literal := by
  obtain ⟨literal, rfl, wellFormed⟩ := given
  obtain ⟨_, same, written⟩ := written
  cases same
  exact ⟨literal, rfl, decodeLiteral_written lawful wellFormed written⟩

private theorem decodePatN_written {pat : Pat} {node : Node} {depth : Nat} (wellFormed : pat.WellFormed)
    (written : pat.Written node) (deep : node.depth ≤ depth) : decodePatN reader depth node = .ok pat := by
  induction pat generalizing node depth with
  | wildcard =>
    rw [decodePatN.eq_def, if_pos ⟨written.kind, written.value⟩]
  | bind name | constructor name =>
    obtain ⟨value, less, rfl, one, text, _⟩ := written.single deep
    simp only [decodePatN, written.kind, reduceCtorEq, false_and, one, ok_bind, String.reduceEq, reduceIte, text.value]
    rfl
  | lit value =>
    obtain ⟨inner, less, rfl, one, there, _⟩ := written.single deep
    obtain ⟨literal, rfl, decoded⟩ := decodeGiven_written lawful wellFormed there
    simp only [decodePatN, written.kind, reduceCtorEq, false_and, one, ok_bind, String.reduceEq, reduceIte, decoded]
    rfl
  | apply func arg left right =>
    obtain ⟨value, less, rfl, one, parts, lower⟩ := written.single deep
    obtain ⟨first, second, two, here, here', lower₁, lower₂⟩ := parts.pair lower
    have first' := left wellFormed.1 here lower₁
    have second' := right wellFormed.2 here' lower₂
    simp only [decodePatN, written.kind, reduceCtorEq, false_and, one, ok_bind, String.reduceEq, reduceIte, two,
      first', second']
    rfl
  | foreign | missing => cases written

end

mutual

private theorem decodeExprN_written {reader : Reader} (lawful : reader.Lawful) (expr : Expr) {node : Node} {depth : Nat}
    (wellFormed : expr.WellFormed) (written : expr.Written node) (deep : node.depth ≤ depth) :
    decodeExprN reader depth node = .ok expr := by
  cases expr with
  | impossible | invalid =>
    rw [Expr.Written] at written
    simp [decodeExprN.eq_def, written.kind, written.value, exprOfWord]
  | lit value =>
    rw [Expr.WellFormed] at wellFormed
    rw [Expr.Written] at written
    obtain ⟨inner, less, rfl, one, there, _⟩ := written.single deep
    obtain ⟨literal, rfl, decoded⟩ := decodeGiven_written lawful wellFormed there
    simp only [decodeExprN, written.kind, reduceCtorEq, one, ok_bind, String.reduceEq, reduceIte, decoded]
    rfl
  | name label =>
    rw [Expr.WellFormed] at wellFormed
    rw [Expr.Written] at written
    obtain ⟨inner, less, rfl, one, text, _⟩ := written.single deep
    simp only [decodeExprN, written.kind, reduceCtorEq, one, ok_bind, String.reduceEq, reduceIte,
      decodeName_written wellFormed text]
    rfl
  | anno expr type =>
    rw [Expr.WellFormed] at wellFormed
    rw [Expr.Written] at written
    obtain ⟨inner, less, rfl, one, parts, lower⟩ := written.single deep
    obtain ⟨record, made, ⟨first, found₁, here₁, lower₁⟩, second, found₂, here₂, _⟩ :=
      parts.record lower ["expr", "type"] rfl (by decide)
    have first' := decodeExprN_written lawful expr wellFormed.1 here₁ lower₁
    have second' : decodeType reader second = .ok type := decodeTypeN_written lawful wellFormed.2 here₂ (Nat.le_refl _)
    simp only [decodeExprN, written.kind, reduceCtorEq, one, ok_bind, reduceIte, made, found₁, found₂, first', second']
    rfl
  | lam pat body =>
    rw [Expr.WellFormed] at wellFormed
    rw [Expr.Written] at written
    obtain ⟨inner, less, rfl, one, parts, lower⟩ := written.single deep
    obtain ⟨record, made, ⟨first, found₁, here₁, _⟩, second, found₂, here₂, lower₂⟩ :=
      parts.record lower ["pat", "body"] rfl (by decide)
    have first' : decodePat reader first = .ok pat := decodePatN_written lawful wellFormed.1 here₁ (Nat.le_refl _)
    have second' := decodeExprN_written lawful body wellFormed.2 here₂ lower₂
    simp only [decodeExprN, written.kind, reduceCtorEq, one, ok_bind, String.reduceEq, reduceIte, made, found₁,
      found₂, first', second']
    rfl
  | letElse pat bound thenBranch elseBranch =>
    rw [Expr.WellFormed] at wellFormed
    rw [Expr.Written] at written
    obtain ⟨inner, less, rfl, one, parts, lower⟩ := written.single deep
    obtain ⟨record, made, ⟨first, found₁, here₁, _⟩, ⟨second, found₂, here₂, lower₂⟩, ⟨third, found₃, here₃, lower₃⟩,
      fourth, found₄, here₄, lower₄⟩ := parts.record lower ["pat", "bound", "then", "else"] rfl (by decide)
    have first' : decodePat reader first = .ok pat := decodePatN_written lawful wellFormed.1 here₁ (Nat.le_refl _)
    have second' := decodeExprN_written lawful bound wellFormed.2.1 here₂ lower₂
    have third' := decodeExprN_written lawful thenBranch wellFormed.2.2.1 here₃ lower₃
    have fourth' := decodeExprN_written lawful elseBranch wellFormed.2.2.2 here₄ lower₄
    simp only [decodeExprN, written.kind, reduceCtorEq, one, ok_bind, String.reduceEq, reduceIte, made, found₁,
      found₂, found₃, found₄, first', second', third', fourth']
    rfl
  | call func arg =>
    rw [Expr.WellFormed] at wellFormed
    rw [Expr.Written] at written
    obtain ⟨inner, less, rfl, one, parts, lower⟩ := written.single deep
    obtain ⟨record, made, ⟨first, found₁, here₁, lower₁⟩, second, found₂, here₂, lower₂⟩ :=
      parts.record lower ["func", "arg"] rfl (by decide)
    have first' := decodeExprN_written lawful func wellFormed.1 here₁ lower₁
    have second' := decodeExprN_written lawful arg wellFormed.2 here₂ lower₂
    simp only [decodeExprN, written.kind, reduceCtorEq, one, ok_bind, String.reduceEq, reduceIte, made, found₁,
      found₂, first', second']
    rfl
  | op operator args =>
    rw [Expr.WellFormed] at wellFormed
    rw [Expr.Written] at written
    obtain ⟨inner, less, rfl, one, parts, lower⟩ := written.single deep
    obtain ⟨record, made, ⟨first, found₁, here₁, _⟩, second, found₂, here₂, lower₂⟩ :=
      parts.record lower ["kind", "args"] rfl (by decide)
    have first' := decodeOperator_written wellFormed.1 here₁
    have shallow : ∀ item ∈ second.content, item.depth ≤ less :=
      fun item member => Nat.le_trans (Nat.le_of_lt (depth_lt member)) lower₂
    have second' := decodeAll_written lawful args wellFormed.2 here₂.items shallow
    simp only [decodeExprN, written.kind, reduceCtorEq, one, ok_bind, String.reduceEq, reduceIte, made, found₁,
      found₂, first', decodeItems, here₂.kind, second']
    rfl
  | foreign | missing =>
    rw [Expr.Written] at written
    cases written

theorem decodeAll_written {reader : Reader} (lawful : reader.Lawful) (exprs : List Expr) {items : List Node}
    {depth : Nat} (wellFormed : Expr.AllWellFormed exprs)
    (written : List.Forall₂ (fun part item => part item) (Expr.writtenAll exprs) items)
    (deep : ∀ item ∈ items, item.depth ≤ depth) : items.mapM (decodeExprN reader depth) = .ok exprs := by
  cases exprs with
  | nil =>
    rw [Expr.writtenAll] at written
    cases written
    rfl
  | cons expr rest =>
    rw [Expr.AllWellFormed] at wellFormed
    rw [Expr.writtenAll] at written
    obtain ⟨item, others, here, later, rfl⟩ := List.forall₂_cons_left_iff.mp written
    have first := decodeExprN_written lawful expr wellFormed.1 here (deep item List.mem_cons_self)
    have others' := decodeAll_written lawful rest wellFormed.2 later
      fun item member => deep item (List.mem_cons_of_mem _ member)
    rw [List.mapM_cons, first, ok_bind, others']
    rfl

end

def Yields {α : Type} (step : Decoded α) (good : α → Prop) : Prop := ∀ value, step = .ok value → good value

namespace Yields

variable {α β : Type} {good : α → Prop} {better : β → Prop}

private theorem ok {value : α} (holds : good value) : Yields (.ok value) good := by
  intro _ same
  cases same
  exact holds

private theorem error (problem : DecodeError) : Yields (.error problem : Decoded α) good := by
  intro _ same
  cases same

private theorem any (step : Decoded α) : Yields step fun _ => True := fun _ _ => trivial

private theorem bind {step : Decoded α} {next : α → Decoded β} (first : Yields step good)
    (rest : ∀ value, good value → Yields (next value) better) : Yields (step >>= next) better := by
  cases step with
  | error problem => exact .error problem
  | ok value => exact rest value (first value rfl)

private theorem after {step : Decoded α} {next : α → Decoded β} (rest : ∀ value, Yields (next value) better) :
    Yields (step >>= next) better := .bind (.any step) fun value _ => rest value

private theorem ite {condition : Prop} [Decidable condition] {yes no : Decoded α} (left : Yields yes good)
    (right : Yields no good) : Yields (if condition then yes else no) good := by
  split
  next => exact left
  next => exact right

end Yields

private theorem settled_yields {α : Type} {good : α → Prop} {default : α} {reading : Reading α} (absent : good default)
    (given : ∀ value, reading.value = some value → good value) : Yields (settled default reading) good := by
  unfold settled
  split
  next =>
    apply Yields.ok
    cases found : reading.value with
    | none => exact absent
    | some value => exact given value found
  next => exact .error _

private theorem typeOfWord_yields (line : Nat) (word : String) : Yields (typeOfWord line word) TypeExpr.WellFormed := by
  unfold typeOfWord
  split
  next => exact .ok trivial
  split
  next => exact .ok trivial
  split
  next => exact .ok trivial
  split
  next => exact .ok trivial
  split
  next => exact .error _
  next bool regex wildcard invalid empty =>
    exact .ok (by simp [TypeExpr.WellFormed, bool, regex, wildcard, invalid, empty])

private theorem exprOfWord_yields (line : Nat) (word : String) : Yields (exprOfWord line word) Expr.WellFormed := by
  have plain : Expr.impossible.WellFormed ∧ Expr.invalid.WellFormed := by simp [Expr.WellFormed]
  exact .ite (.ok plain.1) (.ite (.ok plain.2) (.error _))

private theorem decodeName_yields (node : Node) : Yields (decodeName node) (· ≠ "") := by
  unfold decodeName
  split
  next => exact .error _
  next named => exact .ok (not_or.mp named).2

private theorem decodeOperator_yields (node : Node) : Yields (decodeOperator node) (· ∈ Operator.table) := by
  unfold decodeOperator
  split
  next found => exact .ok (List.mem_of_find?_eq_some found)
  next => exact .error _

private theorem mapM_yields {decode : Node → Decoded Expr} (each : ∀ node, Yields (decode node) Expr.WellFormed)
    (items : List Node) : Yields (items.mapM decode) Expr.AllWellFormed := by
  induction items with
  | nil =>
    rw [List.mapM_nil]
    exact .ok (by simp [Expr.AllWellFormed])
  | cons item rest ih =>
    rw [List.mapM_cons]
    refine .bind (each item) fun _ here => .bind ih fun _ others => .ok ?_
    rw [Expr.AllWellFormed]
    exact ⟨here, others⟩

section

variable {reader : Reader} (lawful : reader.Lawful)

include lawful

private theorem decodeBounds_yields (node : Node) :
    Yields (decodeBounds reader node) fun bounds => InInt64 bounds.1 ∧ InInt64 bounds.2 := by
  have all : Yields (settled [] (reader.ints node)) fun bounds => ∀ value ∈ bounds, InInt64 value :=
    settled_yields (by simp) fun _ => lawful.ints_inInt64
  refine .bind all fun bounds inside => ?_
  split
  next low high => exact .ok ⟨inside low (by simp), inside high (by simp)⟩
  next => exact .error _

private theorem decodeTypeN_yields (depth : Nat) (node : Node) :
    Yields (decodeTypeN reader depth node) TypeExpr.WellFormed := by
  induction depth generalizing node with
  | zero =>
    rw [decodeTypeN]
    exact .ite (.ok trivial) (.ite (typeOfWord_yields node.line node.value) (.error _))
  | succ depth ih =>
    rw [decodeTypeN]
    refine .ite (.ok trivial) (.ite (typeOfWord_yields node.line node.value) (.after ?_))
    rintro ⟨key, value⟩
    refine .ite ?_ (.ite (.ok trivial) (.ite ?_ (.error _)))
    · exact .bind (decodeBounds_yields lawful value) fun _ inside => .ok inside
    · refine .after fun parts => ?_
      exact .bind (ih parts.1) fun _ first => .bind (ih parts.2) fun _ second => .ok ⟨first, second⟩

private theorem decodeLiteral_yields (node : Node) : Yields (decodeLiteral reader node) Literal.WellFormed := by
  apply Yields.after
  rintro ⟨key, value⟩
  refine .ite (.after fun _ => .ok trivial) (.ite ?_ (.ite (.ok trivial) (.ite (.ok trivial) (.error _))))
  exact .bind (settled_yields (by decide) fun _ => lawful.int_inInt64) fun _ inside => .ok inside

private theorem decodePatN_yields (depth : Nat) (node : Node) :
    Yields (decodePatN reader depth node) Pat.WellFormed := by
  induction depth generalizing node with
  | zero =>
    rw [decodePatN]
    exact .ite (.ok trivial) (.error _)
  | succ depth ih =>
    rw [decodePatN]
    refine .ite (.ok trivial) (.after ?_)
    rintro ⟨key, value⟩
    refine .ite (.ok trivial) (.ite (.ok trivial) (.ite ?_ (.ite ?_ (.error _))))
    · exact .bind (decodeLiteral_yields lawful value) fun literal wellFormed => .ok ⟨literal, rfl, wellFormed⟩
    · refine .after fun parts => ?_
      exact .bind (ih parts.1) fun _ first => .bind (ih parts.2) fun _ second => .ok ⟨first, second⟩

private theorem decodeExprN_yields (depth : Nat) (node : Node) :
    Yields (decodeExprN reader depth node) Expr.WellFormed := by
  induction depth generalizing node with
  | zero =>
    rw [decodeExprN]
    exact .ite (.error _) (.ite (exprOfWord_yields node.line node.value) (.error _))
  | succ depth ih =>
    rw [decodeExprN]
    refine .ite (.error _) (.ite (exprOfWord_yields node.line node.value) (.after ?_))
    rintro ⟨key, value⟩
    refine .ite ?_ (.ite ?_ (.ite ?_ (.ite ?_ (.ite ?_ (.ite ?_ (.ite ?_ (.error _)))))))
    · refine .after fun record => .after fun expr => .after fun type => .bind (ih expr) fun _ first => ?_
      refine .bind (decodeTypeN_yields lawful _ type) fun _ second => .ok ?_
      rw [Expr.WellFormed]
      exact ⟨first, second⟩
    · refine .after fun record => .after fun pat => .after fun body => ?_
      refine .bind (decodePatN_yields lawful _ pat) fun _ first => ?_
      exact .bind (ih body) fun _ second => .ok (by rw [Expr.WellFormed]; exact ⟨first, second⟩)
    · refine .after fun record => .after fun pat => .after fun bound => .after fun left => .after fun right => ?_
      refine .bind (decodePatN_yields lawful _ pat) fun _ first => .bind (ih bound) fun _ second => ?_
      refine .bind (ih left) fun _ third => .bind (ih right) fun _ fourth => .ok ?_
      rw [Expr.WellFormed]
      exact ⟨first, second, third, fourth⟩
    · refine .after fun record => .after fun func => .after fun arg => .bind (ih func) fun _ first => ?_
      exact .bind (ih arg) fun _ second => .ok (by rw [Expr.WellFormed]; exact ⟨first, second⟩)
    · refine .bind (decodeLiteral_yields lawful value) fun literal wellFormed => .ok ?_
      rw [Expr.WellFormed]
      exact ⟨literal, rfl, wellFormed⟩
    · exact .bind (decodeName_yields value) fun _ named => .ok (by rw [Expr.WellFormed]; exact named)
    · refine .after fun record => .after fun kind => .after fun args => ?_
      refine .bind (decodeOperator_yields kind) fun _ first => ?_
      refine .bind (.ite (mapM_yields ih args.content) (.error _)) fun _ second => .ok ?_
      rw [Expr.WellFormed]
      exact ⟨first, second⟩

end

theorem documentReader_lawful : documentReader.Lawful where
  int := fun inside plain => plain.readInt inside
  bool := fun plain => plain.readBool
  ints := by
    intro low high node inside inside' written
    obtain ⟨first, _, here, later, content⟩ := List.forall₂_cons_left_iff.mp written.items
    obtain ⟨second, _, here', none, rfl⟩ := List.forall₂_cons_left_iff.mp later
    cases none
    have followed : node.followed = node := Node.followed_self (by simp [written.kind]) (by simp [written.kind])
    simp only [documentReader, Node.readSequence, followed, written.kind, content, Node.readItems, List.map_cons,
      List.map_nil, here.readInt inside, here'.readInt inside']
    rfl
  int_inInt64 := readInt_inInt64
  ints_inInt64 := readInts_inInt64

end Source

/-- The reader of documents is lawful; and whatever lawful reader decoding uses, the expressions that it yields are those
that are well formed: whatever a node is, an expression that is decoded from it is well formed; and a well-formed
expression can be written, and is decoded from every node that it may be written as. -/
theorem Source.decodeExpr_image :
    documentReader.Lawful ∧ ∀ reader : Reader, reader.Lawful →
      (∀ node expr, decodeExpr reader node = .ok expr → expr.WellFormed) ∧
        ∀ expr : Expr, expr.WellFormed →
          (∃ node, expr.Written node) ∧ ∀ node, expr.Written node → decodeExpr reader node = .ok expr := by
  refine ⟨documentReader_lawful, fun reader lawful => ⟨?_, fun expr wellFormed => ?_⟩⟩
  · exact fun node expr => decodeExprN_yields lawful node.depth node expr
  · refine ⟨expr.exists_written wellFormed, fun _ written => ?_⟩
    exact decodeExprN_written lawful expr wellFormed written (Nat.le_refl _)

/-- A function from the least integer, with the keys of its two mappings turned around and one of them quoted. -/
theorem Source.decodeExpr_image_reordered :
    let expr : Expr := .lam (.lit (some (.int (-9223372036854775808)))) (.anno (.op .mem [.invalid]) .missing)
    let literal : Node := .mapping 4 [(.scalar 4 false "lit",
      .mapping 4 [(.scalar 4 false "int", .scalar 4 false "-9223372036854775808")])]
    let operation : Node := .mapping 3 [(.scalar 3 false "op", .mapping 3 [
      (.scalar 3 false "kind", .scalar 3 false "in"),
      (.scalar 3 false "args", .sequence 3 [.scalar 3 false "invalid"])])]
    let body : Node := .mapping 2 [(.scalar 2 false "anno", .mapping 2 [
      (.scalar 2 true "type", .absent), (.scalar 3 false "expr", operation)])]
    let node : Node := .mapping 1 [(.scalar 1 false "fun", .mapping 1 [
      (.scalar 1 false "body", body), (.scalar 4 false "pat", literal)])]
    documentReader.Lawful ∧ expr.WellFormed ∧ decodeExpr documentReader node = .ok expr := by
  intro expr literal operation body node
  have wellFormed : expr.WellFormed := by
    simp [expr, Expr.WellFormed, Expr.AllWellFormed, Pat.WellFormed, Literal.Given, Literal.WellFormed,
      TypeExpr.WellFormed]
    decide
  have image := decodeExpr_image.2 documentReader documentReader_lawful
  refine ⟨documentReader_lawful, wellFormed, (image.2 expr wellFormed).2 node ?_⟩
  have single {key : String} {part : Node → Prop} {value : Node} (line : Nat) (here : part value) :
      IsMapping [(key, part)] (.mapping line [(.scalar line false key, value)]) :=
    ⟨rfl, _, _, rfl, .refl _, .cons ⟨⟨rfl, rfl⟩, here⟩ .nil⟩
  have least : Node.IsPlain (toString (-9223372036854775808 : Int)) (.scalar 4 false "-9223372036854775808") :=
    ⟨rfl, by decide +kernel, rfl, rfl⟩
  have written : Literal.WrittenIn (some (.int (-9223372036854775808))) literal := single 4 ⟨_, rfl, single 4 least⟩
  have written' : (Expr.op .mem [.invalid]).Written operation := by
    simp only [Expr.Written, Expr.writtenAll]
    refine single 3 ⟨rfl, _, _, rfl, .refl _, .cons ⟨⟨rfl, rfl⟩, ⟨rfl, rfl⟩⟩ (.cons ⟨⟨rfl, rfl⟩, ?_⟩ .nil)⟩
    exact ⟨rfl, .cons ⟨rfl, rfl⟩ .nil⟩
  simp only [expr, Expr.Written]
  refine single 1 ⟨rfl, [_, _], _, rfl, .swap _ _ _, .cons ⟨⟨rfl, rfl⟩, written⟩ (.cons ⟨⟨rfl, rfl⟩, single 2 ?_⟩ .nil)⟩
  refine ⟨rfl, [_, _], _, rfl, .swap _ _ _, .cons ⟨⟨rfl, rfl⟩, ?_⟩ (.cons ⟨⟨rfl, rfl⟩, rfl⟩ .nil)⟩
  simpa only [Expr.Written] using written'

end RefinementTypes
