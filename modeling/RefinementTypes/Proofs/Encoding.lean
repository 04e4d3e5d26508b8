import Mathlib.Data.List.Nodup
import RefinementTypes.Proofs.Numerals
import RefinementTypes.Source.Decode

/-! How trees are written as nodes. `Written` says which nodes a tree may be written as: the order of keys in a mapping
is free, and texts may be quoted. Every tree that is well formed can be written. A reader of values is only asked to
read what is written this way (`Reader.Lawful`). -/

namespace RefinementTypes

open Source Yaml

def Literal.WellFormed : Literal → Prop
  | int value => InInt64 value
  | bool _ | string _ | regex _ => True

def Literal.Given (value : Option Literal) : Prop := ∃ literal, value = some literal ∧ literal.WellFormed

/-- No form is unknown, bounds have 64 bits, and no name is a word that stands for a type of its own. -/
def TypeExpr.WellFormed : TypeExpr → Prop
  | range low high => InInt64 low ∧ InInt64 high
  | arrow domain codomain => domain.WellFormed ∧ codomain.WellFormed
  | named name => name ∉ ["Bool", "Regex", "_", "invalid", ""]
  | bool | regex | string _ | wildcard | invalid | missing => True
  | foreign _ => False

/-- No form is unknown, and nothing is missing. -/
def Pat.WellFormed : Pat → Prop
  | lit value => Literal.Given value
  | apply func arg => func.WellFormed ∧ arg.WellFormed
  | wildcard | bind _ | constructor _ => True
  | foreign _ | missing => False

namespace Expr

mutual
/-- No form is unknown and nothing but a type is missing, operators are those of the table, and names are not empty. -/
def WellFormed : Expr → Prop
  | anno expr type => expr.WellFormed ∧ type.WellFormed
  | lam pat body => pat.WellFormed ∧ body.WellFormed
  | letElse pat bound thenBranch elseBranch =>
    pat.WellFormed ∧ bound.WellFormed ∧ thenBranch.WellFormed ∧ elseBranch.WellFormed
  | call func arg => func.WellFormed ∧ arg.WellFormed
  | lit value => Literal.Given value
  | name label => label ≠ ""
  | op operator args => operator ∈ Operator.table ∧ AllWellFormed args
  | impossible | invalid => True
  | foreign _ | missing => False

def AllWellFormed : List Expr → Prop
  | [] => True
  | expr :: rest => expr.WellFormed ∧ AllWellFormed rest
end

end Expr

namespace Source

/-- A text, quoted or not and with any tag. -/
structure IsText (text : String) (node : Node) : Prop where
  kind : node.kind = .scalar
  value : node.value = text

structure IsSequence (parts : List (Node → Prop)) (node : Node) : Prop where
  kind : node.kind = .sequence
  items : List.Forall₂ (fun part item => part item) parts node.content

/-- A mapping with these keys and values, in any order. -/
structure IsMapping (fields : List (String × (Node → Prop))) (node : Node) : Prop where
  kind : node.kind = .mapping
  fields : ∃ entries listed, node.content = Node.flattened entries ∧ listed.Perm entries ∧
    List.Forall₂ (fun field entry => IsText field.1 entry.1 ∧ field.2 entry.2) fields listed

/-- Integers and truth values are read from the words for them, and no integer that is read has more than 64 bits. -/
structure Reader.Lawful (reader : Reader) : Prop where
  int : ∀ {value node}, InInt64 value → Node.IsPlain (toString value) node → reader.int node = .some value
  bool : ∀ {value node}, Node.IsPlain (toString value) node → reader.bool node = .some value
  ints : ∀ {low high node}, InInt64 low → InInt64 high →
    IsSequence [Node.IsPlain (toString low), Node.IsPlain (toString high)] node → reader.ints node = .some [low, high]
  int_inInt64 : ∀ {node value}, (reader.int node).value = some value → InInt64 value
  ints_inInt64 : ∀ {node values}, (reader.ints node).value = some values → ∀ value ∈ values, InInt64 value

end Source

/-- The nodes that a literal is written as. -/
def Literal.Written : Literal → Node → Prop
  | bool value => IsMapping [("bool", Node.IsPlain (toString value))]
  | int value => IsMapping [("int", Node.IsPlain (toString value))]
  | string value => IsMapping [("string", IsText value)]
  | regex source => IsMapping [("regex", IsText source)]

def Literal.WrittenIn (value : Option Literal) : Node → Prop :=
  IsMapping [("lit", fun node => ∃ literal, value = some literal ∧ literal.Written node)]

def TypeExpr.Written : TypeExpr → Node → Prop
  | bool => IsText "Bool"
  | regex => IsText "Regex"
  | range low high => IsMapping [("range", IsSequence [Node.IsPlain (toString low), Node.IsPlain (toString high)])]
  | string pattern => IsMapping [("string", IsText pattern)]
  | arrow domain codomain => IsMapping [("arrow", IsSequence [domain.Written, codomain.Written])]
  | named name => IsText name
  | wildcard => IsText "_"
  | invalid => IsText "invalid"
  | missing => fun node => node.kind = .absent
  | foreign _ => fun _ => False

def Pat.Written : Pat → Node → Prop
  | wildcard => IsText "_"
  | bind name => IsMapping [("bind", IsText name)]
  | constructor name => IsMapping [("constructor", IsText name)]
  | lit value => Literal.WrittenIn value
  | apply func arg => IsMapping [("apply", IsSequence [func.Written, arg.Written])]
  | foreign _ | missing => fun _ => False

namespace Expr

mutual
def Written : Expr → Node → Prop
  | anno expr type => IsMapping [("anno", IsMapping [("expr", expr.Written), ("type", type.Written)])]
  | lam pat body => IsMapping [("fun", IsMapping [("pat", pat.Written), ("body", body.Written)])]
  | letElse pat bound thenBranch elseBranch =>
    IsMapping [("let", IsMapping [("pat", pat.Written), ("bound", bound.Written), ("then", thenBranch.Written),
      ("else", elseBranch.Written)])]
  | call func arg => IsMapping [("call", IsMapping [("func", func.Written), ("arg", arg.Written)])]
  | lit value => Literal.WrittenIn value
  | name label => IsMapping [("name", IsText label)]
  | op operator args =>
    IsMapping [("op", IsMapping [("kind", IsText operator.render), ("args", IsSequence (writtenAll args))])]
  | impossible => IsText "impossible"
  | invalid => IsText "invalid"
  | foreign _ | missing => fun _ => False

def writtenAll : List Expr → List (Node → Prop)
  | [] => []
  | expr :: rest => expr.Written :: writtenAll rest
end

end Expr

namespace Source

theorem depth_lt {node item : Node} (member : item ∈ node.content) : item.depth < node.depth := by
  obtain ⟨kind, line, tag, quoted, value, target, content⟩ := node
  rw [Node.depth]
  induction content with
  | nil => cases member
  | cons first rest ih =>
    rw [Node.depthOfAll]
    rcases List.mem_cons.mp member with rfl | later
    · exact Nat.le_max_left ..
    · exact Nat.le_trans (ih later) (Nat.le_max_right ..)

private theorem pairs_flattened (entries : List (Node × Node)) : Node.pairs (Node.flattened entries) = entries := by
  induction entries with
  | nil => rfl
  | cons entry rest ih => exact congrArg (entry :: ·) ih

private theorem mem_flattened {entries : List (Node × Node)} {entry : Node × Node} (member : entry ∈ entries) :
    entry.2 ∈ Node.flattened entries := List.mem_flatMap.mpr ⟨entry, member, by simp⟩

private theorem exists_related {α β : Type} {relation : α → β → Prop} {left : List α} {right : List β}
    (all : List.Forall₂ relation left right) {a : α} (member : a ∈ left) : ∃ b ∈ right, relation a b := by
  induction all with
  | nil => cases member
  | cons here _ ih =>
    rcases List.mem_cons.mp member with rfl | later
    · exact ⟨_, List.mem_cons_self, here⟩
    · obtain ⟨b, found, related⟩ := ih later
      exact ⟨b, List.mem_cons_of_mem _ found, related⟩

theorem IsMapping.single {key : String} {part : Node → Prop} {node : Node} {depth : Nat}
    (written : IsMapping [(key, part)] node) (deep : node.depth ≤ depth) :
    ∃ value less, depth = less + 1 ∧ Source.single node = .ok (key, value) ∧ part value ∧ value.depth ≤ less := by
  obtain ⟨entries, listed, content, same, fields⟩ := written.fields
  obtain ⟨entry, _, ⟨text, here⟩, none, rfl⟩ := List.forall₂_cons_left_iff.mp fields
  cases none
  obtain rfl := List.singleton_perm.mp same
  have key : entry.1.value = key := text.value
  have lower : entry.2.depth < depth :=
    Nat.lt_of_lt_of_le (depth_lt (content ▸ mem_flattened List.mem_cons_self)) deep
  cases depth with
  | zero => cases lower
  | succ less =>
    refine ⟨entry.2, less, rfl, ?_, here, Nat.le_of_lt_succ lower⟩
    simp only [Source.single, written.kind, content, ← key]
    rfl

/-- A form with several parts: each of them is found, wherever it stands. -/
theorem IsMapping.record {fields : List (String × (Node → Prop))} {node : Node} {depth : Nat}
    (written : IsMapping fields node) (deep : node.depth ≤ depth) (names : List String)
    (named : fields.map Prod.fst = names) (distinct : names.Nodup) :
    ∃ record, Record.ofNode names node = .ok record ∧
      fields.Forall fun field => ∃ value, record.get field.1 = .ok value ∧ field.2 value ∧ value.depth ≤ depth := by
  obtain ⟨entries, listed, content, same, all⟩ := written.fields
  subst named
  have paired : node.entries = entries := (congrArg Node.pairs content).trans (pairs_flattened entries)
  have known : ∀ entry ∈ entries, ∃ field ∈ fields, entry.1.value = field.1 ∧ field.2 entry.2 := by
    intro entry member
    obtain ⟨field, listed, text, part⟩ := exists_related all.flip (same.mem_iff.mpr member)
    exact ⟨field, listed, text.value, part⟩
  refine ⟨⟨node.line, entries⟩, ?_, List.forall_iff_forall_mem.mpr fun field member => ?_⟩
  · have allowed : entries.find? (fun entry => !(fields.map Prod.fst).contains entry.1.value) = none := by
      refine List.find?_eq_none.mpr fun entry member => ?_
      obtain ⟨field, listed, key, _⟩ := known entry member
      simp [key, List.mem_map_of_mem listed]
    rw [Record.ofNode, if_pos written.kind, paired, allowed]
  · obtain ⟨entry, there, text, _⟩ := exists_related all member
    cases found : entries.reverse.find? fun entry => entry.1.value = field.1 with
    | none =>
      have absent := List.find?_eq_none.mp found entry (List.mem_reverse.mpr (same.mem_iff.mp there))
      exact absurd (decide_eq_true text.value) absent
    | some last =>
      -- Keys are distinct, so what is found last under a key is the part that was written there.
      have inside := List.mem_reverse.mp (List.mem_of_find?_eq_some found)
      have chosen := List.find?_some found
      have key := of_decide_eq_true chosen
      obtain ⟨other, listed, key', part⟩ := known last inside
      obtain rfl := List.inj_on_of_nodup_map distinct listed member (key'.symm.trans key)
      have lower : last.2.depth < node.depth := depth_lt (content ▸ mem_flattened inside)
      refine ⟨last.2, ?_, part, Nat.le_trans (Nat.le_of_lt lower) deep⟩
      rw [Record.get, found]

theorem IsSequence.pair {first second : Node → Prop} {node : Node} {depth : Nat}
    (written : IsSequence [first, second] node) (deep : node.depth ≤ depth) :
    ∃ left right, Source.pair node = .ok (left, right) ∧ first left ∧ second right ∧
      left.depth ≤ depth ∧ right.depth ≤ depth := by
  obtain ⟨left, _, here, later, content⟩ := List.forall₂_cons_left_iff.mp written.items
  obtain ⟨right, _, here', none, rfl⟩ := List.forall₂_cons_left_iff.mp later
  cases none
  have shallow : ∀ item ∈ [left, right], item.depth ≤ depth :=
    fun item member => Nat.le_trans (Nat.le_of_lt (depth_lt (content ▸ member))) deep
  refine ⟨left, right, ?_, here, here', shallow left (by simp), shallow right (by simp)⟩
  simp only [Source.pair, written.kind, content]

private theorem exists_forall₂ {α β : Type} {relation : α → β → Prop} {left : List α}
    (each : left.Forall fun a => ∃ b, relation a b) : ∃ right, List.Forall₂ relation left right := by
  induction left with
  | nil => exact ⟨[], .nil⟩
  | cons a rest ih =>
    obtain ⟨⟨b, here⟩, others⟩ := List.forall_cons .. |>.mp each
    obtain ⟨right, all⟩ := ih others
    exact ⟨b :: right, .cons here all⟩

private theorem exists_sequence {parts : List (Node → Prop)} (each : parts.Forall fun part => ∃ item, part item) :
    ∃ node, IsSequence parts node := by
  obtain ⟨items, all⟩ := exists_forall₂ each
  exact ⟨.sequence 0 items, rfl, all⟩

private theorem exists_mapping {fields : List (String × (Node → Prop))}
    (each : fields.Forall fun field => ∃ value, field.2 value) : ∃ node, IsMapping fields node := by
  have entry (field : String × (Node → Prop)) (written : ∃ value, field.2 value) :
      ∃ entry : Node × Node, IsText field.1 entry.1 ∧ field.2 entry.2 := by
    obtain ⟨value, here⟩ := written
    exact ⟨(.scalar 0 false field.1, value), ⟨rfl, rfl⟩, here⟩
  obtain ⟨entries, all⟩ := exists_forall₂ (each.imp entry)
  exact ⟨.mapping 0 entries, rfl, entries, entries, rfl, .refl _, all⟩

private theorem exists_text (text : String) : ∃ node, IsText text node := ⟨.scalar 0 false text, rfl, rfl⟩

private theorem exists_plain (text : String) : ∃ node, Node.IsPlain text node :=
    ⟨.scalar 0 false text, rfl, rfl, rfl, rfl⟩

end Source

private theorem TypeExpr.WellFormed.exists_written {type : TypeExpr} (wellFormed : type.WellFormed) :
    ∃ node, type.Written node := by
  induction type with
  | bool | regex | named | wildcard | invalid => exact exists_text _
  | missing => exact ⟨.absent, rfl⟩
  | foreign => cases wellFormed
  | range low high => exact exists_mapping (exists_sequence ⟨exists_plain _, exists_plain _⟩)
  | string => exact exists_mapping (exists_text _)
  | arrow domain codomain left right => exact exists_mapping (exists_sequence ⟨left wellFormed.1, right wellFormed.2⟩)

private theorem Literal.Given.exists_written {value : Option Literal} (given : Literal.Given value) :
    ∃ node, Literal.WrittenIn value node := by
  obtain ⟨literal, rfl, _⟩ := given
  have written : ∃ node, literal.Written node := by
    cases literal with
    | bool | int => exact exists_mapping (exists_plain _)
    | string | regex => exact exists_mapping (exists_text _)
  obtain ⟨node, written⟩ := written
  exact exists_mapping ⟨node, literal, rfl, written⟩

private theorem Pat.WellFormed.exists_written {pat : Pat} (wellFormed : pat.WellFormed) : ∃ node, pat.Written node := by
  induction pat with
  | wildcard => exact exists_text _
  | bind | constructor => exact exists_mapping (exists_text _)
  | lit => exact Literal.Given.exists_written wellFormed
  | apply func arg left right => exact exists_mapping (exists_sequence ⟨left wellFormed.1, right wellFormed.2⟩)
  | foreign | missing => cases wellFormed

namespace Expr

mutual

theorem exists_written (expr : Expr) (wellFormed : expr.WellFormed) : ∃ node, expr.Written node := by
  cases expr with
  | anno expr type =>
    rw [WellFormed] at wellFormed
    simp only [Written]
    exact exists_mapping (exists_mapping ⟨exists_written expr wellFormed.1, wellFormed.2.exists_written⟩)
  | lam pat body =>
    rw [WellFormed] at wellFormed
    simp only [Written]
    exact exists_mapping (exists_mapping ⟨wellFormed.1.exists_written, exists_written body wellFormed.2⟩)
  | letElse pat bound thenBranch elseBranch =>
    rw [WellFormed] at wellFormed
    simp only [Written]
    exact exists_mapping (exists_mapping ⟨wellFormed.1.exists_written, exists_written bound wellFormed.2.1,
      exists_written thenBranch wellFormed.2.2.1, exists_written elseBranch wellFormed.2.2.2⟩)
  | call func arg =>
    rw [WellFormed] at wellFormed
    simp only [Written]
    exact exists_mapping (exists_mapping ⟨exists_written func wellFormed.1, exists_written arg wellFormed.2⟩)
  | lit value =>
    rw [WellFormed] at wellFormed
    simp only [Written]
    exact wellFormed.exists_written
  | name label =>
    simp only [Written]
    exact exists_mapping (exists_text _)
  | op operator args =>
    rw [WellFormed] at wellFormed
    simp only [Written]
    exact exists_mapping (exists_mapping ⟨exists_text _, exists_sequence (exists_writtenAll args wellFormed.2)⟩)
  | impossible | invalid =>
    simp only [Written]
    exact exists_text _
  | foreign | missing =>
    rw [WellFormed] at wellFormed
    cases wellFormed

theorem exists_writtenAll (exprs : List Expr) (wellFormed : AllWellFormed exprs) :
    (writtenAll exprs).Forall fun part => ∃ item, part item := by
  cases exprs with
  | nil =>
    rw [writtenAll]
    trivial
  | cons expr rest =>
    rw [AllWellFormed] at wellFormed
    rw [writtenAll, List.forall_cons]
    exact ⟨exists_written expr wellFormed.1, exists_writtenAll rest wellFormed.2⟩

end

end Expr

end RefinementTypes
