import RefinementTypes.Proofs.Instances
import RefinementTypes.Proofs.Ownership

/-! Instances are fresh copies. All variables of an instance are new and may be bound by the place that refers to the
template; each was made for a parameter or is tied to a variable of what the template has come to. Putting these back
for the new variables gives that type again, so nothing was merged, lost or captured. -/

namespace RefinementTypes

/-- The references to variables in a type with their tags, from left to right. -/
def Ty.references : Ty → List TyVar
  | arrow domain codomain => domain.references ++ codomain.references
  | var v => [v]
  | atom _ | missing => []

private theorem Ty.map_id_references (type : Ty) : type.references.map TyVar.id = type.vars := by
  induction type with
  | arrow domain codomain left right => rw [references, List.map_append, left, right, vars]
  | atom | var | missing => rfl

/-- Variables that are listed are replaced by what they are listed with, and others are kept. -/
def restore (origins : List (Nat × Ty)) : Assignment := fun id => (origins.lookup id).getD (.var ⟨id, .mutable⟩)

private theorem restore_mem {origins : List (Nat × Ty)} (distinct : (origins.map Prod.fst).Nodup) {id : Nat}
    {origin : Ty} (member : (id, origin) ∈ origins) : restore origins id = origin := by
  unfold restore
  rw [(lookup_eq_some_iff_mem distinct).mpr member]
  rfl

namespace Checking

/-- The variable that stands for an instance, with the variable that it is an instance of. -/
def Obligation.origin : Obligation → List (Nat × Ty)
  | instantiated _ fresh generic => [(fresh.id, .var generic)]
  | conforms _ _ | assignable _ _ => []

/-- What the variables of an instance were made for: numbered parameters, and variables to which they are tied. -/
def origins (params : List (String × Nat)) (ties : List Obligation) : List (Nat × Ty) :=
  params.map (fun param => (param.2, .atom (.named param.1))) ++ ties.flatMap Obligation.origin

def paramVars (params : List (String × Nat)) : List (String × Ty) :=
  params.map fun param => (param.1, .var ⟨param.2, .mutable⟩)

private theorem paramsFrom_distinct {params : List String} (distinct : params.Nodup) (next : Nat) :
    paramsFrom next params = paramVars (params.zipIdx next) := by
  induction params generalizing next with
  | nil => rfl
  | cons param rest ih =>
    obtain ⟨new, distinct⟩ := List.nodup_cons.mp distinct
    have absent : ¬ ((paramsFrom (next + 1) rest).any fun other => other.1 = param) = true := by
      rw [List.any_eq_true]
      rintro ⟨other, member, same⟩
      exact new (of_decide_eq_true same ▸ (mem_paramsFrom member).1)
    rw [paramsFrom, if_neg absent, ih distinct]
    rfl

variable {params : List (String × Ty)} {next : Nat} {type : Ty}

private theorem copies_numbered (params : List (String × Ty)) (next : Nat) (type : Ty) :
    ((copies params next type).flatMap Obligation.origin).map Prod.fst = List.range' next type.vars.length := by
  induction type generalizing next with
  | arrow domain codomain left right =>
    rw [copies, List.flatMap_append, List.map_append, left, right, Ty.vars, List.length_append, List.range'_append_1]
  | atom | var | missing => rfl

private theorem origins_numbered (params : List String) (next : Nat) (others : List (String × Ty)) (type : Ty) :
    (origins (params.zipIdx next) (copies others (next + params.length) type)).map Prod.fst =
      List.range' next (params.length + type.vars.length) := by
  have numbers : ((params.zipIdx next).map fun param => (param.2, Ty.atom (.named param.1))).map Prod.fst =
      List.range' next params.length := by
    rw [List.map_map, ← List.zipIdx_map_snd next params]
    rfl
  rw [origins, List.map_append, numbers, copies_numbered, List.range'_append_1]

private theorem mem_references_copy {v : TyVar} (inside : v ∈ (type.copy params next).references) :
    (∃ param ∈ params, v ∈ param.2.references) ∨
      v.mutability = .mutable ∧ next ≤ v.id ∧ v.id < next + type.vars.length := by
  induction type generalizing next with
  | arrow domain codomain left right =>
    simp only [Ty.vars, List.length_append]
    rcases List.mem_append.mp inside with first | second
    · refine (left first).imp_right fun fresh => ⟨fresh.1, fresh.2.1, ?_⟩
      omega
    · refine (right second).imp_right fun fresh => ⟨fresh.1, ?_, ?_⟩ <;> omega
  | var w =>
    cases List.mem_singleton.mp inside
    exact .inr ⟨rfl, Nat.le_refl _, Nat.lt_succ_self _⟩
  | atom a =>
    cases a with
    | named name =>
      rw [Ty.copy] at inside
      cases found : params.lookup name with
      | none =>
        rw [found] at inside
        cases inside
      | some bound =>
        rw [found] at inside
        exact .inl ⟨(name, bound), mem_of_lookup_eq found, inside⟩
    | bottom | bool | regex | range | string | error => cases inside
  | missing => cases inside

private theorem references_of_tie {fresh original : TyVar}
    (member : Obligation.instantiated params fresh original ∈ copies params next type) :
    fresh ∈ (type.copy params next).references ∧ original ∈ type.references := by
  induction type generalizing next with
  | arrow domain codomain left right =>
    rcases List.mem_append.mp member with first | second
    · exact (left first).imp (List.mem_append_left _) (List.mem_append_left _)
    · exact (right second).imp (List.mem_append_right _) (List.mem_append_right _)
  | var v =>
    cases List.mem_singleton.mp member
    exact ⟨List.mem_singleton.mpr rfl, List.mem_singleton.mpr rfl⟩
  | atom | missing => cases member

private theorem not_mem_names_copy {name : String} (replaced : name ∈ params.map Prod.fst)
    (areVars : ∀ param ∈ params, ∃ v, param.2 = .var v) : name ∉ (type.copy params next).names := by
  induction type generalizing next with
  | arrow domain codomain left right =>
    intro inside
    rcases List.mem_append.mp inside with first | second
    · exact left first
    · exact right second
  | atom a =>
    cases a with
    | named other =>
      rw [Ty.copy]
      cases found : params.lookup other with
      | none =>
        intro inside
        cases List.mem_singleton.mp inside
        obtain ⟨param, member, rfl⟩ := List.mem_map.mp replaced
        simpa using List.lookup_eq_none_iff.mp found param member
      | some bound =>
        obtain ⟨v, same⟩ := areVars (other, bound) (mem_of_lookup_eq found)
        cases same
        exact List.not_mem_nil
    | bottom | bool | regex | range | string | error => exact List.not_mem_nil
  | var | missing => exact List.not_mem_nil

/-- Where parameters and ties are undone, a copy becomes the type that it was made of. -/
theorem image_copy_origin {assigned : Assignment}
    (named : ∀ name bound, params.lookup name = some bound → bound.image assigned = .atom (.named name))
    (tied : ∀ fresh generic, Obligation.instantiated params fresh generic ∈ copies params next type →
      assigned fresh.id = .var generic) : (type.copy params next).image assigned = type := by
  induction type generalizing next with
  | arrow domain codomain left right =>
    simp only [Ty.copy, Ty.image]
    rw [left fun fresh generic member => tied fresh generic (List.mem_append_left _ member),
      right fun fresh generic member => tied fresh generic (List.mem_append_right _ member)]
  | var v => exact tied ⟨next, .mutable⟩ v List.mem_cons_self
  | atom a =>
    cases a with
    | named name =>
      rw [Ty.copy]
      cases found : params.lookup name with
      | none => rfl
      | some bound => exact named name bound found
    | bottom | bool | regex | range | string | error => rfl
  | missing => rfl

section Copy

variable {names : List String}

def freshCopy (names : List String) (next : Nat) (type : Ty) : Ty :=
  type.copy (paramVars (names.zipIdx next)) (next + names.length)

/-- The obligations that tie such a copy to the type. -/
def freshTies (names : List String) (next : Nat) (type : Ty) : List Obligation :=
  copies (paramVars (names.zipIdx next)) (next + names.length) type

private theorem mem_paramVars {params : List (String × Nat)} {param : String × Ty} (member : param ∈ paramVars params) :
    ∃ number, (param.1, number) ∈ params ∧ param.2 = .var ⟨number, .mutable⟩ := by
  obtain ⟨entry, listed, rfl⟩ := List.mem_map.mp member
  exact ⟨entry.2, listed, rfl⟩

private theorem freshCopy_references {v : TyVar} (inside : v ∈ (freshCopy names next type).references) :
    v.mutability = .mutable ∧ next ≤ v.id ∧ v.id < next + names.length + type.vars.length := by
  rcases mem_references_copy inside with ⟨param, member, here⟩ | ⟨owned, least, less⟩
  · obtain ⟨number, listed, same⟩ := mem_paramVars member
    rw [same] at here
    cases List.mem_singleton.mp here
    obtain ⟨least, less, _⟩ := List.mem_zipIdx listed
    exact ⟨rfl, least, by dsimp only; omega⟩
  · exact ⟨owned, by omega, less⟩

private theorem freshCopy_names {name : String} (listed : name ∈ names) : name ∉ (freshCopy names next type).names := by
  refine not_mem_names_copy ?_ fun param member => ?_
  · have keys : (paramVars (names.zipIdx next)).map Prod.fst = names := by
      rw [paramVars, List.map_map]
      exact List.zipIdx_map_fst next names
    rw [keys]
    exact listed
  · obtain ⟨number, _, same⟩ := mem_paramVars member
    exact ⟨_, same⟩

private theorem freshCopy_distinct :
    ((origins (names.zipIdx next) (freshTies names next type)).map Prod.fst).Nodup := by
  unfold freshTies
  rw [origins_numbered]
  exact List.nodup_range'

private theorem freshCopy_restored :
    (freshCopy names next type).image (restore (origins (names.zipIdx next) (freshTies names next type))) = type := by
  refine image_copy_origin (fun name bound found => ?_) fun fresh generic member => ?_
  · obtain ⟨number, listed, same⟩ := mem_paramVars (mem_of_lookup_eq found)
    cases same
    exact restore_mem freshCopy_distinct (List.mem_append_left _ (List.mem_map.mpr ⟨_, listed, rfl⟩))
  · refine restore_mem freshCopy_distinct (List.mem_append_right _ (List.mem_flatMap.mpr ⟨_, member, ?_⟩))
    exact List.mem_singleton.mpr rfl

end Copy

namespace Session

variable {config : Config} {before : State}

/-- The instance of a template with parameters is a copy of what the template has come to, which is tied to it. Making
it changes nothing else. -/
theorem instantiate_run (config : Config) (acyclic : before.subst.Acyclic) (name : String) {template : Template}
    (generic : template.params ≠ []) (distinct : template.params.Nodup) :
    let general := before.subst.apply template.type
    ∃ after,
      instantiate name template config before = (.ok (freshCopy template.params before.nextVar general), after) ∧
        State.Alike
          { before with
            nextVar := before.nextVar + template.params.length + general.vars.length
            worklist := before.worklist ++ freshTies template.params before.nextVar general } after := by
  intro general
  have issued := freshParams_run template.params config before
  rw [paramsFrom_distinct distinct] at issued
  let paired : State := { before with nextVar := before.nextVar + template.params.length }
  have acyclic' : paired.subst.Acyclic := acyclic
  obtain ⟨middle, made, alike⟩ : Copies _ _ config paired general :=
    instanceOf_copies acyclic' (paramVars (template.params.zipIdx before.nextVar)) template.type
  unfold instantiate
  rw [if_neg (by simpa using generic), bind_run issued, bind_run made]
  obtain ⟨after, reported, alike'⟩ := trace_run (fun state =>
    "instantiate " ++ name ++ " : " ++ (state.subst.apply template.type).render ++ " as " ++
      (state.subst.apply (freshCopy template.params before.nextVar general)).render) config middle
  refine ⟨after, ?_, alike.trans alike'⟩
  exact bind_run reported

/-- A reference to a template with parameters gets a fresh renaming of what the template has come to. Its variables are
new and mutable, nothing is bound, and obligations are added only to tie some of them, all different, to variables of
that type. Putting every parameter in the place of its variable, and every variable in the place of the one that is tied
to it, undoes the renaming; no parameter is left in it. So whenever the template is referred to again, the two instances
have no variable in common. -/
theorem instantiate_renames (config : Config) (before : State) (name : String) (template : Template)
    (acyclic : before.subst.Acyclic) (generic : template.params ≠ []) (distinct : template.params.Nodup) :
    let general := before.subst.apply template.type
    let numbered := template.params.zipIdx before.nextVar
    ∃ made after ties, instantiate name template config before = (.ok made, after) ∧
      after.subst = before.subst ∧ after.worklist = before.worklist ++ ties ∧
      (∀ v ∈ made.references, v.mutability = .mutable ∧ before.nextVar ≤ v.id ∧ v.id < after.nextVar) ∧
      (∀ tie ∈ ties, ∃ fresh original, tie = .instantiated (paramVars numbered) fresh original ∧
        fresh ∈ made.references ∧ original ∈ general.references) ∧
      ((origins numbered ties).map Prod.fst).Nodup ∧ made.image (restore (origins numbered ties)) = general ∧
      (∀ param ∈ template.params, param ∉ made.names) ∧
      ∀ later made' after', later.subst.Acyclic → after.nextVar ≤ later.nextVar →
        instantiate name template config later = (.ok made', after') → ∀ id ∈ made.vars, id ∉ made'.vars := by
  intro general numbered
  obtain ⟨after, run, alike⟩ := instantiate_run config acyclic name generic distinct
  have issued : after.nextVar = before.nextVar + template.params.length + general.vars.length := alike.nextVar
  have fresh : ∀ v ∈ (freshCopy template.params before.nextVar general).references,
      v.mutability = .mutable ∧ before.nextVar ≤ v.id ∧ v.id < after.nextVar := by
    intro v inside
    rw [issued]
    exact freshCopy_references inside
  refine ⟨_, after, _, run, alike.subst, alike.worklist, fresh, fun tie member => ?_, freshCopy_distinct,
    freshCopy_restored, fun param listed => freshCopy_names listed, ?_⟩
  · obtain ⟨fresh, original, rfl, _⟩ := mem_copies member
    exact ⟨fresh, original, rfl, references_of_tie member⟩
  · intro later made' after' acyclic' beyond again id inside inside'
    obtain ⟨_, run', _⟩ := instantiate_run config acyclic' name generic distinct
    rw [again] at run'
    cases run'
    rw [← Ty.map_id_references, List.mem_map] at inside inside'
    obtain ⟨v, inside, rfl⟩ := inside
    obtain ⟨w, inside', same⟩ := inside'
    have less := (fresh v inside).2.2
    have least := (freshCopy_references inside').2.1
    omega

/-- The template refers to one unbound variable twice, once through a chain of bindings and with different tags. Each
reference gets a variable of its own, and the tags come back with the variable. -/
theorem instantiate_renames_chained :
    let template : Template :=
      ⟨["a", "b"], .arrow (.atom (.named "a")) (.arrow (.var ⟨0, .immutable⟩) (.atom (.named "b")))⟩
    let before : State :=
      { State.fresh .empty with
        nextVar := 3
        subst := (Subst.empty.insert 2 (.var ⟨1, .immutable⟩)).insert 0
          (.arrow (.var ⟨2, .mutable⟩) (.var ⟨1, .mutable⟩)) }
    let config : Config := ⟨id, .regular, true, false, 8⟩
    before.subst.Acyclic ∧ template.params ≠ [] ∧ template.params.Nodup ∧
      ∃ made after ties, instantiate "f" template config before = (.ok made, after) ∧
        made = .arrow (.var ⟨3, .mutable⟩)
          (.arrow (.arrow (.var ⟨5, .mutable⟩) (.var ⟨6, .mutable⟩)) (.var ⟨4, .mutable⟩)) ∧
        made.image (restore (origins [("a", 3), ("b", 4)] ties)) = .arrow (.atom (.named "a"))
          (.arrow (.arrow (.var ⟨1, .immutable⟩) (.var ⟨1, .mutable⟩)) (.atom (.named "b"))) := by
  intro template before config
  have acyclic : before.subst.Acyclic := (Subst.acyclic_empty.insert (by decide)).insert (by decide)
  have generic : template.params ≠ [] := by simp [template]
  have distinct : template.params.Nodup := by simp [template]
  obtain ⟨made, after, ties, run, _, _, _, _, _, restored, _⟩ :=
    instantiate_renames config before "f" template acyclic generic distinct
  have shown : (instantiate "f" template config before).1.toOption = some (.arrow (.var ⟨3, .mutable⟩)
      (.arrow (.arrow (.var ⟨5, .mutable⟩) (.var ⟨6, .mutable⟩)) (.var ⟨4, .mutable⟩))) := by decide +kernel
  rw [run] at shown
  exact ⟨acyclic, generic, distinct, made, after, ties, run, Option.some.inj shown, restored⟩

end Session

end Checking

end RefinementTypes
