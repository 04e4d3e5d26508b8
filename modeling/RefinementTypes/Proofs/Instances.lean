import RefinementTypes.Proofs.Footprints

/-! Instances of templates. An instance is a copy of what the template has come to: parameters are
replaced, and every place of an unbound variable gets a variable of its own, which is tied to the
unbound one. As long as bindings have no cycles this is all that making an instance does. -/

namespace RefinementTypes

namespace Ty

def rename (replace : String → Ty) : Ty → Ty
  | arrow domain codomain => arrow (domain.rename replace) (codomain.rename replace)
  | atom (.named name) => replace name
  | atom a => atom a
  | var v => var v
  | missing => missing

/-- Replaces parameters, and variables by those from a number on. -/
def copy (params : List (String × Ty)) (next : Nat) : Ty → Ty
  | arrow domain codomain => arrow (domain.copy params next) (codomain.copy params (next + domain.vars.length))
  | atom (.named name) => (params.lookup name).getD (atom (.named name))
  | atom a => atom a
  | var _ => var ⟨next, .mutable⟩
  | missing => missing

def replacement (params : List (String × Ty)) (assigned : Assignment) (name : String) : Ty :=
  ((params.lookup name).getD (atom (.named name))).image assigned

end Ty

namespace Checking

/-- The obligations that tie the variables of a copy to those that they were made for. -/
def copies (params : List (String × Ty)) (next : Nat) : Ty → List Obligation
  | .arrow domain codomain => copies params next domain ++ copies params (next + domain.vars.length) codomain
  | .var v => [.instantiated params ⟨next, .mutable⟩ v]
  | .atom _ | .missing => []

theorem mem_copies {params : List (String × Ty)} {next : Nat} {type : Ty} {obligation : Obligation}
    (member : obligation ∈ copies params next type) :
    ∃ fresh generic, obligation = .instantiated params fresh generic ∧ next ≤ fresh.id ∧
      fresh.id < next + type.vars.length ∧ generic.id ∈ type.vars := by
  induction type generalizing next with
  | arrow domain codomain left right =>
    simp only [Ty.vars, List.length_append, List.mem_append]
    rcases List.mem_append.mp member with first | second
    · obtain ⟨fresh, generic, same, least, less, inside⟩ := left first
      exact ⟨fresh, generic, same, least, by omega, .inl inside⟩
    · obtain ⟨fresh, generic, same, least, less, inside⟩ := right second
      exact ⟨fresh, generic, same, by omega, by omega, .inr inside⟩
  | var v =>
    cases List.mem_singleton.mp member
    exact ⟨_, _, rfl, Nat.le_refl _, Nat.lt_succ_self _, List.mem_singleton.mpr rfl⟩
  | atom | missing => cases member

/-- Parameters with the variables from a number on; of parameters with one name the last counts. -/
def paramsFrom (next : Nat) : List String → List (String × Ty)
  | [] => []
  | param :: rest =>
    let others := paramsFrom (next + 1) rest
    if others.any fun other => other.1 = param then others else (param, .var ⟨next, .mutable⟩) :: others

theorem mem_paramsFrom {next : Nat} {params : List String} {param : String × Ty}
    (member : param ∈ paramsFrom next params) :
    param.1 ∈ params ∧ ∃ v : TyVar, param.2 = .var v ∧ next ≤ v.id ∧ v.id < next + params.length := by
  induction params generalizing next with
  | nil => cases member
  | cons first rest ih =>
    have later (member : param ∈ paramsFrom (next + 1) rest) : param.1 ∈ first :: rest ∧
        ∃ v : TyVar, param.2 = .var v ∧ next ≤ v.id ∧ v.id < next + (first :: rest).length := by
      obtain ⟨listed, v, same, least, less⟩ := ih member
      refine ⟨List.mem_cons_of_mem _ listed, v, same, ?_, ?_⟩
      · omega
      · rw [List.length_cons]
        omega
    unfold paramsFrom at member
    dsimp only at member
    split at member
    next => exact later member
    next =>
      rcases List.mem_cons.mp member with rfl | old
      · refine ⟨List.mem_cons_self, _, rfl, Nat.le_refl _, ?_⟩
        exact Nat.lt_add_of_pos_right (Nat.succ_pos _)
      · exact later old

/-- Where every variable of a copy stands for an instance of what it was made for, the copy stands for an
instance of the type. -/
theorem image_copy {assigned : Assignment} {params : List (String × Ty)} {next : Nat} {type : Ty}
    (tied : ∀ fresh generic, Obligation.instantiated params fresh generic ∈ copies params next type →
      assigned fresh.id = (assigned generic.id).rename (Ty.replacement params assigned)) :
    (type.copy params next).image assigned = (type.image assigned).rename (Ty.replacement params assigned) := by
  induction type generalizing next with
  | arrow domain codomain left right =>
    simp only [Ty.copy, Ty.image, Ty.rename]
    rw [left fun fresh generic member => tied fresh generic (List.mem_append_left _ member),
      right fun fresh generic member => tied fresh generic (List.mem_append_right _ member)]
  | var v => exact tied ⟨next, .mutable⟩ v List.mem_cons_self
  | atom a => cases a <;> rfl
  | missing => rfl

namespace Session

variable {config : Config} {before : State} {params : List (String × Ty)}

theorem freshParams_run (params : List String) (config : Config) (before : State) :
    freshParams params config before =
      (.ok (paramsFrom before.nextVar params), { before with nextVar := before.nextVar + params.length }) := by
  induction params generalizing before with
  | nil => rfl
  | cons param rest ih =>
    have fresh : freshVar .mutable config before =
      (.ok ⟨before.nextVar, .mutable⟩, { before with nextVar := before.nextVar + 1 }) := rfl
    unfold freshParams
    rw [bind_run fresh, bind_run (ih _), List.length_cons, Nat.add_comm rest.length, ← Nat.add_assoc]
    rfl

/-- A step returns the copy of a type and leaves the obligations of the copy; it does nothing else. -/
def Copies (params : List (String × Ty)) (step : Session Ty) (config : Config) (before : State) (type : Ty) :
    Prop :=
  ∃ after, step config before = (.ok (type.copy params before.nextVar), after) ∧
    State.Alike
      { before with
        nextVar := before.nextVar + type.vars.length
        worklist := before.worklist ++ copies params before.nextVar type } after

private theorem instanceWith_copies {follow : Ty → Session Ty} {resolve : Ty → Ty} {s : Subst} (type : Ty)
    (bound : ∀ id ∈ type.vars, ∀ inner, s.lookup id = some inner → ∀ before : State, before.subst = s →
      Copies params (follow inner) config before (resolve inner))
    (same : before.subst = s) :
    Copies params (instanceWith params follow type) config before (s.expand resolve type) := by
  induction type generalizing before with
  | arrow domain codomain left right =>
    simp only [Ty.vars, List.mem_append] at bound
    obtain ⟨middle, first, alike⟩ := left (fun id member => bound id (.inl member)) same
    obtain ⟨after, second, alike'⟩ :=
      right (fun id member => bound id (.inr member)) (alike.subst.trans same)
    refine ⟨after, ?_, ?_⟩
    · unfold instanceWith
      rw [bind_run first, bind_run second, alike.nextVar]
      rfl
    · refine State.Alike.trans ⟨?_, ?_, ?_, ?_, ?_, ?_, ?_⟩ alike'
      · simp [alike.nextVar, Subst.expand, Ty.vars, Nat.add_assoc]
      · exact alike.scope
      · exact alike.subst
      · simp [alike.nextVar, alike.worklist, Subst.expand, copies]
      · exact alike.store
      · exact alike.memo
      · exact alike.cache
  | var v =>
    unfold instanceWith
    cases found : s.lookup v.id with
    | some inner =>
      obtain ⟨after, run, alike⟩ := bound v.id (by simp [Ty.vars]) inner found before same
      refine ⟨after, ?_, ?_⟩
      · rw [read_bind, same, found]
        simpa [Subst.expand, found] using run
      · simpa [Subst.expand, found] using alike
    | none =>
      obtain ⟨after, run, alike⟩ := postpone_run (.instantiated params ⟨before.nextVar, .mutable⟩ v) config
        { before with nextVar := before.nextVar + 1 }
      refine ⟨after, ?_, ?_⟩
      · rw [read_bind, same, found]
        have fresh : freshVar .mutable config before =
          (.ok ⟨before.nextVar, .mutable⟩, { before with nextVar := before.nextVar + 1 }) := rfl
        simp only [Subst.expand, found]
        rw [bind_run fresh, bind_run run]
        rfl
      · simpa [Subst.expand, found, copies, Ty.vars] using alike
  | atom a =>
    refine ⟨before, ?_, ?_⟩
    · cases a <;> rfl
    · simpa [Subst.expand, copies, Ty.vars] using State.Alike.refl before
  | missing => exact ⟨before, rfl, by simpa [Subst.expand, copies, Ty.vars] using State.Alike.refl before⟩

private theorem instanceN_copies {steps : Nat} {type : Ty} (settled : before.subst.Settles steps type) :
    Copies params (instanceN params (steps + 1) type) config before (before.subst.applyN steps type) := by
  generalize same : before.subst = s at settled ⊢
  induction steps generalizing type before with
  | zero =>
    have free : s.expand id type = type := s.expand_unbound id type settled
    have copied : Copies params (instanceWith params (instanceN params 0) type) config before (s.expand id type) := by
      refine instanceWith_copies type (fun id member inner found => ?_) same
      rw [settled id member] at found
      cases found
    rwa [free] at copied
  | succ steps ih =>
    refine instanceWith_copies type (fun id member inner found before same => ?_) same
    exact ih same (settled id member inner found)

/-- An instance is made of what the type has come to. -/
theorem instanceOf_copies (acyclic : before.subst.Acyclic) (params : List (String × Ty)) (type : Ty) :
    Copies params (instanceOf params type) config before (before.subst.apply type) :=
  instanceN_copies (acyclic.settles type)

end Session

end Checking

end RefinementTypes
