import RefinementTypes.Proofs.Assignability

/-! How deep comparisons go. From a variable a comparison goes on to its binding, from an arrow to its
parts. Bindings have no cycles, so neither of the two types that are compared leads through the same
variable twice, even though variables are bound on the way. The depth that a comparison is given is
therefore never used up: it fails only if the types are apart or would be infinite. -/

namespace RefinementTypes

open Relation (TransGen)

namespace Subst

/-- The binding of one variable refers to another. -/
def Refers (s : Subst) (id inner : Nat) : Prop := ∃ type, s.lookup id = some type ∧ inner ∈ type.vars

private theorem leads_mono {s more : Subst} (kept : ∀ id type, s.lookup id = some type → more.lookup id = some type)
    {id inner : Nat} (leads : TransGen s.Refers id inner) : TransGen more.Refers id inner := by
  have refers {id inner : Nat} (refers : s.Refers id inner) : more.Refers id inner := by
    obtain ⟨type, found, member⟩ := refers
    exact ⟨type, kept id type found, member⟩
  induction leads with
  | single first => exact .single (refers first)
  | tail _ last ih => exact .tail ih (refers last)

private theorem Acyclic.not_leads_self {s : Subst} (acyclic : s.Acyclic) (id : Nat) : ¬ TransGen s.Refers id id := by
  obtain ⟨rank, ranked⟩ := acyclic
  have lower {inner : Nat} (leads : TransGen s.Refers id inner) : rank inner < rank id := by
    induction leads with
    | single first =>
      obtain ⟨type, found, member⟩ := first
      exact ranked id type found _ member
    | @tail middle last _ refers ih =>
      obtain ⟨type, found, member⟩ := refers
      have below := ranked middle type found last member
      omega
  intro leads
  have below := lower leads
  omega

end Subst

/-- The variables of a type are among given ones, and its nodes are at most so many. -/
structure Ty.Within (vars : List Nat) (bulk : Nat) (type : Ty) : Prop where
  vars : ∀ id ∈ type.vars, id ∈ vars
  size : type.size ≤ bulk

namespace Ty.Within

variable {vars : List Nat} {bulk : Nat}

private theorem domain {domain codomain : Ty} (within : (arrow domain codomain).Within vars bulk) :
    domain.Within vars bulk := by
  have size := within.size
  simp only [Ty.size] at size
  exact ⟨fun id member => within.vars id (List.mem_append_left _ member), by omega⟩

private theorem codomain {domain codomain : Ty} (within : (arrow domain codomain).Within vars bulk) :
    codomain.Within vars bulk := by
  have size := within.size
  simp only [Ty.size] at size
  exact ⟨fun id member => within.vars id (List.mem_append_right _ member), by omega⟩

end Ty.Within

def Subst.Within (vars : List Nat) (bulk : Nat) (s : Subst) : Prop :=
  ∀ id type, s.lookup id = some type → type.Within vars bulk

/-- The variables that were passed on the way to a type. Each leads to every variable of the type. -/
structure Lineage (s : Subst) (vars passed : List Nat) (type : Ty) : Prop where
  once : passed.Nodup
  inside : ∀ id ∈ passed, id ∈ vars
  leads : ∀ id ∈ passed, ∀ inner ∈ type.vars, TransGen s.Refers id inner

/-- How many steps are left at most: a full binding for every variable that was not passed yet, and the
rest of the type at hand. -/
def reserve (vars : List Nat) (bulk : Nat) (passed : List Nat) (type : Ty) : Nat :=
  (vars.length - passed.length) * (bulk + 1) + type.size

namespace Lineage

variable {s more : Subst} {vars passed : List Nat} {bulk : Nat}

private theorem start (s : Subst) (vars : List Nat) (type : Ty) : Lineage s vars [] type :=
  ⟨List.nodup_nil, fun _ member => (by cases member), fun _ member => (by cases member)⟩

theorem mono {type : Ty} (lineage : Lineage s vars passed type)
    (kept : ∀ id type, s.lookup id = some type → more.lookup id = some type) :
    Lineage more vars passed type :=
  ⟨lineage.once, lineage.inside, fun id member inner inside =>
    Subst.leads_mono kept (lineage.leads id member inner inside)⟩

private theorem domain {domain codomain : Ty} (lineage : Lineage s vars passed (.arrow domain codomain)) :
    Lineage s vars passed domain :=
  ⟨lineage.once, lineage.inside, fun id member inner inside =>
    lineage.leads id member inner (List.mem_append_left _ inside)⟩

private theorem codomain {domain codomain : Ty} (lineage : Lineage s vars passed (.arrow domain codomain)) :
    Lineage s vars passed codomain :=
  ⟨lineage.once, lineage.inside, fun id member inner inside =>
    lineage.leads id member inner (List.mem_append_right _ inside)⟩

/-- A bound variable was not passed before, since it would lead to itself. -/
theorem follow {v : TyVar} {bound : Ty} (lineage : Lineage s vars passed (.var v)) (acyclic : s.Acyclic)
    (known : s.lookup v.id = some bound) (listed : v.id ∈ vars) : Lineage s vars (v.id :: passed) bound := by
  have arrives : ∀ id ∈ passed, TransGen s.Refers id v.id := fun id member =>
    lineage.leads id member v.id (by simp [Ty.vars])
  refine ⟨List.nodup_cons.mpr ⟨fun again => ?_, lineage.once⟩, ?_, ?_⟩
  · exact acyclic.not_leads_self v.id (arrives v.id again)
  · exact List.forall_mem_cons.mpr ⟨listed, lineage.inside⟩
  · intro id member inner inside
    have refers : s.Refers v.id inner := ⟨bound, known, inside⟩
    rcases List.mem_cons.mp member with rfl | old
    · exact .single refers
    · exact .tail (arrives id old) refers

private theorem reserve_follow {v : TyVar} {bound : Ty} (lineage : Lineage s vars (v.id :: passed) bound)
    (within : bound.Within vars bulk) :
    reserve vars bulk (v.id :: passed) bound < reserve vars bulk passed (.var v) := by
  have fewer : (v.id :: passed).length ≤ vars.length := lineage.once.length_le_of_subset lineage.inside
  have size := within.size
  obtain ⟨rest, same⟩ : ∃ rest, vars.length - passed.length = rest + 1 :=
    ⟨vars.length - (v.id :: passed).length, by simp only [List.length_cons] at fewer ⊢; omega⟩
  have same' : vars.length - (v.id :: passed).length = rest := by
    simp only [List.length_cons]
    omega
  simp only [reserve, same, same', Nat.succ_mul, Ty.size]
  omega

end Lineage

private theorem reserve_domain (vars : List Nat) (bulk : Nat) (passed : List Nat) (domain codomain : Ty) :
    reserve vars bulk passed domain < reserve vars bulk passed (.arrow domain codomain) := by
  simp only [reserve, Ty.size]
  omega

private theorem reserve_codomain (vars : List Nat) (bulk : Nat) (passed : List Nat) (domain codomain : Ty) :
    reserve vars bulk passed codomain < reserve vars bulk passed (.arrow domain codomain) := by
  simp only [reserve, Ty.size]
  omega

namespace Checking.Session

variable {α β : Type} {config : Config} {before : State} {vars : List Nat} {bulk : Nat}

/-- How a comparison may fail: the types are apart, or a variable would have to stand for a type that it
is part of. -/
inductive Incomparable : Failure → Prop
  | apart (expected found : Ty) : Incomparable (.refused ⟨.mismatch expected found, "", none⟩)
  | infinite (var : Nat) (type : Ty) : Incomparable (.refused ⟨.infinite var type, "", none⟩)

/-- However a step ends, its bindings are within bounds, and it fails only as a comparison may. -/
def Settled (vars : List Nat) (bulk : Nat) (step : Session α) (config : Config) (before : State) : Prop :=
  (step config before).2.subst.Within vars bulk ∧
    ∀ failure, (step config before).1 = .error failure → Incomparable failure

namespace Settled

theorem of_run {step other : Session α} (same : step config before = other config before)
    (settled : Settled vars bulk other config before) : Settled vars bulk step config before := by
  unfold Settled
  rw [same]
  exact settled

private theorem quiet {step : Session α} {good : α → Prop} (within : before.subst.Within vars bulk)
    (quiet : Quiet step config before good)
    (fails : ∀ failure, (step config before).1 = .error failure → Incomparable failure) :
    Settled vars bulk step config before := by
  refine ⟨?_, fails⟩
  rw [quiet.1.subst]
  exact within

private theorem bind {step : Session α} {next : α → Session β} (first : Settled vars bulk step config before)
    (rest : ∀ value middle, step config before = (.ok value, middle) → middle.subst.Within vars bulk →
      Settled vars bulk (next value) config middle) : Settled vars bulk (step >>= next) config before := by
  obtain ⟨within, fails⟩ := first
  unfold Settled
  rw [run_bind]
  generalize outcome : step config before = result at within fails
  obtain ⟨result, middle⟩ := result
  cases result with
  | error failure => exact ⟨within, fun other same => by cases same; exact fails failure rfl⟩
  | ok value => exact rest value middle outcome within

end Settled

private theorem postpone_settled (within : before.subst.Within vars bulk) (obligation : Obligation) :
    Settled vars bulk (postpone obligation) config before := by
  refine .bind ⟨within, fun _ failed => by cases failed⟩ fun _ middle _ within => ?_
  exact .quiet within (.trace _) fun _ failed => by cases failed

private theorem solveVar_settled (within : before.subst.Within vars bulk) {var : TyVar} {type : Ty}
    (free : before.subst.lookup var.id = none) (inside : type.Within vars bulk) :
    Settled vars bulk (solveVar var type) config before := by
  unfold Settled
  rcases solveVar_run free type config with ⟨_, run⟩ | ⟨_, after, run, alike⟩ <;> rw [run]
  · exact ⟨within, fun _ failed => by cases failed; exact .infinite _ _⟩
  · refine ⟨?_, fun _ failed => by cases failed⟩
    rw [alike.subst]
    intro id other found
    rw [Subst.lookup_insert] at found
    split at found
    next => cases found; exact inside
    next => exact within id other found

private theorem assignN_settled {depth : Nat} {expected found : Ty} {passed passed' : List Nat}
    (acyclic : before.subst.Acyclic) (within : before.subst.Within vars bulk)
    (left : expected.Within vars bulk) (right : found.Within vars bulk)
    (lineage : Lineage before.subst vars passed expected) (lineage' : Lineage before.subst vars passed' found)
    (enough : reserve vars bulk passed expected + reserve vars bulk passed' found < depth) :
    Settled vars bulk (assignN depth expected found) config before := by
  -- What is left of the depth is more than the reserves of both sides, and each rule uses up some reserve.
  induction depth generalizing expected found passed passed' before with
  | zero => omega
  | succ depth ih =>
    obtain ⟨step, rule, run⟩ := assignN_comparison depth expected found config before
    refine .of_run run.run ?_
    cases rule with
    | alike | bottom | reported => exact ⟨within, fun _ failed => by cases failed⟩
    | expectedBound known =>
      have next := lineage.follow acyclic known (left.vars _ (by simp [Ty.vars]))
      have less := next.reserve_follow (within _ _ known)
      exact ih acyclic within (within _ _ known) right next lineage' (by omega)
    | foundBound _ known =>
      have next := lineage'.follow acyclic known (right.vars _ (by simp [Ty.vars]))
      have less := next.reserve_follow (within _ _ known)
      exact ih acyclic within left (within _ _ known) lineage next (by omega)
    | bindExpected _ free => exact solveVar_settled within free right
    | bindFound _ free => exact solveVar_settled within free left
    | defer => exact postpone_settled within _
    | arrows domain codomain domain' codomain' =>
      have first := reserve_domain vars bulk passed domain codomain
      have first' := reserve_domain vars bulk passed' domain' codomain'
      have last := reserve_codomain vars bulk passed domain codomain
      have last' := reserve_codomain vars bulk passed' domain' codomain'
      refine .bind (ih acyclic within right.domain left.domain lineage'.domain lineage.domain (by omega)) ?_
      intro _ middle early within
      have grows := grows_of_run early
      -- The domains may have bound variables, but what has been passed still leads where it did.
      exact ih (grows.acyclic acyclic) within left.codomain right.codomain (lineage.codomain.mono grows.bindings)
        (lineage'.codomain.mono grows.bindings) (by omega)
    | clash => exact ⟨within, fun _ failed => by cases failed; exact .apart _ _⟩

end Checking.Session

section Bounds

variable {s : Subst} {id : Nat} {type : Ty}

def Subst.innerVars (s : Subst) : List Nat := s.bindings.flatMap fun binding => binding.2.vars

private theorem Ty.length_vars_le (type : Ty) : type.vars.length ≤ type.size := by
  induction type with
  | arrow domain codomain left right =>
    simp only [vars, List.length_append, size]
    omega
  | atom | var | missing => simp [vars, size]

private theorem Subst.length_innerVars_le (s : Subst) : s.innerVars.length ≤ s.weight := by
  obtain ⟨bindings⟩ := s
  unfold innerVars weight
  induction bindings with
  | nil => simp
  | cons binding rest ih =>
    have head := binding.2.length_vars_le
    simp only [List.flatMap_cons, List.length_append, List.foldr_cons] at ih ⊢
    omega

private theorem Subst.size_le_weight (found : s.lookup id = some type) : type.size ≤ s.weight := by
  have bounded : ∀ bindings : List (Nat × Ty), (id, type) ∈ bindings →
      type.size ≤ bindings.foldr (fun binding total => binding.2.size + 1 + total) 0 := by
    intro bindings member
    induction bindings with
    | nil => cases member
    | cons binding rest ih =>
      simp only [List.foldr_cons]
      rcases List.mem_cons.mp member with rfl | later
      · dsimp only
        omega
      · have tail := ih later
        omega
  exact bounded s.bindings (mem_of_lookup found)

end Bounds

namespace Checking.Session

variable {config : Config} {before : State} {expected found : Ty}

private theorem assign_settled (acyclic : before.subst.Acyclic) :
    Settled (expected.vars ++ found.vars ++ before.subst.innerVars)
      (expected.size + found.size + before.subst.weight) (assign expected found) config before := by
  unfold assign
  refine .of_run (read_bind _ _ _ _) ?_
  have shorter := expected.length_vars_le
  have shorter' := found.length_vars_le
  have shortest := before.subst.length_innerVars_le
  have within : before.subst.Within (expected.vars ++ found.vars ++ before.subst.innerVars)
      (expected.size + found.size + before.subst.weight) := by
    intro id type known
    have size := Subst.size_le_weight known
    refine ⟨fun inner member => List.mem_append_right _ ?_, by omega⟩
    exact List.mem_flatMap.mpr ⟨(id, type), Subst.mem_of_lookup known, member⟩
  refine assignN_settled acyclic within ⟨fun id member => ?_, by omega⟩ ⟨fun id member => ?_, by omega⟩
    (.start _ _ _) (.start _ _ _) ?_
  · exact List.mem_append_left _ (List.mem_append_left _ member)
  · exact List.mem_append_left _ (List.mem_append_right _ member)
  · simp only [reserve, assignDepth, List.length_append, List.length_nil, Nat.sub_zero]
    generalize total : expected.size + found.size + before.subst.weight = bulk
    have most : expected.vars.length + found.vars.length + before.subst.innerVars.length ≤ bulk := by omega
    have product := Nat.mul_le_mul_right (bulk + 1) most
    have square : (bulk + 1) * (bulk + 1) = bulk * (bulk + 1) + (bulk + 1) := Nat.succ_mul _ _
    rw [Nat.mul_assoc]
    omega

/-- A comparison under bindings without cycles fails only if the types are apart or would be infinite. -/
theorem assign_incomparable (acyclic : before.subst.Acyclic) {failure : Failure}
    (failed : (assign expected found config before).1 = .error failure) : Incomparable failure :=
  (assign_settled acyclic).2 failure failed

end Checking.Session

end RefinementTypes
