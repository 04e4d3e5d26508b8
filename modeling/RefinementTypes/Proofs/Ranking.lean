import RefinementTypes.Types.Subst

/-! Bindings without cycles. A ranking of the variables bounds how long bindings can be followed, so
the number of bindings is enough steps, and what follows bindings satisfies the equations it would
have with no bound on its steps. A binding that passes the occurs check leaves a ranking. -/

namespace RefinementTypes

theorem lookup_cons_ite {κ α : Type} [DecidableEq κ] (key name : κ) (value : α) (rest : List (κ × α)) :
    ((name, value) :: rest).lookup key = if key = name then some value else rest.lookup key := by
  rw [List.lookup_cons]
  by_cases same : key = name
  · simp [same]
  · simp [same, beq_eq_false_iff_ne.mpr same]

theorem lookup_mapSnd {κ α β : Type} [DecidableEq κ] (view : α → β) (entries : List (κ × α)) (key : κ) :
    (entries.map fun entry => (entry.1, view entry.2)).lookup key = (entries.lookup key).map view := by
  induction entries with
  | nil => rfl
  | cons entry rest ih =>
    rw [List.map_cons, lookup_cons_ite, lookup_cons_ite, ih]
    split <;> rfl

theorem mem_of_lookup_eq {κ α : Type} [DecidableEq κ] {key : κ} {value : α} {entries : List (κ × α)}
    (found : entries.lookup key = some value) : (key, value) ∈ entries := by
  obtain ⟨first, last, split, _⟩ := List.lookup_eq_some_iff.mp found
  simp [split]

theorem lookup_eq_some_iff_mem {κ α : Type} [DecidableEq κ] {entries : List (κ × α)}
    (distinct : (entries.map Prod.fst).Nodup) {key : κ} {value : α} :
    entries.lookup key = some value ↔ (key, value) ∈ entries := by
  refine ⟨mem_of_lookup_eq, fun member => ?_⟩
  induction entries with
  | nil => cases member
  | cons entry rest ih =>
    obtain ⟨first, held⟩ := entry
    obtain ⟨new, distinct⟩ := List.nodup_cons.mp distinct
    rw [lookup_cons_ite]
    rcases List.mem_cons.mp member with same | later
    · cases same
      rw [if_pos rfl]
    · have other : key ≠ first := fun same => new (List.mem_map.mpr ⟨_, later, same⟩)
      rw [if_neg other, ih distinct later]

namespace Ty

def vars : Ty → List Nat
  | arrow domain codomain => domain.vars ++ codomain.vars
  | var v => [v.id]
  | atom _ | missing => []

end Ty

namespace Subst

variable {s : Subst} {id : Nat} {type : Ty}

theorem lookup_insert (s : Subst) (id : Nat) (type : Ty) (other : Nat) :
    (s.insert id type).lookup other = if other = id then some type else s.lookup other :=
  lookup_cons_ite other id type s.bindings

theorem mem_of_lookup (found : s.lookup id = some type) : (id, type) ∈ s.bindings :=
  mem_of_lookup_eq found

private theorem size_pos_of_lookup (found : s.lookup id = some type) : 0 < s.size :=
  List.length_pos_of_mem (mem_of_lookup found)

def Distinct (s : Subst) : Prop := (s.bindings.map Prod.fst).Nodup

theorem Distinct.insert (distinct : s.Distinct) (free : s.lookup id = none) : (s.insert id type).Distinct := by
  refine List.nodup_cons.mpr ⟨fun again => ?_, distinct⟩
  obtain ⟨binding, member, same⟩ := List.mem_map.mp again
  have different := List.lookup_eq_none_iff.mp free binding member
  simp [same] at different

theorem lookup_iff_mem (distinct : s.Distinct) : s.lookup id = some type ↔ (id, type) ∈ s.bindings :=
  lookup_eq_some_iff_mem distinct

/-- Variables can be ranked so that each ranks above those in its binding. -/
def Acyclic (s : Subst) : Prop :=
  ∃ rank : Nat → Nat, ∀ id type, s.lookup id = some type → ∀ inner ∈ type.vars, rank inner < rank id

theorem acyclic_empty : Subst.empty.Acyclic :=
  ⟨fun _ => 0, fun _ _ found => by simp [lookup, empty] at found⟩

/-- Following bindings from a type meets no bound variable after a number of steps. -/
def Settles (s : Subst) : Nat → Ty → Prop
  | 0, type => ∀ id ∈ type.vars, s.lookup id = none
  | steps + 1, type => ∀ id ∈ type.vars, ∀ bound, s.lookup id = some bound → s.Settles steps bound

/-- The bindings of variables that rank lower. Unlike the rank, their number is at most the number of
bindings. -/
private def lower (s : Subst) (rank : Nat → Nat) (id : Nat) : List (Nat × Ty) :=
  s.bindings.filter fun binding => rank binding.1 < rank id

private theorem lower_shorter {rank : Nat → Nat} {inner : Nat} {bound : Ty}
    (below : rank inner < rank id) (found : s.lookup inner = some bound) :
    (s.lower rank inner).length < (s.lower rank id).length := by
  have part : s.lower rank inner =
      (s.lower rank id).filter fun binding => rank binding.1 < rank inner := by
    unfold lower
    rw [List.filter_filter]
    apply List.filter_congr
    intro binding _
    simp only [← Bool.decide_and, decide_eq_decide]
    omega
  rw [part, List.length_filter_lt_length_iff_exists]
  refine ⟨(inner, bound), List.mem_filter.mpr ⟨mem_of_lookup found, ?_⟩, ?_⟩
  · simpa using below
  · simp

private theorem lower_shorter_size (rank : Nat → Nat) (found : s.lookup id = some type) :
    (s.lower rank id).length < s.size := by
  unfold lower size
  rw [List.length_filter_lt_length_iff_exists]
  exact ⟨(id, type), mem_of_lookup found, by simp⟩

private theorem settles_of_lower {rank : Nat → Nat}
    (ranked : ∀ id type, s.lookup id = some type → ∀ inner ∈ type.vars, rank inner < rank id)
    (steps : Nat) (type : Ty)
    (low : ∀ id ∈ type.vars, ∀ bound, s.lookup id = some bound → (s.lower rank id).length < steps) :
    s.Settles steps type := by
  induction steps generalizing type with
  | zero =>
    intro id member
    cases found : s.lookup id with
    | none => rfl
    | some bound => exact absurd (low id member bound found) (Nat.not_lt_zero _)
  | succ steps ih =>
    intro id member bound found
    apply ih
    intro inner inside deeper next
    have above := low id member bound found
    have below := lower_shorter (ranked id bound found inner inside) next
    omega

theorem Acyclic.settles (acyclic : s.Acyclic) (type : Ty) : s.Settles s.size type := by
  obtain ⟨rank, ranked⟩ := acyclic
  exact settles_of_lower ranked _ _ fun _ _ _ found => lower_shorter_size rank found

/-- A binding takes one step less than a reference to its variable. -/
theorem Acyclic.settles_binding (acyclic : s.Acyclic) (found : s.lookup id = some type) :
    ∃ steps, s.size = steps + 1 ∧ s.Settles steps type := by
  obtain ⟨steps, same⟩ := Nat.exists_eq_succ_of_ne_zero (Nat.ne_of_gt (size_pos_of_lookup found))
  have settled := acyclic.settles (.var ⟨id, .mutable⟩)
  rw [same] at settled
  exact ⟨steps, same, settled id (by simp [Ty.vars]) type found⟩

private theorem expand_congr {first second : Ty → Ty} (type : Ty)
    (same : ∀ id ∈ type.vars, ∀ bound, s.lookup id = some bound → first bound = second bound) :
    s.expand first type = s.expand second type := by
  induction type with
  | arrow domain codomain left right =>
    simp only [Ty.vars, List.mem_append] at same
    simp only [expand]
    rw [left fun id member => same id (.inl member), right fun id member => same id (.inr member)]
  | var v =>
    simp only [expand]
    cases found : s.lookup v.id with
    | none => rfl
    | some bound => exact same v.id (by simp [Ty.vars]) bound found
  | atom _ | missing => rfl

theorem expand_unbound (follow : Ty → Ty) (type : Ty)
    (free : ∀ id ∈ type.vars, s.lookup id = none) : s.expand follow type = type := by
  induction type with
  | arrow domain codomain left right =>
    simp only [Ty.vars, List.mem_append] at free
    simp only [expand]
    rw [left fun id member => free id (.inl member), right fun id member => free id (.inr member)]
  | var v => simp [expand, free v.id (by simp [Ty.vars])]
  | atom _ | missing => rfl

private theorem applyN_stable {steps : Nat} (settled : s.Settles steps type) :
    s.applyN (steps + 1) type = s.applyN steps type := by
  induction steps generalizing type with
  | zero => exact expand_unbound _ type settled
  | succ steps ih =>
    exact expand_congr type fun id member bound found => ih (settled id member bound found)

theorem apply_bound (acyclic : s.Acyclic) {v : TyVar} (found : s.lookup v.id = some type) :
    s.apply (.var v) = s.apply type := by
  obtain ⟨steps, same, settled⟩ := acyclic.settles_binding found
  simp only [apply, same, applyN_stable settled]
  simp [applyN, expand, found]

theorem apply_unbound {v : TyVar} (free : s.lookup v.id = none) : s.apply (.var v) = .var v := by
  unfold apply
  cases s.size <;> simp [applyN, expand, free]

@[simp] theorem apply_arrow (domain codomain : Ty) :
    s.apply (.arrow domain codomain) = .arrow (s.apply domain) (s.apply codomain) := by
  unfold apply
  cases s.size <;> simp [applyN, expand]

@[simp] theorem apply_atom (atom : Atom) : s.apply (.atom atom) = .atom atom := by
  unfold apply
  cases s.size <;> simp [applyN, expand]

@[simp] theorem apply_missing : s.apply .missing = .missing := by
  unfold apply
  cases s.size <;> simp [applyN, expand]

/-- Under bindings without cycles, a property of types may be shown of a bound variable from its binding. -/
theorem Acyclic.induction (acyclic : s.Acyclic) {motive : Ty → Prop} (atom : ∀ a, motive (.atom a))
    (missing : motive .missing)
    (arrow : ∀ domain codomain, motive domain → motive codomain → motive (.arrow domain codomain))
    (free : ∀ v, s.lookup v.id = none → motive (.var v))
    (bound : ∀ v type, s.lookup v.id = some type → motive type → motive (.var v)) (type : Ty) : motive type := by
  obtain ⟨rank, ranked⟩ := acyclic
  have below : ∀ limit type, (∀ id ∈ type.vars, rank id < limit) → motive type := by
    intro limit
    induction limit using Nat.strongRecOn with
    | ind limit ih =>
      intro type low
      induction type with
      | arrow domain codomain left right =>
        simp only [Ty.vars, List.mem_append] at low
        exact arrow _ _ (left fun id member => low id (.inl member)) (right fun id member => low id (.inr member))
      | var v =>
        cases found : s.lookup v.id with
        | none => exact free v found
        | some type =>
          have lower := low v.id (by simp [Ty.vars])
          exact bound v type found (ih (rank v.id) lower type (ranked v.id type found))
      | atom a => exact atom a
      | missing => exact missing
  let limit := (type.vars.map rank).max?.getD 0 + 1
  apply below limit type
  intro id member
  exact Nat.lt_succ_of_le (List.le_max?_getD_of_mem (List.mem_map_of_mem member))

/-- What a type has come to holds no variable that is bound. -/
theorem unbound_of_apply (acyclic : s.Acyclic) {id : Nat} (member : id ∈ (s.apply type).vars) : s.lookup id = none := by
  induction type using acyclic.induction with
  | atom | missing => simp [Ty.vars] at member
  | arrow domain codomain left right =>
    simp only [apply_arrow, Ty.vars, List.mem_append] at member
    exact member.elim left right
  | free v free =>
    rw [apply_unbound free] at member
    cases List.mem_singleton.mp member
    exact free
  | bound v type found ih =>
    rw [apply_bound acyclic found] at member
    exact ih member

private theorem shallowN_stable {steps : Nat} (settled : s.Settles steps type) :
    s.shallowN (steps + 1) type = s.shallowN steps type := by
  induction steps generalizing type with
  | zero =>
    cases type with
    | var v => simp [shallowN, settled v.id (by simp [Ty.vars])]
    | atom | arrow | missing => rfl
  | succ steps ih =>
    cases type with
    | var v =>
      rw [shallowN, shallowN]
      cases found : s.lookup v.id with
      | none => rfl
      | some bound => exact ih (settled v.id (by simp [Ty.vars]) bound found)
    | atom | arrow | missing => rfl

theorem shallow_bound (acyclic : s.Acyclic) {v : TyVar} (found : s.lookup v.id = some type) :
    s.shallow (.var v) = s.shallow type := by
  obtain ⟨steps, same, settled⟩ := acyclic.settles_binding found
  simp only [shallow, same, shallowN, found]
  exact (shallowN_stable settled).symm

theorem shallow_unbound {v : TyVar} (free : s.lookup v.id = none) : s.shallow (.var v) = .var v := by
  unfold shallow
  cases s.size <;> simp [shallowN, free]

theorem unbound_of_shallow (acyclic : s.Acyclic) {v : TyVar} (stopped : s.shallow type = .var v) :
    s.lookup v.id = none := by
  have settled := acyclic.settles type
  unfold shallow at stopped
  generalize s.size = steps at settled stopped
  induction steps generalizing type with
  | zero =>
    rw [shallowN] at stopped
    exact settled v.id (by simp [stopped, Ty.vars])
  | succ steps ih =>
    cases type with
    | var w =>
      rw [shallowN] at stopped
      cases found : s.lookup w.id with
      | none =>
        simp only [found] at stopped
        cases stopped
        exact found
      | some bound =>
        simp only [found] at stopped
        exact ih (settled w.id (by simp [Ty.vars]) bound found) stopped
    | atom | arrow | missing => cases stopped

private theorem occursWith_congr {first second : Ty → Bool} (type : Ty)
    (same : ∀ id ∈ type.vars, ∀ bound, s.lookup id = some bound → first bound = second bound) :
    s.occursWith id first type = s.occursWith id second type := by
  induction type with
  | arrow domain codomain left right =>
    simp only [Ty.vars, List.mem_append] at same
    simp only [occursWith]
    rw [left fun id member => same id (.inl member), right fun id member => same id (.inr member)]
  | var v =>
    simp only [occursWith]
    cases found : s.lookup v.id with
    | none => rfl
    | some bound => simp only [same v.id (by simp [Ty.vars]) bound found]
  | atom _ | missing => rfl

private theorem occursN_stable {steps : Nat} (settled : s.Settles steps type) :
    s.occursN id (steps + 1) type = s.occursN id steps type := by
  induction steps generalizing type with
  | zero =>
    apply occursWith_congr type
    intro inner member bound found
    rw [settled inner member] at found
    cases found
  | succ steps ih =>
    exact occursWith_congr type fun inner member bound found => ih (settled inner member bound found)

theorem occurs_bound (acyclic : s.Acyclic) (id : Nat) {v : TyVar} (found : s.lookup v.id = some type) :
    s.occurs id (.var v) = (v.id == id || s.occurs id type) := by
  obtain ⟨steps, same, settled⟩ := acyclic.settles_binding found
  simp only [occurs, same, occursN_stable settled]
  simp [occursN, occursWith, found]

private theorem occurs_self (v : TyVar) : s.occurs v.id (.var v) = true := by
  unfold occurs
  cases s.size <;> simp [occursN, occursWith]

theorem occurs_arrow (id : Nat) (domain codomain : Ty) :
    s.occurs id (.arrow domain codomain) = (s.occurs id domain || s.occurs id codomain) := by
  unfold occurs
  cases s.size <;> simp [occursN, occursWith]

/-- A variable occurs in a type when it is reached from one that the type refers to, whatever the
tag of the reference. -/
theorem occurs_eq_any (id : Nat) (type : Ty) :
    s.occurs id type = type.vars.any fun inner => s.occurs id (.var ⟨inner, .mutable⟩) := by
  induction type with
  | arrow domain codomain left right => rw [occurs_arrow, left, right, Ty.vars, List.any_append]
  | var v =>
    simp only [Ty.vars, List.any_cons, List.any_nil, Bool.or_false]
    unfold occurs
    cases s.size <;> rfl
  | atom _ | missing =>
    unfold occurs
    cases s.size <;> rfl

/-- The variables from which the new one is reached are lifted above those in its binding, from
which it is not reached. -/
theorem Acyclic.insert (acyclic : s.Acyclic) (absent : s.occurs id type = false) :
    (s.insert id type).Acyclic := by
  have whole := acyclic
  obtain ⟨rank, ranked⟩ := acyclic
  let top := (type.vars.map rank).max?.getD 0
  have bounded : ∀ inner ∈ type.vars, rank inner ≤ top := fun inner member =>
    List.le_max?_getD_of_mem (List.mem_map_of_mem member)
  let reaches (inner : Nat) : Bool := s.occurs id (.var ⟨inner, .mutable⟩)
  refine ⟨fun inner => if reaches inner then rank inner + top + 1 else rank inner, ?_⟩
  intro other bound found inner member
  rw [lookup_insert] at found
  by_cases same : other = id
  · subst same
    simp only [if_true, Option.some.injEq] at found
    subst found
    have itself : reaches other = true := occurs_self ⟨other, .mutable⟩
    have apart : reaches inner = false := by
      rw [occurs_eq_any, List.any_eq_false] at absent
      simpa using absent inner member
    have low := bounded inner member
    simp only [itself, apart, if_true, Bool.false_eq_true, if_false]
    omega
  · rw [if_neg same] at found
    have below := ranked other bound found inner member
    have onward : reaches inner = true → reaches other = true := by
      intro reached
      have inside : s.occurs id bound = true := by
        rw [occurs_eq_any, List.any_eq_true]
        exact ⟨inner, member, reached⟩
      simp only [reaches]
      rw [occurs_bound whole id found, inside, Bool.or_true]
    by_cases reached : reaches inner = true
    · simp only [reached, onward reached, if_true]
      omega
    · simp only [reached, Bool.false_eq_true, if_false]
      split <;> omega

end Subst

end RefinementTypes
