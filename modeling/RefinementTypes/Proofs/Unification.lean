import RefinementTypes.Proofs.Depth

/-! Comparison as unification. Between types without `bottom` and `error` the direction of a comparison
does not matter: trees make the found type usable where the expected one is asked for exactly if they
make the two equal. A comparison then keeps every solution, brings in none, and fails only where there
is none; what it puts off are equations too. -/

namespace RefinementTypes

namespace Ty

/-- Neither `bottom` nor `error` is part of a type. -/
@[simp] def Definite : Ty → Prop
  | atom a => a ≠ .bottom ∧ a ≠ .error
  | arrow domain codomain => domain.Definite ∧ codomain.Definite
  | var _ | missing => True

theorem Definite.image {assigned : Assignment} {type : Ty} (definite : type.Definite)
    (trees : ∀ id, (assigned id).Definite) : (type.image assigned).Definite := by
  induction type with
  | arrow domain codomain left right => exact ⟨left definite.1, right definite.2⟩
  | var v => exact trees v.id
  | atom | missing => exact definite

theorem Admits.eq {expected found : Ty} (admits : Admits expected found) (left : expected.Definite)
    (right : found.Definite) : expected = found := by
  induction admits with
  | refl type => rfl
  | bottom _ => exact absurd rfl right.1
  | errorExpected _ => exact absurd rfl left.2
  | errorFound _ => exact absurd rfl right.2
  | arrow _ _ argument result => rw [argument right.1 left.1, result left.2 right.2]

private theorem sameVar_comm (first second : Ty) : first.sameVar second = second.sameVar first := by
  cases first <;> cases second <;> simp [sameVar, eq_comm]

private theorem image_ne {assigned : Assignment} {expected found : Ty} (unlike : expected ≠ found)
    (known : ∀ v, expected ≠ .var v ∧ found ≠ .var v)
    (apart : ∀ a b c d, expected = .arrow a b → found ≠ .arrow c d) :
    expected.image assigned ≠ found.image assigned := by
  intro same
  cases expected with
  | var v => exact (known v).1 rfl
  | arrow domain codomain =>
    cases found with
    | var w => exact (known w).2 rfl
    | arrow domain' codomain' => exact apart _ _ _ _ rfl rfl
    | atom | missing => cases same
  | atom | missing =>
    cases found with
    | var w => exact (known w).2 rfl
    | arrow => cases same
    | atom | missing => exact unlike same

end Ty

namespace Subst

variable {s : Subst} {assigned : Assignment} {id : Nat} {type : Ty}

def Definite (s : Subst) : Prop := ∀ id type, s.lookup id = some type → type.Definite

private theorem Definite.insert (definite : s.Definite) (inside : type.Definite) : (s.insert id type).Definite := by
  intro other bound found
  rw [lookup_insert] at found
  split at found
  next => cases found; exact inside
  next => exact definite other bound found

private theorem Agrees.insert (agrees : s.Agrees assigned) (same : assigned id = type.image assigned) :
    (s.insert id type).Agrees assigned := by
  intro other bound found
  rw [lookup_insert] at found
  split at found
  next here => cases found; rw [here]; exact same
  next => exact agrees other bound found

private theorem size_of_occursWith {follow : Ty → Bool}
    (bound : ∀ id' type', s.lookup id' = some type' → follow type' = true →
      (assigned id).size ≤ (assigned id').size)
    (occurs : s.occursWith id follow type = true) : (assigned id).size ≤ (type.image assigned).size := by
  induction type with
  | arrow domain codomain left right =>
    simp only [occursWith, Bool.or_eq_true] at occurs
    simp only [Ty.image, Ty.size]
    rcases occurs with inside | inside
    · have less := left inside
      omega
    · have less := right inside
      omega
  | var v =>
    simp only [occursWith, Bool.or_eq_true, beq_iff_eq] at occurs
    rcases occurs with same | inside
    · simp [same]
    · cases found : s.lookup v.id with
      | none => simp [found] at inside
      | some type => exact bound v.id type found (by simpa [found] using inside)
  | atom | missing => cases occurs

/-- A variable that occurs in a type stands for a part of the tree of that type. -/
theorem Agrees.size_of_occurs (agrees : s.Agrees assigned) (occurs : s.occurs id type = true) :
    (assigned id).size ≤ (type.image assigned).size := by
  unfold Subst.occurs at occurs
  generalize s.size = steps at occurs
  induction steps generalizing type with
  | zero => exact size_of_occursWith (fun _ _ _ never => by cases never) occurs
  | succ steps ih =>
    refine size_of_occursWith (fun id' bound found deeper => ?_) occurs
    rw [agrees id' bound found]
    exact ih deeper

theorem occurs_unbound {v : TyVar} (free : s.lookup v.id = none) : s.occurs id (.var v) = (v.id == id) := by
  unfold occurs
  cases s.size <;> simp [occursN, occursWith, free]

theorem occurs_closed (closed : type.vars = []) : s.occurs id type = false := by
  rw [occurs_eq_any, closed]
  rfl

/-- The occurs check refuses no binding that trees could meet: a tree is larger than its parts. -/
theorem Agrees.not_occurs (agrees : s.Agrees assigned) {v : TyVar} (settled : s.target type = none)
    (unlike : (Ty.var v).sameVar type = false) (same : assigned v.id = type.image assigned) :
    s.occurs v.id type = false := by
  cases type with
  | var w =>
    rw [occurs_unbound settled, beq_eq_false_iff_ne]
    intro equal
    simp [Ty.sameVar, equal] at unlike
  | arrow domain codomain =>
    rw [occurs_arrow, Bool.or_eq_false_iff]
    have size := congrArg Ty.size same
    simp only [Ty.image, Ty.size] at size
    constructor <;> refine Bool.eq_false_iff.mpr fun occurs => ?_
    · have part := agrees.size_of_occurs occurs
      omega
    · have part := agrees.size_of_occurs occurs
      omega
  | atom | missing => exact occurs_closed rfl

end Subst

namespace Checking.Session

variable {config : Config} {before after : State} {assigned : Assignment}

theorem solveVar_absent (config : Config) {var : TyVar} {type : Ty} (free : before.subst.lookup var.id = none)
    (absent : before.subst.occurs var.id type = false) :
    ∃ after, solveVar var type config before = (.ok (), after) ∧
      State.Alike { before with subst := before.subst.insert var.id type } after := by
  rcases solveVar_run free type config with ⟨occurs, _⟩ | ⟨_, bound⟩
  · rw [absent] at occurs
    cases occurs
  · exact bound

/-- Trees agree with the bindings after a comparison and equate what it has put off. -/
def Equates (assigned : Assignment) (before after : State) : Prop :=
  after.subst.Agrees assigned ∧ ∃ deferred : List (Ty × Ty),
    after.worklist = before.worklist ++ deferred.map (fun pair => .assignable pair.1 pair.2) ∧
      ∀ pair ∈ deferred, pair.1.image assigned = pair.2.image assigned

private theorem Equates.nothing (agrees : after.subst.Agrees assigned) (same : after.worklist = before.worklist) :
    Equates assigned before after :=
  ⟨agrees, [], by simpa using same, fun _ member => by cases member⟩

theorem Equates.trans {middle : State} (early : Equates assigned before middle)
    (late : Equates assigned middle after) : Equates assigned before after := by
  obtain ⟨_, first, grown, equal⟩ := early
  obtain ⟨agrees, last, grown', equal'⟩ := late
  exact ⟨agrees, first ++ last, by rw [grown', grown]; simp, List.forall_mem_append.mpr ⟨equal, equal'⟩⟩

/-- A comparison of types that trees make equal succeeds, and the trees still fit what it leaves. -/
theorem assignN_equates {depth : Nat} {expected found : Ty} (agrees : before.subst.Agrees assigned)
    (definite : before.subst.Definite) (left : expected.Definite) (right : found.Definite)
    (same : expected.image assigned = found.image assigned)
    (fails : ∀ failure, (assignN depth expected found config before).1 = .error failure → Incomparable failure) :
    ∃ after, assignN depth expected found config before = (.ok (), after) ∧ after.subst.Definite ∧
      Equates assigned before after := by
  induction depth generalizing expected found before with
  | zero => cases fails _ rfl
  | succ depth ih =>
    obtain ⟨step, rule, run⟩ := assignN_comparison depth expected found config before
    rw [run.run] at fails ⊢
    cases rule with
    | alike => exact ⟨before, rfl, definite, .nothing agrees rfl⟩
    | bottom => exact absurd rfl right.1
    | reported either =>
      rcases either with rfl | rfl
      · exact absurd rfl left.2
      · exact absurd rfl right.2
    | expectedBound known =>
      exact ih agrees definite (definite _ _ known) right ((agrees _ _ known).symm.trans same) fails
    | foundBound _ known =>
      exact ih agrees definite left (definite _ _ known) (same.trans (agrees _ _ known)) fails
    | bindExpected unlike free settled =>
      obtain ⟨after, ran, alike⟩ := solveVar_absent config free (agrees.not_occurs settled unlike same)
      refine ⟨after, ran, ?_, .nothing ?_ alike.worklist⟩ <;> rw [alike.subst]
      · exact definite.insert right
      · exact agrees.insert same
    | bindFound unlike free settled =>
      rw [Ty.sameVar_comm] at unlike
      obtain ⟨after, ran, alike⟩ := solveVar_absent config free (agrees.not_occurs settled unlike same.symm)
      refine ⟨after, ran, ?_, .nothing ?_ alike.worklist⟩ <;> rw [alike.subst]
      · exact definite.insert left
      · exact agrees.insert same.symm
    | defer =>
      obtain ⟨after, ran, alike⟩ := postpone_run (.assignable expected found) config before
      have subst : after.subst = before.subst := alike.subst
      refine ⟨after, ran, by rw [subst]; exact definite, by rw [subst]; exact agrees, [(expected, found)],
        alike.worklist, ?_⟩
      exact List.forall_mem_singleton.mpr same
    | arrows domain codomain domain' codomain' =>
      simp only [Ty.image, Ty.arrow.injEq] at same
      -- A failure of either part would be one of the whole.
      have early : ∀ failure, (assignN depth domain' domain config before).1 = .error failure →
          Incomparable failure := by
        intro failure failed
        exact fails failure (bind_failed failed)
      obtain ⟨middle, ran, definite, equates⟩ := ih agrees definite right.1 left.1 same.1.symm early
      rw [bind_run ran] at fails ⊢
      obtain ⟨after, ran', definite', equates'⟩ := ih equates.1 definite left.2 right.2 same.2 fails
      exact ⟨after, ran', definite', equates.trans equates'⟩
    | clash unlike _ known apart => exact absurd same (Ty.image_ne unlike known apart)

theorem assign_equates (config : Config) {expected found : Ty} (acyclic : before.subst.Acyclic)
    (agrees : before.subst.Agrees assigned) (definite : before.subst.Definite) (left : expected.Definite)
    (right : found.Definite) (same : expected.image assigned = found.image assigned) :
    ∃ after, assign expected found config before = (.ok (), after) ∧ after.subst.Definite ∧
      Equates assigned before after := by
  have fails : ∀ failure, (assign expected found config before).1 = .error failure → Incomparable failure :=
    fun _ failed => assign_incomparable acyclic failed
  exact assignN_equates agrees definite left right same fails

/-- What a comparison leaves is no weaker than what it was asked. -/
theorem Equates.image_eq {expected found : Ty} (equates : Equates assigned before after)
    (run : assign expected found config before = (.ok (), after)) (trees : ∀ id, (assigned id).Definite)
    (left : expected.Definite) (right : found.Definite) : expected.image assigned = found.image assigned := by
  obtain ⟨agrees, deferred, grown, equal⟩ := equates
  obtain ⟨deferred', grown', vouch⟩ := assignN_defers run
  have same : deferred'.map (fun pair => Obligation.assignable pair.1 pair.2) =
      deferred.map fun pair => .assignable pair.1 pair.2 :=
    List.append_cancel_left (grown'.symm.trans grown)
  have lists : deferred' = deferred := by
    refine (List.map_inj_right ?_).mp same
    rintro ⟨_, _⟩ ⟨_, _⟩ pairs
    cases pairs
    rfl
  have admits : (expected.image assigned).Admits (found.image assigned) := by
    refine vouch assigned agrees fun pair member => ?_
    rw [lists] at member
    rw [equal pair member]
    exact .refl _
  exact admits.eq (left.image trees) (right.image trees)

/-- A comparison computes a most general unifier: the trees that make the types equal under the bindings
at hand are the ones that fit the bindings it leaves and make equal what it puts off. Where it fails,
the types are apart or would be infinite, and no trees make them equal. -/
theorem assign_unifies (config : Config) (before : State) (expected found : Ty)
    (acyclic : before.subst.Acyclic) (definite : before.subst.Definite) (left : expected.Definite)
    (right : found.Definite) :
    (∀ assigned : Assignment, (∀ id, (assigned id).Definite) → before.subst.Agrees assigned →
      (expected.image assigned = found.image assigned ↔
        ∃ after, assign expected found config before = (.ok (), after) ∧ Equates assigned before after)) ∧
    ∀ failure, (assign expected found config before).1 = .error failure → Incomparable failure ∧
      ∀ assigned : Assignment, before.subst.Agrees assigned →
        expected.image assigned ≠ found.image assigned := by
  refine ⟨fun assigned trees agrees => ⟨fun same => ?_, ?_⟩, fun failure failed => ⟨?_, ?_⟩⟩
  · obtain ⟨after, run, _, equates⟩ := assign_equates config acyclic agrees definite left right same
    exact ⟨after, run, equates⟩
  · rintro ⟨after, run, equates⟩
    exact equates.image_eq run trees left right
  · exact assign_incomparable acyclic failed
  · intro assigned agrees same
    obtain ⟨after, run, _⟩ := assign_equates config acyclic agrees definite left right same
    rw [run] at failed
    cases failed

/-- A bound variable is followed, a domain is bound on the spot, and the codomains, of which one belongs
to others, are put off; compared with one of its parts, the same variable has no solution. -/
theorem assign_unifies_function :
    let before : State :=
      { State.fresh .empty with
        nextVar := 3
        subst := Subst.empty.insert 0 (.arrow (.var ⟨1, .mutable⟩) (.var ⟨2, .immutable⟩)) }
    let expected : Ty := .var ⟨0, .mutable⟩
    let found : Ty := .arrow (.atom .bool) (.atom .regex)
    let config : Config := ⟨id, .regular, true, false, 8⟩
    before.subst.Acyclic ∧ before.subst.Definite ∧ expected.Definite ∧ found.Definite ∧
      (assign expected found config before).2.worklist = [.assignable (.var ⟨2, .immutable⟩) (.atom .regex)] ∧
      (∀ assigned : Assignment, (∀ id, (assigned id).Definite) → before.subst.Agrees assigned →
        (expected.image assigned = found.image assigned ↔
          ∃ after, assign expected found config before = (.ok (), after) ∧ Equates assigned before after)) ∧
      ∀ assigned : Assignment, before.subst.Agrees assigned →
        (Ty.var ⟨1, .mutable⟩).image assigned ≠ expected.image assigned := by
  intro before expected found config
  have acyclic : before.subst.Acyclic := Subst.acyclic_empty.insert rfl
  have definite : before.subst.Definite := .insert (fun _ _ none => by cases none) ⟨trivial, trivial⟩
  have refused : (assign (.var ⟨1, .mutable⟩) expected config before).1 =
    .error (.refused ⟨.infinite 1 (.arrow (.var ⟨1, .mutable⟩) (.var ⟨2, .immutable⟩)), "", none⟩) := rfl
  refine ⟨acyclic, definite, trivial, by simp [found], rfl, ?_, ?_⟩
  · exact (assign_unifies config before expected found acyclic definite trivial (by simp [found])).1
  · exact ((assign_unifies config before (.var ⟨1, .mutable⟩) expected acyclic definite trivial trivial).2 _ refused).2

end Checking.Session

end RefinementTypes
