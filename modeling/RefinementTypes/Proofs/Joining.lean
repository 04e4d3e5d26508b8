import RefinementTypes.Proofs.Preparation

/-! Two sessions as one. Where the bodies of two sets of declarations are checked one set after the other, the second
set is checked inside the frame that the first one leaves, and the first inside that of the names of the second. So the
joint session succeeds if and only if each set is checked on its own, and comes to the same bindings. -/

namespace RefinementTypes.Checking

/-- Numbers for the variables of a session inside another: the first of them from `start` on, those that are issued
later from `rest` on. -/
def splice (start own rest id : Nat) : Nat := if id < own then start + id else rest + (id - own)

section

variable {start own rest id : Nat}

private theorem splice_before (inside : id < own) : splice start own rest id = start + id := if_pos inside

private theorem splice_after (later : own ≤ id) : splice start own rest id = rest + (id - own) :=
    if_neg (Nat.not_lt.mpr later)

private theorem splice_injective (le : start + own ≤ rest) : Function.Injective (splice start own rest) := by
  intro first second same
  unfold splice at same
  split at same <;> split at same <;> omega

private theorem splice_steady (later : own ≤ id) : splice start own rest (id + 1) = splice start own rest id + 1 := by
  rw [splice_after later, splice_after (Nat.le_succ_of_le later)]
  omega

private theorem splice_apart {second limit mine other : Nat} (le : own ≤ limit) (inside : mine < limit) :
    splice own second (splice 0 own (own + second) limit) other ≠ splice 0 own (own + second) mine := by
  rw [splice_after le]
  unfold splice
  split <;> split <;> omega

end

/-- Whether an obligation is blocked depends on the bindings of its own variables only. -/
theorem Obligation.Blocked.transfer {rename : Nat → Nat} {limit : Nat} {obligation : Obligation} {s t : Subst}
    (blocked : (obligation.renumber rename).Blocked s) (issued : obligation.Over (fun _ => True) limit)
    (same : ∀ id, id < limit → t.lookup (rename id) = s.lookup (rename id)) :
    (obligation.renumber rename).Blocked t := by
  have known (type : Ty) (issued : type.Over (fun _ => True) limit) (v : TyVar) (is : type.renumber rename = .var v) :
      t.lookup v.id = s.lookup v.id := by
    cases type with
    | var w =>
      cases is
      exact same w.id issued
    | atom | arrow | missing => cases is
  cases obligation with
  | conforms literal type =>
    obtain ⟨v, is, free⟩ := blocked
    exact ⟨v, is, (known type issued v is).trans free⟩
  | assignable expected found =>
    obtain ⟨unlike, possible, unknown, waits⟩ := blocked
    refine ⟨unlike, possible, unknown, fun v side => ?_⟩
    obtain ⟨free, immutable⟩ := waits v side
    refine ⟨?_, immutable⟩
    rcases side with is | is
    · exact (known expected issued.1 v is).trans free
    · exact (known found issued.2 v is).trans free
  | instantiated params fresh generic => exact (same generic.id issued.2.2).trans blocked

namespace Session

variable {config : Config} {declared : List DeclaredDecl} {key : String}

private theorem lookup_signature_none (absent : ∀ decl ∈ declared, config.normalize decl.name ≠ key) :
    (declared.map (signature config)).reverse.lookup key = none := by
  rw [List.lookup_eq_none_iff]
  intro entry member
  obtain ⟨decl, listed, rfl⟩ := List.mem_map.mp (List.mem_reverse.mp member)
  simpa [signature] using Ne.symm (absent decl listed)

private theorem lookup_signature_renumber (rename : Nat → Nat) (declared : List DeclaredDecl) (key : String) :
    ((declared.map (DeclaredDecl.renumber rename)).map (signature config)).reverse.lookup key =
      ((declared.map (signature config)).reverse.lookup key).map (Template.renumber rename) := by
  have each (decl : DeclaredDecl) : signature config (decl.renumber rename) =
      ((signature config decl).1, (signature config decl).2.renumber rename) := by
    simp [signature, DeclaredDecl.renumber, Template.renumber, Ty.setMutability_renumber]
  rw [← lookup_mapSnd, List.map_reverse, List.map_map, List.map_map]
  simp only [Function.comp_def, each]

def complete (declared : List DeclaredDecl) (order : List Nat) : Session (List (Nat × Typed Ty)) := do
  let bodies ← defineAll declared order
  enterDecl ""
  solve true
  return bodies

theorem complete_iff {order : List Nat} {bodies : List (Nat × Typed Ty)} {before after : State} :
    complete declared order config before = (.ok bodies, after) ↔
      ∃ middle, defineAll declared order config before = (.ok bodies, middle) ∧
        solve true config { middle with decl := "" } = (.ok (), after) := by
  constructor
  · intro run
    obtain ⟨_, middle, defined, run⟩ := bind_ok run
    obtain ⟨_, _, entered, run⟩ := bind_ok run
    cases entered
    obtain ⟨_, _, solved, run⟩ := bind_ok run
    cases run
    exact ⟨middle, defined, solved⟩
  · intro ⟨middle, defined, solved⟩
    have entered : enterDecl "" config middle = (.ok (), { middle with decl := "" }) := rfl
    unfold complete
    rw [bind_run defined, bind_run entered, bind_run solved]
    rfl

private theorem complete_append_iff {first second : List Nat} {bodies : List (Nat × Typed Ty)} {before after : State} :
    complete declared (first ++ second) config before = (.ok bodies, after) ↔
      ∃ left middle right, defineAll declared first config before = (.ok left, middle) ∧
        complete declared second config middle = (.ok right, after) ∧ bodies = left ++ right := by
  constructor
  · intro run
    obtain ⟨_, run, solved⟩ := complete_iff.mp run
    rw [defineAll_append] at run
    obtain ⟨left, middle, early, run⟩ := bind_ok run
    obtain ⟨right, _, late, run⟩ := bind_ok run
    cases run
    exact ⟨left, middle, right, early, complete_iff.mpr ⟨_, late, solved⟩, rfl⟩
  · rintro ⟨left, middle, right, early, late, rfl⟩
    obtain ⟨_, late, solved⟩ := complete_iff.mp late
    refine complete_iff.mpr ⟨_, ?_, solved⟩
    rw [defineAll_append, bind_run early, bind_run late]
    rfl

private theorem complete_elsewhere {order : List Nat} {bodies : List (Nat × Typed Ty)} {before after : State}
    (place : String) : complete declared order config { before with decl := place } = (.ok bodies, after) ↔
      complete declared order config before = (.ok bodies, after) := by
  have enough (before : State) (place : String)
      (run : complete declared order config before = (.ok bodies, after)) :
      complete declared order config { before with decl := place } = (.ok bodies, after) := by
    obtain ⟨middle, defined, solved⟩ := complete_iff.mp run
    obtain ⟨place', defined'⟩ := defineAll_elsewhere defined place
    exact complete_iff.mpr ⟨_, defined', solved⟩
  exact ⟨enough _ before.decl, enough before place⟩

/-- Two sets of declarations have been declared, each on its own and both together, and neither refers to a name of the
other. -/
structure Joint (config : Config) (decls decls' : List (Option Decl)) (left right : List DeclaredDecl)
    (order order' : List Nat) (ready ready' both : State) : Prop where
  first : AllDeclared config decls left order ready
  second : AllDeclared config decls' right order' ready'
  together : AllDeclared config (decls ++ decls') (left ++ right.map (DeclaredDecl.renumber (ready.nextVar + ·)))
    (order ++ order'.map (left.length + ·)) both
  nextVar : both.nextVar = ready.nextVar + ready'.nextVar
  apart : ∀ decl ∈ left, ∀ name ∈ decl.decl.body.freeNames config.key, ∀ other ∈ right,
    config.normalize other.name ≠ name
  apart' : ∀ decl ∈ right, ∀ name ∈ decl.decl.body.freeNames config.key, ∀ other ∈ left,
    config.normalize other.name ≠ name

/-- The names under which declarations are found. -/
def Declares (config : Config) (declared : List DeclaredDecl) (name : String) : Prop :=
  ∃ decl ∈ declared, config.normalize decl.name = name

section

variable {decls decls' : List (Option Decl)} {left right : List DeclaredDecl} {order order' : List Nat}
  {ready ready' both : State} (joint : Joint config decls decls' left right order order' ready ready' both)

include joint

private theorem Joint.left_fixed :
    left.map (DeclaredDecl.renumber (splice 0 ready.nextVar (ready.nextVar + ready'.nextVar))) = left := by
  refine (List.map_congr_left fun decl member => ?_).trans (List.map_id left)
  apply decl.renumber_fixed
  intro id inside
  rw [splice_before (Ty.Over.below (joint.first.types decl member) inside), Nat.zero_add]

private theorem Joint.right_moved (rest : Nat) :
    right.map (DeclaredDecl.renumber (splice ready.nextVar ready'.nextVar rest)) =
    right.map (DeclaredDecl.renumber (ready.nextVar + ·)) := by
  refine List.map_congr_left fun decl member => ?_
  have same := decl.type.renumber_congr fun id inside =>
    @splice_before ready.nextVar ready'.nextVar rest id (Ty.Over.below (joint.second.types decl member) inside)
  rw [DeclaredDecl.renumber, same, DeclaredDecl.renumber]

private theorem Joint.first_encloses : ∃ frame : Frame,
    frame.rename = splice 0 ready.nextVar (ready.nextVar + ready'.nextVar) ∧ frame.pending = [] ∧
      frame.warnings = [] ∧ (∀ id, frame.bindings id = none) ∧
      frame.Encloses (Declares config right) { ready with decl := both.decl } both := by
  have next : both.nextVar = splice 0 ready.nextVar (ready.nextVar + ready'.nextVar) ready.nextVar := by
    rw [joint.nextVar, splice_after (Nat.le_refl _), Nat.sub_self, Nat.add_zero]
  have scope : ∀ name, ¬ Declares config right name → both.scope.find? name = (ready.scope.find? name).map
      (Template.renumber (splice 0 ready.nextVar (ready.nextVar + ready'.nextVar))) := by
    intro name shown
    have absent : ∀ decl ∈ right.map (DeclaredDecl.renumber (ready.nextVar + ·)),
        config.normalize decl.name ≠ name := by
      intro decl member same
      obtain ⟨source, listed, rfl⟩ := List.mem_map.mp member
      exact shown ⟨source, listed, same⟩
    rw [joint.together.facts.scope, joint.first.facts.scope, List.map_append, List.reverse_append, List.lookup_append,
      lookup_signature_none absent, Option.none_or, ← lookup_signature_renumber, joint.left_fixed]
  obtain ⟨frame, rename, pending, warnings, bindings, encloses⟩ :=
    @Frame.exists_encloses _ (splice_injective (by omega)) (Declares config right) { ready with decl := both.decl } both
      next (fun _ later => splice_steady later) joint.first.subst joint.first.worklist joint.first.warnings
      joint.together.subst joint.together.worklist scope rfl joint.first.intact joint.together.intact
  exact ⟨frame, rename, pending, warnings.trans joint.together.warnings, bindings, encloses⟩

private theorem Joint.first_mirrors {frame : Frame} {inner outer : State}
    (rename : frame.rename = splice 0 ready.nextVar (ready.nextVar + ready'.nextVar))
    (encloses : frame.Encloses (Declares config right) inner outer) :
    Mirrors frame (Declares config right) (defineAll left order)
      (defineAll (left ++ right.map (DeclaredDecl.renumber (ready.nextVar + ·))) order) config inner outer
      fun bodies bodies' => bodies' = bodies.map fun (index, body) => (index, body.map (Ty.renumber frame.rename)) := by
  have placed : ∀ index ∈ order, (left ++ right.map (DeclaredDecl.renumber (ready.nextVar + ·)))[id index]? =
      left[index]?.map (DeclaredDecl.renumber frame.rename) := by
    intro index member
    have inside := List.mem_range.mp (joint.first.order.mem_iff.mp member)
    rw [id, List.getElem?_append_left inside, ← List.getElem?_map, rename, joint.left_fixed]
  have visible : ∀ decl ∈ left, ∀ name ∈ decl.decl.body.freeNames config.key, ¬ Declares config right name := by
    intro decl member name free ⟨other, listed, same⟩
    exact joint.apart decl member name free other listed same
  have mirrors := defineAll_mirrors encloses order placed visible
  rw [List.map_id] at mirrors
  exact mirrors

private theorem Joint.second_encloses {frame : Frame} {inner outer : State}
    (rename : frame.rename = splice 0 ready.nextVar (ready.nextVar + ready'.nextVar)) (pending : frame.pending = [])
    (bindings : ∀ id, frame.bindings id = none) (encloses : frame.Encloses (Declares config right) inner outer)
    (issued : inner.Over fun _ => True) (le : ready.nextVar ≤ inner.nextVar) (quiescent : outer.Quiescent)
    (scope : outer.scope = both.scope) : ∃ frame' : Frame,
    frame'.rename = splice ready.nextVar ready'.nextVar outer.nextVar ∧ frame'.pending = outer.worklist ∧
      frame'.warnings = outer.warnings ∧ (∀ id, frame'.bindings id = outer.subst.lookup id) ∧
      frame'.Encloses (Declares config left) { ready' with decl := outer.decl } outer := by
  have next : outer.nextVar = splice 0 ready.nextVar (ready.nextVar + ready'.nextVar) inner.nextVar := by
    rw [encloses.nextVar, rename]
  have injective : Function.Injective (splice ready.nextVar ready'.nextVar outer.nextVar) := by
    apply splice_injective
    rw [next, splice_after le]
    omega
  have foreign (id : Nat) (inside : id < inner.nextVar) (own : Nat) :
      splice ready.nextVar ready'.nextVar outer.nextVar own ≠ frame.rename id := by
    rw [next, rename]
    exact splice_apart le inside
  have blocked : ∀ obligation ∈ outer.worklist, ∀ s : Subst,
      (∀ id, (∀ own, splice ready.nextVar ready'.nextVar outer.nextVar own ≠ id) →
        s.lookup id = outer.subst.lookup id) → obligation.Blocked s := by
    intro obligation member s same
    have stuck := quiescent obligation member
    rw [encloses.worklist, pending, List.nil_append] at member
    obtain ⟨source, listed, rfl⟩ := List.mem_map.mp member
    exact stuck.transfer (issued.worklist source listed) fun id inside => same _ (foreign id inside)
  have unbound (id : Nat) : outer.subst.lookup (splice ready.nextVar ready'.nextVar outer.nextVar id) = none := by
    by_cases image : ∃ own, frame.rename own = splice ready.nextVar ready'.nextVar outer.nextVar id
    · obtain ⟨own, same⟩ := image
      rw [← same, encloses.bindings.lookup own trivial]
      cases found : inner.subst.lookup own with
      | none => rfl
      | some type =>
        have inside := (issued.bindings _ (Subst.mem_of_lookup found)).1
        exact absurd same.symm (foreign own inside id)
    · rw [encloses.others _ fun own same => image ⟨own, same⟩, bindings]
  refine ⟨.around _ injective outer blocked, rfl, rfl, rfl, fun _ => rfl, ?_⟩
  apply Frame.around_encloses
  · change outer.nextVar = splice _ _ _ ready'.nextVar
    rw [splice_after (Nat.le_refl _), Nat.sub_self, Nat.add_zero]
  · exact fun id later => splice_steady later
  · exact joint.second.subst
  · exact joint.second.worklist
  · exact joint.second.warnings
  · exact unbound
  · exact encloses.bindings.acyclic'
  · intro name shown
    have absent : ∀ decl ∈ left, config.normalize decl.name ≠ name :=
      fun decl member same => shown ⟨decl, member, same⟩
    change outer.scope.find? name = (ready'.scope.find? name).map _
    rw [scope, joint.together.facts.scope, joint.second.facts.scope, List.map_append, List.reverse_append,
      List.lookup_append, lookup_signature_none absent, Option.or_none, ← lookup_signature_renumber, joint.right_moved]
  · rfl
  · exact joint.second.intact
  · exact encloses.intact'

private theorem Joint.second_mirrors {frame : Frame} {rest : Nat} {inner outer : State}
    (rename : frame.rename = splice ready.nextVar ready'.nextVar rest)
    (encloses : frame.Encloses (Declares config left) inner outer) :
    Mirrors frame (Declares config left) (defineAll right order')
      (defineAll (left ++ right.map (DeclaredDecl.renumber (ready.nextVar + ·))) (order'.map (left.length + ·))) config
      inner outer fun bodies bodies' => bodies' = bodies.map fun (index, body) =>
        (left.length + index, body.map (Ty.renumber frame.rename)) := by
  have placed : ∀ index ∈ order',
      (left ++ right.map (DeclaredDecl.renumber (ready.nextVar + ·)))[left.length + index]? =
        right[index]?.map (DeclaredDecl.renumber frame.rename) := by
    intro index _
    rw [List.getElem?_append_right (Nat.le_add_right _ _), Nat.add_sub_cancel_left, ← List.getElem?_map, rename,
      joint.right_moved]
  have visible : ∀ decl ∈ right, ∀ name ∈ decl.decl.body.freeNames config.key, ¬ Declares config left name := by
    intro decl member name free ⟨other, listed, same⟩
    exact joint.apart' decl member name free other listed same
  exact defineAll_mirrors encloses order' placed visible

private theorem Joint.second_completes {frame : Frame} {rest : Nat} {inner outer : State}
    (rename : frame.rename = splice ready.nextVar ready'.nextVar rest)
    (encloses : frame.Encloses (Declares config left) inner outer) :
    Mirrors frame (Declares config left) (complete right order')
      (complete (left ++ right.map (DeclaredDecl.renumber (ready.nextVar + ·))) (order'.map (left.length + ·))) config
      inner outer fun bodies bodies' => bodies' = bodies.map fun (index, body) =>
        (left.length + index, body.map (Ty.renumber frame.rename)) := by
  refine .bind (joint.second_mirrors rename encloses) fun bodies bodies' _ _ same encloses => ?_
  refine .bind (enterDecl_mirrors encloses "") fun _ _ _ _ _ encloses => ?_
  exact .bind (solve_mirrors encloses true) fun _ _ _ _ _ encloses => .pure encloses same

private theorem Joint.first_issued {bodies : List (Nat × Typed Ty)} {inner : State}
    (own : defineAll left order config { ready with decl := both.decl } = (.ok bodies, inner)) :
    ready.nextVar ≤ inner.nextVar ∧ inner.Over (fun _ => True) ∧
      ∀ body ∈ bodies, body.2.All (·.Over (fun _ => True) inner.nextVar) := by
  have allowed : { ready with decl := both.decl }.Over fun _ => True :=
    ⟨joint.first.allowed.bindings, joint.first.allowed.worklist, joint.first.allowed.scope⟩
  have within : ∀ decl ∈ left, decl.decl.body.Within fun _ => True :=
    fun _ _ => .of_error trivial _ (.inl trivial)
  have known : ∀ decl ∈ left, Known (fun _ => True) ready.scope (decl.decl.body.freeNames config.key) :=
    fun _ _ _ _ => .inl trivial
  exact allowed.defineAll within known joint.first.types own

end

/-- The bodies of the first set have been checked, on their own and in the joint session, where those of the second set
are to be checked next. -/
structure Halfway (config : Config) (left : List DeclaredDecl) (ready ready' : State) (bodies : List (Nat × Typed Ty))
    (inner outer : State) (frame : Frame) : Prop where
  issued : inner.Over fun _ => True
  bodies : ∀ body ∈ bodies, body.2.All (·.Over (fun _ => True) inner.nextVar)
  worklist : outer.worklist = inner.worklist.map
    (Obligation.renumber (splice 0 ready.nextVar (ready.nextVar + ready'.nextVar)))
  warnings : outer.warnings = inner.warnings
  bindings : Subst.Matches (splice 0 ready.nextVar (ready.nextVar + ready'.nextVar)) (fun _ => True) inner.subst
    outer.subst
  rename : frame.rename = splice ready.nextVar ready'.nextVar outer.nextVar
  pending : frame.pending = outer.worklist
  reported : frame.warnings = outer.warnings
  bound : ∀ id, frame.bindings id = outer.subst.lookup id
  foreign : ∀ id, id < inner.nextVar → ∀ own,
    frame.rename own ≠ splice 0 ready.nextVar (ready.nextVar + ready'.nextVar) id
  encloses : frame.Encloses (Declares config left) { ready' with decl := outer.decl } outer

section

variable {decls decls' : List (Option Decl)} {left right : List DeclaredDecl} {order order' : List Nat}
  {ready ready' both : State} (joint : Joint config decls decls' left right order order' ready ready' both)

include joint

private theorem Joint.halfway {bodies' : List (Nat × Typed Ty)} {outer : State}
    (run : defineAll (left ++ right.map (DeclaredDecl.renumber (ready.nextVar + ·))) order config both =
      (.ok bodies', outer)) : ∃ bodies inner frame,
      defineAll left order config { ready with decl := both.decl } = (.ok bodies, inner) ∧
      bodies' = bodies.map (fun (index, body) =>
        (index, body.map (Ty.renumber (splice 0 ready.nextVar (ready.nextVar + ready'.nextVar))))) ∧
      Halfway config left ready ready' bodies inner outer frame := by
  obtain ⟨frame, rename, pending, warnings, bindings, encloses⟩ := joint.first_encloses
  obtain ⟨bodies, inner, own, same, encloses⟩ := (joint.first_mirrors rename encloses).back _ _ run
  obtain ⟨le, issued, types⟩ := joint.first_issued own
  have acyclic : both.subst.Acyclic := by
    rw [joint.together.subst]
    exact Subst.acyclic_empty
  have quiescent := defineAll_quiescent acyclic (.of_empty joint.together.worklist) run
  have scope := ((defineAll_uses (.refl _) _ _).leaves run).scope (by decide)
  obtain ⟨frame', rename', pending', warnings', bindings', encloses'⟩ :=
    joint.second_encloses rename pending bindings encloses issued le quiescent scope
  refine ⟨bodies, inner, frame', own, rename ▸ same, issued, types, ?_, ?_, rename ▸ encloses.bindings, rename',
    pending', warnings', bindings', ?_, encloses'⟩
  · rw [encloses.worklist, pending, rename, List.nil_append]
  · rw [encloses.warnings, warnings, List.nil_append]
  · intro id inside own
    rw [rename', encloses.nextVar, rename]
    exact splice_apart le inside

private theorem Joint.halfway_of_first {bodies : List (Nat × Typed Ty)} {inner : State}
    (own : defineAll left order config { ready with decl := both.decl } = (.ok bodies, inner)) :
    ∃ bodies' outer frame,
      defineAll (left ++ right.map (DeclaredDecl.renumber (ready.nextVar + ·))) order config both =
        (.ok bodies', outer) ∧ Halfway config left ready ready' bodies inner outer frame := by
  obtain ⟨_, rename, pending, _, _, encloses⟩ := joint.first_encloses
  obtain ⟨bodies', outer, run⟩ := (joint.first_mirrors rename encloses).forth pending _ _ own
  obtain ⟨_, _, frame, again, _, halfway⟩ := joint.halfway run
  cases own.symm.trans again
  exact ⟨bodies', outer, frame, run, halfway⟩

end

/-- What two sets of declarations come to in a joint session, in terms of what each of them comes to on its own. -/
structure Joined (left right : List DeclaredDecl) (ready : State) (bodies bodies₁ bodies₂ : List (Nat × Typed Ty))
    (after after₁ after₂ : State) (rename rename' : Nat → Nat) : Prop where
  appended : bodies = bodies₁.map (fun entry => (entry.1, entry.2.map (Ty.renumber rename))) ++
    bodies₂.map fun entry => (left.length + entry.1, entry.2.map (Ty.renumber rename'))
  fixed : left.map (DeclaredDecl.renumber rename) = left
  moved : right.map (DeclaredDecl.renumber rename') = right.map (DeclaredDecl.renumber (ready.nextVar + ·))
  first : Subst.Matches rename (· < after₁.nextVar) after₁.subst after.subst
  second : Subst.Matches rename' (fun _ => True) after₂.subst after.subst
  placed : ∀ body ∈ bodies₁, body.1 < left.length
  types : ∀ decl ∈ left, decl.type.Over (fun _ => True) after₁.nextVar
  within : ∀ body ∈ bodies₁, body.2.All (·.Over (fun _ => True) after₁.nextVar)
  warnings : after.warnings = after₁.warnings ++ after₂.warnings

section

variable {decls decls' : List (Option Decl)} {left right : List DeclaredDecl} {order order' : List Nat}
  {ready ready' both : State} (joint : Joint config decls decls' left right order order' ready ready' both)

include joint

/-- Where a joint session checks all bodies, each set is checked on its own, to the same bindings. -/
theorem Joint.complete_back {bodies : List (Nat × Typed Ty)} {after : State}
    (run : complete (left ++ right.map (DeclaredDecl.renumber (ready.nextVar + ·)))
      (order ++ order'.map (left.length + ·)) config both = (.ok bodies, after)) :
    ∃ bodies₁ after₁ bodies₂ after₂ rename rename',
      complete left order config ready = (.ok bodies₁, after₁) ∧
      complete right order' config ready' = (.ok bodies₂, after₂) ∧
      Joined left right ready bodies bodies₁ bodies₂ after after₁ after₂ rename rename' := by
  obtain ⟨_, outer, _, defined, completed, rfl⟩ := complete_append_iff.mp run
  obtain ⟨bodies₁, inner, frame, own, rfl, halfway⟩ := joint.halfway defined
  obtain ⟨bodies₂, after₂, own₂, rfl, encloses⟩ :=
    (joint.second_completes halfway.rename halfway.encloses).back _ _ completed
  -- The joint session ends with no obligations, so the first set left none.
  obtain ⟨_, _, solved⟩ := complete_iff.mp completed
  have done : inner.worklist = [] := by
    have none := encloses.worklist
    rw [solve_worklist solved, eq_comm, List.append_eq_nil_iff, halfway.pending, halfway.worklist, List.map_eq_nil_iff]
      at none
    exact none.1
  have own₁ : complete left order config { ready with decl := both.decl } = (.ok bodies₁, { inner with decl := "" }) :=
    complete_iff.mpr ⟨inner, own, solveFrom_nil done⟩
  refine ⟨bodies₁, _, bodies₂, after₂, _, frame.rename, (complete_elsewhere _).mp own₁, (complete_elsewhere _).mp own₂,
    rfl, joint.left_fixed, halfway.rename ▸ joint.right_moved _, ⟨?_, ?_, halfway.bindings.acyclic,
    encloses.bindings.acyclic'⟩, encloses.bindings, ?_, ?_, halfway.bodies, ?_⟩
  · intro id inside
    rw [encloses.others _ (halfway.foreign id inside), halfway.bound]
    exact halfway.bindings.lookup id trivial
  · intro id type _ found other member
    exact Ty.Over.below (halfway.issued.lookup found) member
  · intro body member
    have listed := List.mem_map_of_mem (f := Prod.fst) member
    rw [defineAll_places own] at listed
    exact List.mem_range.mp (joint.first.order.mem_iff.mp listed)
  · exact fun decl member => (joint.first.types decl member).mono (joint.first_issued own).1
  · rw [encloses.warnings, halfway.reported, halfway.warnings]

/-- Where each set is checked on its own, so is the joint session. -/
theorem Joint.complete_forth {bodies₁ bodies₂ : List (Nat × Typed Ty)} {after₁ after₂ : State}
    (run₁ : complete left order config ready = (.ok bodies₁, after₁))
    (run₂ : complete right order' config ready' = (.ok bodies₂, after₂)) :
    ∃ bodies after, complete (left ++ right.map (DeclaredDecl.renumber (ready.nextVar + ·)))
      (order ++ order'.map (left.length + ·)) config both = (.ok bodies, after) := by
  obtain ⟨inner, own, solved⟩ := complete_iff.mp ((complete_elsewhere both.decl).mpr run₁)
  have acyclic : { ready with decl := both.decl }.subst.Acyclic := by
    change ready.subst.Acyclic
    rw [joint.first.subst]
    exact Subst.acyclic_empty
  have quiescent := defineAll_quiescent acyclic (.of_empty joint.first.worklist) own
  have done : inner.worklist = [] := @solve_final_quiescent config { inner with decl := "" } _ quiescent solved
  obtain ⟨first, outer, frame, defined, halfway⟩ := joint.halfway_of_first own
  have pending : frame.pending = [] := by
    rw [halfway.pending, halfway.worklist, done]
    rfl
  have own₂ := (complete_elsewhere outer.decl).mpr run₂
  obtain ⟨second, after, completed⟩ := (joint.second_completes halfway.rename halfway.encloses).forth pending _ _ own₂
  exact ⟨first ++ second, after, complete_append_iff.mpr ⟨_, _, _, defined, completed, rfl⟩⟩

end

end Session

end RefinementTypes.Checking
