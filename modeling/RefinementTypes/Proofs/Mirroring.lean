import RefinementTypes.Proofs.Framing

/-! Solving inside a frame. Comparing types, making instances and solving obligations do in a session that runs inside
another one what they do in a session of its own. -/

namespace RefinementTypes.Checking.Session

variable {frame : Frame} {hidden fewer : String → Prop} {config : Config} {inner outer before : State}

/-- A comparison that does not run out of depth may be given more. -/
theorem assignN_deeper {depth : Nat} {expected found : Ty}
    (enough : (assignN depth expected found config before).1 ≠ .error (.fault .depthLimit)) (more : Nat) :
    assignN (depth + more) expected found config before = assignN depth expected found config before := by
  induction depth generalizing expected found before with
  | zero => exact absurd rfl enough
  | succ depth ih =>
    rw [Nat.succ_add]
    by_cases trivial : expected = found ∨ expected.sameVar found ∨ found = .atom .bottom
    · simp only [assignN, if_pos trivial]
    simp only [assignN, if_neg trivial, boundTo_eq, read_bind] at enough ⊢
    cases known : before.subst.target expected with
    | some bound =>
      simp only [known] at enough
      exact ih enough
    | none =>
      cases known' : before.subst.target found with
      | some bound =>
        simp only [known, known', read_bind] at enough ⊢
        exact ih enough
      | none =>
        simp only [known, known', read_bind] at enough ⊢
        cases expected with
        | arrow domain codomain =>
          cases found with
          | arrow domain' codomain' =>
            change ((assignN depth domain' domain >>= fun _ => assignN depth codomain codomain') config before).1 ≠ _
              at enough
            have first : assignN (depth + more) domain' domain config before =
                assignN depth domain' domain config before :=
              ih fun limit => enough (bind_failed limit)
            change (assignN (depth + more) domain' domain >>= fun _ => assignN (depth + more) codomain codomain')
              config before = (assignN depth domain' domain >>= fun _ => assignN depth codomain codomain') config before
            cases run : assignN depth domain' domain config before with
            | mk result middle =>
              rw [run] at first
              cases result with
              | ok value =>
                rw [bind_run run] at enough ⊢
                rw [bind_run first]
                exact ih enough
              | error failure => rw [run_bind, run_bind, run, first]
          | atom | var | missing => rfl
        | atom | var | missing => cases found <;> rfl

private theorem assignUnbound_mirrors {again again' : Ty → Ty → Session Unit}
    (encloses : frame.Encloses hidden inner outer)
    (parts : ∀ expected found inner outer, frame.Encloses hidden inner outer →
      Mirrors frame hidden (again expected found)
        (again' (expected.renumber frame.rename) (found.renumber frame.rename)) config inner outer fun _ _ => True)
    (expected found : Ty) :
    Mirrors frame hidden (assignUnbound again expected found)
      (assignUnbound again' (expected.renumber frame.rename) (found.renumber frame.rename)) config inner outer
      fun _ _ => True := by
  have deferred : Mirrors frame hidden (postpone (.assignable expected found))
      (postpone (.assignable (expected.renumber frame.rename) (found.renumber frame.rename))) config inner outer
      fun _ _ => True := postpone_mirrors encloses _
  have compared : Mirrors frame hidden
      (if expected = .atom .error ∨ found = .atom .error then pure () else mismatch expected found)
      (if expected.renumber frame.rename = .atom .error ∨ found.renumber frame.rename = .atom .error then pure ()
        else mismatch (expected.renumber frame.rename) (found.renumber frame.rename))
      config inner outer fun _ _ => True := by
    simp only [Ty.renumber_eq_atom]
    exact .ite (fun _ => .pure encloses trivial) fun _ => .read .fail
  cases expected with
  | var v =>
    cases found with
    | var w =>
      exact .ite (fun _ => solveVar_mirrors encloses v _) fun _ =>
        .ite (fun _ => solveVar_mirrors encloses w _) fun _ => deferred
    | atom | arrow | missing => exact .ite (fun _ => solveVar_mirrors encloses v _) fun _ => deferred
  | arrow domain codomain =>
    cases found with
    | var w => exact .ite (fun _ => solveVar_mirrors encloses w _) fun _ => deferred
    | arrow domain' codomain' =>
      exact .bind (parts domain' domain inner outer encloses) fun _ _ _ _ _ encloses =>
        parts codomain codomain' _ _ encloses
    | atom | missing => exact compared
  | atom | missing =>
    cases found with
    | var w => exact .ite (fun _ => solveVar_mirrors encloses w _) fun _ => deferred
    | atom | arrow | missing => exact compared

private theorem assignN_mirrors (encloses : frame.Encloses hidden inner outer) (depth : Nat) (expected found : Ty) :
    Mirrors frame hidden (assignN depth expected found)
      (assignN depth (expected.renumber frame.rename) (found.renumber frame.rename)) config inner outer
      fun _ _ => True := by
  have target {type : Ty} {inner outer : State} (encloses : frame.Encloses hidden inner outer) :
      outer.subst.target (type.renumber frame.rename) =
        (inner.subst.target type).map (Ty.renumber frame.rename) := by
    cases type with
    | var v => exact encloses.bindings.lookup v.id trivial
    | atom | arrow | missing => rfl
  induction depth generalizing expected found inner outer with
  | zero => exact .fail
  | succ depth ih =>
    simp only [assignN, Ty.renumber_inj frame.injective, Ty.sameVar_renumber frame.injective, Ty.renumber_eq_atom]
    refine .ite (fun _ => .pure encloses trivial) fun _ => ?_
    simp only [boundTo_eq]
    apply Mirrors.read
    rw [target encloses]
    cases inner.subst.target expected with
    | some bound => exact ih encloses bound found
    | none =>
      apply Mirrors.read
      rw [target encloses]
      cases inner.subst.target found with
      | some bound => exact ih encloses expected bound
      | none => exact assignUnbound_mirrors encloses (fun expected found _ _ encloses => ih encloses expected found) _ _

theorem assign_mirrors (encloses : frame.Encloses hidden inner outer) (expected found : Ty) :
    Mirrors frame hidden (assign expected found)
      (assign (expected.renumber frame.rename) (found.renumber frame.rename)) config inner outer fun _ _ => True := by
  -- The depth depends on all bindings, but neither comparison uses up its own.
  have deep {state : State} (acyclic : state.subst.Acyclic) (expected found : Ty) (more : Nat) :
      assign expected found config state =
        assignN (assignDepth state.subst expected found + more) expected found config state := by
    symm
    apply assignN_deeper
    intro limit
    have failed : (assign expected found config state).1 = .error (.fault .depthLimit) := limit
    cases assign_incomparable acyclic failed
  have run := deep encloses.bindings.acyclic expected found
    (assignDepth outer.subst (expected.renumber frame.rename) (found.renumber frame.rename))
  have run' := deep encloses.bindings.acyclic' (expected.renumber frame.rename) (found.renumber frame.rename)
    (assignDepth inner.subst expected found)
  rw [Nat.add_comm] at run'
  exact .of_run run run' (assignN_mirrors encloses _ expected found)

theorem splitFunction_mirrors (encloses : frame.Encloses hidden inner outer) (type : Ty) :
    Mirrors frame hidden (splitFunction type) (splitFunction (type.renumber frame.rename)) config inner outer
      fun parts parts' => parts' = (parts.1.renumber frame.rename, parts.2.renumber frame.rename) := by
  apply Mirrors.read
  rw [encloses.bindings.shallow]
  cases inner.subst.shallow type with
  | arrow domain codomain => exact .pure encloses rfl
  | var v =>
    refine .bind (freshVar_mirrors encloses .mutable) fun domain _ _ _ same encloses => ?_
    subst same
    refine .bind (freshVar_mirrors encloses .mutable) fun codomain _ _ _ same encloses => ?_
    subst same
    exact .bind (assign_mirrors encloses (.arrow (.var domain) (.var codomain)) (.var v)) fun _ _ _ _ _ encloses =>
      .pure encloses rfl
  | atom a =>
    cases a with
    | error => exact .pure encloses rfl
    | bottom | bool | regex | range | string | named => exact .fail
  | missing => exact .fail

private theorem freshParams_mirrors (encloses : frame.Encloses hidden inner outer) (params : List String) :
    Mirrors frame hidden (freshParams params) (freshParams params) config inner outer fun params params' =>
      params' = renumberParams frame.rename params := by
  refine .of_ok (freshParams_run params config inner) (freshParams_run params config outer) ?_ (encloses.issue _)
  rw [encloses.nextVar, paramsFrom_renumber encloses.steady]

private theorem instanceOf_mirrors (encloses : frame.Encloses hidden inner outer) (params : List (String × Ty))
    (type : Ty) : Mirrors frame hidden (instanceOf params type)
      (instanceOf (renumberParams frame.rename params) (type.renumber frame.rename)) config inner outer
      fun type type' => type' = type.renumber frame.rename := by
  obtain ⟨after, run, alike⟩ := instanceOf_copies encloses.bindings.acyclic params type
  obtain ⟨after', run', alike'⟩ := instanceOf_copies encloses.bindings.acyclic' (renumberParams frame.rename params)
    (type.renumber frame.rename)
  rw [encloses.bindings.apply type fun _ _ => trivial] at run' alike'
  have copied := (encloses.issue (inner.subst.apply type).vars.length).defer
    (copies params inner.nextVar (inner.subst.apply type))
  refine .of_ok run run' ?_ ?_
  · rw [encloses.nextVar, copy_renumber encloses.steady]
  · have left := (instanceOf_uses (.refl _) params type).leaves run
    have left' := (instanceOf_uses (.refl _) _ _).leaves run'
    constructor
    · rw [alike.nextVar, alike'.nextVar]
      simpa using copied.nextVar
    · intro id least
      rw [alike.nextVar] at least
      exact copied.steady id least
    · rw [alike.subst, alike'.subst]
      exact copied.bindings
    · rw [alike'.subst]
      exact copied.others
    · rw [alike.subst, alike'.subst]
      exact copied.size
    · rw [alike.worklist, alike'.worklist, encloses.nextVar, copies_renumber encloses.steady]
      exact copied.worklist
    · rw [alike.scope, alike'.scope]
      exact copied.scope
    · rw [left.warnings (by decide), left'.warnings (by decide), encloses.warnings]
    · rw [left.decl (by decide), left'.decl (by decide), encloses.decl]
    · exact ⟨alike.cache ▸ copied.intact.cache, alike.store ▸ copied.intact.store⟩
    · exact ⟨alike'.cache ▸ copied.intact'.cache, alike'.store ▸ copied.intact'.store⟩

theorem instantiate_mirrors (encloses : frame.Encloses hidden inner outer) (name : String) (template : Template) :
    Mirrors frame hidden (instantiate name template) (instantiate name (template.renumber frame.rename)) config inner
      outer fun type type' => type' = type.renumber frame.rename := by
  unfold instantiate
  refine .ite (fun _ => .pure encloses rfl) fun _ => ?_
  refine .bind (freshParams_mirrors encloses template.params) fun params _ _ _ same encloses => ?_
  subst same
  refine .bind (instanceOf_mirrors encloses params template.type) fun type _ _ _ same encloses => ?_
  subst same
  exact .bind (.trace encloses) fun _ _ _ _ _ encloses => .pure encloses rfl

private theorem judgeText_mirrors (encloses : frame.Encloses hidden inner outer) (pattern text : String) :
    Mirrors frame hidden (judgeText pattern text) (judgeText pattern text) config inner outer fun _ _ => True := by
  refine .bind (consult_mirrors encloses pattern text) fun answer _ _ _ same encloses => ?_
  subst same
  cases answer with
  | error problem => exact .fail
  | ok accepted =>
    cases accepted with
    | true => exact .pure encloses trivial
    | false => exact .fail

theorem conform_mirrors (encloses : frame.Encloses hidden inner outer) (literal : Option Literal) (type : Ty) :
    Mirrors frame hidden (conform literal type) (conform literal (type.renumber frame.rename)) config inner outer
      fun _ _ => True := by
  apply Mirrors.read
  rw [encloses.bindings.shallow]
  cases inner.subst.shallow type with
  | var v => exact postpone_mirrors encloses (.conforms literal (.var v))
  | arrow | missing => cases literal <;> exact .fail
  | atom a =>
    cases literal with
    | none =>
      cases a with
      | error => exact .pure encloses trivial
      | bottom | bool | regex | range | string | named => exact .fail
    | some value =>
      cases a with
      | error => exact .pure encloses trivial
      | bool =>
        cases value with
        | bool => exact .pure encloses trivial
        | int | string | regex => exact .fail
      | regex =>
        cases value with
        | regex => exact .pure encloses trivial
        | bool | int | string => exact .fail
      | range low high =>
        cases value with
        | int value => exact .ite (fun _ => .pure encloses trivial) fun _ => .fail
        | bool | string | regex => exact .fail
      | string pattern =>
        cases value with
        | string text => exact judgeText_mirrors encloses pattern text
        | bool | int | regex => exact .fail
      | bottom | named => exact .fail

private theorem discharge_mirrors (encloses : frame.Encloses hidden inner outer) (obligation : Obligation) :
    Mirrors frame hidden (discharge obligation) (discharge (obligation.renumber frame.rename)) config inner outer
      fun _ _ => True := by
  cases obligation with
  | conforms literal type => exact conform_mirrors encloses literal type
  | assignable expected found => exact assign_mirrors encloses expected found
  | instantiated params fresh generic =>
    apply Mirrors.read
    dsimp only
    rw [encloses.bindings.lookup generic.id trivial]
    cases inner.subst.lookup generic.id with
    | none => exact postpone_mirrors encloses (.instantiated params fresh generic)
    | some bound =>
      refine .bind (instanceOf_mirrors encloses params bound) fun type _ _ _ same encloses => ?_
      subst same
      exact assign_mirrors encloses (.var fresh) type

private theorem dischargeAll_mirrors (encloses : frame.Encloses hidden inner outer) (obligations : List Obligation) :
    Mirrors frame hidden (dischargeAll obligations)
      (dischargeAll (obligations.map (Obligation.renumber frame.rename))) config inner outer Eq := by
  have length {inner outer : State} (encloses : frame.Encloses hidden inner outer) :
      outer.worklist.length = frame.pending.length + inner.worklist.length := by
    simp [encloses.worklist]
  induction obligations generalizing inner outer with
  | nil => exact .pure encloses rfl
  | cons obligation rest ih =>
    apply Mirrors.read
    refine .bind (discharge_mirrors encloses obligation) fun _ _ middle middle' _ encloses' => ?_
    apply Mirrors.read
    refine .bind (ih encloses') fun settled _ _ _ same encloses'' => ?_
    subst same
    refine .pure encloses'' ?_
    simp only [length encloses, length encloses', Nat.add_left_cancel_iff]

/-- A round of the outer session puts off what is pending in the frame and then takes up what the inner session
takes up. -/
theorem takeUp_mirrors (encloses : frame.Encloses hidden inner outer) :
    Mirrors frame hidden takeUp takeUp config inner outer Eq := by
  have blocked : ∀ obligation ∈ frame.pending, obligation.Blocked { outer with worklist := [] }.subst :=
    encloses.blocked
  obtain ⟨lines, run⟩ := dischargeAll_pending config blocked (inner.worklist.map (Obligation.renumber frame.rename))
  rw [← encloses.worklist] at run
  have mirrors : Mirrors frame hidden _ _ config _ _ Eq := dischargeAll_mirrors (encloses.take lines) inner.worklist
  constructor
  · intro settled after' again
    exact mirrors.back settled after' (run.symm.trans again)
  · intro none settled after again
    obtain ⟨settled', after', again'⟩ := mirrors.forth none settled after again
    exact ⟨settled', after', run.trans again'⟩

private theorem stuck_mirrors (encloses : frame.Encloses hidden inner outer) (final : Bool) :
    Mirrors frame hidden (stuck final) (stuck final) config inner outer fun _ _ => True := by
  cases final with
  | true => exact .read (.read .fail)
  | false => exact .pure encloses trivial

/-- Where the inner session has nothing to solve, the outer one stops after a round that changes nothing. -/
theorem solveFrom_idle (encloses : frame.Encloses hidden inner outer) (none : inner.worklist = []) (final : Bool)
    (limit round : Nat) :
    Mirrors frame hidden (solveFrom final limit round) (solveFrom final limit round) config inner outer
      fun _ _ => True := by
  by_cases pending : frame.pending = []
  · have none' : outer.worklist = [] := by simp [encloses.worklist, none, pending]
    exact .of_ok (solveFrom_nil none) (solveFrom_nil none') trivial encloses
  have some : outer.worklist ≠ [] := by simp [encloses.worklist, pending]
  cases limit with
  | zero =>
    apply Mirrors.stop pending
    intro _ _ run
    rw [solveFrom_zero some] at run
    cases run
  | succ limit =>
    obtain ⟨line, run'⟩ := @solveFrom_succ config outer limit round some
    have run : solveFrom final (limit + 1) round config inner = (takeUp >>= fun _ => pure ()) config inner := by
      rw [solveFrom_nil none, bind_run (takeUp_nil none)]
      rfl
    refine .of_run run (run' final) ?_
    refine .thread (takeUp_mirrors encloses) fun settled _ middle middle' taken _ same encloses' => ?_
    cases (takeUp_nil none).symm.trans taken
    subst same
    have still : middle'.subst.size = outer.subst.size := by rw [encloses.size, encloses'.size]
    have traced : Mirrors frame hidden (pure ()) (trace (line 0 middle'.subst.size)) config inner middle'
        fun _ _ => True := by
      refine .of_ok rfl rfl trivial ?_
      split
      next => exact encloses'.traced inner.trace _
      next => exact encloses'
    have stops : Mirrors frame hidden (pure () >>= fun _ => pure ()) (trace (line 0 middle'.subst.size) >>= fun _ =>
        if 0 = 0 ∧ middle'.subst.size = outer.subst.size then stuck final else solveFrom final limit (round + 1))
        config inner middle' fun _ _ => True := by
      refine .bind traced fun _ _ _ _ _ encloses => ?_
      rw [if_pos ⟨rfl, still⟩]
      cases final with
      | true => exact .stop pending fun _ _ refused => by cases refused
      | false => exact .pure encloses trivial
    have silent : (pure () : Session Unit) config inner = (pure () >>= fun _ => pure () : Session Unit) config inner :=
      rfl
    exact .of_run silent (read_bind _ _ _ _) stops

private theorem solveFrom_mirrors (encloses : frame.Encloses hidden inner outer) (final : Bool) (limit round : Nat) :
    Mirrors frame hidden (solveFrom final limit round) (solveFrom final limit round) config inner outer
      fun _ _ => True := by
  induction limit generalizing inner outer round with
  | zero =>
    by_cases none : inner.worklist = []
    · exact solveFrom_idle encloses none final 0 round
    · have some : outer.worklist ≠ [] := by simp [encloses.worklist, none]
      exact .of_run (solveFrom_zero none) (solveFrom_zero some) .fail
  | succ limit ih =>
    by_cases none : inner.worklist = []
    · exact solveFrom_idle encloses none final (limit + 1) round
    have some : outer.worklist ≠ [] := by simp [encloses.worklist, none]
    obtain ⟨line, run⟩ := @solveFrom_succ config inner limit round none
    obtain ⟨line', run'⟩ := @solveFrom_succ config outer limit round some
    refine .of_run (run final) (run' final)
      (.bind (takeUp_mirrors encloses) fun settled _ middle middle' same encloses' => .read ?_)
    subst same
    refine .bind (.trace encloses') fun _ _ _ _ _ encloses'' => ?_
    have still : middle'.subst.size = outer.subst.size ↔ middle.subst.size = inner.subst.size := by
      rw [encloses.size, encloses'.size]
      omega
    simp only [still]
    exact .ite (fun _ => stuck_mirrors encloses'' final) fun _ => ih encloses'' (round + 1)

theorem solve_mirrors (encloses : frame.Encloses hidden inner outer) (final : Bool) :
    Mirrors frame hidden (solve final) (solve final) config inner outer fun _ _ => True :=
  .asking (solveFrom_mirrors encloses final config.roundLimit 1)

end RefinementTypes.Checking.Session
