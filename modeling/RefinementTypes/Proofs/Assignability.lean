import RefinementTypes.Proofs.Footprints

/-! Soundness of assignability. A comparison that succeeds may have bound variables and put off
comparisons with variables that others own. Whatever trees the variables come to stand for, if they
agree with the bindings and meet what was put off, then what was found can be used where the other
type was expected. -/

namespace RefinementTypes.Checking

theorem State.Grows.agrees {before after : State} {assigned : Assignment}
    (grows : before.Grows after) (agrees : after.subst.Agrees assigned) :
    before.subst.Agrees assigned :=
  fun id type found => agrees id type (grows.bindings id type found)

namespace Session

variable {config : Config} {before after : State}

theorem postpone_worklist {obligation : Obligation}
    (run : postpone obligation config before = (.ok (), after)) :
    after.worklist = before.worklist ++ [obligation] := by
  obtain ⟨_, ran, alike⟩ := postpone_run obligation config before
  rw [run] at ran
  cases ran
  exact alike.worklist

private theorem solveVar_lookup {var : TyVar} {type : Ty} (run : solveVar var type config before = (.ok (), after)) :
    after.subst.lookup var.id = some type ∧ after.worklist = before.worklist := by
  obtain ⟨_, _, alike⟩ := solveVar_ok run
  rw [alike.subst, alike.worklist]
  exact ⟨by simp [Subst.lookup_insert], rfl⟩

/-- What a comparison of two types has left behind, if it succeeds: comparisons of other types, which
together with the bindings vouch for it. -/
def Defers (before after : State) (expected found : Ty) : Prop :=
  ∃ deferred : List (Ty × Ty),
    after.worklist = before.worklist ++ deferred.map (fun pair => .assignable pair.1 pair.2) ∧
      ∀ assigned, after.subst.Agrees assigned →
        (∀ pair ∈ deferred, (pair.1.image assigned).Admits (pair.2.image assigned)) →
          (expected.image assigned).Admits (found.image assigned)

private theorem Defers.nothing {expected found : Ty} (same : after.worklist = before.worklist)
    (admits : ∀ assigned, after.subst.Agrees assigned →
      (expected.image assigned).Admits (found.image assigned)) : Defers before after expected found :=
  ⟨[], by simpa using same, fun assigned agrees _ => admits assigned agrees⟩

private theorem Defers.replace {expected found expected' found' : Ty} (defers : Defers before after expected' found')
    (left : ∀ assigned, after.subst.Agrees assigned → expected.image assigned = expected'.image assigned)
    (right : ∀ assigned, after.subst.Agrees assigned → found.image assigned = found'.image assigned) :
    Defers before after expected found := by
  obtain ⟨deferred, grown, admits⟩ := defers
  refine ⟨deferred, grown, fun assigned agrees met => ?_⟩
  rw [left assigned agrees, right assigned agrees]
  exact admits assigned agrees met

private theorem Defers.arrow {middle : State} {domain codomain domain' codomain' : Ty}
    (argument : Defers before middle domain' domain) (result : Defers middle after codomain codomain')
    (grows : middle.Grows after) :
    Defers before after (.arrow domain codomain) (.arrow domain' codomain') := by
  obtain ⟨first, grown, admits⟩ := argument
  obtain ⟨last, grown', admits'⟩ := result
  refine ⟨first ++ last, by rw [grown', grown]; simp, fun assigned agrees met => ?_⟩
  have early := admits assigned (grows.agrees agrees) fun pair member => met pair (List.mem_append_left _ member)
  have late := admits' assigned agrees fun pair member => met pair (List.mem_append_right _ member)
  exact .arrow early late

theorem assignN_defers {depth : Nat} {expected found : Ty}
    (run : assignN depth expected found config before = (.ok (), after)) :
    Defers before after expected found := by
  induction depth generalizing expected found before after with
  | zero => cases run
  | succ depth ih =>
    -- Bindings that made the comparison take a rule are still there when it ends.
    have grows := grows_of_run run
    obtain ⟨step, rule, taken⟩ := assignN_comparison depth expected found config before
    rw [taken.run] at run
    cases rule with
    | alike same =>
      cases run
      refine .nothing rfl fun assigned _ => ?_
      rcases same with rfl | same
      · exact .refl _
      · rw [Ty.image_of_sameVar assigned same]
        exact .refl _
    | bottom expected =>
      cases run
      exact .nothing rfl fun _ _ => .bottom _
    | reported either =>
      cases run
      refine .nothing rfl fun assigned _ => ?_
      rcases either with rfl | rfl
      · exact .errorExpected _
      · exact .errorFound _
    | expectedBound known =>
      exact (ih run).replace (fun _ agrees => grows.agrees agrees _ _ known) fun _ _ => rfl
    | foundBound _ known =>
      exact (ih run).replace (fun _ _ => rfl) fun _ agrees => grows.agrees agrees _ _ known
    | bindExpected =>
      obtain ⟨bound, kept⟩ := solveVar_lookup run
      refine .nothing kept fun assigned agrees => ?_
      rw [Ty.image, agrees _ _ bound]
      exact .refl _
    | bindFound =>
      obtain ⟨bound, kept⟩ := solveVar_lookup run
      refine .nothing kept fun assigned agrees => ?_
      rw [Ty.image, agrees _ _ bound]
      exact .refl _
    | defer =>
      refine ⟨[(expected, found)], postpone_worklist run, fun assigned _ met => ?_⟩
      exact met (expected, found) List.mem_cons_self
    | arrows domain codomain domain' codomain' =>
      obtain ⟨_, middle, first, last⟩ := bind_ok run
      exact .arrow (ih first) (ih last) (grows_of_run last)
    | clash => cases run

/-- Whatever trees variables stand for, if they agree with the bindings after a comparison that
succeeds and meet the comparisons that it has put off, then the expected type admits what was found. -/
theorem assign_admits (config : Config) (before after : State) (expected found : Ty)
    (run : assign expected found config before = (.ok (), after)) :
    ∃ deferred : List (Ty × Ty),
      after.worklist = before.worklist ++ deferred.map (fun pair => .assignable pair.1 pair.2) ∧
        ∀ assigned : Assignment, after.subst.Agrees assigned →
          (∀ pair ∈ deferred, (pair.1.image assigned).Admits (pair.2.image assigned)) →
            (expected.image assigned).Admits (found.image assigned) := by
  unfold assign at run
  rw [read_bind] at run
  exact assignN_defers run

/-- The domain is bound on the spot, and the comparison of the codomains is put off. -/
theorem assign_admits_function :
    let expected : Ty := .arrow (.var ⟨0, .mutable⟩) (.var ⟨1, .immutable⟩)
    let found : Ty := .arrow (.atom .bool) (.atom .regex)
    let before : State := { State.fresh .empty with nextVar := 2 }
    let config : Config := ⟨id, .regular, true, false, 8⟩
    let outcome := assign expected found config before
    outcome.1 = .ok () ∧ outcome.2.worklist = [.assignable (.var ⟨1, .immutable⟩) (.atom .regex)] ∧
      ∃ deferred : List (Ty × Ty),
        outcome.2.worklist = before.worklist ++ deferred.map (fun pair => .assignable pair.1 pair.2) ∧
          ∀ assigned : Assignment, outcome.2.subst.Agrees assigned →
            (∀ pair ∈ deferred, (pair.1.image assigned).Admits (pair.2.image assigned)) →
              (expected.image assigned).Admits (found.image assigned) := by
  intro expected found before config outcome
  exact ⟨rfl, rfl, assign_admits config before outcome.2 expected found rfl⟩

end Session

end RefinementTypes.Checking
