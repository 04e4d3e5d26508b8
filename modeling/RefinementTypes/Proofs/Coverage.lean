import RefinementTypes.Dependencies.Analysis
import RefinementTypes.Proofs.Invariant
import RefinementTypes.Proofs.LowLinks

/-! The dependency order leaves no declaration out and has none twice: a scan records references to declared
vertices only, so that the components of its graph together hold just those. -/

namespace RefinementTypes

namespace Digraph

variable {g : Digraph}

theorem size_addEdge (source target : Nat) : (g.addEdge source target).size = g.size := by
  unfold addEdge
  split
  next => rfl
  next => simp [size]

private theorem mem_succ_addEdge {source target u v : Nat} (member : u ∈ (g.addEdge source target).succ v) :
    u ∈ g.succ v ∨ u = target := by
  unfold addEdge at member
  split at member
  next => exact .inl member
  next =>
    simp only [succ, List.getD_eq_getElem?_getD, List.getElem?_modify] at member ⊢
    cases found : g.successors[v]? with
    | none => simp [found] at member
    | some targets =>
      simp only [found, Option.getD_some] at member ⊢
      split at member
      next => simpa using member
      next => exact .inl member

end Digraph

namespace Dependencies

/-- All that a scan refers to are vertices below a number. -/
structure Scan.InRange (count : Nat) (scan : Scan) : Prop where
  size : scan.graph.size = count
  edges : ∀ v, ∀ u ∈ scan.graph.succ v, u < count
  table : ∀ entry ∈ scan.table.entries, ∀ vertex, entry.2 = .decl vertex → vertex < count
  replaced : ∀ entry ∈ scan.replaced, ∀ vertex, entry.2 = some (.decl vertex) → vertex < count

variable {count : Nat} {scan : Scan}

private theorem shadow_inRange (inRange : scan.InRange count) (name : String) : (shadow scan name).InRange count where
  size := inRange.size
  edges := inRange.edges
  table entry member vertex same := by
    rcases NameMap.mem_insert member with rfl | before
    · cases same
    · exact inRange.table entry before vertex same
  replaced := by
    refine List.forall_mem_cons.mpr ⟨fun vertex found => ?_, inRange.replaced⟩
    exact inRange.table _ (NameMap.mem_of_find? found) vertex rfl

private theorem unshadow_inRange (inRange : scan.InRange count) : (unshadow scan).InRange count := by
  have replaced := inRange.replaced
  unfold unshadow
  split
  next => exact inRange
  next name referent rest same =>
    rw [same] at replaced
    obtain ⟨first, others⟩ := List.forall_mem_cons.mp replaced
    refine ⟨inRange.size, inRange.edges, fun entry member vertex same => ?_, others⟩
    rcases NameMap.mem_insert member with rfl | before
    · exact first vertex (congrArg some same)
    · exact inRange.table entry before vertex same
  next name rest same =>
    rw [same] at replaced
    refine ⟨inRange.size, inRange.edges, fun entry member => ?_, (List.forall_mem_cons.mp replaced).2⟩
    exact inRange.table entry (List.mem_filter.mp member).1

/-- However a step of a scan ends, what it refers to is in range, and a fault is that of a pattern. -/
def Bounded {α : Type} (count : Nat) (step : Scanner α) : Prop :=
  ∀ scan : Scan, scan.InRange count → (step scan).2.InRange count ∧
    ∀ cause, (step scan).1 = .error (.fault cause) → ∃ form, cause = .patForm form

theorem Bounded.pure {α : Type} (value : α) : Bounded count (Pure.pure value : Scanner α) :=
  fun _ inRange => ⟨inRange, fun _ failed => by cases failed⟩

private theorem Bounded.throw {α : Type} {problem : Problem} (other : ∀ cause, problem ≠ .fault cause) :
    Bounded count (MonadExcept.throw problem : Scanner α) :=
  fun _ inRange => ⟨inRange, fun cause failed => by cases failed; exact absurd rfl (other cause)⟩

private theorem Bounded.bind {α β : Type} {step : Scanner α} {next : α → Scanner β} (first : Bounded count step)
    (rest : ∀ value, Bounded count (next value)) : Bounded count (step >>= next) := by
  intro scan inRange
  have middle := first scan inRange
  change (ExceptT.bindCont next (step scan).1 (step scan).2).2.InRange count ∧
    ∀ cause, (ExceptT.bindCont next (step scan).1 (step scan).2).1 = .error (.fault cause) → _
  cases outcome : (step scan).1 with
  | error problem =>
    refine ⟨middle.1, fun cause failed => middle.2 cause ?_⟩
    cases failed
    exact outcome
  | ok value => exact rest value _ middle.1

private theorem inScopeOf_bounded (normalize : String → String) (pat : Pat) {step : Scanner Unit}
    (bounded : Bounded count step) : Bounded count (inScopeOf normalize pat step) := by
  intro scan inRange
  unfold inScopeOf
  cases pat.binders with
  | error form => exact ⟨inRange, fun cause failed => by cases failed; exact ⟨form, rfl⟩⟩
  | ok names =>
    have entering : ∀ (names : List String) (scan : Scan), scan.InRange count →
        (names.foldl shadow scan).InRange count := by
      intro names
      induction names with
      | nil => exact fun _ => id
      | cons name rest ih => exact fun scan inRange => ih _ (shadow_inRange inRange name)
    have leaving : ∀ (names : List String) (scan : Scan), scan.InRange count →
        (names.foldl (fun scan _ => unshadow scan) scan).InRange count := by
      intro names
      induction names with
      | nil => exact fun _ => id
      | cons name rest ih => exact fun scan inRange => ih _ (unshadow_inRange inRange)
    have inner := bounded _ (entering (names.map normalize) scan inRange)
    exact ⟨leaving names _ inner.1, inner.2⟩

private theorem refer_bounded (current : Nat) (name : String) : Bounded count (refer current name) := by
  intro scan inRange
  refine ⟨?_, fun _ failed => by cases failed⟩
  have run (change : Scan → Scan) : (modify change : Scanner Unit) scan = (.ok (), change scan) := rfl
  rw [refer, run]
  dsimp only
  split
  next vertex found =>
    have target := inRange.table _ (NameMap.mem_of_find? found) vertex rfl
    refine ⟨?_, fun v u member => ?_, inRange.table, inRange.replaced⟩
    · rw [Digraph.size_addEdge]
      exact inRange.size
    · rcases Digraph.mem_succ_addEdge member with before | rfl
      · exact inRange.edges v u before
      · exact target
  next => exact inRange

mutual

private theorem scanExpr_bounded (normalize : String → String) (current : Nat) (expr : Expr) :
    Bounded count (scanExpr normalize current expr) := by
  cases expr with
  | name label => rw [scanExpr]; exact refer_bounded current _
  | anno expr type => rw [scanExpr]; exact scanExpr_bounded normalize current expr
  | lam pat body => rw [scanExpr]; exact inScopeOf_bounded normalize pat (scanExpr_bounded normalize current body)
  | letElse pat bound thenBranch elseBranch =>
    rw [scanExpr]
    refine .bind (scanExpr_bounded normalize current bound) fun _ => inScopeOf_bounded normalize pat ?_
    exact .bind (scanExpr_bounded normalize current thenBranch) fun _ => scanExpr_bounded normalize current elseBranch
  | call func arg =>
    rw [scanExpr]
    exact .bind (scanExpr_bounded normalize current func) fun _ => scanExpr_bounded normalize current arg
  | op operator args => rw [scanExpr]; exact scanAll_bounded normalize current args
  | lit | impossible | invalid => rw [scanExpr]; exact .pure ()
  | foreign | missing => rw [scanExpr]; exact .throw fun _ same => by cases same

theorem scanAll_bounded (normalize : String → String) (current : Nat) (exprs : List Expr) :
    Bounded count (scanAll normalize current exprs) := by
  cases exprs with
  | nil => rw [scanAll]; exact .pure ()
  | cons expr rest =>
    rw [scanAll]
    exact .bind (scanExpr_bounded normalize current expr) fun _ => scanAll_bounded normalize current rest

end

theorem scanDecls_bounded (normalize : String → String) (current : Nat) (decls : List Decl) :
    Bounded count (scanDecls normalize current decls) := by
  induction decls generalizing current with
  | nil => exact .pure ()
  | cons decl rest ih => exact .bind (scanExpr_bounded normalize current decl.body) fun _ => ih _

theorem start_inRange (normalize : String → String) (decls : List Decl) :
    (start normalize decls).InRange decls.length where
  size := by simp [start, Digraph.edgeless, Digraph.size]
  edges v u member := by
    simp only [start, Digraph.edgeless, Digraph.succ, List.getD_eq_getElem?_getD, List.getElem?_replicate] at member
    split at member <;> cases member
  table := by
    have run : ∀ (entries : List (Decl × Nat)) (table : NameMap Referent),
        (∀ entry ∈ entries, entry.2 < decls.length) →
        (∀ entry ∈ table.entries, ∀ vertex, entry.2 = .decl vertex → vertex < decls.length) →
        ∀ entry ∈ (entries.foldl (fun table entry =>
          table.insert (normalize entry.1.name) (.decl entry.2)) table).entries, ∀ vertex,
          entry.2 = .decl vertex → vertex < decls.length := by
      intro entries
      induction entries with
      | nil => exact fun _ _ held => held
      | cons first rest ih =>
        intro table inside held
        obtain ⟨here, others⟩ := List.forall_mem_cons.mp inside
        refine ih _ others fun entry member vertex same => ?_
        rcases NameMap.mem_insert member with rfl | before
        · cases same
          exact here
        · exact held entry before vertex same
    refine run _ _ (fun entry member => ?_) fun _ member => by cases member
    have place := List.mem_zipIdx member
    omega
  replaced _ member := by cases member

/-- If the analysis finds no problem, its graph is one of all declarations, and the dependency order that of its
components. -/
theorem analysed_graph {normalize : String → String} {decls : List Decl}
    (analysed : (analyze normalize decls).problem = none) :
    (analyze normalize decls).scan.graph.size = decls.length ∧ (analyze normalize decls).scan.graph.Closed ∧
      (analyze normalize decls).order = (analyze normalize decls).scan.graph.components.flatten := by
  have bounded := (scanDecls_bounded normalize 0 decls _ (start_inRange normalize decls)).1
  unfold analyze at analysed ⊢
  split at analysed
  next scan scanned =>
    rw [scanned] at bounded
    exact ⟨bounded.size, fun v _ u member => bounded.size.symm ▸ bounded.edges v u member, rfl⟩
  next => cases analysed

/-- If the analysis finds no problem, every declaration has one place in the dependency order. -/
theorem order_perm {normalize : String → String} {decls : List Decl}
    (analysed : (analyze normalize decls).problem = none) :
    (analyze normalize decls).order.Perm (List.range decls.length) := by
  obtain ⟨size, closed, order⟩ := analysed_graph analysed
  rw [order, ← size]
  exact Digraph.components_perm closed

/-- The only faults that an analysis ends with are patterns of an unknown form. -/
theorem analyze_fault {normalize : String → String} {decls : List Decl} {cause : Fault}
    (failed : (analyze normalize decls).problem = some (.fault cause)) : ∃ form, cause = .patForm form := by
  have faults := (scanDecls_bounded normalize 0 decls _ (start_inRange normalize decls)).2
  unfold analyze at failed
  split at failed
  next => cases failed
  next problem scan scanned =>
    cases failed
    exact faults cause (by rw [scanned])

end Dependencies

end RefinementTypes
