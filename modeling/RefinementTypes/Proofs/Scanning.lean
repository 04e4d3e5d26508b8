import RefinementTypes.Proofs.Components
import RefinementTypes.Proofs.Erasure
import RefinementTypes.Proofs.References

/-! The order of declarations that refer to nothing of each other. A scan of bodies that can be checked ends well. So
such declarations have graphs side by side, and the bodies of the one set are ordered before those of the other. -/

namespace RefinementTypes

def Pat.binds (normalize : String → String) (pat : Pat) (name : String) : Bool :=
  match pat.binders with
  | .ok labels => (labels.map normalize).contains name
  | .error _ => false

namespace Expr

mutual
/-- The names that are free in an expression, in all its parts. -/
def occurrences (normalize : String → String) : Expr → List String
  | name label => [normalize label]
  | anno expr _ => expr.occurrences normalize
  | lam pat body => (body.occurrences normalize).filter fun name => !pat.binds normalize name
  | letElse pat bound thenBranch elseBranch =>
    bound.occurrences normalize ++ (thenBranch.occurrences normalize ++ elseBranch.occurrences normalize).filter
      fun name => !pat.binds normalize name
  | call func arg => func.occurrences normalize ++ arg.occurrences normalize
  | op _ args => occurrencesAll normalize args
  | lit _ | impossible | invalid | foreign _ | missing => []

def occurrencesAll (normalize : String → String) : List Expr → List String
  | [] => []
  | expr :: rest => expr.occurrences normalize ++ occurrencesAll normalize rest
end

end Expr

private theorem Pat.Supported.binds {pat : Pat} (supported : pat.Supported) (normalize : String → String) :
    pat.binds normalize = pat.hides normalize := by
  funext name
  cases pat with
  | bind label => simp [Pat.binds, Pat.binders, Pat.hides, eq_comm]
  | wildcard | lit => rfl
  | constructor | apply | foreign | missing => cases supported

theorem Expr.Supported.occurrences {expr : Expr} (supported : expr.Supported) (normalize : String → String) :
    expr.occurrences normalize = expr.freeNames normalize := by
  fun_induction Expr.Supported expr with
  | case1 expr type ih => rw [Expr.occurrences, ih supported, Expr.freeNames]
  | case2 pat body ih => rw [Expr.occurrences, ih supported.2, supported.1.binds, Expr.freeNames]
  | case3 pat bound thenBranch elseBranch first second third =>
    obtain ⟨here, bound, left, right⟩ := supported
    rw [Expr.occurrences, first bound, second left, third right, here.binds, Expr.freeNames]
  | case4 func arg first second => rw [Expr.occurrences, first supported.1, second supported.2, Expr.freeNames]
  | case5 | case6 | case7 | case8 => rw [Expr.occurrences, Expr.freeNames]
  | case9 | case10 | case11 => cases supported

theorem Pat.Supported.introduces {pat : Pat} (supported : pat.Supported) (normalize : String → String) (name : String) :
    pat.introduces normalize name = pat.hides normalize name := by
  cases pat with
  | bind label => simp [Pat.introduces, Pat.hides, Bool.beq_eq_decide_eq]
  | wildcard | lit => rfl
  | constructor | apply | foreign | missing => cases supported

private theorem Expr.Supported.freeIn {expr : Expr} (supported : expr.Supported) (normalize : String → String) :
    freeIn normalize expr.uses = expr.freeNames normalize := by
  fun_induction Expr.Supported expr with
  | case1 expr type ih => rw [Expr.uses, ih supported, Expr.freeNames]
  | case2 pat body ih =>
    rw [Expr.uses, freeIn_under, ih supported.2, Expr.freeNames]
    simp only [supported.1.introduces]
  | case3 pat bound thenBranch elseBranch first second third =>
    obtain ⟨here, bound, left, right⟩ := supported
    rw [Expr.uses, freeIn_append, freeIn_under, freeIn_append, first bound, second left, third right, Expr.freeNames]
    simp only [here.introduces]
  | case4 func arg first second =>
    rw [Expr.uses, freeIn_append, first supported.1, second supported.2, Expr.freeNames]
  | case5 | case6 | case7 | case8 => rw [Expr.uses, Expr.freeNames]; rfl
  | case9 | case10 | case11 => cases supported

namespace Digraph

variable {g h : Digraph}

private theorem addEdge_beside_left {source : Nat} (inside : source < g.size) (target : Nat) :
    (g.beside h).addEdge source target = (g.addEdge source target).beside h := by
  have size := @size_addEdge g source target
  simp only [addEdge, hasEdge_beside_left inside] at size ⊢
  split
  next => rfl
  next absent =>
    rw [if_neg absent] at size
    rw [beside, beside, size]
    refine congrArg Digraph.mk (List.ext_getElem? fun place => ?_)
    simp only [List.getElem?_modify, List.getElem?_append, List.length_modify]
    by_cases before : place < g.successors.length
    · simp only [if_pos before]
    · have other : source ≠ place := fun same => before (same ▸ inside)
      simp [if_neg before, other]

private theorem addEdge_beside_right (source target : Nat) :
    (g.beside h).addEdge (g.size + source) (g.size + target) = g.beside (h.addEdge source target) := by
  rw [addEdge, hasEdge_beside_right, addEdge]
  split
  next => rfl
  next =>
    refine congrArg Digraph.mk (List.ext_getElem? fun place => ?_)
    simp only [beside, List.getElem?_modify, List.getElem?_append, List.getElem?_map]
    by_cases before : place < g.successors.length
    · have other : g.size + source ≠ place := by
        have size : g.size = g.successors.length := rfl
        omega
      simp [if_pos before, other]
    · obtain ⟨offset, rfl⟩ := Nat.exists_eq_add_of_le (Nat.not_lt.mp before)
      simp only [size, if_neg before, Nat.add_sub_cancel_left, Nat.add_left_cancel_iff]
      cases h.successors[offset]? with
      | none => rfl
      | some targets => by_cases here : source = offset <;> simp [here]

private theorem edgeless_add (first second : Nat) :
    edgeless (first + second) = (edgeless first).beside (edgeless second) := by
  simp [edgeless, beside, List.replicate_append_replicate]

end Digraph

namespace Dependencies

/-- A step of a scan that ends well, wherever it begins. -/
def Succeeds (step : Scanner Unit) : Prop := ∀ scan : Scan, (step scan).1 = .ok ()

private theorem Succeeds.bind {step next : Scanner Unit} (first : Succeeds step) (second : Succeeds next) :
    Succeeds (step >>= fun _ => next) := by
  intro scan
  change (ExceptT.bindCont (fun _ => next) (step scan).1 (step scan).2).1 = _
  rw [first scan]
  exact second _

private theorem Succeeds.inScopeOf {step : Scanner Unit} {pat : Pat} (supported : pat.Supported)
    (normalize : String → String) (inside : Succeeds step) : Succeeds (inScopeOf normalize pat step) := by
  intro scan
  cases pat with
  | bind | wildcard | lit => exact inside _
  | constructor | apply | foreign | missing => cases supported

private theorem scanExpr_succeeds (normalize : String → String) (current : Nat) {expr : Expr}
    (supported : expr.Supported) : Succeeds (scanExpr normalize current expr) := by
  fun_induction Expr.Supported expr with
  | case1 expr type ih =>
    rw [scanExpr]
    exact ih supported
  | case2 pat body ih =>
    rw [scanExpr]
    exact .inScopeOf supported.1 normalize (ih supported.2)
  | case3 pat bound thenBranch elseBranch first second third =>
    obtain ⟨here, bound, left, right⟩ := supported
    rw [scanExpr]
    exact .bind (first bound) (.inScopeOf here normalize (.bind (second left) (third right)))
  | case4 func arg first second =>
    rw [scanExpr]
    exact .bind (first supported.1) (second supported.2)
  | case5 | case6 | case7 | case8 =>
    rw [scanExpr]
    exact fun _ => rfl
  | case9 | case10 | case11 => cases supported

private theorem scanDecls_succeeds (normalize : String → String) (current : Nat) {decls : List Decl}
    (supported : ∀ decl ∈ decls, decl.body.Supported) : Succeeds (scanDecls normalize current decls) := by
  induction decls generalizing current with
  | nil => exact fun _ => rfl
  | cons decl rest ih =>
    obtain ⟨here, others⟩ := List.forall_mem_cons.mp supported
    exact .bind (scanExpr_succeeds normalize current here) (ih _ others)

variable {normalize : String → String} {table own : NameMap Referent} {g h : Digraph}

private theorem linkAll_append (table : NameMap Referent) (current : Nat) (first second : List Decl) (graph : Digraph) :
    linkAll normalize table current (first ++ second) graph =
      linkAll normalize table (current + first.length) second (linkAll normalize table current first graph) := by
  induction first generalizing current graph with
  | nil => rfl
  | cons decl rest ih =>
    rw [List.cons_append, linkAll, linkAll, ih, List.length_cons, Nat.add_assoc, Nat.add_comm 1]

private theorem linkAll_left (current : Nat) (decls : List Decl) (inside : current + decls.length ≤ g.size)
    (agree : ∀ decl ∈ decls, ∀ name ∈ freeIn normalize decl.body.uses, table.find? name = own.find? name) :
    linkAll normalize table current decls (g.beside h) = (linkAll normalize own current decls g).beside h := by
  have links (current : Nat) (names : List String) (g : Digraph) (inside : current < g.size)
      (agree : ∀ name ∈ names, table.find? name = own.find? name) :
      names.foldl (link table current) (g.beside h) = (names.foldl (link own current) g).beside h := by
    induction names generalizing g with
    | nil => rfl
    | cons name rest ih =>
      obtain ⟨here, others⟩ := List.forall_mem_cons.mp agree
      have step : link table current (g.beside h) name = (link own current g name).beside h := by
        rw [link, link, here]
        split
        next => exact Digraph.addEdge_beside_left inside _
        next => rfl
      rw [List.foldl_cons, List.foldl_cons, step]
      apply ih _ _ others
      rw [← size_foldl_link own current [name] g] at inside
      exact inside
  induction decls generalizing current g with
  | nil => rfl
  | cons decl rest ih =>
    obtain ⟨here, others⟩ := List.forall_mem_cons.mp agree
    rw [List.length_cons] at inside
    rw [linkAll, linkAll, links current _ g (by omega) here]
    apply ih (current + 1) _ others
    rw [size_foldl_link]
    omega

def Referent.shift (count : Nat) : Referent → Referent
  | decl vertex => decl (count + vertex)
  | pattern => pattern

private theorem linkAll_right (current : Nat) (decls : List Decl)
    (agree : ∀ decl ∈ decls, ∀ name ∈ freeIn normalize decl.body.uses,
      table.find? name = (own.find? name).map (Referent.shift g.size)) :
    linkAll normalize table (g.size + current) decls (g.beside h) =
      g.beside (linkAll normalize own current decls h) := by
  have links (current : Nat) (names : List String) (h : Digraph)
      (agree : ∀ name ∈ names, table.find? name = (own.find? name).map (Referent.shift g.size)) :
      names.foldl (link table (g.size + current)) (g.beside h) = g.beside (names.foldl (link own current) h) := by
    induction names generalizing h with
    | nil => rfl
    | cons name rest ih =>
      obtain ⟨here, others⟩ := List.forall_mem_cons.mp agree
      have step : link table (g.size + current) (g.beside h) name = g.beside (link own current h name) := by
        rw [link, link, here]
        cases own.find? name with
        | none => rfl
        | some referent =>
          cases referent with
          | decl vertex => exact Digraph.addEdge_beside_right current vertex
          | pattern => rfl
      rw [List.foldl_cons, List.foldl_cons, step]
      exact ih _ others
  induction decls generalizing current h with
  | nil => rfl
  | cons decl rest ih =>
    obtain ⟨here, others⟩ := List.forall_mem_cons.mp agree
    rw [linkAll, linkAll, links current _ h here]
    exact ih (current + 1) others

private theorem lookup_vertices_none {first : Nat} {decls : List Decl} {name : String}
    (absent : ∀ decl ∈ decls, normalize decl.name ≠ name) :
    (vertices normalize first decls).reverse.lookup name = none := by
  rw [List.lookup_eq_none_iff]
  intro entry member
  obtain ⟨source, placed, rfl⟩ := List.mem_map.mp (List.mem_reverse.mp member)
  have listed := List.fst_mem_of_mem_zipIdx placed
  simpa using Ne.symm (absent _ listed)

private theorem vertices_shift (first : Nat) (decls : List Decl) : vertices normalize first decls =
    (vertices normalize 0 decls).map fun entry => (entry.1, entry.2.shift first) := by
  simp only [vertices]
  rw [List.zipIdx_eq_map_add]
  simp [Function.comp_def, Referent.shift]

theorem analyze_supported {decls : List Decl} (supported : ∀ decl ∈ decls, decl.body.Supported) :
    (analyze normalize decls).problem = none ∧
      (analyze normalize decls).components = (dependencies normalize decls).components := by
  have ended := scanDecls_succeeds normalize 0 supported (start normalize decls)
  unfold analyze
  split
  next scan run => exact ⟨rfl, congrArg Digraph.components (scanDecls_graph run)⟩
  next problem scan run =>
    rw [run] at ended
    cases ended

private theorem size_dependencies (decls : List Decl) : (dependencies normalize decls).size = decls.length := by
  rw [dependencies, size_linkAll]
  exact List.length_replicate

private theorem dependencies_closed {decls : List Decl} (supported : ∀ decl ∈ decls, decl.body.Supported) :
    (dependencies normalize decls).Closed := by
  have run : scanDecls normalize 0 decls (start normalize decls) = (.ok (), _) :=
    Prod.ext (scanDecls_succeeds normalize 0 supported (start normalize decls)) rfl
  have bounded := (scanDecls_bounded normalize 0 decls _ (start_inRange normalize decls)).1
  intro v _ u member
  rw [size_dependencies]
  exact bounded.edges v u (scanDecls_graph run ▸ member)

/-- No body of the first declarations refers to one of the second. -/
def Apart (normalize : String → String) (first second : List Decl) : Prop :=
  ∀ decl ∈ first, ∀ name ∈ decl.body.freeNames normalize, ∀ other ∈ second, normalize other.name ≠ name

private theorem dependencies_append {first second : List Decl} (supported : ∀ decl ∈ first, decl.body.Supported)
    (supported' : ∀ decl ∈ second, decl.body.Supported) (apart : Apart normalize first second)
    (apart' : Apart normalize second first) : dependencies normalize (first ++ second) =
      (dependencies normalize first).beside (dependencies normalize second) := by
  have split (name : String) : (start normalize (first ++ second)).table.find? name =
      ((vertices normalize first.length second).reverse.lookup name).or
        ((vertices normalize 0 first).reverse.lookup name) := by
    rw [start_find?, vertices, List.zipIdx_append, List.map_append, List.reverse_append, List.lookup_append,
      Nat.zero_add]
    rfl
  have left : ∀ decl ∈ first, ∀ name ∈ freeIn normalize decl.body.uses,
      (start normalize (first ++ second)).table.find? name = (start normalize first).table.find? name := by
    intro decl member name free
    rw [(supported decl member).freeIn] at free
    rw [split, lookup_vertices_none (apart decl member name free), Option.none_or, start_find?]
  have right : ∀ decl ∈ second, ∀ name ∈ freeIn normalize decl.body.uses,
      (start normalize (first ++ second)).table.find? name =
        ((start normalize second).table.find? name).map (Referent.shift first.length) := by
    intro decl member name free
    rw [(supported' decl member).freeIn] at free
    rw [split, lookup_vertices_none (apart' decl member name free), Option.or_none, vertices_shift, ← List.map_reverse,
      lookup_mapSnd, start_find?]
  have size : first.length = (dependencies normalize first).size := (size_dependencies first).symm
  have inside : 0 + first.length ≤ (Digraph.edgeless first.length).size := by simp [Digraph.edgeless, Digraph.size]
  rw [dependencies, List.length_append, Digraph.edgeless_add, linkAll_append,
    linkAll_left 0 first inside left, Nat.zero_add]
  rw [size] at right
  have linked := linkAll_right 0 second right (h := .edgeless second.length)
  rw [Nat.add_zero, ← size] at linked
  exact linked

/-- The bodies of declarations that refer to nothing of each other are ordered one set after the other. -/
theorem order_append {first second : List Decl} (supported : ∀ decl ∈ first, decl.body.Supported)
    (supported' : ∀ decl ∈ second, decl.body.Supported) (apart : Apart normalize first second)
    (apart' : Apart normalize second first) :
    (analyze normalize (first ++ second)).order =
      (analyze normalize first).order ++ (analyze normalize second).order.map (first.length + ·) := by
  have all := List.forall_mem_append.mpr ⟨supported, supported'⟩
  simp only [Analysis.order, (analyze_supported all).2, (analyze_supported supported).2,
    (analyze_supported supported').2, dependencies_append supported supported' apart apart']
  rw [Digraph.components_beside (dependencies_closed supported) (dependencies_closed supported'), size_dependencies,
    List.flatten_append, List.map_flatten]

end Dependencies

end RefinementTypes
