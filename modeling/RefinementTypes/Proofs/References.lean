import Mathlib.Data.List.Sort
import RefinementTypes.Proofs.Coverage
import RefinementTypes.Proofs.Occurrences

/-! The references that a scan records. However it ends, a scan of an expression puts back the names in scope and what
patterns had replaced; if it ends well, it has linked the declaration at hand with each declaration whose name is free
in the expression, and with nothing else. -/

namespace RefinementTypes

namespace NameMap

variable {α : Type} {map other : NameMap α}

private theorem find?_erase (map : NameMap α) (name key : String) :
    (map.erase name).find? key = if key = name then none else map.find? key := by
  obtain ⟨entries⟩ := map
  change (entries.filter fun entry => decide (entry.1 ≠ name)).lookup key =
    if key = name then none else entries.lookup key
  induction entries with
  | nil => simp
  | cons entry rest ih =>
    obtain ⟨other, value⟩ := entry
    rw [List.filter_cons, lookup_cons_ite]
    by_cases kept : other = name
    · subst kept
      rw [if_neg (by simp), ih]
      split <;> rfl
    · rw [if_pos (by simpa using kept), lookup_cons_ite, ih]
      by_cases here : key = other
      · simp [here, kept]
      · simp only [if_neg here]

/-- The entries are in the order of their names. -/
def Ordered (map : NameMap α) : Prop := map.entries.Pairwise fun first second => first.1 < second.1

private theorem ordered_empty : (empty : NameMap α).Ordered := List.Pairwise.nil

private theorem Ordered.insert (ordered : map.Ordered) (name : String) (value : α) :
    (map.insert name value).Ordered := by
  obtain ⟨entries⟩ := map
  change (insertEntry name value entries).Pairwise _
  induction entries with
  | nil => exact List.pairwise_singleton _ _
  | cons entry rest ih =>
    obtain ⟨above, sorted⟩ := List.pairwise_cons.mp ordered
    unfold insertEntry
    split
    next before =>
      refine List.pairwise_cons.mpr ⟨List.forall_mem_cons.mpr ⟨before, fun later member => ?_⟩, ordered⟩
      exact String.lt_trans before (above later member)
    next behind =>
      split
      next same => exact List.pairwise_cons.mpr ⟨fun later member => same ▸ above later member, sorted⟩
      next different =>
        refine List.pairwise_cons.mpr ⟨fun later member => ?_, ih sorted⟩
        have held : later ∈ ((⟨rest⟩ : NameMap α).insert name value).entries := member
        rcases mem_insert held with rfl | old
        · by_contra beyond
          exact different (String.le_antisymm (String.not_lt.mp beyond) (String.not_lt.mp behind))
        · exact above later old

private theorem Ordered.erase (ordered : map.Ordered) (name : String) : (map.erase name).Ordered := ordered.filter _

private theorem Ordered.distinct (ordered : map.Ordered) : (map.entries.map Prod.fst).Nodup := by
  refine List.pairwise_map.mpr (ordered.imp ?_)
  intro first second before same
  exact String.lt_irrefl _ (same ▸ before)

private theorem Ordered.ext (ordered : map.Ordered) (ordered' : other.Ordered)
    (same : ∀ name, map.find? name = other.find? name) : map = other := by
  let before (first second : String × α) : Prop := first.1 < second.1
  have : Std.Irrefl before := ⟨fun entry => String.lt_irrefl entry.1⟩
  have : Std.Antisymm before := ⟨fun _ _ forth back => absurd back (String.lt_asymm forth)⟩
  refine congrArg NameMap.mk (List.Pairwise.eq_of_mem_iff (r := before) ordered ordered' fun entry => ?_)
  rw [← lookup_eq_some_iff_mem ordered.distinct, ← lookup_eq_some_iff_mem ordered'.distinct]
  exact Eq.congr_left (same entry.1)

end NameMap

namespace Digraph

variable {g : Digraph}

private theorem hasEdge_iff {source target : Nat} : g.hasEdge source target ↔ target ∈ g.succ source :=
    List.contains_iff_mem

private theorem hasEdge_addEdge {source : Nat} (inside : source < g.size) (target i j : Nat) :
    (g.addEdge source target).hasEdge i j ↔ g.hasEdge i j ∨ i = source ∧ j = target := by
  unfold addEdge
  split
  next there =>
    refine ⟨.inl, fun either => either.elim id ?_⟩
    rintro ⟨rfl, rfl⟩
    exact there
  next =>
    have found : g.successors[source]? = some (g.succ source) := by
      rw [succ, List.getD_eq_getElem?_getD, List.getElem?_eq_getElem inside]
      rfl
    simp only [hasEdge_iff, succ, List.getD_eq_getElem?_getD, List.getElem?_modify]
    by_cases here : source = i
    · subst here
      simp [found]
    · simp [here, Ne.symm here]

private theorem hasEdge_edgeless (count i j : Nat) : ¬ (edgeless count).hasEdge i j := by
  rw [hasEdge_iff, succ, edgeless, List.getD_eq_getElem?_getD, List.getElem?_replicate]
  split <;> simp

end Digraph

namespace Dependencies

/-- The names in scope, and what patterns have replaced, are as they were. -/
structure Scan.Restores (before after : Scan) : Prop where
  table : ∀ name, after.table.find? name = before.table.find? name
  ordered : before.table.Ordered → after.table.Ordered
  replaced : after.replaced = before.replaced

namespace Scan.Restores

variable {first second third : Scan}

theorem refl (scan : Scan) : scan.Restores scan := ⟨fun _ => rfl, id, rfl⟩

theorem trans (early : first.Restores second) (late : second.Restores third) : first.Restores third where
  table name := (late.table name).trans (early.table name)
  ordered := late.ordered ∘ early.ordered
  replaced := late.replaced.trans early.replaced

/-- What a pattern has replaced is put back. -/
theorem unshadow {scan inner : Scan} {name : String} (restores : (shadow scan name).Restores inner) :
    scan.Restores (unshadow inner) := by
  have shadowed (key : String) : inner.table.find? key =
      if key = name then some .pattern else scan.table.find? key := by
    rw [restores.table, shadow, NameMap.find?_insert]
  have order (ordered : scan.table.Ordered) := restores.ordered (ordered.insert name .pattern)
  have stack : inner.replaced = (name, scan.table.find? name) :: scan.replaced := restores.replaced
  unfold Dependencies.unshadow
  rw [stack]
  cases known : scan.table.find? name with
  | some referent =>
    refine ⟨fun key => ?_, fun ordered => (order ordered).insert name referent, rfl⟩
    rw [NameMap.find?_insert, shadowed]
    split
    next here => rw [here, known]
    next => rfl
  | none =>
    refine ⟨fun key => ?_, fun ordered => (order ordered).erase name, rfl⟩
    rw [NameMap.find?_erase, shadowed]
    split
    next here => rw [here, known]
    next => rfl

private theorem leave {names : List String} {scan inner : Scan} (restores : (names.foldl shadow scan).Restores inner) :
    scan.Restores (Dependencies.unshadow^[names.length] inner) := by
  induction names generalizing scan with
  | nil => exact restores
  | cons name rest ih =>
    rw [List.length_cons, Function.iterate_succ_apply']
    exact (ih restores).unshadow

/-- A step that follows another restores what the first has restored. -/
theorem chain {step next : Scanner Unit} {scan : Scan} (early : scan.Restores (step scan).2)
    (late : ∀ scan : Scan, scan.Restores (next scan).2) : scan.Restores ((step >>= fun _ => next) scan).2 := by
  change scan.Restores (ExceptT.bindCont (fun _ => next) (step scan).1 (step scan).2).2
  cases (step scan).1 with
  | error problem => exact early
  | ok => exact early.trans (late _)

end Scan.Restores

private theorem then_ok {step next : Scanner Unit} {scan after : Scan}
    (ended : (step >>= fun _ => next) scan = (.ok (), after)) :
    ∃ middle, step scan = (.ok (), middle) ∧ next middle = (.ok (), after) := by
  change ExceptT.bindCont (fun _ => next) (step scan).1 (step scan).2 = _ at ended
  cases outcome : (step scan).1 with
  | error problem =>
    rw [outcome] at ended
    cases ended
  | ok =>
    rw [outcome] at ended
    exact ⟨(step scan).2, Prod.ext outcome rfl, ended⟩

private theorem graph_unshadow (scan : Scan) (count : Nat) : (unshadow^[count] scan).graph = scan.graph := by
  have step (scan : Scan) : (unshadow scan).graph = scan.graph := by
    unfold unshadow
    split <;> rfl
  induction count with
  | zero => rfl
  | succ count ih => rw [Function.iterate_succ_apply', step, ih]

private theorem find?_shadow (names : List String) (scan : Scan) (key : String) :
    (names.foldl shadow scan).table.find? key = if key ∈ names then some .pattern else scan.table.find? key := by
  induction names generalizing scan with
  | nil => rfl
  | cons name rest ih =>
    rw [List.foldl_cons, ih, shadow, NameMap.find?_insert]
    by_cases later : key ∈ rest
    · simp [later]
    · by_cases here : key = name <;> simp [later, here]

private theorem graph_shadow (names : List String) (scan : Scan) : (names.foldl shadow scan).graph = scan.graph := by
  induction names generalizing scan with
  | nil => rfl
  | cons name rest ih => exact ih (shadow scan name)

/-- The graph with an edge to what a name stands for, if that is a declaration. -/
def link (table : NameMap Referent) (current : Nat) (graph : Digraph) (name : String) : Digraph :=
  match table.find? name with
  | some (.decl vertex) => graph.addEdge current vertex
  | _ => graph

private theorem link_congr {first second : NameMap Referent} (same : ∀ name, first.find? name = second.find? name)
    (current : Nat) : link first current = link second current := by
  funext graph name
  rw [link, link, same name]

/-- However a step of a scan ends, the names in scope are as they were; if it ends well, the declaration at hand is
linked with all of these names. -/
structure Links (current : Nat) (names : List String) (step : Scanner Unit) : Prop where
  restores : ∀ scan : Scan, scan.Restores (step scan).2
  graph : ∀ scan after : Scan, step scan = (.ok (), after) →
    after.graph = names.foldl (link scan.table current) scan.graph

namespace Links

variable {current : Nat} {names others : List String} {step next : Scanner Unit}

theorem pure : Links current [] (Pure.pure ()) where
  restores scan := .refl scan
  graph _ _ run := by
    cases run
    rfl

private theorem throw (problem : Problem) : Links current names (MonadExcept.throw problem) where
  restores scan := .refl scan
  graph _ _ run := by cases run

private theorem refer (name : String) : Links current [name] (refer current name) := by
  have run (scan : Scan) : Dependencies.refer current name scan =
      (.ok (), { scan with graph := link scan.table current scan.graph name }) := by
    change (Except.ok (), match scan.table.find? name with
      | some (.decl vertex) => { scan with graph := scan.graph.addEdge current vertex }
      | _ => scan) = _
    rw [link]
    split <;> rfl
  constructor
  · intro scan
    rw [run]
    exact ⟨fun _ => rfl, id, rfl⟩
  · intro scan after ended
    rw [run] at ended
    cases ended
    rfl

private theorem bind (first : Links current names step) (second : Links current others next) :
    Links current (names ++ others) (step >>= fun _ => next) := by
  constructor
  · exact fun scan => .chain (first.restores scan) second.restores
  · intro scan after ended
    obtain ⟨middle, run, run'⟩ := then_ok ended
    have early := first.restores scan
    rw [run] at early
    rw [second.graph middle after run', first.graph scan middle run, link_congr early.table, List.foldl_append]

/-- What a pattern binds is no reference to a declaration, and is no longer in scope afterwards. -/
theorem inScopeOf (normalize : String → String) (pat : Pat) (links : Links current names step) :
    Links current (names.filter fun name => !pat.introduces normalize name) (inScopeOf normalize pat step) := by
  cases binders : pat.binders with
  | error form =>
    have run (scan : Scan) : Dependencies.inScopeOf normalize pat step scan =
        (.error (.fault (.patForm form)), scan) := by
      rw [Dependencies.inScopeOf, binders]
    constructor
    · intro scan
      rw [run]
      exact .refl scan
    · intro scan after ended
      rw [run] at ended
      cases ended
  | ok labels =>
    have run (scan : Scan) : Dependencies.inScopeOf normalize pat step scan =
        ((step ((labels.map normalize).foldl shadow scan)).1,
          unshadow^[(labels.map normalize).length] (step ((labels.map normalize).foldl shadow scan)).2) := by
      rw [Dependencies.inScopeOf, binders, List.length_map, ← List.foldl_const]
      rfl
    constructor
    · intro scan
      rw [run]
      exact (links.restores _).leave
    · intro scan after ended
      rw [run] at ended
      obtain ⟨outcome, rfl⟩ := Prod.ext_iff.mp ended
      have inner := links.graph _ (step ((labels.map normalize).foldl shadow scan)).2 (Prod.ext outcome rfl)
      rw [graph_unshadow, inner, graph_shadow, List.foldl_filter]
      congr 1
      funext graph name
      rw [link, find?_shadow]
      by_cases bound : name ∈ labels.map normalize
      · simp [bound, (Pat.introduces_iff binders normalize name).mpr bound]
      · have free := mt (Pat.introduces_iff binders normalize name).mp bound
        simp [bound, free, link]

end Links

mutual

private theorem scanExpr_links (normalize : String → String) (current : Nat) (expr : Expr) :
    Links current (freeIn normalize expr.uses) (scanExpr normalize current expr) := by
  cases expr with
  | name label => rw [scanExpr, Expr.uses]; exact .refer _
  | anno expr type => rw [scanExpr, Expr.uses]; exact scanExpr_links normalize current expr
  | lam pat body =>
    rw [scanExpr, Expr.uses, freeIn_under]
    exact .inScopeOf normalize pat (scanExpr_links normalize current body)
  | letElse pat bound thenBranch elseBranch =>
    rw [scanExpr, Expr.uses, freeIn_append, freeIn_under, freeIn_append]
    refine .bind (scanExpr_links normalize current bound) (.inScopeOf normalize pat ?_)
    exact .bind (scanExpr_links normalize current thenBranch) (scanExpr_links normalize current elseBranch)
  | call func arg =>
    rw [scanExpr, Expr.uses, freeIn_append]
    exact .bind (scanExpr_links normalize current func) (scanExpr_links normalize current arg)
  | op operator args => rw [scanExpr, Expr.uses]; exact scanAll_links normalize current args
  | lit | impossible | invalid => rw [scanExpr, Expr.uses]; exact .pure
  | foreign | missing => rw [scanExpr]; exact .throw _

theorem scanAll_links (normalize : String → String) (current : Nat) (exprs : List Expr) :
    Links current (freeIn normalize (Expr.usesAll exprs)) (scanAll normalize current exprs) := by
  cases exprs with
  | nil => rw [scanAll, Expr.usesAll]; exact .pure
  | cons expr rest =>
    rw [scanAll, Expr.usesAll, freeIn_append]
    exact .bind (scanExpr_links normalize current expr) (scanAll_links normalize current rest)

end

/-- The graph with the links of each declaration, from the vertex `current` on. -/
def linkAll (normalize : String → String) (table : NameMap Referent) : Nat → List Decl → Digraph → Digraph
  | _, [], graph => graph
  | current, decl :: rest, graph =>
    linkAll normalize table (current + 1) rest
      ((freeIn normalize decl.body.uses).foldl (link table current) graph)

section

variable {normalize : String → String} {table own : NameMap Referent}

private theorem linkAll_congr (same : ∀ name, table.find? name = own.find? name) (current : Nat) (decls : List Decl)
    (graph : Digraph) : linkAll normalize table current decls graph = linkAll normalize own current decls graph := by
  induction decls generalizing current graph with
  | nil => rfl
  | cons decl rest ih => rw [linkAll, linkAll, link_congr same, ih]

theorem scanDecls_graph {current : Nat} {decls : List Decl} {scan after : Scan}
    (ended : scanDecls normalize current decls scan = (.ok (), after)) :
    after.graph = linkAll normalize scan.table current decls scan.graph := by
  induction decls generalizing current scan with
  | nil =>
    cases ended
    rfl
  | cons decl rest ih =>
    obtain ⟨middle, run, run'⟩ := then_ok ended
    have links := scanExpr_links normalize current decl.body
    have early := links.restores scan
    rw [run] at early
    rw [ih run', linkAll_congr early.table, links.graph scan middle run, linkAll]

private theorem size_link (table : NameMap Referent) (current : Nat) (graph : Digraph) (name : String) :
    (link table current graph name).size = graph.size := by
  unfold link
  split
  next => exact Digraph.size_addEdge _ _
  next => rfl

theorem size_foldl_link (table : NameMap Referent) (current : Nat) (names : List String) (graph : Digraph) :
    (names.foldl (link table current) graph).size = graph.size := by
  induction names generalizing graph with
  | nil => rfl
  | cons name rest ih => rw [List.foldl_cons, ih, size_link]

theorem size_linkAll (table : NameMap Referent) (current : Nat) (decls : List Decl) (graph : Digraph) :
    (linkAll normalize table current decls graph).size = graph.size := by
  induction decls generalizing current graph with
  | nil => rfl
  | cons decl rest ih => rw [linkAll, ih, size_foldl_link]

variable {current i j : Nat} {graph : Digraph}

private theorem hasEdge_link (inside : current < graph.size) (name : String) :
    (link table current graph name).hasEdge i j ↔
      graph.hasEdge i j ∨ i = current ∧ table.find? name = some (.decl j) := by
  unfold link
  split
  next vertex found =>
    rw [Digraph.hasEdge_addEdge inside, found, Option.some.injEq, Referent.decl.injEq, eq_comm (a := vertex)]
  next other => exact ⟨.inl, fun either => either.elim id fun both => absurd both.2 (other j)⟩

private theorem hasEdge_foldl_link (inside : current < graph.size) (names : List String) :
    (names.foldl (link table current) graph).hasEdge i j ↔
      graph.hasEdge i j ∨ i = current ∧ ∃ name ∈ names, table.find? name = some (.decl j) := by
  induction names generalizing graph with
  | nil => simp
  | cons name rest ih =>
    rw [List.foldl_cons, ih (by rwa [size_link]), hasEdge_link inside, List.exists_mem_cons_iff, or_assoc, and_or_left]

/-- The edges are those between declarations and what is free in their bodies. -/
theorem hasEdge_linkAll {decls : List Decl} (inside : current + decls.length ≤ graph.size) :
    (linkAll normalize table current decls graph).hasEdge i j ↔
      graph.hasEdge i j ∨ ∃ place decl, decls[place]? = some decl ∧ i = current + place ∧
        ∃ name ∈ freeIn normalize decl.body.uses, table.find? name = some (.decl j) := by
  induction decls generalizing current graph with
  | nil => simp [linkAll]
  | cons decl rest ih =>
    rw [List.length_cons] at inside
    rw [linkAll, ih (by rw [size_foldl_link]; omega), hasEdge_foldl_link (by omega), or_assoc]
    refine or_congr_right ⟨?_, ?_⟩
    · rintro (⟨here, refers⟩ | ⟨place, other, found, shifted, refers⟩)
      · exact ⟨0, decl, rfl, here, refers⟩
      · exact ⟨place + 1, other, found, by omega, refers⟩
    · rintro ⟨place, other, found, shifted, refers⟩
      cases place with
      | zero =>
        cases found
        exact .inl ⟨shifted, refers⟩
      | succ place => exact .inr ⟨place, other, found, by omega, refers⟩

/-- The vertices under which names are found, from the vertex `first` on. -/
def vertices (normalize : String → String) (first : Nat) (decls : List Decl) : List (String × Referent) :=
  (decls.zipIdx first).map fun entry => (normalize entry.1.name, .decl entry.2)

theorem start_find? (decls : List Decl) (name : String) :
    (start normalize decls).table.find? name = (vertices normalize 0 decls).reverse.lookup name := by
  have fold (entries : List (Decl × Nat)) (table : NameMap Referent) :
      (entries.foldl (fun table entry => table.insert (normalize entry.1.name) (.decl entry.2)) table).find? name =
        ((entries.map fun entry => (normalize entry.1.name, Referent.decl entry.2)).reverse.lookup name).or
          (table.find? name) := by
    induction entries generalizing table with
    | nil => rfl
    | cons entry rest ih =>
      rw [List.foldl_cons, ih, NameMap.find?_insert, List.map_cons, List.reverse_cons, List.lookup_append,
        Option.or_assoc, lookup_cons_ite]
      split <;> rfl
  exact (fold decls.zipIdx .empty).trans Option.or_none

private theorem start_ordered (decls : List Decl) : (start normalize decls).table.Ordered := by
  have fold (entries : List (Decl × Nat)) (table : NameMap Referent) (ordered : table.Ordered) :
      (entries.foldl (fun table entry => table.insert (normalize entry.1.name) (.decl entry.2)) table).Ordered := by
    induction entries generalizing table with
    | nil => exact ordered
    | cons entry rest ih => exact ih _ (ordered.insert _ _)
  exact fold decls.zipIdx .empty NameMap.ordered_empty

private theorem start_find?_iff {decls : List Decl} (distinct : (decls.map fun decl => normalize decl.name).Nodup)
    (name : String) (vertex : Nat) : (start normalize decls).table.find? name = some (.decl vertex) ↔
      ∃ decl, decls[vertex]? = some decl ∧ normalize decl.name = name := by
  have names : (vertices normalize 0 decls).map Prod.fst = decls.map fun decl => normalize decl.name := by
    rw [vertices, List.map_map, ← List.zipIdx_map_fst 0 decls, List.map_map]
    simp [Function.comp_def]
  have distinct' : ((vertices normalize 0 decls).reverse.map Prod.fst).Nodup := by
    rw [List.map_reverse, names, List.nodup_reverse]
    exact distinct
  rw [start_find?, lookup_eq_some_iff_mem distinct', List.mem_reverse, vertices, List.mem_map]
  constructor
  · rintro ⟨⟨decl, place⟩, listed, same⟩
    cases same
    exact ⟨decl, List.mem_zipIdx_iff_getElem?.mp listed, rfl⟩
  · rintro ⟨decl, found, rfl⟩
    exact ⟨(decl, vertex), List.mem_zipIdx_iff_getElem?.mpr found, rfl⟩

end

def dependencies (normalize : String → String) (decls : List Decl) : Digraph :=
  linkAll normalize (start normalize decls).table 0 decls (.edgeless decls.length)

private theorem analyze_graph {normalize : String → String} {decls : List Decl}
    (analysed : (analyze normalize decls).problem = none) :
    (analyze normalize decls).scan.graph = dependencies normalize decls := by
  unfold analyze at analysed ⊢
  split at analysed
  next scan ended => exact scanDecls_graph ended
  next => cases analysed

/-- If the names of declarations are distinct and their analysis finds no problem, there is an edge from one of them to
another just if the name of the other is used in the body of the first where no pattern binds it. However the scan of
an expression ends, the names in scope and the stack of what patterns replaced are what they were before. -/
theorem analysis_exact (normalize : String → String) (decls : List Decl)
    (distinct : (decls.map fun decl => normalize decl.name).Nodup) :
    ((analyze normalize decls).problem = none → ∀ i j, (analyze normalize decls).scan.graph.hasEdge i j ↔
      ∃ source target, decls[i]? = some source ∧ decls[j]? = some target ∧
        ∃ occurrence ∈ source.body.uses, occurrence.bound normalize = false ∧
          normalize occurrence.label = normalize target.name) ∧
    ∀ (current : Nat) (expr : Expr) (scan : Scan),
      (∀ name, (scanExpr normalize current expr scan).2.table.find? name = scan.table.find? name) ∧
      (scan.table.Ordered → (scanExpr normalize current expr scan).2.table = scan.table) ∧
      (scanExpr normalize current expr scan).2.replaced = scan.replaced := by
  refine ⟨fun analysed i j => ?_, fun current expr scan => ?_⟩
  · have inside : 0 + decls.length ≤ (Digraph.edgeless decls.length).size := by simp [Digraph.edgeless, Digraph.size]
    rw [analyze_graph analysed, dependencies, hasEdge_linkAll inside, or_iff_right (Digraph.hasEdge_edgeless _ i j)]
    constructor
    · rintro ⟨place, source, found, rfl, name, free, known⟩
      obtain ⟨target, found', rfl⟩ := (start_find?_iff distinct name j).mp known
      rw [Nat.zero_add]
      exact ⟨source, target, found, found', mem_freeIn.mp free⟩
    · rintro ⟨source, target, found, found', free⟩
      refine ⟨i, source, found, (Nat.zero_add i).symm, _, mem_freeIn.mpr free, ?_⟩
      exact (start_find?_iff distinct _ j).mpr ⟨target, found', rfl⟩
  · have restores := (scanExpr_links normalize current expr).restores scan
    exact ⟨restores.table, fun ordered => (restores.ordered ordered).ext ordered restores.table, restores.replaced⟩

/-- A pattern binds a name twice, under two spellings; another one binds it after it has been used, and the scan of a
function whose body has no rule ends with a problem. -/
theorem analysis_exact_shadowed :
    let normalize := fun label => if label = "F" then "f" else label
    let decls : List Decl := [
      ⟨"F", [], .wildcard, .lam (.apply (.bind "f") (.bind "F")) (.name "f")⟩,
      ⟨"g", [], .wildcard, .letElse (.bind "f") (.name "f") (.name "F") (.name "x")⟩]
    let failing : Expr := .lam (.bind "f") (.foreign "new")
    (analyze normalize decls).problem.isNone ∧ (analyze normalize decls).scan.graph.hasEdge 1 0 ∧
      ¬ (analyze normalize decls).scan.graph.hasEdge 0 0 ∧
      (scanExpr normalize 0 failing (start normalize decls)).2.table = (start normalize decls).table := by
  intro normalize decls failing
  obtain ⟨edges, restores⟩ := analysis_exact normalize decls (by decide)
  have analysed : (analyze normalize decls).problem = none := Option.isNone_iff_eq_none.mp (by decide +kernel)
  refine ⟨by rw [analysed]; rfl, (edges analysed 1 0).mpr ?_, fun loop => ?_, ?_⟩
  · exact ⟨_, _, rfl, rfl, ⟨"f", []⟩, List.mem_cons_self, rfl, by decide⟩
  · obtain ⟨_, _, source, _, occurrence, used, free, _⟩ := (edges analysed 0 0).mp loop
    cases source
    rw [List.mem_singleton.mp used] at free
    exact absurd free (by decide)
  · exact (restores 0 failing _).2.1 (start_ordered decls)

end Dependencies

end RefinementTypes
