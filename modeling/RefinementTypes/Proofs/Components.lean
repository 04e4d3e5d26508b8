import Mathlib.Logic.Function.Basic
import RefinementTypes.Proofs.Coverage

/-! Components of graphs that stand side by side. A search goes on in a part of a graph as it would if the part were
all there is, whatever has been entered outside, so the components of two graphs side by side are those of the first
followed by those of the second. -/

namespace RefinementTypes.Digraph

def Search.embed (f : Nat → Nat) (others : List Nat) (found : List (List Nat)) (search : Search) : Search :=
  ⟨others ++ search.entered.map f, search.stack.map f, found ++ search.found.map (List.map f)⟩

/-- A graph is a part of another that no edge enters or leaves. -/
structure Embeds (f : Nat → Nat) (g whole : Digraph) : Prop where
  monotone : ∀ u v, f u ≤ f v ↔ u ≤ v
  size : g.size ≤ whole.size
  closed : g.Closed
  succ : ∀ v, v < g.size → whole.succ (f v) = (g.succ v).map f

namespace Embeds

variable {f : Nat → Nat} {g whole : Digraph} {others : List Nat} {found : List (List Nat)}

private theorem injective (embeds : g.Embeds f whole) : Function.Injective f := by
  intro u v same
  have first := (embeds.monotone u v).mp (Nat.le_of_eq same)
  have second := (embeds.monotone v u).mp (Nat.le_of_eq same.symm)
  omega

private theorem idxOf_map (embeds : g.Embeds f whole) (vertices : List Nat) (v : Nat) :
    (vertices.map f).idxOf (f v) = vertices.idxOf v := by
  induction vertices with
  | nil => rfl
  | cons u rest ih => simp [List.idxOf_cons, ih, embeds.injective.beq_eq]

private theorem contains_stack (embeds : g.Embeds f whole) (search : Search) (v : Nat) :
    (search.embed f others found).stack.contains (f v) = search.stack.contains v := by
  simp [Search.embed, embeds.injective.eq_iff]

private theorem contains_entered (embeds : g.Embeds f whole) (search : Search) {v : Nat} (outside : f v ∉ others) :
    (search.embed f others found).entered.contains (f v) = search.entered.contains v := by
  simp [Search.embed, embeds.injective.eq_iff, outside]

private theorem index (embeds : g.Embeds f whole) (search : Search) {v : Nat} (outside : f v ∉ others) :
    (search.embed f others found).index (f v) = others.length + search.index v := by
  rw [Search.index, Search.embed, List.idxOf_append_of_notMem outside, embeds.idxOf_map, Search.index]

private theorem enter (search : Search) (v : Nat) :
    (search.embed f others found).enter (f v) = (search.enter v).embed f others found := by
  simp [Search.enter, Search.embed]

private theorem close (embeds : g.Embeds f whole) (search : Search) (v : Nat) :
    (search.embed f others found).close (f v) = (search.close v).embed f others found := by
  simp [Search.close, Search.embed, embeds.idxOf_map, List.map_take, List.map_drop]

private theorem follow (embeds : g.Embeds f whole) {visit visit' : Search → Nat → Search × Nat} {state : Search × Nat}
    {target : Nat} (outside : f target ∉ others)
    (agree : visit' (state.1.embed f others found) (f target) =
      ((visit state.1 target).1.embed f others found, others.length + (visit state.1 target).2)) :
    Digraph.follow visit' (state.1.embed f others found, others.length + state.2) (f target) =
      ((Digraph.follow visit state target).1.embed f others found,
        others.length + (Digraph.follow visit state target).2) := by
  unfold Digraph.follow
  simp only [embeds.contains_entered state.1 outside, embeds.contains_stack, agree, embeds.index state.1 outside]
  split
  next =>
    split
    next => rw [Nat.add_min_add_left]
    next => rfl
  next => rw [Nat.add_min_add_left]

/-- A vertex of the part is visited as if the part were all there is. -/
theorem visit (embeds : g.Embeds f whole) (apart : ∀ v, v < g.size → f v ∉ others) (depth : Nat) (search : Search)
    {v : Nat} (inside : v < g.size) :
    whole.visit depth (search.embed f others found) (f v) =
      ((g.visit depth search v).1.embed f others found, others.length + (g.visit depth search v).2) := by
  have length (search : Search) :
      (search.embed f others found).entered.length = others.length + search.entered.length := by
    simp [Search.embed]
  induction depth generalizing search v with
  | zero => rw [Digraph.visit, Digraph.visit, length]
  | succ depth ih =>
    have fold {targets : List Nat} (fits : ∀ u ∈ targets, u < g.size) (state : Search × Nat) :
        (targets.map f).foldl (Digraph.follow (whole.visit depth))
            (state.1.embed f others found, others.length + state.2) =
          ((targets.foldl (Digraph.follow (g.visit depth)) state).1.embed f others found,
            others.length + (targets.foldl (Digraph.follow (g.visit depth)) state).2) := by
      induction targets generalizing state with
      | nil => rfl
      | cons target rest ih' =>
        obtain ⟨first, later⟩ := List.forall_mem_cons.mp fits
        rw [List.map_cons, List.foldl_cons, List.foldl_cons, embeds.follow (apart target first) (ih state.1 first)]
        exact ih' later _
    have inner := fold (embeds.closed v inside) (search.enter v, search.entered.length)
    rw [Digraph.visit, Digraph.visit, embeds.succ v inside, length, enter, inner]
    simp only [Nat.add_left_cancel_iff]
    split
    next => rw [embeds.close]
    next => rfl

private theorem search (embeds : g.Embeds f whole) (others : List Nat) (found : List (List Nat))
    (apart : ∀ v, v < g.size → f v ∉ others) {vertices : List Nat} (inside : ∀ v ∈ vertices, v < g.size)
    {search : Search} (sound : search.Sound g []) :
    (vertices.map f).foldl whole.searchFrom (search.embed f others found) =
      (vertices.foldl g.searchFrom search).embed f others found := by
  obtain ⟨more, enough⟩ := Nat.exists_eq_add_of_le embeds.size
  induction vertices generalizing search with
  | nil => rfl
  | cons v rest ih =>
    obtain ⟨first, later⟩ := List.forall_mem_cons.mp inside
    have step : whole.searchFrom (search.embed f others found) (f v) =
        (g.searchFrom search v).embed f others found := by
      unfold searchFrom
      rw [embeds.contains_entered search (apart v first)]
      split
      next => rfl
      next new =>
        have awaits := Search.Awaits.root sound first fun member => new (List.contains_iff_mem.mpr member)
        rw [embeds.visit apart whole.size search first, enough, awaits.visit_deeper embeds.closed more]
    rw [List.map_cons, List.foldl_cons, List.foldl_cons, step]
    exact ih later (searchFrom_sound embeds.closed first sound).1

private theorem sorted (embeds : g.Embeds f whole) (component : List Nat) :
    (component.map f).mergeSort (· ≤ ·) = (component.mergeSort (· ≤ ·)).map f := by
  symm
  apply List.map_mergeSort
  intro u _ v _
  simp only [embeds.monotone]

end Embeds

def beside (g h : Digraph) : Digraph := ⟨g.successors ++ h.successors.map (List.map (g.size + ·))⟩

section

variable {g h : Digraph}

@[simp] theorem size_beside : (g.beside h).size = g.size + h.size := by simp [beside, size]

private theorem succ_beside_left {v : Nat} (inside : v < g.size) : (g.beside h).succ v = g.succ v := by
  simp only [beside, succ, List.getD_eq_getElem?_getD]
  rw [List.getElem?_append_left inside]

private theorem succ_beside_right (v : Nat) : (g.beside h).succ (g.size + v) = (h.succ v).map (g.size + ·) := by
  have after : g.successors.length ≤ g.size + v := Nat.le_add_right _ _
  simp only [beside, succ, List.getD_eq_getElem?_getD]
  rw [List.getElem?_append_right after]
  simp only [size, Nat.add_sub_cancel_left, List.getElem?_map]
  cases h.successors[v]? <;> rfl

theorem hasEdge_beside_left {u v : Nat} (inside : u < g.size) : (g.beside h).hasEdge u v = g.hasEdge u v := by
  rw [hasEdge, succ_beside_left inside, hasEdge]

theorem hasEdge_beside_right (u v : Nat) : (g.beside h).hasEdge (g.size + u) (g.size + v) = h.hasEdge u v := by
  rw [hasEdge, succ_beside_right, hasEdge, Bool.eq_iff_iff]
  simp

private theorem embeds_left (closed : g.Closed) : g.Embeds id (g.beside h) where
  monotone _ _ := Iff.rfl
  size := by simp
  closed := closed
  succ v inside := by rw [id, succ_beside_left inside, List.map_id]

private theorem embeds_right (closed : h.Closed) : h.Embeds (g.size + ·) (g.beside h) where
  monotone _ _ := by omega
  size := by simp
  closed := closed
  succ v _ := succ_beside_right v

private theorem searched_beside (closed : g.Closed) (closed' : h.Closed) :
    (g.beside h).searched = h.searched.embed (g.size + ·) g.searched.entered g.searched.found := by
  have first := (embeds_left (h := h) closed).search [] [] (fun _ _ => List.not_mem_nil)
    (fun v => List.mem_range.mp) .empty
  have apart : ∀ v, v < h.size → g.size + v ∉ g.searched.entered := fun v _ entered =>
    Nat.not_lt.mpr (Nat.le_add_right _ v) ((searched_sound closed).inside _ entered)
  have second := (embeds_right closed').search g.searched.entered g.searched.found apart
    (fun v => List.mem_range.mp) .empty
  have start : (g.searched.embed id [] []) = Search.empty.embed (g.size + ·) g.searched.entered g.searched.found := by
    simp [Search.embed, Search.empty, (searched_sound closed).stack_eq_nil]
  have blank : Search.empty.embed id [] [] = .empty := rfl
  rw [List.map_id, ← searched, blank, start] at first
  rw [searched, size_beside, List.range_add, List.foldl_append, first]
  exact second

/-- Nothing is between the components of two graphs that stand side by side. -/
theorem components_beside (closed : g.Closed) (closed' : h.Closed) :
    (g.beside h).components = g.components ++ h.components.map (List.map (g.size + ·)) := by
  have sorted := (embeds_right (g := g) closed').sorted
  simp only [components, searched_beside closed closed', Search.embed, List.map_append, List.map_map]
  exact congrArg _ (List.map_congr_left fun component _ => sorted component)

end

end RefinementTypes.Digraph
