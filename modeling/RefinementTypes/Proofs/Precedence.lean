import Mathlib.Order.Nat
import RefinementTypes.Proofs.Coverage

/-! The order of components. A search that starts from one vertex after the other has entered just what the vertices so
far reach. So a component has its place as soon as the smallest vertex that reaches it has been searched from, and
where no edge leads to a larger vertex, the vertices keep their own order. -/

namespace RefinementTypes

namespace Digraph

variable {g : Digraph} {path : List Nat} {before search after : Search} {v count depth : Nat}

/-- A search has gone on from a vertex: it has entered only what the vertex reaches, and behind the components found
before it has found some that are not empty. -/
structure Search.Gathers (g : Digraph) (v : Nat) (before after : Search) : Prop where
  entered : ∀ u ∈ after.entered, u ∈ before.entered ∨ g.Reaches v u
  found : before.found <+: after.found
  inhabited : ∀ component ∈ after.found, component ∈ before.found ∨ component ≠ []

namespace Search.Gathers

theorem refl (search : Search) : search.Gathers g v search := ⟨fun _ => .inl, List.prefix_rfl, fun _ => .inl⟩

theorem trans (early : before.Gathers g v search) (late : search.Gathers g v after) : before.Gathers g v after where
  entered u member := (late.entered u member).elim (early.entered u) .inr
  found := early.found.trans late.found
  inhabited component listed := (late.inhabited component listed).elim (early.inhabited component) .inr

private theorem along {target : Nat} (gathers : before.Gathers g target after) (edge : target ∈ g.succ v) :
    before.Gathers g v after where
  entered u member := (gathers.entered u member).imp_right (Relation.ReflTransGen.head edge)
  found := gathers.found
  inhabited := gathers.inhabited

private theorem enter (search : Search) (v : Nat) : search.Gathers g v (search.enter v) where
  entered u member := by
    rcases List.mem_append.mp member with old | here
    · exact .inl old
    · rw [List.mem_singleton.mp here]
      exact .inr .refl
  found := List.prefix_rfl
  inhabited _ := .inl

private theorem close (search : Search) (held : v ∈ search.stack) : search.Gathers g v (search.close v) where
  entered _ := .inl
  found := List.prefix_append _ _
  inhabited component listed := by
    rcases List.mem_append.mp listed with old | here
    · exact .inl old
    · rw [List.mem_singleton.mp here]
      right
      simpa using List.ne_nil_of_mem held

private theorem follow {visit : Search → Nat → Search × Nat} {state : Search × Nat} {target : Nat}
    (gathers : before.Gathers g v state.1) (edge : target ∈ g.succ v)
    (visits : target ∉ state.1.entered → state.1.Gathers g target (visit state.1 target).1) :
    before.Gathers g v (follow visit state target).1 := by
  unfold Digraph.follow
  split
  next => split <;> exact gathers
  next new => exact gathers.trans ((visits fun member => new (List.contains_iff_mem.mpr member)).along edge)

end Search.Gathers

namespace Search.Awaits

private theorem followed (awaits : search.Awaits g path (depth + 1) v) (closed : g.Closed) :
    Visiting g path search v (g.succ v)
      ((g.succ v).foldl (follow (g.visit depth)) (search.enter v, search.entered.length)) := by
  have whole := Visiting.foldl (fun _ _ edge extends' sound new =>
    (awaits.next closed edge extends' sound new).visit closed) (fun _ => id) awaits.start
  rwa [List.nil_append] at whole

private theorem gathers (awaits : search.Awaits g path depth v) (closed : g.Closed) :
    search.Gathers g v (g.visit depth search v).1 := by
  induction depth generalizing path search v with
  | zero => exact absurd awaits.positive (Nat.lt_irrefl 0)
  | succ depth ih =>
    -- Edge by edge, the visit is carried along: a target that is new to it awaits a visit of its own.
    have fold {rest seen : List Nat} {state : Search × Nat} (edges : ∀ u ∈ rest, u ∈ g.succ v)
        (visiting : Visiting g path search v seen state) (gathers : search.Gathers g v state.1) :
        search.Gathers g v (rest.foldl (follow (g.visit depth)) state).1 := by
      induction rest generalizing seen state with
      | nil => exact gathers
      | cons target rest ih' =>
        obtain ⟨edge, others⟩ := List.forall_mem_cons.mp edges
        have waits (new : target ∉ state.1.entered) := awaits.next closed edge visiting.extends' visiting.sound new
        exact ih' others (visiting.follow edge fun new => (waits new).visit closed)
          (gathers.follow edge fun new => ih (waits new))
    have inner := fold (fun _ => id) awaits.start (.enter search v)
    have held := (awaits.followed closed).sound.onStack v List.mem_cons_self
    rw [Digraph.visit]
    dsimp only
    split
    next => exact inner.trans (.close _ held)
    next => exact inner

end Search.Awaits

private theorem searchFrom_gathers (closed : g.Closed) (inside : v < g.size) (sound : search.Sound g []) :
    search.Gathers g v (g.searchFrom search v) := by
  unfold searchFrom
  split
  next => exact .refl search
  next new =>
    exact (Search.Awaits.root sound inside fun member => new (List.contains_iff_mem.mpr member)).gathers closed

/-- When no vertex is being visited, all that has been entered is in a component. -/
theorem Search.Sound.mem_found (sound : search.Sound g []) : v ∈ search.found.flatten ↔ v ∈ search.entered := by
  rw [sound.mem_entered v, sound.stack_eq_nil]
  simp

/-- The search from the vertices below a number. -/
def searchedBelow (g : Digraph) (count : Nat) : Search := (List.range count).foldl g.searchFrom .empty

private theorem searchedBelow_succ (g : Digraph) (count : Nat) :
    g.searchedBelow (count + 1) = g.searchFrom (g.searchedBelow count) count := by
  rw [searchedBelow, List.range_succ, List.foldl_append]
  rfl

section Below

variable (closed : g.Closed)
include closed

private theorem searchedBelow_sound (inside : count ≤ g.size) : (g.searchedBelow count).Sound g [] ∧
    ∀ r < count, r ∈ (g.searchedBelow count).entered := by
  have vertices : ∀ r ∈ List.range count, r < g.size := fun r member =>
    Nat.lt_of_lt_of_le (List.mem_range.mp member) inside
  obtain ⟨sound, covers⟩ := foldl_searchFrom closed vertices (.empty (g := g))
  exact ⟨sound, fun r below => covers r (.inr (List.mem_range.mpr below))⟩

private theorem searchedBelow_gathers (inside : count < g.size) :
    (g.searchedBelow count).Gathers g count (g.searchedBelow (count + 1)) := by
  rw [searchedBelow_succ]
  exact searchFrom_gathers closed inside (searchedBelow_sound closed (Nat.le_of_lt inside)).1

private theorem reached_of_mem_searchedBelow (inside : count ≤ g.size) {u : Nat}
    (member : u ∈ (g.searchedBelow count).entered) : ∃ r < count, g.Reaches r u := by
  induction count with
  | zero => cases member
  | succ count ih =>
    rcases (searchedBelow_gathers closed inside).entered u member with old | reaches
    · obtain ⟨r, below, reaches⟩ := ih (Nat.le_of_lt inside) old
      exact ⟨r, Nat.lt_succ_of_lt below, reaches⟩
    · exact ⟨count, Nat.lt_succ_self count, reaches⟩

/-- The search from the vertices below a number enters just what they reach. -/
theorem mem_searchedBelow (inside : count ≤ g.size) (u : Nat) :
    u ∈ (g.searchedBelow count).entered ↔ ∃ r < count, g.Reaches r u := by
  obtain ⟨sound, entered⟩ := searchedBelow_sound closed inside
  refine ⟨reached_of_mem_searchedBelow closed inside, ?_⟩
  rintro ⟨r, below, reaches⟩
  exact reaches.stays (fun w member => sound.followed w member List.not_mem_nil) (entered r below)

private theorem searchedBelow_found (inside : count ≤ g.size) : (g.searchedBelow count).found <+: g.searched.found := by
  have all : ∀ more, count ≤ more → more ≤ g.size → (g.searchedBelow count).found <+: (g.searchedBelow more).found := by
    intro more above
    induction above with
    | refl => exact fun _ => List.prefix_rfl
    | step _ ih => exact fun inside => (ih (Nat.le_of_lt inside)).trans (searchedBelow_gathers closed inside).found
  exact all g.size inside (Nat.le_refl _)

private theorem searched_inhabited {component : List Nat} (listed : component ∈ g.searched.found) : component ≠ [] := by
  have all : ∀ count ≤ g.size, ∀ component ∈ (g.searchedBelow count).found, component ≠ [] := by
    intro count
    induction count with
    | zero => exact fun _ _ none => by cases none
    | succ count ih =>
      intro inside component listed
      exact ((searchedBelow_gathers closed inside).inhabited component listed).elim (ih (Nat.le_of_lt inside) _) id
  exact all g.size (Nat.le_refl _) component listed

/-- A component is among the first ones, found from the vertices below a number, if and only if they reach it. -/
theorem place_lt_iff (inside : count ≤ g.size) {i : Nat} {component : List Nat}
    (listed : g.components[i]? = some component) (member : v ∈ component) :
    i < (g.searchedBelow count).found.length ↔ ∃ r < count, g.Reaches r v := by
  rw [components_getElem?] at listed
  obtain ⟨found, place, rfl⟩ := Option.map_eq_some_iff.mp listed
  have member := List.mem_mergeSort.mp member
  have sound := (searchedBelow_sound closed inside).1
  obtain ⟨later, same⟩ := searchedBelow_found closed inside
  rw [← mem_searchedBelow closed inside, ← sound.mem_found, List.mem_flatten]
  constructor
  · intro early
    rw [← same, List.getElem?_append_left early] at place
    exact ⟨found, List.mem_of_getElem? place, member⟩
  · rintro ⟨other, among, member'⟩
    obtain ⟨j, place'⟩ := List.mem_iff_getElem?.mp among
    obtain ⟨early, _⟩ := List.getElem?_eq_some_iff.mp place'
    have place' : g.searched.found[j]? = some other := by
      rw [← same, List.getElem?_append_left early]
      exact place'
    -- The vertex is in both components, so neither comes before the other.
    exact Nat.lt_of_le_of_lt ((searched_sound closed).place_le place' place member' member .refl) early

end Below

/-- The smallest vertex from which a component is reached. -/
def Origin (g : Digraph) (component : List Nat) (v : Nat) : Prop :=
  IsLeast {u | ∃ w ∈ component, g.Reaches u w} v

private theorem lt_size_of_mem (closed : g.Closed) {component : List Nat} (listed : component ∈ g.components)
    (member : v ∈ component) : v < g.size :=
  List.mem_range.mp ((components_perm closed).mem_iff.mp (List.mem_flatten.mpr ⟨component, listed, member⟩))

private theorem exists_origin (closed : g.Closed) {component : List Nat} (listed : component ∈ g.components) :
    ∃ v < g.size, g.Origin component v := by
  classical
  obtain ⟨found, among, rfl⟩ := mem_components.mp listed
  obtain ⟨w, inside⟩ := List.exists_mem_of_ne_nil found (searched_inhabited closed among)
  have member : w ∈ found.mergeSort (· ≤ ·) := List.mem_mergeSort.mpr inside
  have reached : {u | ∃ w ∈ found.mergeSort (· ≤ ·), g.Reaches u w}.Nonempty := ⟨w, w, member, .refl⟩
  have least := reached.isLeast_natFind
  exact ⟨_, Nat.lt_of_le_of_lt (least.2 ⟨w, member, .refl⟩) (lt_size_of_mem closed listed member), least⟩

/-- A component that a smaller vertex reaches comes first. -/
theorem place_lt_of_origin_lt (closed : g.Closed) {i j m n : Nat} {component other : List Nat}
    (first : g.components[i]? = some component) (second : g.components[j]? = some other)
    (origin : g.Origin component m) (origin' : g.Origin other n) (less : m < n) : i < j := by
  obtain ⟨⟨u, member, reaches⟩, _⟩ := origin
  obtain ⟨⟨w, member', _⟩, least⟩ := origin'
  have inside : n ≤ g.size :=
    Nat.le_trans (least ⟨w, member', .refl⟩)
      (Nat.le_of_lt (lt_size_of_mem closed (List.mem_of_getElem? second) member'))
  have early := (place_lt_iff closed inside first member).mpr ⟨m, less, reaches⟩
  have late : ¬ j < (g.searchedBelow n).found.length := by
    intro early'
    obtain ⟨r, below, reaches'⟩ := (place_lt_iff closed inside second member').mp early'
    exact Nat.not_le_of_lt below (least ⟨w, member', reaches'⟩)
  omega

/-- No edge leads to a larger vertex. -/
def Descending (g : Digraph) : Prop := ∀ a b, g.hasEdge a b → b ≤ a

private theorem Descending.reaches_le (descending : g.Descending) {a b : Nat} (reaches : g.Reaches a b) : b ≤ a := by
  induction reaches with
  | refl => exact Nat.le_refl a
  | tail _ edge ih => exact Nat.le_trans (descending _ _ (List.contains_iff_mem.mpr edge)) ih

private theorem Descending.origin (descending : g.Descending) (closed : g.Closed) {component : List Nat}
    (listed : component ∈ g.components) (member : v ∈ component) : g.Origin component v := by
  refine ⟨⟨v, member, .refl⟩, ?_⟩
  rintro u ⟨w, member', reaches⟩
  exact descending.reaches_le (reaches.trans (components_connected closed listed member' member))

/-- Where no edge leads to a larger vertex, the vertices keep their order. -/
theorem Descending.flatten_components (descending : g.Descending) (closed : g.Closed) :
    g.components.flatten = List.range g.size := by
  have increasing : g.components.flatten.Pairwise (· < ·) := by
    refine List.pairwise_flatten.mpr ⟨fun _ => components_sorted closed, ?_⟩
    refine List.pairwise_iff_getElem.mpr fun i j inside inside' order x member y member' => ?_
    have first := List.getElem?_eq_getElem inside
    have second := List.getElem?_eq_getElem inside'
    -- Each vertex is the origin of its component, so a larger one cannot come first.
    rcases Nat.lt_trichotomy x y with less | same | greater
    · exact less
    · subst same
      exact absurd (components_place_le closed first second member member' .refl) (Nat.not_le_of_lt order)
    · have origin := descending.origin closed (List.mem_of_getElem? first) member
      have origin' := descending.origin closed (List.mem_of_getElem? second) member'
      exact absurd (place_lt_of_origin_lt closed second first origin' origin greater) (Nat.lt_asymm order)
  exact (components_perm closed).eq_of_pairwise
    (fun a b _ _ less greater => absurd greater (Nat.lt_asymm less)) increasing
    List.pairwise_lt_range

end Digraph

namespace Dependencies

/-- In every graph whose edges end at its vertices, the components are in the order of the smallest vertices that reach
them, as far as these differ. Where no edge leads to a larger vertex the vertices keep their order, so declarations that
refer to none behind them are in dependency order as they are given. -/
theorem components_follow_origins :
    (∀ g : Digraph, g.inRange →
      (∀ component ∈ g.components, ∃ v < g.size, g.Origin component v) ∧
      (∀ (i j : Nat) component other m n, g.components[i]? = some component → g.components[j]? = some other →
        g.Origin component m → g.Origin other n → m < n → i < j) ∧
      (g.Descending → g.components.flatten = List.range g.size)) ∧
    ∀ (normalize : String → String) (decls : List Decl), (analyze normalize decls).problem = none →
      (analyze normalize decls).scan.graph.Descending →
        (analyze normalize decls).order = List.range decls.length := by
  refine ⟨fun g inRange => ?_, fun normalize decls analysed descending => ?_⟩
  · have closed := Digraph.closed_of_inRange inRange
    refine ⟨fun _ => Digraph.exists_origin closed, ?_, fun descending => descending.flatten_components closed⟩
    intro i j component other m n first second origin origin' less
    exact Digraph.place_lt_of_origin_lt closed first second origin origin' less
  · obtain ⟨size, closed, order⟩ := analysed_graph analysed
    rw [order, descending.flatten_components closed, size]

/-- A vertex below a cycle is reached from a smaller vertex than the cycle, which has a larger vertex behind it; and a
declaration that refers to itself and to the one before it stays behind that one. -/
theorem components_follow_origins_cycle :
    let g : Digraph := ⟨[[3], [2], [1, 3], [], [4, 1]]⟩
    let decls : List Decl := [
      ⟨"f", [], .wildcard, .lam (.bind "g") (.name "g")⟩,
      ⟨"g", [], .wildcard, .call (.name "f") (.name "g")⟩]
    g.inRange ∧ g.components = [[3], [0], [1, 2], [4]] ∧ g.Origin [3] 0 ∧ g.Origin [1, 2] 1 ∧
      (∀ i j : Nat, g.components[i]? = some [3] → g.components[j]? = some [1, 2] → i < j) ∧
      (analyze id decls).order = [0, 1] := by
  intro g decls
  obtain ⟨graphs, analyses⟩ := components_follow_origins
  have inRange : g.inRange := by decide
  have origin : g.Origin [3] 0 := ⟨⟨3, by decide, .single (by decide)⟩, fun _ _ => Nat.zero_le _⟩
  have origin' : g.Origin [1, 2] 1 := by
    refine ⟨⟨1, by decide, .refl⟩, ?_⟩
    rintro u ⟨w, member, reaches⟩
    refine Nat.pos_of_ne_zero fun zero => ?_
    have aside : ∀ v, v ∈ [0, 3] → ∀ u ∈ g.succ v, u ∈ [0, 3] := by decide
    have apart : ∀ w ∈ [1, 2], w ∉ [0, 3] := by decide
    exact apart w member (reaches.stays aside (zero ▸ List.mem_cons_self))
  have found : g.searched.found = [[3], [0], [2, 1], [4]] := by decide +kernel
  have components : g.components = [[3], [0], [1, 2], [4]] := by
    rw [Digraph.components, found]
    simp [List.mergeSort, List.MergeSort.Internal.splitInTwo]
  refine ⟨inRange, components, origin, origin', fun i j first second => ?_, ?_⟩
  · exact (graphs g inRange).2.1 i j _ _ 0 1 first second origin origin' (by decide)
  · have analysed : (analyze id decls).problem = none := Option.isNone_iff_eq_none.mp (by decide +kernel)
    have graph : (analyze id decls).scan.graph.successors = [[], [0, 1]] := by decide +kernel
    refine analyses id decls analysed fun a b edge => ?_
    rw [Digraph.hasEdge, Digraph.succ, graph] at edge
    rcases a with - | - | a
    · cases edge
    · have targets : ∀ b ∈ [0, 1], b ≤ 1 := by decide
      exact targets b (List.contains_iff_mem.mp edge)
    · cases edge

end Dependencies

end RefinementTypes
