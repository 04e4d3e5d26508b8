import Mathlib.Data.List.Nodup
import Mathlib.Data.List.Perm.Subperm
import Mathlib.Logic.Relation
import RefinementTypes.Dependencies.Digraph

/-! Components by low links. While a search is under way, the vertices on the stack reach the vertices that are being
visited, and these reach all that lies above them. So a vertex that nothing above it leads below makes a component with
what lies above it, and edges that leave the component end in components found before. -/

namespace RefinementTypes.Digraph

/-- There is a way along the edges from one vertex to another. -/
def Reaches (g : Digraph) : Nat → Nat → Prop := Relation.ReflTransGen fun a b => b ∈ g.succ a

def Closed (g : Digraph) : Prop := ∀ v, v < g.size → ∀ u ∈ g.succ v, u < g.size

variable {g : Digraph} {path : List Nat} {before search after : Search}

private theorem Reaches.edge {a b c : Nat} (reaches : g.Reaches a b) (edge : c ∈ g.succ b) : g.Reaches a c :=
  Relation.ReflTransGen.tail reaches edge

theorem Reaches.stays {inside : Nat → Prop} (closed : ∀ v, inside v → ∀ u ∈ g.succ v, inside u) {a b : Nat}
    (reaches : g.Reaches a b) (start : inside a) : inside b := by
  induction reaches with
  | refl => exact start
  | tail _ edge ih => exact closed _ ih _ edge

/-- A later state of a search: more has been entered, and what has been put on the stack is new. -/
structure Search.Extends (before after : Search) : Prop where
  entered : before.entered <+: after.entered
  stack : ∃ top, after.stack = top ++ before.stack ∧ ∀ v ∈ top, v ∉ before.entered

namespace Search.Extends

theorem refl (search : Search) : search.Extends search := ⟨List.prefix_refl _, [], rfl, by simp⟩

theorem trans (early : before.Extends search) (late : search.Extends after) : before.Extends after := by
  obtain ⟨top, same, new⟩ := early.stack
  obtain ⟨top', same', new'⟩ := late.stack
  refine ⟨early.entered.trans late.entered, top' ++ top, by rw [same', same, List.append_assoc], fun v member => ?_⟩
  rcases List.mem_append.mp member with above | below
  · exact fun old => new' v above (early.entered.subset old)
  · exact new v below

private theorem enter (search : Search) {v : Nat} (new : v ∉ search.entered) : search.Extends (search.enter v) :=
  ⟨List.prefix_append _ _, [v], rfl, by simpa using new⟩

private theorem index_old (extends' : before.Extends after) {v : Nat} (old : v ∈ before.entered) :
    after.index v = before.index v := by
  obtain ⟨rest, same⟩ := extends'.entered
  rw [index, ← same, List.idxOf_append_of_mem old, index]

private theorem index_new (extends' : before.Extends after) {v : Nat} (new : v ∉ before.entered) :
    before.entered.length ≤ after.index v := by
  obtain ⟨rest, same⟩ := extends'.entered
  rw [index, ← same, List.idxOf_append_of_notMem new]
  exact Nat.le_add_right _ _

private theorem mem_stack (extends' : before.Extends after) {v : Nat} (old : v ∈ before.entered) :
    v ∈ after.stack ↔ v ∈ before.stack := by
  obtain ⟨top, same, new⟩ := extends'.stack
  rw [same, List.mem_append]
  exact or_iff_right fun above => new v above old

end Search.Extends

private theorem Search.index_enter {v : Nat} (new : v ∉ search.entered) :
    (search.enter v).index v = search.entered.length := by
  rw [Search.index, Search.enter, List.idxOf_append_of_notMem new]
  simp

private theorem Search.index_lt {v : Nat} (member : v ∈ search.entered) : search.index v < search.entered.length :=
  List.idxOf_lt_length_of_mem member

/-- What holds while the vertices of `path` are being visited. What has been entered is on the stack or in a component;
only the vertices being visited have edges that were not followed. On the stack, they reach all that was entered after
them, and everything reaches one of them that was entered before it. The components are strongly connected, and no edge
leads from one of them to a later one or out of them. -/
structure Search.Sound (g : Digraph) (path : List Nat) (search : Search) : Prop where
  distinct : search.entered.Nodup
  inside : ∀ v ∈ search.entered, v < g.size
  held : (search.stack ++ search.found.flatten).Perm search.entered
  onStack : ∀ p ∈ path, p ∈ search.stack
  followed : ∀ v ∈ search.entered, v ∉ path → ∀ u ∈ g.succ v, u ∈ search.entered
  down : ∀ p ∈ path, ∀ v ∈ search.stack, search.index p ≤ search.index v → g.Reaches p v
  up : ∀ v ∈ search.stack, ∃ p ∈ path, search.index p ≤ search.index v ∧ g.Reaches v p
  connected : ∀ component ∈ search.found, ∀ u ∈ component, ∀ v ∈ component, g.Reaches u v
  ordered : ∀ early component, early ++ [component] <+: search.found →
    ∀ v ∈ component, ∀ u ∈ g.succ v, u ∈ (early ++ [component]).flatten

namespace Search.Sound

theorem empty : Search.empty.Sound g [] := by
  constructor <;> simp [Search.empty]

theorem mem_entered (sound : search.Sound g path) (v : Nat) :
    v ∈ search.entered ↔ v ∈ search.stack ∨ v ∈ search.found.flatten := by
  rw [← sound.held.mem_iff, List.mem_append]

private theorem stacked (sound : search.Sound g path) {v : Nat} (member : v ∈ search.stack) : v ∈ search.entered :=
  (sound.mem_entered v).mpr (.inl member)

private theorem apart (sound : search.Sound g path) {v : Nat} (member : v ∈ search.stack) :
    v ∉ search.found.flatten := by
  have distinct := sound.held.nodup_iff.mpr sound.distinct
  exact fun found => (List.nodup_append.mp distinct).2.2 v member v found rfl

theorem stack_eq_nil (sound : search.Sound g []) : search.stack = [] := by
  refine List.eq_nil_iff_forall_not_mem.mpr fun v member => ?_
  obtain ⟨p, none, _⟩ := sound.up v member
  cases none

/-- No edge leads from a component to a later one, or out of the components. -/
theorem first_closed (sound : search.Sound g path) {first : List (List Nat)} (listed : first <+: search.found) (v : Nat)
    (member : v ∈ first.flatten) : ∀ u ∈ g.succ v, u ∈ first.flatten := by
  obtain ⟨component, among, member⟩ := List.mem_flatten.mp member
  obtain ⟨early, late, same⟩ := List.append_of_mem among
  have inner : early ++ [component] <+: first := ⟨late, by simp [same]⟩
  intro u edge
  have target := sound.ordered early component (inner.trans listed) v member u edge
  obtain ⟨other, among, inside⟩ := List.mem_flatten.mp target
  exact List.mem_flatten.mpr ⟨other, inner.subset among, inside⟩

/-- What a vertex of a component reaches is in that component or in an earlier one. -/
theorem place_le (sound : search.Sound g path) {i j a b : Nat} {component other : List Nat}
    (first : search.found[i]? = some component) (second : search.found[j]? = some other) (source : a ∈ component)
    (target : b ∈ other) (reaches : g.Reaches a b) : j ≤ i := by
  have early : a ∈ (search.found.take (i + 1)).flatten := by
    refine List.mem_flatten.mpr ⟨component, List.mem_of_getElem? (i := i) ?_, source⟩
    rw [List.getElem?_take_of_lt (Nat.lt_succ_self i), first]
  have reached := reaches.stays (sound.first_closed (List.take_prefix _ _)) early
  by_contra later
  -- A vertex in a later component would be in two of them.
  have distinct : search.found.flatten.Nodup :=
    (List.nodup_append.mp (sound.held.nodup_iff.mpr sound.distinct)).2.1
  rw [← List.take_append_drop (i + 1) search.found, List.flatten_append] at distinct
  refine (List.nodup_append.mp distinct).2.2 b reached b (List.mem_flatten.mpr ⟨other, ?_, target⟩) rfl
  refine List.mem_of_getElem? (i := j - (i + 1)) ?_
  rw [List.getElem?_drop, Nat.add_sub_cancel' (Nat.lt_of_not_le later), second]

private theorem length_lt (sound : search.Sound g path) {v : Nat} (inside : v < g.size) (new : v ∉ search.entered) :
    search.entered.length < g.size := by
  have distinct : (v :: search.entered).Nodup := List.nodup_cons.mpr ⟨new, sound.distinct⟩
  have among : v :: search.entered ⊆ List.range g.size := by
    intro u member
    rcases List.mem_cons.mp member with rfl | member
    · exact List.mem_range.mpr inside
    · exact List.mem_range.mpr (sound.inside u member)
  have few := (List.subperm_of_subset distinct among).length_le
  rwa [List.length_cons, List.length_range] at few

private theorem enter (sound : search.Sound g path) {v : Nat} (inside : v < g.size) (new : v ∉ search.entered)
    (reached : ∀ p ∈ path, g.Reaches p v) : (search.enter v).Sound g (v :: path) := by
  have extends' := Search.Extends.enter search new
  have last := Search.index_enter new
  have earlier {u : Nat} (member : u ∈ search.stack) : (search.enter v).index u = search.index u ∧
      search.index u < search.entered.length :=
    ⟨extends'.index_old (sound.stacked member), Search.index_lt (sound.stacked member)⟩
  constructor
  case distinct => exact (List.perm_append_singleton v _).nodup_iff.mpr (List.nodup_cons.mpr ⟨new, sound.distinct⟩)
  case inside =>
    intro u member
    rcases List.mem_append.mp member with old | here
    · exact sound.inside u old
    · exact List.mem_singleton.mp here ▸ inside
  case held => exact (sound.held.cons v).trans (List.perm_append_singleton v _).symm
  case onStack =>
    refine List.forall_mem_cons.mpr ⟨List.mem_cons_self, fun p outer => ?_⟩
    exact List.mem_cons_of_mem v (sound.onStack p outer)
  case followed =>
    intro u member other w edge
    have old := (List.mem_append.mp member).resolve_right (by simpa using List.ne_of_not_mem_cons other)
    exact List.mem_append_left _ (sound.followed u old (List.not_mem_of_not_mem_cons other) w edge)
  case down =>
    intro p visited u member order
    rcases List.mem_cons.mp member with rfl | below
    · rcases List.mem_cons.mp visited with rfl | outer
      · exact .refl
      · exact reached p outer
    · rcases List.mem_cons.mp visited with rfl | outer
      · have := earlier below
        omega
      · rw [(earlier (sound.onStack p outer)).1, (earlier below).1] at order
        exact sound.down p outer u below order
  case up =>
    intro u member
    rcases List.mem_cons.mp member with rfl | member
    · exact ⟨u, List.mem_cons_self, Nat.le_refl _, .refl⟩
    · obtain ⟨p, visited, order, reaches⟩ := sound.up u member
      refine ⟨p, List.mem_cons_of_mem v visited, ?_, reaches⟩
      rw [(earlier (sound.onStack p visited)).1, (earlier member).1]
      exact order
  case connected => exact sound.connected
  case ordered => exact sound.ordered

end Search.Sound

private theorem Search.close_eq {v : Nat} {top rest : List Nat} (same : search.stack = (top ++ [v]) ++ rest)
    (new : v ∉ top) : search.close v = { search with stack := rest, found := search.found ++ [top ++ [v]] } := by
  have count : search.stack.idxOf v + 1 = (top ++ [v]).length := by
    rw [same, List.append_assoc, List.idxOf_append_of_notMem new]
    simp
  rw [Search.close, count, same, List.take_left, List.drop_left]

/-- What the visit of a vertex has left: the low link is the least index that edges from what is new on the stack lead
to, and the vertex reaches what has that index. -/
structure Visited (g : Digraph) (path : List Nat) (before : Search) (v : Nat) (result : Search × Nat) : Prop where
  sound : result.1.Sound g path
  extends' : before.Extends result.1
  entered : v ∈ result.1.entered
  low_le : result.2 ≤ result.1.index v
  met : result.2 = result.1.index v ∨ ∃ u ∈ result.1.stack, result.1.index u = result.2 ∧ g.Reaches v u
  least : ∀ w ∈ result.1.stack, w ∉ before.entered → ∀ u ∈ g.succ w, u ∈ before.stack →
    result.2 ≤ result.1.index u

/-- What is known of a vertex while its edges are being followed, as far as those to `seen`. -/
structure Visiting (g : Digraph) (path : List Nat) (before : Search) (v : Nat) (seen : List Nat)
    (state : Search × Nat) : Prop where
  sound : state.1.Sound g (v :: path)
  extends' : (before.enter v).Extends state.1
  low_le : state.2 ≤ state.1.index v
  met : ∃ u ∈ state.1.stack, state.1.index u = state.2 ∧ g.Reaches v u
  least : ∀ w ∈ state.1.stack, w ∉ (before.enter v).entered → ∀ u ∈ g.succ w, u ∈ before.stack →
    state.2 ≤ state.1.index u
  seen : ∀ u ∈ seen, u ∈ state.1.entered ∧ (u ∈ state.1.stack → state.2 ≤ state.1.index u)

namespace Visiting

variable {v target : Nat} {seen : List Nat} {state : Search × Nat}

private theorem start (sound : before.Sound g path) (inside : v < g.size) (new : v ∉ before.entered)
    (reached : ∀ p ∈ path, g.Reaches p v) :
    Visiting g path before v [] (before.enter v, before.entered.length) where
  sound := sound.enter inside new reached
  extends' := .refl _
  low_le := Nat.le_of_eq (Search.index_enter new).symm
  met := ⟨v, List.mem_cons_self, Search.index_enter new, .refl⟩
  least w member other := absurd ((sound.enter inside new reached).stacked member) other
  seen := by simp

private theorem back (visiting : Visiting g path before v seen state) (edge : target ∈ g.succ v)
    (entered : target ∈ state.1.entered) (stacked : target ∈ state.1.stack) :
    Visiting g path before v (seen ++ [target]) (state.1, min state.2 (state.1.index target)) where
  sound := visiting.sound
  extends' := visiting.extends'
  low_le := Nat.le_trans (Nat.min_le_left _ _) visiting.low_le
  met := by
    obtain ⟨u, member, same, reaches⟩ := visiting.met
    rcases Nat.le_total state.2 (state.1.index target) with lower | lower
    · exact ⟨u, member, same.trans (Nat.min_eq_left lower).symm, reaches⟩
    · exact ⟨target, stacked, (Nat.min_eq_right lower).symm, .edge .refl edge⟩
  least w member other u leaves below :=
    Nat.le_trans (Nat.min_le_left _ _) (visiting.least w member other u leaves below)
  seen := by
    intro u member
    rcases List.mem_append.mp member with earlier | here
    · exact ⟨(visiting.seen u earlier).1, fun held =>
        Nat.le_trans (Nat.min_le_left _ _) ((visiting.seen u earlier).2 held)⟩
    · rw [List.mem_singleton.mp here]
      exact ⟨entered, fun _ => Nat.min_le_right _ _⟩

private theorem aside (visiting : Visiting g path before v seen state) (entered : target ∈ state.1.entered)
    (gone : target ∉ state.1.stack) : Visiting g path before v (seen ++ [target]) state where
  sound := visiting.sound
  extends' := visiting.extends'
  low_le := visiting.low_le
  met := visiting.met
  least := visiting.least
  seen := by
    intro u member
    rcases List.mem_append.mp member with earlier | here
    · exact visiting.seen u earlier
    · rw [List.mem_singleton.mp here]
      exact ⟨entered, fun held => absurd held gone⟩

private theorem onward {result : Search × Nat} (visiting : Visiting g path before v seen state)
    (edge : target ∈ g.succ v) (new : target ∉ state.1.entered) (visited : Visited g (v :: path) state.1 target result) :
    Visiting g path before v (seen ++ [target]) (result.1, min state.2 result.2) := by
  have kept {u : Nat} (member : u ∈ state.1.stack) : result.1.index u = state.1.index u :=
    visited.extends'.index_old (visiting.sound.stacked member)
  have here : v ∈ state.1.stack := visiting.sound.onStack v List.mem_cons_self
  have deeper {u : Nat} (member : u ∈ before.stack) : u ∈ state.1.stack := by
    obtain ⟨top, same, _⟩ := visiting.extends'.stack
    rw [same]
    exact List.mem_append_right _ (List.mem_cons_of_mem v member)
  constructor
  case sound => exact visited.sound
  case extends' => exact visiting.extends'.trans visited.extends'
  case low_le =>
    rw [kept here]
    exact Nat.le_trans (Nat.min_le_left _ _) visiting.low_le
  case met =>
    obtain ⟨u, member, same, reaches⟩ := visiting.met
    by_cases lower : state.2 ≤ result.2
    · refine ⟨u, (visited.extends'.mem_stack (visiting.sound.stacked member)).mpr member, ?_, reaches⟩
      rw [kept member, same, Nat.min_eq_left lower]
    · -- The target was entered after `v`, so a low link below that of `v` is not its own index.
      have later := visited.extends'.index_new new
      have earlier := Search.index_lt (visiting.sound.stacked here)
      have low := visiting.low_le
      obtain ⟨w, held, same', reaches'⟩ := visited.met.resolve_left (by omega)
      refine ⟨w, held, ?_, (Relation.ReflTransGen.single edge).trans reaches'⟩
      rw [Nat.min_eq_right (Nat.le_of_not_le lower)]
      exact same'
  case least =>
    intro w member other u leaves below
    by_cases old : w ∈ state.1.entered
    · have held := (visited.extends'.mem_stack old).mp member
      rw [kept (deeper below)]
      exact Nat.le_trans (Nat.min_le_left _ _) (visiting.least w held other u leaves below)
    · exact Nat.le_trans (Nat.min_le_right _ _) (visited.least w member old u leaves (deeper below))
  case seen =>
    intro u member
    rcases List.mem_append.mp member with earlier | last
    · obtain ⟨entered, low⟩ := visiting.seen u earlier
      refine ⟨visited.extends'.entered.subset entered, fun held => ?_⟩
      have held' := (visited.extends'.mem_stack entered).mp held
      rw [kept held']
      exact Nat.le_trans (Nat.min_le_left _ _) (low held')
    · rw [List.mem_singleton.mp last]
      exact ⟨visited.entered, fun _ => Nat.le_trans (Nat.min_le_right _ _) visited.low_le⟩

/-- Once all edges of a vertex have been followed, only those of the vertices that led to it have not. -/
theorem followed (visiting : Visiting g path before v (g.succ v) state) :
    ∀ w ∈ state.1.entered, w ∉ path → ∀ u ∈ g.succ w, u ∈ state.1.entered := by
  intro w member other u edge
  by_cases same : w = v
  · rw [same] at edge
    exact (visiting.seen u edge).1
  · exact visiting.sound.followed w member (by simp [same, other]) u edge

theorem follow {visit : Search → Nat → Search × Nat} (visiting : Visiting g path before v seen state)
    (edge : target ∈ g.succ v)
    (visits : target ∉ state.1.entered → Visited g (v :: path) state.1 target (visit state.1 target)) :
    Visiting g path before v (seen ++ [target]) (follow visit state target) := by
  unfold Digraph.follow
  split
  next entered =>
    rw [List.contains_iff_mem] at entered
    split
    next stacked => exact visiting.back edge entered (List.contains_iff_mem.mp stacked)
    next gone => exact visiting.aside entered fun stacked => gone (List.contains_iff_mem.mpr stacked)
  next new =>
    rw [List.contains_iff_mem] at new
    exact visiting.onward edge new (visits new)

private theorem index_self (visiting : Visiting g path before v seen state) (new : v ∉ before.entered) :
    state.1.index v = before.entered.length := by
  rw [visiting.extends'.index_old (List.mem_append_right _ List.mem_cons_self), Search.index_enter new]

private theorem stays (visiting : Visiting g path before v seen state) (new : v ∉ before.entered) :
    before.Extends state.1 :=
  (Search.Extends.enter before new).trans visiting.extends'

private theorem least_all (visiting : Visiting g path before v (g.succ v) state) (sound : before.Sound g path)
    (new : v ∉ before.entered) : ∀ w ∈ state.1.stack, w ∉ before.entered → ∀ u ∈ g.succ w, u ∈ before.stack →
      state.2 ≤ state.1.index u := by
  intro w member other u edge below
  by_cases same : w = v
  · rw [same] at edge
    exact (visiting.seen u edge).2 (((visiting.stays new).mem_stack (sound.stacked below)).mpr below)
  · exact visiting.least w member (by simp [Search.enter, other, same]) u edge below

private theorem stay (visiting : Visiting g path before v (g.succ v) state) (sound : before.Sound g path)
    (new : v ∉ before.entered) (below : state.2 ≠ state.1.index v) : Visited g path before v state := by
  have extends' := visiting.stays new
  have last := visiting.index_self new
  constructor
  case sound =>
    refine { visiting.sound with onStack := ?_, followed := ?_, down := ?_, up := ?_ }
    · exact fun p outer => visiting.sound.onStack p (List.mem_cons_of_mem v outer)
    · exact visiting.followed
    · exact fun p outer => visiting.sound.down p (List.mem_cons_of_mem v outer)
    · intro w member
      obtain ⟨p, visited, order, reaches⟩ := visiting.sound.up w member
      rcases List.mem_cons.mp visited with rfl | outer
      · -- What reaches `v` reaches what has its low link, and with that a vertex visited before.
        obtain ⟨u, held, same, onward⟩ := visiting.met
        have low := visiting.low_le
        have old : u ∈ before.entered := by
          by_contra fresh
          have := extends'.index_new fresh
          omega
        obtain ⟨q, outer, order', reaches'⟩ := sound.up u ((extends'.mem_stack old).mp held)
        refine ⟨q, outer, ?_, (reaches.trans onward).trans reaches'⟩
        rw [extends'.index_old (sound.stacked (sound.onStack q outer))]
        rw [extends'.index_old old] at same
        omega
      · exact ⟨p, outer, order, reaches⟩
  case extends' => exact extends'
  case entered => exact visiting.sound.stacked (visiting.sound.onStack v List.mem_cons_self)
  case low_le => exact visiting.low_le
  case met => exact .inr visiting.met
  case least => exact visiting.least_all sound new

/-- The vertex lies on what was on the stack before, under what is new. -/
theorem stack_eq (visiting : Visiting g path before v seen state) (new : v ∉ before.entered) :
    ∃ top, state.1.stack = (top ++ [v]) ++ before.stack ∧ v ∉ top ∧ ∀ w ∈ top ++ [v], w ∉ before.entered := by
  obtain ⟨top, same, above⟩ := visiting.extends'.stack
  refine ⟨top, by rw [same, List.append_assoc]; rfl, fun member => ?_, fun w member => ?_⟩
  · exact above v member (List.mem_append_right _ List.mem_cons_self)
  · rcases List.mem_append.mp member with member | here
    · exact fun old => above w member (List.mem_append_left _ old)
    · exact List.mem_singleton.mp here ▸ new

/-- If the vertex reaches nothing below itself, neither does what lies above it. -/
theorem cut (visiting : Visiting g path before v (g.succ v) state) (sound : before.Sound g path)
    (new : v ∉ before.entered) (own : state.2 = state.1.index v) {part : List Nat}
    (same : state.1.stack = part ++ before.stack) (fresh : ∀ w ∈ part, w ∉ before.entered) :
    ∀ w ∈ part, ∀ u ∈ g.succ w, u ∈ part ∨ u ∈ state.1.found.flatten := by
  intro w member u edge
  have held : w ∈ state.1.stack := same ▸ List.mem_append_left _ member
  have outer : w ∉ path := fun visited => fresh w member (sound.stacked (sound.onStack w visited))
  have entered := visiting.followed w (visiting.sound.stacked held) outer u edge
  rcases (visiting.sound.mem_entered u).mp entered with stacked | found
  · rw [same] at stacked
    rcases List.mem_append.mp stacked with inside | below
    · exact .inl inside
    · have low := visiting.least_all sound new w held (fresh w member) u edge below
      have old := sound.stacked below
      have earlier := Search.index_lt old
      rw [(visiting.stays new).index_old old, own, visiting.index_self new] at low
      omega
  · exact .inr found

/-- The vertex makes a component with what lies above it if it reaches nothing below itself. -/
theorem close (visiting : Visiting g path before v (g.succ v) state) (sound : before.Sound g path)
    (new : v ∉ before.entered) (own : state.2 = state.1.index v) :
    Visited g path before v (state.1.close v, state.2) := by
  have extends' := visiting.stays new
  obtain ⟨top, same, bottom, fresh⟩ := visiting.stack_eq new
  have cut := visiting.cut sound new own same fresh
  have held {w : Nat} (member : w ∈ top ++ [v]) : w ∈ state.1.stack := same ▸ List.mem_append_left _ member
  have kept {w : Nat} (below : w ∈ before.stack) : w ∈ state.1.stack :=
    (extends'.mem_stack (sound.stacked below)).mpr below
  have closed : ∀ w, w ∈ top ++ [v] ∨ w ∈ state.1.found.flatten → ∀ u ∈ g.succ w,
      u ∈ top ++ [v] ∨ u ∈ state.1.found.flatten := by
    rintro w (above | found) u edge
    · exact cut w above u edge
    · exact .inr (visiting.sound.first_closed (List.prefix_refl _) w found u edge)
  -- Everything above `v` reaches a vertex being visited. That is `v` itself, since no way leads below it.
  have returns {w : Nat} (member : w ∈ top ++ [v]) : g.Reaches w v := by
    obtain ⟨p, visited, _, reaches⟩ := visiting.sound.up w (held member)
    rcases List.mem_cons.mp visited with rfl | outer
    · exact reaches
    · have below := sound.onStack p outer
      rcases reaches.stays closed (.inl member) with above | found
      · exact absurd (sound.stacked below) (fresh p above)
      · exact absurd found (visiting.sound.apart (kept below))
  have arrives {w : Nat} (member : w ∈ top ++ [v]) : g.Reaches v w := by
    refine visiting.sound.down v List.mem_cons_self w (held member) ?_
    rw [visiting.index_self new]
    exact extends'.index_new (fresh w member)
  rw [Search.close_eq same bottom]
  constructor
  case sound =>
    constructor
    case distinct => exact visiting.sound.distinct
    case inside => exact visiting.sound.inside
    case held =>
      refine List.Perm.trans ?_ visiting.sound.held
      rw [same, List.flatten_append, List.flatten_singleton, ← List.append_assoc, List.append_assoc (top ++ [v])]
      exact List.perm_append_comm
    case onStack => exact sound.onStack
    case followed => exact visiting.followed
    case down => exact fun p outer w below => visiting.sound.down p (List.mem_cons_of_mem v outer) w (kept below)
    case up =>
      intro w below
      obtain ⟨p, outer, order, reaches⟩ := sound.up w below
      refine ⟨p, outer, ?_, reaches⟩
      change state.1.index p ≤ state.1.index w
      rw [extends'.index_old (sound.stacked (sound.onStack p outer)), extends'.index_old (sound.stacked below)]
      exact order
    case connected =>
      intro component listed
      rcases List.mem_append.mp listed with earlier | here
      · exact visiting.sound.connected component earlier
      · rw [List.mem_singleton.mp here]
        exact fun u member w member' => (returns member).trans (arrives member')
    case ordered =>
      intro early component first
      rcases List.prefix_concat_iff.mp first with whole | earlier
      · obtain ⟨rfl, last⟩ := List.append_inj' whole rfl
        cases last
        intro w member u edge
        rw [List.flatten_append, List.flatten_singleton]
        exact List.mem_append.mpr (cut w member u edge).symm
      · exact visiting.sound.ordered early component earlier
  case extends' => exact ⟨extends'.entered, [], rfl, by simp⟩
  case entered => exact visiting.sound.stacked (visiting.sound.onStack v List.mem_cons_self)
  case low_le => exact visiting.low_le
  case met => exact .inl own
  case least => exact fun w below other => absurd (sound.stacked below) other

/-- The edges of a vertex are followed one after the other, as long as each vertex that is new is visited. -/
theorem foldl {visit : Search → Nat → Search × Nat}
    (visits : ∀ (search : Search) (target : Nat), target ∈ g.succ v → (before.enter v).Extends search →
      search.Sound g (v :: path) → target ∉ search.entered →
        Visited g (v :: path) search target (visit search target))
    {rest : List Nat} (edges : ∀ u ∈ rest, u ∈ g.succ v) (visiting : Visiting g path before v seen state) :
    Visiting g path before v (seen ++ rest) (rest.foldl (Digraph.follow visit) state) := by
  induction rest generalizing seen state with
  | nil => rwa [List.append_nil]
  | cons target rest ih =>
    obtain ⟨edge, others⟩ := List.forall_mem_cons.mp edges
    rw [List.foldl_cons, ← List.singleton_append, ← List.append_assoc]
    exact ih others (visiting.follow edge (visits _ _ edge visiting.extends' visiting.sound))

end Visiting

/-- The hypotheses under which a vertex is visited: there is room for all that is left to enter, and the vertices that
are being visited lead to it. -/
structure Search.Awaits (g : Digraph) (path : List Nat) (depth : Nat) (search : Search) (v : Nat) : Prop where
  sound : search.Sound g path
  room : g.size ≤ search.entered.length + depth
  inside : v < g.size
  new : v ∉ search.entered
  reached : ∀ p ∈ path, g.Reaches p v

namespace Search.Awaits

variable {v target depth : Nat}

/-- When no vertex is being visited, any new one can be. -/
theorem root (sound : search.Sound g []) (inside : v < g.size) (new : v ∉ search.entered) :
    search.Awaits g [] g.size v :=
  ⟨sound, Nat.le_add_left _ _, inside, new, by simp⟩

theorem start (awaits : search.Awaits g path depth v) :
    Visiting g path search v [] (search.enter v, search.entered.length) :=
  .start awaits.sound awaits.inside awaits.new awaits.reached

theorem next (awaits : search.Awaits g path (depth + 1) v) (closed : g.Closed) (edge : target ∈ g.succ v)
    (extends' : (search.enter v).Extends after) (sound : after.Sound g (v :: path)) (new : target ∉ after.entered) :
    after.Awaits g (v :: path) depth target where
  sound := sound
  room := by
    have longer := extends'.entered.length_le
    have room := awaits.room
    rw [Search.enter, List.length_append, List.length_singleton] at longer
    omega
  inside := closed v awaits.inside target edge
  new := new
  reached := by
    intro p visited
    rcases List.mem_cons.mp visited with rfl | outer
    · exact .edge .refl edge
    · exact .edge (awaits.reached p outer) edge

theorem positive (awaits : search.Awaits g path depth v) : 0 < depth := by
  have room := awaits.room
  have few := awaits.sound.length_lt awaits.inside awaits.new
  omega

theorem visit (awaits : search.Awaits g path depth v) (closed : g.Closed) :
    Visited g path search v (g.visit depth search v) := by
  induction depth generalizing path search v with
  | zero => exact absurd awaits.positive (Nat.lt_irrefl 0)
  | succ depth ih =>
    have whole := Visiting.foldl (fun _ _ edge extends' sound new => ih (awaits.next closed edge extends' sound new))
      (fun _ => id) awaits.start
    rw [List.nil_append] at whole
    have index := whole.index_self awaits.new
    rw [Digraph.visit]
    dsimp only
    split
    next own => exact whole.close awaits.sound awaits.new (own.trans index.symm)
    next below => exact whole.stay awaits.sound awaits.new fun own => below (own.trans index)

theorem visit_deeper (awaits : search.Awaits g path depth v) (closed : g.Closed) (more : Nat) :
    g.visit (depth + more) search v = g.visit depth search v := by
  induction depth generalizing path search v with
  | zero => exact absurd awaits.positive (Nat.lt_irrefl 0)
  | succ depth ih =>
    have fold {rest seen : List Nat} {state : Search × Nat} (edges : ∀ u ∈ rest, u ∈ g.succ v)
        (visiting : Visiting g path search v seen state) :
        rest.foldl (follow (g.visit (depth + more))) state = rest.foldl (follow (g.visit depth)) state := by
      induction rest generalizing seen state with
      | nil => rfl
      | cons target rest ih' =>
        obtain ⟨edge, others⟩ := List.forall_mem_cons.mp edges
        have waits (new : target ∉ state.1.entered) := awaits.next closed edge visiting.extends' visiting.sound new
        have same : follow (g.visit (depth + more)) state target = follow (g.visit depth) state target := by
          unfold follow
          split
          next => rfl
          next new => rw [ih (waits fun member => new (List.contains_iff_mem.mpr member))]
        rw [List.foldl_cons, List.foldl_cons, same]
        exact ih' others (visiting.follow edge fun new => (waits new).visit closed)
    rw [Nat.succ_add, Digraph.visit, Digraph.visit, fold (fun _ => id) awaits.start]

end Search.Awaits

theorem searchFrom_sound (closed : g.Closed) {v : Nat} (inside : v < g.size) (sound : search.Sound g []) :
    (g.searchFrom search v).Sound g [] ∧ v ∈ (g.searchFrom search v).entered ∧
      ∀ u ∈ search.entered, u ∈ (g.searchFrom search v).entered := by
  unfold searchFrom
  split
  next known => exact ⟨sound, List.contains_iff_mem.mp known, fun _ => id⟩
  next new =>
    have visited := (Search.Awaits.root sound inside fun member => new (List.contains_iff_mem.mpr member)).visit closed
    exact ⟨visited.sound, visited.entered, fun u member => visited.extends'.entered.subset member⟩

/-- A search from one vertex after the other is sound, and enters all of them. -/
theorem foldl_searchFrom (closed : g.Closed) {vertices : List Nat} (inside : ∀ v ∈ vertices, v < g.size)
    (sound : search.Sound g []) : (vertices.foldl g.searchFrom search).Sound g [] ∧
      ∀ v, v ∈ search.entered ∨ v ∈ vertices → v ∈ (vertices.foldl g.searchFrom search).entered := by
  induction vertices generalizing search with
  | nil => exact ⟨sound, fun v member => member.resolve_right List.not_mem_nil⟩
  | cons first rest ih =>
    obtain ⟨here, others⟩ := List.forall_mem_cons.mp inside
    obtain ⟨sound', entered, kept⟩ := searchFrom_sound closed here sound
    obtain ⟨last, covers⟩ := ih others sound'
    refine ⟨last, fun v member => covers v ?_⟩
    rcases member with before | listed
    · exact .inl (kept v before)
    · rcases List.mem_cons.mp listed with rfl | later
      · exact .inl entered
      · exact .inr later

theorem searched_sound (closed : g.Closed) : g.searched.Sound g [] :=
  (foldl_searchFrom closed (fun _ => List.mem_range.mp) .empty).1

private theorem searched_found (closed : g.Closed) : g.searched.found.flatten.Perm (List.range g.size) := by
  have sound := searched_sound closed
  have held := sound.held
  rw [sound.stack_eq_nil, List.nil_append] at held
  refine held.trans ((List.perm_ext_iff_of_nodup sound.distinct List.nodup_range).mpr fun v => ?_)
  have covers := (foldl_searchFrom closed (fun _ => List.mem_range.mp) (.empty (g := g))).2
  exact ⟨fun member => List.mem_range.mpr (sound.inside v member), fun inside => covers v (.inr inside)⟩

theorem closed_of_inRange (inRange : g.inRange) : g.Closed := by
  intro v inside u edge
  have listed : g.succ v ∈ g.successors := by
    rw [succ, List.getD_eq_getElem?_getD, List.getElem?_eq_getElem inside]
    exact List.getElem_mem inside
  simpa using List.all_eq_true.mp (List.all_eq_true.mp inRange _ listed) u edge

theorem components_getElem? (i : Nat) :
    g.components[i]? = g.searched.found[i]?.map fun component => component.mergeSort (· ≤ ·) :=
  List.getElem?_map

theorem mem_components {component : List Nat} :
    component ∈ g.components ↔ ∃ found ∈ g.searched.found, found.mergeSort (· ≤ ·) = component :=
  List.mem_map

theorem components_perm (closed : g.Closed) : g.components.flatten.Perm (List.range g.size) := by
  refine List.Perm.trans ?_ (searched_found closed)
  have sorted (found : List (List Nat)) :
      (found.map fun component => component.mergeSort (· ≤ ·)).flatten.Perm found.flatten := by
    induction found with
    | nil => exact .nil
    | cons component rest ih => exact (List.mergeSort_perm component _).append ih
  exact sorted _

/-- What a vertex of a component reaches is in that component or in an earlier one. -/
theorem components_place_le (closed : g.Closed) {i j a b : Nat} {component other : List Nat}
    (first : g.components[i]? = some component) (second : g.components[j]? = some other) (source : a ∈ component)
    (target : b ∈ other) (reaches : g.Reaches a b) : j ≤ i := by
  rw [components_getElem?] at first second
  obtain ⟨found, place, rfl⟩ := Option.map_eq_some_iff.mp first
  obtain ⟨found', place', rfl⟩ := Option.map_eq_some_iff.mp second
  exact (searched_sound closed).place_le place place' (List.mem_mergeSort.mp source) (List.mem_mergeSort.mp target)
    reaches

theorem components_connected (closed : g.Closed) {component : List Nat} (listed : component ∈ g.components) {u v : Nat}
    (first : u ∈ component) (second : v ∈ component) : g.Reaches u v := by
  obtain ⟨found, among, rfl⟩ := mem_components.mp listed
  exact (searched_sound closed).connected found among u (List.mem_mergeSort.mp first) v (List.mem_mergeSort.mp second)

theorem components_sorted (closed : g.Closed) {component : List Nat} (listed : component ∈ g.components) :
    component.Pairwise (· < ·) := by
  have distinct := (components_perm closed).nodup_iff.mpr List.nodup_range
  have distinct' : component.Nodup := (List.nodup_flatten.mp distinct).1 component listed
  obtain ⟨found, _, rfl⟩ := mem_components.mp listed
  have sorted : (found.mergeSort (· ≤ ·)).Pairwise fun a b => decide (a ≤ b) = true := by
    refine List.pairwise_mergeSort (fun a b c => ?_) (fun a b => ?_) found
    · simpa using Nat.le_trans
    · simpa using Nat.le_total a b
  refine (sorted.and distinct').imp fun ⟨order, different⟩ => ?_
  exact Nat.lt_of_le_of_ne (of_decide_eq_true order) different

/-- Of every graph whose edges end at its vertices, the components hold each vertex just once; two vertices are in one
of them if and only if each reaches the other; each of them is in increasing order; and an edge between two of them
leads to the earlier one. -/
theorem components_correct (g : Digraph) (inRange : g.inRange) :
    g.components.flatten.Perm (List.range g.size) ∧
    (∀ u v, u < g.size → v < g.size →
      ((∃ component ∈ g.components, u ∈ component ∧ v ∈ component) ↔ g.Reaches u v ∧ g.Reaches v u)) ∧
    (∀ component ∈ g.components, component.Pairwise (· < ·)) ∧
    ∀ (i j : Nat) component other, g.components[i]? = some component → g.components[j]? = some other →
      ∀ a ∈ component, ∀ b ∈ other, g.hasEdge a b → i ≠ j → j < i := by
  have closed := closed_of_inRange inRange
  refine ⟨components_perm closed, fun u v inside inside' => ⟨?_, ?_⟩, fun _ => components_sorted closed, ?_⟩
  · rintro ⟨component, listed, first, second⟩
    exact ⟨components_connected closed listed first second, components_connected closed listed second first⟩
  · rintro ⟨forth, back⟩
    have placed {w : Nat} (inside : w < g.size) :
        ∃ (i : Nat) (component : List Nat), g.components[i]? = some component ∧ w ∈ component := by
      have held := (components_perm closed).mem_iff.mpr (List.mem_range.mpr inside)
      obtain ⟨component, listed, member⟩ := List.mem_flatten.mp held
      obtain ⟨i, found⟩ := List.mem_iff_getElem?.mp listed
      exact ⟨i, component, found, member⟩
    obtain ⟨i, component, first, member⟩ := placed inside
    obtain ⟨j, other, second, member'⟩ := placed inside'
    have same : i = j := Nat.le_antisymm (components_place_le closed second first member' member back)
      (components_place_le closed first second member member' forth)
    subst same
    cases first.symm.trans second
    exact ⟨component, List.mem_of_getElem? first, member, member'⟩
  · intro i j component other first second a source b target edge apart
    have reaches : g.Reaches a b := .single (List.contains_iff_mem.mp edge)
    exact Nat.lt_of_le_of_ne (components_place_le closed first second source target reaches) (Ne.symm apart)

/-- Two cycles, the first of which leads to the second, and a vertex with an edge to itself below them. -/
theorem components_correct_cycles :
    let g : Digraph := ⟨[[1], [0, 2], [3], [2, 4], [4]]⟩
    g.inRange ∧ (∃ component ∈ g.components, 0 ∈ component ∧ 1 ∈ component) ∧
      ¬ ∃ component ∈ g.components, 1 ∈ component ∧ 2 ∈ component := by
  intro g
  obtain ⟨_, connected, _, _⟩ := components_correct g (by decide)
  refine ⟨by decide, (connected 0 1 (by decide) (by decide)).mpr ⟨.single (by decide), .single (by decide)⟩, ?_⟩
  intro together
  have back := ((connected 1 2 (by decide) (by decide)).mp together).2
  have below : ∀ v, v ∈ [2, 3, 4] → ∀ u ∈ g.succ v, u ∈ [2, 3, 4] := by decide
  exact absurd (back.stays below (by decide)) (by decide)

end RefinementTypes.Digraph
