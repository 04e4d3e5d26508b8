import RefinementTypes.Types.Store
import RefinementTypes.Proofs.Trees

/-! The trees of final types. A number in the store stands for a tree, which is found by unfolding
entries; entries are added and never changed, so a number keeps its tree however the store grows. -/

namespace RefinementTypes

namespace Store

def unfoldN (store : Store) : Nat → TypeId → Ty
  | 0, _ => .missing
  | depth + 1, id =>
    match store.entries[id]? with
    | some (.atom a) => .atom a
    | some (.arrow domain codomain) => .arrow (store.unfoldN depth domain) (store.unfoldN depth codomain)
    | none => .missing

def unfold (store : Store) (id : TypeId) : Ty := store.unfoldN (id + 1) id

inductive Denotes (store : Store) : TypeId → Ty → Prop
  | atom {id : TypeId} {a : Atom} (issued : store.entries[id]? = some (.atom a)) : Denotes store id (.atom a)
  | arrow {id domain codomain : TypeId} {first second : Ty}
      (issued : store.entries[id]? = some (.arrow domain codomain)) (left : Denotes store domain first)
      (right : Denotes store codomain second) : Denotes store id (.arrow first second)

/-- The parts of an entry were issued before it. -/
def Ordered (store : Store) : Prop :=
  ∀ id entry, store.entries[id]? = some entry → ∀ part ∈ parts entry, part < id

private theorem ordered_empty : Store.empty.Ordered := by
  intro id entry issued
  simp [empty] at issued

variable {store more : Store} {id : TypeId} {tree : Ty}

theorem Denotes.mono (denotes : store.Denotes id tree) (grown : store.entries <+: more.entries) :
    more.Denotes id tree := by
  obtain ⟨rest, same⟩ := grown
  have kept {id : TypeId} {entry : Entry} (issued : store.entries[id]? = some entry) :
      more.entries[id]? = some entry := by
    obtain ⟨inside, _⟩ := List.getElem?_eq_some_iff.mp issued
    rw [← same, List.getElem?_append_left inside]
    exact issued
  induction denotes with
  | atom issued => exact .atom (kept issued)
  | arrow issued _ _ left right => exact .arrow (kept issued) left right

theorem Denotes.unfold (denotes : store.Denotes id tree) (ordered : store.Ordered) :
    store.unfold id = tree := by
  -- Parts have smaller numbers, so every depth above a number is enough for it.
  have enough : ∀ depth, id < depth → store.unfoldN depth id = tree := by
    induction denotes with
    | atom issued =>
      intro depth inside
      obtain ⟨depth, rfl⟩ := Nat.exists_eq_add_of_lt inside
      simp [unfoldN, issued]
    | @arrow id domain codomain first second issued _ _ left right =>
      intro depth inside
      have parts := ordered id _ issued
      cases depth with
      | zero => cases inside
      | succ depth =>
        have least := Nat.le_of_lt_succ inside
        have before := Nat.lt_of_lt_of_le (parts domain (by simp [Store.parts])) least
        have before' := Nat.lt_of_lt_of_le (parts codomain (by simp [Store.parts])) least
        simp [unfoldN, issued, left depth before, right depth before']
  exact enough (id + 1) (Nat.lt_succ_self id)

/-- A property holds of a store however it grows. -/
def Lasts (store : Store) (property : Store → Prop) : Prop :=
  ∀ more : Store, store.entries <+: more.entries → more.Ordered → property more

theorem Denotes.lasts (denotes : store.Denotes id tree) : store.Lasts fun store => store.unfold id = tree :=
  fun _ grown ordered => (denotes.mono grown).unfold ordered

/-- Types were issued after their parts, and the map gives every type its number and no other. -/
structure Valid (store : Store) : Prop where
  ordered : store.Ordered
  inverse : ∀ entry id, store.lookup entry = some id ↔ store.entries[id]? = some entry

theorem valid_empty : Store.empty.Valid := ⟨ordered_empty, fun _ _ => by simp [empty, lookup]⟩

theorem valid_blank : Store.blank.Valid :=
  ⟨fun _ _ issued => by simp [blank] at issued, fun _ _ => by simp [blank, lookup]⟩

theorem Valid.distinct (valid : store.Valid) : store.entries.Nodup := by
  refine List.pairwise_iff_getElem.mpr fun first second inside inside' before same => ?_
  have early := (valid.inverse _ _).mpr (List.getElem?_eq_getElem inside)
  have late := (valid.inverse _ _).mpr (List.getElem?_eq_getElem inside')
  rw [same] at early
  exact absurd (Option.some.inj (early.symm.trans late)) (Nat.ne_of_lt before)

/-- What a request for a type can come to. -/
inductive Interns (store : Store) (entry : Entry) : Except Refusal TypeId × Store → Prop
  | known {id : TypeId} (found : store.lookup entry = some id) : Interns store entry (.ok id, store)
  | refused {part : TypeId} (new : store.lookup entry = none) (inside : part ∈ parts entry)
      (late : store.size ≤ part) : Interns store entry (.error (.unissued part), store)
  | issued (new : store.lookup entry = none) (early : ∀ part ∈ parts entry, part < store.size) :
      Interns store entry (.ok store.size, (store.withMap.append entry).note entry store.size)

theorem intern_interns (store : Store) (entry : Entry) : Interns store entry (store.intern entry) := by
  unfold intern
  split
  next found => exact .known found
  next new =>
    split
    next part late =>
      exact .refused new (List.mem_of_find?_eq_some late) (by simpa using List.find?_some late)
    next none =>
      refine .issued new fun part inside => ?_
      exact Nat.lt_of_not_le fun late => List.find?_eq_none.mp none part inside (decide_eq_true late)

private theorem lookup_note (store : Store) (entry other : Entry) (id : TypeId) :
    ((store.withMap.append entry).note entry id).lookup other =
      if other = entry then some id else store.lookup other := by
  unfold note append withMap lookup
  cases store.ids <;> simp [lookup_cons_ite]

private theorem Valid.issue (valid : store.Valid) {entry : Entry} (new : store.lookup entry = none)
    (early : ∀ part ∈ parts entry, part < store.size) :
    ((store.withMap.append entry).note entry store.size).Valid := by
  have place (id : TypeId) (other : Entry) : (store.entries ++ [entry])[id]? = some other ↔
      store.entries[id]? = some other ∨ id = store.size ∧ other = entry := by
    rcases Nat.lt_trichotomy id store.entries.length with old | rfl | beyond
    · simp [List.getElem?_append_left old, size, Nat.ne_of_lt old]
    · simp [size, eq_comm]
    · have late : store.entries.length ≤ id := Nat.le_of_lt beyond
      have none : store.entries[id]? = none := List.getElem?_eq_none late
      simp [none, List.getElem?_append_right late, size, Nat.ne_of_gt beyond, Nat.sub_ne_zero_of_lt beyond]
  refine ⟨fun id other found part member => ?_, fun other id => ?_⟩
  · rcases (place id other).mp found with old | ⟨rfl, rfl⟩
    · exact valid.ordered id other old part member
    · exact early part member
  · rw [lookup_note]
    refine Iff.trans ?_ (place id other).symm
    split
    next same =>
      have absent : store.entries[id]? ≠ some entry := fun old => by
        rw [(valid.inverse entry id).mpr old] at new
        cases new
      simp [same, absent, eq_comm]
    next different => simp [valid.inverse other id, different]

theorem intern_valid (valid : store.Valid) (entry : Entry) : (store.intern entry).2.Valid := by
  have interns := store.intern_interns entry
  generalize store.intern entry = outcome at interns ⊢
  cases interns with
  | known => exact valid
  | refused => exact valid
  | issued new early => exact valid.issue new early

theorem intern_grown (store : Store) (entry : Entry) : store.entries <+: (store.intern entry).2.entries := by
  have interns := store.intern_interns entry
  generalize store.intern entry = outcome at interns ⊢
  cases interns with
  | known => exact List.prefix_rfl
  | refused => exact List.prefix_rfl
  | issued => exact List.prefix_append _ _

theorem intern_ok {entry : Entry} (valid : store.Valid) (granted : store.intern entry = (.ok id, more)) :
    more.Valid ∧ store.entries <+: more.entries ∧ more.entries[id]? = some entry := by
  have kept := intern_valid valid entry
  have grown := store.intern_grown entry
  have interns := store.intern_interns entry
  rw [granted] at kept grown interns
  refine ⟨kept, grown, ?_⟩
  cases interns with
  | known found => exact (valid.inverse entry id).mp found
  | issued => exact List.getElem?_concat_length

end Store

end RefinementTypes
