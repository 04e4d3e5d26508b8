import RefinementTypes.Proofs.Exactness

/-! The store under arbitrary requests. Every request is answered or refused; whatever was asked before, the map of
numbers and the list of types are each other's inverse, parts come before what they are parts of, and a number stands
for one tree that no other number stands for. -/

namespace RefinementTypes

namespace Store

inductive Request
  | intern (entry : Option Entry)
  | bool
  | arrow (domain codomain : TypeId)

def Request.wanted : Request → Option Entry
  | intern entry => entry
  | bool => some (.atom .bool)
  | arrow domain codomain => some (.arrow domain codomain)

def answer (store : Store) : Request → Except Refusal TypeId × Store
  | .intern entry => store.internOption entry
  | .bool => store.bool
  | .arrow domain codomain => store.arrow domain codomain

def afterAll (store : Store) (requests : List Request) : Store :=
  requests.foldl (fun store request => (store.answer request).2) store

variable {store more : Store} {id id' : TypeId}

private theorem answer_eq (store : Store) (request : Request) :
    store.answer request = store.internOption request.wanted := by
  cases request <;> rfl

theorem resolve_eq_ok {entry : Entry} : store.resolve id = .ok entry ↔ store.entries[id]? = some entry := by
  unfold resolve
  split <;> simp [*]

private theorem resolve_mono {entry : Entry} (grown : store.entries <+: more.entries)
    (known : store.resolve id = .ok entry) : more.resolve id = .ok entry := by
  rw [resolve_eq_ok] at known ⊢
  obtain ⟨inside, _⟩ := List.getElem?_eq_some_iff.mp known
  obtain ⟨rest, same⟩ := grown
  rw [← same, List.getElem?_append_left inside]
  exact known

private theorem answer_valid (valid : store.Valid) (request : Request) : (store.answer request).2.Valid := by
  rw [answer_eq]
  cases request.wanted with
  | none => exact valid
  | some entry => exact intern_valid valid entry

private theorem answer_grown (store : Store) (request : Request) :
    store.entries <+: (store.answer request).2.entries := by
  rw [answer_eq]
  cases request.wanted with
  | none => exact List.prefix_rfl
  | some entry => exact intern_grown store entry

theorem afterAll_valid (valid : store.Valid) (requests : List Request) : (store.afterAll requests).Valid := by
  induction requests generalizing store with
  | nil => exact valid
  | cons request requests ih => exact ih (answer_valid valid request)

private theorem afterAll_grown (store : Store) (requests : List Request) :
    store.entries <+: (store.afterAll requests).entries := by
  induction requests generalizing store with
  | nil => exact List.prefix_rfl
  | cons request requests ih => exact (answer_grown store request).trans (ih _)

namespace Valid

private theorem lookup_iff (valid : store.Valid) (entry : Entry) (id : TypeId) :
    store.lookup entry = some id ↔ store.resolve id = .ok entry :=
  (valid.inverse entry id).trans resolve_eq_ok.symm

private theorem part_lt (valid : store.Valid) {entry : Entry} (known : store.resolve id = .ok entry) :
    ∀ part ∈ parts entry, part < id :=
  valid.ordered id entry (resolve_eq_ok.mp known)

theorem denotes (valid : store.Valid) (issued : id < store.size) : store.Denotes id (store.unfold id) := by
  -- Parts have smaller numbers, so the induction is on the number.
  induction id using Nat.strongRecOn with
  | ind id ih =>
    obtain ⟨entry, known⟩ : ∃ entry, store.entries[id]? = some entry := ⟨_, List.getElem?_eq_getElem issued⟩
    have before := valid.ordered id entry known
    cases entry with
    | atom a =>
      have whole : store.Denotes id (.atom a) := .atom known
      rw [whole.unfold valid.ordered]
      exact whole
    | arrow domain codomain =>
      have first : domain < id := before domain (by simp [parts])
      have second : codomain < id := before codomain (by simp [parts])
      have whole := Denotes.arrow known (ih domain first (Nat.lt_trans first issued))
        (ih codomain second (Nat.lt_trans second issued))
      rw [whole.unfold valid.ordered]
      exact whole

theorem unfold_inj (valid : store.Valid) (issued : id < store.size) (issued' : id' < store.size) :
    store.unfold id = store.unfold id' ↔ id = id' := by
  constructor
  · intro same
    have denotes := valid.denotes issued
    rw [same] at denotes
    exact denotes.unique valid.distinct (valid.denotes issued')
  · intro same
    rw [same]

/-- A request is refused where it lacks its type or names a part that was not issued, and nowhere else: an arrow
with such a part has no number yet. -/
theorem refused_iff (valid : store.Valid) (request : Request) :
    (∃ refusal, (store.answer request).1 = .error refusal) ↔
      ∀ entry, request.wanted = some entry → ∃ part ∈ parts entry, store.size ≤ part := by
  rw [answer_eq]
  cases request.wanted with
  | none => simp [internOption]
  | some entry =>
    have interns := store.intern_interns entry
    simp only [internOption, Option.some.injEq, forall_eq']
    generalize store.intern entry = outcome at interns ⊢
    constructor
    · intro ⟨refusal, failed⟩
      cases interns with
      | known => cases failed
      | refused _ inside late => exact ⟨_, inside, late⟩
      | issued => cases failed
    · intro ⟨part, inside, late⟩
      cases interns with
      | known found =>
        have issued := (valid.lookup_iff entry _).mp found
        obtain ⟨inside', _⟩ := List.getElem?_eq_some_iff.mp (resolve_eq_ok.mp issued)
        have early := Nat.lt_trans (valid.part_lt issued part inside) inside'
        exact absurd late (Nat.not_le.mpr early)
      | refused => exact ⟨_, rfl⟩
      | issued _ early => exact absurd late (Nat.not_le.mpr (early part inside))

end Valid

private theorem answer_refused {request : Request} {refusal : Refusal}
    (refused : store.answer request = (.error refusal, more)) :
    more = store := by
  rw [answer_eq] at refused
  cases wanted : request.wanted with
  | none =>
    rw [wanted] at refused
    cases refused
    rfl
  | some entry =>
    rw [wanted] at refused
    have interns : Interns store entry (.error refusal, more) := refused ▸ store.intern_interns entry
    cases interns
    rfl

private theorem answer_granted (valid : store.Valid) {request : Request}
    (granted : store.answer request = (.ok id, more)) :
    ∃ entry, request.wanted = some entry ∧ more.resolve id = .ok entry := by
  rw [answer_eq] at granted
  cases wanted : request.wanted with
  | none =>
    rw [wanted] at granted
    cases granted
  | some entry =>
    rw [wanted] at granted
    exact ⟨entry, rfl, resolve_eq_ok.mpr (intern_ok valid granted).2.2⟩

/-- A number is a part of what another number stands for. -/
def PartOf (store : Store) (part id : TypeId) : Prop := ∃ entry, store.resolve id = .ok entry ∧ part ∈ parts entry

/-- A store in which each number is as good as the tree that it stands for. -/
structure Canonical (store : Store) : Prop where
  /-- The map that gives the number of a type and the list that gives the type of a number are inverse. -/
  inverse : ∀ entry id, store.lookup entry = some id ↔ store.resolve id = .ok entry
  issued : ∀ id, (∃ entry, store.resolve id = .ok entry) ↔ id < store.size
  below : ∀ id domain codomain, store.resolve id = .ok (.arrow domain codomain) → domain < id ∧ codomain < id
  /-- Unfolding comes to an end, and at a whole tree. -/
  finite : WellFounded store.PartOf
  unfolds : ∀ id < store.size, store.Denotes id (store.unfold id)
  injective : ∀ first < store.size, ∀ second < store.size, store.unfold first = store.unfold second ↔ first = second

private theorem Valid.canonical (valid : store.Valid) : store.Canonical where
  inverse := valid.lookup_iff
  issued id := by simp [resolve_eq_ok, size, ← Option.isSome_iff_exists]
  below id domain codomain known := by
    have before := valid.part_lt known
    exact ⟨before domain (by simp [parts]), before codomain (by simp [parts])⟩
  finite := by
    apply Subrelation.wf (r := (· < ·)) _ Nat.lt_wfRel.wf
    intro part id within
    obtain ⟨entry, known, member⟩ := within
    exact valid.part_lt known part member
  unfolds id inside := valid.denotes inside
  injective first inside second inside' := valid.unfold_inj inside inside'

/-- Whatever is asked of a store that was made or left blank, in whatever order, types are shared: the store is
canonical, a request is granted unless its type or one of its parts is missing, a refused one leaves no trace, and a
number keeps its type. -/
theorem requests_share_types {start : Store} (begun : start = .empty ∨ start = .blank) (requests : List Request) :
    let store := start.afterAll requests
    store.Canonical ∧
    (∀ request, match store.answer request with
      | (.ok id, after) => ∃ entry, request.wanted = some entry ∧ after.resolve id = .ok entry
      | (.error _, after) =>
        after = store ∧ ∀ entry, request.wanted = some entry → ∃ part ∈ parts entry, store.size ≤ part) ∧
    ∀ more id entry, store.resolve id = .ok entry → (store.afterAll more).resolve id = .ok entry := by
  intro store
  have begins : start.Valid := by
    rcases begun with rfl | rfl
    · exact valid_empty
    · exact valid_blank
  have valid : store.Valid := afterAll_valid begins requests
  refine ⟨valid.canonical, ?_, fun more id entry known => resolve_mono (afterAll_grown store more) known⟩
  intro request
  cases answered : store.answer request with
  | mk result after =>
    cases result with
    | ok id => exact answer_granted valid answered
    | error refusal =>
      have refused : ∃ refusal, (store.answer request).1 = .error refusal := ⟨refusal, by rw [answered]⟩
      exact ⟨answer_refused answered, (valid.refused_iff request).mp refused⟩

/-- A blank store refuses an arrow before its parts are there, and has no map until it issues a type. -/
theorem requests_share_types_blank :
    let refused : List Request := [.arrow 0 0, .intern none]
    let granted : List Request := [.bool, .arrow 0 0, .arrow 0 0, .arrow 0 1]
    let store := Store.blank.afterAll (refused ++ granted)
    (Store.blank.afterAll refused).ids = none ∧ store.Canonical ∧ store.size = 3 ∧
      store.lookup (.arrow 0 1) = some 2 ∧ store.resolve 2 = .ok (.arrow 0 1) := by
  intro refused granted store
  have canonical : store.Canonical := (requests_share_types (.inr rfl) (refused ++ granted)).1
  exact ⟨rfl, canonical, rfl, rfl, (canonical.inverse _ _).mp rfl⟩

end Store

end RefinementTypes
