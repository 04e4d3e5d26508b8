import Mathlib.Logic.Relation
import RefinementTypes.Proofs.Resolution

/-! Exact resolution. A valid store gives equal types one number and different types different ones. A
type is resolved to the number of what it comes to under the bindings, and to none if a variable is left
in that; what is remembered on the way changes nothing about it, even where resolving fails half-way. -/

namespace RefinementTypes

open Relation (ReflTransGen)

/-- In a store that issues every type once, a tree has one number. -/
theorem Store.Denotes.unique {store : Store} {id id' : TypeId} {tree : Ty} (distinct : store.entries.Nodup)
    (denotes : store.Denotes id tree) (denotes' : store.Denotes id' tree) : id = id' := by
  have once {id id' : TypeId} {entry : Entry} (issued : store.entries[id]? = some entry)
      (issued' : store.entries[id']? = some entry) : id = id' :=
    (List.getElem?_inj (List.getElem?_eq_some_iff.mp issued).1 distinct).mp (issued.trans issued'.symm)
  induction denotes generalizing id' with
  | atom issued =>
    cases denotes' with
    | atom issued' => exact once issued issued'
  | arrow issued _ _ left right =>
    cases denotes' with
    | arrow issued' left' right' =>
      cases left left'
      cases right right'
      exact once issued issued'

namespace Checking.Session

variable {config : Config} {before : State}

/-- Types are resolved one after another, whether this succeeds or not; in between, the bindings, the
store and what is remembered of types stay as they are. -/
def Resuming (config : Config) : State → State → Prop :=
  ReflTransGen fun before after => ∃ type, after.subst = (typeId type config before).2.subst ∧
    after.store = (typeId type config before).2.store ∧ after.memo = (typeId type config before).2.memo

private theorem Resuming.adds {after : State} (resuming : Resuming config before after) (acyclic : before.subst.Acyclic)
    (exact : before.Exact) : after.subst = before.subst ∧ before.Adds after := by
  induction resuming with
  | refl => exact ⟨rfl, List.prefix_rfl, exact⟩
  | @tail middle after _ step ih =>
    obtain ⟨kept, adds⟩ := ih
    obtain ⟨type, subst, store, memo⟩ := step
    have lowers : LowersTo True (middle.subst.apply type) (typeId type) config middle :=
      typeId_lowers (kept ▸ acyclic) (fun _ => adds.exact) type
    have exact' := lowers.exact trivial
    refine ⟨subst.trans (lowers.kept.trans kept), ?_, .of_denotes ?_ ?_⟩
    · rw [store]; exact adds.grown.trans (run_grows _ _ _).entries
    · rw [store]; exact exact'.valid
    · rw [subst, store, memo]; exact fun _ => exact'.denotes

/-- Where no part of a type is missing, it is resolved if and only if no variable is left in what it comes
to, and then to the number of just that, whatever was resolved and remembered before. Resolving fails only
for a variable that is left. Either way numbers keep their types, and what is remembered stays exact. Two
types that are resolved in one session have the same number if and only if they come to the same. -/
theorem typeId_exact (config : Config) (before : State) (type : Ty) (acyclic : before.subst.Acyclic)
    (exact : before.Exact) (whole : (before.subst.apply type).Whole) :
    let outcome := typeId type config before
    (outcome.1.isOk = true ↔ (before.subst.apply type).vars = []) ∧
    (∀ id, outcome.1 = .ok id → outcome.2.store.unfold id = before.subst.apply type) ∧
    (∀ failure, outcome.1 = .error failure →
      ∃ error, failure = .refused error ∧ error.kind = .unresolvedTypeVariable) ∧
    outcome.2.Exact ∧ before.store.entries <+: outcome.2.store.entries ∧ outcome.2.subst = before.subst ∧
    ∀ later, Resuming config outcome.2 later → ∀ other id id', outcome.1 = .ok id →
      (typeId other config later).1 = .ok id' →
      (id = id' ↔ before.subst.apply type = before.subst.apply other) := by
  intro outcome
  have lowers : LowersTo True (before.subst.apply type) (typeId type) config before :=
    typeId_lowers acyclic (fun _ => exact) type
  have exact' := lowers.exact trivial
  have kept := lowers.kept
  have resolved (id : TypeId) (ok : outcome.1 = .ok id) : outcome.2.store.Denotes id (before.subst.apply type) :=
    lowers.ok trivial id ok
  have refused (failure : Failure) (failed : outcome.1 = .error failure) :=
    (lowers.failed trivial failure failed).refused whole
  refine ⟨?_, fun id ok => (resolved id ok).unfold exact'.valid.ordered, fun failure failed =>
    (refused failure failed).2, exact', (run_grows _ _ _).entries, kept, ?_⟩
  · cases result : outcome.1 with
    | ok id => exact ⟨fun _ => (Ty.ground_iff.mp (resolved id result).ground).2, fun _ => rfl⟩
    | error failure => exact ⟨fun ok => (by cases ok), fun none => absurd none (refused failure result).1⟩
  · intro later resuming other id id' ok ok'
    obtain ⟨kept', adds'⟩ := resuming.adds (kept ▸ acyclic) exact'
    have same : later.subst = before.subst := kept'.trans kept
    have lowers' : LowersTo True (later.subst.apply other) (typeId other) config later :=
      typeId_lowers (same ▸ acyclic) (fun _ => adds'.exact) other
    -- Both numbers stand for their trees in the last store.
    have last := lowers'.exact trivial
    have denotes := (resolved id ok).mono (adds'.grown.trans (run_grows (typeId other) config later).entries)
    have denotes' := lowers'.ok trivial id' ok'
    rw [← same] at denotes ⊢
    constructor
    · rintro rfl
      exact (denotes.unfold last.valid.ordered).symm.trans (denotes'.unfold last.valid.ordered)
    · intro alike
      rw [← alike] at denotes'
      exact denotes.unique last.valid.distinct denotes'

/-- The references have different tags, and one of them was resolved before. -/
theorem typeId_exact_tagged :
    let bound : Ty := .arrow (.atom .bool) (.atom .regex)
    let before : State :=
      { State.fresh .empty with
        nextVar := 1
        subst := Subst.empty.insert 0 bound
        store := (((Store.empty.intern (.atom .regex)).2.intern (.atom .bool)).2.intern (.arrow 1 0)).2
        memo := [(.var ⟨0, .immutable⟩, 2)] }
    let config : Config := ⟨id, .regular, true, false, 8⟩
    let type : Ty := .arrow (.var ⟨0, .mutable⟩) (.var ⟨0, .immutable⟩)
    let outcome := typeId type config before
    before.subst.Acyclic ∧ before.Exact ∧ (before.subst.apply type).Whole ∧ outcome.1.isOk = true ∧
      ∀ id, outcome.1 = .ok id → outcome.2.store.unfold id = .arrow bound bound ∧
        ∀ id', (typeId (.arrow (.var ⟨0, .immutable⟩) bound) config outcome.2).1 = .ok id' → id = id' := by
  intro bound before config type outcome
  have acyclic : before.subst.Acyclic := Subst.acyclic_empty.insert (by decide)
  have valid : before.store.Valid :=
    Store.intern_valid (Store.intern_valid (Store.intern_valid Store.valid_empty _) _) _
  have denotes : before.store.Denotes 2 bound := .arrow rfl (.atom rfl) (.atom rfl)
  have exact : before.Exact := .of_denotes valid fun _ member => by cases List.mem_singleton.mp member; exact denotes
  have whole : (before.subst.apply type).Whole := ⟨⟨trivial, trivial⟩, trivial, trivial⟩
  obtain ⟨succeeds, unfolds, _, _, _, _, numbers⟩ := typeId_exact config before type acyclic exact whole
  refine ⟨acyclic, exact, whole, succeeds.mpr rfl, fun id ok => ⟨unfolds id ok, fun id' ok' => ?_⟩⟩
  exact (numbers _ .refl _ id id' ok ok').mpr rfl

end Checking.Session

end RefinementTypes
