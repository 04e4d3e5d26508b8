import RefinementTypes.Fault
import RefinementTypes.Types.Atom

/-! The store of final types. Equal types share one number, the parts of an arrow are numbers issued
before its own, and a number once issued keeps its type. The types are kept in the order of their
numbers, and a map beside them gives each type its number. -/

namespace RefinementTypes

abbrev TypeId := Nat

/-- A final type: it holds no variables, and refers to its parts by number. -/
inductive Entry
  | atom (atom : Atom)
  | arrow (domain codomain : TypeId)
deriving DecidableEq

namespace Entry

def formName : Entry → String
  | atom a => a.formName
  | arrow _ _ => "Arrow"

end Entry

/-- The final types issued so far, in the order of their numbers, and the number of each. There is no
map before the first type is issued, unless the store was made with one. -/
structure Store where
  ids : Option (List (Entry × TypeId))
  entries : List Entry

namespace Store

inductive Refusal
  | missingType
  | unissued (id : TypeId)
deriving DecidableEq

def Refusal.fault : Refusal → Fault
  | missingType => .missingType
  | unissued id => .unissuedType id

def empty : Store := ⟨some [], []⟩

def blank : Store := ⟨none, []⟩

def size (store : Store) : Nat := store.entries.length

def lookup (store : Store) (entry : Entry) : Option TypeId :=
  store.ids.bind fun ids => ids.lookup entry

def resolve (store : Store) (id : TypeId) : Except Refusal Entry :=
  match store.entries[id]? with
  | some entry => .ok entry
  | none => .error (.unissued id)

def parts : Entry → List TypeId
  | .atom _ => []
  | .arrow domain codomain => [domain, codomain]

def unissuedPart (store : Store) (entry : Entry) : Option TypeId :=
  (parts entry).find? fun id => store.size ≤ id

def withMap (store : Store) : Store := { store with ids := some (store.ids.getD []) }

def append (store : Store) (entry : Entry) : Store := { store with entries := store.entries ++ [entry] }

/-- Puts a number into the map, if there is one, in front of any other number of the type. -/
def note (store : Store) (entry : Entry) (id : TypeId) : Store :=
  { store with ids := store.ids.map ((entry, id) :: ·) }

/-- The number of a type, issuing the next one to a type that has none. A refused request leaves the
store as it was. -/
def intern (store : Store) (entry : Entry) : Except Refusal TypeId × Store :=
  match store.lookup entry with
  | some id => (.ok id, store)
  | none =>
    match store.unissuedPart entry with
    | some id => (.error (.unissued id), store)
    | none => (.ok store.size, (store.withMap.append entry).note entry store.size)

def internOption (store : Store) : Option Entry → Except Refusal TypeId × Store
  | some entry => store.intern entry
  | none => (.error .missingType, store)

def bool (store : Store) : Except Refusal TypeId × Store := store.intern (.atom .bool)

def arrow (store : Store) (domain codomain : TypeId) : Except Refusal TypeId × Store :=
  store.intern (.arrow domain codomain)

def toList (store : Store) : List (TypeId × Entry) :=
  store.entries.zipIdx.map fun (entry, id) => (id, entry)

/-- The written form of a number, or the first number in it that was not issued. The parts of an
arrow have smaller numbers than the arrow, so `depth` need not exceed the number by more than one. -/
def renderN (store : Store) (nested : Bool) : Nat → TypeId → Except Refusal String
  | 0, id => .error (.unissued id)
  | depth + 1, id => do
    match ← store.resolve id with
    | .atom a => return a.render
    | .arrow domain codomain =>
      let first ← store.renderN true depth domain
      let second ← store.renderN false depth codomain
      let body := first ++ " -> " ++ second
      return if nested then "(" ++ body ++ ")" else body

def render (store : Store) (id : TypeId) : Except Refusal String :=
  store.renderN false (id + 1) id

end Store

end RefinementTypes
