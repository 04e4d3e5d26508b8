/-! Finite maps from names, kept as lists in the order of the names. A map has one list for given
contents, so putting back what was replaced gives the same map again. -/

namespace RefinementTypes

structure NameMap (α : Type) where
  entries : List (String × α)

namespace NameMap

variable {α : Type}

def empty : NameMap α := ⟨[]⟩

def size (map : NameMap α) : Nat := map.entries.length

def find? (map : NameMap α) (name : String) : Option α := map.entries.lookup name

/-- Puts an entry in its place, instead of one with the same name. -/
def insertEntry (name : String) (value : α) : List (String × α) → List (String × α)
  | [] => [(name, value)]
  | entry :: rest =>
    if name < entry.1 then (name, value) :: entry :: rest
    else if name = entry.1 then (name, value) :: rest
    else entry :: insertEntry name value rest

def insert (map : NameMap α) (name : String) (value : α) : NameMap α :=
  ⟨insertEntry name value map.entries⟩

def erase (map : NameMap α) (name : String) : NameMap α :=
  ⟨map.entries.filter fun entry => entry.1 ≠ name⟩

end NameMap

end RefinementTypes
