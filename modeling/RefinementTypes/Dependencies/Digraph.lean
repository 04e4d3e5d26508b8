/-! Directed graphs over the vertices `0, 1, …`, given by the successors of each vertex, and their
strongly connected components. An edge from `a` to `b` says that `a` depends on `b`. -/

namespace RefinementTypes

/-- The successors of each vertex, in the order in which the edges were added. -/
structure Digraph where
  successors : List (List Nat)

namespace Digraph

def edgeless (count : Nat) : Digraph := ⟨List.replicate count []⟩

def size (g : Digraph) : Nat := g.successors.length

def succ (g : Digraph) (v : Nat) : List Nat := g.successors.getD v []

def hasEdge (g : Digraph) (source target : Nat) : Bool := (g.succ source).contains target

/-- Adds an edge from a vertex of the graph, unless it is there. -/
def addEdge (g : Digraph) (source target : Nat) : Digraph :=
  if g.hasEdge source target then g else ⟨g.successors.modify source (· ++ [target])⟩

def inRange (g : Digraph) : Bool :=
  g.successors.all fun targets => targets.all fun target => target < g.size

/-- The progress of a search: the vertices entered, in their order; those of them that no component
holds yet, the latest first; and the components found, in their order. -/
structure Search where
  entered : List Nat
  stack : List Nat
  found : List (List Nat)

namespace Search

def empty : Search := ⟨[], [], []⟩

def index (search : Search) (v : Nat) : Nat := search.entered.idxOf v

def enter (search : Search) (v : Nat) : Search :=
  { search with entered := search.entered ++ [v], stack := v :: search.stack }

/-- Takes the vertices down to `v` off the stack, as one more component. -/
def close (search : Search) (v : Nat) : Search :=
  let count := search.stack.idxOf v + 1
  { search with
    stack := search.stack.drop count
    found := search.found ++ [search.stack.take count] }

end Search

/-- Follows an edge from a vertex whose low link is at hand: a target on the stack lowers it to its
index, and a target that has not been entered is visited and lowers it to its own low link. -/
def follow (visit : Search → Nat → Search × Nat) (state : Search × Nat) (target : Nat) : Search × Nat :=
  if state.1.entered.contains target then
    if state.1.stack.contains target then (state.1, min state.2 (state.1.index target)) else state
  else
    let (search, low) := visit state.1 target
    (search, min state.2 low)

/-- Enters a vertex and everything that is reached from it for the first time, and gives its low link.
Nothing below the vertex on the stack is reached if that is the index of the vertex, and then all from
the vertex on is one component. No path enters more vertices than there are, so `depth` need not exceed
their number. -/
def visit (g : Digraph) : Nat → Search → Nat → Search × Nat
  | 0, search, _ => (search, search.entered.length)
  | depth + 1, search, v =>
    let index := search.entered.length
    let (inner, low) := (g.succ v).foldl (follow (visit g depth)) (search.enter v, index)
    if low = index then (inner.close v, low) else (inner, low)

def searchFrom (g : Digraph) (search : Search) (v : Nat) : Search :=
  if search.entered.contains v then search else (g.visit g.size search v).1

def searched (g : Digraph) : Search := (List.range g.size).foldl g.searchFrom .empty

/-- The strongly connected components. A component comes after those it depends on, its vertices are in
increasing order, and components that do not depend on each other follow the least vertices from which
they are reached. -/
def components (g : Digraph) : List (List Nat) :=
  g.searched.found.map fun component => component.mergeSort (· ≤ ·)

end Digraph

end RefinementTypes
