import MetaSchema.Graph.Frontier
import MetaSchema.Name.Identifier

/-!
# The import graph

Which schemas import which. An edge from `a` to `b` says that `a` imports `b`. The graph grows by
one vertex or edge at a time and never has a cycle: an edge that would close one is refused.

* `ImportGraph`: the vertices in the order in which they were added, the edges newest first.
* `ImportGraph.addVertex`: adds a vertex unless it is there.
* `ImportGraph.path?`: a shortest path.
* `ImportGraph.addEdge?`: adds an edge and its ends, or gives the path that the edge would close.
* `ImportGraph.dependencyOrder`: the vertices with every schema after those that it imports.
* `ImportGraph.same`: equality of the vertex sets and the edge sets.
-/

namespace MetaSchema

structure ImportGraph where
  vertices : List SchemaIdentifier
  edges : List (SchemaIdentifier × SchemaIdentifier)
deriving DecidableEq

namespace ImportGraph

/-- The graph without vertices. -/
def empty : ImportGraph := ⟨[], []⟩

variable (g : ImportGraph)

def contains (v : SchemaIdentifier) : Bool := v ∈ g.vertices

def containsEdge (a b : SchemaIdentifier) : Bool := (a, b) ∈ g.edges

/-- The schemas that `v` imports, by edges newest first. -/
def successors (v : SchemaIdentifier) : List SchemaIdentifier :=
  (g.edges.filter (·.1 = v)).map Prod.snd

/-- The schemas that `v` imports, in their own order. -/
def importsOf (v : SchemaIdentifier) : List SchemaIdentifier :=
  (g.successors v).mergeSort fun a b => (compare a b).isLE

/-- Adds a vertex unless it is there. -/
def addVertex (v : SchemaIdentifier) : ImportGraph :=
  if v ∈ g.vertices then g else { g with vertices := g.vertices ++ [v] }

/-! ## Shortest paths -/

/-- A search in progress: the frontier, the vertices that were reached, and for each of them but
the first the vertex that it was reached from. -/
structure Search where
  frontier : Frontier SchemaIdentifier
  reached : List SchemaIdentifier
  origins : List (SchemaIdentifier × SchemaIdentifier)

/-- Reaches `next` from `v` unless it was reached before. -/
def Search.reach (distance : Nat) (v : SchemaIdentifier) (s : Search) (next : SchemaIdentifier) :
    Search :=
  if next ∈ s.reached then s
  else {
    frontier := s.frontier.push (distance + 1, next)
    reached := next :: s.reached
    origins := (next, v) :: s.origins }

/-- The path that led to `v`, before the path `after` that leads on. It has at most as many steps as
there are entries in `origins`. -/
def Search.trace (origins : List (SchemaIdentifier × SchemaIdentifier)) :
    Nat → SchemaIdentifier → List SchemaIdentifier → List SchemaIdentifier
  | 0, v, after => v :: after
  | fuel + 1, v, after =>
    match origins.lookup v with
    | none => v :: after
    | some u => trace origins fuel u (v :: after)

/-- Leaves vertices by distance until `goal` is left. Every vertex enters the frontier once, so
there are no more rounds than vertices. -/
def Search.run (goal : SchemaIdentifier) : Nat → Search → Option (List SchemaIdentifier)
  | 0, _ => none
  | fuel + 1, s =>
    match s.frontier.pop? with
    | none => none
    | some ((distance, v), frontier) =>
      if v = goal then some (Search.trace s.origins s.origins.length v [])
      else
        run goal fuel ((g.successors v).foldl (Search.reach distance v) { s with frontier })

/-- A shortest path between two vertices, both included. -/
def path? (a b : SchemaIdentifier) : Option (List SchemaIdentifier) :=
  if a ∈ g.vertices ∧ b ∈ g.vertices then
    Search.run g b g.vertices.length ⟨#[(0, a)], [a], []⟩
  else none

/-! ## Edges -/

/-- Adds an edge and its ends. An edge that would close a cycle is refused: the result is then the
path from its target back to its start, and the graph is to be kept as it was. -/
def addEdge? (a b : SchemaIdentifier) : Except (List SchemaIdentifier) ImportGraph :=
  let wider := (g.addVertex a).addVertex b
  match wider.path? b a with
  | some path => .error path
  | none =>
    if (a, b) ∈ wider.edges then .ok wider
    else .ok { wider with edges := (a, b) :: wider.edges }

/-! ## Dependency order -/

/-- A depth-first search in progress: the vertices to be looked at, the next one first, those that
were found, and those that are finished, the last one first. -/
structure Sweep where
  stack : List SchemaIdentifier
  found : List SchemaIdentifier
  finished : List SchemaIdentifier

/-- Looks at `v`, which stands on top of `rest`. When it is seen for the first time, all that it
imports and that was not found is put on top of it, by edges newest first. When it is seen again,
that has been dealt with: `v` leaves the stack and is finished. -/
def Sweep.look (s : Sweep) (v : SchemaIdentifier) (rest : List SchemaIdentifier) : Sweep :=
  if v ∈ s.found then
    { s with stack := rest, finished := if v ∈ s.finished then s.finished else v :: s.finished }
  else
    let found := v :: s.found
    { s with stack := ((g.successors v).filter (· ∉ found)).reverse ++ v :: rest, found }

/-- Looks at vertices until none is left on the stack. There is no result if a vertex imports itself. -/
def Sweep.run : Nat → Sweep → Option Sweep
  | 0, _ => none
  | fuel + 1, s =>
    match s.stack with
    | [] => some s
    | v :: rest =>
      if v ∈ g.successors v then none else run fuel (Sweep.look g s v rest)

/-- Finishes `v` and all that imports lead to from it. A vertex is found once, and puts no more
vertices on the stack than there are edges. -/
def Sweep.start (s : Sweep) (v : SchemaIdentifier) : Option Sweep :=
  if v ∈ s.found then some s
  else Sweep.run g (g.vertices.length * (g.edges.length + 1) + 2) { s with stack := [v] }

/-- Whether each vertex of a list stands behind all vertices that import it. `before` has the vertices
in front of the list. -/
def importersFirst (before : List SchemaIdentifier) : List SchemaIdentifier → Bool
  | [] => true
  | v :: vs =>
    g.edges.all (fun e => e.2 = v → e.1 ∈ v :: before) && importersFirst (v :: before) vs

/-- The vertices, each schema before those that it imports. There is no such list if there is a
cycle. -/
def sort? : Option (List SchemaIdentifier) := do
  let s ← g.vertices.foldlM (Sweep.start g) ⟨[], [], []⟩
  if g.importersFirst [] s.finished then some s.finished else none

/-- The vertices, each schema after those that it imports; none of them if there is a cycle. -/
def dependencyOrder : List SchemaIdentifier := (g.sort?.getD []).reverse

/-! ## Comparison -/

/-- Identifiers in their order. -/
def sorted (ids : List SchemaIdentifier) : List SchemaIdentifier :=
  ids.mergeSort fun a b => (compare a b).isLE

/-- The vertices in their own order. -/
def sortedVertices : List SchemaIdentifier := sorted g.vertices

/-- The edges by their starts and then by their targets. -/
def sortedEdges : List (SchemaIdentifier × SchemaIdentifier) :=
  g.edges.mergeSort fun a b => ((compare a.1 b.1).then (compare a.2 b.2)).isLE

/-- Whether two graphs have the same vertices and the same edges. -/
def same (h : ImportGraph) : Bool :=
  g.vertices.all (· ∈ h.vertices) && h.vertices.all (· ∈ g.vertices) &&
    g.edges.all (· ∈ h.edges) && h.edges.all (· ∈ g.edges)

end ImportGraph

end MetaSchema
