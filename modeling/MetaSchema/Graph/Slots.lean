import MetaSchema.Graph.Basic

/-!
# The import graph in slots

How the import graph is stored. A vertex has a numbered slot for as long as it is in the graph, and
edges lead from slot to slot. When a vertex is removed its slot becomes vacant, and the next vertex
that is added gets the slot vacated last. What looks at the whole graph goes through the slots in
their order.

* `SlotGraph`: the slots, the vacant ones among them, the edges, and the slot of each vertex.
* `SlotGraph.contents`: the import graph that is stored.
* `SlotGraph.sortedVertices`, `SlotGraph.sortedEdges`, `SlotGraph.importsOf`, `SlotGraph.vertexCount`,
  `SlotGraph.edgeCount`: what is read of it. The vertices are those that have a slot; what edges lead to
  is looked up in the slots.
* `SlotGraph.addVertex`, `SlotGraph.removeVertex`, `SlotGraph.addEdge`: changing it. An edge is tried
  with both its ends in place; if it is refused, the ends that were not there before leave again.
* `Workspace.perform`, `Workspace.run`: what can be asked of a graph and of a copy of it, one request
  after the other.
-/

namespace MetaSchema

structure SlotGraph where
  /-- The vertex in each slot, if there is one. -/
  slots : List (Option SchemaIdentifier)
  /-- The vacant slots, the one vacated last first. -/
  vacant : List Nat
  /-- The edges by the slots of their ends, newest first. -/
  edges : List (Nat × Nat)
  /-- The slots by their vertices. -/
  index : List (SchemaIdentifier × Nat)
deriving DecidableEq

namespace SlotGraph

def empty : SlotGraph := ⟨[], [], [], []⟩

variable (g : SlotGraph)

def slotOf? (v : SchemaIdentifier) : Option Nat := g.index.lookup v

def contains (v : SchemaIdentifier) : Bool := (g.slotOf? v).isSome

def containsEdge (a b : SchemaIdentifier) : Bool :=
  match g.slotOf? a, g.slotOf? b with
  | some i, some j => (i, j) ∈ g.edges
  | _, _ => false

def vertexAt? (i : Nat) : Option SchemaIdentifier := g.slots[i]?.join

/-- The vertices by their slots, and the edges between them. -/
def contents : ImportGraph where
  vertices := g.slots.filterMap fun slot => slot
  edges := g.edges.filterMap fun e => do return (← g.vertexAt? e.1, ← g.vertexAt? e.2)

/-! ## Reading -/

/-- The vertices that have a slot, in their own order. -/
def sortedVertices : List SchemaIdentifier := ImportGraph.sorted (g.index.map Prod.fst)

/-- The edges by their starts and then by their targets, each of them once. -/
def sortedEdges : List (SchemaIdentifier × SchemaIdentifier) := g.contents.sortedEdges.eraseDups

/-- What is in the slots that edges lead to from the slot of `v`, in its own order. -/
def importsOf (v : SchemaIdentifier) : List SchemaIdentifier :=
  match g.slotOf? v with
  | none => []
  | some i => ImportGraph.sorted ((g.edges.filter (·.1 = i)).filterMap fun e => g.vertexAt? e.2)

def vertexCount : Nat := g.index.length

def edgeCount : Nat := g.edges.length

/-- Whether two graphs have the same vertices and the same edges. -/
def same (h : SlotGraph) : Bool :=
  g.sortedVertices = h.sortedVertices && g.sortedEdges = h.sortedEdges

/-! ## Vertices -/

/-- Puts a vertex into the slot vacated last, or into a new one behind the others. -/
def place (v : SchemaIdentifier) : SlotGraph :=
  match g.vacant with
  | i :: vacant =>
    { g with slots := g.slots.set i (some v), vacant, index := (v, i) :: g.index }
  | [] => { g with slots := g.slots ++ [some v], index := (v, g.slots.length) :: g.index }

/-- Adds a vertex unless it is there. -/
def addVertex (v : SchemaIdentifier) : SlotGraph := if g.contains v then g else g.place v

/-- Removes a vertex and its edges. -/
def removeVertex (v : SchemaIdentifier) : SlotGraph :=
  match g.slotOf? v with
  | none => g
  | some i => {
      slots := g.slots.set i none
      vacant := i :: g.vacant
      edges := g.edges.filter fun e => e.1 ≠ i ∧ e.2 ≠ i
      index := g.index.filter (·.1 ≠ v) }

/-! ## Edges -/

/-- Connects two vertices, unless they are. -/
def connect (a b : SchemaIdentifier) : SlotGraph :=
  match g.slotOf? a, g.slotOf? b with
  | some i, some j => if (i, j) ∈ g.edges then g else { g with edges := (i, j) :: g.edges }
  | _, _ => g

/-- A shortest path between two vertices, both included. -/
def path? (a b : SchemaIdentifier) : Option (List SchemaIdentifier) := g.contents.path? a b

/-- Adds an edge and its ends. If the edge would close a cycle, the ends that were not there are removed
again, and the path from its target back to its start is given too. -/
def addEdge (a b : SchemaIdentifier) : SlotGraph × Option (List SchemaIdentifier) :=
  let withStart := g.addVertex a
  let wider := withStart.addVertex b
  match wider.path? b a with
  | none => (wider.connect a b, none)
  | some path =>
    let lessStart := if g.contains a then wider else wider.removeVertex a
    (if withStart.contains b then lessStart else lessStart.removeVertex b, some path)

end SlotGraph

/-! ## Requests -/

/-- A graph, and the copy of it that was taken last. -/
structure Workspace where
  graph : SlotGraph
  copy : SlotGraph

namespace Workspace

def empty : Workspace := ⟨.empty, .empty⟩

/-- What can be asked of a graph. -/
inductive Request where
  | addVertex (v : SchemaIdentifier)
  | addEdge (a b : SchemaIdentifier)
  | contains (v : SchemaIdentifier)
  | containsEdge (a b : SchemaIdentifier)
  | path (a b : SchemaIdentifier)
  | imports (v : SchemaIdentifier)
  | order
  | counts
  /-- Take a copy. -/
  | snapshot
  /-- Compare with the copy. -/
  | same
deriving DecidableEq

inductive Answer where
  | truth (b : Bool)
  /-- An edge is in the graph now. -/
  | accepted
  /-- An edge would have closed a cycle with this path. -/
  | refused (path : List SchemaIdentifier)
  | path (path : Option (List SchemaIdentifier))
  | schemas (ids : List SchemaIdentifier)
  | counts (vertices edges : Nat)
  | taken
deriving DecidableEq

/-- Whether an answer refuses an edge. -/
def Answer.isRefusal : Answer → Bool
  | .refused _ => true
  | _ => false

variable (w : Workspace)

/-- One request: what is left, and the answer. -/
def perform : Request → Workspace × Answer
  | .addVertex v => ({ w with graph := w.graph.addVertex v }, .truth (!w.graph.contains v))
  | .addEdge a b =>
    let (graph, refusal) := w.graph.addEdge a b
    ({ w with graph }, refusal.elim .accepted .refused)
  | .contains v => (w, .truth (w.graph.contains v))
  | .containsEdge a b => (w, .truth (w.graph.containsEdge a b))
  | .path a b => (w, .path (w.graph.path? a b))
  | .imports v => (w, .schemas (w.graph.importsOf v))
  | .order => (w, .schemas w.graph.contents.dependencyOrder)
  | .counts => (w, .counts w.graph.vertexCount w.graph.edgeCount)
  | .snapshot => ({ w with copy := w.graph }, .taken)
  | .same => (w, .truth (w.graph.same w.copy))

/-- Requests one after the other, and the answers in their order. -/
def run (w : Workspace) : List Request → Workspace × List Answer
  | [] => (w, [])
  | r :: rs =>
    let first := w.perform r
    let rest := run first.1 rs
    (rest.1, first.2 :: rest.2)

end Workspace

end MetaSchema
