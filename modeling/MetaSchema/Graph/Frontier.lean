/-!
# The frontier of a search

The vertices that a search has reached and not yet left, each with its distance, as a binary heap
in an array: the children of entry `i` are entries `2 * i + 1` and `2 * i + 2`. Entries leave by
distance; the heap's own order decides between equal ones.

* `Frontier.push`: an entry moves up only past strictly greater ones.
* `Frontier.pop?`: the last entry takes the place of the first, sinks to the bottom along the
  smaller children, the right one of equals, and moves up again.
-/

namespace MetaSchema

/-- Entries with their distances. -/
abbrev Frontier (α : Type) := Array (Nat × α)

namespace Frontier

variable {α : Type}

/-- Moves entry `i` up past strictly greater ones. -/
def siftUp (h : Frontier α) (i : Nat) : Frontier α :=
  if hi : i = 0 then h
  else
    let parent := (i - 1) / 2
    if bound : i < h.size then
      have : parent < h.size := by omega
      if h[i].1 < h[parent].1 then siftUp (h.swap i parent) parent else h
    else h
termination_by i
decreasing_by omega

/-- Moves entry `i` to the bottom along the smaller children, and gives where it comes to rest. -/
def sink (h : Frontier α) (i : Nat) : Frontier α × Nat :=
  let left := 2 * i + 1
  if both : left + 1 < h.size then
    let child := if h[left + 1].1 ≤ h[left].1 then left + 1 else left
    have : child < h.size := by grind
    sink (h.swap i child) child
  else if one : left < h.size then (h.swap i left, left)
  else (h, i)
termination_by h.size - i
decreasing_by grind

/-- Adds an entry. -/
def push (h : Frontier α) (entry : Nat × α) : Frontier α := siftUp (Array.push h entry) h.size

/-- Takes the first entry out. -/
def pop? (h : Frontier α) : Option ((Nat × α) × Frontier α) :=
  if nonempty : 0 < h.size then
    let rest := (h.swap 0 (h.size - 1)).pop
    some (h[0], let s := sink rest 0; siftUp s.1 s.2)
  else none

end Frontier

end MetaSchema
