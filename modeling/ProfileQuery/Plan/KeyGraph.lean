import ProfileQuery.Entries
import ProfileQuery.Plan.KeySpace

/-!
# Key graphs

Keys, each with the keys that it is joined to, and the search for what hangs together in such a
graph. A walk keeps the keys that it has still to go to on a stack; a key that it has been to may
lie there again and is then passed over. Each walk finds one component, and the keys that earlier
walks have seen do not start another one.
-/

namespace ProfileQuery.Plan

/-- A set of keys, and the neighbors of each key that has any. -/
structure KeyGraph where
  keys : List String
  edges : Entries
deriving DecidableEq, Repr

namespace KeyGraph

/-! ## Building a graph -/

/-- The graph without keys. -/
def empty : KeyGraph := ⟨[], []⟩

/-- The set of keys that a key is joined to. -/
def neighbors (g : KeyGraph) (key : String) : List String :=
  g.edges.under key

/-- Joins two keys, there and back. -/
def join (g : KeyGraph) (key other : String) : KeyGraph :=
  { g with edges := (g.edges.change key (Names.insert other)).change other (Names.insert key) }

/-- Adds a key and joins it to the given ones. -/
def addKey (g : KeyGraph) (key : String) (others : List String) : KeyGraph :=
  others.foldl (fun g other => g.join key other) { g with keys := Names.insert key g.keys }

/-- Adds the keys of a relation, each joined to those behind it. -/
def addClique (g : KeyGraph) : List String → KeyGraph
  | [] => g
  | key :: keys => (g.addKey key keys).addClique keys

/-- The graph of lists of connected keys. -/
def ofCliques (cliques : List (List String)) : KeyGraph :=
  cliques.foldl addClique empty

/-! ## Searching a graph -/

/-- The state of a search for one component. -/
structure Walk where
  /-- The keys to go to, the next one first. -/
  stack : List String
  /-- The keys that this walk or one before it has been to. -/
  seen : List String
  /-- The set of the keys that this walk has been to. -/
  component : List String
deriving DecidableEq, Repr

/-- The walk that starts from a key, with the keys seen by those before it. -/
def Walk.start (seen : List String) (key : String) : Walk := ⟨[key], seen, []⟩

/-- Goes to the next key, which puts its neighbors on the stack, the last one on top; a key that has
been seen is passed over. There is no step when the stack is empty. -/
def step (g : KeyGraph) (w : Walk) : Option Walk :=
  match w.stack with
  | [] => none
  | key :: stack =>
    if key ∈ w.seen then some { w with stack }
    else some ⟨(g.neighbors key).reverse ++ stack, key :: w.seen, Names.insert key w.component⟩

/-- The number of neighbors of keys that have not been seen. -/
def unseenNeighbors (seen : List String) : Entries → Nat
  | [] => 0
  | (key, neighbors) :: edges =>
    (if key ∈ seen then 0 else neighbors.length) + unseenNeighbors seen edges

/-- How many more steps there can be: one for each key on the stack, and one for each neighbor that
may yet be put there. -/
def remaining (g : KeyGraph) (w : Walk) : Nat :=
  w.stack.length + unseenNeighbors w.seen g.edges

theorem unseenNeighbors_cons_le (key : String) (seen : List String) (edges : Entries) :
    unseenNeighbors (key :: seen) edges ≤ unseenNeighbors seen edges := by
  induction edges with
  | nil => exact Nat.le_refl _
  | cons entry edges ih =>
    obtain ⟨other, neighbors⟩ := entry
    by_cases hother : other ∈ seen
    · simpa [unseenNeighbors, hother] using ih
    · simp only [unseenNeighbors, hother, if_false]
      split <;> omega

/-- Going to a key takes its neighbors from those that may yet be put on the stack. -/
theorem unseenNeighbors_cons {seen : List String} {key : String} (h : key ∉ seen)
    (edges : Entries) : unseenNeighbors (key :: seen) edges + (edges.under key).length ≤
      unseenNeighbors seen edges := by
  induction edges with
  | nil => exact Nat.le_refl _
  | cons entry edges ih =>
    obtain ⟨other, neighbors⟩ := entry
    by_cases hother : key = other
    · subst hother
      have := unseenNeighbors_cons_le key seen edges
      simp only [unseenNeighbors, Entries.under_cons, h, List.mem_cons_self, if_true, if_false]
      omega
    · simp only [unseenNeighbors, Entries.under_cons, hother, List.mem_cons, Ne.symm hother,
        false_or, if_false]
      omega

theorem remaining_step {g : KeyGraph} {w w' : Walk} (h : g.step w = some w') :
    g.remaining w' < g.remaining w := by
  unfold step at h
  split at h
  · cases h
  · next key stack hstack =>
    split at h
    · obtain rfl := Option.some.inj h
      simp [remaining, hstack]
    · next hunseen =>
      obtain rfl := Option.some.inj h
      have := unseenNeighbors_cons hunseen g.edges
      simp only [remaining, hstack, neighbors, List.length_append, List.length_reverse,
        List.length_cons]
      omega

/-- Goes on until the stack is empty. -/
def run (g : KeyGraph) (w : Walk) : Walk :=
  match _h : g.step w with
  | none => w
  | some next => g.run next
termination_by g.remaining w
decreasing_by exact remaining_step _h

/-- The components that walks from the given keys find, the first of them with the given keys seen.
-/
def componentsFrom (g : KeyGraph) (seen : List String) : List String → KeySpaces
  | [] => []
  | key :: keys =>
    if key ∈ seen then g.componentsFrom seen keys
    else
      let walk := g.run (.start seen key)
      walk.component :: g.componentsFrom walk.seen keys

/-- The connected components, in the order of their smallest keys. -/
def components (g : KeyGraph) : KeySpaces :=
  g.componentsFrom [] g.keys

end KeyGraph

end ProfileQuery.Plan
