/-!
# Forests in arrays

A forest keeps its nodes in an array, in the order in which they were added, and links parents and
children by index in both directions.  A node is added at the top or below a node that is already
there, so children stand behind their parent; every recursion over a forest rests on that.  A node
can also be loose: told to hang on itself, it hangs nowhere.
-/

namespace ParseBoxes

/-- Where a node hangs. -/
inductive Forest.Place where
  | top
  | under (parent : Nat)
  | loose
deriving DecidableEq

/-- A node of a forest with its links. -/
structure Forest.Entry (ν : Type) where
  value : ν
  place : Place
  children : Array Nat

/-- A forest.  Links lead to nodes of the forest, those to children forwards and those to parents
backwards. -/
structure Forest (ν : Type) where
  entries : Array (Forest.Entry ν)
  roots : Array Nat
  child_lt : ∀ (i : Nat) (h : i < entries.size), ∀ c ∈ entries[i].children, i < c ∧ c < entries.size
  parent_lt : ∀ (i : Nat) (h : i < entries.size), ∀ p, entries[i].place = .under p → p < i
  root_lt : ∀ r ∈ roots, r < entries.size

namespace Forest

variable {ν : Type}

def size (f : Forest ν) : Nat := f.entries.size

def empty : Forest ν where
  entries := #[]
  roots := #[]
  child_lt i h := absurd h (Nat.not_lt_zero i)
  parent_lt i h := absurd h (Nat.not_lt_zero i)
  root_lt r h := by simp at h

/-- Adds a node below a node that is there, or at the top, behind what is there already. -/
def push (f : Forest ν) (parent : Option (Fin f.size)) (value : ν) : Forest ν :=
  match parent with
  | none =>
    { entries := f.entries.push ⟨value, .top, #[]⟩
      roots := f.roots.push f.size
      child_lt := by
        intro i h c hc
        simp only [Array.getElem_push] at hc
        simp only [Array.size_push]
        split at hc
        · next hi => have := f.child_lt i hi c hc; omega
        · simp at hc
      parent_lt := by
        intro i h p hp
        simp only [Array.getElem_push] at hp
        split at hp
        · next hi => exact f.parent_lt i hi p hp
        · simp at hp
      root_lt := by
        intro r hr
        simp only [Array.mem_push, Array.size_push, size] at hr ⊢
        rcases hr with hr | hr
        · have := f.root_lt r hr; omega
        · omega }
  | some p =>
    { entries := (f.entries.modify p fun e => { e with children := e.children.push f.size }).push
        ⟨value, .under p.1, #[]⟩
      roots := f.roots
      child_lt := by
        intro i h c hc
        have hp : p.1 < f.entries.size := p.2
        simp only [Array.size_push, Array.size_modify] at h ⊢
        simp only [Array.getElem_push, Array.size_modify] at hc
        split at hc
        · next hi =>
          rw [Array.getElem_modify] at hc
          split at hc
          · next he =>
            subst he
            simp only [Array.mem_push] at hc
            rcases hc with hc | hc
            · have := f.child_lt p.1 hi c hc; omega
            · subst hc; simp only [size]; omega
          · have := f.child_lt i hi c hc; omega
        · simp at hc
      parent_lt := by
        intro i h q hq
        have hp : p.1 < f.entries.size := p.2
        simp only [Array.size_push, Array.size_modify] at h
        simp only [Array.getElem_push, Array.size_modify] at hq
        split at hq
        · next hi =>
          rw [Array.getElem_modify] at hq
          split at hq
          · exact f.parent_lt i hi q hq
          · exact f.parent_lt i hi q hq
        · cases hq; omega
      root_lt := by
        intro r hr
        have := f.root_lt r hr
        simp only [Array.size_push, Array.size_modify]
        omega }

@[simp]
theorem size_push (f : Forest ν) (parent : Option (Fin f.size)) (value : ν) :
    (f.push parent value).size = f.size + 1 := by
  cases parent <;> simp [push, size]

def pushLoose (f : Forest ν) (value : ν) : Forest ν where
  entries := f.entries.push ⟨value, .loose, #[]⟩
  roots := f.roots
  child_lt := by
    intro i h c hc
    simp only [Array.getElem_push] at hc
    simp only [Array.size_push]
    split at hc
    · next hi => have := f.child_lt i hi c hc; omega
    · simp at hc
  parent_lt := by
    intro i h p hp
    simp only [Array.getElem_push] at hp
    split at hp
    · next hi => exact f.parent_lt i hi p hp
    · simp at hp
  root_lt := by
    intro r hr
    have := f.root_lt r hr
    simp only [Array.size_push]
    omega

/-- Adds a node below the node with the given index, or at the top.  A node that is given its own
index is loose; an index beyond it is refused, and is the error. -/
def attach (f : Forest ν) (parent : Option Nat) (value : ν) : Except Nat (Forest ν) :=
  match parent with
  | none => .ok (f.push none value)
  | some p =>
    if h : p < f.size then .ok (f.push (some ⟨p, h⟩) value)
    else if p = f.size then .ok (f.pushLoose value)
    else .error p

theorem attach_of_lt (f : Forest ν) (p : Fin f.size) (value : ν) :
    f.attach (some p) value = .ok (f.push (some p) value) := by
  simp [attach]

/-- A node with its links. -/
def entry (f : Forest ν) (i : Fin f.size) : Entry ν :=
  have h : i.1 < f.entries.size := i.2
  f.entries[i.1]

def get (f : Forest ν) (i : Fin f.size) : ν := (f.entry i).value

def kids (f : Forest ν) (i : Fin f.size) : List { c : Fin f.size // i < c } :=
  (f.entry i).children.toList.pmap
    (fun c (h : i.1 < c ∧ c < f.entries.size) => ⟨⟨c, h.2⟩, h.1⟩)
    fun c hc => f.child_lt i.1 i.2 c (Array.mem_toList_iff.1 hc)

/-- The parent of a node, if it hangs under one. -/
def parent? (f : Forest ν) (i : Fin f.size) : Option { p : Fin f.size // p < i } :=
  match h : (f.entry i).place with
  | .under p =>
    have hp : p < i.1 := f.parent_lt i.1 i.2 p h
    some ⟨⟨p, Nat.lt_trans hp i.2⟩, hp⟩
  | .top | .loose => none

/-- Does a node hang nowhere? -/
def isLoose (f : Forest ν) (i : Fin f.size) : Bool := (f.entry i).place = .loose

/-- The node that a node was told to hang on: a loose one names itself. -/
def holder? (f : Forest ν) (i : Fin f.size) : Option (Fin f.size) :=
  if f.isLoose i then some i else (f.parent? i).map (·.1)

/-- The nodes that were told to hang on a node, in order: a loose one is the first of its own. -/
def held (f : Forest ν) (i : Fin f.size) : List (Fin f.size) :=
  (if f.isLoose i then [i] else []) ++ (f.kids i).map (·.1)

def tops (f : Forest ν) : List (Fin f.size) :=
  f.roots.toList.pmap (fun r (h : r < f.entries.size) => ⟨r, h⟩)
    fun r hr => f.root_lt r (Array.mem_toList_iff.1 hr)

/-- The parent, its parent, and so on to the top. -/
def ancestors (f : Forest ν) (i : Fin f.size) : List (Fin f.size) :=
  match f.parent? i with
  | none => []
  | some ⟨p, _⟩ => p :: f.ancestors p
termination_by i.1

/-- The number of nodes that a walk through a node and all below it meets. -/
def weight (f : Forest ν) (i : Fin f.size) : Nat :=
  (f.kids i).foldr (fun ⟨c, _⟩ n => f.weight c + n) 1
termination_by f.size - i

/-- The weight of all nodes of a list and what comes behind them. -/
theorem foldr_weight (f : Forest ν) (l : List (Fin f.size)) (n : Nat) :
    l.foldr (f.weight · + ·) n = l.foldr (f.weight · + ·) 0 + n := by
  induction l with
  | nil => simp
  | cons i l ih => rw [List.foldr_cons, List.foldr_cons, ih, Nat.add_assoc]

/-- Walks through the nodes of a list and all nodes below them: a node first, then its children from
first to last, each with all below it. -/
def walk (f : Forest ν) : List (Fin f.size) → List (Fin f.size)
  | [] => []
  | i :: rest => i :: f.walk ((f.kids i).map (·.1) ++ rest)
termination_by rest => rest.foldr (f.weight · + ·) 0
decreasing_by
  have hi : f.weight i = ((f.kids i).map (·.1)).foldr (f.weight · + ·) 0 + 1 := by
    rw [weight, ← foldr_weight, List.foldr_map]
  rw [List.foldr_append, foldr_weight, List.foldr_cons, hi]
  omega

/-- All nodes below a node, each before those below it. -/
def descendants (f : Forest ν) (i : Fin f.size) : List (Fin f.size) :=
  f.walk ((f.kids i).map (·.1))

/-- The node that a path of child indices leads to: `[0, 2]` is the third child of the first node at
the top.  The empty path leads nowhere. -/
def atPath (f : Forest ν) : List Nat → Option (Fin f.size)
  | [] => none
  | first :: rest => f.tops[first]?.bind (follow f · rest)
where follow (f : Forest ν) (i : Fin f.size) : List Nat → Option (Fin f.size)
  | [] => some i
  | k :: rest => ((f.kids i).map (·.1))[k]?.bind (follow f · rest)

/-- What nodes hold, joined over a node and all below it. -/
def gather (f : Forest ν) (pick : ν → String) (i : Fin f.size) : String :=
  (f.kids i).foldl (fun s ⟨c, _⟩ => s ++ f.gather pick c) (pick (f.get i))
termination_by f.size - i

/-- All nodes in the order in which they were added. -/
def nodes (f : Forest ν) : List (Fin f.size) := List.finRange f.size

end Forest

end ParseBoxes
