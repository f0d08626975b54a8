import Mathlib.Logic.Relation
import ParseBoxes.Tree.Forest

/-!
# Links in a forest

What lies below a node and what lies above it.  A walk finds exactly the nodes below
(`mem_descendants`).  In a forest whose links agree in both directions (`Linked`) the way up from a
node meets exactly the nodes that it lies below (`mem_ancestors`); every forest that is grown node
by node is linked (`Linked.push`).
-/

namespace ParseBoxes.Forest

variable {ν : Type} {f : Forest ν}

def HasChild (f : Forest ν) (i c : Fin f.size) : Prop := c ∈ (f.kids i).map (·.1)

def Below (f : Forest ν) : Fin f.size → Fin f.size → Prop := Relation.TransGen f.HasChild

theorem HasChild.lt {i c : Fin f.size} (h : f.HasChild i c) : i < c := by
  obtain ⟨k, -, rfl⟩ := List.mem_map.1 h
  exact k.2

theorem Below.lt {i j : Fin f.size} (h : f.Below i j) : i < j := by
  induction h with
  | single h => exact h.lt
  | tail _ h ih => exact Nat.lt_trans ih h.lt

theorem hasChild_of_mem_kids {i : Fin f.size} {c : { c : Fin f.size // i < c }} (h : c ∈ f.kids i) :
    f.HasChild i c.1 :=
  List.mem_map_of_mem h

/-- What holds of a node whenever it holds of its children holds of all nodes. -/
theorem kids_induction {P : Fin f.size → Prop} (h : ∀ i, (∀ c, f.HasChild i c → P c) → P i)
    (i : Fin f.size) : P i := by
  have key : ∀ n (i : Fin f.size), f.size - i.1 = n → P i := by
    intro n
    induction n using Nat.strongRecOn with
    | _ n ih =>
      intro i hi
      refine h i fun c hc => ih (f.size - c.1) ?_ c rfl
      have hlt : i.1 < c.1 := hc.lt
      omega
  exact key _ i rfl

/-! ## Down -/

/-- What lies below a node is a child or lies below a child. -/
theorem below_iff_child {i j : Fin f.size} :
    f.Below i j ↔ ∃ c, f.HasChild i c ∧ (j = c ∨ f.Below c j) := by
  rw [Below, Relation.TransGen.head'_iff]
  exact exists_congr fun c => and_congr_right fun _ => Relation.reflTransGen_iff_eq_or_transGen

/-- A walk meets the nodes it is given and all below them. -/
theorem mem_walk (l : List (Fin f.size)) (j : Fin f.size) :
    j ∈ f.walk l ↔ ∃ i ∈ l, j = i ∨ f.Below i j := by
  fun_induction walk f l with
  | case1 => simp
  | case2 i rest ih =>
    have hi : (j = i ∨ f.Below i j) ↔
        j = i ∨ ∃ c, c ∈ (f.kids i).map (·.1) ∧ (j = c ∨ f.Below c j) :=
      or_congr_right below_iff_child
    rw [List.mem_cons, ih]
    simp only [List.mem_append, List.mem_cons, or_and_right, exists_or, exists_eq_left]
    rw [hi, or_assoc]

theorem mem_descendants {i j : Fin f.size} : j ∈ f.descendants i ↔ f.Below i j := by
  rw [descendants, mem_walk, below_iff_child]
  rfl

/-! ## Up -/

/-- Links agree: a node hangs under another just if it is one of its children. -/
structure Linked (f : Forest ν) : Prop where
  under_iff : ∀ p i : Fin f.size, (f.entry i).place = .under p ↔ i.1 ∈ (f.entry p).children

/-- What a node lies below is its parent or lies above its parent. -/
theorem below_iff_parent {i j : Fin f.size} :
    f.Below i j ↔ ∃ p, f.HasChild p j ∧ (p = i ∨ f.Below i p) := by
  rw [Below, Relation.TransGen.tail'_iff]
  refine exists_congr fun p => ?_
  rw [and_comm, Relation.reflTransGen_iff_eq_or_transGen]

theorem hasChild_iff {i c : Fin f.size} : f.HasChild i c ↔ c.1 ∈ (f.entry i).children := by
  unfold HasChild kids
  simp only [List.mem_map, List.mem_pmap]
  constructor
  · rintro ⟨k, ⟨n, hn, rfl⟩, rfl⟩
    exact Array.mem_toList_iff.1 hn
  · intro h
    exact ⟨⟨c, (f.child_lt i.1 i.2 c h).1⟩, ⟨c.1, Array.mem_toList_iff.2 h, rfl⟩, rfl⟩

theorem parent?_eq_some_iff {p i : Fin f.size} :
    (f.parent? i).map (·.1) = some p ↔ (f.entry i).place = .under p := by
  unfold parent?
  split
  · next q h => simp [h, Fin.ext_iff]
  · next h => simp [h]
  · next h => simp [h]

namespace Linked

variable (hf : f.Linked)

include hf in
theorem parent?_iff {p i : Fin f.size} : (f.parent? i).map (·.1) = some p ↔ f.HasChild p i := by
  rw [parent?_eq_some_iff, hasChild_iff, hf.under_iff]

include hf in
/-- The ancestors of a node are all that it lies below. -/
theorem mem_ancestors {p i : Fin f.size} : p ∈ f.ancestors i ↔ f.Below p i := by
  fun_induction ancestors f i with
  | case1 i h =>
    rw [below_iff_parent]
    constructor
    · intro hp
      cases hp
    · rintro ⟨q, hq, -⟩
      have := hf.parent?_iff.2 hq
      rw [h] at this
      cases this
  | case2 i q hlt h ih =>
    have hparent : ∀ q', f.HasChild q' i ↔ q = q' := by
      intro q'
      rw [← hf.parent?_iff, h]
      exact Option.some_inj
    rw [List.mem_cons, ih, below_iff_parent (j := i)]
    simp only [hparent, exists_eq_left']
    rw [eq_comm]

end Linked

/-! ## Growth -/

/-- Where a node is put that is added below a node or at the top. -/
def Place.ofParent : Option Nat → Place
  | none => .top
  | some p => .under p

theorem entry_eq (i : Fin f.size) (h : i.1 < f.entries.size) : f.entry i = f.entries[i.1] := rfl

/-- A push changes one node that is there: the parent gets one child more. -/
theorem entry_push_of_lt (parent : Option (Fin f.size)) (value : ν) (i : Fin f.size)
    (h : i.1 < (f.push parent value).size) :
    (f.push parent value).entry ⟨i, h⟩ =
      { f.entry i with
        children := if parent = some i then (f.entry i).children.push f.size
          else (f.entry i).children } := by
  have hi : i.1 < f.entries.size := i.2
  rw [entry_eq _ h, entry_eq i hi]
  cases parent with
  | none => simp [push, Array.getElem_push, hi]
  | some p =>
    by_cases hp : p = i
    · subst hp
      simp [push, Array.getElem_push, hi, Array.getElem_modify]
    · have hne : p.1 ≠ i.1 := fun e => hp (Fin.ext e)
      simp [push, Array.getElem_push, hi, Array.getElem_modify, hp, hne]

/-- The new node holds what was given, hangs where it was told, and has no children. -/
theorem entry_push_last (parent : Option (Fin f.size)) (value : ν)
    (h : f.size < (f.push parent value).size) :
    (f.push parent value).entry ⟨f.size, h⟩ = ⟨value, .ofParent (parent.map (·.1)), #[]⟩ := by
  rw [entry_eq _ h]
  cases parent with
  | none => simp [push, size, Place.ofParent, Array.getElem_push]
  | some p =>
    simp only [push, size, Array.getElem_push, Array.size_modify, Nat.lt_irrefl, ↓reduceDIte]
    rfl

theorem get_push_of_lt (parent : Option (Fin f.size)) (value : ν) (i : Fin f.size)
    (h : i.1 < (f.push parent value).size) : (f.push parent value).get ⟨i, h⟩ = f.get i := by
  unfold get
  rw [entry_push_of_lt]

theorem get_push_last (parent : Option (Fin f.size)) (value : ν)
    (h : f.size < (f.push parent value).size) : (f.push parent value).get ⟨f.size, h⟩ = value := by
  unfold get
  rw [entry_push_last]

theorem Linked.empty : (empty : Forest ν).Linked :=
  ⟨fun p => absurd p.2 (Nat.not_lt_zero p.1)⟩

theorem Linked.push (hf : f.Linked) (parent : Option (Fin f.size)) (value : ν) :
    (f.push parent value).Linked := by
  refine ⟨fun ⟨p, hp⟩ ⟨i, hi⟩ => ?_⟩
  have hp' : p < f.size + 1 := by simpa using hp
  have hi' : i < f.size + 1 := by simpa using hi
  rcases Nat.lt_succ_iff_lt_or_eq.1 hi' with hil | rfl <;>
    rcases Nat.lt_succ_iff_lt_or_eq.1 hp' with hpl | rfl
  · -- both nodes were there: only the new node may have become a child
    rw [entry_push_of_lt parent value ⟨i, hil⟩ hi, entry_push_of_lt parent value ⟨p, hpl⟩ hp]
    have hold := hf.under_iff ⟨p, hpl⟩ ⟨i, hil⟩
    have hne : i ≠ f.size := Nat.ne_of_lt hil
    by_cases hp : parent = some ⟨p, hpl⟩
    · simpa [hp, hne] using hold
    · simpa [hp] using hold
  · -- nothing that was there hangs under the new node
    rw [entry_push_of_lt parent value ⟨i, hil⟩ hi, entry_push_last]
    simp only [Array.not_mem_empty, iff_false]
    intro h
    exact absurd (f.parent_lt i hil f.size h) (by omega)
  · rw [entry_push_last, entry_push_of_lt parent value ⟨p, hpl⟩ hp]
    have hnew : f.size ∉ (f.entry ⟨p, hpl⟩).children := fun h =>
      absurd (f.child_lt p hpl f.size h).2 (by simp [size])
    cases parent with
    | none => simpa [Place.ofParent] using hnew
    | some q =>
      by_cases hq : q = ⟨p, hpl⟩
      · simp [Place.ofParent, hq]
      · have hne : q.1 ≠ p := fun e => hq (Fin.ext e)
        simp [Place.ofParent, hq, hne, hnew]
  · rw [entry_push_last]
    cases parent with
    | none => simp [Place.ofParent]
    | some q => simp [Place.ofParent, Nat.ne_of_lt q.2]

end ParseBoxes.Forest
