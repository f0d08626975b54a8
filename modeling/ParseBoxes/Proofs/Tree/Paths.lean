import Mathlib.Order.Interval.Finset.Fin
import ParseBoxes.Proofs.Layout.Dependents
import ParseBoxes.Proofs.Tree.Row

/-!
# Every node in one place

In a forest that is grown node by node every node stands in one place (`Forest.Rooted`): either in
the top row or in the row of the parent that it records (`Rooted.count_places`).  So the way up ends
in the top row, no walk is longer than there are nodes ahead of it, and for every node there is
exactly one path of child indices that leads to it (`Rooted.exists_unique_path`).
-/

namespace ParseBoxes.Forest

variable {ν : Type} {f : Forest ν}

/-- Links agree, rows are in order, and at the top are just the nodes without a parent. -/
structure Rooted (f : Forest ν) : Prop where
  linked : f.Linked
  ordered : f.Ordered
  mem_tops : ∀ i, i ∈ f.tops ↔ f.parent? i = none
  tops_lt : f.tops.Pairwise (· < ·)

theorem parent?_eq_none_iff {i : Fin f.size} :
    f.parent? i = none ↔ ∀ p, (f.entry i).place ≠ .under p := by
  unfold parent?
  split
  · next p h => exact iff_of_false (Option.some_ne_none _) fun hnot => hnot p h
  · next h =>
    refine iff_of_true rfl fun p hp => ?_
    cases h.symm.trans hp
  · next h =>
    refine iff_of_true rfl fun p hp => ?_
    cases h.symm.trans hp

/-! ## Rows are rooted -/

section

variable {row : List (ν × Option Nat)}

theorem exists_entry_ofRow (i : Fin (ofRow row).size) : ∃ e, row[i.1]? = some e ∧
    (ofRow row).entry i = ⟨e.1, placeAt i e.2, (standing row (.under i)).toArray⟩ := by
  have hlt : i.1 < row.length := by simpa using i.2
  have hget : row[i.1]? = some row[i.1] := List.getElem?_eq_getElem hlt
  exact ⟨_, hget, entry_ofRow hget⟩

theorem linked_ofRow : (ofRow row).Linked := by
  refine ⟨fun p i => ?_⟩
  obtain ⟨e, he, hentry⟩ := exists_entry_ofRow i
  obtain ⟨e', -, hentry'⟩ := exists_entry_ofRow p
  rw [hentry, hentry', List.mem_toArray, mem_standing]
  constructor
  · intro hplace
    exact ⟨e, he, hplace⟩
  · rintro ⟨d, hd, hplace⟩
    cases he.symm.trans hd
    exact hplace

theorem ordered_ofRow : (ofRow row).Ordered := by
  intro i
  obtain ⟨e, -, hentry⟩ := exists_entry_ofRow i
  rw [hentry]
  exact pairwise_standing _

theorem rooted_ofRow : (ofRow row).Rooted where
  linked := linked_ofRow
  ordered := ordered_ofRow
  mem_tops i := by
    obtain ⟨e, he, hentry⟩ := exists_entry_ofRow i
    rw [parent?_eq_none_iff, mem_tops_ofRow, hentry]
    simp only [ne_eq, placeAt_eq_under_iff, not_and, Nat.not_lt]
    constructor
    · rintro ⟨d, hd, htop⟩
      cases he.symm.trans hd
      exact htop
    · intro htop
      exact ⟨e, he, htop⟩
  tops_lt := pairwise_tops_ofRow

end

/-! ## Paths -/

theorem follow_concat (i : Fin f.size) (rest : List Nat) (k : Nat) :
    atPath.follow f i (rest ++ [k]) =
      (atPath.follow f i rest).bind fun p => ((f.kids p).map (·.1))[k]? := by
  induction rest generalizing i with
  | nil =>
    show ((f.kids i).map (·.1))[k]?.bind some = ((f.kids i).map (·.1))[k]?
    rw [Option.bind_fun_some]
  | cons n rest ih =>
    rw [List.cons_append, atPath.follow, atPath.follow]
    cases ((f.kids i).map (·.1))[n]? with
    | none => rfl
    | some c => exact ih c

theorem atPath_concat {path : List Nat} (hne : path ≠ []) (k : Nat) :
    f.atPath (path ++ [k]) = (f.atPath path).bind fun p => ((f.kids p).map (·.1))[k]? := by
  cases path with
  | nil => exact absurd rfl hne
  | cons first rest =>
    rw [List.cons_append, atPath, atPath]
    cases f.tops[first]? with
    | none => rfl
    | some r => exact follow_concat r rest k

/-- A path leads to the top row, or from a node to one of its children. -/
theorem atPath_eq_some_iff {path : List Nat} {i : Fin f.size} :
    f.atPath path = some i ↔ (∃ k, path = [k] ∧ f.tops[k]? = some i) ∨
      ∃ up k p, path = up ++ [k] ∧ f.atPath up = some p ∧ ((f.kids p).map (·.1))[k]? = some i := by
  have hempty : ∀ {up : List Nat} {p : Fin f.size}, f.atPath up = some p → up ≠ [] := by
    rintro up p hup rfl
    cases hup
  constructor
  · intro h
    rcases path.eq_nil_or_concat' with rfl | ⟨up, k, rfl⟩
    · cases h
    · by_cases hup : up = []
      · subst hup
        rw [List.nil_append, atPath] at h
        obtain ⟨r, hr, hfollow⟩ := Option.bind_eq_some_iff.1 h
        cases hfollow
        exact .inl ⟨k, rfl, hr⟩
      · rw [atPath_concat hup] at h
        obtain ⟨p, hp, hk⟩ := Option.bind_eq_some_iff.1 h
        exact .inr ⟨up, k, p, rfl, hp, hk⟩
  · rintro (⟨k, rfl, hk⟩ | ⟨up, k, p, rfl, hp, hk⟩)
    · rw [atPath, hk]
      rfl
    · rw [atPath_concat (hempty hp), hp]
      exact hk

/-! ## Walks come to an end -/

/-- The way up is no longer than there are nodes before the first. -/
theorem length_ancestors_le (i : Fin f.size) : (f.ancestors i).length ≤ i.1 := by
  fun_induction ancestors f i with
  | case1 => exact Nat.zero_le _
  | case2 i p hlt h ih =>
    have hlt : p.1 < i.1 := hlt
    rw [List.length_cons]
    omega

namespace Rooted

variable (hf : f.Rooted)

include hf

theorem hasChild_or_mem_tops (i : Fin f.size) :
    i ∈ f.tops ∧ (∀ p, ¬f.HasChild p i) ∨ i ∉ f.tops ∧ ∃ p, f.HasChild p i := by
  simp only [hf.mem_tops, ← hf.linked.parent?_iff]
  cases h : f.parent? i with
  | none => exact .inl ⟨rfl, fun p hp => by cases hp⟩
  | some p => exact .inr ⟨Option.some_ne_none p, p.1, rfl⟩

/-- Every node occurs once among the top row and all rows of children. -/
theorem count_places (i : Fin f.size) :
    (f.tops ++ f.nodes.flatMap fun p => (f.kids p).map (·.1)).count i = 1 := by
  have hnodup : (f.tops ++ f.nodes.flatMap fun p => (f.kids p).map (·.1)).Nodup := by
    rw [List.nodup_append]
    refine ⟨hf.tops_lt.imp Fin.ne_of_lt, List.nodup_flatMap.2 ⟨?_, ?_⟩, ?_⟩
    · intro p _
      exact (hf.ordered.kids_lt p).imp Fin.ne_of_lt
    · refine (List.nodup_finRange f.size).imp fun {p q} hne c hp hq => ?_
      exact hne (hf.linked.parent_unique hp hq)
    · rintro c htop d hd rfl
      obtain ⟨p, -, hp⟩ := List.mem_flatMap.1 hd
      rcases hf.hasChild_or_mem_tops c with ⟨-, hnone⟩ | ⟨hnot, -⟩
      · exact hnone p hp
      · exact hnot htop
  refine List.count_eq_one_of_mem hnodup (List.mem_append.2 ?_)
  rcases hf.hasChild_or_mem_tops i with ⟨htop, -⟩ | ⟨-, p, hp⟩
  · exact .inl htop
  · exact .inr (List.mem_flatMap.2 ⟨p, List.mem_finRange p, hp⟩)

/-- The way up ends in the top row. -/
theorem getLast_ancestors (i : Fin f.size) :
    ∃ r ∈ f.tops, (i :: f.ancestors i).getLast? = some r := by
  fun_induction ancestors f i with
  | case1 i h => exact ⟨i, (hf.mem_tops i).2 h, rfl⟩
  | case2 i p hlt h ih =>
    obtain ⟨r, hr, hlast⟩ := ih
    exact ⟨r, hr, by rwa [List.getLast?_cons_cons]⟩

/-- A walk meets no more nodes than stand behind the first. -/
theorem length_descendants_lt (i : Fin f.size) : (f.descendants i).length < f.size - i.1 := by
  have hnodup := hf.ordered.nodup_descendants hf.linked i
  have hsub : (f.descendants i).toFinset ⊆ Finset.Ioi i := by
    intro j hj
    exact Finset.mem_Ioi.2 (mem_descendants.1 (List.mem_toFinset.1 hj)).lt
  have hcard := Finset.card_le_card hsub
  rw [List.toFinset_card_of_nodup hnodup, Fin.card_Ioi] at hcard
  omega

/-- One path leads to every node: the path to its parent, one step longer. -/
theorem exists_unique_path (i : Fin f.size) : ∃! path, f.atPath path = some i := by
  induction hi : i.1 using Nat.strongRecOn generalizing i with
  | ind n ih =>
    rcases hf.hasChild_or_mem_tops i with ⟨htop, hnone⟩ | ⟨hnot, p, hp⟩
    · obtain ⟨k, hk⟩ := List.getElem?_of_mem htop
      refine ⟨[k], atPath_eq_some_iff.2 (.inl ⟨k, rfl, hk⟩), fun path hpath => ?_⟩
      rcases atPath_eq_some_iff.1 hpath with ⟨k', rfl, hk'⟩ | ⟨up, k', q, -, -, hk'⟩
      · rw [eq_of_getElem? (hf.tops_lt.imp Fin.ne_of_lt) hk' hk]
      · exact absurd (List.mem_of_getElem? hk') (hnone q)
    · obtain ⟨up, hup, hunique⟩ := ih p.1 (hi ▸ hp.lt) p rfl
      obtain ⟨k, hk⟩ := List.getElem?_of_mem hp
      refine ⟨up ++ [k], atPath_eq_some_iff.2 (.inr ⟨up, k, p, rfl, hup, hk⟩), fun path hpath => ?_⟩
      rcases atPath_eq_some_iff.1 hpath with ⟨k', -, hk'⟩ | ⟨up', k', q, rfl, hup', hk'⟩
      · exact absurd (List.mem_of_getElem? hk') hnot
      · cases hf.linked.parent_unique hp (List.mem_of_getElem? hk')
        rw [hunique up' hup', eq_of_getElem? ((hf.ordered.kids_lt p).imp Fin.ne_of_lt) hk' hk]

end Rooted

end ParseBoxes.Forest
