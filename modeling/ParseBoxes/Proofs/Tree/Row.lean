import Mathlib.Data.List.Nodup
import ParseBoxes.Proofs.Tree.Links

/-!
# Forests from rows

A row lists the nodes of a forest in order, each with the index of the node it hangs under.  It
decides the forest (`ofRow`): children and tops stand in the order of the row.  To add a node to the
forest is to add it at the end of the row (`push_ofRow`).
-/

namespace ParseBoxes.Forest

variable {ν : Type}

theorem eq_of_getElem? {β : Type} {l : List β} (hl : l.Nodup) {k k' : Nat} {x : β}
    (hk : l[k]? = some x) (hk' : l[k']? = some x) : k = k' := by
  obtain ⟨hlt, hget⟩ := List.getElem?_eq_some_iff.1 hk
  obtain ⟨hlt', hget'⟩ := List.getElem?_eq_some_iff.1 hk'
  exact hl.getElem_inj_iff.1 (hget.trans hget'.symm)

/-- Where the node at an index hangs that is told to hang under another one.  Only earlier nodes can
have children. -/
def placeAt (i : Nat) : Option Nat → Place
  | some p => if p < i then .under p else .top
  | none => .top

/-- The indices in a row of the nodes that hang at a place. -/
def standing (row : List (ν × Option Nat)) (place : Place) : List Nat :=
  (List.range row.length).filter fun c => row[c]?.any fun e => placeAt c e.2 = place

/-- A node stands at a place just if it is told to hang there. -/
theorem mem_standing {row : List (ν × Option Nat)} {place : Place} {c : Nat} :
    c ∈ standing row place ↔ ∃ e, row[c]? = some e ∧ placeAt c e.2 = place := by
  simp only [standing, List.mem_filter, List.mem_range, Option.any_eq_true, decide_eq_true_eq]
  constructor
  · exact fun h => h.2
  · rintro ⟨e, he, hplace⟩
    exact ⟨(List.getElem?_eq_some_iff.1 he).1, e, he, hplace⟩

/-- A node hangs under the one it is told, if that comes earlier. -/
theorem placeAt_eq_under_iff {i p : Nat} {parent : Option Nat} :
    placeAt i parent = .under p ↔ parent = some p ∧ p < i := by
  unfold placeAt
  split
  · next q =>
    split
    · simp only [Place.under.injEq, Option.some.injEq]
      omega
    · simp only [reduceCtorEq, Option.some.injEq, false_iff]
      omega
  · simp

/-- A node stands at the top if it is told no parent, or none that comes earlier. -/
theorem placeAt_eq_top_iff {i : Nat} {parent : Option Nat} :
    placeAt i parent = .top ↔ ∀ p, parent = some p → i ≤ p := by
  unfold placeAt
  split
  · split <;> simp <;> omega
  · simp

/-- The forest of a row. -/
def ofRow (row : List (ν × Option Nat)) : Forest ν where
  entries := (row.mapIdx fun i e =>
    { value := e.1, place := placeAt i e.2, children := (standing row (.under i)).toArray }).toArray
  roots := (standing row .top).toArray
  child_lt := by
    intro i h c hc
    simp only [List.getElem_toArray, List.getElem_mapIdx, List.mem_toArray, mem_standing] at hc
    obtain ⟨e, he, hplace⟩ := hc
    refine ⟨(placeAt_eq_under_iff.1 hplace).2, ?_⟩
    simpa using (List.getElem?_eq_some_iff.1 he).1
  parent_lt := by
    intro i h p hp
    simp only [List.getElem_toArray, List.getElem_mapIdx] at hp
    exact (placeAt_eq_under_iff.1 hp).2
  root_lt := by
    intro r hr
    simp only [List.mem_toArray, mem_standing] at hr
    obtain ⟨e, he, -⟩ := hr
    simpa using (List.getElem?_eq_some_iff.1 he).1

variable {row : List (ν × Option Nat)}

@[simp]
theorem size_ofRow (row : List (ν × Option Nat)) : (ofRow row).size = row.length := by
  simp [ofRow, size]

/-- A forest is told by its nodes with their links, and by those at the top. -/
theorem ext {f g : Forest ν} (hsize : f.size = g.size)
    (hentry : ∀ i (hf : i < f.size) (hg : i < g.size), f.entry ⟨i, hf⟩ = g.entry ⟨i, hg⟩)
    (hroots : f.roots = g.roots) : f = g := by
  have hentries : f.entries = g.entries := Array.ext hsize hentry
  cases f
  cases g
  cases hentries
  cases hroots
  rfl

theorem ofRow_nil : ofRow ([] : List (ν × Option Nat)) = empty :=
  ext rfl (fun _ h => absurd h (Nat.not_lt_zero _)) rfl

theorem entry_ofRow {i : Fin (ofRow row).size} {e : ν × Option Nat} (h : row[i.1]? = some e) :
    (ofRow row).entry i = ⟨e.1, placeAt i e.2, (standing row (.under i)).toArray⟩ := by
  obtain ⟨hi, rfl⟩ := List.getElem?_eq_some_iff.1 h
  simp [entry, ofRow]

/-! ## One node more -/

/-- One more node in a row is the last at its place. -/
theorem standing_concat (row : List (ν × Option Nat)) (e : ν × Option Nat) (place : Place) :
    standing (row ++ [e]) place =
      standing row place ++ if placeAt row.length e.2 = place then [row.length] else [] := by
  unfold standing
  rw [List.length_append, List.length_singleton, List.range_succ, List.filter_append]
  congr 1
  · refine List.filter_congr fun c hc => ?_
    rw [List.getElem?_append_left (List.mem_range.1 hc)]
  · simp [List.filter_cons]

theorem standing_under_eq_nil {p : Nat} (h : row.length ≤ p) : standing row (.under p) = [] := by
  refine List.eq_nil_iff_forall_not_mem.2 fun c hc => ?_
  obtain ⟨e, he, hplace⟩ := mem_standing.1 hc
  have := (List.getElem?_eq_some_iff.1 he).1
  have := (placeAt_eq_under_iff.1 hplace).2
  omega

theorem placeAt_length (parent : Option (Fin (ofRow row).size)) :
    placeAt row.length (parent.map (·.1)) = .ofParent (parent.map (·.1)) := by
  cases parent with
  | none => rfl
  | some p => exact if_pos (by simpa using p.2)

/-- A node that is added to a forest stands at the end of its row. -/
theorem push_ofRow (parent : Option (Fin (ofRow row).size)) (value : ν) :
    (ofRow row).push parent value = ofRow (row ++ [(value, parent.map (·.1))]) := by
  refine ext (by simp) (fun i hi hi' => ?_) ?_
  · have hlast : i < row.length ∨ i = row.length := by
      simp only [size_push, size_ofRow] at hi
      omega
    -- a node that is there may get the new one as a child; the new one has none
    rcases hlast with hlt | rfl
    · have hold : i < (ofRow row).size := by simpa using hlt
      obtain ⟨e, he⟩ : ∃ e, row[i]? = some e := ⟨_, List.getElem?_eq_getElem hlt⟩
      have he' : (row ++ [(value, parent.map (·.1))])[i]? = some e := by
        rw [List.getElem?_append_left hlt, he]
      rw [entry_push_of_lt parent value ⟨i, hold⟩, entry_ofRow he, entry_ofRow he',
        standing_concat, placeAt_length]
      cases parent with
      | none => simp [Place.ofParent]
      | some p => by_cases hp : p = ⟨i, hold⟩ <;> simp_all [Place.ofParent, Fin.ext_iff]
    · have hsize : row.length = (ofRow row).size := (size_ofRow row).symm
      have hnil : standing (row ++ [(value, parent.map (·.1))]) (.under row.length) = [] := by
        rw [standing_concat, standing_under_eq_nil (Nat.le_refl _), placeAt_length]
        cases parent with
        | none => rfl
        | some p =>
          have : p.1 ≠ row.length := Nat.ne_of_lt (by simpa using p.2)
          simp [Place.ofParent, this]
      rw [entry_ofRow (e := (value, parent.map (·.1))) (by simp), hnil, placeAt_length]
      simp only [hsize]
      exact entry_push_last parent value _
  · show _ = (standing (row ++ [(value, parent.map (·.1))]) .top).toArray
    rw [standing_concat, placeAt_length]
    cases parent with
    | none => simp [push, ofRow, Place.ofParent, size]
    | some p =>
      have hne : Place.ofParent ((some p).map (·.1)) ≠ .top := fun h => by cases h
      rw [if_neg hne, List.append_nil]
      rfl

theorem push_eq_ofRow {f : Forest ν} (hf : f = ofRow row) {parent : Option (Fin f.size)}
    {place : Option Nat} (hplace : parent.map (·.1) = place) (value : ν) :
    f.push parent value = ofRow (row ++ [(value, place)]) := by
  subst hf hplace
  exact push_ofRow parent value

/-! ## Links of a row -/

theorem get_ofRow {i : Fin (ofRow row).size} {e : ν × Option Nat} (h : row[i.1]? = some e) :
    (ofRow row).get i = e.1 := by
  rw [get, entry_ofRow h]

/-- The children of a node are those that are told to hang under it, in order. -/
theorem kids_ofRow (i : Fin (ofRow row).size) :
    ((ofRow row).kids i).map (·.1.1) = standing row (.under i.1) := by
  obtain ⟨e, he⟩ : ∃ e, row[i.1]? = some e :=
    ⟨_, List.getElem?_eq_getElem (by simpa using i.2)⟩
  unfold kids
  rw [List.map_pmap, List.pmap_eq_map]
  simp [entry_ofRow he]

theorem tops_ofRow : (ofRow row).tops.map (·.1) = standing row .top := by
  unfold tops
  rw [List.map_pmap, List.pmap_eq_map]
  simp [ofRow]

theorem hasChild_ofRow {i c : Fin (ofRow row).size} :
    (ofRow row).HasChild i c ↔ ∃ e, row[c.1]? = some e ∧ e.2 = some i.1 ∧ i.1 < c.1 := by
  have hmem : (ofRow row).HasChild i c ↔ c.1 ∈ ((ofRow row).kids i).map (·.1.1) := by
    simp [HasChild, Fin.ext_iff]
  simp only [hmem, kids_ofRow, mem_standing, placeAt_eq_under_iff]

/-- At the top are the nodes that are told no parent among those before them. -/
theorem mem_tops_ofRow {c : Fin (ofRow row).size} :
    c ∈ (ofRow row).tops ↔ ∃ e, row[c.1]? = some e ∧ ∀ p, e.2 = some p → c.1 ≤ p := by
  have hmem : c ∈ (ofRow row).tops ↔ c.1 ∈ (ofRow row).tops.map (·.1) := by
    rw [List.mem_map]
    exact ⟨fun h => ⟨c, h, rfl⟩, fun ⟨d, hd, heq⟩ => Fin.ext heq ▸ hd⟩
  simp only [hmem, tops_ofRow, mem_standing, placeAt_eq_top_iff]

/-- Nodes that hang at one place stand in the order of the row. -/
theorem pairwise_standing (place : Place) : (standing row place).Pairwise (· < ·) :=
  List.pairwise_lt_range.filter _

theorem pairwise_kids_ofRow (i : Fin (ofRow row).size) :
    (((ofRow row).kids i).map (·.1)).Pairwise (· < ·) := by
  have hsorted : (standing row (.under i.1)).Pairwise (· < ·) := pairwise_standing _
  rw [← kids_ofRow, List.pairwise_map] at hsorted
  exact List.pairwise_map.2 hsorted

theorem pairwise_tops_ofRow : (ofRow row).tops.Pairwise (· < ·) := by
  have hsorted : (standing row .top).Pairwise (· < ·) := pairwise_standing _
  rw [← tops_ofRow, List.pairwise_map] at hsorted
  exact hsorted

end ParseBoxes.Forest
