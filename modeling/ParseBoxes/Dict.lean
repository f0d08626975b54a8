/-!
# Finite maps

Rows of keys and values in which no key stands twice.  In which order the rows stand says nothing
about the map.
-/

namespace ParseBoxes

/-- A finite map. -/
structure Dict (κ ν : Type) where
  rows : List (κ × ν)
  nodup : (rows.map (·.1)).Nodup

namespace Dict

variable {κ ν : Type}

def empty : Dict κ ν := ⟨[], .nil⟩

variable [DecidableEq κ]

def get? (d : Dict κ ν) (k : κ) : Option ν := (d.rows.find? (·.1 = k)).map (·.2)

/-- The rows of the other keys. -/
def rowsBut (d : Dict κ ν) (k : κ) : List (κ × ν) := d.rows.filter (·.1 ≠ k)

theorem nodup_rowsBut (d : Dict κ ν) (k : κ) : ((d.rowsBut k).map (·.1)).Nodup :=
  d.nodup.sublist (List.filter_sublist.map _)

theorem notMem_rowsBut (d : Dict κ ν) (k : κ) : k ∉ (d.rowsBut k).map (·.1) := by
  simp [rowsBut]

/-- Changes the value of one key, which may come or go. -/
def alter (d : Dict κ ν) (k : κ) (f : Option ν → Option ν) : Dict κ ν :=
  match f (d.get? k) with
  | none => ⟨d.rowsBut k, d.nodup_rowsBut k⟩
  | some v => ⟨(k, v) :: d.rowsBut k, List.nodup_cons.2 ⟨d.notMem_rowsBut k, d.nodup_rowsBut k⟩⟩

def insert (d : Dict κ ν) (k : κ) (v : ν) : Dict κ ν := d.alter k fun _ => some v

def erase (d : Dict κ ν) (k : κ) : Dict κ ν := d.alter k fun _ => none

def modify (d : Dict κ ν) (k : κ) (f : ν → ν) : Dict κ ν := d.alter k (Option.map f)

@[simp] theorem get?_empty (k : κ) : (empty : Dict κ ν).get? k = none := rfl

theorem find?_rowsBut (d : Dict κ ν) (k k' : κ) :
    (d.rowsBut k).find? (·.1 = k') = if k' = k then none else d.rows.find? (·.1 = k') := by
  rw [rowsBut, List.find?_filter]
  split
  · next h => subst h; simp
  · next h =>
    congr 1
    funext row
    by_cases hrow : row.1 = k' <;> simp_all

/-- A change under one key leaves what is under the others. -/
theorem get?_alter (d : Dict κ ν) (k : κ) (f : Option ν → Option ν) (k' : κ) :
    (d.alter k f).get? k' = if k' = k then f (d.get? k) else d.get? k' := by
  unfold alter
  split
  · next hf => rw [hf, get?, find?_rowsBut]; split <;> rfl
  · next v hf =>
    rw [hf, get?, List.find?_cons, find?_rowsBut]
    by_cases h : k' = k
    · simp [h]
    · simp [h, Ne.symm h, get?]

@[simp] theorem get?_insert (d : Dict κ ν) (k : κ) (v : ν) (k' : κ) :
    (d.insert k v).get? k' = if k' = k then some v else d.get? k' := d.get?_alter k _ k'

@[simp] theorem get?_erase (d : Dict κ ν) (k k' : κ) :
    (d.erase k).get? k' = if k' = k then none else d.get? k' := d.get?_alter k _ k'

@[simp] theorem get?_modify (d : Dict κ ν) (k : κ) (f : ν → ν) (k' : κ) :
    (d.modify k f).get? k' = if k' = k then (d.get? k).map f else d.get? k' := d.get?_alter k _ k'

theorem mem_rows_iff (d : Dict κ ν) {k : κ} {v : ν} : (k, v) ∈ d.rows ↔ d.get? k = some v := by
  obtain ⟨rows, nodup⟩ := d
  simp only [get?]
  induction rows with
  | nil => simp
  | cons row rest ih =>
    obtain ⟨hrow, hrest⟩ := List.nodup_cons.1 nodup
    by_cases h : row.1 = k
    · -- The key stands in the first row, and so in no other.
      subst h
      have hne : (row.1, v) ∉ rest := fun hmem => hrow (List.mem_map.2 ⟨_, hmem, rfl⟩)
      simp [hne, Prod.ext_iff, eq_comm]
    · rw [List.mem_cons, List.find?_cons_of_neg (by simpa using h), ← ih hrest]
      simp [Prod.ext_iff, Ne.symm h]

end Dict

end ParseBoxes
