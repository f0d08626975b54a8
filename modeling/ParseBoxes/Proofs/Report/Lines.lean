import Mathlib.Algebra.GroupWithZero.Nat
import ParseBoxes.Report

/-!
# Texts in lines

Rows are the lines of the text that is made of them if none of them has a line break of its own
(`Lines`), and then they are told by the text (`Lines.unique`).  If one has a line break, the text
has more lines than there are rows (`LinesIff.ofRows`).  Numbers and quotations have no line breaks.
-/

namespace ParseBoxes.Report

/-- There is no line break in it. -/
def Unbroken (s : String) : Prop := '\n' ∉ s.toList

instance (s : String) : Decidable (Unbroken s) := inferInstanceAs (Decidable ('\n' ∉ s.toList))

/-- A text consists of these lines. -/
structure Lines (text : String) (rows : List String) : Prop where
  text_eq : text = ofRows rows
  unbroken : ∀ row ∈ rows, Unbroken row

/-- The number of line breaks. -/
def breaks (s : String) : Nat := s.toList.count '\n'

theorem breaks_eq_zero_iff {s : String} : breaks s = 0 ↔ Unbroken s := List.count_eq_zero

theorem toList_ofRows_cons (row : String) (rows : List String) :
    (ofRows (row :: rows)).toList = row.toList ++ '\n' :: (ofRows rows).toList := by
  simp [ofRows]

/-- Each row gives one line break and those that it has. -/
theorem breaks_ofRows (rows : List String) :
    breaks (ofRows rows) = rows.length + (rows.map breaks).sum := by
  induction rows with
  | nil => simp [ofRows, breaks]
  | cons row rows ih =>
    rw [breaks, toList_ofRows_cons, List.count_append, List.count_cons_self, ← breaks, ← breaks, ih,
      List.length_cons, List.map_cons, List.sum_cons]
    omega

namespace Lines

variable {text : String} {rows rows' : List String}

/-- There are as many lines as line breaks. -/
theorem length_eq (h : Lines text rows) : rows.length = breaks text := by
  have hzero : (rows.map breaks).sum = 0 := by
    rw [List.sum_eq_zero_iff_forall_eq_nat]
    intro n hn
    obtain ⟨row, hrow, rfl⟩ := List.mem_map.1 hn
    exact breaks_eq_zero_iff.2 (h.unbroken row hrow)
  rw [h.text_eq, breaks_ofRows, hzero]
  rfl

theorem takeWhile_append_break {cs rest : List Char} (h : '\n' ∉ cs) :
    (cs ++ '\n' :: rest).takeWhile (· != '\n') = cs := by
  rw [List.takeWhile_append_of_pos, List.takeWhile_cons_of_neg (by decide), List.append_nil]
  exact fun c hc => bne_iff_ne.2 fun heq => h (heq ▸ hc)

/-- A text has its lines in one way. -/
theorem unique (h : Lines text rows) (h' : Lines text rows') : rows = rows' := by
  induction rows generalizing text rows' with
  | nil =>
    have hlength := h'.length_eq.trans h.length_eq.symm
    exact (List.length_eq_zero_iff.1 hlength).symm
  | cons row rows ih =>
    cases rows' with
    | nil => cases h.length_eq.trans h'.length_eq.symm
    | cons row' rows' =>
      have htext := congrArg String.toList (h.text_eq.symm.trans h'.text_eq)
      obtain ⟨hrow, hrows⟩ := List.forall_mem_cons.1 h.unbroken
      obtain ⟨hrow', hrows'⟩ := List.forall_mem_cons.1 h'.unbroken
      rw [toList_ofRows_cons, toList_ofRows_cons] at htext
      have hfirst := congrArg (List.takeWhile (· != '\n')) htext
      rw [takeWhile_append_break hrow, takeWhile_append_break hrow', String.toList_inj] at hfirst
      subst hfirst
      have hrest := List.cons_inj_right _ |>.1 (List.append_cancel_left htext)
      rw [ih ⟨rfl, hrows⟩ ⟨String.toList_inj.1 hrest, hrows'⟩]

end Lines

/-- A text is made of rows, which are its lines, and its only ones, under a condition; otherwise it
does not even have as many lines as there are rows. -/
structure LinesIff (p : Prop) (text : String) (rows : List String) : Prop where
  text_eq : text = ofRows rows
  lines_iff : p → ∀ rows', Lines text rows' ↔ rows' = rows
  of_length : ∀ rows', Lines text rows' → rows'.length = rows.length → p

/-- Rows are the lines of their text just where none of them has a break of its own. -/
theorem LinesIff.ofRows {rows : List String} {p : Prop} (h : (∀ row ∈ rows, Unbroken row) ↔ p) :
    LinesIff p (ofRows rows) rows where
  text_eq := rfl
  lines_iff hp rows' := by
    have hlines : Lines (Report.ofRows rows) rows := ⟨rfl, h.2 hp⟩
    constructor
    · intro hlines'
      exact hlines'.unique hlines
    · rintro rfl
      exact hlines
  of_length rows' hlines hlength := by
    have hbreaks := breaks_ofRows rows
    rw [← hlines.length_eq, hlength] at hbreaks
    have hzero : (rows.map breaks).sum = 0 := by omega
    rw [List.sum_eq_zero_iff_forall_eq_nat] at hzero
    exact h.1 fun row hrow => breaks_eq_zero_iff.1 (hzero _ (List.mem_map_of_mem hrow))

/-! ## What has no line break -/

@[simp]
theorem unbroken_append {a b : String} : Unbroken (a ++ b) ↔ Unbroken a ∧ Unbroken b := by
  simp [Unbroken]

@[simp]
theorem unbroken_join {parts : List String} :
    Unbroken (String.join parts) ↔ ∀ part ∈ parts, Unbroken part := by
  simp [Unbroken]

@[simp]
theorem unbroken_indent (depth : Nat) : Unbroken (indent depth) := by
  simp [Unbroken, indent]

/-- A row is broken where its label is. -/
theorem unbroken_row_iff (depth : Nat) (label : String) {rest : String} (hrest : Unbroken rest) :
    Unbroken (indent depth ++ (label ++ rest)) ↔ Unbroken label := by
  simp [hrest]

@[simp]
theorem unbroken_toString (n : Nat) : Unbroken (toString n) :=
  Decimal.not_mem_toString (by decide) n

@[simp]
theorem unbroken_number (x : Float) : Unbroken (number x) :=
  Decimal.Style.not_mem_write (by decide) (by decide) (by decide) (by decide) x

theorem not_mem_hexDigits (n : Nat) : '\n' ∉ Text.hexDigits n := by
  unfold Text.hexDigits
  induction n using Nat.strongRecOn with
  | ind n ih =>
    have hdigit : ∀ d < 16, '\n' ≠ d.digitChar := by decide
    by_cases h : n < 16
    · rw [Nat.toDigits_of_lt_base h]
      simp [hdigit n h]
    · rw [Nat.toDigits_of_base_le (by decide) (by omega)]
      simp [ih (n / 16) (by omega), hdigit (n % 16) (by omega)]

/-- A quotation stands on one line, whatever it holds. -/
@[simp]
theorem unbroken_quote (s : String) : Unbroken (Text.quote s) := by
  have hchar : ∀ c, '\n' ∉ Text.quoteChar c := by
    intro c
    -- A line break is escaped; no other character is written with one.
    by_cases hc : c = '\n'
    · rw [hc]
      decide
    unfold Text.quoteChar
    split <;> try decide
    split
    · simp [not_mem_hexDigits]
    · simpa using Ne.symm hc
  simp [Unbroken, Text.quote, hchar]

end ParseBoxes.Report
