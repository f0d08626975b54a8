import Mathlib.Algebra.Group.Nat.Defs
import Mathlib.Data.List.Forall2
import ParseBoxes.BoxPath

/-!
# Box paths as text

A text is a path if each of its parts between slashes is a numeral once it is rid of blanks at its
ends, and then the path has one index to a part (`BoxPath.parse_eq_ok_iff`); if not, the first part
that is no numeral is given back (`BoxPath.parse_eq_error_iff`).  So a path is read back from its
text, and also if its indices are dressed up with blanks around them, plus signs and zeros in front
of them.
-/

namespace ParseBoxes

/-! ## Rows of readings -/

section

variable {ε β γ : Type} {f : β → Except ε γ}

/-- A row is read if each of its members is. -/
theorem mapM_eq_ok_iff {xs : List β} {ys : List γ} :
    xs.mapM f = .ok ys ↔ List.Forall₂ (fun x y => f x = .ok y) xs ys := by
  induction xs generalizing ys with
  | nil => cases ys <;> simp [pure, Except.pure]
  | cons x xs ih =>
    rw [List.mapM_cons]
    cases hx : f x with
    | error e => cases ys <;> simp [bind, Except.bind, hx]
    | ok z =>
      cases hxs : xs.mapM f with
      | error e => cases ys <;> simp [bind, Except.bind, ← ih, hxs, hx]
      | ok zs => cases ys <;> simp [bind, Except.bind, pure, Except.pure, ← ih, hxs, hx]

theorem exists_forall₂_iff {R : β → γ → Prop} {xs : List β} :
    (∃ ys, List.Forall₂ R xs ys) ↔ ∀ x ∈ xs, ∃ y, R x y := by
  induction xs with
  | nil => simp
  | cons x xs ih =>
    rw [List.forall_mem_cons, ← ih]
    simp only [List.forall₂_cons_left_iff]
    constructor
    · rintro ⟨_, y, ys, hy, hys, rfl⟩
      exact ⟨⟨y, hy⟩, ys, hys⟩
    · rintro ⟨⟨y, hy⟩, ys, hys⟩
      exact ⟨y :: ys, y, ys, hy, hys, rfl⟩

theorem exists_getElem?_of_forall₂ {R : β → γ → Prop} {xs : List β} {ys : List γ}
    (h : List.Forall₂ R xs ys) {i : Nat} {x : β} (hx : xs[i]? = some x) :
    ∃ y, ys[i]? = some y ∧ R x y := by
  induction h generalizing i with
  | nil => cases hx
  | cons hxy _ ih =>
    cases i with
    | zero => cases hx; exact ⟨_, rfl, hxy⟩
    | succ i => exact ih hx

/-- A row is not read because of its first member that is not. -/
theorem mapM_eq_error_iff {xs : List β} {e : ε} :
    xs.mapM f = .error e ↔ ∃ (i : Nat) (x : β), xs[i]? = some x ∧ f x = .error e ∧
      ∀ j < i, ∀ y, xs[j]? = some y → ∃ z, f y = .ok z := by
  induction xs with
  | nil => simp [pure, Except.pure]
  | cons x xs ih =>
    have hcons : (x :: xs).mapM f = .error e ↔
        f x = .error e ∨ (∃ z, f x = .ok z) ∧ xs.mapM f = .error e := by
      rw [List.mapM_cons]
      cases f x with
      | error e' => simp [bind, Except.bind]
      | ok z => cases xs.mapM f <;> simp [bind, Except.bind, pure, Except.pure]
    rw [hcons, ih]
    constructor
    · rintro (hx | ⟨hx, i, y, hy, hfy, hbefore⟩)
      · exact ⟨0, x, rfl, hx, fun j hj => absurd hj (Nat.not_lt_zero j)⟩
      · refine ⟨i + 1, y, hy, hfy, fun j hj y' hy' => ?_⟩
        cases j with
        | zero => cases hy'; exact hx
        | succ j => exact hbefore j (Nat.lt_of_succ_lt_succ hj) y' hy'
    · rintro ⟨i, y, hy, hfy, hbefore⟩
      cases i with
      | zero => cases hy; exact .inl hfy
      | succ i =>
        refine .inr ⟨hbefore 0 (Nat.succ_pos i) x rfl, i, y, hy, hfy, fun j hj y' hy' => ?_⟩
        exact hbefore (j + 1) (Nat.succ_lt_succ hj) y' hy'

end

/-! ## Trimming -/

namespace Text

theorem dropWhile_pad {before cs : List Char} (hbefore : ∀ c ∈ before, isBlank c = true)
    (hcs : ∀ c ∈ cs.head?, isBlank c = false) : (before ++ cs).dropWhile isBlank = cs := by
  rw [List.dropWhile_append_of_pos hbefore]
  cases cs with
  | nil => rfl
  | cons c cs => rw [List.dropWhile_cons_of_neg (by simp [hcs c rfl])]

/-- Blanks around a text without blanks are trimmed away, and nothing else. -/
theorem trim_pad {before core after : List Char} (hbefore : ∀ c ∈ before, isBlank c = true)
    (hcore : ∀ c ∈ core, isBlank c = false) (hafter : ∀ c ∈ after, isBlank c = true)
    (hne : core ≠ []) : trim (before ++ (core ++ after)) = core := by
  obtain ⟨c, rest, rfl⟩ := List.exists_cons_of_ne_nil hne
  have hhead : ∀ d ∈ (c :: rest ++ after).head?, isBlank d = false := by
    rintro d ⟨rfl⟩
    exact hcore c List.mem_cons_self
  rw [trim, dropWhile_pad hbefore hhead, List.reverse_append, dropWhile_pad, List.reverse_reverse]
  · exact fun d hd => hafter d (List.mem_reverse.1 hd)
  · exact fun d hd => hcore d (List.mem_reverse.1 (List.mem_of_mem_head? hd))

end Text

/-! ## Numerals -/

namespace BoxPath

open Digits

/-- The spellings of an index: decimal digits that denote it, and a plus sign or none before them. -/
def IsNumeral (cs : List Char) (i : Nat) : Prop :=
  ∃ sign digits, cs = sign ++ digits ∧ (sign = [] ∨ sign = ['+']) ∧ digits ≠ [] ∧
    (∀ c ∈ digits, isDecimal c = true) ∧ toNat 10 digits = i ∧ i < 2 ^ 64

theorem decimal?_eq_some_iff {ds : List Char} {i : Nat} : decimal? ds = some i ↔
    ds ≠ [] ∧ (∀ c ∈ ds, isDecimal c = true) ∧ toNat 10 ds = i ∧ i < 2 ^ 64 := by
  have hdigits : ¬(ds.isEmpty || !ds.all isDecimal) = true ↔
      ds ≠ [] ∧ ∀ c ∈ ds, isDecimal c = true := by simp
  have hbound : Nat.pow 2 64 = 2 ^ 64 := rfl
  rw [decimal?, hbound]
  split
  · next h =>
    simp only [reduceCtorEq, false_iff]
    rintro ⟨hne, hds, -⟩
    exact hdigits.2 ⟨hne, hds⟩ h
  · next h =>
    obtain ⟨hne, hds⟩ := hdigits.1 h
    by_cases hlt : toNat 10 ds < 2 ^ 64
    · simp only [hlt, ↓reduceIte, Option.some.injEq]
      exact ⟨fun hi => ⟨hne, hds, hi, hi ▸ hlt⟩, fun hi => hi.2.2.1⟩
    · simp only [hlt, ↓reduceIte, reduceCtorEq, false_iff]
      rintro ⟨-, -, rfl, hi⟩
      exact hlt hi

theorem index?_of_digits {ds : List Char} (hds : ∀ c ∈ ds, isDecimal c = true) :
    index? ds = decimal? ds := by
  unfold index?
  split
  · cases hds '+' List.mem_cons_self
  · rfl

/-- An index is read just from a numeral of it. -/
theorem index?_eq_some_iff {cs : List Char} {i : Nat} : index? cs = some i ↔ IsNumeral cs i := by
  constructor
  · intro h
    unfold index? at h
    split at h
    · next ds => exact ⟨['+'], ds, rfl, .inr rfl, decimal?_eq_some_iff.1 h⟩
    · exact ⟨[], cs, rfl, .inl rfl, decimal?_eq_some_iff.1 h⟩
  · rintro ⟨sign, ds, rfl, rfl | rfl, h⟩
    · rw [List.nil_append, index?_of_digits h.2.1]
      exact decimal?_eq_some_iff.2 h
    · exact decimal?_eq_some_iff.2 h

theorem IsNumeral.eq_plus_or_isDecimal {cs : List Char} {i : Nat} (h : IsNumeral cs i) {c : Char}
    (hc : c ∈ cs) : c = '+' ∨ isDecimal c = true := by
  obtain ⟨sign, ds, rfl, hsign, -, hds, -⟩ := h
  rcases List.mem_append.1 hc with hc | hc
  · rcases hsign with rfl | rfl
    · cases hc
    · exact .inl (List.mem_singleton.1 hc)
  · exact .inr (hds c hc)

theorem isBlank_of_isDecimal {c : Char} (h : isDecimal c = true) : Text.isBlank c = false := by
  have h0 : ('0' : Char).toNat = 48 := rfl
  have h9 : ('9' : Char).toNat = 57 := rfl
  simp only [isDecimal, Bool.and_eq_true, decide_eq_true_eq, Char.le_def,
    UInt32.le_iff_toNat_le, Char.toNat_val] at h
  simp only [Text.isBlank, Bool.or_eq_false_iff, Bool.and_eq_false_iff, decide_eq_false_iff_not]
  omega

theorem IsNumeral.isBlank_eq_false {cs : List Char} {i : Nat} (h : IsNumeral cs i) {c : Char}
    (hc : c ∈ cs) : Text.isBlank c = false := by
  rcases h.eq_plus_or_isDecimal hc with rfl | hdecimal
  · rfl
  · exact isBlank_of_isDecimal hdecimal

theorem IsNumeral.slash_not_mem {cs : List Char} {i : Nat} (h : IsNumeral cs i) : '/' ∉ cs := by
  intro hc
  rcases h.eq_plus_or_isDecimal hc with heq | hdecimal
  · cases heq
  · cases hdecimal

theorem IsNumeral.ne_nil {cs : List Char} {i : Nat} (h : IsNumeral cs i) : cs ≠ [] := by
  obtain ⟨sign, ds, rfl, -, hne, -⟩ := h
  simp [hne]

/-! ## Reading -/

theorem part_eq_ok_iff {cs : List Char} {i : Nat} :
    part cs = .ok i ↔ IsNumeral (Text.trim cs) i := by
  rw [← index?_eq_some_iff, part]
  cases index? (Text.trim cs) <;> simp

/-- A part that is no numeral is reported as it stands. -/
theorem part_eq_error_iff {cs : List Char} {e : String} :
    part cs = .error e ↔ (∀ i, ¬IsNumeral (Text.trim cs) i) ∧ e = String.ofList cs := by
  simp only [← index?_eq_some_iff]
  rw [part]
  cases index? (Text.trim cs) <;> simp [eq_comm]

/-- The parts of a text. -/
def parts (text : String) : List (List Char) := text.toList.splitOn '/'

/-- A text is a path if each of its parts is an index. -/
theorem parse_eq_ok_iff {text : String} {path : List Nat} : parse text = .ok path ↔
    List.Forall₂ (fun cs i => IsNumeral (Text.trim cs) i) (parts text) path := by
  rw [parse, cut_eq_splitOn, mapM_eq_ok_iff]
  simp only [part_eq_ok_iff]
  rfl

/-- The first part that is no index is given back. -/
theorem parse_eq_error_iff {text e : String} : parse text = .error e ↔
    ∃ (j : Nat) (cs : List Char), (parts text)[j]? = some cs ∧
      ((∀ i, ¬IsNumeral (Text.trim cs) i) ∧ e = String.ofList cs) ∧
      ∀ k < j, ∀ cs', (parts text)[k]? = some cs' → ∃ i, IsNumeral (Text.trim cs') i := by
  rw [parse, cut_eq_splitOn, mapM_eq_error_iff]
  simp only [part_eq_ok_iff, part_eq_error_iff]
  rfl

/-! ## Writing -/

/-- What may stand around the decimal spelling of an index. -/
structure Dressing where
  before : List Char := []
  plus : Bool := false
  zeros : Nat := 0
  after : List Char := []
  before_blank : ∀ c ∈ before, Text.isBlank c = true := by simp
  after_blank : ∀ c ∈ after, Text.isBlank c = true := by simp

namespace Dressing

def numeral (d : Dressing) (i : Nat) : List Char :=
  (if d.plus then ['+'] else []) ++ (List.replicate d.zeros '0' ++ (toString i).toList)

/-- The spelling of an index in this dressing. -/
def spell (d : Dressing) (i : Nat) : String :=
  String.ofList (d.before ++ (d.numeral i ++ d.after))

end Dressing

theorem toNat_replicate_zero_append (n : Nat) (ds : List Char) :
    toNat 10 (List.replicate n '0' ++ ds) = toNat 10 ds := by
  induction n with
  | zero => rfl
  | succ n ih => exact ih

theorem Dressing.isNumeral (d : Dressing) {i : Nat} (hi : i < 2 ^ 64) :
    IsNumeral (d.numeral i) i := by
  have hdigits : (toString i).toList = Nat.toDigits 10 i := by
    rw [Nat.toString_eq_repr, Nat.toList_repr]
  refine ⟨_, _, rfl, ?_, ?_, fun c hc => ?_, ?_, hi⟩
  · cases d.plus
    · exact .inl rfl
    · exact .inr rfl
  · simp [Nat.toDigits_ne_nil]
  · rw [hdigits] at hc
    rcases List.mem_append.1 hc with hc | hc
    · rw [List.eq_of_mem_replicate hc]
      rfl
    · exact isDecimal_of_mem_toDigits hc
  · rw [toNat_replicate_zero_append, hdigits, toNat_toDigits]

theorem Dressing.trim_spell (d : Dressing) {i : Nat} (hi : i < 2 ^ 64) :
    Text.trim (d.spell i).toList = d.numeral i := by
  rw [spell, String.toList_ofList]
  exact Text.trim_pad d.before_blank (fun _ => (d.isNumeral hi).isBlank_eq_false) d.after_blank
    (d.isNumeral hi).ne_nil

theorem Dressing.slash_not_mem (d : Dressing) {i : Nat} (hi : i < 2 ^ 64) :
    '/' ∉ (d.spell i).toList := by
  rw [spell, String.toList_ofList, List.mem_append, List.mem_append]
  rintro (hc | hc | hc)
  · cases d.before_blank '/' hc
  · exact (d.isNumeral hi).slash_not_mem hc
  · cases d.after_blank '/' hc

/-- A path is read back however its indices are dressed. -/
theorem parse_spell {row : List (Dressing × Nat)} (hne : row ≠ []) (hlt : ∀ e ∈ row, e.2 < 2 ^ 64) :
    parse (String.intercalate "/" (row.map fun e => e.1.spell e.2)) = .ok (row.map (·.2)) := by
  have hparts : parts (String.intercalate "/" (row.map fun e => e.1.spell e.2)) =
      row.map fun e => (e.1.spell e.2).toList := by
    rw [parts, String.toList_intercalate, List.map_map]
    refine List.splitOn_intercalate '/' (fun cs hcs => ?_) (by simpa using hne)
    obtain ⟨e, he, rfl⟩ := List.mem_map.1 hcs
    exact e.1.slash_not_mem (hlt e he)
  rw [parse_eq_ok_iff, hparts, List.forall₂_map_left_iff, List.forall₂_map_right_iff,
    List.forall₂_same]
  intro e he
  rw [e.1.trim_spell (hlt e he)]
  exact e.1.isNumeral (hlt e he)

/-- A path is read as it was written. -/
theorem parse_print {path : List Nat} (hne : path ≠ []) (hlt : ∀ i ∈ path, i < 2 ^ 64) :
    parse (print path) = .ok path := by
  have hplain : ∀ i, Dressing.spell {} i = toString i := by
    intro i
    simp only [Dressing.spell, Dressing.numeral, Bool.false_eq_true, ↓reduceIte, List.replicate_zero,
      List.nil_append, List.append_nil, String.ofList_toList]
  have hrow := @parse_spell (path.map fun i => ({}, i)) (by simpa using hne) (by simpa using hlt)
  simp only [List.map_map, Function.comp_def, hplain, List.map_id'] at hrow
  exact hrow

/-- **Reading paths inverts writing them.**  The text of a path that leads somewhere and whose
indices are below 2^64 is read back as that path, also if blanks of any kind are put around its
indices, and plus signs and zeros in front of them.  A text is a path just if each of its parts
between slashes is a numeral when blanks are trimmed off it; the path has the indices that these
numerals denote, and so one to a part and at least one. -/
theorem parse_inverts_print :
    (∀ path, path ≠ [] → (∀ i ∈ path, i < 2 ^ 64) → parse (print path) = .ok path) ∧
    (∀ row : List (Dressing × Nat), row ≠ [] → (∀ e ∈ row, e.2 < 2 ^ 64) →
      parse (String.intercalate "/" (row.map fun e => e.1.spell e.2)) = .ok (row.map (·.2))) ∧
    (∀ text, (∃ path, parse text = .ok path) ↔
      ∀ cs ∈ text.toList.splitOn '/', ∃ i, IsNumeral (Text.trim cs) i) ∧
    ∀ text path, (parse text = .ok path ↔
        List.Forall₂ (fun cs i => IsNumeral (Text.trim cs) i) (text.toList.splitOn '/') path) ∧
      (parse text = .ok path →
        path.length = (text.toList.splitOn '/').length ∧ path ≠ []) := by
  refine ⟨fun path => parse_print, fun row => parse_spell, fun text => ?_, fun text path => ?_⟩
  · simp only [parse_eq_ok_iff]
    exact exists_forall₂_iff
  · refine ⟨parse_eq_ok_iff, fun h => ?_⟩
    have hlength := (parse_eq_ok_iff.1 h).length_eq
    refine ⟨hlength.symm, ?_⟩
    rintro rfl
    exact List.splitOn_ne_nil _ _ (List.length_eq_zero_iff.1 hlength)

example : parse "0/ +02\t" = .ok [0, 2] := by rfl

end BoxPath

end ParseBoxes
