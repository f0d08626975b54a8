import ParseBoxes.Json.Value

/-!
# Spellings that are read back

What the writer spells is read to its end and denotes what was written: strings (`Text.scan_encode`,
`Text.decode_encode`), counts (`Number.scan_ofNat`, `Number.natural?_ofNat`), and the tokens made of
them (`Token.Legible`).
-/

namespace ParseBoxes.Json

namespace Text

theorem hex?_hexDigit {n : Nat} (h : n < 16) : Digits.hex? (hexDigit n) = some n := by
  revert n
  decide

theorem hexUnit?_of_lt {n : Nat} (h : n < 32) :
    hexUnit? '0' '0' (hexDigit (n / 16)) (hexDigit (n % 16)) = some n := by
  have hzero : Digits.hex? '0' = some 0 := rfl
  rw [hexUnit?, hzero, hex?_hexDigit (by omega), hex?_hexDigit (by omega)]
  simp only [Option.bind_eq_bind, Option.bind_some, Option.pure_def, Option.some.injEq]
  omega

/-- The ways in which the writer spells a character. -/
inductive Spells (c : Char) : List Char → Prop
  | plain : c ≠ '"' → c ≠ '\\' → isControl c = false → Spells c [c]
  | escape (e : Char) : e ≠ 'u' → escaped? e = some c → Spells c ['\\', e]
  | unit : c.toNat < 32 →
    Spells c ['\\', 'u', '0', '0', hexDigit (c.toNat / 16), hexDigit (c.toNat % 16)]

/-- A character is spelled by what it is encoded as. -/
theorem spells_encodeChar (c : Char) : Spells c (encodeChar c) := by
  unfold encodeChar
  split
  · exact .escape '"' (by decide) rfl
  · exact .escape '\\' (by decide) rfl
  · exact .escape 'b' (by decide) rfl
  · exact .escape 'f' (by decide) rfl
  · exact .escape 'n' (by decide) rfl
  · exact .escape 'r' (by decide) rfl
  · exact .escape 't' (by decide) rfl
  · rename_i hquote hbackslash _ _ _ _ _
    by_cases hcontrol : isControl c = true
    · rw [if_pos hcontrol]
      exact .unit (of_decide_eq_true hcontrol)
    · rw [if_neg hcontrol]
      exact .plain hquote hbackslash (Bool.eq_false_iff.2 hcontrol)

/-- A spelling is cut off whole from what stands before the closing quote. -/
theorem Spells.scan_append {c : Char} {spelling : List Char} (h : Spells c spelling)
    (rest : List Char) :
    scan (spelling ++ rest) = (scan rest).map fun (s, r) => (spelling ++ s, r) := by
  cases h with
  | plain hquote hbackslash hcontrol =>
    rw [List.singleton_append, scan.eq_def]
    split <;> simp_all
  | escape e hu he =>
    simp [scan, hu, he]
  | unit hlt =>
    simp [scan, hexUnit?_of_lt hlt]

/-- A spelling is read as its character. -/
theorem Spells.decode_append {c : Char} {spelling : List Char} (h : Spells c spelling)
    (rest : List Char) : decode (spelling ++ rest) = (decode rest).map (c :: ·) := by
  cases h with
  | plain hquote hbackslash hcontrol =>
    rw [List.singleton_append, decode.eq_def]
    split <;> simp_all
  | escape e hu he =>
    simp [decode, hu, he]
  | unit hlt =>
    have hlow : isLowSurrogate c.toNat = false := by
      simp only [isLowSurrogate, Bool.and_eq_false_iff, decide_eq_false_iff_not]
      omega
    have hhigh : isHighSurrogate c.toNat = false := by
      simp only [isHighSurrogate, Bool.and_eq_false_iff, decide_eq_false_iff_not]
      omega
    simp [decode, hexUnit?_of_lt hlt, hlow, hhigh]

/-- A spelled text is read up to its closing mark. -/
theorem scan_encode (cs rest : List Char) :
    scan (encode cs ++ '"' :: rest) = some (encode cs, rest) := by
  induction cs with
  | nil => rfl
  | cons c cs ih =>
    rw [encode, List.flatMap_cons, List.append_assoc, (spells_encodeChar c).scan_append, ← encode, ih]
    rfl

/-- A spelled text denotes itself. -/
@[simp]
theorem decode_encode (cs : List Char) : decode (encode cs) = some cs := by
  induction cs with
  | nil => rfl
  | cons c cs ih =>
    rw [encode, List.flatMap_cons, (spells_encodeChar c).decode_append, ← encode, ih]
    rfl

end Text

namespace Number

open Digits

theorem exists_ofNat_eq_cons (n : Nat) :
    ∃ d ds, (toString n).toList = d :: ds ∧ isDecimal d = true := by
  obtain ⟨d, ds, hdigits⟩ :=
    List.exists_cons_of_ne_nil (Nat.toDigits_ne_nil : Nat.toDigits 10 n ≠ [])
  refine ⟨d, ds, ?_, isDecimal_of_mem_toDigits (hdigits ▸ List.mem_cons_self)⟩
  rw [Nat.toString_eq_repr, Nat.toList_repr, hdigits]

theorem natural?_ofNat (n : UInt64) : natural? (toString n.toNat).toList = some n := by
  rw [Nat.toString_eq_repr, Nat.toList_repr]
  have hvalue := toNat_toDigits n.toNat
  rw [natural?_of_digits Nat.toDigits_ne_nil (fun _ => isDecimal_of_mem_toDigits)
    (hvalue.symm ▸ n.toNat_lt), hvalue, UInt64.ofNat_toNat]

theorem real?_ofNat_isSome (n : UInt64) : (real? (toString n.toNat).toList).isSome = true := by
  rw [Nat.toString_eq_repr, Nat.toList_repr]
  exact real?_isSome_of_digits Nat.toDigits_ne_nil (fun _ => isDecimal_of_mem_toDigits)
    ((toNat_toDigits n.toNat).symm ▸ n.toNat_lt)

/-- A spelled count is read to its end. -/
theorem scan_ofNat (n : Nat) {rest : List Char} (hrest : ∀ c ∈ rest.head?, goesOn c = false) :
    scan ((toString n).toList ++ rest) = some ((toString n).toList, rest) := by
  rw [Nat.toString_eq_repr, Nat.toList_repr]
  exact scan_append Nat.toDigits_ne_nil (fun _ => isDecimal_of_mem_toDigits)
    toDigits_of_head?_zero hrest

end Number

/-! ## Tokens -/

/-- A text is cut into these tokens in any number of turns above its length. -/
def Lexes (cs : List Char) (ts : List Token) : Prop :=
  ∀ n, cs.length < n → tokens?.go n cs = some ts

theorem Lexes.tokens? {cs : List Char} {ts : List Token} (h : Lexes cs ts) : tokens? cs = some ts :=
  h _ (Nat.lt_succ_self _)

theorem Lexes.nil : Lexes [] [] := by
  intro n hn
  cases n with
  | zero => cases hn
  | succ n => rfl

theorem scanToken_eq_none_of_isSpace {c : Char} (h : isSpace c = true) (cs : List Char) :
    scanToken (c :: cs) = none := by
  simp only [isSpace, Bool.or_eq_true, decide_eq_true_eq] at h
  rcases h with ((rfl | rfl) | rfl) | rfl <;> rfl

theorem scanToken_of_isDecimal {c : Char} (h : Digits.isDecimal c = true) (cs : List Char) :
    scanToken (c :: cs) = (Number.scan (c :: cs)).map fun (s, r) => (.number s, r) := by
  unfold scanToken
  split
  case h_11 => rfl
  all_goals
    rename_i heq
    obtain ⟨rfl, -⟩ := List.cons.inj heq
    cases h

/-- A token that is cut off in front is the first of the tokens. -/
theorem Lexes.cons {cs rest : List Char} {t : Token} {ts : List Token}
    (hscan : scanToken cs = some (t, rest)) (hlength : rest.length < cs.length)
    (h : Lexes rest ts) : Lexes cs (t :: ts) := by
  intro n hn
  cases cs with
  | nil => cases hlength
  | cons c cs =>
    cases n with
    | zero => cases hn
    | succ n =>
      have hspace : ¬isSpace c = true := by
        intro hc
        rw [scanToken_eq_none_of_isSpace hc] at hscan
        cases hscan
      simp only [List.length_cons] at hn hlength
      rw [tokens?.go, if_neg hspace, hscan]
      simp only [h n (by omega), Option.map_some]

namespace Token

/-- Tokens are cut out of their characters again, unless what stands behind goes on with a number. -/
def Legible (ts : List Token) : Prop :=
  ∀ (rest : List Char) (us : List Token), (∀ c ∈ rest.head?, Number.goesOn c = false) →
    Lexes rest us → Lexes (ts.flatMap chars ++ rest) (ts ++ us)

/-- This token ends where its characters end, whatever comes behind. -/
def Closed (t : Token) : Prop := ∀ rest, scanToken (t.chars ++ rest) = some (t, rest)

theorem closed_text (cs : List Char) : (text (Text.encode cs)).Closed := by
  intro rest
  simp [chars, scanToken, Text.scan_encode]

theorem Legible.nil : Legible [] := fun _ _ _ h => h

theorem Closed.chars_ne_nil {t : Token} (h : t.Closed) : t.chars ≠ [] := by
  intro hnil
  have := h []
  rw [hnil] at this
  cases this

theorem Legible.cons {t : Token} {ts : List Token} (ht : t.Closed) (h : Legible ts) :
    Legible (t :: ts) := by
  intro rest us hrest hus
  rw [List.flatMap_cons, List.append_assoc]
  refine .cons (ht _) ?_ (h rest us hrest hus)
  have := List.length_pos_iff.2 ht.chars_ne_nil
  simp only [List.length_append]
  omega

/-- A comma or the end of an array or object ends a number. -/
theorem Legible.append {ts us : List Token} (hts : Legible ts) (hus : Legible us)
    (hhead : ∃ t ∈ us.head?, ∃ c ∈ t.chars.head?, Number.goesOn c = false) :
    Legible (ts ++ us) := by
  obtain ⟨t, ht, c, hc, hgoesOn⟩ := hhead
  intro rest vs hrest hvs
  rw [List.flatMap_append, List.append_assoc, List.append_assoc]
  refine hts _ _ ?_ (hus rest vs hrest hvs)
  obtain ⟨us, rfl⟩ := List.head?_eq_some_iff.1 ht
  obtain ⟨cs, hcs⟩ := List.head?_eq_some_iff.1 hc
  intro c' hc'
  simp_all

theorem legible_ofNat (n : Nat) : Legible [number (toString n).toList] := by
  intro rest us hrest hus
  have hscan := Number.scan_ofNat n hrest
  obtain ⟨d, ds, hspelled, hd⟩ := Number.exists_ofNat_eq_cons n
  rw [hspelled] at hscan ⊢
  refine .cons ?_ ?_ hus
  · show scanToken (d :: (ds ++ [] ++ rest)) = _
    rw [scanToken_of_isDecimal hd, List.append_nil, ← List.cons_append, hscan]
    rfl
  · simp only [List.flatMap_cons, List.flatMap_nil, chars, List.append_nil, List.length_append,
      List.length_cons]
    omega

end Token

end ParseBoxes.Json
