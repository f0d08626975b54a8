import ParseBoxes.Json.Fields
import ParseBoxes.Proofs.Json.Spelling

/-!
# Written values are read back

Every value is read back from its tokens (`Value.ofTokens?_tokens`), and a value as writers make it
(`Value.Written`) from its text (`Value.parse?_compact`).
-/

namespace ParseBoxes.Json

open Token (Legible)

namespace Value

/-! ## Structure -/

theorem itemTokens_cons (v w : Value) (vs : List Value) :
    itemTokens (v :: w :: vs) = v.tokens ++ .comma :: itemTokens (w :: vs) := rfl

theorem memberTokens_cons (k : List Char) (v : Value) (m : List Char × Value)
    (ms : List (List Char × Value)) :
    memberTokens ((k, v) :: m :: ms) =
      .text k :: .colon :: (v.tokens ++ .comma :: memberTokens (m :: ms)) := rfl

theorem exists_tokens_eq_cons (v : Value) : ∃ t ts, v.tokens = t :: ts ∧ t ≠ .arrayClose := by
  cases v <;> exact ⟨_, _, rfl, Token.noConfusion⟩

theorem exists_itemTokens_eq_append (v : Value) (vs : List Value) :
    ∃ ts, itemTokens (v :: vs) = v.tokens ++ ts := by
  cases vs with
  | nil => exact ⟨[], (List.append_nil _).symm⟩
  | cons w vs => exact ⟨_, itemTokens_cons v w vs⟩

theorem exists_memberTokens_eq_cons (m : List Char × Value) (ms : List (List Char × Value)) :
    ∃ ts, memberTokens (m :: ms) = .text m.1 :: ts := by
  cases ms with
  | nil => exact ⟨_, rfl⟩
  | cons m' ms => exact ⟨_, memberTokens_cons m.1 m.2 m' ms⟩

/-! ## Reading tokens -/

/-- Where an array begins its items are read like any other value. -/
theorem run_valueOrEnd (v : Value) (vs : List Value) (stack : List Frame) (ts : List Token) :
    run (.valueOrEnd, stack) (itemTokens (v :: vs) ++ ts) =
      run (.value, stack) (itemTokens (v :: vs) ++ ts) := by
  obtain ⟨us, hitems⟩ := exists_itemTokens_eq_append v vs
  obtain ⟨t, us', htokens, hne⟩ := exists_tokens_eq_cons v
  have hstep : step (.valueOrEnd, stack) t = step (.value, stack) t := by
    cases t with
    | arrayClose => contradiction
    | _ => simp only [step]
  rw [hitems, htokens, List.cons_append, List.cons_append, run, hstep, ← run]

mutual

/-- A value that is expected is read from its tokens. -/
theorem run_tokens (v : Value) (stack : List Frame) (ts : List Token) :
    run (.value, stack) (v.tokens ++ ts) = run (deliver v stack) ts := by
  match v with
  | null => rfl
  | bool b => rfl
  | number s => rfl
  | text s => rfl
  | array [] => rfl
  | array (v :: vs) =>
    show run (.valueOrEnd, .array [] :: stack) ((itemTokens (v :: vs) ++ [.arrayClose]) ++ ts) = _
    rw [List.append_assoc, run_valueOrEnd v vs]
    exact run_itemTokens (v :: vs) (List.cons_ne_nil v vs) [] stack ts
  | object [] => rfl
  | object (m :: ms) =>
    have hmembers := run_memberTokens (m :: ms) (List.cons_ne_nil m ms) [] stack ts
    obtain ⟨us, htokens⟩ := exists_memberTokens_eq_cons m ms
    show run (.keyOrEnd [], stack) ((memberTokens (m :: ms) ++ [.objectClose]) ++ ts) = _
    -- the first key is read like a key behind a comma
    rw [List.append_assoc]
    refine Eq.trans ?_ hmembers
    rw [htokens]
    rfl

/-- The items of an array are read up to its end. -/
theorem run_itemTokens (items : List Value) (h : items ≠ []) (done : List Value)
    (stack : List Frame) (ts : List Token) :
    run (.value, .array done :: stack) (itemTokens items ++ .arrayClose :: ts) =
      run (deliver (.array (done.reverse ++ items)) stack) ts := by
  match items with
  | [] => contradiction
  | [v] =>
    show run _ (v.tokens ++ .arrayClose :: ts) = _
    rw [run_tokens v, ← List.reverse_cons]
    rfl
  | v :: w :: vs =>
    -- the comma puts the item onto what is done
    rw [itemTokens_cons, List.append_assoc, run_tokens v]
    show run _ (itemTokens (w :: vs) ++ .arrayClose :: ts) = _
    rw [run_itemTokens (w :: vs) (List.cons_ne_nil w vs) (v :: done)]
    simp

/-- The members of an object are read up to its end. -/
theorem run_memberTokens (members : List (List Char × Value)) (h : members ≠ [])
    (done : List (List Char × Value)) (stack : List Frame) (ts : List Token) :
    run (.key done, stack) (memberTokens members ++ .objectClose :: ts) =
      run (deliver (.object (done.reverse ++ members)) stack) ts := by
  match members with
  | [] => contradiction
  | [(k, v)] =>
    show run (.value, .object done k :: stack) (v.tokens ++ .objectClose :: ts) = _
    rw [run_tokens v, ← List.reverse_cons]
    rfl
  | (k, v) :: m :: ms =>
    show run (.value, .object done k :: stack)
      ((v.tokens ++ .comma :: memberTokens (m :: ms)) ++ .objectClose :: ts) = _
    rw [List.append_assoc, run_tokens v]
    show run _ (memberTokens (m :: ms) ++ .objectClose :: ts) = _
    rw [run_memberTokens (m :: ms) (List.cons_ne_nil m ms) ((k, v) :: done)]
    simp

end

/-- Every value is read back from its tokens. -/
theorem ofTokens?_tokens (v : Value) : ofTokens? v.tokens = some v := by
  have hrun : run (.value, []) v.tokens = some (.nothing v, []) := by
    simpa [run, deliver] using run_tokens v [] []
  rw [ofTokens?, hrun]

/-! ## Values as writers make them -/

/-- Values whose spellings are the writer's. -/
inductive Written : Value → Prop
  | null : Written .null
  | bool (b : Bool) : Written (.bool b)
  | ofNat (n : UInt64) : Written (.ofNat n.toNat)
  | ofString (s : String) : Written (.ofString s)
  | array (items : List Value) : (∀ v ∈ items, Written v) → Written (.array items)
  | ofFields (fields : List (String × Value)) : (∀ f ∈ fields, Written f.2) →
    Written (.ofFields fields)

theorem legible_itemTokens {items : List Value} (h : ∀ v ∈ items, Legible v.tokens) :
    Legible (itemTokens items) := by
  induction items with
  | nil => exact .nil
  | cons v vs ih =>
    have hv := h v List.mem_cons_self
    have hvs := ih fun w hw => h w (List.mem_cons_of_mem _ hw)
    cases vs with
    | nil => exact hv
    | cons w vs => exact hv.append (.cons (fun _ => rfl) hvs) ⟨_, rfl, _, rfl, rfl⟩

theorem legible_memberTokens {fields : List (String × Value)} (h : ∀ f ∈ fields, Legible f.2.tokens) :
    Legible (memberTokens (fields.map fun (k, v) => (Text.encode k.toList, v))) := by
  induction fields with
  | nil => exact .nil
  | cons f fs ih =>
    have hf := h f List.mem_cons_self
    have hfs := ih fun g hg => h g (List.mem_cons_of_mem _ hg)
    refine match fs with
      | [] => .cons (Token.closed_text _) (.cons (fun _ => rfl) hf)
      | g :: gs => .cons (Token.closed_text _) (.cons (fun _ => rfl) ?_)
    exact hf.append (.cons (fun _ => rfl) hfs) ⟨_, rfl, _, rfl, rfl⟩

/-- What writers write is legible. -/
theorem Written.legible {v : Value} (h : v.Written) : Legible v.tokens := by
  induction h with
  | null => exact .cons (fun _ => rfl) .nil
  | bool b =>
    cases b with
    | false => exact .cons (fun _ => rfl) .nil
    | true => exact .cons (fun _ => rfl) .nil
  | ofNat n => exact Token.legible_ofNat n.toNat
  | ofString s => exact .cons (Token.closed_text s.toList) .nil
  | array items _ ih =>
    exact .cons (fun _ => rfl)
      ((legible_itemTokens ih).append (.cons (fun _ => rfl) .nil) ⟨_, rfl, _, rfl, rfl⟩)
  | ofFields fields _ ih =>
    exact .cons (fun _ => rfl)
      ((legible_memberTokens ih).append (.cons (fun _ => rfl) .nil) ⟨_, rfl, _, rfl, rfl⟩)

/-- A written value is read back from its text. -/
theorem Written.parse?_compact {v : Value} (h : v.Written) :
    parse? v.compact.toList = some v := by
  have hlexes : Lexes (v.tokens.flatMap Token.chars) v.tokens := by
    simpa using h.legible [] [] (by simp) .nil
  rw [parse?, compact, String.toList_ofList, hlexes.tokens?, Option.bind_some, ofTokens?_tokens]

theorem arePlain_eq_all (items : List Value) : arePlain items = items.all Value.isPlain := by
  induction items with
  | nil => rfl
  | cons v vs ih => rw [arePlain, ih, List.all_cons]

theorem arePlainMembers_eq_all (members : List (List Char × Value)) :
    arePlainMembers members = members.all fun m => (Text.decode m.1).isSome && m.2.isPlain := by
  induction members with
  | nil => rfl
  | cons m ms ih => rw [arePlainMembers, ih, List.all_cons]

/-- All that a writer spells denotes something. -/
theorem Written.isPlain {v : Value} (h : v.Written) : v.isPlain = true := by
  induction h with
  | null => rfl
  | bool b => rfl
  | ofNat n => exact Number.real?_ofNat_isSome n
  | ofString s => simp [Value.ofString, Value.isPlain]
  | array items _ ih =>
    rw [Value.isPlain, arePlain_eq_all, List.all_eq_true]
    exact ih
  | ofFields fields _ ih =>
    rw [Value.ofFields, Value.isPlain, arePlainMembers_eq_all, List.all_map, List.all_eq_true]
    intro f hf
    simp [ih f hf]

/-! ## Depth -/

theorem itemsDepth_le_iff {items : List Value} {n : Nat} :
    itemsDepth items ≤ n ↔ ∀ v ∈ items, v.depth ≤ n := by
  induction items with
  | nil => simp [itemsDepth]
  | cons v vs ih => rw [itemsDepth, Nat.max_le, ih, List.forall_mem_cons]

theorem membersDepth_le_iff {members : List (List Char × Value)} {n : Nat} :
    membersDepth members ≤ n ↔ ∀ m ∈ members, m.2.depth ≤ n := by
  induction members with
  | nil => simp [membersDepth]
  | cons m ms ih => rw [membersDepth, Nat.max_le, ih, List.forall_mem_cons]

theorem depth_array (items : List Value) : (array items).depth = itemsDepth items + 1 := rfl

theorem depth_object (members : List (List Char × Value)) :
    (object members).depth = membersDepth members + 1 := rfl

theorem depth_ofFields_le_iff {fields : List (String × Value)} {n : Nat} :
    (ofFields fields).depth ≤ n + 1 ↔ ∀ f ∈ fields, f.2.depth ≤ n := by
  rw [ofFields, depth_object, Nat.add_le_add_iff_right, membersDepth_le_iff, List.forall_mem_map]

/-! ## Fields -/

@[simp]
theorem string?_ofString (s : String) : (ofString s).string? = some s := by
  simp [ofString, string?]

@[simp]
theorem natural?_ofNat (n : UInt64) : (ofNat n.toNat).natural? = some n :=
  Number.natural?_ofNat n

end Value

theorem exists_of_mem_mapM {α β : Type} {f : α → Option β} {xs : List α} {ys : List β} {y : β}
    (h : xs.mapM f = some ys) (hy : y ∈ ys) : ∃ x ∈ xs, f x = some y := by
  induction xs generalizing ys with
  | nil =>
    cases h
    cases hy
  | cons x xs ih =>
    simp only [List.mapM_cons, Option.bind_eq_bind, Option.bind_eq_some_iff, Option.pure_def,
      Option.some.injEq] at h
    obtain ⟨z, hz, zs, hzs, rfl⟩ := h
    rcases List.mem_cons.1 hy with rfl | hy
    · exact ⟨x, List.mem_cons_self, hz⟩
    · obtain ⟨x', hx', hfx'⟩ := ih hzs hy
      exact ⟨x', List.mem_cons_of_mem _ hx', hfx'⟩

/-- A list is read as it was written if its members are. -/
theorem mapM_map_eq_some {α β : Type} {f : β → Option α} {g : α → β} {xs : List α}
    (h : ∀ x ∈ xs, f (g x) = some x) : (xs.map g).mapM f = some xs := by
  induction xs with
  | nil => rfl
  | cons x xs ih =>
    rw [List.map_cons, List.mapM_cons, h x List.mem_cons_self,
      ih fun y hy => h y (List.mem_cons_of_mem _ hy)]
    rfl

/-- A written structure has the fields that were written, each under its own names. -/
theorem Members.field?_ofFields (fields : List (String × Value)) (names : List String) :
    Members.field? (fields.map fun (k, v) => (Text.encode k.toList, v)) names =
      match fields.filter fun f => names.contains f.1 with
      | [] => some none
      | [(_, v)] => some (some v)
      | _ => none := by
  rw [field?, List.filter_map]
  simp only [Function.comp_def, Text.decode_encode, Option.map_some, Option.any_some,
    String.ofList_toList]
  generalize fields.filter (fun f => names.contains f.1) = found
  rcases found with _ | ⟨f, _ | ⟨g, gs⟩⟩ <;> rfl

theorem Members.exists_mem_of_field? {ms : Members} {names : List String} {v : Value}
    (h : ms.field? names = some (some v)) : ∃ m ∈ ms, m.2 = v := by
  unfold field? at h
  split at h
  · cases h
  · rename_i m heq
    cases h
    exact ⟨_, (List.mem_filter.1 (heq ▸ List.mem_singleton_self _)).1, rfl⟩
  · cases h

namespace Value

theorem fields?_ofFields (fields : List (String × Value)) (names : List (List String)) :
    (ofFields fields).fields? names = names.mapM fun ns =>
      match fields.filter fun f => ns.contains f.1 with
      | [] => some none
      | [(_, v)] => some (some v)
      | _ => none := by
  rw [ofFields, fields?, Members.fields?, if_pos]
  · congr 1
    funext ns
    exact Members.field?_ofFields fields ns
  · -- a key that was written denotes a text
    simp

/-- What is read as a field of a value lies deeper. -/
theorem depth_lt_of_fields? {v w : Value} {names : List (List String)} {fields : List (Option Value)}
    (h : v.fields? names = some fields) (hw : some w ∈ fields) : w.depth < v.depth := by
  cases v with
  | object ms =>
    rw [fields?, Members.fields?] at h
    split at h
    · obtain ⟨ns, -, hns⟩ := exists_of_mem_mapM h hw
      obtain ⟨m, hm, rfl⟩ := Members.exists_mem_of_field? hns
      exact Nat.lt_succ_of_le (membersDepth_le_iff.1 (Nat.le_refl _) m hm)
    · cases h
  | array items =>
    rw [fields?] at h
    split at h
    · cases h
      have hmem : w ∈ items := by
        simpa using hw
      exact Nat.lt_succ_of_le (itemsDepth_le_iff.1 (Nat.le_refl _) w hmem)
    · cases h
  | _ => cases h

end Value

end ParseBoxes.Json
