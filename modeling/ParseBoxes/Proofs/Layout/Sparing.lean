import ParseBoxes.Proofs.Layout.Remembered

/-!
# Views ask sparingly

A view asks the measurer for labels of boxes and texts of fragments and for nothing else, and what it
has asked for it remembers (`Memo.Sparing`).  So however many questions are put to one view, in
whatever order, no label and no text is asked for twice.
-/

namespace ParseBoxes

variable {α : Type} {t : BoxTree}

namespace BoxTree

/-- The request for the label of a box. -/
def labelRequest (t : BoxTree) (b : t.Box) : Request :=
  ⟨.label b, (t.box b).label, (t.box b).labelRole⟩

/-- The request for the text of a fragment. -/
def textRequest (t : BoxTree) (p : t.Piece) : Request :=
  ⟨.text p, (t.piece p).display, (t.piece p).role⟩

theorem labelRequest_injective {b c : t.Box} (h : t.labelRequest b = t.labelRequest c) : b = c :=
  Fin.ext (Subject.label.inj (congrArg Request.subject h))

theorem textRequest_injective {p q : t.Piece} (h : t.textRequest p = t.textRequest q) : p = q :=
  Fin.ext (Subject.text.inj (congrArg Request.subject h))

theorem labelRequest_ne_textRequest (b : t.Box) (p : t.Piece) :
    t.labelRequest b ≠ t.textRequest p := fun h => by
  have := congrArg Request.subject h
  cases this

end BoxTree

namespace Memo

/-- The answer to a request for a label or a text stands in the memo. -/
def Knows (m : Memo α t) (r : Request) : Prop :=
  (∃ b, r = t.labelRequest b ∧ (m.labels.get b).isSome = true) ∨
    ∃ p, r = t.textRequest p ∧ (m.texts.get p).isSome = true

/-- Requests have been made for labels and texts only, once each, and their answers stand in the
memo. -/
structure Sparing (m : Memo α t) : Prop where
  nodup : m.requests.toList.Nodup
  knows : ∀ r ∈ m.requests.toList, m.Knows r

theorem sparing_blank : (blank α t).Sparing := ⟨.nil, fun r hr => by cases hr⟩

/-- A request whose answer is missing is made, and its answer written down. -/
theorem Sparing.request {m m' : Memo α t} (h : m.Sparing) {r : Request}
    (hrequests : m'.requests = m.requests.push r) (hnew : ¬m.Knows r) (hnow : m'.Knows r)
    (hkept : ∀ r', m.Knows r' → m'.Knows r') : m'.Sparing := by
  refine ⟨?_, fun r' hr' => ?_⟩
  · rw [hrequests, Array.toList_push]
    refine List.nodup_append.2 ⟨h.nodup, by simp, fun r' hr' q hq heq => ?_⟩
    rw [heq, List.mem_singleton.1 hq] at hr'
    exact hnew (h.knows r hr')
  · rw [hrequests, Array.toList_push, List.mem_append, List.mem_singleton] at hr'
    rcases hr' with hr' | rfl
    · exact hkept r' (h.knows r' hr')
    · exact hnow

theorem isSome_get_set {n : Nat} {β : Type} (v : Vector (Option β) n) (i j : Fin n) (x : β) :
    ((v.set i (some x) i.2).get j).isSome = (decide (i = j) || (v.get j).isSome) := by
  show ((v.set i (some x) i.2)[j.1]).isSome = (decide (i = j) || (v[j.1]).isSome)
  rw [Vector.getElem_set]
  by_cases hij : i = j
  · simp [hij]
  · have hne : i.1 ≠ j.1 := fun h => hij (Fin.ext h)
    simp [hij, hne]

end Memo

namespace View

/-- A question that is a request is put to the measurer once, if its table tells when its answer is
known. -/
theorem remember_ask_sparing (l : Layout α t) {size : Nat} {table : Table α t size (Size α)}
    {i : Fin size} {r : Request} {m : Memo α t} (hm : m.Sparing)
    (hread : m.Knows r → ((table.read m).get i).isSome = true)
    (hrequests : ∀ m f, (table.modify m f).requests = m.requests)
    (hwrite : ∀ x r', r' = r ∨ m.Knows r' → Memo.Knows
      (table.modify { m with requests := m.requests.push r } (·.set i (some x) i.2)) r') :
    Memo.Sparing ((remember table i (ask l r.subject r.text r.role)).run m).2 := by
  cases hi : (table.read m).get i with
  | some known =>
    rw [run_remember_of_eq_some hi]
    exact hm
  | none =>
    rw [run_remember_of_eq_none hi]
    have hnew : ¬m.Knows r := by
      intro hknows
      have hsome := hread hknows
      rw [hi] at hsome
      cases hsome
    exact hm.request (hrequests _ _) hnew (hwrite _ r (.inl rfl)) fun r' h => hwrite _ r' (.inr h)

theorem labelSize_sparing (l : Layout α t) (b : t.Box) {m : Memo α t} (hm : m.Sparing) :
    Memo.Sparing ((labelSize l b).run m).2 := by
  refine remember_ask_sparing (r := t.labelRequest b) l hm ?_ (fun _ _ => rfl) ?_
  · rintro (⟨c, hc, hknown⟩ | ⟨p, hp, -⟩)
    · rw [BoxTree.labelRequest_injective hc]
      exact hknown
    · exact absurd hp (BoxTree.labelRequest_ne_textRequest b p)
  · rintro x r (rfl | ⟨c, rfl, hc⟩ | hp)
    · exact .inl ⟨b, rfl, by simp [labels, Memo.isSome_get_set]⟩
    · exact .inl ⟨c, rfl, by simp [labels, Memo.isSome_get_set, hc]⟩
    · exact .inr hp

theorem textSize_sparing (l : Layout α t) (p : t.Piece) {m : Memo α t} (hm : m.Sparing) :
    Memo.Sparing ((textSize l p).run m).2 := by
  refine remember_ask_sparing (r := t.textRequest p) l hm ?_ (fun _ _ => rfl) ?_
  · rintro (⟨b, hb, -⟩ | ⟨q, hq, hknown⟩)
    · exact absurd hb.symm (BoxTree.labelRequest_ne_textRequest b p)
    · rw [BoxTree.textRequest_injective hq]
      exact hknown
  · rintro x r (rfl | hb | ⟨q, rfl, hq⟩)
    · exact .inr ⟨p, rfl, by simp [texts, Memo.isSome_get_set]⟩
    · exact .inl hb
    · exact .inr ⟨q, rfl, by simp [texts, Memo.isSome_get_set, hq]⟩

end View

variable [Scalar α]

/-! ## Questions about sizes -/

/-- A question that can be put to a layout. -/
inductive Question (t : BoxTree) where
  | labelSize (b : t.Box)
  | childrenBlock (b : t.Box)
  | renderedWidth (b : t.Box)
  | isDisplayed (b : t.Box)
  | displayedWidth (b : t.Box)
  | childrenHeight (b : t.Box)
  | renderedHeight (b : t.Box)
  | textSize (p : t.Piece)
  | inputSize (p : t.Piece)
  | pieceWidth (p : t.Piece)

/-- An answer to such a question. -/
inductive Reply (α : Type) where
  | extent (s : Size α)
  | length (x : α)
  | shown (yes : Bool)

/-- The answer by the rules, with nothing remembered. -/
def Layout.reply (l : Layout α t) : Question t → Reply α
  | .labelSize b => .extent (l.labelSize b)
  | .childrenBlock b => .extent (l.childrenBlock b)
  | .renderedWidth b => .length (l.renderedWidth b)
  | .isDisplayed b => .shown (l.isDisplayed b)
  | .displayedWidth b => .length (l.displayedWidth b)
  | .childrenHeight b => .length (l.childrenHeight b)
  | .renderedHeight b => .length (l.renderedHeight b)
  | .textSize p => .extent (l.textSize p)
  | .inputSize p => .extent (l.inputSize p)
  | .pieceWidth p => .length (l.pieceWidth p)

namespace View

/-- The answer of a view. -/
def reply (l : Layout α t) : Question t → View α t (Reply α)
  | .labelSize b => .extent <$> labelSize l b
  | .childrenBlock b => .extent <$> childrenBlock l b
  | .renderedWidth b => .length <$> renderedWidth l b
  | .isDisplayed b => .shown <$> isDisplayed l b
  | .displayedWidth b => .length <$> displayedWidth l b
  | .childrenHeight b => .length <$> childrenHeight l b
  | .renderedHeight b => .length <$> renderedHeight l b
  | .textSize p => .extent <$> textSize l p
  | .inputSize p => .extent <$> inputSize l p
  | .pieceWidth p => .length <$> pieceWidth l p

variable (l : Layout α t)

/-- One question, whichever it is. -/
theorem Kept.reply {l : Layout α t} {I : Memo α t → Prop} (hI : Kept l I) (q : Question t) :
    AnswersUnder I (View.reply l q) (l.reply q) := by
  cases q with
  | labelSize b => exact (hI.labelSize b).map _
  | childrenBlock b => exact (hI.childrenBlock b).map _
  | renderedWidth b => exact (hI.rendered b).1.map _
  | isDisplayed b => exact (hI.isDisplayed b).map _
  | displayedWidth b => exact (hI.displayedWidth b).map _
  | childrenHeight b => exact (hI.childrenHeight b).map _
  | renderedHeight b => exact (hI.rendered b).2.map _
  | textSize p => exact (hI.textSize p).map _
  | inputSize p => exact (hI.inputSize p).map _
  | pieceWidth p => exact (hI.pieceWidth p).map _

/-- Neither labels nor texts nor requests change when another size is written down. -/
theorem kept_sparing : Kept l fun m => m.Agrees l ∧ m.Sparing where
  agrees _ hm := hm.1
  labelSize b m hm :=
    have h := labelSize_answers l b m hm.1
    ⟨h.1, h.2, labelSize_sparing l b hm.2⟩
  textSize p m hm :=
    have h := textSize_answers l p m hm.1
    ⟨h.1, h.2, textSize_sparing l p hm.2⟩
  blocks m b hm := ⟨(kept_agrees l).blocks m b hm.1, hm.2.nodup, hm.2.knows⟩
  widths m b hm := ⟨(kept_agrees l).widths m b hm.1, hm.2.nodup, hm.2.knows⟩
  displayed m b hm := ⟨(kept_agrees l).displayed m b hm.1, hm.2.nodup, hm.2.knows⟩
  inputs m p hm := ⟨(kept_agrees l).inputs m p hm.1, hm.2.nodup, hm.2.knows⟩
  pieces m p hm := ⟨(kept_agrees l).pieces m p hm.1, hm.2.nodup, hm.2.knows⟩

/-- **A view answers by the rules and asks sparingly.**  Whatever questions are put to one fresh view
of a layout, of a board as it is or of a box taken out of it, in whatever order: each is answered as
by the rules with nothing remembered, and all requests to the measurer together are for labels of
boxes and texts of fragments, none of which is asked for twice. -/
theorem replies_by_rules_and_sparingly (qs : List (Question t)) :
    ((qs.mapM (reply l)).run (.blank α t)).1 = qs.map l.reply ∧
      ((qs.mapM (reply l)).run (.blank α t)).2.requests.toList.Nodup ∧
      ∀ r ∈ ((qs.mapM (reply l)).run (.blank α t)).2.requests.toList,
        (∃ b, r = t.labelRequest b) ∨ ∃ p, r = t.textRequest p := by
  have hreplies : AnswersUnder (fun m => m.Agrees l ∧ m.Sparing) (qs.mapM (reply l))
      (qs.map l.reply) := .mapM qs fun q _ => (kept_sparing l).reply q
  obtain ⟨hanswers, -, hsparing⟩ := hreplies (.blank α t) ⟨.blank l, Memo.sparing_blank⟩
  refine ⟨hanswers, hsparing.nodup, fun r hr => ?_⟩
  rcases hsparing.knows r hr with ⟨b, hb, -⟩ | ⟨p, hp, -⟩
  · exact .inl ⟨b, hb⟩
  · exact .inr ⟨p, hp⟩

end View

end ParseBoxes
