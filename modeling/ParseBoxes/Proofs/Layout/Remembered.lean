import ParseBoxes.Layout.View
import ParseBoxes.Proofs.Layout.Depends

/-!
# Views answer by the rules

A view remembers what it has worked out.  As long as what it remembers agrees with the rules of
layout (`Memo.Agrees`), it answers every question by the rules and goes on agreeing with them
(`View.Answers`).  A fresh view remembers nothing, so it agrees.

The walk through the questions is made once, for any property of memos that single requests and
single entries keep (`View.Kept`).
-/

namespace ParseBoxes

variable {α : Type} {t : BoxTree}

namespace View

/-- What stands in a table are the values at the places where it stands. -/
def Table.Agrees {size : Nat} {β : Type} (table : Table α t size β) (values : Fin size → β)
    (m : Memo α t) : Prop :=
  ∀ i x, (table.read m).get i = some x → x = values i

/-- A table in which nothing is remembered agrees with any values. -/
theorem Table.Agrees.of_replicate {size : Nat} {β : Type} {table : Table α t size β}
    {values : Fin size → β} {m : Memo α t} (hread : table.read m = .replicate size none) :
    table.Agrees values m := by
  intro i x hx
  rw [hread] at hx
  change (Vector.replicate size none)[i.1] = some x at hx
  rw [Vector.getElem_replicate] at hx
  cases hx

/-- A table stays in agreement when a right value is put down. -/
theorem Table.Agrees.set {size : Nat} {β : Type} {table : Table α t size β}
    {values : Fin size → β} {m m' : Memo α t} (h : table.Agrees values m) (i : Fin size)
    (hread : table.read m' = (table.read m).set i (some (values i)) i.2) :
    table.Agrees values m' := by
  intro j x hx
  rw [hread] at hx
  change ((table.read m).set i (some (values i)) i.2)[j.1] = some x at hx
  rw [Vector.getElem_set] at hx
  split at hx
  · next hij =>
    cases Fin.ext hij
    exact (Option.some.inj hx).symm
  · exact h j x hx

/-! ## Questions -/

/-- What is remembered is given back, and nothing more is put down. -/
theorem run_remember_of_eq_some {size : Nat} {β : Type} {table : Table α t size β} {i : Fin size}
    {q : View α t β} {m : Memo α t} {known : β} (h : (table.read m).get i = some known) :
    (remember table i q).run m = (known, m) := by
  simp only [remember, StateT.run_bind, StateT.run_get, pure_bind, h]
  rfl

/-- What is not remembered is found out, and put down. -/
theorem run_remember_of_eq_none {size : Nat} {β : Type} {table : Table α t size β} {i : Fin size}
    {q : View α t β} {m : Memo α t} (h : (table.read m).get i = none) :
    (remember table i q).run m =
      ((q.run m).1, table.modify (q.run m).2 (·.set i (some (q.run m).1) i.2)) := by
  simp only [remember, StateT.run_bind, StateT.run_get, pure_bind, h]
  rfl

/-- What a view tells that remembers nothing yet. -/
def fresh {β : Type} (question : View α t β) : β := (question.run (.blank α t)).1

/-- A question has this answer if the memo has this property, and then the memo goes on having it. -/
def AnswersUnder {β : Type} (I : Memo α t → Prop) (question : View α t β) (answer : β) : Prop :=
  ∀ m, I m → (question.run m).1 = answer ∧ I (question.run m).2

namespace AnswersUnder

variable {β γ : Type} {I : Memo α t → Prop}

theorem pure (a : β) : AnswersUnder I (Pure.pure a) a := fun _ hm => ⟨rfl, hm⟩

/-- A question asked after another is answered with what that has been answered with. -/
theorem bind {q : View α t β} {a : β} {k : β → View α t γ} {b : γ} (hq : AnswersUnder I q a)
    (hk : AnswersUnder I (k a) b) : AnswersUnder I (q >>= k) b := by
  intro m hm
  obtain ⟨ha, hm'⟩ := hq m hm
  have hrun : (q >>= k).run m = (k (q.run m).1).run (q.run m).2 := rfl
  rw [hrun, ha]
  exact hk _ hm'

theorem map {q : View α t β} {a : β} (h : AnswersUnder I q a) (f : β → γ) :
    AnswersUnder I (f <$> q) (f a) := by
  rw [map_eq_pure_bind]
  exact bind h (pure _)

/-- Questions along a list are answered by folding over the answers. -/
theorem foldlM {σ : Type} {step : σ → β → View α t σ} {f : σ → β → σ} (xs : List β) (init : σ)
    (h : ∀ acc, ∀ x ∈ xs, AnswersUnder I (step acc x) (f acc x)) :
    AnswersUnder I (xs.foldlM step init) (xs.foldl f init) := by
  induction xs generalizing init with
  | nil => exact pure init
  | cons x xs ih =>
    rw [List.foldlM_cons, List.foldl_cons]
    refine bind (h init x List.mem_cons_self) (ih _ fun acc y hy => ?_)
    exact h acc y (List.mem_cons_of_mem _ hy)

theorem mapM {step : β → View α t γ} {f : β → γ} (xs : List β)
    (h : ∀ x ∈ xs, AnswersUnder I (step x) (f x)) : AnswersUnder I (xs.mapM step) (xs.map f) := by
  induction xs with
  | nil => exact pure []
  | cons x xs ih =>
    rw [List.mapM_cons, List.map_cons]
    refine bind (h x List.mem_cons_self) (bind (ih fun y hy => h y (List.mem_cons_of_mem _ hy)) ?_)
    exact pure _

/-- A remembered answer is right, and so is one that is worked out and written down. -/
theorem remember {size : Nat} {table : Table α t size β} (values : Fin size → β) {i : Fin size}
    {q : View α t β} (hread : ∀ m, I m → table.Agrees values m)
    (hwrite : ∀ m, I m → I (table.modify m (·.set i (some (values i)) i.2)))
    (hq : AnswersUnder I q (values i)) : AnswersUnder I (View.remember table i q) (values i) := by
  intro m hm
  cases hi : (table.read m).get i with
  | some known =>
    rw [View.run_remember_of_eq_some hi]
    exact ⟨hread m hm i known hi, hm⟩
  | none =>
    obtain ⟨ha, hm'⟩ := hq m hm
    rw [View.run_remember_of_eq_none hi, ha]
    exact ⟨rfl, hwrite _ hm'⟩

end AnswersUnder

end View

variable [Scalar α]

/-- All that a memo remembers is as the rules say. -/
structure Memo.Agrees (l : Layout α t) (m : Memo α t) : Prop where
  labels : View.labels.Agrees l.labelSize m
  blocks : View.blocks.Agrees l.childrenBlock m
  widths : View.widths.Agrees l.renderedWidth m
  displayed : View.displayed.Agrees l.isDisplayed m
  texts : View.texts.Agrees l.textSize m
  inputs : View.inputs.Agrees l.inputSize m
  pieces : View.pieces.Agrees l.pieceWidth m

/-- A memo in which nothing is put down agrees with every layout. -/
theorem Memo.Agrees.blank (l : Layout α t) : (Memo.blank α t).Agrees l := by
  constructor <;> exact .of_replicate rfl

namespace View

/-- A property of memos that agree with the rules.  It is kept when a label or a text is asked for and
when a size that has been worked out is written down; so every question keeps it. -/
structure Kept (l : Layout α t) (I : Memo α t → Prop) : Prop where
  agrees : ∀ m, I m → Memo.Agrees l m
  labelSize : ∀ b, AnswersUnder I (labelSize l b) (l.labelSize b)
  textSize : ∀ p, AnswersUnder I (textSize l p) (l.textSize p)
  blocks : ∀ m (b : t.Box), I m → I (blocks.modify m (·.set b (some (l.childrenBlock b)) b.2))
  widths : ∀ m (b : t.Box), I m → I (widths.modify m (·.set b (some (l.renderedWidth b)) b.2))
  displayed : ∀ m (b : t.Box), I m → I (displayed.modify m (·.set b (some (l.isDisplayed b)) b.2))
  inputs : ∀ m (p : t.Piece), I m → I (inputs.modify m (·.set p (some (l.inputSize p)) p.2))
  pieces : ∀ m (p : t.Piece), I m → I (pieces.modify m (·.set p (some (l.pieceWidth p)) p.2))

namespace Kept

variable {l : Layout α t} {I : Memo α t → Prop} (hI : Kept l I)

include hI

/-! ## Boxes -/

/-- The block of children is answered right if the sizes of all children are. -/
theorem childrenBlock_of_kids (b : t.Box)
    (hw : ∀ c, t.boxes.HasChild b c → AnswersUnder I (renderedWidth l c) (l.renderedWidth c))
    (hh : ∀ c, t.boxes.HasChild b c → AnswersUnder I (renderedHeight l c) (l.renderedHeight c)) :
    AnswersUnder I (View.childrenBlock l b) (l.childrenBlock b) := by
  rw [View.childrenBlock]
  split
  · next hidden =>
    have heq : l.childrenBlock b = 0 := by rw [Layout.childrenBlock, if_pos hidden]
    rw [heq]
    exact .pure 0
  · next hidden =>
    refine .remember l.childrenBlock (fun m hm => (hI.agrees m hm).blocks)
      (fun m hm => hI.blocks m b hm) ?_
    rw [Layout.childrenBlock, if_neg hidden]
    refine .foldlM _ _ fun block c hc => ?_
    have hchild := Forest.hasChild_of_mem_kids hc
    exact .bind (hw c.1 hchild) (.bind (hh c.1 hchild) (.pure _))

/-- The width of a box is answered right if its block of children is. -/
theorem renderedWidth_of_block (b : t.Box)
    (hblock : AnswersUnder I (View.childrenBlock l b) (l.childrenBlock b)) :
    AnswersUnder I (View.renderedWidth l b) (l.renderedWidth b) := by
  rw [View.renderedWidth]
  refine .remember l.renderedWidth (fun m hm => (hI.agrees m hm).widths)
    (fun m hm => hI.widths m b hm) ?_
  rw [Layout.renderedWidth_eq]
  cases l.explicitWidth b with
  | some w => exact .bind (.pure w) (.pure _)
  | none =>
    refine .bind (hI.labelSize b) ?_
    by_cases hidden : l.hidden b = true
    · simp only [hidden, ↓reduceIte]
      exact .bind (.pure _) (.pure _)
    · simp only [hidden]
      exact .bind hblock (.bind (.pure _) (.pure _))

omit hI in
theorem childrenHeight_of_block (b : t.Box)
    (hblock : AnswersUnder I (View.childrenBlock l b) (l.childrenBlock b)) :
    AnswersUnder I (View.childrenHeight l b) (l.childrenHeight b) := by
  rw [View.childrenHeight, Layout.childrenHeight]
  split
  · exact .pure 0
  · cases l.pinnedHeight b with
    | some h => exact .pure h
    | none => exact .bind hblock (.pure _)

/-- Width and height of a box ask those of its children and nothing of boxes further up. -/
theorem rendered (b : t.Box) :
    AnswersUnder I (View.renderedWidth l b) (l.renderedWidth b) ∧
      AnswersUnder I (View.renderedHeight l b) (l.renderedHeight b) := by
  induction b using Forest.kids_induction with
  | h b ih =>
    have hblock := hI.childrenBlock_of_kids b (fun c hc => (ih c hc).1) fun c hc => (ih c hc).2
    refine ⟨hI.renderedWidth_of_block b hblock, ?_⟩
    rw [View.renderedHeight, Layout.renderedHeight]
    exact .bind (hI.labelSize b) (.bind (childrenHeight_of_block b hblock) (.pure _))

theorem childrenBlock (b : t.Box) : AnswersUnder I (View.childrenBlock l b) (l.childrenBlock b) :=
  hI.childrenBlock_of_kids b (fun c _ => (hI.rendered c).1) fun c _ => (hI.rendered c).2

theorem childrenHeight (b : t.Box) :
    AnswersUnder I (View.childrenHeight l b) (l.childrenHeight b) :=
  childrenHeight_of_block b (hI.childrenBlock b)

/-- Whether a box is displayed is answered right, all the way up to the top. -/
theorem isDisplayed (b : t.Box) : AnswersUnder I (View.isDisplayed l b) (l.isDisplayed b) := by
  fun_induction Forest.ancestors t.boxes b with
  | case1 b hp =>
    rw [View.isDisplayed]
    refine .remember l.isDisplayed (fun m hm => (hI.agrees m hm).displayed)
      (fun m hm => hI.displayed m b hm) ?_
    rw [Layout.isDisplayed, hp]
    exact .pure _
  | case2 b a hlt hp ih =>
    rw [View.isDisplayed]
    refine .remember l.isDisplayed (fun m hm => (hI.agrees m hm).displayed)
      (fun m hm => hI.displayed m b hm) ?_
    rw [Layout.isDisplayed, hp]
    by_cases hidden : l.hidden a = true
    · simp only [hidden, ↓reduceIte, Bool.not_true, Bool.false_and]
      exact .pure false
    · rw [Bool.not_eq_true] at hidden
      simp only [hidden, Bool.false_eq_true, ↓reduceIte, Bool.not_false, Bool.true_and]
      exact ih

theorem displayedWidth (b : t.Box) :
    AnswersUnder I (View.displayedWidth l b) (l.displayedWidth b) := by
  unfold View.displayedWidth Layout.displayedWidth
  refine .bind (hI.isDisplayed b) ?_
  split
  · exact (hI.rendered b).1
  · exact .pure 0

/-! ## Ribbon -/

/-- The size of a whole text is answered right, though it is put together piece by piece. -/
theorem inputSize (p : t.Piece) : AnswersUnder I (View.inputSize l p) (l.inputSize p) := by
  induction p using Forest.kids_induction with
  | h p ih =>
    rw [View.inputSize]
    refine .remember l.inputSize (fun m hm => (hI.agrees m hm).inputs)
      (fun m hm => hI.inputs m p hm) ?_
    rw [Layout.inputSize]
    refine .bind (hI.textSize p) (.foldlM _ _ fun size c hc => ?_)
    exact .bind (ih c.1 (Forest.hasChild_of_mem_kids hc)) (.pure _)

theorem pieceWidth (p : t.Piece) : AnswersUnder I (View.pieceWidth l p) (l.pieceWidth p) := by
  induction p using Forest.kids_induction with
  | h p ih =>
    rw [View.pieceWidth]
    refine .remember l.pieceWidth (fun m hm => (hI.agrees m hm).pieces)
      (fun m hm => hI.pieces m p hm) ?_
    rw [Layout.pieceWidth]
    refine .bind (hI.textSize p) (.bind (.mapM _ fun c hc => ?_) (.pure _))
    exact ih c.1 (Forest.hasChild_of_mem_kids hc)

end Kept

/-! ## Answers by the rules -/

/-- A question that is answered by the rules, whatever has been asked before. -/
def Answers {β : Type} (l : Layout α t) (question : View α t β) (answer : β) : Prop :=
  ∀ m : Memo α t, m.Agrees l →
    (question.run m).1 = answer ∧ Memo.Agrees l (question.run m).2

namespace Answers

variable {β γ : Type} {l : Layout α t}

theorem pure (a : β) : Answers l (Pure.pure a) a := AnswersUnder.pure a

theorem bind {q : View α t β} {a : β} {k : β → View α t γ} {b : γ} (hq : Answers l q a)
    (hk : Answers l (k a) b) : Answers l (q >>= k) b := AnswersUnder.bind hq hk

theorem foldlM {σ : Type} {step : σ → β → View α t σ} {f : σ → β → σ} (xs : List β) (init : σ)
    (h : ∀ acc, ∀ x ∈ xs, Answers l (step acc x) (f acc x)) :
    Answers l (xs.foldlM step init) (xs.foldl f init) := AnswersUnder.foldlM xs init h

theorem mapM {step : β → View α t γ} {f : β → γ} (xs : List β)
    (h : ∀ x ∈ xs, Answers l (step x) (f x)) : Answers l (xs.mapM step) (xs.map f) :=
  AnswersUnder.mapM xs h

theorem fresh {q : View α t β} {a : β} (h : Answers l q a) : q.fresh = a := (h _ (.blank l)).1

end Answers

variable (l : Layout α t)

theorem ask_answers (subject : Subject) (text : String) (role : TextRole) :
    Answers l (ask l subject text role) (l.measure text role) :=
  fun _ hm => ⟨rfl, ⟨hm.labels, hm.blocks, hm.widths, hm.displayed, hm.texts, hm.inputs, hm.pieces⟩⟩

theorem labelSize_answers (b : t.Box) : Answers l (labelSize l b) (l.labelSize b) :=
  AnswersUnder.remember l.labelSize (fun _ hm => hm.labels)
    (fun _ hm => { hm with labels := hm.labels.set b rfl })
    (ask_answers l _ _ _)

theorem textSize_answers (p : t.Piece) : Answers l (textSize l p) (l.textSize p) :=
  AnswersUnder.remember l.textSize (fun _ hm => hm.texts)
    (fun _ hm => { hm with texts := hm.texts.set p rfl })
    (ask_answers l _ _ _)

/-- To agree with a layout is a property that single requests and single entries keep. -/
theorem kept_agrees : Kept l (Memo.Agrees l) where
  agrees _ hm := hm
  labelSize := labelSize_answers l
  textSize := textSize_answers l
  blocks _ b hm := { hm with blocks := hm.blocks.set b rfl }
  widths _ b hm := { hm with widths := hm.widths.set b rfl }
  displayed _ b hm := { hm with displayed := hm.displayed.set b rfl }
  inputs _ p hm := { hm with inputs := hm.inputs.set p rfl }
  pieces _ p hm := { hm with pieces := hm.pieces.set p rfl }

theorem childrenBlock_answers (b : t.Box) : Answers l (childrenBlock l b) (l.childrenBlock b) :=
  (kept_agrees l).childrenBlock b

/-- A box is as wide and as high as the rules say, whatever has been asked before. -/
theorem rendered_answers (b : t.Box) :
    Answers l (renderedWidth l b) (l.renderedWidth b) ∧
      Answers l (renderedHeight l b) (l.renderedHeight b) :=
  (kept_agrees l).rendered b

theorem renderedWidth_answers (b : t.Box) : Answers l (renderedWidth l b) (l.renderedWidth b) :=
  (rendered_answers l b).1

theorem childrenHeight_answers (b : t.Box) : Answers l (childrenHeight l b) (l.childrenHeight b) :=
  (kept_agrees l).childrenHeight b

theorem isDisplayed_answers (b : t.Box) : Answers l (isDisplayed l b) (l.isDisplayed b) :=
  (kept_agrees l).isDisplayed b

theorem displayedWidth_answers (b : t.Box) :
    Answers l (displayedWidth l b) (l.displayedWidth b) :=
  (kept_agrees l).displayedWidth b

theorem inputSize_answers (p : t.Piece) : Answers l (inputSize l p) (l.inputSize p) :=
  (kept_agrees l).inputSize p

theorem pieceWidth_answers (p : t.Piece) : Answers l (pieceWidth l p) (l.pieceWidth p) :=
  (kept_agrees l).pieceWidth p

end View

end ParseBoxes
