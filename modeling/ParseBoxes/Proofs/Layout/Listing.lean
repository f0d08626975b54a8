import Mathlib.Data.List.Sort
import ParseBoxes.Proofs.Layout.Placing

/-!
# What a frame lists

A frame lists the displayed boxes and all fragments in the order of their numbers
(`Layout.map_fst_placedBoxes`, `Layout.map_fst_placedPieces`), and the cursor meets each of them at
a depth which is the number of nodes that it lies in (`Flow.Meets.depth_eq`).  As no node is met
twice, what a frame tells of its nodes is a table (`Flow.exists_table`).
-/

namespace ParseBoxes

namespace Forest

variable {ν π β γ : Type} {f : Forest ν}

theorem Linked.ancestors_of_hasChild (hf : f.Linked) {p c : Fin f.size} (h : f.HasChild p c) :
    f.ancestors c = p :: f.ancestors p := by
  have hparent := hf.parent?_iff.2 h
  rw [ancestors]
  cases hc : f.parent? c with
  | none =>
    rw [hc] at hparent
    cases hparent
  | some q =>
    rw [hc] at hparent
    cases Option.some.inj hparent
    rfl

theorem Preordered.ancestors_of_mem_tops (hf : f.Preordered) {i : Fin f.size} (h : i ∈ f.tops) :
    f.ancestors i = [] := by
  rw [ancestors, hf.parent?_of_mem_tops h]

namespace Flow

/-- What the cursor keeps at a row it keeps up to each member. -/
theorem of_mem_spread {P : π → Prop} {behind : β → π → π} (hkeep : ∀ c q, P q → P (behind c q))
    {q : π} (hq : P q) {cs : List β} {e : β × π} (he : e ∈ spread behind q cs) : P e.2 := by
  induction cs generalizing q with
  | nil => cases he
  | cons c cs ih =>
    rcases List.mem_cons.1 he with rfl | he
    · exact hq
    · exact ih (hkeep c q hq) he

theorem map_fst_spread (behind : β → π → π) (q : π) (cs : List β) :
    (spread behind q cs).map (·.1) = cs := by
  induction cs generalizing q with
  | nil => rfl
  | cons c cs ih => rw [spread, List.map_cons, ih]

/-- A node is met at a depth that is the number of nodes it lies in. -/
theorem Meets.depth_eq {F : f.Flow π} (depth : π → Nat) (hl : f.Linked) (hf : f.Preordered)
    (hbehind : ∀ c q, depth (F.behind c q) = depth q)
    (hinside : ∀ c q q', F.inside c q = some q' → depth q' = depth q + 1) {q : π}
    (hq : depth q = 0) {e : Fin f.size × π} (he : F.Meets q f.tops e) :
    depth e.2 = (f.ancestors e.1).length := by
  have hkeep : ∀ n c q, depth q = n → depth (F.behind c q) = n := fun n c q h =>
    (hbehind c q).trans h
  induction he with
  | start he =>
    rw [hf.ancestors_of_mem_tops (mem_of_mem_spread he)]
    exact of_mem_spread (hkeep 0) hq he
  | @down e d q' _ hopen hd ih =>
    rw [hl.ancestors_of_hasChild (mem_of_mem_spread hd), List.length_cons, ← ih]
    exact of_mem_spread (hkeep _) (hinside _ _ _ hopen) hd

/-- What a row of members tells is known from a table that tells it of each of them. -/
theorem map_spread {behind : β → π → π} {q : π} {cs : List β} {g : β × π → γ} {table : β → γ}
    (h : ∀ e ∈ spread behind q cs, g e = table e.1) :
    (spread behind q cs).map g = cs.map table := by
  have hmap : (spread behind q cs).map g = (spread behind q cs).map (table ∘ Prod.fst) :=
    List.map_congr_left h
  rw [hmap, ← List.map_map, map_fst_spread]

/-- What a list in which no node comes twice tells of its nodes can be put down in a table. -/
theorem exists_table {n : Nat} (g : Fin n × π → γ) (other : γ) {l : List (Fin n × π)}
    (h : (l.map (·.1)).Nodup) : ∃ table : Fin n → γ, ∀ e ∈ l, g e = table e.1 := by
  induction l with
  | nil => exact ⟨fun _ => other, fun e he => absurd he List.not_mem_nil⟩
  | cons d l ih =>
    obtain ⟨hd, hl⟩ := List.nodup_cons.1 h
    obtain ⟨table, htable⟩ := ih hl
    refine ⟨fun i => if i = d.1 then g d else table i, fun e he => ?_⟩
    rcases List.mem_cons.1 he with rfl | he
    · exact (if_pos rfl).symm
    · have hne : e.1 ≠ d.1 := fun heq => hd (List.mem_map.2 ⟨e, he, heq⟩)
      exact (htable e he).trans (if_neg hne).symm

end Flow

end Forest

variable {α : Type} [Scalar α] {t : BoxTree}

namespace Layout

/-! ## Fragments -/

section

variable (l : Layout α t)

theorem map_fst_placedPieces (hf : t.fragments.Preordered) :
    l.placedPieces.map (·.1) = t.fragments.nodes := by
  refine List.Pairwise.eq_of_mem_iff (List.pairwise_map.2 (l.pairwise_placedPieces_lt hf))
    (List.pairwise_lt_finRange _) fun p => ?_
  obtain ⟨q, hq⟩ := l.exists_mem_placedPieces hf p
  exact ⟨fun _ => List.mem_finRange p, fun _ => List.mem_map_of_mem hq⟩

theorem depth_of_mem_placedPieces (hl : t.fragments.Linked) (hf : t.fragments.Preordered)
    {e : t.Piece × α × Nat} (he : e ∈ l.placedPieces) :
    e.2.2 = (t.fragments.ancestors e.1).length := by
  have hmeets := Forest.Flow.mem_row_iff_meets.1 he
  refine hmeets.depth_eq (fun q => q.2) hl hf (fun _ _ => rfl) (fun c q q' h => ?_) rfl
  cases h
  rfl

end

/-! ## Boxes -/

section

variable {measure : Measurer α} {p : Pins α t}

omit [Scalar α] in
/-- A box is displayed if no box above it hides its children. -/
theorem isDisplayed_iff (hl : t.boxes.Linked) (hf : t.boxes.Preordered) (b : t.Box) :
    (p.layout measure).isDisplayed b = true ↔
      ∀ a ∈ t.boxes.ancestors b, (p.box a).hidden = false := by
  fun_induction Forest.ancestors t.boxes b with
  | case1 b hparent =>
    rw [isDisplayed, hparent]
    simp [hf.isLoose_eq_false hl b]
  | case2 b a hlt hparent ih =>
    have hchild : t.boxes.HasChild a b := hl.parent?_iff.1 (by rw [hparent]; rfl)
    rw [isDisplayed_child_iff hl hchild, ih, List.forall_mem_cons]

/-- The displayed boxes, in the order of their numbers. -/
def shownBoxes (l : Layout α t) : List t.Box := t.boxes.nodes.filter l.isDisplayed

theorem map_fst_placedBoxes (hl : t.boxes.Linked) (hf : t.boxes.Preordered) :
    (p.layout measure).placedBoxes.map (·.1) = (p.layout measure).shownBoxes := by
  refine List.Pairwise.eq_of_mem_iff
    (List.pairwise_map.2 ((p.layout measure).pairwise_placedBoxes_lt hf))
    ((List.pairwise_lt_finRange _).filter _) fun b => ?_
  rw [shownBoxes, List.mem_filter, ← mem_placedBoxes_iff hl hf]
  simp [Forest.nodes]

theorem depth_of_mem_placedBoxes (hl : t.boxes.Linked) (hf : t.boxes.Preordered)
    {e : t.Box × α × α × Nat} (he : e ∈ (p.layout measure).placedBoxes) :
    e.2.2.2 = (t.boxes.ancestors e.1).length := by
  have hmeets := Forest.Flow.mem_row_iff_meets.1 he
  refine hmeets.depth_eq (fun q => q.2.2) hl hf (fun _ _ => rfl) (fun c q q' h => ?_) rfl
  rw [(eq_of_inside_eq_some h).2]

end

end Layout

end ParseBoxes
