import Mathlib.Data.List.Nodup
import ParseBoxes.Proofs.Tree.Built
import ParseBoxes.Proofs.Tree.Declared

/-!
# How boxes and fragments nest

Both forests of a built tree are numbered in pre-order: all that lies in a node comes before what
stands behind the node (`Forest.Preordered`).  Boxes and fragments nest alike although they are two
forests of different shape: the fragment of a box lies in that of the box around it, and the
fragments of boxes that stand side by side lie apart, in the order of the boxes
(`BoxTree.Nested`).
-/

namespace ParseBoxes

namespace Forest

variable {ν : Type}

/-- All that lies in a node comes before another node. -/
def Ahead (f : Forest ν) (i j : Fin f.size) : Prop := ∀ k, k = i ∨ f.Below i k → k < j

/-- Nodes that stand side by side are in a relation, each with those behind it. -/
structure Siblings (f : Forest ν) (R : Fin f.size → Fin f.size → Prop) : Prop where
  kids : ∀ p, ((f.kids p).map (·.1)).Pairwise R
  tops : f.tops.Pairwise R

/-- Every node hangs somewhere, and what lies in a node comes before what stands behind it. -/
structure Preordered (f : Forest ν) : Prop where
  rooted : ∀ i, i ∈ f.tops ∨ ∃ p, f.HasChild p i
  placed : ∀ i ∈ f.tops, (f.entry i).place = .top
  siblings : f.Siblings f.Ahead

namespace Preordered

variable {f : Forest ν} {i : Fin f.size}

theorem parent?_of_mem_tops (hf : f.Preordered) (h : i ∈ f.tops) : f.parent? i = none := by
  have hplace := hf.placed i h
  unfold parent?
  split
  · next heq =>
    rw [hplace] at heq
    cases heq
  · rfl
  · rfl

theorem isLoose_eq_false (hf : f.Preordered) (hl : f.Linked) (i : Fin f.size) :
    f.isLoose i = false := by
  rcases hf.rooted i with htop | ⟨p, hp⟩
  · simp [isLoose, hf.placed i htop]
  · rw [hasChild_iff, ← hl.under_iff] at hp
    simp [isLoose, hp]

/-- What holds of the nodes at the top, and of the children of each node of which it holds, holds of
all nodes. -/
theorem down_induction (hf : f.Preordered) {P : Fin f.size → Prop} (top : ∀ i ∈ f.tops, P i)
    (child : ∀ p c, f.HasChild p c → P p → P c) (i : Fin f.size) : P i := by
  induction hi : i.1 using Nat.strongRecOn generalizing i with
  | ind n ih =>
    rcases hf.rooted i with htop | ⟨p, hp⟩
    · exact top i htop
    · exact child p i hp (ih p.1 (hi ▸ hp.lt) p rfl)

/-- Every node lies in one of the top row. -/
theorem exists_top (hf : f.Preordered) (i : Fin f.size) :
    ∃ r ∈ f.tops, i = r ∨ f.Below r i := by
  induction i using hf.down_induction with
  | top i htop => exact ⟨i, htop, .inl rfl⟩
  | child p c hc ih =>
    obtain ⟨r, hr, hin⟩ := ih
    refine ⟨r, hr, .inr ?_⟩
    rcases hin with rfl | hbelow
    · exact .single hc
    · exact .tail hbelow hc

end Preordered

end Forest

namespace Attempt

open Forest

/-! ## Attempts in pre-order -/

variable {l m : List Attempt} {a b c : Attempt}

theorem injOn_spot (hm : m.Pairwise Before) (ha : a ∈ m) (hb : b ∈ m) (h : a.spot = b.spot) :
    a = b := by
  have hnodup : (m.map spot).Nodup := List.pairwise_map.2 (hm.imp Before.spot_ne)
  exact List.inj_on_of_nodup_map hnodup ha hb h

theorem getElem?_index (hm : m.Pairwise Before) (ha : a ∈ m) : m[index m a]? = some a := by
  have hlt : m.findIdx (·.spot = a.spot) < m.length :=
    List.findIdx_lt_length_of_exists ⟨a, ha, by simp⟩
  have hspot : m[m.findIdx (·.spot = a.spot)].spot = a.spot :=
    of_decide_eq_true (List.findIdx_getElem (w := hlt))
  rw [index, List.getElem?_eq_getElem hlt, injOn_spot hm (List.getElem_mem hlt) ha hspot]

theorem index_eq_iff (hm : m.Pairwise Before) (ha : a ∈ m) {i : Nat} :
    index m a = i ↔ m[i]? = some a := by
  constructor
  · rintro rfl
    exact getElem?_index hm ha
  · intro hi
    have hnodup : m.Nodup := hm.imp fun h heq => h.spot_ne (congrArg spot heq)
    exact eq_of_getElem? hnodup (getElem?_index hm ha) hi

theorem before_of_lt (hm : m.Pairwise Before) {i j : Nat} (hi : m[i]? = some a)
    (hj : m[j]? = some b) (hlt : i < j) : a.Before b := by
  obtain ⟨hi, rfl⟩ := List.getElem?_eq_some_iff.1 hi
  obtain ⟨hj, rfl⟩ := List.getElem?_eq_some_iff.1 hj
  exact List.pairwise_iff_getElem.1 hm i j _ _ hlt

theorem lt_of_before (hm : m.Pairwise Before) {i j : Nat} (hi : m[i]? = some a)
    (hj : m[j]? = some b) (h : a.Before b) : i < j := by
  rcases Nat.lt_trichotomy i j with hlt | rfl | hgt
  · exact hlt
  · cases hi.symm.trans hj
    exact absurd rfl h.spot_ne
  · exact absurd (before_of_lt hm hj hi hgt) h.asymm

/-- What lies between a spot and one in it lies in it too. -/
theorem prefix_of_between {A B C : List Nat} (hAB : A < B) (hBC : B < A ++ C) : A <+: B := by
  induction A generalizing B with
  | nil => exact List.nil_prefix
  | cons a A ih =>
    cases B with
    | nil => exact absurd hAB (List.not_lt_nil _)
    | cons b B =>
      rw [List.cons_append] at hBC
      rcases List.cons_lt_cons_iff.1 hAB with hab | ⟨rfl, hAB'⟩ <;>
        rcases List.cons_lt_cons_iff.1 hBC with hba | ⟨heq, hBC'⟩
      · omega
      · omega
      · omega
      · exact List.cons_prefix_cons.2 ⟨rfl, ih hAB' hBC'⟩

theorem exists_mem_ofLine {line : List (Nat × TraceNode)} {s : List Nat}
    (hs : s <:+ line.map (·.1)) (hne : s ≠ []) : ∃ a ∈ ofLine line, a.spot = s := by
  induction line with
  | nil => exact absurd (List.suffix_nil.1 hs) hne
  | cons e above ih =>
    rw [List.map_cons, List.suffix_cons_iff] at hs
    rcases hs with rfl | hs
    · exact ⟨_, List.mem_cons_self, rfl⟩
    · obtain ⟨a, ha, hspot⟩ := ih hs
      exact ⟨a, List.mem_cons_of_mem _ ha, hspot⟩

/-- What comes between an attempt and something that lies in it lies in it as well. -/
theorem InOrder.mem_ancestors_of_between (hl : InOrder l) (ha : a ∈ l) (hb : b ∈ l)
    (hab : a.Before b) (hbc : b.Before c) (hac : a ∈ c.ancestors) : a ∈ b.ancestors := by
  obtain ⟨r, hr⟩ : a.spot.reverse <+: c.spot.reverse :=
    List.reverse_prefix.2 (((mem_ancestors.1 hac).trans (List.suffix_cons _ _)).map _)
  have hprefix : a.spot.reverse <+: b.spot.reverse := by
    refine prefix_of_between hab (C := r) ?_
    rw [hr]
    exact hbc
  have hsuffix : a.spot <:+ b.place :: b.above.map (·.1) := List.reverse_prefix.1 hprefix
  rcases List.suffix_cons_iff.1 hsuffix with heq | hsuffix
  · exact absurd heq hab.spot_ne
  · obtain ⟨x, hx, hspot⟩ := exists_mem_ofLine hsuffix (List.cons_ne_nil _ _)
    rwa [← injOn_spot hl.sorted (hl.closed b hb x hx) ha hspot]

/-- The ancestors are the parent and its ancestors. -/
theorem mem_ancestors_iff_parent? :
    b ∈ a.ancestors ↔ ∃ p, a.parent? = some p ∧ (b = p ∨ b ∈ p.ancestors) := by
  unfold parent? ancestors
  cases a.above with
  | nil => simp [ofLine]
  | cons e above => simp [ofLine]

/-- Of the attempts with a box that an attempt lies in, all but the nearest lie around the
nearest. -/
theorem mem_ancestors_of_boxAbove? (hb : a.boxAbove? = some b) (hc : c ∈ a.ancestors)
    (hbox : c.hasBox = true) : c = b ∨ c ∈ b.ancestors := by
  have key : ∀ line : List (Nat × TraceNode), (ofLine line).find? (·.hasBox) = some b →
      c ∈ ofLine line → c = b ∨ c ∈ b.ancestors := by
    intro line
    induction line with
    | nil => intro h; cases h
    | cons e above ih =>
      intro hfind hmem
      rw [ofLine, List.find?_cons] at hfind
      split at hfind
      · cases hfind
        exact List.mem_cons.1 hmem
      · next hnot =>
        rcases List.mem_cons.1 hmem with rfl | hmem
        · rw [hbox] at hnot
          cases hnot
        · exact ih hfind hmem
  exact key a.above hb hc

/-- No attempt lies in one with a box whose nearest box is its own. -/
theorem not_mem_ancestors_of_boxAbove?_eq (h : a.boxAbove? = b.boxAbove?) (hbox : a.hasBox = true) :
    a ∉ b.ancestors := by
  intro hmem
  obtain ⟨d, hd⟩ : ∃ d, b.boxAbove? = some d := by
    cases hnone : b.boxAbove? with
    | none => exact absurd hbox (List.find?_eq_none.1 hnone a hmem)
    | some d => exact ⟨d, rfl⟩
  have hda : d.Before a := .of_mem_ancestors (mem_of_boxAbove? (h.trans hd)).1
  rcases mem_ancestors_of_boxAbove? hd hmem hbox with rfl | had
  · exact hda.asymm hda
  · exact hda.asymm (.of_mem_ancestors had)

theorem not_mem_ancestors_of_parent?_eq (h : a.parent? = b.parent?) : a ∉ b.ancestors := by
  intro hmem
  obtain ⟨p, hp, hap⟩ := mem_ancestors_iff_parent?.1 hmem
  have hpa : p.Before a := .of_mem_ancestors (mem_of_parent? (h.trans hp))
  rcases hap with rfl | hap
  · exact hpa.asymm hpa
  · exact hpa.asymm (.of_mem_ancestors hap)

/-! ## Forests of attempts -/

/-- Attempts of a list hang under others of the list that they lie in, and those that hang under the
same one do not lie in each other. -/
structure Hangs (l m : List Attempt) (up : Attempt → Option Attempt) : Prop where
  inOrder : InOrder l
  sublist : m.Sublist l
  up_mem : ∀ a ∈ m, ∀ b, up a = some b → b ∈ m
  up_around : ∀ a b, up a = some b → b ∈ a.ancestors
  apart : ∀ a ∈ m, ∀ b, up a = up b → a ∉ b.ancestors

theorem hangs_parent? (hl : InOrder l) : Hangs l l parent? where
  inOrder := hl
  sublist := List.Sublist.refl l
  up_mem a ha _ hb := hl.closed a ha _ (mem_of_parent? hb)
  up_around _ _ h := mem_of_parent? h
  apart _ _ _ h := not_mem_ancestors_of_parent?_eq h

theorem hangs_boxAbove? (hl : InOrder l) : Hangs l (boxed l) boxAbove? where
  inOrder := hl
  sublist := List.filter_sublist
  up_mem a ha _ hb := mem_boxed_of_boxAbove? (hl.closed a (mem_boxed.1 ha).1) hb
  up_around _ _ h := (mem_of_boxAbove? h).1
  apart _ ha _ h := not_mem_ancestors_of_boxAbove?_eq h (mem_boxed.1 ha).2

section

variable {ν : Type} {value : Attempt → ν} {up : Attempt → Option Attempt}

/-- The attempt that a node stands for. -/
def who (i : Fin (ofRow (row value up m)).size) : Attempt :=
  m.get ⟨i.1, by simpa [row] using i.2⟩

variable {i j : Fin (ofRow (row value up m)).size}

theorem getElem?_who (i : Fin (ofRow (row value up m)).size) : m[i.1]? = some (who i) :=
  List.getElem?_eq_getElem _

/-- A node of a row holds the value of its attempt and hangs under the one above. -/
theorem getElem?_row (i : Fin (ofRow (row value up m)).size) :
    (row value up m)[i.1]? = some (value (who i), (up (who i)).map (index m)) := by
  show (m.map fun a => (value a, (up a).map (index m)))[i.1]? = _
  rw [List.getElem?_map, getElem?_who]
  rfl

theorem who_mem (i : Fin (ofRow (row value up m)).size) : who i ∈ m := List.getElem_mem _

namespace Hangs

theorem sorted (h : Hangs l m up) : m.Pairwise Before := h.inOrder.sorted.sublist h.sublist

theorem exists_who (h : Hangs l m up) (value : Attempt → ν) (ha : a ∈ m) :
    ∃ i : Fin (ofRow (row value up m)).size, who i = a := by
  obtain ⟨hlt, hget⟩ := List.getElem?_eq_some_iff.1 (getElem?_index h.sorted ha)
  exact ⟨⟨index m a, by simpa [row] using hlt⟩, hget⟩

theorem who_injective (h : Hangs l m up) (heq : who i = who j) : i = j := by
  have hi := (index_eq_iff h.sorted (who_mem i)).2 (getElem?_who i)
  have hj := (index_eq_iff h.sorted (who_mem j)).2 (getElem?_who j)
  exact Fin.ext (hi.symm.trans (by rw [heq, hj]))

theorem lt_iff (h : Hangs l m up) : i < j ↔ (who i).Before (who j) :=
  ⟨before_of_lt h.sorted (getElem?_who i) (getElem?_who j),
    lt_of_before h.sorted (getElem?_who i) (getElem?_who j)⟩

/-- Parent and child are the nodes of an attempt and of the one above it. -/
theorem hasChild_iff (h : Hangs l m up) :
    (ofRow (row value up m)).HasChild i j ↔ up (who j) = some (who i) := by
  rw [hasChild_ofRow, getElem?_row]
  simp only [Option.some.injEq, exists_eq_left', Option.map_eq_some_iff]
  constructor
  · rintro ⟨⟨b, hb, hindex⟩, -⟩
    rw [index_eq_iff h.sorted (h.up_mem _ (who_mem j) b hb), getElem?_who] at hindex
    rw [hb, Option.some.inj hindex]
  · intro hup
    refine ⟨⟨who i, hup, (index_eq_iff h.sorted (who_mem i)).2 (getElem?_who i)⟩, ?_⟩
    exact h.lt_iff.2 (.of_mem_ancestors (h.up_around _ _ hup))

theorem mem_tops_iff (h : Hangs l m up) :
    j ∈ (ofRow (row value up m)).tops ↔ up (who j) = none := by
  rw [mem_tops_ofRow, getElem?_row]
  simp only [Option.some.injEq, exists_eq_left', Option.map_eq_some_iff]
  constructor
  · intro htop
    cases hup : up (who j) with
    | none => rfl
    | some b =>
      obtain ⟨i, rfl⟩ := h.exists_who value (h.up_mem _ (who_mem j) b hup)
      have hle := htop i ⟨_, hup, (index_eq_iff h.sorted (who_mem i)).2 (getElem?_who i)⟩
      have hlt : i < j := h.lt_iff.2 (.of_mem_ancestors (h.up_around _ _ hup))
      exact absurd hlt (Nat.not_lt_of_le hle)
  · rintro hup p ⟨b, hb, -⟩
    rw [hup] at hb
    cases hb

/-- What lies below a node is the node of an attempt in that of the other. -/
theorem mem_ancestors_of_below (h : Hangs l m up)
    (hbelow : (ofRow (row value up m)).Below i j) : who i ∈ (who j).ancestors := by
  induction hbelow with
  | single hchild => exact h.up_around _ _ (h.hasChild_iff.1 hchild)
  | tail _ hchild ih => exact mem_ancestors_trans (h.up_around _ _ (h.hasChild_iff.1 hchild)) ih

theorem siblings (h : Hangs l m up)
    {R : Fin (ofRow (row value up m)).size → Fin (ofRow (row value up m)).size → Prop}
    (hR : ∀ i j, i < j → up (who i) = up (who j) → R i j) :
    (ofRow (row value up m)).Siblings R where
  kids p := by
    refine (pairwise_kids_ofRow p).imp_of_mem fun {i j} hi hj hlt => hR i j hlt ?_
    rw [h.hasChild_iff.1 hi, h.hasChild_iff.1 hj]
  tops := by
    refine pairwise_tops_ofRow.imp_of_mem fun {i j} hi hj hlt => hR i j hlt ?_
    rw [h.mem_tops_iff.1 hi, h.mem_tops_iff.1 hj]

/-- A node that does not lie in an earlier one stands behind it. -/
theorem ahead (h : Hangs l m up) (hlt : i < j) (hnot : who i ∉ (who j).ancestors) :
    (ofRow (row value up m)).Ahead i j := by
  rintro k (rfl | hk)
  · exact hlt
  have hmem := h.mem_ancestors_of_below hk
  rcases Nat.lt_trichotomy k.1 j.1 with hkj | heq | hjk
  · exact hkj
  · cases Fin.ext heq
    exact absurd hmem hnot
  · have hi := h.sublist.subset (who_mem i)
    have hj := h.sublist.subset (who_mem j)
    exact absurd (h.inOrder.mem_ancestors_of_between hi hj (h.lt_iff.1 hlt) (h.lt_iff.1 hjk) hmem)
      hnot

theorem preordered (h : Hangs l m up) : (ofRow (row value up m)).Preordered where
  rooted i := by
    cases hup : up (who i) with
    | none => exact .inl (h.mem_tops_iff.2 hup)
    | some b =>
      obtain ⟨p, rfl⟩ := h.exists_who value (h.up_mem _ (who_mem i) b hup)
      exact .inr ⟨p, h.hasChild_iff.2 hup⟩
  placed i hi := by
    rw [entry_ofRow (getElem?_row i), h.mem_tops_iff.1 hi]
    rfl
  siblings := h.siblings fun i _ hlt hup => h.ahead hlt (h.apart _ (who_mem i) _ hup)

end Hangs

end

end Attempt

/-! ## Built trees -/

namespace BoxTree

open Attempt

/-- Boxes and fragments are numbered in pre-order and nest alike. -/
structure Nested {t : BoxTree} (ht : t.Tidy) : Prop where
  boxes : t.boxes.Preordered
  fragments : t.fragments.Preordered
  input_below : ∀ b c, t.boxes.HasChild b c → t.fragments.Below (ht.input b) (ht.input c)
  siblings : t.boxes.Siblings fun b c => t.fragments.Ahead (ht.input b) (ht.input c)

section

variable {glyph : String} {l : List Attempt} {generation : UInt32}

/-- The attempt that a box stands for. -/
def boxWho (b : (ofAttempts glyph l generation).Box) : Attempt :=
  @who (boxed l) BoxNode (fun a => a.box (index l a)) boxAbove? b

/-- The attempt that a fragment stands for. -/
def pieceWho (p : (ofAttempts glyph l generation).Piece) : Attempt :=
  @who l Fragment (·.fragment glyph) parent? p

theorem box_ofAttempts (b : (ofAttempts glyph l generation).Box) :
    (ofAttempts glyph l generation).box b = (boxWho b).box (index l (boxWho b)) :=
  Forest.get_ofRow (@getElem?_row (boxed l) BoxNode (fun a => a.box (index l a)) boxAbove? b)

theorem piece_ofAttempts (p : (ofAttempts glyph l generation).Piece) :
    (ofAttempts glyph l generation).piece p = (pieceWho p).fragment glyph :=
  Forest.get_ofRow (@getElem?_row l Fragment (·.fragment glyph) parent? p)

theorem boxWho_mem (b : (ofAttempts glyph l generation).Box) :
    boxWho b ∈ l ∧ (boxWho b).hasBox = true :=
  mem_boxed.1 (who_mem b)

theorem pieceWho_mem (p : (ofAttempts glyph l generation).Piece) : pieceWho p ∈ l := who_mem p

/-- A box and its fragment stand for one attempt. -/
theorem pieceWho_input (hl : InOrder l) (ht : (ofAttempts glyph l generation).Tidy)
    (b : (ofAttempts glyph l generation).Box) : pieceWho (ht.input b) = boxWho b := by
  have hinput : (ht.input b).1 = index l (boxWho b) := by
    show ((ofAttempts glyph l generation).box b).input.index = _
    rw [box_ofAttempts]
    rfl
  have hget : l[(ht.input b).1]? = some (boxWho b) :=
    (index_eq_iff hl.sorted (boxWho_mem b).1).1 hinput.symm
  exact Option.some.inj ((getElem?_who (ht.input b)).symm.trans hget)

theorem below_of_mem_ancestors (hl : InOrder l) {i j : (ofAttempts glyph l generation).Piece}
    (h : pieceWho i ∈ (pieceWho j).ancestors) :
    (ofAttempts glyph l generation).fragments.Below i j := by
  have hangs := hangs_parent? hl
  induction hj : j.1 using Nat.strongRecOn generalizing j with
  | ind n ih =>
    obtain ⟨p, hp, hip⟩ := mem_ancestors_iff_parent?.1 h
    obtain ⟨k, rfl⟩ := hangs.exists_who (·.fragment glyph)
      (hl.closed _ (who_mem j) p (mem_of_parent? hp))
    have hchild := hangs.hasChild_iff.2 hp
    rcases hip with heq | hmem
    · rw [hangs.who_injective heq]
      exact .single hchild
    · exact .tail (ih k.1 (hj ▸ hchild.lt) hmem rfl) hchild

/-- The fragments of boxes that do not lie in each other stand in the order of the boxes. -/
theorem input_ahead (hl : InOrder l) (ht : (ofAttempts glyph l generation).Tidy)
    {b c : (ofAttempts glyph l generation).Box} (hlt : b < c)
    (hnot : boxWho b ∉ (boxWho c).ancestors) :
    (ofAttempts glyph l generation).fragments.Ahead (ht.input b) (ht.input c) := by
  have hbefore : (pieceWho (ht.input b)).Before (pieceWho (ht.input c)) := by
    rw [pieceWho_input hl, pieceWho_input hl]
    exact (hangs_boxAbove? hl).lt_iff.1 hlt
  rw [← pieceWho_input hl ht, ← pieceWho_input hl ht] at hnot
  exact (hangs_parent? hl).ahead ((hangs_parent? hl).lt_iff.2 hbefore) hnot

/-- The tree of attempts in pre-order is nested. -/
theorem nested_ofAttempts (hl : InOrder l) (ht : (ofAttempts glyph l generation).Tidy) :
    Nested ht where
  boxes := (hangs_boxAbove? hl).preordered
  fragments := (hangs_parent? hl).preordered
  input_below b c h := by
    refine below_of_mem_ancestors hl ?_
    rw [pieceWho_input hl, pieceWho_input hl]
    exact (mem_of_boxAbove? ((hangs_boxAbove? hl).hasChild_iff.1 h)).1
  siblings := (hangs_boxAbove? hl).siblings fun b c hlt hup =>
    input_ahead hl ht hlt ((hangs_boxAbove? hl).apart _ (who_mem b) _ hup)

end

/-- Boxes and fragments of a built tree nest alike. -/
theorem nested_build (b : TreeBuilder) (trace : List TraceNode) (generation : UInt32)
    (ht : (b.build trace generation).Tidy) : Nested ht := by
  have hbuild := (TreeBuilder.drawn_build b trace generation).eq
  revert ht
  rw [hbuild]
  exact nested_ofAttempts (TreeBuilder.inOrder_survivors trace)

end BoxTree

end ParseBoxes
