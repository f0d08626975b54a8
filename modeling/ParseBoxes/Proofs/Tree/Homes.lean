import Mathlib.Data.List.Sort
import ParseBoxes.Proofs.Tree.Nesting

/-!
# Homes of fragments

The home of a fragment is the nearest box around it (`BoxTree.Homes`).  The boxes in a box are those
that are first met on the ways down into its fragment, in the same order (`Homes.front_kids`): what
lies between is fragments without boxes, and these keep the home.
-/

namespace ParseBoxes

namespace Forest

variable {ν : Type} {f : Forest ν} {mark : Fin f.size → Bool} {i j : Fin f.size}

/-- The marked nodes that are met first on the ways down from a node. -/
def front (f : Forest ν) (mark : Fin f.size → Bool) (i : Fin f.size) : List (Fin f.size) :=
  if mark i then [i] else (f.kids i).flatMap fun ⟨c, _⟩ => front f mark c
termination_by f.size - i

theorem front_of_mark (hi : mark i = true) : f.front mark i = [i] := by
  rw [front, if_pos hi]

theorem front_of_not_mark (hi : mark i = false) :
    f.front mark i = ((f.kids i).map (·.1)).flatMap (f.front mark) := by
  rw [front, if_neg (ne_true_of_eq_false hi), List.flatMap_map]

theorem of_mem_front (hj : j ∈ f.front mark i) : mark j = true ∧ (j = i ∨ f.Below i j) := by
  induction i using Forest.kids_induction with
  | h i ih =>
    cases hi : mark i with
    | true =>
      rw [front_of_mark hi, List.mem_singleton] at hj
      exact ⟨hj ▸ hi, .inl hj⟩
    | false =>
      rw [front_of_not_mark hi, List.mem_flatMap] at hj
      obtain ⟨c, hc, hj⟩ := hj
      obtain ⟨hmark, hin⟩ := ih c hc hj
      exact ⟨hmark, .inr (below_iff_child.2 ⟨c, hc, hin⟩)⟩

/-- The fronts of nodes that stand behind each other stand in the order of the nodes. -/
theorem pairwise_front (hf : f.Preordered) {cs : List (Fin f.size)} (hcs : cs.Pairwise f.Ahead) :
    (cs.flatMap (f.front mark)).Pairwise (· < ·) := by
  have hrow : ∀ cs : List (Fin f.size), cs.Pairwise f.Ahead →
      (∀ c ∈ cs, (f.front mark c).Pairwise (· < ·)) →
      (cs.flatMap (f.front mark)).Pairwise (· < ·) := by
    intro cs hcs hfront
    refine List.pairwise_flatMap.2 ⟨hfront, hcs.imp fun {c d} hcd i hi j hj => ?_⟩
    have hlt := hcd i (of_mem_front hi).2
    rcases (of_mem_front hj).2 with rfl | hdj
    · exact hlt
    · exact Fin.lt_trans hlt hdj.lt
  have hfront : ∀ i, (f.front mark i).Pairwise (· < ·) := by
    intro i
    induction i using Forest.kids_induction with
    | h i ih =>
      cases hi : mark i with
      | true =>
        rw [front_of_mark hi]
        exact List.pairwise_singleton _ _
      | false =>
        rw [front_of_not_mark hi]
        exact hrow _ (hf.siblings.kids i) ih
  exact hrow cs hcs fun c _ => hfront c

end Forest

namespace BoxTree

variable {t : BoxTree} {ht : t.Tidy} {home : t.Piece → Option t.Box}

/-- Is a fragment that of a box? -/
def Tidy.isInput (ht : t.Tidy) (p : t.Piece) : Bool := t.boxes.nodes.any fun b => ht.input b = p

theorem Tidy.isInput_iff {p : t.Piece} : ht.isInput p = true ↔ ∃ b, ht.input b = p := by
  simp [isInput, Forest.nodes]

theorem Tidy.isInput_input (ht : t.Tidy) (b : t.Box) : ht.isInput (ht.input b) = true :=
  isInput_iff.2 ⟨b, rfl⟩

/-- Each fragment has the nearest box around it for its home; a box lies in the home of its
fragment. -/
structure Homes (ht : t.Tidy) (home : t.Piece → Option t.Box) : Prop where
  top : ∀ p ∈ t.fragments.tops, home p = none
  inside : ∀ b p, t.fragments.HasChild (ht.input b) p → home p = some b
  stay : ∀ p c, ht.isInput p = false → t.fragments.HasChild p c → home c = home p
  input_kid : ∀ b c, home (ht.input c) = some b ↔ t.boxes.HasChild b c
  input_top : ∀ c, home (ht.input c) = none ↔ c ∈ t.boxes.tops

namespace Homes

variable (h : Homes ht home) {b c : t.Box} {p q : t.Piece}

include h

theorem exists_of_below (hbelow : t.fragments.Below (ht.input b) p) :
    ∃ c, home p = some c ∧ (c = b ∨ t.fragments.Below (ht.input b) (ht.input c)) := by
  induction hbelow with
  | single hchild => exact ⟨b, h.inside b _ hchild, .inl rfl⟩
  | @tail q p hbelow hchild ih =>
    cases hq : ht.isInput q with
    | true =>
      obtain ⟨c, rfl⟩ := Tidy.isInput_iff.1 hq
      exact ⟨c, h.inside c p hchild, .inr hbelow⟩
    | false =>
      rw [h.stay q p hq hchild]
      exact ih

/-- Boxes lie in each other where their fragments do. -/
theorem below_of_input_below (hbelow : t.fragments.Below (ht.input b) (ht.input c)) :
    t.boxes.Below b c := by
  induction hn : c.1 using Nat.strongRecOn generalizing c with
  | ind n ih =>
    obtain ⟨d, hd, hin⟩ := h.exists_of_below hbelow
    have hchild := (h.input_kid d c).1 hd
    rcases hin with rfl | hin
    · exact .single hchild
    · exact .tail (ih d.1 (hn ▸ hchild.lt) hin rfl) hchild

/-- What lies in a box is not at home where the box is. -/
theorem ne_of_below (hn : Nested ht) (hbelow : t.fragments.Below (ht.input b) p) :
    home p ≠ home (ht.input b) := by
  intro heq
  obtain ⟨c, hc, hin⟩ := h.exists_of_below hbelow
  have hcb := hn.input_below c b ((h.input_kid c b).1 (heq ▸ hc))
  rcases hin with rfl | hin
  · exact Nat.lt_irrefl _ hcb.lt
  · exact Nat.lt_irrefl _ (Nat.lt_trans hcb.lt hin.lt)

theorem home_of_mem_front (hq : q ∈ t.fragments.front ht.isInput p) : home q = home p := by
  induction p using Forest.kids_induction with
  | h p ih =>
    cases hp : ht.isInput p with
    | true =>
      rw [Forest.front_of_mark hp, List.mem_singleton] at hq
      rw [hq]
    | false =>
      rw [Forest.front_of_not_mark hp, List.mem_flatMap] at hq
      obtain ⟨c, hc, hq⟩ := hq
      rw [ih c hc hq, h.stay p c hp hc]

/-- A fragment of a box is met first on the way down from all that it shares its home with. -/
theorem mem_front (hn : Nested ht) (hin : ht.input c = p ∨ t.fragments.Below p (ht.input c))
    (hhome : home (ht.input c) = home p) : ht.input c ∈ t.fragments.front ht.isInput p := by
  induction p using Forest.kids_induction with
  | h p ih =>
    cases hp : ht.isInput p with
    | true =>
      obtain ⟨b, rfl⟩ := Tidy.isInput_iff.1 hp
      rw [Forest.front_of_mark hp, List.mem_singleton]
      exact hin.resolve_right fun hbelow => h.ne_of_below hn hbelow hhome
    | false =>
      have hbelow := hin.resolve_left fun heq =>
        ne_true_of_eq_false hp (heq ▸ ht.isInput_input c)
      obtain ⟨k, hk, hin⟩ := Forest.below_iff_child.1 hbelow
      rw [Forest.front_of_not_mark hp, List.mem_flatMap]
      exact ⟨k, hk, ih k hk hin (hhome.trans (h.stay p k hp hk).symm)⟩

/-- The boxes in a box are those met first on the ways down into its fragment. -/
theorem front_kids (hn : Nested ht) (b : t.Box) :
    ((t.fragments.kids (ht.input b)).map (·.1)).flatMap (t.fragments.front ht.isInput) =
      ((t.boxes.kids b).map (·.1)).map ht.input := by
  refine (Forest.pairwise_front hn.fragments (hn.fragments.siblings.kids _)).eq_of_mem_iff
    (List.pairwise_map.2 ((hn.siblings.kids b).imp fun hahead => hahead _ (.inl rfl))) fun q => ?_
  rw [List.mem_flatMap, List.mem_map]
  constructor
  · rintro ⟨p, hp, hq⟩
    obtain ⟨c, rfl⟩ := Tidy.isInput_iff.1 (Forest.of_mem_front hq).1
    exact ⟨c, (h.input_kid b c).1 ((h.home_of_mem_front hq).trans (h.inside b p hp)), rfl⟩
  · rintro ⟨c, hc, rfl⟩
    obtain ⟨p, hp, hin⟩ := Forest.below_iff_child.1 (hn.input_below b c hc)
    exact ⟨p, hp, h.mem_front hn hin (((h.input_kid b c).2 hc).trans (h.inside b p hp).symm)⟩

/-- The boxes in the top row are those met first on the ways down the ribbon. -/
theorem front_tops (hn : Nested ht) :
    t.fragments.tops.flatMap (t.fragments.front ht.isInput) = t.boxes.tops.map ht.input := by
  refine (Forest.pairwise_front hn.fragments hn.fragments.siblings.tops).eq_of_mem_iff
    (List.pairwise_map.2 (hn.siblings.tops.imp fun hahead => hahead _ (.inl rfl))) fun q => ?_
  rw [List.mem_flatMap, List.mem_map]
  constructor
  · rintro ⟨p, hp, hq⟩
    obtain ⟨c, rfl⟩ := Tidy.isInput_iff.1 (Forest.of_mem_front hq).1
    exact ⟨c, (h.input_top c).1 ((h.home_of_mem_front hq).trans (h.top p hp)), rfl⟩
  · rintro ⟨c, hc, rfl⟩
    have hnone := (h.input_top c).2 hc
    obtain ⟨p, hp, hin⟩ := hn.fragments.exists_top (ht.input c)
    exact ⟨p, hp, h.mem_front hn hin (hnone.trans (h.top p hp).symm)⟩

end Homes

/-- Every fragment has a home.  Fragments that others lie in have no text, nor do those without a
box that are at home where a box is. -/
structure Snug (ht : t.Tidy) (home : t.Piece → Option t.Box) : Prop extends Homes ht home where
  leaf : ∀ p c, t.fragments.HasChild p c → t.piece p = .ofText "" none
  bare : ∀ p c, ht.isInput p = false → home (ht.input c) = home p → t.piece p = .ofText "" none

end BoxTree

/-! ## Homes in built trees -/

/-- Nothing that survives lies in a primitive. -/
def LeafPrimitives (trace : List TraceNode) : Prop :=
  ∀ a ∈ survivors trace, ∀ c ∈ a.ancestors, c.node.kind ≠ .primitive

instance (trace : List TraceNode) : Decidable (LeafPrimitives trace) :=
  inferInstanceAs (Decidable (∀ a ∈ survivors trace, _))

/-- Text that has no box of its own does not share the nearest box around it with any box. -/
def BareTextApart (trace : List TraceNode) : Prop :=
  ∀ a ∈ survivors trace, a.hasBox = false → a.text ≠ "" →
    ∀ c ∈ survivors trace, c.hasBox = true → c.boxAbove? ≠ a.boxAbove?

namespace Attempt

variable {a p : Attempt}

theorem boxAbove?_of_parent?_eq_none (h : a.parent? = none) : a.boxAbove? = none := by
  rw [boxAbove?, List.head?_eq_none_iff.1 h, List.find?_nil]

/-- The nearest box around an attempt is that of the attempt around it or, if it has none, the
nearest around that. -/
theorem boxAbove?_of_parent? (h : a.parent? = some p) :
    a.boxAbove? = if p.hasBox then some p else p.boxAbove? := by
  cases habove : a.above with
  | nil =>
    rw [parent?, ancestors, habove] at h
    cases h
  | cons e above =>
    rw [parent?, ancestors, habove] at h
    cases h
    rw [boxAbove?, ancestors, habove, ofLine, List.find?_cons]
    cases Attempt.hasBox ⟨e.1, e.2, above⟩ <;> rfl

theorem fragment_of_text_eq_empty (h : a.text = "") (glyph : String) :
    a.fragment glyph = .ofText "" none := by
  have hblank : a.isBlank = false := by simp [isBlank, h]
  rw [fragment, hblank, h]
  rfl

end Attempt

namespace BoxTree

open Attempt

variable {glyph : String} {l : List Attempt} {generation : UInt32}

theorem isInput_eq_hasBox (hl : InOrder l) (ht : (ofAttempts glyph l generation).Tidy)
    (p : (ofAttempts glyph l generation).Piece) : ht.isInput p = (pieceWho p).hasBox := by
  rw [Bool.eq_iff_iff, Tidy.isInput_iff]
  constructor
  · rintro ⟨b, rfl⟩
    rw [pieceWho_input hl]
    exact (boxWho_mem b).2
  · intro hbox
    obtain ⟨b, hb⟩ := (hangs_boxAbove? hl).exists_who (fun a => a.box (index l a))
      (mem_boxed.2 ⟨pieceWho_mem p, hbox⟩)
    exact ⟨b, (hangs_parent? hl).who_injective ((pieceWho_input hl ht b).trans hb)⟩

/-- Every fragment of a tree of attempts has a home, the box of the nearest attempt around it that
has one. -/
theorem exists_homes (hl : InOrder l) (ht : (ofAttempts glyph l generation).Tidy) :
    ∃ home, Homes ht home ∧ ∀ p, (home p).map boxWho = (pieceWho p).boxAbove? := by
  have hpieces := hangs_parent? hl
  have hboxes := hangs_boxAbove? hl
  have hexists : ∀ p : (ofAttempts glyph l generation).Piece,
      ∃ o : Option (ofAttempts glyph l generation).Box, o.map boxWho = (pieceWho p).boxAbove? := by
    intro p
    cases habove : (pieceWho p).boxAbove? with
    | none => exact ⟨none, rfl⟩
    | some a =>
      obtain ⟨b, hb⟩ := hboxes.exists_who (fun a => a.box (index l a))
        (mem_boxed_of_boxAbove? (hl.closed _ (pieceWho_mem p)) habove)
      exact ⟨some b, congrArg some hb⟩
  -- homes are told by their attempts, so each law of homes is one of attempts
  choose home hhome using hexists
  have hinj : Function.Injective (Option.map (@boxWho glyph l generation)) :=
    Option.map_injective fun _ _ heq => hboxes.who_injective heq
  refine ⟨home, ⟨?top, ?inside, ?stay, ?kid, ?input_top⟩, hhome⟩
  case top =>
    intro p hp
    refine hinj ((hhome p).trans ?_)
    exact boxAbove?_of_parent?_eq_none (hpieces.mem_tops_iff.1 hp)
  case inside =>
    intro b p hp
    refine hinj ((hhome p).trans ?_)
    have hparent := boxAbove?_of_parent? (hpieces.hasChild_iff.1 hp)
    have hbox := (isInput_eq_hasBox hl ht _).symm.trans (ht.isInput_input b)
    exact hparent.trans ((if_pos hbox).trans (congrArg some (pieceWho_input hl ht b)))
  case stay =>
    intro p c hp hc
    refine hinj ((hhome c).trans (Eq.trans ?_ (hhome p).symm))
    have hparent := boxAbove?_of_parent? (hpieces.hasChild_iff.1 hc)
    have hbox := (isInput_eq_hasBox hl ht p).symm.trans hp
    exact hparent.trans (if_neg (ne_true_of_eq_false hbox))
  case kid =>
    intro b c
    rw [← hinj.eq_iff, hhome, pieceWho_input hl]
    exact hboxes.hasChild_iff.symm
  case input_top =>
    intro c
    rw [← hinj.eq_iff, hhome, pieceWho_input hl]
    exact hboxes.mem_tops_iff.symm

/-- The tree of a trace is snug if nothing lies in a primitive, and text without a box stands beside
no box. -/
theorem exists_snug_build (b : TreeBuilder) (trace : List TraceNode) (generation : UInt32)
    (ht : (b.build trace generation).Tidy)
    (hleaf : LeafPrimitives trace) (hbare : BareTextApart trace) : ∃ home, Snug ht home := by
  have hl := TreeBuilder.inOrder_survivors trace
  have hbuild := (TreeBuilder.drawn_build b trace generation).eq
  revert ht
  rw [hbuild]
  intro ht
  obtain ⟨home, hhomes, hhome⟩ := exists_homes hl ht
  refine ⟨home, hhomes, fun p c hc => ?_, fun p c hp hc => ?_⟩
  · have hparent := mem_of_parent? ((hangs_parent? hl).hasChild_iff.1 hc)
    have hkind := hleaf _ (pieceWho_mem c) _ hparent
    rw [piece_ofAttempts]
    exact fragment_of_text_eq_empty (if_neg hkind) _
  · have hbox := (isInput_eq_hasBox hl ht p).symm.trans hp
    rw [piece_ofAttempts]
    refine fragment_of_text_eq_empty ?_ _
    by_contra htext
    refine hbare _ (pieceWho_mem p) hbox htext _ (boxWho_mem c).1 (boxWho_mem c).2 ?_
    rw [← pieceWho_input hl ht, ← hhome, ← hhome, hc]

end BoxTree

end ParseBoxes
