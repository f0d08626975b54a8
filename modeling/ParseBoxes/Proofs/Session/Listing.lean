import Mathlib.Data.List.Find
import ParseBoxes.Proofs.Layout.Listing
import ParseBoxes.Proofs.Session.InStep

/-!
# What a snapshot lists

A snapshot is the frame of the layout with the states of boxes on their way written over those that
the pins show (`snapshot_yields_frame`).  A transition is looked for by the number of its box, which
is safe since all transitions run on the board on show (`Filed.find?_index`): so the state in a
snapshot is the one that the session gives when it is asked for.
-/

namespace ParseBoxes

variable {α : Type}

/-- Of the transitions of one board, the number of a box tells as much as its name. -/
theorem Animator.Filed.find?_index {t : BoxTree} {l : List (t.Box × Transition α)} {a : Animator α}
    (h : a.Filed l) (b : t.Box) :
    (a.active.find? fun e => e.1.index = b.1) = a.active.find? fun e => e.1 = t.nameOf b := by
  refine List.find?_congr fun e he => ?_
  obtain ⟨c, hc, -⟩ := h.exists_of_mem_active he
  have hiff : e.1.index = b.1 ↔ e.1 = t.nameOf b := by
    rw [← hc, t.nameOf_inj]
    exact Fin.ext_iff.symm
  exact decide_eq_decide.2 hiff

variable [Scalar α]

namespace Session

open Run

omit [Scalar α] in
/-- Only the state is written over. -/
theorem exists_markTransient_eq (active : List (BoxId × Transition α)) (r : BoxRect α) :
    ∃ state, markTransient active r = { r with state := state } := by
  unfold markTransient
  split
  · exact ⟨_, rfl⟩
  · exact ⟨r.state, rfl⟩

/-- The frame of the layout, with the states of boxes on their way. -/
def frame (s : Session α) : Snapshot α :=
  { s.layout.arranged with
    boxes := s.layout.arranged.boxes.map (markTransient s.animator.active) }

theorem snapshot_yields_frame (s : Session α) : s.snapshot.Yields s.frame :=
  .bind (look_yields_of_answers (View.arrange_answers s.layout)) (.pure _)

omit [Scalar α] in
/-- What does not depend on states is as in the layout. -/
theorem map_markTransient {γ : Type} (active : List (BoxId × Transition α)) (g : BoxRect α → γ)
    (hg : ∀ r state, g { r with state := state } = g r) (rs : List (BoxRect α)) :
    (rs.map (markTransient active)).map g = rs.map g := by
  rw [List.map_map]
  refine List.map_congr_left fun r _ => ?_
  obtain ⟨state, hr⟩ := exists_markTransient_eq active r
  rw [Function.comp_apply, hr, hg]

/-- Each listed box is one that the cursor has met. -/
theorem exists_of_mem_frame {s : Session α} {r : BoxRect α} (hr : r ∈ s.frame.boxes) :
    ∃ e ∈ s.layout.placedBoxes, r = markTransient s.animator.active (s.layout.boxRect e) := by
  obtain ⟨r', hr', rfl⟩ := List.mem_map.1 hr
  obtain ⟨e, he, rfl⟩ := List.mem_map.1 hr'
  exact ⟨e, he, rfl⟩

variable {s : Session α} {stage : BoxId → Stage}

theorem Sound.map_id_boxes (hs : s.Sound stage) :
    s.frame.boxes.map (·.id) = s.layout.shownBoxes.map (·.1) := by
  have hlist : s.layout.placedBoxes.map (·.1) = s.layout.shownBoxes :=
    Layout.map_fst_placedBoxes hs.tidy.linked hs.nested.boxes
  rw [← hlist, List.map_map, frame, map_markTransient _ _ fun _ _ => rfl, Layout.arranged,
    List.map_map]
  rfl

theorem Sound.map_id_ribbon (hs : s.Sound stage) :
    s.frame.ribbon.map (·.id) = List.range s.board.tree.fragments.size := by
  have hlist := s.layout.map_fst_placedPieces hs.nested.fragments
  have hnodes : s.board.tree.fragments.nodes.map (·.1) =
      List.range s.board.tree.fragments.size := by
    simp [Forest.nodes]
  rw [← hnodes, ← hlist, List.map_map]
  exact List.map_map ..

/-- The state that a snapshot shows for a box is the stage at which the box is. -/
theorem Sound.state_markTransient (hs : s.Sound stage) {b : s.board.tree.Box} {r : BoxRect α}
    (hid : r.id = b.1) (hstate : r.state = .settled (s.board.pins.box b).hidden) :
    (markTransient s.animator.active r).state = (stage (s.board.tree.nameOf b)).state := by
  have hstateOf := hs.steady.stateOf b
  obtain ⟨l, hl⟩ := hs.steady.filed
  unfold Animator.stateOf Animator.find? at hstateOf
  rw [markTransient, hid, hl.find?_index b]
  cases h : s.animator.active.find? fun e => e.1 = s.board.tree.nameOf b with
  | some e =>
    rw [h] at hstateOf
    exact Except.ok.inj hstateOf
  | none =>
    rw [h, s.board.tree.locate_nameOf] at hstateOf
    exact hstate.trans (Except.ok.inj hstateOf)

/-- **A snapshot lists what is displayed.**  Whatever happens to a session, at any time: a snapshot
lists just the boxes that no box above them hides, each once and in the order of their numbers, each
with the number of its parent, with a depth that is the number of its ancestors, with the width at
which it is displayed and with the state that the session tells when asked for it.  All fragments
are listed once, in the order of their numbers, with the depth at which they are nested. -/
theorem snapshot_lists_displayed (measure : Measurer α) (config : Config α)
    (registry : GrammarRegistry) (es : List (Event α)) :
    ∃ h s, ((begin measure config registry).performAll es).Yields (h, s) ∧
      ∃ frame, s.snapshot.Yields frame ∧
        (∀ b, (View.isDisplayed s.layout b).fresh = true ↔
          ∀ a ∈ s.board.tree.boxes.ancestors b, (s.board.pins.box a).hidden = false) ∧
        frame.boxes.map (·.id) = (s.board.tree.boxes.nodes.filter fun b =>
          (View.isDisplayed s.layout b).fresh).map (·.1) ∧
        (∀ r ∈ frame.boxes, ∃ b : s.board.tree.Box, r.id = b.1 ∧
          r.parent = (s.board.tree.boxes.ancestors b).head?.map (·.1) ∧
          r.depth = (s.board.tree.boxes.ancestors b).length ∧
          r.rect.width = (View.displayedWidth s.layout b).fresh ∧
          (s.state (s.board.tree.nameOf b)).Yields (.ok r.state)) ∧
        frame.ribbon.map (·.id) = List.range s.board.tree.fragments.size ∧
        ∀ r ∈ frame.ribbon, ∃ p : s.board.tree.Piece, r.id = p.1 ∧
          r.depth = (s.board.tree.fragments.ancestors p).length := by
  obtain ⟨h, s, stage, hyields, hs, -⟩ := performAll_begin measure config registry es
  have hlinked := hs.tidy.linked
  have hdisplayed : ∀ b, (View.isDisplayed s.layout b).fresh = s.layout.isDisplayed b := fun b =>
    (View.isDisplayed_answers s.layout b).fresh
  refine ⟨h, s, hyields, s.frame, s.snapshot_yields_frame, fun b => ?_, ?_, fun r hr => ?_,
    hs.map_id_ribbon, fun r hr => ?_⟩
  · rw [hdisplayed]
    exact Layout.isDisplayed_iff hlinked hs.nested.boxes b
  · simp only [hdisplayed]
    exact hs.map_id_boxes
  · obtain ⟨⟨b, q⟩, hmem, rfl⟩ := exists_of_mem_frame hr
    obtain ⟨state, hmark⟩ :=
      exists_markTransient_eq s.animator.active (s.layout.boxRect (b, q))
    have hstate : (markTransient s.animator.active (s.layout.boxRect (b, q))).state = _ :=
      hs.state_markTransient rfl rfl
    have hb : s.layout.isDisplayed b = true :=
      (Layout.mem_placedBoxes_iff hlinked hs.nested.boxes b).1 ⟨q, hmem⟩
    rw [hstate, hmark]
    refine ⟨b, rfl, ?_, Layout.depth_of_mem_placedBoxes hlinked hs.nested.boxes hmem, ?_,
      hs.state b⟩
    · show (s.board.tree.boxes.parent? b).map (·.1.1) = _
      rw [Forest.ancestors]
      cases s.board.tree.boxes.parent? b <;> rfl
    · rw [(View.displayedWidth_answers s.layout b).fresh, Layout.displayedWidth, if_pos hb]
      rfl
  · obtain ⟨e, he, rfl⟩ := List.mem_map.1 hr
    exact ⟨e.1, rfl, s.layout.depth_of_mem_placedPieces hs.linked_fragments hs.nested.fragments he⟩

end Session

end ParseBoxes
