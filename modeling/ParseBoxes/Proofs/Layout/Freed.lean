import ParseBoxes.Proofs.Animation.Pinning
import ParseBoxes.Proofs.Layout.Agreement
import ParseBoxes.Proofs.Layout.Sparing

/-!
# Measuring a box apart

A box is measured on a board that is left as it is: the layout takes the box out, frees it of its
transition and hides or shows its children as asked.  Whatever such a layout is asked about, the box
itself or any box above or below it, it answers as the board would if its pins had been changed so
(`reply_detached`).
-/

namespace ParseBoxes

variable {α : Type} {t : BoxTree}

/-- The pins of a board on which one box is free of transitions, its children shown or hidden. -/
def Pins.freed (p : Pins α t) (b : t.Box) (shown : Bool) : Pins α t :=
  p.modifyBox b fun pins =>
    { pins with explicitWidth := none, childrenHeight := none, hidden := !shown }

namespace Layout

/-- To take a box out gives all boxes the pins that they have when it is freed. -/
theorem agreeAt_freed (measure : Measurer α) (p : Pins α t) (r : t.Box) (shown : Bool)
    (b : t.Box) :
    AgreeAt ⟨p, measure, some ⟨r, !shown⟩⟩ ((p.freed r shown).layout measure) b := by
  have hbox := p.box_modifyBox r b fun pins =>
    { pins with explicitWidth := none, childrenHeight := none, hidden := !shown }
  by_cases hr : r = b
  · subst hr
    rw [if_pos rfl] at hbox
    constructor <;> simp [hidden, explicitWidth, pinnedHeight, isDetached, Pins.freed, hbox]
  · rw [if_neg hr] at hbox
    constructor <;> simp [hidden, explicitWidth, pinnedHeight, isDetached, Pins.freed, hbox, hr]

variable [Scalar α] {l l' : Layout α t}

/-- Two layouts with one measurer that give the same pins to all boxes and fragments answer every
question alike. -/
theorem reply_congr (hm : l.measure = l'.measure) (hbox : ∀ b, AgreeAt l l' b)
    (hpiece : ∀ f, l.pins.piece f = l'.pins.piece f) (q : Question t) : l.reply q = l'.reply q := by
  have hagree : ∀ b, Agree l l' b := fun b => ⟨hm, fun c _ => hbox c⟩
  have hdisplayed : ∀ b, l.isDisplayed b = l'.isDisplayed b := fun b =>
    isDisplayed_congr fun c _ => (hbox c).hidden
  cases q with
  | labelSize b => exact congrArg Reply.extent (labelSize_congr hm b)
  | childrenBlock b => exact congrArg Reply.extent (hagree b).childrenBlock
  | renderedWidth b => exact congrArg Reply.length (hagree b).renderedWidth
  | isDisplayed b => exact congrArg Reply.shown (hdisplayed b)
  | displayedWidth b =>
    refine congrArg Reply.length ?_
    rw [displayedWidth, displayedWidth, hdisplayed, (hagree b).renderedWidth]
  | childrenHeight b => exact congrArg Reply.length (hagree b).sameSize.height
  | renderedHeight b => exact congrArg Reply.length (hagree b).renderedHeight
  | textSize f => exact congrArg Reply.extent (by rw [textSize, textSize, hm])
  | inputSize f => exact congrArg Reply.extent (inputSize_congr hm f)
  | pieceWidth f => exact congrArg Reply.length (pieceWidth_congr hm hpiece f)

theorem reply_detached (measure : Measurer α) (p : Pins α t) (r : t.Box) (shown : Bool)
    (q : Question t) :
    reply ⟨p, measure, some ⟨r, !shown⟩⟩ q = ((p.freed r shown).layout measure).reply q := by
  have hmeasure : (⟨p, measure, some ⟨r, !shown⟩⟩ : Layout α t).measure =
      ((p.freed r shown).layout measure).measure := rfl
  exact reply_congr hmeasure (agreeAt_freed measure p r shown)
    (fun f => (Pins.piece_modifyBox p r _ f).symm) q

end Layout

namespace Measuring

open Run

/-- **A box that is measured apart is as large as on the board.**  A view of the layout that takes a
box out answers any row of questions about sizes as an ordinary view of the board does on which the
width and the height of this box are no longer held and its children are shown or hidden as asked.
The measurement of the box's block of children is the answer of this ordinary view, and taking it
never fails. -/
theorem replies_as_freed [Scalar α] (measure : Measurer α) (p : Pins α t) (r : t.Box)
    (shown : Bool) :
    (∀ qs : List (Question t),
      ((qs.mapM (View.reply ⟨p, measure, some ⟨r, !shown⟩⟩)).run (.blank α t)).1 =
        ((qs.mapM (View.reply ((p.freed r shown).layout measure))).run (.blank α t)).1) ∧
      (childrenOf measure p (t.nameOf r) shown).Yields
        (View.childrenBlock ((p.freed r shown).layout measure) r).fresh := by
  have hview : ∀ (l : Layout α t) (qs : List (Question t)),
      ((qs.mapM (View.reply l)).run (.blank α t)).1 = qs.map l.reply := fun l qs =>
    (View.Answers.mapM qs fun q _ => (View.kept_agrees l).reply q).fresh
  refine ⟨fun qs => ?_, ?_⟩
  · rw [hview, hview]
    exact List.map_congr_left fun q _ => Layout.reply_detached measure p r shown q
  · have hblock := Reply.extent.inj (Layout.reply_detached measure p r shown (.childrenBlock r))
    rw [(View.childrenBlock_answers _ r).fresh, ← hblock, childrenOf, t.locate_nameOf]
    exact children_yields measure p r shown

end Measuring

end ParseBoxes
