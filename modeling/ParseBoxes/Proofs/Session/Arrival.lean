import ParseBoxes.Proofs.Animation.Alone
import ParseBoxes.Proofs.Session.Flush
import ParseBoxes.Proofs.Session.LeastWidth

/-!
# How a toggle ends

Over exact rationals.  A box that is toggled on a board at rest covers more and more of its way
(`Animator.Covers`), so its width never goes back, and it ends where the toggle heads for.  Only where
an expansion heads for less than the width of the label does the box get its width from the label
when it comes to rest, all at once.
-/

namespace ParseBoxes

namespace Animator

variable {t : BoxTree} {b : t.Box} {down : t.Box → Bool} {ht : t.Tidy} {measure : Measurer ℚ}
  {a : Animator ℚ} {p : Pins ℚ t} {stage : BoxId → Stage} {start goal share : ℚ}

/-! ## The width on the way -/

/-- A box has covered this share of its way from one width to another; all of it if it is not on its
way. -/
def Covers (a : Animator ℚ) (id : BoxId) (start goal share : ℚ) : Prop :=
  match a.find? id with
  | none => share = 1
  | some tr => ∃ w, tr.width = some w ∧ w.start = start ∧ w.goal = goal ∧ w.share = share

theorem Covers.of_find? {id : BoxId} {tr : Transition ℚ} {w : Tween ℚ} (h : a.find? id = some tr)
    (hw : tr.width = some w) : a.Covers id w.start w.goal w.share := by
  unfold Covers
  rw [h]
  exact ⟨w, hw, rfl, rfl, rfl⟩

/-- A frame takes a box further on its way. -/
theorem Covers.next (h : Alone ht measure b down a p stage)
    (hcovers : a.Covers (t.nameOf b) start goal share) {a' : Animator ℚ} {dt : Duration}
    (ha' : a'.find? (t.nameOf b) = (a.find? (t.nameOf b)).bind fun tr =>
      if isDone (tr.next dt) then none else some (tr.next dt)) :
    ∃ share', a'.Covers (t.nameOf b) start goal share' ∧ share ≤ share' := by
  unfold Covers at hcovers ⊢
  rw [ha']
  cases htr : a.find? (t.nameOf b) with
  | none =>
    rw [htr] at hcovers
    exact ⟨1, rfl, hcovers.le⟩
  | some tr =>
    rw [htr] at hcovers
    obtain ⟨w, hw, rfl, rfl, rfl⟩ := hcovers
    have hfits := h.steady.fits b
    rw [htr] at hfits
    rw [Option.bind_some]
    by_cases hdone : isDone (tr.next dt) = true
    · rw [if_pos hdone]
      exact ⟨1, rfl, w.share_mem_unit.2⟩
    · rw [if_neg hdone]
      have hwidth := ((hfits.isDone_next dt).2 hdone).1
      have hnext : (tr.next dt).width = w.next dt := by rw [Transition.next, hw, Option.bind_some]
      rw [hnext, Tween.next] at hwidth
      by_cases hcomplete : (w.tick dt).isComplete = true
      · simp [hcomplete] at hwidth
      · refine ⟨(w.tick dt).share, ⟨w.tick dt, ?_, rfl, rfl, rfl⟩, w.share_le_share_tick dt⟩
        rw [hnext, Tween.next, if_neg hcomplete]

/-- The share that a box has covered tells its width, if the box ends where it is headed. -/
theorem Covers.renderedWidth_eq (h : Alone ht measure b down a p stage)
    (hcovers : a.Covers (t.nameOf b) start goal share)
    (hgoal : ((Pins.atRest ht measure down).layout measure).renderedWidth b = goal) :
    (p.layout measure).renderedWidth b = start + (goal - start) * share := by
  unfold Covers at hcovers
  rcases h.steady.resting_or_moving b with ⟨-, -, hnone, -⟩ | ⟨d, elapsed, tr, -, htr, hcarries⟩
  · rw [hnone] at hcovers
    rw [(Layout.Agree.of_box (h.box_eq_atRest hnone) measure b).renderedWidth, hgoal, hcovers]
    ring
  · rw [htr] at hcovers
    obtain ⟨w, hw, rfl, rfl, rfl⟩ := hcovers
    obtain ⟨w', hw', hruns, hraised, hshown⟩ := hcarries.width
    cases hw.symm.trans hw'
    rw [← w.value_eq]
    exact Layout.renderedWidth_eq_value hcarries.minWidth
      (hshown.eq_value hruns hcarries.elapsed_lt) (w.le_value hraised.le_start hraised.le_goal)

end Animator

namespace Session

open Run Animator

/-! ## Watching a box -/

section

variable {α : Type} [Scalar α]

/-- The size with which a named box is shown. -/
def sizeOf (s : Session α) (id : BoxId) : Run α (Size α) := do
  let b ← Run.check (s.board.tree.locate id)
  Run.look s.layout do
    return ⟨← View.renderedWidth s.layout b, ← View.renderedHeight s.layout b⟩

/-- The sizes of a box before, between and after frames. -/
def watch (s : Session α) (id : BoxId) : List Duration → Run α (List (Size α) × Session α)
  | [] => return ([← s.sizeOf id], s)
  | dt :: dts => do
    let size ← s.sizeOf id
    let (_, s) ← s.tick dt
    let (sizes, s) ← s.watch id dts
    return (size :: sizes, s)

/-- The same session at another time, on the same tree. -/
def moved (s : Session α) (p : Pins α s.board.tree) (a : Animator α) (c : FrameClock) : Session α :=
  { s with board := s.board.withPins p, animator := a, clock := c }

variable (s : Session α) (p : Pins α s.board.tree) (a : Animator α) (c : FrameClock)

theorem sizeOf_moved_yields (b : s.board.tree.Box) :
    ((s.moved p a c).sizeOf (s.board.tree.nameOf b)).Yields
      ⟨(p.layout s.measure).renderedWidth b, (p.layout s.measure).renderedHeight b⟩ :=
  .bind (check_yields (s.board.tree.locate_nameOf b)) (look_yields_of_answers
    (.bind (View.renderedWidth_answers _ b) (.bind (View.rendered_answers _ b).2 (.pure _))))

theorem tick_moved_yields {dt : Duration} {done : List BoxId} {q : Pins α s.board.tree}
    {a' : Animator α} (h : (a.tick s.measure p dt).Yields (done, q, a')) :
    ((s.moved p a c).tick dt).Yields (done, s.moved q a' (c.advance dt)) :=
  .bind h (.pure _)

end

/-- A box on its way is watched.  The last size is that in which it is left.  If it ends where it is
headed, its widths are told by the shares that it has covered, and these only grow. -/
theorem watch_moved_yields {s : Session ℚ} {ht : s.board.tree.Tidy} {b : s.board.tree.Box}
    {down : s.board.tree.Box → Bool} {start goal : ℚ} (ds : List Duration)
    {a : Animator ℚ} {p : Pins ℚ s.board.tree} {stage : BoxId → Stage} {share : ℚ}
    (c : FrameClock) (h : Alone ht s.measure b down a p stage)
    (hcovers : a.Covers (s.board.tree.nameOf b) start goal share) :
    ∃ sizes q a' c' stage',
      ((s.moved p a c).watch (s.board.tree.nameOf b) ds).Yields (sizes, s.moved q a' c') ∧
      Alone ht s.measure b down a' q stage' ∧
      sizes.getLast? =
        some ⟨(q.layout s.measure).renderedWidth b, (q.layout s.measure).renderedHeight b⟩ ∧
      (((Pins.atRest ht s.measure down).layout s.measure).renderedWidth b = goal →
        ∃ shares : List ℚ, sizes.map (·.width) = shares.map (fun x => start + (goal - start) * x) ∧
          shares.Pairwise (· ≤ ·) ∧ ∀ x ∈ shares, share ≤ x) := by
  have hsize := s.sizeOf_moved_yields p a c b
  induction ds generalizing a p stage share c with
  | nil =>
    refine ⟨_, p, a, c, stage, .bind hsize (.pure _), h, rfl, fun hgoal => ⟨[share], ?_, ?_, ?_⟩⟩
    · simp only [List.map_cons, List.map_nil, hcovers.renderedWidth_eq h hgoal]
    · exact List.pairwise_singleton _ _
    · simp
  | cons dt ds ih =>
    obtain ⟨done, q, active, htick, halone, hfind⟩ := h.tick dt
    obtain ⟨share', hcovers', hle⟩ := hcovers.next h hfind
    obtain ⟨sizes, r, a', c', stage', hwatch, halone', hlast, hshares⟩ :=
      ih (c.advance dt) halone hcovers' (s.sizeOf_moved_yields q _ _ b)
    refine ⟨_, r, a', c', stage',
      .bind hsize (.bind (s.tick_moved_yields p a c htick) (.bind hwatch (.pure _))), halone', ?_, ?_⟩
    · rw [List.getLast?_cons, hlast]
      rfl
    · intro hgoal
      obtain ⟨shares, hwidths, hsorted, hleast⟩ := hshares hgoal
      refine ⟨share :: shares, ?_, .cons (fun x hx => hle.trans (hleast x hx)) hsorted, ?_⟩
      · simp only [List.map_cons, hwidths, hcovers.renderedWidth_eq h hgoal]
      · intro x hx
        rcases List.mem_cons.1 hx with rfl | hx
        · exact le_rfl
        · exact hle.trans (hleast x hx)

/-- What moves along a line by growing shares goes one way. -/
theorem pairwise_of_shares {start goal : ℚ} {shares : List ℚ} (h : shares.Pairwise (· ≤ ·)) :
    (shares.map fun x => start + (goal - start) * x).Pairwise (· ≤ ·) ∨
      (shares.map fun x => start + (goal - start) * x).Pairwise (· ≥ ·) := by
  rcases le_total start goal with hle | hle
  · left
    refine List.pairwise_map.2 (h.imp fun {x y} hxy => ?_)
    nlinarith
  · right
    refine List.pairwise_map.2 (h.imp fun {x y} hxy => ?_)
    show start + (goal - start) * y ≤ start + (goal - start) * x
    nlinarith

/-- A click on a board at rest, and what is seen of the box in the frames that go by then. -/
theorem Sound.click_watch {s : Session ℚ} {stage : BoxId → Stage} (hs : s.Sound stage)
    (hidle : s.isSettled = true) (b : s.board.tree.Box) (ds : List Duration) :
    let down := turned (fun c => (stage (s.board.tree.nameOf c)).headsDown) b
    let tr := s.animator.started s.measure s.board.pins b
      (max (s.animator.goal s.measure s.board.pins b).1 (hs.tidy.textWidth s.measure b))
      (s.animator.goal s.measure s.board.pins b).2
    ∃ q a sizes r a' c', (s.click (s.board.tree.nameOf b)).Yields
        (.ok (s.animator.nextDirection s.board.pins b), s.moved q a s.clock) ∧
      a.find? (s.board.tree.nameOf b) = some tr ∧
      ((s.moved q a s.clock).watch (s.board.tree.nameOf b) ds).Yields (sizes, s.moved r a' c') ∧
      sizes.getLast? =
        some ⟨(r.layout s.measure).renderedWidth b, (r.layout s.measure).renderedHeight b⟩ ∧
      (a'.isIdle = true → ∀ c, r.box c = (Pins.atRest hs.tidy s.measure down).box c) ∧
      (((Pins.atRest hs.tidy s.measure down).layout s.measure).renderedWidth b =
          max (s.animator.goal s.measure s.board.pins b).1 (hs.tidy.textWidth s.measure b) →
        (sizes.map (·.width)).Pairwise (· ≤ ·) ∨ (sizes.map (·.width)).Pairwise (· ≥ ·)) := by
  intro down tr
  obtain ⟨q, active, htoggle, halone, hfind⟩ := Alone.toggle hs.steady hidle b
  obtain ⟨sizes, r, a', c', stage', hwatch, halone', hlast, hshares⟩ :=
    watch_moved_yields ds s.clock halone (Covers.of_find? hfind rfl)
  refine ⟨q, _, sizes, r, a', c',
    .bind (check_nameOf_yields s b) (.bind (.bind htoggle (.pure _)) (.pure _)), hfind, hwatch, hlast,
    fun hidle' => halone'.box_eq_atRest (halone'.isIdle_iff.1 hidle'), fun hgoal => ?_⟩
  obtain ⟨shares, hwidths, hsorted, -⟩ := hshares hgoal
  rw [hwidths]
  exact pairwise_of_shares hsorted

/-- A box is clicked and watched.  The answer tells the direction, the width that the toggle heads
for, the sizes, and whether all is at rest in the end. -/
def clickAndWatch (s : Session ℚ) (id : BoxId) (ds : List Duration) :
    Run ℚ (Option Direction × Option ℚ × List (Size ℚ) × Bool) := do
  let (answer, s₁) ← s.click id
  let (sizes, s₂) ← s₁.watch id ds
  return (answer.toOption, (s₁.animator.find? id).bind (·.width.map (·.goal)), sizes, s₂.isSettled)

theorem clickAndWatch_yields {s s₁ s₂ : Session ℚ} {id : BoxId} {ds : List Duration}
    {answer : Except SessionError Direction} {sizes : List (Size ℚ)}
    (hclick : (s.click id).Yields (answer, s₁)) (hwatch : (s₁.watch id ds).Yields (sizes, s₂)) :
    (s.clickAndWatch id ds).Yields (answer.toOption,
      (s₁.animator.find? id).bind (·.width.map (·.goal)), sizes, s₂.isSettled) :=
  .bind hclick (.bind hwatch (.pure _))

/-- What is seen of a box from the beginning is what was seen when it was clicked and watched. -/
theorem clickAndWatch_eq_of_shows {β : Type} {start : Run ℚ (β × Session ℚ)} {h : β}
    {s s₁ s₂ : Session ℚ} {id : BoxId} {ds : List Duration}
    {answer : Except SessionError Direction} {sizes : List (Size ℚ)}
    {seen : Option Direction × Option ℚ × List (Size ℚ) × Bool} (hstart : start.Yields (h, s))
    (hclick : (s.click id).Yields (answer, s₁)) (hwatch : (s₁.watch id ds).Yields (sizes, s₂))
    (hseen : (start >>= fun r => r.2.clickAndWatch id ds).shows (· = seen) = true) :
    (answer.toOption, (s₁.animator.find? id).bind (·.width.map (·.goal)), sizes, s₂.isSettled) =
      seen := by
  have hwatched : (start >>= fun r => r.2.clickAndWatch id ds).Yields _ :=
    .bind hstart (clickAndWatch_yields hclick hwatch)
  exact of_decide_eq_true (hwatched.of_shows hseen)

/-- **A toggle ends where it is headed, but for the label.**  On a board at rest a box is clicked, and
then frames go by.  When nothing moves any more, the box is as high as its label and the block height
that its toggle headed for, and as wide as its toggle headed for; only an expansion leaves it at least
as wide as its label.  Where that makes no difference, the widths up to then went one way. -/
theorem arrives_where_headed (measure : Measurer ℚ) (config : Config ℚ)
    (registry : GrammarRegistry) (es : List (Event ℚ)) :
    ∃ h s, ((begin measure config registry).performAll es).Yields (h, s) ∧
      (s.isSettled = true → ∀ (b : s.board.tree.Box) (ds : List Duration),
        ∃ direction s₁ tr w k sizes s₂ last,
          (s.click (s.board.tree.nameOf b)).Yields (.ok direction, s₁) ∧
          s₁.animator.find? (s.board.tree.nameOf b) = some tr ∧
          tr.width = some w ∧ tr.height = some k ∧
          (s₁.watch (s.board.tree.nameOf b) ds).Yields (sizes, s₂) ∧ sizes.getLast? = some last ∧
          (s₂.isSettled = true →
            last.height = (s.layout.labelSize b).height + k.goal ∧
            last.width = if direction = .expand then max (s.layout.labelSize b).width w.goal
              else w.goal) ∧
          (direction = .collapse ∨ (s.layout.labelSize b).width ≤ w.goal →
            ((sizes.map (·.width)).Pairwise (· ≤ ·) ∨ (sizes.map (·.width)).Pairwise (· ≥ ·)) ∧
              (s₂.isSettled = true → last.width = w.goal))) := by
  have hbegin := sound_begin measure config registry
  obtain ⟨h, s, hyields, run⟩ := hbegin.performAll es
  refine ⟨h, s, hyields, fun hidle b ds => ?_⟩
  obtain ⟨stage, hs⟩ : ∃ stage, s.Sound stage := ⟨_, run.sound hbegin⟩
  have hnone : s.animator.find? (s.board.tree.nameOf b) = none := by
    rw [Animator.find?, List.isEmpty_iff.1 hidle]
    rfl
  have hp : ∀ c, s.board.pins.box c = (Pins.atRest hs.tidy s.measure
      fun c => (stage (s.board.tree.nameOf c)).headsDown).box c := by
    intro c
    rw [Pins.box_atRest]
    exact hs.steady.box_of_isIdle hidle c
  -- where the board ends is known beforehand, and where a toggle heads for is told from it
  have hwidth := width_atRest hnone hp
  have hheight := height_atRest hnone hp
  obtain ⟨q, a, sizes, r, a', c', hclick, hfind, hwatch, hlast, hrest, hway⟩ :=
    hs.click_watch hidle b ds
  refine ⟨_, _, _, _, _, sizes, _, _, hclick, hfind, rfl, rfl, hwatch, hlast, ?_, ?_⟩
  · intro hidle'
    have hagree := Layout.Agree.of_box (hrest hidle') s.measure b
    rw [hagree.renderedHeight, hagree.renderedWidth]
    exact ⟨hheight, hwidth⟩
  · intro hlabel
    have hgoal := hwidth
    rw [ite_eq_right_iff.2 fun hexpand => ?_] at hgoal
    · refine ⟨hway hgoal, fun hidle' => ?_⟩
      rw [(Layout.Agree.of_box (hrest hidle') s.measure b).renderedWidth]
      exact hgoal
    · rcases hlabel with hcollapse | hle
      · cases hexpand.symm.trans hcollapse
      · exact max_eq_right hle

/-- The box of a word collapses: it becomes as narrow as its label and loses the height of its
letters. -/
theorem word_arrives :
    ∃ h s b s₁ tr w k sizes s₂ last,
      ((begin letterMeasurer .standard {}).performAll [.load wordTrace .success]).Yields (h, s) ∧
      s.isSettled = true ∧ (s.click (s.board.tree.nameOf b)).Yields (.ok .collapse, s₁) ∧
      s₁.animator.find? (s.board.tree.nameOf b) = some tr ∧ tr.width = some w ∧ tr.height = some k ∧
      (s₁.watch (s.board.tree.nameOf b) [.ofMillis 250, .ofMillis 250]).Yields (sizes, s₂) ∧
      s₂.isSettled = true ∧ sizes = [⟨160, 40⟩, ⟨100, 30⟩, ⟨40, 20⟩] ∧
      sizes.getLast? = some last ∧
      ((sizes.map (·.width)).Pairwise (· ≤ ·) ∨ (sizes.map (·.width)).Pairwise (· ≥ ·)) ∧
      last.height = (s.layout.labelSize b).height + k.goal ∧ last.width = w.goal := by
  obtain ⟨h, s, hyields, harrives⟩ :=
    arrives_where_headed letterMeasurer .standard {} [.load wordTrace .success]
  have hstart : ((begin letterMeasurer .standard {}).performAll [.load wordTrace .success]).shows
      (fun r => r.2.isSettled && r.2.board.tree.contains ⟨1, 0⟩) = true := by decide +kernel
  obtain ⟨hidle, hcontains⟩ := Bool.and_eq_true_iff.1 (hyields.of_shows hstart)
  obtain ⟨b, hb⟩ := BoxTree.contains_iff.1 hcontains
  obtain ⟨direction, s₁, tr, w, k, sizes, s₂, last, hclick, hfind, hw, hk, hwatch, hlast, hend,
    hway⟩ := harrives hidle b [.ofMillis 250, .ofMillis 250]
  -- the sizes are those of the same events evaluated from the beginning
  have hseen : (((begin letterMeasurer .standard {}).performAll [.load wordTrace .success]) >>=
      fun r => r.2.clickAndWatch ⟨1, 0⟩ [.ofMillis 250, .ofMillis 250]).shows
        (· = (some .collapse, some 40, [⟨160, 40⟩, ⟨100, 30⟩, ⟨40, 20⟩], true)) = true := by
    decide +kernel
  have hshown := clickAndWatch_eq_of_shows hyields (hb ▸ hclick) (hb ▸ hwatch) hseen
  simp only [Except.toOption, Prod.mk.injEq, Option.some.injEq] at hshown
  obtain ⟨rfl, -, hsizes, hidle'⟩ := hshown
  obtain ⟨hmonotone, hgoal⟩ := hway (.inl rfl)
  exact ⟨h, s, b, s₁, tr, w, k, sizes, s₂, last, hyields, hidle, hclick, hfind, hw, hk, hwatch, hidle',
    hsizes, hlast, hmonotone, (hend hidle').1, hgoal hidle'⟩

/-- The trace of a number, whose label is longer than its digits. -/
def numberTrace : List TraceNode := [(TraceNode.leaf .primitive "number" "12").withSource 0 6]

/-- The box of a number is collapsed. -/
def numberCollapsed : List (Event ℚ) :=
  [.load numberTrace .success, .gesture (.click ⟨1, 0⟩), .gesture (.settle (.ofMillis 500))]

/-- The digits are narrower than the label.  While the box expands it becomes as narrow as the digits,
and when it comes to rest it is as wide as the label all at once. -/
theorem label_widens_at_last :
    (∀ text role, 0 ≤ (letterMeasurer text role).width ∧ 0 ≤ (letterMeasurer text role).height) ∧
    ∃ h s b s₁ tr w sizes s₂,
      ((begin letterMeasurer .standard {}).performAll numberCollapsed).Yields (h, s) ∧
      s.isSettled = true ∧ (s.click (s.board.tree.nameOf b)).Yields (.ok .expand, s₁) ∧
      s₁.animator.find? (s.board.tree.nameOf b) = some tr ∧ tr.width = some w ∧ w.goal = 20 ∧
      (s₁.watch (s.board.tree.nameOf b) [.ofMillis 250, .ofMillis 250]).Yields (sizes, s₂) ∧
      s₂.isSettled = true ∧ sizes.map (·.width) = [60, 40, 60] ∧
      ¬((sizes.map (·.width)).Pairwise (· ≤ ·) ∨ (sizes.map (·.width)).Pairwise (· ≥ ·)) := by
  have hnonneg : ∀ text role, 0 ≤ (letterMeasurer text role).width ∧
      0 ≤ (letterMeasurer text role).height := by
    intro text role
    exact ⟨mul_nonneg (by decide) (Nat.cast_nonneg text.length), (by decide : (0 : ℚ) ≤ 20)⟩
  have hbegin := sound_begin letterMeasurer (.standard : Config ℚ) {}
  obtain ⟨h, s, hyields, run⟩ := hbegin.performAll numberCollapsed
  have hs := run.sound hbegin
  have hstart : ((begin letterMeasurer .standard {}).performAll numberCollapsed).shows
      (fun r => r.2.isSettled && r.2.board.tree.contains ⟨1, 0⟩) = true := by decide +kernel
  obtain ⟨hidle, hcontains⟩ := Bool.and_eq_true_iff.1 (hyields.of_shows hstart)
  obtain ⟨b, hb⟩ := BoxTree.contains_iff.1 hcontains
  obtain ⟨q, a, sizes, r, a', c', hclick, hfind, hwatch, -⟩ :=
    hs.click_watch hidle b [.ofMillis 250, .ofMillis 250]
  rw [← hb] at hclick hfind hwatch
  -- the widths are those of the same events evaluated from the beginning
  have hseen : (((begin letterMeasurer .standard {}).performAll numberCollapsed) >>= fun r =>
      r.2.clickAndWatch ⟨1, 0⟩ [.ofMillis 250, .ofMillis 250]).shows
        (· = (some .expand, some 20, [⟨60, 20⟩, ⟨40, 20⟩, ⟨60, 20⟩], true)) = true := by
    decide +kernel
  have hshown := clickAndWatch_eq_of_shows hyields hclick hwatch hseen
  simp only [Except.toOption, Prod.mk.injEq, Option.some.injEq] at hshown
  obtain ⟨hdirection, hgoal, hsizes, hidle'⟩ := hshown
  have hwidths : sizes.map (·.width) = [60, 40, 60] := by
    rw [hsizes]
    rfl
  have hturns : ¬(([60, 40, 60] : List ℚ).Pairwise (· ≤ ·) ∨
      ([60, 40, 60] : List ℚ).Pairwise (· ≥ ·)) := by decide +kernel
  have hstarted : (s.moved q a s.clock).animator.find? ⟨1, 0⟩ = _ := hfind
  rw [hstarted] at hgoal
  rw [hdirection] at hclick
  rw [hb] at hclick hfind hwatch
  exact ⟨hnonneg, h, s, b, _, _, _, sizes, _, hyields, hidle, hclick, hfind, rfl,
    Option.some.inj hgoal, hwatch, hidle', hwidths, hwidths ▸ hturns⟩

end Session

end ParseBoxes
