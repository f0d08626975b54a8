import ParseBoxes.Proofs.Session.Sound

/-!
# Runs of a session

Whatever happens, each event comes to its end and does what `Goes` says of it: it moves the stages as
its record tells, keeps the tree unless it rebuilds it, mends the ribbon if it runs a frame, and
reports just the boxes that come to rest.  A run strings such steps together (`Leads`), and every
list of events is such a run (`performAll_yields`).  So what is true of all runs is proved step by
step.
-/

namespace ParseBoxes

variable {α : Type} [Scalar α]

namespace Session

open Run

/-- What an event does to a session whose boxes are at the given stages. -/
structure Goes (s : Session α) (stage : BoxId → Stage) (m : Moment) (s' : Session α) : Prop where
  sound : s'.Sound (m.advance s.span stage)
  config : s'.config = s.config
  measure : s'.measure = s.measure
  tree : m.isRebuild = false → s'.board.tree = s.board.tree
  generation : m.isRebuild = true → s'.board.tree.generation = s.board.tree.generation + 1
  follows : m.mends = true → s'.Follows
  reports : m.isSettle = false → ∀ b, m.reports (s.board.tree.nameOf b) =
    (stage (s.board.tree.nameOf b)).arrivals s.span (m.acts (s.board.tree.nameOf b))

variable {s : Session α} {stage : BoxId → Stage}

/-- A step by which no time passes and no board is built. -/
theorem Goes.ofSameTree {m : Moment} {s' : Session α} (hsound : s'.Sound (m.advance s.span stage))
    (hsame : SameTree s s') (hmends : m.mends = false) (hframes : m.frames = [])
    (hreports : ∀ id, m.reports id = 0) : Goes s stage m s' where
  sound := hsound
  config := hsame.config
  measure := hsame.measure
  tree _ := hsame.tree
  generation h := by rw [Moment.mends_of_isRebuild h] at hmends; cases hmends
  follows h := by rw [hmends] at h; cases h
  reports _ b := by rw [hreports, Moment.arrivals_acts_of_frames_eq_nil hframes]

/-- A new board starts with every box at rest and expanded. -/
theorem Goes.ofRebuild {m : Moment} {s' : Session α} (hsound : s'.Sound fun _ => .resting false)
    (hfollows : s'.Follows) (hconfig : s'.config = s.config) (hmeasure : s'.measure = s.measure)
    (hgeneration : s'.board.tree.generation = s.board.tree.generation + 1)
    (hm : m.isRebuild = true) : Goes s stage m s' where
  sound := by
    have hadvance : m.advance s.span stage = fun _ => .resting false :=
      funext fun id => if_pos hm
    rwa [hadvance]
  config := hconfig
  measure := hmeasure
  tree h := by rw [hm] at h; cases h
  generation _ := hgeneration
  follows _ := hfollows
  reports _ b := by
    have hframes : m.frames = [] ∧ ∀ id, m.reports id = 0 := by
      cases m with
      | ticked dt settled => cases hm
      | ranFrames frame n => cases hm
      | _ => exact ⟨rfl, fun _ => rfl⟩
    rw [hframes.2, Moment.arrivals_acts_of_frames_eq_nil hframes.1]

theorem Sound.refresh (h : s.Sound stage) (engine : Engine) (grammar input start : String) :
    ∃ answer s', (s.refresh engine grammar input start).Yields (answer, s') ∧
      Goes s stage (.refreshed answer) s' := by
  let s₁ : Session α := { s with registry := (engine.run s.pristine grammar input start).2 }
  have hsound : s₁.Sound stage := ⟨h.tidy, h.steady, h.hovered, h.duration, h.built⟩
  cases hextract : Engine.extract (engine.run s.pristine grammar input start).1 with
  | ok result =>
    obtain ⟨s', hyields, hsound', hfollows, hconfig, hmeasure, hgeneration⟩ :=
      hsound.rebuild result.2 result.1
    refine ⟨.ok result.1, s', .bind (note_yields _) ?_,
      .ofRebuild hsound' hfollows hconfig hmeasure hgeneration rfl⟩
    simp only [hextract]
    exact .bind hyields (.pure _)
  | error e =>
    refine ⟨.error (.engine e), s₁, .bind (note_yields _) ?_,
      .ofSameTree hsound ⟨rfl, rfl, rfl⟩ rfl rfl fun _ => rfl⟩
    simp only [hextract]
    exact .bind (note_yields _) (.pure _)

/-- Every gesture comes to its end, on the same board. -/
theorem Sound.gesture (h : s.Sound stage) (g : Gesture α) :
    ∃ m s', (s.gesture g).Yields (m, s') ∧ Goes s stage m s' ∧ m.isRebuild = false := by
  cases g with
  | click id =>
    obtain ⟨answer, s', hyields, hsound, hsame, -⟩ := h.click id
    exact ⟨.clicked id answer, s', .bind hyields (.pure _),
      .ofSameTree hsound hsame rfl rfl fun _ => rfl, rfl⟩
  | clickAt x y =>
    obtain ⟨answer, s', hyields, hsound, hsame, -⟩ := h.clickAt x y
    exact ⟨.clickedAt answer, s', .bind hyields (.pure _),
      .ofSameTree hsound hsame rfl rfl fun _ => rfl, rfl⟩
  | hover id =>
    obtain ⟨answer, s', hyields, hsound, hsame⟩ := h.hover id
    exact ⟨.hovered answer, s', .bind hyields (.pure _),
      .ofSameTree hsound hsame rfl rfl fun _ => rfl, rfl⟩
  | hoverAt x y =>
    obtain ⟨answer, s', hyields, hsound, hsame⟩ := h.hoverAt x y
    exact ⟨.hoveredAt answer, s', .bind hyields (.pure _),
      .ofSameTree hsound hsame rfl rfl fun _ => rfl, rfl⟩
  | tick dt =>
    obtain ⟨settled, s', hyields, hsound, hsame, -, hfollows, hreports⟩ := h.tick dt
    exact ⟨.ticked dt settled, s', .bind hyields (.pure _), ⟨hsound, hsame.config, hsame.measure,
      fun _ => hsame.tree, fun h => (by cases h), fun _ => hfollows, fun _ => hreports⟩, rfl⟩
  | settle frame =>
    obtain ⟨n, s', hyields, hsound, hsame, -, hfollows, -⟩ := h.settle frame
    exact ⟨.ranFrames frame n, s', .bind hyields (.pure _), ⟨hsound, hsame.config, hsame.measure,
      fun _ => hsame.tree, fun h => (by cases h), fun _ => hfollows, fun h => by cases h⟩, rfl⟩

/-- Every event comes to its end on a sound session; a gesture brings no new board. -/
theorem Sound.perform (h : s.Sound stage) (e : Event α) :
    ∃ m s', (s.perform e).Yields (m, s') ∧ Goes s stage m s' ∧
      ∀ g, e = .gesture g → m.isRebuild = false := by
  cases e with
  | load trace outcome =>
    obtain ⟨s', hyields, hsound, hfollows, hconfig, hmeasure, hgeneration⟩ := h.rebuild trace outcome
    exact ⟨.loaded, s', .bind hyields (.pure _),
      .ofRebuild hsound hfollows hconfig hmeasure hgeneration rfl, fun _ h => by cases h⟩
  | refresh engine grammar input start =>
    obtain ⟨answer, s', hyields, hgoes⟩ := h.refresh engine grammar input start
    exact ⟨.refreshed answer, s', .bind hyields (.pure _), hgoes, fun _ h => by cases h⟩
  | gesture g =>
    obtain ⟨m, s', hyields, hgoes, hm⟩ := h.gesture g
    exact ⟨m, s', hyields, hgoes, fun _ _ => hm⟩

/-! ## Runs -/

/-- A run that starts with the boxes at the given stages. -/
inductive Leads (s : Session α) (stage : BoxId → Stage) : History → Session α → Prop
  | nil : Leads s stage [] s
  | snoc {h : History} {s₁ s₂ : Session α} {m : Moment} (run : Leads s stage h s₁)
      (step : Goes s₁ (h.advance s.span stage) m s₂) : Leads s stage (h ++ [m]) s₂

namespace Leads

variable {s' : Session α} {h : History}

theorem config (run : Leads s stage h s') : s'.config = s.config := by
  induction run with
  | nil => rfl
  | snoc _ step ih => exact step.config.trans ih

theorem measure (run : Leads s stage h s') : s'.measure = s.measure := by
  induction run with
  | nil => rfl
  | snoc _ step ih => exact step.measure.trans ih

theorem span (run : Leads s stage h s') : s'.span = s.span := by
  unfold Session.span
  rw [run.config]

theorem tree (run : Leads s stage h s') (hh : ∀ m ∈ h, m.isRebuild = false) :
    s'.board.tree = s.board.tree := by
  induction run with
  | nil => rfl
  | snoc _ step ih =>
    obtain ⟨hh, hm⟩ := List.forall_mem_append.1 hh
    exact (step.tree (hm _ List.mem_cons_self)).trans (ih hh)

/-- At the end of a run the stages are those that its history tells. -/
theorem sound (run : Leads s stage h s') (hs : s.Sound stage) :
    s'.Sound (h.advance s.span stage) := by
  cases run with
  | nil => exact hs
  | snoc run step =>
    have hsound := step.sound
    rwa [run.span, ← History.advance_concat] at hsound

end Leads

theorem performAll_append_yields {s₁ s₂ : Session α} {es es' : List (Event α)} {h h' : History}
    (hs : (s.performAll es).Yields (h, s₁)) (hs' : (s₁.performAll es').Yields (h', s₂)) :
    (s.performAll (es ++ es')).Yields (h ++ h', s₂) := by
  rw [performAll_append]
  exact .bind hs (.bind hs' (.pure _))

theorem Leads.performAll {s' : Session α} {h : History} (run : Leads s stage h s')
    (hs : s.Sound stage) (es : List (Event α)) :
    ∃ h' s'', (s'.performAll es).Yields (h', s'') ∧ Leads s stage (h ++ h') s'' ∧
      ((∀ e ∈ es, ∃ g, e = .gesture g) → ∀ m ∈ h', m.isRebuild = false) := by
  induction es generalizing h s' with
  | nil => exact ⟨[], s', .pure _, by rwa [List.append_nil], fun _ m hm => by cases hm⟩
  | cons e es ih =>
    obtain ⟨m, s₁, hyields, step, hm⟩ := (run.sound hs).perform e
    obtain ⟨h', s'', hyields', run', hh'⟩ := ih (run.snoc step)
    refine ⟨m :: h', s'', .bind hyields (.bind hyields' (.pure _)), ?_, fun hes => ?_⟩
    · rwa [List.append_assoc] at run'
    · obtain ⟨hgesture, hes⟩ := List.forall_mem_cons.1 hes
      obtain ⟨g, hg⟩ := hgesture
      exact List.forall_mem_cons.2 ⟨hm g hg, hh' hes⟩

theorem Sound.performAll (hs : s.Sound stage) (es : List (Event α)) :
    ∃ h s', (s.performAll es).Yields (h, s') ∧ Leads s stage h s' := by
  obtain ⟨h, s', hyields, run, -⟩ := Leads.nil.performAll hs es
  exact ⟨h, s', hyields, run⟩

/-- Whatever happens to a session, it is sound afterwards and measures as it did. -/
theorem performAll_begin (measure : Measurer α) (config : Config α) (registry : GrammarRegistry)
    (es : List (Event α)) :
    ∃ h s stage, ((begin measure config registry).performAll es).Yields (h, s) ∧
      s.Sound stage ∧ s.measure = measure := by
  have hbegin := sound_begin measure config registry
  obtain ⟨h, s, hyields, run⟩ := hbegin.performAll es
  exact ⟨h, s, _, hyields, run.sound hbegin, run.measure⟩

theorem exists_sound_of_yields {measure : Measurer α} {config : Config α}
    {registry : GrammarRegistry} {es : List (Event α)} {h : History}
    (hyields : ((begin measure config registry).performAll es).Yields (h, s)) :
    ∃ stage, s.Sound stage := by
  obtain ⟨h', s', stage, hyields', hs, -⟩ := performAll_begin measure config registry es
  cases hyields.unique hyields'
  exact ⟨stage, hs⟩

theorem Sound.gestures (hs : s.Sound stage) (gs : List (Gesture α)) :
    ∃ h s', (s.performAll (gs.map .gesture)).Yields (h, s') ∧ Leads s stage h s' ∧
      ∀ m ∈ h, m.isRebuild = false := by
  obtain ⟨h, s', hyields, run, hh⟩ := Leads.nil.performAll hs (gs.map .gesture)
  refine ⟨h, s', hyields, run, hh fun e he => ?_⟩
  obtain ⟨g, -, rfl⟩ := List.mem_map.1 he
  exact ⟨g, rfl⟩

/-- After a load the board shows the trace, and nothing moves. -/
theorem load_yields (s : Session α) (trace : List TraceNode) (outcome : MatchOutcome) :
    ∃ s', (s.performAll [.load trace outcome]).Yields ([.loaded], s') ∧
      s'.board.tree = TreeBuilder.build ⟨s.config.glyph⟩ trace (s.board.tree.generation + 1) ∧
      s'.isSettled = true := by
  obtain ⟨p, hyields, -⟩ := s.rebuild_yields trace outcome
  exact ⟨_, .bind (.bind hyields (.pure _)) (.bind (.pure _) (.pure _)), rfl, rfl⟩

end Session

end ParseBoxes
