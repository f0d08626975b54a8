import ParseBoxes.Command.Run
import ParseBoxes.Proofs.Session.Listing

/-!
# Replaying toggles

The tree of a rendering is that of its trace, whatever is toggled, so a path leads to the same box
before and after a toggle (`toggles_cases`).  A replay fails because of the first path that leads to
no box, and for no other reason (`replay_cases`).
-/

namespace ParseBoxes.Command

open Session

variable {s : Session Float} {stage : BoxId → Stage}

theorem step_of_yields {β : Type} {run : Run Float β} {b : β} (h : run.Yields b) :
    step run = .ok b := by
  obtain ⟨j, hj⟩ := h {}
  rw [step, hj]
  rfl

theorem boxAt_congr {s' : Session Float} (h : SameTree s s') (path : List Nat) :
    s'.boxAt path = s.boxAt path := by
  unfold Session.boxAt
  rw [h.tree]

theorem boxAt_eq_none_iff {path : List Nat} :
    s.boxAt path = none ↔ s.board.tree.atPath path = none := by
  rw [Session.boxAt, Option.map_eq_none_iff]

/-- The tree that a trace is shown as. -/
def shown (config : Config Float) (d : TraceDocument) : BoxTree :=
  TreeBuilder.build ⟨config.glyph⟩ d.nodes 1

/-- A trace is loaded without fail, and shown with nothing collapsed. -/
theorem load_eq_ok (config : Config Float) (d : TraceDocument) :
    ∃ s, load config d = .ok s ∧ s.Sound (fun _ => .resting false) ∧
      s.board.tree = shown config d := by
  let s₀ := Session.begin config.metrics.measurer config {}
  obtain ⟨p, hyields, -⟩ := s₀.rebuild_yields d.nodes d.outcome
  obtain ⟨s, hyields', hs, -⟩ :=
    (sound_begin config.metrics.measurer config {}).rebuild d.nodes d.outcome
  cases hyields.unique hyields'
  exact ⟨_, step_of_yields hyields, hs, rfl⟩

/-! ## Toggles -/

def noBox (path : List Nat) : Failure :=
  .invalidArgument ("no box at path " ++ BoxPath.print path)

theorem toggle_of_boxAt_eq_none {path : List Nat} (h : s.boxAt path = none) :
    toggle s path = .error (noBox path) := by
  rw [toggle, h]
  rfl

/-- A click on the box that a path leads to is not refused. -/
theorem click_boxAt_yields (hs : s.Sound stage) {path : List Nat} {id : BoxId}
    (hid : s.boxAt path = some id) :
    ∃ d s' stage', (s.click id).Yields (.ok d, s') ∧ s'.Sound stage' ∧ SameTree s s' := by
  obtain ⟨b, -, rfl⟩ := Option.map_eq_some_iff.1 hid
  obtain ⟨d, s', hyields, hsound, hsame, -⟩ := hs.toggle b
  exact ⟨d, s', _, .bind (check_nameOf_yields s b) (.bind hyields (.pure _)), hsound, hsame⟩

theorem toggle_of_boxAt_ne_none (hs : s.Sound stage) {path : List Nat}
    (h : s.boxAt path ≠ none) :
    ∃ s' stage', toggle s path = .ok s' ∧ s'.Sound stage' ∧ SameTree s s' := by
  obtain ⟨id, hid⟩ := Option.ne_none_iff_exists'.1 h
  obtain ⟨d, s', stage', hyields, hsound, hsame⟩ := click_boxAt_yields hs hid
  refine ⟨s', stage', ?_, hsound, hsame⟩
  rw [toggle, hid]
  show (step (s.click id)).map (·.2) = .ok s'
  rw [step_of_yields hyields]
  rfl

/-- The first path that leads to no box on a tree. -/
def LeadsNowhere (t : BoxTree) (paths : List (List Nat)) (i : Nat) (path : List Nat) : Prop :=
  paths[i]? = some path ∧ t.atPath path = none ∧
    ∀ j < i, ∀ path', paths[j]? = some path' → t.atPath path' ≠ none

theorem LeadsNowhere.cons {t : BoxTree} {paths : List (List Nat)} {i : Nat} {path first : List Nat}
    (h : LeadsNowhere t paths i path) (hfirst : t.atPath first ≠ none) :
    LeadsNowhere t (first :: paths) (i + 1) path := by
  obtain ⟨hpath, hnone, hbefore⟩ := h
  refine ⟨hpath, hnone, fun j hj path' hpath' => ?_⟩
  cases j with
  | zero => cases hpath'; exact hfirst
  | succ j => exact hbefore j (Nat.lt_of_succ_lt_succ hj) path' hpath'

/-- Toggles one after the other keep the tree; the first whose path leads to no box fails. -/
theorem toggles_cases (hs : s.Sound stage) (paths : List (List Nat)) :
    (∃ i path, LeadsNowhere s.board.tree paths i path ∧
      paths.foldlM toggle s = .error (noBox path)) ∨
    (∀ path ∈ paths, s.board.tree.atPath path ≠ none) ∧
      ∃ s' stage', paths.foldlM toggle s = .ok s' ∧ s'.Sound stage' ∧ SameTree s s' := by
  induction paths generalizing s stage with
  | nil => exact .inr ⟨fun _ h => (by cases h), s, stage, rfl, hs, .refl s⟩
  | cons path paths ih =>
    rw [List.foldlM_cons]
    by_cases hpath : s.boxAt path = none
    · refine .inl ⟨0, path, ⟨rfl, boxAt_eq_none_iff.1 hpath, fun j hj => by cases hj⟩, ?_⟩
      rw [toggle_of_boxAt_eq_none hpath]
      rfl
    obtain ⟨s₁, stage₁, hs₁, hsound, hsame⟩ := toggle_of_boxAt_ne_none hs hpath
    rw [boxAt_eq_none_iff] at hpath
    have hrest : (toggle s path >>= fun s' => paths.foldlM toggle s') = paths.foldlM toggle s₁ := by
      rw [hs₁]
      rfl
    rw [hrest]
    -- The toggle has kept the tree, so where the other paths lead to is judged on the same one.
    rcases ih hsound with ⟨i, path', hnowhere, herror⟩ | ⟨hpaths, s', stage', hok, hsound', hsame'⟩
    · rw [hsame.tree] at hnowhere
      exact .inl ⟨i + 1, path', hnowhere.cons hpath, herror⟩
    · rw [hsame.tree] at hpaths
      exact .inr ⟨List.forall_mem_cons.2 ⟨hpath, hpaths⟩, s', stage', hok, hsound',
        hsame.trans hsame'⟩

/-- Toggles that have been applied do not change where paths lead to. -/
theorem boxAt_of_toggles {s' : Session Float} {paths : List (List Nat)} (hs : s.Sound stage)
    (h : paths.foldlM toggle s = .ok s') (path : List Nat) : s'.boxAt path = s.boxAt path := by
  rcases toggles_cases hs paths with ⟨i, path', -, herror⟩ | ⟨-, s'', stage', hok, -, hsame⟩
  · rw [h] at herror
    cases herror
  · rw [h] at hok
    cases hok
    exact boxAt_congr hsame path

/-! ## Replays -/

/-- A replay fails because of the first path that leads to no box, or else it shows the tree. -/
theorem replay_cases (config : Config Float) (o : RenderOptions) (paths : List (List Nat))
    (d : TraceDocument) :
    (∃ i path, LeadsNowhere (shown config d) paths i path ∧
      replay config o paths d = .error (noBox path)) ∨
    (∀ path ∈ paths, (shown config d).atPath path ≠ none) ∧
      ∃ s stage, replay config o paths d = .ok s ∧ s.Sound stage ∧
        s.board.tree = shown config d := by
  obtain ⟨s₀, hload, hsound, htree⟩ := load_eq_ok config d
  rw [← htree, replay, hload]
  rcases toggles_cases hsound paths with
    ⟨i, path, hnowhere, herror⟩ | ⟨hpaths, s, stage, hok, hs, hsame⟩
  · refine .inl ⟨i, path, hnowhere, ?_⟩
    simp only [bind, Except.bind, herror]
  refine .inr ⟨hpaths, ?_⟩
  simp only [bind, Except.bind, hok]
  by_cases hsettle : o.settle = true
  · obtain ⟨n, s', hyields, hs', hsame', -⟩ := hs.settle (.ofMillis o.frameMillis)
    refine ⟨s', _, ?_, hs', hsame'.tree.trans hsame.tree⟩
    rw [if_pos hsettle, step_of_yields hyields]
    rfl
  · refine ⟨s, stage, ?_, hs, hsame.tree⟩
    rw [if_neg hsettle]
    rfl

variable {files : Files} {o : RenderOptions} {config : Config Float} {paths : List (List Nat)}
  {d : TraceDocument}

theorem render_eq_ok (hconfig : settings files o = .ok config)
    (hpaths : o.toggles.mapM readPath = .ok paths) (hd : readTrace files o.trace = .ok d)
    (hreplay : replay config o paths d = .ok s) :
    render files o = .ok (printed o s.board.tree d.outcome s.frame) := by
  simp only [render, hconfig, hpaths, hd, hreplay, step_of_yields s.snapshot_yields_frame, bind,
    Except.bind]
  rfl

end ParseBoxes.Command
