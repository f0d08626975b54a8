import Mathlib.Algebra.BigOperators.Group.List.Basic
import ParseBoxes.Proofs.Animation.Splitting
import ParseBoxes.Proofs.Session.Runs

/-!
# The frame rate does not matter

However a stretch of time is cut into frames, the session ends the same: frames that come one after
another can be taken for one, two at a time (`Sound.tick_tick`).  Only the number of frames on the
clock tells.
-/

namespace ParseBoxes

theorem Duration.add_zero (d : Duration) : d + 0 = d := by
  have hle := d.nanos_le_longest
  ext
  rw [Duration.nanos_add, Duration.nanos_zero]
  omega

theorem Duration.add_assoc (d e f : Duration) : d + e + f = d + (e + f) := by
  ext
  simp only [Duration.nanos_add]
  omega

theorem History.reports_cons (id : BoxId) (m : Moment) (h : History) :
    History.reports id (m :: h) = m.reports id + h.reports id := by
  have hsum : ∀ h : History, h.reports id = (h.map (·.reports id)).sum := fun h => by
    rw [History.reports, List.sum_eq_foldl, List.foldl_map]
  rw [hsum, hsum, List.map_cons, List.sum_cons]

namespace Session

open Run

variable {α : Type} [Scalar α] {s : Session α} {stage : BoxId → Stage}

/-- A row of frames. -/
def frames (ds : List Duration) : List (Event α) := ds.map fun d => .gesture (.tick d)

/-- Two sessions that differ at most in the number of frames that they have run. -/
structure SameButFrames (s s' : Session α) : Prop where
  rest : { s with clock := s'.clock } = s'
  now : s.clock.now = s'.clock.now

omit [Scalar α] in
theorem SameButFrames.trans {s s' s'' : Session α} (h : SameButFrames s s')
    (h' : SameButFrames s' s'') : SameButFrames s s'' where
  rest := by rw [← h'.rest, ← h.rest]
  now := h.now.trans h'.now

/-- Two frames do what one frame does that is as long as both. -/
theorem Sound.tick_tick (hs : s.Sound stage) (d e : Duration) :
    ∃ done s' done' s'' arrived s₁, (s.tick d).Yields (done, s') ∧ (s'.tick e).Yields (done', s'') ∧
      (s.tick (d + e)).Yields (arrived, s₁) ∧ SameButFrames s'' s₁ ∧
      (done ++ done').Perm arrived := by
  obtain ⟨done, q, active, done', r, active', arrived, hq, hr, hboth, hperm⟩ :=
    hs.steady.tick_tick d e
  refine ⟨done, _, done', _, arrived, _, .bind hq (.pure _), .bind hr (.pure _),
    .bind hboth (.pure _), ⟨rfl, ?_⟩, hperm⟩
  exact Duration.add_assoc _ _ _

theorem Sound.nodup_settled (hs : s.Sound stage) {d : Duration} {settled : List BoxId}
    {s' : Session α} (h : (s.tick d).Yields (settled, s')) : settled.Nodup := by
  obtain ⟨done, q, active, hyields, -, -, -, hnodup, -⟩ := hs.steady.tick d
  have heq := h.unique (.bind hyields (.pure _))
  rwa [(Prod.mk.inj heq).1]

/-- A row of frames does what one frame of their sum does, by as many reports for each box. -/
theorem Sound.frames (hs : s.Sound stage) (d : Duration) (ds : List Duration) :
    ∃ h s₁ settled s₂, (s.performAll (frames (d :: ds))).Yields (h, s₁) ∧
      (s.tick (d :: ds).sum).Yields (settled, s₂) ∧ SameButFrames s₁ s₂ ∧
      ∀ id, h.reports id = settled.count id := by
  induction ds generalizing s stage d with
  | nil =>
    obtain ⟨settled, s', hyields, -⟩ := hs.tick d
    refine ⟨[.ticked d settled], s', settled, s', .bind (.bind hyields (.pure _)) (.pure _), ?_,
      ⟨rfl, rfl⟩, fun id => Nat.zero_add _⟩
    show (s.tick (d + 0)).Yields _
    rwa [Duration.add_zero]
  | cons e ds ih =>
    obtain ⟨done, s', done', s'', arrived, s₂, hfirst, hsecond, hboth, hsame, hperm⟩ :=
      hs.tick_tick d (e :: ds).sum
    obtain ⟨done₁, s₁, hfirst', hsound, -⟩ := hs.tick d
    obtain ⟨h, s₃, settled, s₄, hall, hrest, hsame', hreports⟩ := ih hsound e
    cases hfirst.unique hfirst'
    cases hsecond.unique hrest
    refine ⟨.ticked d done :: h, s₃, arrived, s₂, ?_, hboth, hsame'.trans hsame, fun id => ?_⟩
    · exact .bind (.bind hfirst (.pure _)) (.bind hall (.pure _))
    · rw [History.reports_cons, hreports, ← hperm.count_eq, List.count_append]
      rfl

/-- **The frame rate does not matter.**  In every state of a session, a row of frames ends on the
same board, with the same transitions on their way and at the same time as one frame that is as long
as all of them together, and the boxes that come to rest in the row, each once, are those that come
to rest in this frame. -/
theorem frames_eq_tick_sum (measure : Measurer α) (config : Config α) (registry : GrammarRegistry)
    (es : List (Event α)) (d : Duration) (ds : List Duration) :
    ∃ h s, ((begin measure config registry).performAll es).Yields (h, s) ∧
      ∃ h' s₁ settled s₂, (s.performAll (frames (d :: ds))).Yields (h', s₁) ∧
        (s.tick (d :: ds).sum).Yields (settled, s₂) ∧ { s₁ with clock := s₂.clock } = s₂ ∧
        s₁.clock.now = s₂.clock.now ∧ settled.Nodup ∧
        ∀ id, History.reports id h' = settled.count id := by
  have hbegin := sound_begin measure config registry
  obtain ⟨h, s, hyields, run⟩ := hbegin.performAll es
  obtain ⟨h', s₁, settled, s₂, hframes, htick, hsame, hreports⟩ := (run.sound hbegin).frames d ds
  exact ⟨h, s, hyields, h', s₁, settled, s₂, hframes, htick, hsame.rest, hsame.now,
    (run.sound hbegin).nodup_settled htick, hreports⟩

end Session

end ParseBoxes
