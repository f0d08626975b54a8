import Mathlib.Data.List.Lex
import Mathlib.Order.Defs.LinearOrder
import ParseBoxes.Proofs.Command.Paths
import ParseBoxes.Proofs.Command.Replaying

/-!
# What is wrong with a rendering

Many things can be wrong with a rendering at once.  They have an order (`Mistake.rank`), and the
first of them is the one that a rendering fails of, before it has written anything
(`render_fails_of_first_mistake`).
-/

namespace ParseBoxes.Command

/-- Does a failure come from writing? -/
def Failure.isWriting : Failure → Bool
  | dataNotWritten | textNotWritten => true
  | _ => false

/-- What can be wrong with a rendering. -/
inductive Mistake where
  /-- The settings cannot be read. -/
  | settings
  /-- A part of a path to toggle is no index. -/
  | part (toggle part : Nat)
  /-- The trace cannot be read. -/
  | unreadable
  /-- What is read is no trace. -/
  | malformed
  /-- A path to toggle leads to no box. -/
  | noBox (toggle : Nat)

/-- Numbers whose lexicographic order is the order in which mistakes are looked for. -/
def Mistake.rank : Mistake → List Nat
  | settings => [0]
  | part i j => [1, i, j]
  | unreadable => [2]
  | malformed => [3]
  | noBox i => [4, i]

namespace Mistake

theorem rank_injective : Function.Injective rank := by
  intro m m' h
  cases m <;> cases m' <;> simp_all [rank]

variable {m : Mistake} {i j : Nat}

theorem not_rank_lt_settings : ¬m.rank < rank .settings := by
  cases m <;> simp [rank, List.cons_lt_cons_iff, -not_lt]

theorem rank_lt_part_iff : m.rank < rank (.part i j) ↔
    m = .settings ∨ ∃ i' j', m = .part i' j' ∧ (i' < i ∨ i' = i ∧ j' < j) := by
  cases m <;> simp [rank, List.cons_lt_cons_iff]

theorem rank_lt_unreadable_iff :
    m.rank < rank .unreadable ↔ m = .settings ∨ ∃ i j, m = .part i j := by
  cases m <;> simp [rank, List.cons_lt_cons_iff]

theorem rank_lt_malformed_iff : m.rank < rank .malformed ↔
    m = .settings ∨ (∃ i j, m = .part i j) ∨ m = .unreadable := by
  cases m <;> simp [rank, List.cons_lt_cons_iff]

theorem rank_lt_noBox_iff : m.rank < rank (.noBox i) ↔
    m = .settings ∨ (∃ i j, m = .part i j) ∨ m = .unreadable ∨ m = .malformed ∨
      ∃ i' < i, m = .noBox i' := by
  cases m <;> simp [rank, List.cons_lt_cons_iff]

end Mistake

/-- A rendering has a mistake, of which it would fail in this way. -/
inductive Made (files : Files) (o : RenderOptions) : Mistake → Failure → Prop
  | settings {path : String} {e : ConfigError} (hpath : o.config = some path)
      (he : Config.ofFile path (files path) = .error e) : Made files o .settings (.config e)
  | part {i j : Nat} {text : String} {cs : List Char} (htext : o.toggles[i]? = some text)
      (hcs : (BoxPath.parts text)[j]? = some cs) (hno : ∀ n, ¬BoxPath.IsNumeral (Text.trim cs) n) :
      Made files o (.part i j) (.invalidArgument
        ("bad path segment \x60" ++ String.ofList cs ++ "\x60 in \x60" ++ text ++ "\x60"))
  | unreadable {e : FileError} (he : files o.trace = .error e) :
      Made files o .unreadable (.unreadable o.trace e)
  | malformed {text : String} (htext : files o.trace = .ok text)
      (hno : TraceDocument.parse? text = none) : Made files o .malformed .malformedTrace
  | noBox {i : Nat} {text : String} {path : List Nat} {config : Config Float} {d : TraceDocument}
      (htext : o.toggles[i]? = some text) (hpath : BoxPath.parse text = .ok path)
      (hconfig : settings files o = .ok config) (hd : readTrace files o.trace = .ok d)
      (hno : (TreeBuilder.build ⟨config.glyph⟩ d.nodes 1).atPath path = none) :
      Made files o (.noBox i) (.invalidArgument ("no box at path " ++ BoxPath.print path))

/-- The first mistake of a rendering. -/
structure First (files : Files) (o : RenderOptions) (m : Mistake) (f : Failure) : Prop where
  made : Made files o m f
  least : ∀ m' f', m'.rank < m.rank → ¬Made files o m' f'

variable {files : Files} {o : RenderOptions} {m : Mistake} {f : Failure}
  {config : Config Float} {paths : List (List Nat)} {d : TraceDocument}

/-- A mistake is reported in one way. -/
theorem Made.unique {f' : Failure} (h : Made files o m f) (h' : Made files o m f') : f = f' := by
  cases h with
  | settings hpath he =>
    cases h' with
    | settings hpath' he' =>
      cases hpath.symm.trans hpath'
      cases he.symm.trans he'
      rfl
  | part htext hcs hno =>
    cases h' with
    | part htext' hcs' hno' =>
      cases htext.symm.trans htext'
      cases hcs.symm.trans hcs'
      rfl
  | unreadable he =>
    cases h' with
    | unreadable he' =>
      cases he.symm.trans he'
      rfl
  | malformed htext hno => cases h'; rfl
  | noBox htext hpath hconfig hd hno =>
    cases h' with
    | noBox htext' hpath' hconfig' hd' hno' =>
      cases htext.symm.trans htext'
      cases hpath.symm.trans hpath'
      rfl

/-- There is one first mistake at most, and so one report. -/
theorem First.unique {m' : Mistake} {f' : Failure} (h : First files o m f)
    (h' : First files o m' f') : f = f' := by
  have hm : m = m' := by
    refine Mistake.rank_injective ?_
    rcases lt_trichotomy m.rank m'.rank with hlt | heq | hlt
    · exact absurd h.made (h'.least m f hlt)
    · exact heq
    · exact absurd h'.made (h.least m' f' hlt)
  subst hm
  exact h.made.unique h'.made

theorem Made.isWriting_eq_false (h : Made files o m f) : f.isWriting = false := by
  cases h <;> rfl

/-! ## Mistakes of each kind -/

theorem settings_eq_error_iff : settings files o = .error f ↔ Made files o .settings f := by
  unfold settings
  constructor
  · intro h
    cases hpath : o.config with
    | none =>
      rw [hpath] at h
      cases h
    | some path =>
      rw [hpath] at h
      cases he : Config.ofFile path (files path) with
      | error e =>
        simp only [he] at h
        cases h
        exact .settings hpath he
      | ok config =>
        simp only [he] at h
        cases h
  · rintro ⟨hpath, he⟩
    simp only [hpath, he]
    rfl

theorem readPath_eq_ok_iff {text : String} {path : List Nat} :
    readPath text = .ok path ↔ BoxPath.parse text = .ok path := by
  unfold readPath
  cases BoxPath.parse text <;> simp [Except.mapError]

/-- A trace fails just by a file that is not read or that holds no trace. -/
theorem readTrace_eq_error_iff : readTrace files o.trace = .error f ↔
    Made files o .unreadable f ∨ Made files o .malformed f := by
  unfold readTrace
  constructor
  · intro h
    cases hfile : files o.trace with
    | error e =>
      simp only [hfile] at h
      cases h
      exact .inl (.unreadable hfile)
    | ok text =>
      cases hparse : TraceDocument.parse? text with
      | none =>
        simp only [hfile, hparse] at h
        cases h
        exact .inr (.malformed hfile hparse)
      | some d =>
        simp only [hfile, hparse] at h
        cases h
  · rintro (h | h)
    · cases h with
      | unreadable he => simp only [he]
    · cases h with
      | malformed htext hno => simp only [htext, hno]

/-- A path to toggle is not read because of its first part that is no index. -/
theorem exists_part_of_readPath_eq_error {i : Nat} {text : String} (htext : o.toggles[i]? = some text)
    (h : readPath text = .error f) :
    ∃ j, Made files o (.part i j) f ∧ ∀ k < j, ∀ f', ¬Made files o (.part i k) f' := by
  unfold readPath at h
  cases hparse : BoxPath.parse text with
  | ok path =>
    rw [hparse] at h
    cases h
  | error e =>
    rw [hparse] at h
    cases h
    obtain ⟨j, cs, hcs, ⟨hno, rfl⟩, hbefore⟩ := BoxPath.parse_eq_error_iff.1 hparse
    refine ⟨j, .part htext hcs hno, fun k hk f' hmade => ?_⟩
    cases hmade with
    | part htext' hcs' hno' =>
      cases htext.symm.trans htext'
      obtain ⟨n, hn⟩ := hbefore k hk _ hcs'
      exact hno' n hn

theorem not_settings (h : settings files o = .ok config) : ¬Made files o .settings f := by
  rw [← settings_eq_error_iff, h]
  exact nofun

theorem not_trace (h : readTrace files o.trace = .ok d) :
    ¬Made files o .unreadable f ∧ ¬Made files o .malformed f := by
  rw [← not_or, ← readTrace_eq_error_iff, h]
  exact nofun

theorem Made.readPath_ne_ok {i j : Nat} (h : Made files o (.part i j) f) :
    ∃ text, o.toggles[i]? = some text ∧ ∀ path, readPath text ≠ .ok path := by
  cases h with
  | part htext hcs hno =>
    refine ⟨_, htext, fun path hread => ?_⟩
    have hparts := BoxPath.parse_eq_ok_iff.1 (readPath_eq_ok_iff.1 hread)
    obtain ⟨n, hn⟩ := exists_forall₂_iff.1 ⟨_, hparts⟩ _ (List.mem_of_getElem? hcs)
    exact hno n hn

theorem not_part (h : o.toggles.mapM readPath = .ok paths) {i j : Nat} :
    ¬Made files o (.part i j) f := by
  intro hmade
  obtain ⟨text, htext, hno⟩ := hmade.readPath_ne_ok
  obtain ⟨path, -, hread⟩ := exists_getElem?_of_forall₂ (mapM_eq_ok_iff.1 h) htext
  exact hno path hread

/-- Where all has been read, what is left is a path that leads to no box. -/
theorem noBox_iff {i : Nat} (hconfig : settings files o = .ok config)
    (hpaths : o.toggles.mapM readPath = .ok paths) (hd : readTrace files o.trace = .ok d) :
    Made files o (.noBox i) f ↔
      ∃ path, paths[i]? = some path ∧ (shown config d).atPath path = none ∧ f = noBox path := by
  have hrow := mapM_eq_ok_iff.1 hpaths
  constructor
  · intro h
    cases h with
    | noBox htext hpath hconfig' hd' hno =>
      cases hconfig.symm.trans hconfig'
      cases hd.symm.trans hd'
      obtain ⟨path, hi, hread⟩ := exists_getElem?_of_forall₂ hrow htext
      cases hpath.symm.trans (readPath_eq_ok_iff.1 hread)
      exact ⟨_, hi, hno, rfl⟩
  · rintro ⟨path, hi, hno, rfl⟩
    obtain ⟨text, htext, hread⟩ := exists_getElem?_of_forall₂ hrow.flip hi
    exact .noBox htext (readPath_eq_ok_iff.1 hread) hconfig hd hno

/-! ## The first mistake -/

/-- A path that is not read has a first part that is no index. -/
theorem first_part (hconfig : settings files o = .ok config)
    (h : o.toggles.mapM readPath = .error f) : ∃ m, First files o m f := by
  obtain ⟨i, text, htext, herror, hbefore⟩ := mapM_eq_error_iff.1 h
  obtain ⟨j, hmade, hleast⟩ := exists_part_of_readPath_eq_error htext herror
  refine ⟨_, hmade, fun m f' hlt hmade' => ?_⟩
  rcases Mistake.rank_lt_part_iff.1 hlt with rfl | ⟨i', j', rfl, hi | ⟨rfl, hj⟩⟩
  · exact not_settings hconfig hmade'
  · obtain ⟨text', htext', hno⟩ := hmade'.readPath_ne_ok
    obtain ⟨path, hread⟩ := hbefore i' hi text' htext'
    exact hno path hread
  · exact hleast j' hj f' hmade'

theorem first_of_trace (hconfig : settings files o = .ok config)
    (hpaths : o.toggles.mapM readPath = .ok paths) (h : readTrace files o.trace = .error f) :
    ∃ m, First files o m f := by
  rcases readTrace_eq_error_iff.1 h with hmade | hmade
  · refine ⟨_, hmade, fun m f' hlt hmade' => ?_⟩
    rcases Mistake.rank_lt_unreadable_iff.1 hlt with rfl | ⟨i, j, rfl⟩
    · exact not_settings hconfig hmade'
    · exact not_part hpaths hmade'
  · refine ⟨_, hmade, fun m f' hlt hmade' => ?_⟩
    rcases Mistake.rank_lt_malformed_iff.1 hlt with rfl | ⟨i, j, rfl⟩ | rfl
    · exact not_settings hconfig hmade'
    · exact not_part hpaths hmade'
    · -- A trace that has been read is not also unreadable.
      cases hmade with
      | malformed htext hno =>
        cases hmade' with
        | unreadable he => cases htext.symm.trans he

/-- Where all has been read, the first path that leads nowhere is the first mistake. -/
theorem first_noBox (hconfig : settings files o = .ok config)
    (hpaths : o.toggles.mapM readPath = .ok paths) (hd : readTrace files o.trace = .ok d) {i : Nat}
    {path : List Nat} (h : LeadsNowhere (shown config d) paths i path) :
    First files o (.noBox i) (noBox path) := by
  obtain ⟨hi, hno, hbefore⟩ := h
  refine ⟨(noBox_iff hconfig hpaths hd).2 ⟨path, hi, hno, rfl⟩, fun m f' hlt hmade' => ?_⟩
  rcases Mistake.rank_lt_noBox_iff.1 hlt with rfl | ⟨i', j, rfl⟩ | rfl | rfl | ⟨i', hi', rfl⟩
  · exact not_settings hconfig hmade'
  · exact not_part hpaths hmade'
  · exact (not_trace hd).1 hmade'
  · exact (not_trace hd).2 hmade'
  · obtain ⟨path', hpath', hno', -⟩ := (noBox_iff hconfig hpaths hd).1 hmade'
    exact hbefore i' hi' path' hpath' hno'

theorem isWriting_of_mem_printed {t : BoxTree} {outcome : MatchOutcome} {frame : Snapshot Float}
    {out : Output} (h : out ∈ printed o t outcome frame) : out.ifFull.isWriting = true := by
  unfold printed at h
  split at h
  · rcases List.mem_pair.1 h with rfl | rfl <;> rfl
  · rw [List.mem_singleton.1 h]
    rfl

/-- A rendering fails because of its first mistake, or it has none and gives texts. -/
theorem render_cases (files : Files) (o : RenderOptions) :
    (∃ m f, First files o m f ∧ render files o = .error f) ∨
    (∀ m f, ¬Made files o m f) ∧ ∃ outputs, render files o = .ok outputs ∧
      ∀ out ∈ outputs, out.ifFull.isWriting = true := by
  cases hconfig : settings files o with
  | error f =>
    exact .inl ⟨_, f, ⟨settings_eq_error_iff.1 hconfig,
      fun _ _ hlt => absurd hlt Mistake.not_rank_lt_settings⟩, by rw [render, hconfig]; rfl⟩
  | ok config =>
  cases hpaths : o.toggles.mapM readPath with
  | error f =>
    obtain ⟨m, hfirst⟩ := first_part hconfig hpaths
    exact .inl ⟨m, f, hfirst, by rw [render, hconfig, hpaths]; rfl⟩
  | ok paths =>
  cases hd : readTrace files o.trace with
  | error f =>
    obtain ⟨m, hfirst⟩ := first_of_trace hconfig hpaths hd
    exact .inl ⟨m, f, hfirst, by rw [render, hconfig, hpaths, hd]; rfl⟩
  | ok d =>
  -- all has been read, so nothing is left but paths that lead nowhere
  rcases replay_cases config o paths d with
    ⟨i, path, hnowhere, herror⟩ | ⟨hall, s, stage, hreplay, hs, htree⟩
  · refine .inl ⟨_, _, first_noBox hconfig hpaths hd hnowhere, ?_⟩
    simp only [render, hconfig, hpaths, hd, herror, bind, Except.bind]
  refine .inr ⟨fun m f hmade => ?_, ?_⟩
  · cases m with
    | settings => exact not_settings hconfig hmade
    | part i j => exact not_part hpaths hmade
    | unreadable => exact (not_trace hd).1 hmade
    | malformed => exact (not_trace hd).2 hmade
    | noBox i =>
      obtain ⟨path, hi, hno, -⟩ := (noBox_iff hconfig hpaths hd).1 hmade
      exact hall path (List.mem_of_getElem? hi) hno
  · exact ⟨_, render_eq_ok hconfig hpaths hd hreplay, fun out => isWriting_of_mem_printed⟩

theorem write_eq_some {room : Nat} {written written' : ByteArray} {outputs : List Output}
    (h : write room written outputs = (written', some f)) : ∃ out ∈ outputs, f = out.ifFull := by
  induction outputs generalizing room written with
  | nil => cases h
  | cons out outputs ih =>
    simp only [write] at h
    split at h
    · obtain ⟨out', hmem, hf⟩ := ih h
      exact ⟨out', List.mem_cons_of_mem _ hmem, hf⟩
    · cases h
      exact ⟨out, List.mem_cons_self, rfl⟩

/-- Failures other than those of writing are those of running. -/
theorem execute_fails_iff {room : Nat} {written : ByteArray} :
    execute files room (.render o) = (written, some f) ∧ f.isWriting = false ↔
      written = .empty ∧ render files o = .error f := by
  rw [execute, run]
  rcases render_cases files o with ⟨m, f', hfirst, hrender⟩ | ⟨-, outputs, hrender, hwriting⟩
  · rw [hrender]
    have hf' := hfirst.made.isWriting_eq_false
    constructor
    · rintro ⟨⟨⟩, -⟩
      exact ⟨rfl, rfl⟩
    · rintro ⟨rfl, ⟨⟩⟩
      exact ⟨rfl, hf'⟩
  · rw [hrender]
    constructor
    · rintro ⟨hwrite, hf⟩
      obtain ⟨out, hmem, rfl⟩ := write_eq_some hwrite
      rw [hwriting out hmem] at hf
      cases hf
    · rintro ⟨-, ⟨⟩⟩

/-- **A rendering fails of its first mistake, before it writes anything.**  Whatever the arguments
and the files are, a failure that does not come from writing leaves nothing written, and it is that
of the first mistake in the order of settings, parts of paths, reading the trace, its form, and
paths without a box.  Without mistakes there are texts to write.  What a path leads to on the trace
does not depend on the toggles that have been applied. -/
theorem render_fails_of_first_mistake (files : Files) (o : RenderOptions) :
    (∀ room written f, execute files room (.render o) = (written, some f) → f.isWriting = false →
      written = .empty ∧ ∃ m, First files o m f) ∧
    (∀ room m f, First files o m f → execute files room (.render o) = (.empty, some f)) ∧
    ((∀ m f, ¬Made files o m f) → ∃ outputs, run files (.render o) = .ok outputs) ∧
    ∀ config d, ∃ s, load config d = .ok s ∧
      ∀ (paths : List (List Nat)) (s' : Session Float), paths.foldlM toggle s = .ok s' →
        ∀ text path, BoxPath.parse text = .ok path → s'.boxAt path = s.boxAt path := by
  refine ⟨fun room written f hfails hf => ?_, fun room m f hfirst => ?_, fun hno => ?_,
    fun config d => ?_⟩
  · obtain ⟨hwritten, hrender⟩ := execute_fails_iff.1 ⟨hfails, hf⟩
    rcases render_cases files o with ⟨m, f', hfirst, hrender'⟩ | ⟨-, outputs, hrender', -⟩
    · cases hrender.symm.trans hrender'
      exact ⟨hwritten, m, hfirst⟩
    · cases hrender.symm.trans hrender'
  · rcases render_cases files o with ⟨m', f', hfirst', hrender⟩ | ⟨hno, -⟩
    · rw [hfirst.unique hfirst']
      exact (execute_fails_iff.2 ⟨rfl, hrender⟩).1
    · exact absurd hfirst.made (hno m f)
  · rcases render_cases files o with ⟨m, f, hfirst, -⟩ | ⟨-, outputs, hrender, -⟩
    · exact absurd hfirst.made (hno m f)
    · exact ⟨outputs, hrender⟩
  · obtain ⟨s, hload, hs, -⟩ := load_eq_ok config d
    exact ⟨s, hload, fun paths s' htoggles text path _ => boxAt_of_toggles hs htoggles path⟩

end ParseBoxes.Command
