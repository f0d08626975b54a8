import ParseBoxes.Proofs.Command.Replaying
import ParseBoxes.Proofs.Report.Rows

/-!
# The lines of outputs

What is printed of a trace or of a frame has one line for each attempt or displayed box as long as
no label and no part of the ribbon breaks a line: these are written as they are, while texts in
quotation marks are escaped (`outputs_in_lines`, `label_and_ribbon_break_lines`).
-/

namespace ParseBoxes.Command

open Report

variable {files : Files} {o : RenderOptions} {config : Config Float} {paths : List (List Nat)}
  {d : TraceDocument}

theorem run_render_eq_ok {s : Session Float} (hjson : o.json = false)
    (hconfig : settings files o = .ok config) (hpaths : o.toggles.mapM readPath = .ok paths)
    (hd : readTrace files o.trace = .ok d) (hreplay : replay config o paths d = .ok s) :
    run files (.render o) = .ok [{ text := layout s.board.tree d.outcome s.frame }] := by
  have hprinted : printed o s.board.tree d.outcome s.frame =
      [{ text := layout s.board.tree d.outcome s.frame }] := if_neg (by simp [hjson])
  rw [run, render_eq_ok hconfig hpaths hd hreplay, hprinted]

theorem run_classify_eq_ok {path : String} (hd : readTrace files path = .ok d) :
    run files (.classify path) = .ok [{ text := trace d.nodes }] := by
  rw [run, classify, hd]
  rfl

/-- **Texts in lines.**  Whatever the settings, the trace and the toggles are, settled or not: what
is rendered has a header, the text of the ribbon and a row for each displayed box, in pre-order; what
is classified has a row for each attempt, in pre-order and whatever its visibility.  The row of a box
or of an attempt begins with two blanks for each one that it lies in and with its label.  The rows
are lines if no label breaks a line and, in what is rendered, nothing on the ribbon does.  Otherwise
there are not as many lines as rows. -/
theorem outputs_in_lines (files : Files) :
    (∀ o config paths d, o.json = false → settings files o = .ok config →
      o.toggles.mapM readPath = .ok paths → readTrace files o.trace = .ok d →
      (∀ path ∈ paths, (shown config d).atPath path ≠ none) →
      ∃ s text, replay config o paths d = .ok s ∧ s.board.tree = shown config d ∧
        run files (.render o) = .ok [{ text := text }] ∧
        ∃ rest, LinesIff s.Unbroken text (s.reportRows d.outcome rest)) ∧
    ∀ path d, readTrace files path = .ok d →
      ∃ text attempts, run files (.classify path) = .ok [{ text := text }] ∧
        attempts = TraceNode.forestAttempts 0 [] d.nodes ∧ attempts.Pairwise Attempt.Before ∧
        attempts.length = TraceNode.forestCount d.nodes ∧
        ∃ rest : Attempt → String, LinesIff (∀ a ∈ attempts, Unbroken a.node.label) text
          (attempts.map fun a => indent a.ancestors.length ++ (a.node.label ++ rest a)) := by
  refine ⟨fun o config paths d hjson hconfig hpaths hd hboxes => ?_, fun path d hd => ?_⟩
  · rcases replay_cases config o paths d with
      ⟨i, path, ⟨hi, hnone, -⟩, -⟩ | ⟨-, s, stage, hreplay, hs, htree⟩
    · exact absurd hnone (hboxes path (List.mem_of_getElem? hi))
    · exact ⟨s, _, hreplay, htree, run_render_eq_ok hjson hconfig hpaths hd hreplay,
        hs.layout_in_lines d.outcome⟩
  · exact ⟨_, _, run_classify_eq_ok hd, rfl, TraceNode.pairwise_forestAttempts 0 [] d.nodes,
      TraceNode.length_forestAttempts 0 [] d.nodes, trace_in_lines d.nodes⟩

/-- A word whose letter matched once another attempt had failed, with all fields by their places. -/
def wordText : String :=
  "[[true,\"word\",[\"other\",[0,1]],[\"a\"],[" ++
    "[false,\"digit\",[\"primitive\",[0,1]],[\"\"],[]]," ++
    "[true,\"letter\",[\"primitive\",[0,1]],[\"a\"],[]]]]]"

/-- It is rendered, with the word toggled and all frames run, on a line for each displayed box behind
the header and the ribbon, and it is classified on three lines, as it has three attempts. -/
theorem word_in_lines :
    let o : RenderOptions := { trace := "t.json", toggles := ["0"], settle := true }
    ∃ d s text text', readTrace (fun _ => .ok wordText) "t.json" = .ok d ∧
      (shown Config.standard d).atPath [0] ≠ none ∧ replay Config.standard o [[0]] d = .ok s ∧
      run (fun _ => .ok wordText) (.render o) = .ok [{ text := text }] ∧
      (∃ lines, Lines text lines ∧ lines.length = 2 + s.displayed.length) ∧
      run (fun _ => .ok wordText) (.classify "t.json") = .ok [{ text := text' }] ∧
      ∃ lines, Lines text' lines ∧ lines.length = 3 := by
  intro o
  have hparse : (TraceDocument.parse? wordText).map (fun d => (TraceNode.forestCount d.nodes,
      ((shown Config.standard d).atPath [0]).isSome,
      decide (Unbroken (shown Config.standard d).shownText),
      decide (∀ b, Unbroken ((shown Config.standard d).box b).label),
      decide (∀ a ∈ TraceNode.forestAttempts 0 [] d.nodes, Unbroken a.node.label))) =
        some (3, true, true, true, true) := by
    decide +kernel
  obtain ⟨d, hd, hfacts⟩ := Option.map_eq_some_iff.1 hparse
  simp only [Prod.mk.injEq, decide_eq_true_eq] at hfacts
  obtain ⟨hcount, hbox, hribbon, hlabels, hattempts⟩ := hfacts
  have hread : readTrace (fun _ => .ok wordText) "t.json" = .ok d := by
    simp only [readTrace, hd]
  have hpath : (shown Config.standard d).atPath [0] ≠ none := Option.isSome_iff_ne_none.1 hbox
  obtain ⟨hrendered, hclassified⟩ := outputs_in_lines fun _ => .ok wordText
  obtain ⟨s, text, hreplay, htree, hrun, rest, hlines⟩ :=
    hrendered o Config.standard [[0]] d rfl rfl rfl hread (List.forall_mem_singleton.2 hpath)
  obtain ⟨text', attempts, hrun', rfl, -, hlength, rest', hlines'⟩ := hclassified "t.json" d hread
  rw [← htree] at hribbon hlabels
  have hunbroken : s.Unbroken := ⟨hribbon, fun b _ => hlabels b⟩
  refine ⟨d, s, text, text', hread, hpath, hreplay, hrun,
    ⟨_, (hlines.lines_iff hunbroken _).2 rfl, s.length_reportRows d.outcome rest⟩, hrun', _,
    (hlines'.lines_iff hattempts _).2 rfl, ?_⟩
  rw [List.length_map, hlength, hcount]

/-- One attempt, with a line break in its label and one in its contents. -/
def brokenText : String :=
  "[\x7b\"succeeded\": true, \"displayString\": \"a\\nb\", " ++
    "\"expr\": \x7b\"kind\": \"primitive\", \"sourceInterval\": \x7b\"start\": 0, \"end\": 1\x7d\x7d, " ++
    "\"interval\": \x7b\"contents\": \"c\\nd\"\x7d, \"children\": []\x7d]"

/-- It is classified on two lines, though it is one attempt, and it is rendered on more lines than a
header, a ribbon and the displayed boxes make. -/
theorem label_and_ribbon_break_lines : ∃ d,
    readTrace (fun _ => .ok brokenText) "t.json" = .ok d ∧ TraceNode.forestCount d.nodes = 1 ∧
    (∃ text, run (fun _ => .ok brokenText) (.classify "t.json") = .ok [{ text := text }] ∧
      ¬∃ lines, Lines text lines ∧ lines.length = TraceNode.forestCount d.nodes) ∧
    ∃ s text, replay Config.standard { trace := "t.json" } [] d = .ok s ∧
      run (fun _ => .ok brokenText) (.render { trace := "t.json" }) = .ok [{ text := text }] ∧
      ¬∃ lines, Lines text lines ∧ lines.length = 2 + s.displayed.length := by
  have hparse : (TraceDocument.parse? brokenText).map (fun d => (TraceNode.forestCount d.nodes,
      breaks (trace d.nodes), breaks (shown Config.standard d).shownText)) = some (1, 2, 1) := by
    decide +kernel
  obtain ⟨d, hd, hfacts⟩ := Option.map_eq_some_iff.1 hparse
  simp only [Prod.mk.injEq] at hfacts
  obtain ⟨hcount, htrace, hribbon⟩ := hfacts
  have hread : readTrace (fun _ => .ok brokenText) "t.json" = .ok d := by
    simp only [readTrace, hd]
  refine ⟨d, hread, hcount, ⟨_, run_classify_eq_ok hread, ?_⟩, ?_⟩
  · rintro ⟨lines, hlines, hlength⟩
    rw [hlines.length_eq, htrace, hcount] at hlength
    cases hlength
  rcases replay_cases Config.standard { trace := "t.json" } [] d with
    ⟨i, path, ⟨hi, -, -⟩, -⟩ | ⟨-, s, stage, hreplay, hs, htree⟩
  · cases hi
  refine ⟨s, _, hreplay, run_render_eq_ok rfl rfl rfl hread hreplay, ?_⟩
  rintro ⟨lines, hlines, hlength⟩
  obtain ⟨rest, h⟩ := hs.layout_in_lines d.outcome
  rw [← s.length_reportRows d.outcome rest] at hlength
  have hunbroken := (h.of_length lines hlines hlength).1
  rw [htree, ← breaks_eq_zero_iff, hribbon] at hunbroken
  cases hunbroken

end ParseBoxes.Command
