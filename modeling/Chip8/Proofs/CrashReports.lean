import Chip8.Proofs.RunReports

/-!
# Reports of crashes

The crash of a machine is told at the end of what is printed, after the picture is saved. So it is
not told at all when the picture cannot be saved, though it is noted in any case.

* `Session.mem_log_of_fault` — a crash is in the log
* `Request.Ran.mem_log_of_fault`, `mem_errors_reportOn` — it is shown in the error output
* `crashLine_not_mem_ending` — it is not printed when the picture cannot be saved
* `crash_reported_iff_saved` — when a crash is told
-/

namespace Chip8

/-! ## Crashes in the log -/

/-- A run that crashed has noted it. -/
theorem Session.mem_log_of_fault {s : Session} {n : Int} {f : Fault} (hstart : s.fault = none)
    (hfault : (s.run n).fault = some f) :
    .crashed (s.run n).machine.pc f ∈ (s.run n).log := by
  let Noted (s : Session) : Prop := ∀ f, s.fault = some f → .crashed s.machine.pc f ∈ s.log
  have hstep (s : Session) (hs : s.crashed = false) (_ : Noted s) : Noted s.step := by
    have hnone := crashed_eq_false_iff.1 hs
    rw [step_eq hs]
    intro f
    cases s.machine.cycle s.keys s.previousKeys with
    | ok u machine => simp [hnone]
    | error g machine =>
      simp only
      split
      · rintro ⟨⟩
        exact Array.mem_push_self
      · simp [hnone]
  have hend (s : Session) (hs : s.halted = false) (_ : Noted s) : Noted s.endFrame := by
    intro f (hf : s.fault = some f)
    rw [(halted_eq_false_iff.1 hs).1] at hf
    cases hf
  have hresume : Noted s.resume := by
    intro f (hf : s.fault = some f)
    rw [hstart] at hf
    cases hf
  exact runFrames_induction hstep hend n.toNat hresume f hfault

namespace CommandLine

variable {σ : Type} {disk : Disk (StateM σ)} {files after : σ} {r : Request} {entropy : Nat}
  {o : RunOptions} {bytes : Array UInt8} {s : Session} {f : Fault}

theorem Request.Ran.command (ran : r.Ran disk files entropy o bytes s after) :
    r.command = .run o := by
  obtain ⟨fresh, loaded, hstarted, -⟩ := ran
  exact hstarted.command

/-- A run that made its frames and crashed has noted it. -/
theorem Request.Ran.mem_log_of_fault (ran : r.Ran disk files entropy o bytes s after)
    (hfault : s.fault = some f) : .crashed s.machine.pc f ∈ s.log := by
  obtain ⟨fresh, loaded, hstarted, hdrive, -⟩ := ran
  obtain ⟨settings, -, hstart⟩ := hstarted.start
  obtain ⟨m, -, rfl⟩ := Session.start_eq_ok_iff.1 hstart
  rw [RunOptions.drive] at hdrive
  split at hdrive
  · cases hdrive
    cases hfault
  · split at hdrive
    · cases hdrive
      exact Session.mem_log_of_fault rfl hfault
    · cases hdrive

/-- What is noted of a crash is shown in any case. -/
theorem mem_errors_reportOn {o : Outcome} {pc : Int} (h : .crashed pc f ∈ o.log) :
    (LogEntry.crashed pc f).text ∈ (r.reportOn o).errors := by
  refine List.mem_map_of_mem ?_
  rw [Array.mem_toList_iff]
  split
  · exact h
  · exact Array.mem_filter.2 ⟨h, rfl⟩

/-! ## Crashes in what is printed -/

/-- When a picture cannot be saved, no crash is printed. -/
theorem crashLine_not_mem_ending {o : RunOptions} {size : Nat} {trouble : Trouble} {rom : String}
    {pc : Int} :
    crashLine pc f ∉ (Outcome.ending ⟨opening o size s, s.log, .error trouble⟩ rom).2 := by
  have hcrash : initials (crashLine pc f) = ['E', 'm'] := initials_parts rfl [_, _, _]
  have hopening : crashLine pc f ∉ opening o size s := fun hmem =>
    (initials_of_mem_opening hmem).1 hcrash
  simp only [Outcome.ending]
  cases hline : trouble.line rom with
  | error failure => exact hopening
  | ok line =>
    rw [List.mem_append, List.mem_singleton, not_or]
    refine ⟨hopening, ?_⟩
    rintro rfl
    have hinitials := initials_of_line hline
    rw [hcrash] at hinitials
    simp at hinitials

/-- **A crash is told unless the picture cannot be saved.** A run has made its frames and crashed.
If the picture is saved, or none is asked for, the status is one and the last line tells the
crash. If it cannot be saved, nothing that is printed tells it: what was printed by then is followed
by the line about the picture, if there is one. The error output has the crash in any case. -/
theorem crash_reported_iff_saved {words : List String} {request : Request}
    (hparse : Request.parse words = .ok request)
    (hran : request.Ran disk files entropy o bytes s after) (hfault : s.fault = some f) :
    let r := ((report disk words entropy).run files).1
    let saved := ((saveScreen disk o s).run after).1
    (crashLine s.machine.pc f ∈ r.printed ↔ ∃ lines, saved = .ok lines) ∧
      (o.png.filter (!·.isEmpty) = none → ∃ lines, saved = .ok lines) ∧
      (∀ lines, saved = .ok lines →
        r.status = .exit 1 ∧ r.lines.getLast? = some (crashLine s.machine.pc f)) ∧
      (∀ trouble, saved = .error trouble →
        (r.status, r.printed) =
          match trouble.line o.rom with
          | .ok line => (.exit 1, opening o bytes.size s ++ [line])
          | .error failure => (.aborted failure, opening o bytes.size s)) ∧
      (LogEntry.crashed s.machine.pc f).text ∈ r.errors := by
  intro r saved
  have hlog := hran.mem_log_of_fault hfault
  have hreport : r = ((request.perform disk entropy).run files).1 := by
    show ((report disk words entropy).run files).1 = _
    rw [report_of_parse hparse]
  have hunasked : o.png.filter (!·.isEmpty) = none → ∃ lines, saved = .ok lines := by
    intro hpng
    exact ⟨[], (Saves.unasked hpng).eq⟩
  cases hsaved : saved with
  | error trouble =>
    rw [(Request.Ends.unsaved hran (saves_iff.2 hsaved)).perform_eq] at hreport
    have hending : (r.status, r.printed) =
        Outcome.ending ⟨opening o bytes.size s, s.log, .error trouble⟩ o.rom := by
      rw [hreport, Request.reportOn, hran.command]
      rfl
    have hprinted : r.printed = (Outcome.ending ⟨_, s.log, .error trouble⟩ o.rom).2 :=
      congrArg Prod.snd hending
    have hnot : crashLine s.machine.pc f ∉ r.printed := by
      rw [hprinted]
      exact crashLine_not_mem_ending
    refine ⟨iff_of_false hnot (by simp), hsaved ▸ hunasked, by simp, ?_, ?_⟩
    · rintro _ ⟨⟩
      exact hending
    · rw [hreport]
      exact mem_errors_reportOn hlog
  | ok lines =>
    rw [(Request.Ends.shown hran (saves_iff.2 hsaved)).perform_eq] at hreport
    have hstatus : r.status = .exit 1 := by
      rw [hreport, Session.crashed, hfault]
      rfl
    have hprinted : r.printed = opening o bytes.size s ++ lines ++ closing o s := by
      rw [hreport]
      rfl
    have hcrash : crashLine s.machine.pc f ∈ r.printed := by
      rw [hprinted, closing, crashLines, hfault]
      simp
    refine ⟨iff_of_true hcrash ⟨lines, rfl⟩, fun _ => ⟨lines, rfl⟩, ?_, by simp, ?_⟩
    · exact fun _ _ => ⟨hstatus, getLast?_lines_of_fault hfault hprinted⟩
    · rw [hreport]
      exact mem_errors_reportOn hlog

set_option maxRecDepth 4000 in
/-- The crash of a program that begins with a return, without a picture. -/
theorem crash_reported_iff_saved_return :
    let program : Program := ⟨#[0x00, 0xEE], by decide⟩
    let tree : FileTree := { entries := [(["rom.ch8"], .file (.bytes program.bytes))] }
    let r := ((report FileTree.disk ["run", "rom.ch8", "--frames", "1"] 0).run tree).1
    r.status = .exit 1 ∧ r.lines.getLast? = some (crashLine 0x200 .emptyStack) ∧
      (LogEntry.crashed 0x200 .emptyStack).text ∈ r.errors := by
  intro program tree r
  let o : RunOptions := { rom := "rom.ch8", frames := .number 1 }
  have hparse : Request.parse ["run", "rom.ch8", "--frames", "1"] = .ok ⟨false, none, .run o⟩ := by
    rfl
  have hunset : ∀ option ∈ o.overrides, option.2 = .unset := by simp [o, RunOptions.overrides]
  have hread : ((FileTree.disk.read "rom.ch8").run tree).1 = .ok program.bytes := by rfl
  obtain ⟨s, hran, hfault, -, -, -, hpc, -⟩ :=
    exists_ran_of_return false 0 (by decide) rfl rfl (by decide) hunset hread
  obtain ⟨-, hsaved, htold, -, hnoted⟩ := crash_reported_iff_saved hparse hran hfault
  obtain ⟨lines, hlines⟩ := hsaved rfl
  obtain ⟨hstatus, hlast⟩ := htold lines hlines
  rw [hpc] at hlast hnoted
  exact ⟨hstatus, hlast, hnoted⟩

set_option maxRecDepth 4000 in
/-- A program that begins with a return is run with a picture whose name tells no format. The crash
is not printed. -/
theorem crash_lost_with_picture :
    let program : Program := ⟨#[0x00, 0xEE], by decide⟩
    let tree : FileTree := { entries := [(["rom.ch8"], .file (.bytes program.bytes))] }
    let words := ["run", "rom.ch8", "--frames", "1", "--png", "out.xyz"]
    let o : RunOptions := { rom := "rom.ch8", frames := .number 1, png := "out.xyz" }
    let r := ((report FileTree.disk words 0).run tree).1
    Request.parse words = .ok ⟨false, none, .run o⟩ ∧
      (∃ s after, Request.Ran FileTree.disk tree ⟨false, none, .run o⟩ 0 o program.bytes s after ∧
        s.fault = some .emptyStack) ∧
      r.printed = ["Loaded ROM: rom.ch8 (2 bytes)", "Ran 0 frames, 0 instructions",
        "Error loading ROM: unknown file extension: .xyz"] ∧
      ∀ pc f, crashLine pc f ∉ r.lines := by
  intro program tree words o r
  have hparse : Request.parse words = .ok ⟨false, none, .run o⟩ := by rfl
  have hunset : ∀ option ∈ o.overrides, option.2 = .unset := by simp [o, RunOptions.overrides]
  have hread : ((FileTree.disk.read "rom.ch8").run tree).1 = .ok program.bytes := by rfl
  obtain ⟨s, hran, hfault, hkept, hframes, hcycles, -, hscreen⟩ :=
    exists_ran_of_return false 0 (by decide) rfl rfl (by decide) hunset hread
  obtain ⟨p, hpicture⟩ := exists_picture_of_blank hscreen hkept
  have hpng : o.png.filter (!·.isEmpty) = some "out.xyz" := by rfl
  have hextension : Path.extension "out.xyz" = ".xyz" := by decide +kernel
  have hformat : PictureFormat.ofPath? "out.xyz" p = none := by
    rw [PictureFormat.ofPath?, hextension]
    rfl
  have hends := Request.Ends.unsaved hran (.unnamed hpng hpicture hformat)
  rw [hextension] at hends
  have hopening : opening o program.bytes.size s =
      ["Loaded ROM: rom.ch8 (2 bytes)", "Ran 0 frames, 0 instructions"] := by
    have hloaded : loadedLine o 2 = "Loaded ROM: rom.ch8 (2 bytes)" := by rfl
    rw [opening_of_idle rfl rfl hframes hcycles]
    exact congrArg (· :: ["Ran 0 frames, 0 instructions"]) hloaded
  have hprinted : r.printed = opening o program.bytes.size s ++
      ["Error loading ROM: unknown file extension: .xyz"] := by
    have hreport : r = Request.reportOn ⟨false, none, .run o⟩
        ⟨opening o program.bytes.size s, s.log, .error (.extension ".xyz")⟩ := by
      show ((report FileTree.disk words 0).run tree).1 = _
      rw [report_of_parse hparse, hends.perform_eq]
    rw [hreport]
    rfl
  rw [hopening] at hprinted
  refine ⟨hparse, ⟨s, _, hran, hfault⟩, hprinted, ?_⟩
  have hlines : r.lines = r.printed := by
    refine Report.lines_of_lacks ?_
    rw [hprinted]
    decide
  intro pc f hmem
  rw [hlines, hprinted] at hmem
  have hothers : ∀ item ∈ ["Loaded ROM: rom.ch8 (2 bytes)", "Ran 0 frames, 0 instructions",
      "Error loading ROM: unknown file extension: .xyz"], initials item ≠ ['E', 'm'] := by decide
  exact hothers _ hmem (initials_parts rfl [_, _, _])

end CommandLine

end Chip8
