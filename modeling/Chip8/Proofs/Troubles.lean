import Chip8.Proofs.RunReports

/-!
# Trouble with files

Any file can be missing, locked or a directory: that of the program, that of the picture and that
of the log. This file tells how each of them shows in the report.

* `missing_mem_ending_iff` — which trouble is told as a missing program
* `rom_blamed_iff` — when a program is said to be missing
* `Trouble.line_eq_error_iff` — which trouble is passed over without a word
* `Request.Escapes` — why a request ends without a word
* `file_trouble_told` — how requests end, and which trouble with files is told
-/

namespace Chip8.CommandLine

variable {σ : Type} {disk : Disk (StateM σ)} {files : σ} {r : Request} {entropy : Nat}

/-! ## Missing programs -/

/-- A program is said to be missing when a file is not found, whichever it is. -/
theorem missing_mem_ending_iff {printed : List String} {log : Array LogEntry} {trouble : Trouble}
    {rom : String} (hprinted : missingLine rom ∉ printed) :
    missingLine rom ∈ (Outcome.ending ⟨printed, log, .error trouble⟩ rom).2 ↔
      ∃ path, trouble = .file path .notFound := by
  simp only [Outcome.ending]
  constructor
  · cases hline : trouble.line rom with
    | error f => exact fun hmem => absurd hmem hprinted
    | ok line =>
      simp only [List.mem_append, List.mem_singleton, hprinted, false_or]
      rintro rfl
      have hmissing : initials (missingLine rom) = ['R', 'O'] := initials_append rfl rom
      simpa [hmissing] using initials_of_line hline
  · rintro ⟨path, rfl⟩
    exact List.mem_append_right _ (List.mem_singleton_self _)

theorem missing_not_mem_opening (o : RunOptions) (size : Nat) (s : Session) (rom : String) :
    missingLine rom ∉ opening o size s := fun hmem =>
  (initials_of_mem_opening hmem).2 (initials_append rfl rom)

theorem missing_not_mem_of_saved {o : RunOptions} {s : Session} {saved : List String}
    (size : Nat) (rom : String) (save : Saves disk files o s (.ok saved)) :
    missingLine rom ∉ opening o size s ++ saved ++ closing o s := by
  have hmissing : initials (missingLine rom) = ['R', 'O'] := initials_append rfl rom
  rw [List.mem_append, List.mem_append]
  rintro ((hopening | hsaved) | hclosing)
  · exact missing_not_mem_opening o size s rom hopening
  · cases save with
    | unasked png => cases hsaved
    | written png picture format write =>
      rw [List.mem_singleton] at hsaved
      have hinitials (path : String) : initials (savedLine path) = ['S', 'c'] :=
        initials_append rfl path
      rw [hsaved, hinitials] at hmissing
      cases hmissing
  · exact initials_of_mem_closing hclosing hmissing

/-- **A program is said to be missing** in two cases: when it is opened and is not there, and when
the file of the picture is not found. -/
theorem rom_blamed_iff {words : List String} (hparse : Request.parse words = .ok r)
    (disk : Disk (StateM σ)) (files : σ) (entropy : Nat) :
    missingLine r.command.rom ∈ ((report disk words entropy).run files).1.printed ↔
      (∃ opened, (r.openLog disk).run files = (.ok (), opened) ∧ r.command.Opens ∧
          ((disk.read r.command.rom).run opened).1 = .error .notFound) ∨
        ∃ o bytes s after path, r.Ran disk files entropy o bytes s after ∧
          ((saveScreen disk o s).run after).1 = .error (.file path .notFound) := by
  rw [report_of_parse hparse]
  constructor
  · intro hmem
    obtain ⟨answer, hends⟩ := r.exists_ends disk files entropy
    rw [hends.perform_eq] at hmem
    cases hends with
    | unlogged log => cases hmem
    | unset | unstarted | unplaced =>
      obtain ⟨path, hpath⟩ := (missing_mem_ending_iff (by simp)).1 hmem
      cases hpath
    | unread log opens read =>
      obtain ⟨path, hpath⟩ := (missing_mem_ending_iff (by simp)).1 hmem
      cases hpath
      exact .inl ⟨_, log, opens, read⟩
    | undriven started drive =>
      have hloaded (o : RunOptions) (size : Nat) :
          missingLine r.command.rom ≠ loadedLine o size := by
        intro heq
        have hloaded : initials (loadedLine o size) = ['L', 'o'] :=
          initials_parts rfl [_, _, _, _]
        have hmissing : initials (missingLine r.command.rom) = ['R', 'O'] := initials_append rfl _
        rw [heq, hloaded] at hmissing
        cases hmissing
      obtain ⟨path, hpath⟩ := (missing_mem_ending_iff (by simpa using hloaded _ _)).1 hmem
      cases hpath
    | unsaved ran save =>
      obtain ⟨path, rfl⟩ := (missing_mem_ending_iff (missing_not_mem_opening _ _ _ _)).1 hmem
      exact .inr ⟨_, _, _, _, path, ran, save.eq⟩
    | shown ran save => exact absurd hmem (missing_not_mem_of_saved _ _ save)
    | listed log command read place =>
      exact absurd (initials_append rfl _) (initials_of_mem_listing hmem)
  · rintro (⟨opened, log, opens, read⟩ | ⟨o, bytes, s, after, path, ran, save⟩)
    · rw [(Request.Ends.unread log opens read).perform_eq]
      exact (missing_mem_ending_iff (by simp)).2 ⟨_, rfl⟩
    · rw [(Request.Ends.unsaved ran (saves_iff.2 save)).perform_eq]
      exact (missing_mem_ending_iff (missing_not_mem_opening _ _ _ _)).2 ⟨path, rfl⟩

set_option maxRecDepth 4000 in
/-- A program that is not there, listed. -/
theorem rom_blamed_iff_missing :
    let r := ((report FileTree.disk ["disasm", "rom.ch8"] 0).run ⟨[], []⟩).1
    missingLine "rom.ch8" ∈ r.printed := by
  have hparse : Request.parse ["disasm", "rom.ch8"] =
      .ok ⟨false, none, .list { rom := "rom.ch8" }⟩ := by rfl
  exact (rom_blamed_iff hparse FileTree.disk _ 0).2 (.inl ⟨_, rfl, trivial, by rfl⟩)

set_option maxRecDepth 4000 in
/-- A program that is there, and a picture in a directory that is not: the program is said to be
missing. -/
theorem rom_blamed_for_picture :
    let program : Program := ⟨#[0x12, 0x00], by decide⟩
    let tree : FileTree := { entries := [(["rom.ch8"], .file (.bytes program.bytes))] }
    let words := ["run", "rom.ch8", "--frames", "0", "--png", "missing/out.png"]
    let r := ((report FileTree.disk words 0).run tree).1
    (∃ o, Request.parse words = .ok ⟨false, none, .run o⟩ ∧ o.rom = "rom.ch8") ∧
      tree.read "rom.ch8" = .ok program.bytes ∧
      r.printed = ["Loaded ROM: rom.ch8 (2 bytes)", "Ran 0 frames, 0 instructions",
        "ROM file not found: rom.ch8"] := by
  intro program tree words r
  let o : RunOptions := { rom := "rom.ch8", frames := .number 0, png := "missing/out.png" }
  have hparse : Request.parse words = .ok ⟨false, none, .run o⟩ := by rfl
  have hsettings : Settings.standard.override o.overrides = .ok .standard :=
    override_of_unset _ (by simp [o, RunOptions.overrides])
  have hseed : ∀ seed ∈ Settings.standard.seed, ∀ n ∈ seed.parts, 0 ≤ n := by rintro _ ⟨⟩
  have hread : ((FileTree.disk.read "rom.ch8").run tree).1 = .ok program.bytes := by rfl
  let source := RandomSource.ofEntropy (Seed.number 0).entropy
  let s := (Session.ofMachine .standard (.powerOn program source) false).run 0
  have hran : Request.Ran FileTree.disk tree ⟨false, none, .run o⟩ 0 o program.bytes s tree :=
    ran_unlogged rfl rfl hsettings hread hseed
  obtain ⟨p, hpicture⟩ : ∃ p, picture FileTree.disk.room s = .ok p :=
    exists_picture_of_blank rfl rfl
  have hpng : o.png.filter (!·.isEmpty) = some "missing/out.png" := by rfl
  have hextension : Path.extension "missing/out.png" = ".png" := by decide +kernel
  have hformat : PictureFormat.ofPath? "missing/out.png" p = some .written := by
    rw [PictureFormat.ofPath?, hextension]
    rfl
  have hwrite : ((FileTree.disk.write "missing/out.png" (.picture p)).run tree).1 =
      .error .notFound := by rfl
  have hends := Request.Ends.unsaved hran (.unwritten hpng hpicture hformat hwrite)
  have hopening : opening o program.bytes.size s =
      ["Loaded ROM: rom.ch8 (2 bytes)", "Ran 0 frames, 0 instructions"] := by
    have hloaded : loadedLine o 2 = "Loaded ROM: rom.ch8 (2 bytes)" := by rfl
    rw [opening_of_idle rfl rfl rfl rfl]
    exact congrArg (· :: ["Ran 0 frames, 0 instructions"]) hloaded
  have hreport : r = Request.reportOn ⟨false, none, .run o⟩
      ⟨opening o program.bytes.size s, s.log, .error (.file "missing/out.png" .notFound)⟩ := by
    show ((report FileTree.disk words 0).run tree).1 = _
    rw [report_of_parse hparse, hends.perform_eq]
  have hprinted : r.printed = opening o program.bytes.size s ++ [missingLine "rom.ch8"] := by
    rw [hreport]
    rfl
  refine ⟨⟨o, hparse, rfl⟩, by rfl, ?_⟩
  rw [hprinted, hopening]
  rfl

/-! ## Endings without a word -/

/-- The trouble that is passed over without a word: an option without a value, a picture that is too
large, and what is a failure by itself. -/
theorem Trouble.line_eq_error_iff {trouble : Trouble} {rom : String} {f : Failure} :
    trouble.line rom = .error f ↔
      (∃ option, trouble = .settings (.wrongKind option) ∧ .wrongKind option = f) ∨
        (∃ e, trouble = .picture e ∧ isReported e = false ∧ .picture e = f) ∨
        trouble = .failure f := by
  cases trouble with
  | settings e => cases e <;> simp [line]
  | file path e => cases e <;> simp [line]
  | picture e =>
    rw [line]
    cases hreported : isReported e <;> simp [hreported]
  | boot e | extension text | format e => simp [line]
  | failure g => simp [line]

/-- A run is not driven if it has no window and the number of its frames is not given. -/
theorem RunOptions.drive_eq_error_iff {o : RunOptions} {s : Session} {f : Failure} :
    o.drive s = .error f ↔
      o.interactive = false ∧ (∀ n, o.frames ≠ .number n) ∧ .wrongKind "frames" = f := by
  rw [drive]
  cases o.interactive with
  | true => simp
  | false => cases o.frames <;> simp

/-- A program has no place if it has bytes and the address of the first is not given. -/
theorem ListOptions.lines_eq_error_iff {o : ListOptions} {bytes : List UInt8} {f : Failure} :
    o.lines bytes = .error f ↔
      (∀ n, o.start ≠ .number n) ∧ bytes ≠ [] ∧ .wrongKind "start" = f := by
  unfold lines
  cases o.start <;> cases bytes <;> simp

/-- Why a request ends without a word to its user. -/
inductive Request.Escapes (disk : Disk (StateM σ)) (files : σ) (r : Request) (entropy : Nat) :
    Failure → Prop where
  /-- Its log file cannot be opened. -/
  | log {e : FileError} (log : ((r.openLog disk).run files).1 = .error e) :
    Escapes disk files r entropy (.logFile e)
  /-- An option that makes settings has no value. -/
  | settings {o : RunOptions} {option : String} {opened : σ}
    (log : (r.openLog disk).run files = (.ok (), opened)) (command : r.command = .run o)
    (override : Settings.standard.override o.overrides = .error (.wrongKind option)) :
    Escapes disk files r entropy (.wrongKind option)
  /-- The number of the frames has no value. -/
  | frames {o : RunOptions} {bytes : Array UInt8} {s : Session} {loaded : σ}
    (started : r.Started disk files entropy o bytes s loaded) (windowless : o.interactive = false)
    (frames : ∀ n, o.frames ≠ .number n) : Escapes disk files r entropy (.wrongKind "frames")
  /-- The picture cannot be drawn, and that is not reported. -/
  | picture {o : RunOptions} {bytes : Array UInt8} {s : Session} {after : σ} {path : String}
    {e : PictureError} (ran : r.Ran disk files entropy o bytes s after)
    (png : o.png.filter (!·.isEmpty) = some path) (picture : picture disk.room s = .error e)
    (unreported : isReported e = false) : Escapes disk files r entropy (.picture e)
  /-- The format of the picture can only be read. -/
  | format {o : RunOptions} {bytes : Array UInt8} {s : Session} {after : σ} {path : String}
    {p : Picture} (ran : r.Ran disk files entropy o bytes s after)
    (png : o.png.filter (!·.isEmpty) = some path) (picture : picture disk.room s = .ok p)
    (format : PictureFormat.ofPath? path p = some .readOnly) :
    Escapes disk files r entropy (.readOnlyFormat (Path.extension path))
  /-- The address of a listing has no value, and there is something to list. -/
  | start {o : ListOptions} {bytes : Array UInt8} {opened : σ}
    (log : (r.openLog disk).run files = (.ok (), opened)) (command : r.command = .list o)
    (read : ((disk.read o.rom).run opened).1 = .ok bytes) (start : ∀ n, o.start ≠ .number n)
    (bytes : bytes.toList ≠ []) : Escapes disk files r entropy (.wrongKind "start")

/-- Trouble that ends a command: with status one if there is a line about it, and otherwise
without a word. -/
theorem status_reportOn_error {printed : List String} {log : Array LogEntry} {trouble : Trouble} :
    (r.reportOn ⟨printed, log, .error trouble⟩).status =
      match trouble.line r.command.rom with
      | .ok _ => .exit 1
      | .error f => .aborted f := by
  simp only [Request.reportOn, Outcome.ending]
  cases trouble.line r.command.rom <;> rfl

/-- A command ends with the number zero or one, or without a word. -/
theorem status_reportOn (r : Request) (o : Outcome) :
    (r.reportOn o).status = .exit 0 ∨ (r.reportOn o).status = .exit 1 ∨
      ∃ f, (r.reportOn o).status = .aborted f := by
  obtain ⟨printed, log, trouble | crashed⟩ := o
  · rw [status_reportOn_error]
    cases trouble.line r.command.rom with
    | ok line => exact .inr (.inl rfl)
    | error f => exact .inr (.inr ⟨f, rfl⟩)
  · cases crashed with
    | false => exact .inl rfl
    | true => exact .inr (.inl rfl)

theorem aborted_reportOn_error_iff {printed : List String} {log : Array LogEntry}
    {trouble : Trouble} {f : Failure} :
    (r.reportOn ⟨printed, log, .error trouble⟩).status = .aborted f ↔
      trouble.line r.command.rom = .error f := by
  rw [status_reportOn_error]
  cases trouble.line r.command.rom <;> simp

theorem status_reportOn_file {printed : List String} {log : Array LogEntry} {path : String}
    {e : FileError} : (r.reportOn ⟨printed, log, .error (.file path e)⟩).status = .exit 1 := by
  rw [status_reportOn_error]
  cases e <;> rfl

theorem aborted_reportOn_ok {printed : List String} {log : Array LogEntry} {crashed : Bool}
    {f : Failure} : (r.reportOn ⟨printed, log, .ok crashed⟩).status ≠ .aborted f := by
  simp [Request.reportOn, Outcome.ending]

/-- The failures with which a request ends are these. -/
theorem escapes_iff {f : Failure} :
    r.Escapes disk files entropy f ↔
      ((r.perform disk entropy).run files).1.status = .aborted f := by
  constructor
  · intro h
    cases h with
    | log log => rw [(Request.Ends.unlogged log).perform_eq]
    | settings log command override =>
      rw [(Request.Ends.unset log command override).perform_eq, Outcome.stopped,
        aborted_reportOn_error_iff]
      rfl
    | frames started windowless frames =>
      have hends := Request.Ends.undriven started
        (RunOptions.drive_eq_error_iff.2 ⟨windowless, frames, rfl⟩)
      rw [hends.perform_eq, aborted_reportOn_error_iff]
      rfl
    | picture ran png picture unreported =>
      rw [(Request.Ends.unsaved ran (.undrawn png picture)).perform_eq, aborted_reportOn_error_iff,
        Trouble.line, unreported]
      rfl
    | format ran png picture format =>
      rw [(Request.Ends.unsaved ran (.readOnly png picture format)).perform_eq,
        aborted_reportOn_error_iff]
      rfl
    | start log command read start bytes =>
      have hplace := ListOptions.lines_eq_error_iff.2 ⟨start, bytes, rfl⟩
      rw [(Request.Ends.unplaced log command read hplace).perform_eq, Outcome.stopped,
        aborted_reportOn_error_iff]
      rfl
  · intro hstatus
    obtain ⟨answer, hends⟩ := r.exists_ends disk files entropy
    rw [hends.perform_eq] at hstatus
    cases hends with
    | unlogged log =>
      cases hstatus
      exact .log log
    | unset log command override =>
      rcases Trouble.line_eq_error_iff.1 (aborted_reportOn_error_iff.1 hstatus) with
        ⟨option, ⟨⟩, rfl⟩ | ⟨e, ⟨⟩, -⟩ | ⟨⟨⟩⟩
      exact .settings log command override
    | unread log opens read =>
      rw [Outcome.stopped, status_reportOn_file] at hstatus
      cases hstatus
    | unstarted log command override read start => cases aborted_reportOn_error_iff.1 hstatus
    | undriven started drive =>
      cases aborted_reportOn_error_iff.1 hstatus
      obtain ⟨windowless, hframes, rfl⟩ := RunOptions.drive_eq_error_iff.1 drive
      exact .frames started windowless hframes
    | unsaved ran save =>
      rcases Trouble.line_eq_error_iff.1 (aborted_reportOn_error_iff.1 hstatus) with
        ⟨option, rfl, rfl⟩ | ⟨e, rfl, hunreported, rfl⟩ | rfl
      · cases save
      · cases save with
        | undrawn png picture => exact .picture ran png picture hunreported
      · cases save with
        | readOnly png picture format => exact .format ran png picture format
    | shown ran save => exact absurd hstatus aborted_reportOn_ok
    | unplaced log command read place =>
      cases aborted_reportOn_error_iff.1 hstatus
      obtain ⟨hstart, hbytes, rfl⟩ := ListOptions.lines_eq_error_iff.1 place
      exact .start log command read hstart hbytes
    | listed log command read place => exact absurd hstatus aborted_reportOn_ok

/-- **How requests end, and which trouble with files is told.** A request ends with the number zero
or one, or without a word. The latter has one of six causes, and the only file among them is that of
the log. A program that cannot be read and a picture whose file cannot be opened are told, and the
status is one. -/
theorem file_trouble_told {words : List String} (hparse : Request.parse words = .ok r)
    (disk : Disk (StateM σ)) (files : σ) (entropy : Nat) :
    let status := ((report disk words entropy).run files).1.status
    (status = .exit 0 ∨ status = .exit 1 ∨ ∃ f, status = .aborted f) ∧
      (∀ f, status = .aborted f ↔ r.Escapes disk files entropy f) ∧
      (∀ e, status = .aborted (.logFile e) ↔ ((r.openLog disk).run files).1 = .error e) ∧
      (∀ opened e, (r.openLog disk).run files = (.ok (), opened) → r.command.Opens →
        ((disk.read r.command.rom).run opened).1 = .error e → status = .exit 1) ∧
      (∀ o bytes s after path e, r.Ran disk files entropy o bytes s after →
        ((saveScreen disk o s).run after).1 = .error (.file path e) → status = .exit 1) := by
  rw [report_of_parse hparse]
  refine ⟨?_, fun f => escapes_iff.symm, fun e => ?_, ?_, ?_⟩
  · obtain ⟨answer, hends⟩ := r.exists_ends disk files entropy
    rw [hends.perform_eq]
    cases hends with
    | unlogged log => exact .inr (.inr ⟨_, rfl⟩)
    | _ => exact status_reportOn r _
  · rw [← escapes_iff]
    constructor
    · rintro ⟨log⟩
      assumption
    · exact .log
  · intro opened e log opens read
    rw [(Request.Ends.unread log opens read).perform_eq, Outcome.stopped, status_reportOn_file]
  · intro o bytes s after path e ran save
    rw [(Request.Ends.unsaved ran (saves_iff.2 save)).perform_eq, status_reportOn_file]

set_option maxRecDepth 4000 in
/-- A program that is not there, run with a log file. -/
theorem file_trouble_told_missing :
    let words := ["--debug-file", "debug.log", "run", "rom.ch8"]
    ((report FileTree.disk words 0).run ⟨[], []⟩).1.status = .exit 1 := by
  intro words
  have hparse : Request.parse words =
      .ok ⟨false, "debug.log", .run { rom := "rom.ch8" }⟩ := by rfl
  obtain ⟨-, -, -, hread, -⟩ := file_trouble_told hparse FileTree.disk ⟨[], []⟩ 0
  exact hread _ .notFound rfl ⟨.standard, override_of_unset _ (by decide)⟩ (by rfl)

set_option maxRecDepth 4000 in
/-- A log file in a directory that is not there: the request ends without a word. -/
theorem log_file_untold :
    let tree : FileTree := { entries := [(["rom.ch8"], .file (.bytes #[0x12, 0x00]))] }
    let words := ["--debug-file", "missing/debug.log", "run", "rom.ch8", "--frames", "0"]
    let r := ((report FileTree.disk words 0).run tree).1
    (∃ request, Request.parse words = .ok request) ∧
      r.status = .aborted (.logFile .notFound) ∧ r.printed = [] := by
  intro tree words r
  let request : Request :=
    ⟨false, "missing/debug.log", .run { rom := "rom.ch8", frames := .number 0 }⟩
  have hparse : Request.parse words = .ok request := by rfl
  have hlog : ((request.openLog FileTree.disk).run tree).1 = .error .notFound := by rfl
  have hreport : r = ⟨.aborted (.logFile .notFound), [], []⟩ := by
    show ((report FileTree.disk words 0).run tree).1 = _
    rw [report_of_parse hparse, (Request.Ends.unlogged hlog).perform_eq]
  rw [hreport]
  exact ⟨⟨request, hparse⟩, rfl, rfl⟩

end Chip8.CommandLine
