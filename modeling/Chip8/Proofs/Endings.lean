import Chip8.CommandLine.Report

/-!
# Endings of requests

A request is carried out in stages: the log file is opened, the settings are put together, the
program is read, its session starts and makes its frames, and the picture is saved. Trouble at one
stage ends the request there, and the stages decide together what is reported. The files are the
state in which all this happens, and nothing is assumed of how they behave.

* `Saves`, `saves_iff` — what comes of the picture of a run
* `Command.Opens` — the commands that get to opening the file of their program
* `override_of_unset` — the settings of a run without options
* `Request.Started`, `Request.Ran` — where a run stands before its frames and after them
* `Request.Ends` — the ways in which a request ends, each with its report
* `Request.Ends.perform_eq`, `Request.exists_ends` — every request ends in one of them
-/

namespace Chip8.CommandLine

section

variable {σ : Type}

theorem run_bind {α β : Type} (act : StateM σ α) (next : α → StateM σ β) (files : σ) :
    (act >>= next).run files = (next (act.run files).1).run (act.run files).2 := rfl

/-! ## Pictures -/

/-- What comes of the picture of a run: the lines that are printed, or the trouble. -/
inductive Saves (disk : Disk (StateM σ)) (files : σ) (o : RunOptions) (s : Session) :
    Except Trouble (List String) → Prop where
  /-- None is asked for. -/
  | unasked (png : o.png.filter (!·.isEmpty) = none) : Saves disk files o s (.ok [])
  /-- It cannot be drawn. -/
  | undrawn {path : String} {e : PictureError} (png : o.png.filter (!·.isEmpty) = some path)
    (picture : picture disk.room s = .error e) : Saves disk files o s (.error (.picture e))
  /-- Its path tells no format. -/
  | unnamed {path : String} {p : Picture} (png : o.png.filter (!·.isEmpty) = some path)
    (picture : picture disk.room s = .ok p) (format : PictureFormat.ofPath? path p = none) :
    Saves disk files o s (.error (.extension (Path.extension path)))
  /-- Its path tells a format that can only be read. -/
  | readOnly {path : String} {p : Picture} (png : o.png.filter (!·.isEmpty) = some path)
    (picture : picture disk.room s = .ok p)
    (format : PictureFormat.ofPath? path p = some .readOnly) :
    Saves disk files o s (.error (.failure (.readOnlyFormat (Path.extension path))))
  /-- Its file cannot be opened to write it. -/
  | unwritten {path : String} {p : Picture} {e : FileError}
    (png : o.png.filter (!·.isEmpty) = some path) (picture : picture disk.room s = .ok p)
    (format : PictureFormat.ofPath? path p = some .written)
    (write : ((disk.write path (.picture p)).run files).1 = .error e) :
    Saves disk files o s (.error (.file path e))
  /-- It is written. -/
  | written {path : String} {p : Picture} (png : o.png.filter (!·.isEmpty) = some path)
    (picture : picture disk.room s = .ok p) (format : PictureFormat.ofPath? path p = some .written)
    (write : ((disk.write path (.picture p)).run files).1 = .ok ()) :
    Saves disk files o s (.ok [savedLine path])
  /-- Its file cannot be opened, and it would not be written. -/
  | unopened {path : String} {p : Picture} {reason : FormatError} {e : FileError}
    (png : o.png.filter (!·.isEmpty) = some path) (picture : picture disk.room s = .ok p)
    (format : PictureFormat.ofPath? path p = some (.refused reason))
    (abandon : ((disk.abandon path).run files).1 = .error e) :
    Saves disk files o s (.error (.file path e))
  /-- Its file is opened, and it is not written. -/
  | refused {path : String} {p : Picture} {reason : FormatError}
    (png : o.png.filter (!·.isEmpty) = some path) (picture : picture disk.room s = .ok p)
    (format : PictureFormat.ofPath? path p = some (.refused reason))
    (abandon : ((disk.abandon path).run files).1 = .ok ()) :
    Saves disk files o s (.error (.format reason))

section

variable {disk : Disk (StateM σ)} {files : σ} {o : RunOptions} {s : Session}
  {result : Except Trouble (List String)}

theorem Saves.eq (h : Saves disk files o s result) :
    ((saveScreen disk o s).run files).1 = result := by
  cases h with
  | unasked png =>
    simp only [saveScreen, png]
    rfl
  | undrawn png picture =>
    simp only [saveScreen, png, picture]
    rfl
  | unnamed png picture format | readOnly png picture format =>
    simp only [saveScreen, png, picture, savePicture, format]
    rfl
  | unwritten png picture format write | written png picture format write =>
    simp only [saveScreen, png, picture, savePicture, format, run_bind, write]
    rfl
  | unopened png picture format abandon | refused png picture format abandon =>
    simp only [saveScreen, png, picture, savePicture, format, run_bind, abandon]
    rfl

theorem exists_saves (disk : Disk (StateM σ)) (files : σ) (o : RunOptions) (s : Session) :
    ∃ result, Saves disk files o s result := by
  cases hpng : o.png.filter (!·.isEmpty) with
  | none => exact ⟨_, .unasked hpng⟩
  | some path =>
    cases hpicture : picture disk.room s with
    | error e => exact ⟨_, .undrawn hpng hpicture⟩
    | ok p =>
      rcases hformat : PictureFormat.ofPath? path p with _ | _ | _ | reason
      · exact ⟨_, .unnamed hpng hpicture hformat⟩
      · rcases hwrite : ((disk.write path (.picture p)).run files).1 with e | ⟨⟩
        · exact ⟨_, .unwritten hpng hpicture hformat hwrite⟩
        · exact ⟨_, .written hpng hpicture hformat hwrite⟩
      · exact ⟨_, .readOnly hpng hpicture hformat⟩
      · rcases habandon : ((disk.abandon path).run files).1 with e | ⟨⟩
        · exact ⟨_, .unopened hpng hpicture hformat habandon⟩
        · exact ⟨_, .refused hpng hpicture hformat habandon⟩

/-- What comes of a picture is what saving the screen gives. -/
theorem saves_iff : Saves disk files o s result ↔ ((saveScreen disk o s).run files).1 = result := by
  constructor
  · exact Saves.eq
  · rintro rfl
    obtain ⟨result, h⟩ := exists_saves disk files o s
    exact h.eq.symm ▸ h

end

end

/-! ## Stages -/

/-- The commands that get to opening the file of their program. The settings of a run are looked
at before. -/
def Command.Opens : Command → Prop
  | .run o => ∃ settings, Settings.standard.override o.overrides = .ok settings
  | .list _ => True

section

variable {σ : Type}

/-- Options that are not given leave the settings as they are. -/
theorem override_of_unset {o : RunOptions} (settings : Settings)
    (h : ∀ option ∈ o.overrides, option.2 = .unset) :
    settings.override o.overrides = .ok settings := by
  have hnames : Settings.unknownNames o.overrides = [] := by
    have hknown : (o.overrides.map (·.1)).filter (!Draft.hasOption ·) = [] := by rfl
    rw [Settings.unknownNames, hknown, List.mergeSort_nil]
  have hgiven : o.overrides.filter (·.2 ≠ .unset) = [] := by
    rw [List.filter_eq_nil_iff]
    intro option hoption
    simpa using h option hoption
  rw [Settings.override, hnames]
  simp only [hgiven]
  exact settings.check_draft

/-- The session of a run has started. -/
structure Request.Started (disk : Disk (StateM σ)) (files : σ) (r : Request) (entropy : Nat)
    (o : RunOptions) (bytes : Array UInt8) (s : Session) (loaded : σ) : Prop where
  /-- It is a run. -/
  command : r.command = .run o
  /-- The log file was opened, and then the program was read. -/
  read : ∃ opened, (r.openLog disk).run files = (.ok (), opened) ∧
    (disk.read o.rom).run opened = (.ok bytes, loaded)
  /-- The options make settings, with which the program starts the session. -/
  start : ∃ settings, Settings.standard.override o.overrides = .ok settings ∧
    Session.start settings bytes entropy r.traced = .ok s

/-- A run has made the frames that its options ask for, and its log is saved. -/
def Request.Ran (disk : Disk (StateM σ)) (files : σ) (r : Request) (entropy : Nat)
    (o : RunOptions) (bytes : Array UInt8) (s : Session) (after : σ) : Prop :=
  ∃ fresh loaded, r.Started disk files entropy o bytes fresh loaded ∧ o.drive fresh = .ok s ∧
    ((saveLog disk r.logFile s).run loaded).2 = after

/-! ## Endings -/

/-- The ways in which a request ends, each with its report. -/
inductive Request.Ends (disk : Disk (StateM σ)) (files : σ) (r : Request) (entropy : Nat) :
    Report → Prop where
  /-- The log file cannot be opened. -/
  | unlogged {e : FileError} (log : ((r.openLog disk).run files).1 = .error e) :
    Ends disk files r entropy ⟨.aborted (.logFile e), [], []⟩
  /-- The options of a run make no settings. -/
  | unset {o : RunOptions} {e : SettingsError} {opened : σ}
    (log : (r.openLog disk).run files = (.ok (), opened)) (command : r.command = .run o)
    (override : Settings.standard.override o.overrides = .error e) :
    Ends disk files r entropy (r.reportOn (.stopped (.settings e)))
  /-- The program cannot be read. -/
  | unread {e : FileError} {opened : σ} (log : (r.openLog disk).run files = (.ok (), opened))
    (opens : r.command.Opens) (read : ((disk.read r.command.rom).run opened).1 = .error e) :
    Ends disk files r entropy (r.reportOn (.stopped (.file r.command.rom e)))
  /-- The session of a run does not start. -/
  | unstarted {o : RunOptions} {settings : Settings} {bytes : Array UInt8} {e : BootError}
    {opened : σ} (log : (r.openLog disk).run files = (.ok (), opened))
    (command : r.command = .run o)
    (override : Settings.standard.override o.overrides = .ok settings)
    (read : ((disk.read o.rom).run opened).1 = .ok bytes)
    (start : Session.start settings bytes entropy r.traced = .error e) :
    Ends disk files r entropy (r.reportOn (.stopped (.boot e)))
  /-- It is not said how many frames a run makes. -/
  | undriven {o : RunOptions} {bytes : Array UInt8} {s : Session} {loaded : σ} {f : Failure}
    (started : r.Started disk files entropy o bytes s loaded) (drive : o.drive s = .error f) :
    Ends disk files r entropy
      (r.reportOn ⟨[loadedLine o bytes.size], s.log, .error (.failure f)⟩)
  /-- The picture of a run cannot be saved. -/
  | unsaved {o : RunOptions} {bytes : Array UInt8} {s : Session} {after : σ} {trouble : Trouble}
    (ran : r.Ran disk files entropy o bytes s after)
    (save : Saves disk after o s (.error trouble)) :
    Ends disk files r entropy (r.reportOn ⟨opening o bytes.size s, s.log, .error trouble⟩)
  /-- Everything is printed that the options of a run ask for. -/
  | shown {o : RunOptions} {bytes : Array UInt8} {s : Session} {after : σ} {saved : List String}
    (ran : r.Ran disk files entropy o bytes s after)
    (save : Saves disk after o s (.ok saved)) :
    Ends disk files r entropy
      (r.reportOn ⟨opening o bytes.size s ++ saved ++ closing o s, s.log, .ok s.crashed⟩)
  /-- It is not said where a listing starts. -/
  | unplaced {o : ListOptions} {bytes : Array UInt8} {f : Failure} {opened : σ}
    (log : (r.openLog disk).run files = (.ok (), opened)) (command : r.command = .list o)
    (read : ((disk.read o.rom).run opened).1 = .ok bytes)
    (place : o.lines bytes.toList = .error f) :
    Ends disk files r entropy (r.reportOn (.stopped (.failure f)))
  /-- The listing is printed. -/
  | listed {o : ListOptions} {bytes : Array UInt8} {lines : List Line} {opened : σ}
    (log : (r.openLog disk).run files = (.ok (), opened)) (command : r.command = .list o)
    (read : ((disk.read o.rom).run opened).1 = .ok bytes)
    (place : o.lines bytes.toList = .ok lines) :
    Ends disk files r entropy (r.reportOn ⟨o.listing lines, #[], .ok false⟩)

variable {disk : Disk (StateM σ)} {files opened : σ} {r : Request} {entropy : Nat}

theorem report_of_parse {words : List String} (parse : Request.parse words = .ok r) :
    report disk words entropy = r.perform disk entropy := by
  rw [report, parse]

namespace Request

/-- Once the log file is open, the report is about what the command does. -/
theorem perform_of_opened (log : (r.openLog disk).run files = (.ok (), opened)) :
    ((r.perform disk entropy).run files).1 =
      r.reportOn ((r.command.perform disk r.traced r.logFile entropy).run opened).1 := by
  rw [perform, run_bind, log]
  rfl

/-- A run whose session has started comes to an end as it is driven. -/
theorem perform_of_started {o : RunOptions} {bytes : Array UInt8} {s : Session} {loaded : σ}
    (started : r.Started disk files entropy o bytes s loaded) :
    ((r.perform disk entropy).run files).1 =
      match o.drive s with
      | .error f => r.reportOn ⟨[loadedLine o bytes.size], s.log, .error (.failure f)⟩
      | .ok s =>
        let after := ((saveLog disk r.logFile s).run loaded).2
        r.reportOn ((present disk o bytes.size s).run after).1 := by
  obtain ⟨hcommand, ⟨opened, hlog, hread⟩, settings, hoverride, hstart⟩ := started
  rw [perform_of_opened hlog, hcommand]
  simp only [Command.perform, RunOptions.perform, hoverride]
  rw [run_bind, hread]
  simp only [hstart]
  cases o.drive s <;> rfl

/-- What is shown of a run once its picture is saved, or what is left of it if it cannot be. -/
theorem perform_of_ran {o : RunOptions} {bytes : Array UInt8} {s : Session} {after : σ}
    (ran : r.Ran disk files entropy o bytes s after) :
    ((r.perform disk entropy).run files).1 =
      match ((saveScreen disk o s).run after).1 with
      | .error trouble => r.reportOn ⟨opening o bytes.size s, s.log, .error trouble⟩
      | .ok saved =>
        r.reportOn ⟨opening o bytes.size s ++ saved ++ closing o s, s.log, .ok s.crashed⟩ := by
  obtain ⟨fresh, loaded, hstarted, hdrive, rfl⟩ := ran
  rw [perform_of_started hstarted, hdrive]
  simp only [present, run_bind]
  cases ((saveScreen disk o s).run _).1 <;> rfl

theorem Ends.perform_eq {report : Report} (h : r.Ends disk files entropy report) :
    ((r.perform disk entropy).run files).1 = report := by
  cases h with
  | unlogged log =>
    rw [perform, run_bind, log]
    rfl
  | unset log command override =>
    rw [perform_of_opened log, command]
    simp only [Command.perform, RunOptions.perform, override]
    rfl
  | unread log opens read =>
    rw [perform_of_opened log]
    rcases hcommand : r.command with o | o
    · rw [hcommand] at opens read
      obtain ⟨settings, hoverride⟩ := opens
      simp only [Command.rom] at read
      simp only [Command.perform, RunOptions.perform, hoverride, run_bind, read]
      rfl
    · rw [hcommand] at read
      simp only [Command.rom] at read
      simp only [Command.perform, ListOptions.perform, run_bind, read]
      rfl
  | unstarted log command override read start =>
    rw [perform_of_opened log, command]
    simp only [Command.perform, RunOptions.perform, override, run_bind, read, start]
    rfl
  | undriven started drive => rw [perform_of_started started, drive]
  | unsaved ran save => rw [perform_of_ran ran, save.eq]
  | shown ran save => rw [perform_of_ran ran, save.eq]
  | unplaced log command read place =>
    rw [perform_of_opened log, command]
    simp only [Command.perform, ListOptions.perform, run_bind, read, place]
    rfl
  | listed log command read place =>
    rw [perform_of_opened log, command]
    simp only [Command.perform, ListOptions.perform, run_bind, read, place]
    rfl

/-- The session of a run starts, or the run ends before. -/
theorem ends_or_started {o : RunOptions} (log : (r.openLog disk).run files = (.ok (), opened))
    (command : r.command = .run o) :
    (∃ report, r.Ends disk files entropy report) ∨
      ∃ bytes s loaded, r.Started disk files entropy o bytes s loaded := by
  have hrom : r.command.rom = o.rom := by rw [command]; rfl
  rcases hoverride : Settings.standard.override o.overrides with e | settings
  · exact .inl ⟨_, .unset log command hoverride⟩
  rcases hread : (disk.read o.rom).run opened with ⟨e | bytes, loaded⟩
  · refine .inl ⟨_, .unread (e := e) log ?_ ?_⟩
    · rw [command]
      exact ⟨settings, hoverride⟩
    · rw [hrom, hread]
  rcases hstart : Session.start settings bytes entropy r.traced with e | s
  · exact .inl ⟨_, .unstarted log command hoverride (by rw [hread]) hstart⟩
  · exact .inr ⟨bytes, s, loaded, command, ⟨opened, log, hread⟩, settings, hoverride, hstart⟩

theorem exists_ends (r : Request) (disk : Disk (StateM σ)) (files : σ) (entropy : Nat) :
    ∃ report, r.Ends disk files entropy report := by
  rcases hlog : (r.openLog disk).run files with ⟨e | ⟨⟩, opened⟩
  · exact ⟨_, .unlogged (e := e) (by rw [hlog])⟩
  rcases hcommand : r.command with o | o
  · rcases ends_or_started hlog hcommand with hends | ⟨bytes, s, loaded, hstarted⟩
    · exact hends
    rcases hdrive : o.drive s with f | s'
    · exact ⟨_, .undriven hstarted hdrive⟩
    have hran : r.Ran disk files entropy o bytes s' _ := ⟨s, loaded, hstarted, hdrive, rfl⟩
    obtain ⟨trouble | saved, hsaves⟩ := exists_saves disk _ o s'
    · exact ⟨_, .unsaved hran hsaves⟩
    · exact ⟨_, .shown hran hsaves⟩
  · have hrom : r.command.rom = o.rom := by rw [hcommand]; rfl
    cases hread : ((disk.read o.rom).run opened).1 with
    | error e =>
      refine ⟨_, .unread (e := e) hlog ?_ (by rw [hrom, hread])⟩
      rw [hcommand]
      trivial
    | ok bytes =>
      cases hplace : o.lines bytes.toList with
      | error f => exact ⟨_, .unplaced hlog hcommand hread hplace⟩
      | ok lines => exact ⟨_, .listed hlog hcommand hread hplace⟩

end Request

end

end Chip8.CommandLine
