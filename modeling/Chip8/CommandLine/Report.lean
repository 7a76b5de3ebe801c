import Chip8.CommandLine.Request
import Chip8.Files
import Chip8.Listing.Flow
import Chip8.Picture.Format
import Chip8.Session

/-!
# Reports

What the program does with a command line: what it prints, what it logs, which
files it writes, and the status with which it ends.

* `Failure`, `Trouble` — why a command could not be finished
* `Outcome` — what a command printed and logged, and how it ended
* `Command.perform` — doing what a command asks for
* `Report`, `report` — the whole effect of a command line
-/

namespace Chip8.CommandLine

/-! ## How a command ends -/

/-- Why the program ends without a word to its user. -/
inductive Failure where
  /-- The log file cannot be opened. -/
  | logFile (e : FileError)
  /-- An option was left without a value where a number is needed. -/
  | wrongKind (option : String)
  /-- The picture cannot be drawn, and nothing is said about it. -/
  | picture (e : PictureError)
  /-- The format of the picture can only be read. -/
  | readOnlyFormat (extension : String)
deriving DecidableEq, Repr

/-- A description of a failure, for those who look into it. -/
def Failure.message : Failure → String
  | logFile e => "the log file cannot be opened: " ++ e.description
  | wrongKind option => "the option " ++ option ++ " has no value"
  | picture e => e.message
  | readOnlyFormat extension => "pictures cannot be saved as " ++ extension

/-- Why a command could not be finished. -/
inductive Trouble where
  /-- The options make no settings. -/
  | settings (e : SettingsError)
  /-- The machine cannot start. -/
  | boot (e : BootError)
  /-- A file cannot be opened. -/
  | file (path : String) (e : FileError)
  /-- The screen cannot be drawn. -/
  | picture (e : PictureError)
  /-- The name of the picture tells no format. -/
  | extension (text : String)
  /-- The picture cannot be written in the format that its name tells. -/
  | format (e : FormatError)
  /-- Something about which nothing is said. -/
  | failure (f : Failure)
deriving DecidableEq, Repr

/-- Whether something is said about a picture that cannot be drawn. Nothing is when a number
is too large, or when there is no room. -/
def isReported : PictureError → Bool
  | .scale _ | .uneven _ | .layout .negativeSide | .layout .tooManyBytes => true
  | .component | .components _ => false
  | .layout .scaleTooWide | .layout .noRoom | .layout .sideTooLong => false

/-- What is printed when a file is not found in a command on the program at path `rom`. -/
def missingLine (rom : String) : String := "ROM file not found: " ++ rom

/-- What is printed about trouble with a command on the program at path `rom`, unless the
program ends without a word. -/
def Trouble.line (rom : String) : Trouble → Except Failure String
  | file _ .notFound => .ok (missingLine rom)
  | file path .nulInPath => .ok ("Error loading ROM: " ++ FileError.nulInPath.message path)
  | file path e => .ok ("I/O error: " ++ e.message path)
  | settings (.wrongKind option) => .error (.wrongKind option)
  | settings e => .ok ("Error loading ROM: " ++ e.message)
  | boot e => .ok ("Error loading ROM: " ++ e.message)
  | picture e =>
    if isReported e then .ok ("Error loading ROM: " ++ e.message) else .error (.picture e)
  | extension text => .ok ("Error loading ROM: unknown file extension: " ++ text)
  | format e => .ok ((if e.isOfFile then "I/O error: " else "Error loading ROM: ") ++ e.message)
  | failure f => .error f

/-- What a command did. -/
structure Outcome where
  /-- What was printed, line by line; a line may hold line feeds of its own. -/
  printed : List String
  /-- What was logged. -/
  log : Array LogEntry
  /-- Whether a machine crashed, or why the command could not be finished. -/
  result : Except Trouble Bool

/-- A command that ended in trouble before it printed anything. -/
def Outcome.stopped (trouble : Trouble) : Outcome := ⟨[], #[], .error trouble⟩

/-! ## Running a program -/

/-- The settings that the options of a run ask for. -/
def RunOptions.overrides (o : RunOptions) : List (String × OptionValue) :=
  [("cycles_per_frame", o.cyclesPerFrame),
   ("seed", o.seed),
   ("scale", o.scale),
   ("foreground", o.foreground),
   ("background", o.background)]

/-- The heading over the counters. -/
def countersHeading : List String :=
  ["CHIP-8 Emulator Statistics:", String.ofList (List.replicate 30 '-')]

/-- A counter with its label, which is filled up with spaces to 25 characters. -/
def counterLine (counter : String × Nat) : String :=
  counter.1.pushn ' ' (25 - counter.1.length) ++ ": " ++ toString counter.2

/-- What is printed about the counters of a machine. -/
def counterLines (c : Counters) : List String := countersHeading ++ c.toList.map counterLine

/-- What is printed about the crash of a machine. -/
def crashLine (pc : Int) (fault : Fault) : String :=
  "Emulator crashed at PC=0x" ++ Hex.signed 3 pc ++ ": " ++ fault.message

/-- What is printed about a crash, if there was one. -/
def crashLines (s : Session) : List String :=
  match s.fault with
  | some fault => [crashLine s.machine.pc fault]
  | none => []

/-- The picture of the screen of a session. -/
def picture (room : Room) (s : Session) : Except PictureError Picture :=
  Picture.draw s.machine.screen.grid s.settings.scale s.settings.foreground.components
    s.settings.background.components room

variable {m : Type → Type} [Monad m]

/-- Saves a picture in the format that the extension of the path tells. -/
def savePicture (disk : Disk m) (path : String) (p : Picture) : m (Except Trouble Unit) := do
  match PictureFormat.ofPath? path p with
  | none => return .error (.extension (Path.extension path))
  | some .readOnly => return .error (.failure (.readOnlyFormat (Path.extension path)))
  | some .written => return (← disk.write path (.picture p)).mapError (.file path)
  | some (.refused reason) =>
    match ← disk.abandon path with
    | .error e => return .error (.file path e)
    | .ok () => return .error (.format reason)

/-- What is printed when the picture is saved. -/
def savedLine (path : String) : String := "Screen saved to: " ++ path

/-- Saves the picture of the screen where the options say: what is printed about it. The
picture is drawn before its path is looked at. -/
def saveScreen (disk : Disk m) (o : RunOptions) (s : Session) :
    m (Except Trouble (List String)) := do
  match o.png.filter (!·.isEmpty) with
  | none => return .ok []
  | some path =>
    match picture disk.room s with
    | .error e => return .error (.picture e)
    | .ok p => return (← savePicture disk path p).map fun _ => [savedLine path]

/-- What is printed once a machine has started with a program of `size` bytes. -/
def loadedLine (o : RunOptions) (size : Nat) : String :=
  "Loaded ROM: " ++ o.rom ++ " (" ++ toString size ++ " bytes)"

/-- What is printed about the frames and instructions of a run. -/
def ranLine (frames instructions : Nat) : String :=
  "Ran " ++ toString frames ++ " frames, " ++ toString instructions ++ " instructions"

/-- What is printed about a run before its picture is saved. -/
def opening (o : RunOptions) (size : Nat) (s : Session) : List String :=
  loadedLine o size ::
    (if o.interactive then [] else [ranLine s.frames s.machine.counters.instructions]) ++
    (if o.ascii then [s.machine.screen.grid.text Grid.litText Grid.unlitText] else [])

/-- What is printed about a run once its picture is saved. -/
def closing (o : RunOptions) (s : Session) : List String :=
  (if o.stats then counterLines s.machine.counters else []) ++ crashLines s

/-- Prints what the options ask for after a run. A picture that cannot be saved ends the
report. -/
def present (disk : Disk m) (o : RunOptions) (size : Nat) (s : Session) : m Outcome := do
  match ← saveScreen disk o s with
  | .error trouble => return ⟨opening o size s, s.log, .error trouble⟩
  | .ok saved => return ⟨opening o size s ++ saved ++ closing o s, s.log, .ok s.crashed⟩

/-- Writes the log of a session into the log file, if there is one. -/
def saveLog (disk : Disk m) (logFile : Option String) (s : Session) : m Unit := do
  if let some path := logFile then
    let _ ← disk.write path (.log s.log)

/-- A session after the frames that the options ask for, if they say how many. A program
in a window runs no frames of its own accord. -/
def RunOptions.drive (o : RunOptions) (s : Session) : Except Failure Session :=
  if o.interactive then .ok s
  else
    match o.frames with
    | .number n => .ok (s.run n)
    | _ => .error (.wrongKind "frames")

/-- Runs a program. The settings are checked before the file is opened, and the machine
starts before anything is printed. The log is in its file before a picture is saved. -/
def RunOptions.perform (disk : Disk m) (o : RunOptions) (traced : Bool)
    (logFile : Option String) (entropy : Nat) : m Outcome := do
  match Settings.standard.override o.overrides with
  | .error e => return .stopped (.settings e)
  | .ok settings =>
    match ← disk.read o.rom with
    | .error e => return .stopped (.file o.rom e)
    | .ok bytes =>
      match Session.start settings bytes entropy traced with
      | .error e => return .stopped (.boot e)
      | .ok s =>
        match o.drive s with
        | .error failure =>
          return ⟨[loadedLine o bytes.size], s.log, .error (.failure failure)⟩
        | .ok s =>
          saveLog disk logFile s
          present disk o bytes.size s

/-! ## Listing a program -/

/-- Items between commas, or a hyphen if there are none. -/
def items : List String → String
  | [] => "-"
  | xs => ", ".intercalate xs

/-- A transfer of control as text. -/
def transfer (t : Int × Int) : String := Hex.signed 3 t.1 ++ "->" ++ Hex.signed 3 t.2

/-- What is printed about control flow. -/
def flowLines (f : Flow) : List String :=
  ["",
   "Jumps:    " ++ items (f.jumps.map transfer),
   "Calls:    " ++ items (f.calls.map transfer),
   "Branches: " ++ items (f.branches.map (Hex.signed 3)),
   "Loops:    " ++ items (f.loops.map transfer)]

/-- The lines of a program, if the options say where it starts. A program without bytes
has no lines wherever it starts. -/
def ListOptions.lines (o : ListOptions) (bytes : List UInt8) : Except Failure (List Line) :=
  match o.start, bytes with
  | .number start, bytes => .ok (Listing.ofBytes bytes start)
  | _, [] => .ok []
  | _, _ => .error (.wrongKind "start")

/-- What is printed about lines. The lines of a list of bytes always have a control flow. -/
def ListOptions.listing (o : ListOptions) (lines : List Line) : List String :=
  Listing.text lines ::
    if o.flow then flowLines ((Flow.ofLines lines).toOption.getD {}) else []

/-- Lists a program. -/
def ListOptions.perform (disk : Disk m) (o : ListOptions) : m Outcome := do
  match ← disk.read o.rom with
  | .error e => return .stopped (.file o.rom e)
  | .ok bytes =>
    match o.lines bytes.toList with
    | .error failure => return .stopped (.failure failure)
    | .ok lines => return ⟨o.listing lines, #[], .ok false⟩

/-! ## The whole command line -/

/-- Does what a command asks for. -/
def Command.perform (disk : Disk m) (c : Command) (traced : Bool) (logFile : Option String)
    (entropy : Nat) : m Outcome :=
  match c with
  | .run o => o.perform disk traced logFile entropy
  | .list o => o.perform disk

/-- How the program ends. -/
inductive Status where
  /-- With a number: zero if all went well, one if not, two if the words were wrong. -/
  | exit (code : Nat)
  /-- Without a word to its user. -/
  | aborted (f : Failure)
deriving DecidableEq, Repr

/-- The effect of a command line, apart from the files that it wrote. -/
structure Report where
  /-- How the program ended. -/
  status : Status
  /-- What was printed, line by line. -/
  printed : List String
  /-- The lines of the error output. -/
  errors : List String

/-- How the program ends after a command on the program at path `rom`, and everything
that was printed by then. -/
def Outcome.ending (o : Outcome) (rom : String) : Status × List String :=
  match o.result with
  | .ok crashed => (.exit (if crashed then 1 else 0), o.printed)
  | .error trouble =>
    match trouble.line rom with
    | .ok line => (.exit 1, o.printed ++ [line])
    | .error failure => (.aborted failure, o.printed)

/-- The report of words that were not taken. -/
def Stop.report : Stop → Report
  | help program => ⟨.exit 0, ["usage: " ++ program ++ " [options] ..."], []⟩
  | usage program problem => ⟨.exit 2, [], [program ++ ": error: " ++ problem]⟩

/-- The path of the log file of a request. -/
def Request.logFile (r : Request) : Option String := r.debugFile.map Path.normalize

/-- Whether every instruction is noted, and not only what is shown in any case. -/
def Request.traced (r : Request) : Bool := r.debug || r.logFile.isSome

/-- Opens the log file of a request, if there is one. This empties it. -/
def Request.openLog (disk : Disk m) (r : Request) : m (Except FileError Unit) :=
  match r.logFile with
  | none => return .ok ()
  | some path => disk.write path (.log #[])

/-- The report of what a request's command did. -/
def Request.reportOn (r : Request) (o : Outcome) : Report where
  status := (o.ending r.command.rom).1
  printed := (o.ending r.command.rom).2
  errors := (if r.debug then o.log else o.log.filter LogEntry.isWarning).toList.map LogEntry.text

/-- Does what a request asks for. The log file is opened before anything else happens. -/
def Request.perform (disk : Disk m) (r : Request) (entropy : Nat) : m Report := do
  match ← r.openLog disk with
  | .error e => return ⟨.aborted (.logFile e), [], []⟩
  | .ok () => return r.reportOn (← r.command.perform disk r.traced r.logFile entropy)

/-- The effect of a command line. Random bytes without a seed come from `entropy`. -/
def report (disk : Disk m) (words : List String) (entropy : Nat) : m Report :=
  match Request.parse words with
  | .error stop => return stop.report
  | .ok request => request.perform disk entropy

/-- Everything printed, as one text. -/
def Report.output (r : Report) : String := String.join (r.printed.map (· ++ "\n"))

end Chip8.CommandLine
