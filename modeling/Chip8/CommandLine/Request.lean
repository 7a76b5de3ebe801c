import Chip8.Colour
import Chip8.CommandLine.Grammar
import Chip8.Memory
import Chip8.Settings
import Chip8.Text.Numeral

/-!
# Requests

What a command line asks the program to do: to run a program for some frames and
show what came of it, or to list a program as assembly.

* `RunOptions`, `ListOptions`, `Command`, `Request` — what can be asked for
* `Request.parse` — the request of a command line
-/

namespace Chip8

namespace CommandLine

/-- How a program is to be run, and what is to be shown. -/
structure RunOptions where
  /-- The path of the program. -/
  rom : String := ""
  /-- The number of frames. -/
  frames : OptionValue := .number 600
  /-- The number of cycles in a frame. -/
  cyclesPerFrame : OptionValue := .unset
  /-- The seed of the random bytes. -/
  seed : OptionValue := .unset
  /-- The width and height of a screen pixel in the picture. -/
  scale : OptionValue := .unset
  /-- The components of the colour of lit pixels. -/
  foreground : OptionValue := .unset
  /-- The components of the colour of unlit pixels. -/
  background : OptionValue := .unset
  /-- The path to which the picture of the screen is saved. -/
  png : Option String := none
  /-- Whether the screen is shown as text. -/
  ascii : Bool := false
  /-- Whether the counters are shown. -/
  stats : Bool := false
  /-- Whether the program runs in a window. -/
  interactive : Bool := false
deriving DecidableEq, Repr

/-- How a program is to be listed. -/
structure ListOptions where
  /-- The path of the program. -/
  rom : String := ""
  /-- The address of its first byte. -/
  start : OptionValue := .number programStart
  /-- Whether the control flow is shown. -/
  flow : Bool := false
deriving DecidableEq, Repr

/-- What the program is asked to do. -/
inductive Command where
  /-- To run a program. -/
  | run (options : RunOptions)
  /-- To list a program. -/
  | list (options : ListOptions)
deriving DecidableEq, Repr

/-- The path of the program in a command. -/
def Command.rom : Command → String
  | run options => options.rom
  | list options => options.rom

/-- A command, and how its run is logged. -/
structure Request where
  /-- Whether everything logged is shown, and not only warnings. -/
  debug : Bool
  /-- The path of a file into which everything is logged. -/
  debugFile : Option String
  /-- What is to be done. -/
  command : Command
deriving DecidableEq, Repr

/-! ## Values -/

/-- An option whose value is read by `read`. Without a value it has the list of no
integers. -/
def readValue {σ : Type} (kind : String) (read : String → Option OptionValue)
    (set : σ → OptionValue → σ) : Effect σ :=
  .value kind fun
    | some text => (read text).map fun value s => set s value
    | none => some fun s => set s (.numbers [])

/-- An option whose value is an integer in base ten. -/
def integerValue {σ : Type} (set : σ → OptionValue → σ) : Effect σ :=
  readValue "int" (fun text => (Numeral.read text.toList).map .number) set

/-- An option whose value is an integer with a base marker. -/
def markedValue {σ : Type} (set : σ → OptionValue → σ) : Effect σ :=
  readValue "_int_auto" (fun text => (Numeral.readMarked text.toList).map .number) set

/-- An option whose value is a colour. -/
def colourValue {σ : Type} (set : σ → OptionValue → σ) : Effect σ :=
  readValue "parse_color" (fun text => (Colour.parse text).toOption.map .numbers) set

/-- An option whose value is any text, or none. -/
def textValue {σ : Type} (set : σ → Option String → σ) : Effect σ :=
  .value "str" fun text => some fun s => set s text

/-! ## Grammars -/

/-- The option that asks for help. -/
def helpOption {σ : Type} : Opt σ := ⟨["-h", "--help"], .help⟩

/-- The words after the command `run`. -/
def runGrammar : Grammar RunOptions where
  program := "chip8vm run"
  options :=
    [helpOption,
     ⟨["--frames"], integerValue fun s n => { s with frames := n }⟩,
     ⟨["--cycles-per-frame"], integerValue fun s n => { s with cyclesPerFrame := n }⟩,
     ⟨["--seed"], integerValue fun s n => { s with seed := n }⟩,
     ⟨["--scale"], integerValue fun s n => { s with scale := n }⟩,
     ⟨["--foreground"], colourValue fun s c => { s with foreground := c }⟩,
     ⟨["--background"], colourValue fun s c => { s with background := c }⟩,
     ⟨["--png"], textValue fun s path => { s with png := path }⟩,
     ⟨["--ascii"], .flag fun s => { s with ascii := true }⟩,
     ⟨["--stats"], .flag fun s => { s with stats := true }⟩,
     ⟨["--interactive"], .flag fun s => { s with interactive := true }⟩]
  positional := .value "rom" fun path s => { s with rom := path }

/-- The words after the command `disasm`. -/
def listGrammar : Grammar ListOptions where
  program := "chip8vm disasm"
  options :=
    [helpOption,
     ⟨["--start"], markedValue fun s n => { s with start := n }⟩,
     ⟨["--flow"], .flag fun s => { s with flow := true }⟩]
  positional := .value "rom" fun path s => { s with rom := path }

/-- What the words before the command, and the command, have said so far. -/
structure Reading where
  /-- Whether everything logged is shown. -/
  debug : Bool := false
  /-- The path of a log file. -/
  debugFile : Option String := none
  /-- The command, once it is there. -/
  command : Option Command := none

/-- A command whose words a grammar takes. -/
def commandOf {σ : Type} (g : Grammar σ) (options : σ) (command : σ → Command)
    (words : List String) (s : Reading) : Except Stop (Reading × List String) := do
  let (options, extras) ← g.parse words options
  .ok ({ s with command := some (command options) }, extras)

/-- The words of a whole command line. -/
def mainGrammar : Grammar Reading where
  program := "chip8vm"
  options :=
    [helpOption,
     ⟨["--debug"], .flag fun s => { s with debug := true }⟩,
     ⟨["--debug-file"], textValue fun s path => { s with debugFile := path }⟩]
  positional :=
    .command "command"
      [("run", commandOf runGrammar {} .run), ("disasm", commandOf listGrammar {} .list)]

/-- The request of a command line. A path of no characters is no path. -/
def Request.parse (words : List String) : Except Stop Request := do
  let reading ← mainGrammar.parseAll words {}
  match reading.command with
  | some command =>
    .ok { debug := reading.debug, debugFile := reading.debugFile.filter (!·.isEmpty), command }
  | none => .error (mainGrammar.problem "the following arguments are required: command")

end CommandLine

end Chip8
