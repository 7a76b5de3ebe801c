import Chip8.Colour
import Chip8.Number.Shortest
import Chip8.Random.Seed

/-!
# Settings

How fast a machine runs and how its screen is drawn. Settings are valid by
construction: options of any kind are put together in a draft, and only a draft
that passes its checks becomes settings.

* `OptionValue`, `Draft` — option values, and a full set of them, not yet checked
* `Settings`, `Draft.check` — valid settings, and the checks in their order
* `Settings.ofOptions` — the standard settings with some options changed
* `Settings.override` — settings with some options changed, where unset options keep
  their value
* `Settings.frameInterval?` — the seconds between two frames
-/

namespace Chip8

/-- The value given to an option. -/
inductive OptionValue where
  /-- No value. -/
  | unset
  /-- An integer. -/
  | number (n : Int)
  /-- A list of integers, such as the components of a colour. -/
  | numbers (ns : List Int)
  /-- Anything else. -/
  | other
deriving DecidableEq, Repr

/-- A value for every option, not yet checked. -/
structure Draft where
  /-- The number of cycles in a frame. -/
  cyclesPerFrame : OptionValue
  /-- The number of frames in a second. -/
  timerHz : OptionValue
  /-- The width and height of a screen pixel in a picture. -/
  scale : OptionValue
  /-- The colour of lit pixels. -/
  foreground : OptionValue
  /-- The colour of unlit pixels. -/
  background : OptionValue
  /-- The seed of the random bytes. -/
  seed : OptionValue
deriving DecidableEq, Repr

/-- Valid settings. -/
structure Settings where
  /-- The number of cycles in a frame. -/
  cyclesPerFrame : Nat
  /-- The number of frames in a second. -/
  timerHz : Nat
  /-- The width and height of a screen pixel in a picture. -/
  scale : Nat
  /-- The colour of lit pixels. -/
  foreground : Colour
  /-- The colour of unlit pixels. -/
  background : Colour
  /-- The seed of the random bytes; without one they differ from run to run. -/
  seed : Option Seed
  /-- A frame has at least one cycle. -/
  cyclesPerFrame_pos : 0 < cyclesPerFrame
  /-- A second has at least one frame. -/
  timerHz_pos : 0 < timerHz
  /-- A screen pixel has at least one pixel of a picture. -/
  scale_pos : 0 < scale
deriving DecidableEq

/-- Why options make no settings. -/
inductive SettingsError where
  /-- A number that should be positive is not. -/
  | notPositive (option : String) (value : Int)
  /-- A list of integers is no colour. -/
  | notColour (option : String) (values : List Int)
  /-- A value of the wrong kind. -/
  | wrongKind (option : String)
  /-- Names that no option has, in order. -/
  | unknown (options : List String)
deriving DecidableEq, Repr

/-- Integers between round brackets; a comma marks a list of one. -/
def tupleText : List Int → String
  | [n] => "(" ++ toString n ++ ",)"
  | ns => "(" ++ ", ".intercalate (ns.map toString) ++ ")"

/-- The report of options that make no settings. -/
def SettingsError.message : SettingsError → String
  | notPositive option value => s!"{option} must be positive, got {value}"
  | notColour option values =>
    s!"{option} must be an RGB triple in 0-255, got " ++ tupleText values
  | wrongKind option => s!"{option} has a value of the wrong kind"
  | unknown options => "unknown config options: " ++ ", ".intercalate options

namespace Draft

/-- The draft of the standard settings. -/
def standard : Draft where
  cyclesPerFrame := .number 10
  timerHz := .number 60
  scale := .number 8
  foreground := .numbers [255, 255, 255]
  background := .numbers [0, 0, 0]
  seed := .unset

/-- The draft with the option of a name changed, if there is one of that name. -/
def set? (d : Draft) (name : String) (value : OptionValue) : Option Draft :=
  match name with
  | "cycles_per_frame" => some { d with cyclesPerFrame := value }
  | "timer_hz" => some { d with timerHz := value }
  | "scale" => some { d with scale := value }
  | "foreground" => some { d with foreground := value }
  | "background" => some { d with background := value }
  | "seed" => some { d with seed := value }
  | _ => none

/-- Whether an option has this name. -/
def hasOption (name : String) : Bool := (standard.set? name .unset).isSome

/-- The draft with several options changed, one after another. -/
def setAll (d : Draft) (options : List (String × OptionValue)) : Draft :=
  options.foldl (fun d (name, value) => (d.set? name value).getD d) d

/-- A value that must be a positive integer. -/
def positive (option : String) : OptionValue → Except SettingsError { n : Nat // 0 < n }
  | .number n =>
    if h : 0 < n then .ok ⟨n.toNat, by omega⟩ else .error (.notPositive option n)
  | _ => .error (.wrongKind option)

/-- A value that must be a colour. -/
def colour (option : String) : OptionValue → Except SettingsError Colour
  | .numbers ns =>
    match Colour.ofComponents? ns with
    | some c => .ok c
    | none => .error (.notColour option ns)
  | _ => .error (.wrongKind option)

/-- A value that may be a seed or unset. -/
def optional (option : String) : OptionValue → Except SettingsError (Option Seed)
  | .unset => .ok none
  | .number n => .ok (some (.number n))
  | .numbers ns => .ok (some (.numbers ns))
  | .other => .error (.wrongKind option)

/-- The settings of a draft. The numbers are checked before the colours. -/
def check (d : Draft) : Except SettingsError Settings := do
  let cycles ← positive "cycles_per_frame" d.cyclesPerFrame
  let hz ← positive "timer_hz" d.timerHz
  let scale ← positive "scale" d.scale
  let foreground ← colour "foreground" d.foreground
  let background ← colour "background" d.background
  let seed ← optional "seed" d.seed
  .ok ⟨cycles, hz, scale, foreground, background, seed, cycles.2, hz.2, scale.2⟩

end Draft

namespace Settings

/-- The settings without any option. -/
def standard : Settings where
  cyclesPerFrame := 10
  timerHz := 60
  scale := 8
  foreground := .white
  background := .black
  seed := none
  cyclesPerFrame_pos := by decide
  timerHz_pos := by decide
  scale_pos := by decide

/-- The settings as a draft. -/
def draft (s : Settings) : Draft where
  cyclesPerFrame := .number s.cyclesPerFrame
  timerHz := .number s.timerHz
  scale := .number s.scale
  foreground := .numbers s.foreground.components
  background := .numbers s.background.components
  seed := match s.seed with
    | some (.number n) => .number n
    | some (.numbers ns) => .numbers ns
    | none => .unset

/-- The names among `options` that no option has, in order. -/
def unknownNames (options : List (String × OptionValue)) : List String :=
  ((options.map (·.1)).filter (!Draft.hasOption ·)).mergeSort (· ≤ ·)

/-- The settings of a draft with some options changed, if all of them have known names. -/
def change (d : Draft) (options : List (String × OptionValue)) : Except SettingsError Settings :=
  match unknownNames options with
  | [] => (d.setAll options).check
  | names => .error (.unknown names)

/-- The standard settings with some options changed. -/
def ofOptions (options : List (String × OptionValue)) : Except SettingsError Settings :=
  change .standard options

/-- Settings with some options changed. An option without a value keeps the one it had,
but its name must be known all the same. -/
def override (s : Settings) (options : List (String × OptionValue)) :
    Except SettingsError Settings :=
  match unknownNames options with
  | [] => (s.draft.setAll (options.filter (·.2 ≠ .unset))).check
  | names => .error (.unknown names)

/-- The seconds between two frames: one over the rate, both as double-precision numbers.
There is no such number for a rate beyond the format. -/
def frameInterval? (s : Settings) : Option String := do
  let rate ← Binary64.nearest? s.timerHz 1
  let seconds ← rate.inverse?
  let decimal ← Shortest.ofBinary64 seconds
  return Shortest.text decimal

/-- Settings pass the checks and come out as they were. -/
theorem check_draft (s : Settings) : s.draft.check = .ok s := by
  obtain ⟨cycles, hz, scale, fg, bg, seed, hcycles, hhz, hscale⟩ := s
  have h (option : String) {n : Nat} (hn : 0 < n) :
      Draft.positive option (.number n) = .ok ⟨n, hn⟩ := by
    simp [Draft.positive, hn]
  have hcolour (option : String) (c : Colour) :
      Draft.colour option (.numbers c.components) = .ok c := by
    simp [Draft.colour, Colour.ofComponents?_components]
  rcases seed with _ | _ | _ <;>
    simp [Draft.check, draft, h _ hcycles, h _ hhz, h _ hscale, hcolour, Draft.optional, bind,
      Except.bind]

end Settings

end Chip8
