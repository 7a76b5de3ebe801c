import Chip8.CommandLine.Report
import Chip8.Proofs.Grammars
import Chip8.Proofs.Numerals
import Chip8.Proofs.Overrides

/-!
# Words that ask for a run

A run is asked for by the command `run`, the path of a program and any number of options, in any
order. An option can be written in full or shortened, with its value in the next word or attached,
and it can be given again; what is given last counts. The words are read as the options that they
give, and those with valid values make settings that say the same.

* `Key`, `Setting` — the options with values, and what one option says
* `Setting.Written`, `Spells`, `RunWords`, `RunLine` — the ways to write options and command lines
* `given`, `RunOptions.ofSettings` — the last value of an option, and all options together
* `runLine_of_numbers` — how to ask for a number of frames, cycles in a frame, and a seed
* `parse_runLine` — what a command line asks for
* `Configured`, `Configured.exists_override` — valid options, and their settings
-/

namespace Chip8.CommandLine

/-! ## Options with values -/

/-- An option of a run that takes a value, apart from the path of a picture. -/
inductive Key where
  /-- The number of frames. -/
  | frames
  /-- The number of cycles in a frame. -/
  | cyclesPerFrame
  /-- The seed of the random bytes. -/
  | seed
  /-- The width and height of a screen pixel in a picture. -/
  | scale
  /-- The colour of lit pixels. -/
  | foreground
  /-- The colour of unlit pixels. -/
  | background
deriving DecidableEq, Repr

namespace Key

/-- The name of an option. -/
def name : Key → String
  | frames => "--frames"
  | cyclesPerFrame => "--cycles-per-frame"
  | seed => "--seed"
  | scale => "--scale"
  | foreground => "--foreground"
  | background => "--background"

/-- The kind of values of an option. -/
def kind : Key → String
  | foreground | background => "parse_color"
  | _ => "int"

/-- The value of an option in text. -/
def read (key : Key) (text : String) : Option OptionValue :=
  match key with
  | foreground | background => (Colour.parse text).toOption.map .numbers
  | _ => (Numeral.read text.toList).map .number

/-- The value that an option has. -/
def get (o : RunOptions) : Key → OptionValue
  | frames => o.frames
  | cyclesPerFrame => o.cyclesPerFrame
  | seed => o.seed
  | scale => o.scale
  | foreground => o.foreground
  | background => o.background

/-- Options with the value of one changed. -/
def set (o : RunOptions) (v : OptionValue) : Key → RunOptions
  | frames => { o with frames := v }
  | cyclesPerFrame => { o with cyclesPerFrame := v }
  | seed => { o with seed := v }
  | scale => { o with scale := v }
  | foreground => { o with foreground := v }
  | background => { o with background := v }

theorem get_set (o : RunOptions) (v : OptionValue) (key other : Key) :
    other.get (key.set o v) = if key = other then v else other.get o := by
  cases key <;> cases other <;> rfl

theorem find?_name (key : Key) :
    runGrammar.find? key.name =
      some ⟨[key.name], readValue key.kind key.read fun o v => key.set o v⟩ := by
  cases key <;> rfl

end Key

/-- What an option of a run says, apart from `--png`, `--interactive` and `--help`. -/
inductive Setting where
  /-- An option has a value. -/
  | value (key : Key) (v : OptionValue)
  /-- The screen is shown as text. -/
  | ascii
  /-- The counters are shown. -/
  | stats
deriving DecidableEq, Repr

namespace Setting

/-- The options after one of them. -/
def apply (o : RunOptions) : Setting → RunOptions
  | value key v => key.set o v
  | ascii => { o with ascii := true }
  | stats => { o with stats := true }

/-- The value that is given to an option. -/
def value? (key : Key) : Setting → Option OptionValue
  | value other v => if other = key then some v else none
  | _ => none

end Setting

/-- The value that is given to an option last. -/
def given (settings : List Setting) (key : Key) : Option OptionValue :=
  (settings.filterMap (·.value? key)).getLast?

/-- The options of a run of the program at path `rom`. -/
def RunOptions.ofSettings (rom : String) (settings : List Setting) : RunOptions :=
  settings.foldl Setting.apply { rom }

/-! ## Words -/

/-- All names of the options of a run. -/
def runNames : List String := runGrammar.named.map (·.1)

/-- A name in full or, if no other name begins like that, the beginning of it. -/
def Abbreviates (written name : String) : Prop :=
  runNames.filter (fun name => written.toList.isPrefixOf name.toList) = [name]

instance (written name : String) : Decidable (Abbreviates written name) :=
  inferInstanceAs (Decidable (_ = _))

/-- The words for an option: its value is the next word, if that is not taken for an option, or it
is attached after an equals sign. -/
inductive Setting.Written : Setting → List String → Prop
  /-- The value is a word of its own. -/
  | apart {key : Key} {written text : String} {v : OptionValue} :
    Abbreviates written key.name → key.read text = some v → IsArgument text →
      Written (.value key v) [written, text]
  /-- The value is attached. -/
  | attached {key : Key} {written text : String} {v : OptionValue} :
    Abbreviates written key.name → key.read text = some v →
      Written (.value key v) [written ++ "=" ++ text]
  /-- The option that shows the screen. -/
  | ascii {written : String} : Abbreviates written "--ascii" → Written .ascii [written]
  /-- The option that shows the counters. -/
  | stats {written : String} : Abbreviates written "--stats" → Written .stats [written]

/-- The words for options, one after another. -/
inductive Spells : List Setting → List String → Prop
  /-- No options. -/
  | nil : Spells [] []
  /-- An option and others. -/
  | cons {setting : Setting} {settings : List Setting} {ws words : List String} :
    setting.Written ws → Spells settings words → Spells (setting :: settings) (ws ++ words)

/-- The words after the command `run`. -/
inductive RunWords (rom : String) : List Setting → List String → Prop
  /-- The path stands anywhere between the options. -/
  | plain {xs ys : List Setting} {before after : List String} :
    Spells xs before → IsArgument rom → Spells ys after →
      RunWords rom (xs ++ ys) (before ++ rom :: after)
  /-- The path is set off, so that it can begin with a hyphen. -/
  | separated {xs : List Setting} {before : List String} :
    Spells xs before → RunWords rom xs (before ++ ["--", rom])

/-- The words of a command line for a run, with `--debug` or without. -/
def RunLine (debug : Bool) (rom : String) (settings : List Setting) (words : List String) : Prop :=
  ∃ times rest, RunWords rom settings rest ∧
    words = List.replicate times "--debug" ++ "run" :: rest ∧ debug = decide (0 < times)

/-! ## Words recognised -/

theorem plain_runGrammar : runGrammar.Plain := by decide

theorem plain_mainGrammar : mainGrammar.Plain := by decide

/-- A long name unlike those of all options that stand before the command. -/
def IsRunName (name : String) : Prop :=
  ∃ c rest, name.toList = '-' :: '-' :: c :: rest ∧
    ∀ p ∈ mainGrammar.named, p.1.toList[2]? ≠ some c

theorem Key.isRunName (key : Key) : IsRunName key.name := by
  cases key <;> exact ⟨_, _, rfl, by decide⟩

variable {written name text rom : String} {o : Opt RunOptions} {ws words : List String}
  {setting : Setting} {settings : List Setting}

namespace Abbreviates

theorem mem (h : Abbreviates written name) :
    name ∈ runNames ∧ written.toList <+: name.toList := by
  have hmem : name ∈ runNames.filter fun name => written.toList.isPrefixOf name.toList :=
    h ▸ List.mem_singleton_self name
  rwa [List.mem_filter, List.isPrefixOf_iff_prefix] at hmem

/-- No name is shortened to its hyphens. -/
theorem exists_long (h : Abbreviates written name) {c : Char} {rest : List Char}
    (hname : name.toList = '-' :: '-' :: c :: rest) :
    ∃ tail, written.toList = '-' :: '-' :: c :: tail := by
  obtain ⟨tail, htail⟩ := h.mem.2
  have hcount : (runNames.filter fun name => written.toList.isPrefixOf name.toList).length = 1 :=
    congrArg List.length h
  rw [hname] at htail
  match hwritten : written.toList with
  | [] =>
    rw [hwritten] at hcount
    exact absurd hcount (by decide)
  | [c₁] =>
    rw [hwritten] at htail hcount
    cases htail
    exact absurd hcount (by decide)
  | [c₁, c₂] =>
    rw [hwritten] at htail hcount
    cases htail
    exact absurd hcount (by decide)
  | c₁ :: c₂ :: c₃ :: tail =>
    rw [hwritten] at htail
    cases htail
    exact ⟨tail, rfl⟩

theorem writes (h : Abbreviates written name) (hname : IsRunName name)
    (hfind : runGrammar.find? name = some o) : runGrammar.Writes o written := by
  obtain ⟨c, rest, hname, -⟩ := hname
  obtain ⟨tail, hlong⟩ := h.exists_long hname
  have hnames : (runGrammar.completions written).map Prod.fst = [name] := by
    rw [← h, runNames, List.filter_map]
    rfl
  obtain ⟨p, hp, -⟩ := List.map_eq_singleton_iff.1 hnames
  have hmem : (name, o) ∈ runGrammar.completions written :=
    Grammar.mem_completions.2 ⟨Grammar.mem_named_of_find? hfind, h.mem.2⟩
  rw [hp, List.mem_singleton] at hmem
  rw [← hmem] at hp
  exact Grammar.writes_of_completions plain_runGrammar ⟨_, _, hlong⟩ hp

theorem completions_mainGrammar (h : Abbreviates written name) (hname : IsRunName name) :
    mainGrammar.completions written = [] := by
  obtain ⟨c, rest, hname, hforeign⟩ := hname
  obtain ⟨tail, hlong⟩ := h.exists_long hname
  refine List.eq_nil_iff_forall_not_mem.2 fun p hp => ?_
  obtain ⟨hnamed, hbegins⟩ := Grammar.mem_completions.1 hp
  refine hforeign p hnamed ?_
  obtain ⟨more, hmore⟩ := hbegins
  rw [← hmore, hlong]
  rfl

end Abbreviates

/-- The words for an option change its value. -/
theorem Setting.Written.changes (h : setting.Written ws) :
    runGrammar.Changes ws fun o => setting.apply o := by
  cases h with
  | @apart key _ _ v hname hread htext =>
    exact .apart plain_runGrammar (hname.writes key.isRunName key.find?_name) rfl htext
      (by simp [hread, apply])
  | @attached key _ text v hname hread =>
    have htext : text ≠ "--" := by
      rintro rfl
      cases key <;> cases hread
    exact .attached plain_runGrammar (hname.writes key.isRunName key.find?_name) rfl htext
      (by simp [hread, apply])
  | ascii hname => exact .flag (hname.writes ⟨_, _, rfl, by decide⟩ rfl) rfl
  | stats hname => exact .flag (hname.writes ⟨_, _, rfl, by decide⟩ rfl) rfl

/-- The words for options change their values one after another. -/
theorem Spells.changes (h : Spells settings words) :
    runGrammar.Changes words fun o => settings.foldl Setting.apply o := by
  induction h with
  | nil => exact .nil
  | cons hwritten _ ih => exact hwritten.changes.append ih

theorem recognised_flag (h : Abbreviates written name) (hname : IsRunName name)
    (hfind : runGrammar.find? name = some o) :
    ∀ word ∈ [written], word ≠ "--" ∧ ∃ t, mainGrammar.recognise word = .ok t := by
  have hwrites := h.writes hname hfind
  exact List.forall_mem_singleton.2
    ⟨hwrites.ne_separator, hwrites.exists_recognise (h.completions_mainGrammar hname)⟩

/-- The words for an option are not ambiguous before the command, where they mean nothing. -/
theorem Setting.Written.recognised (h : setting.Written ws) :
    ∀ word ∈ ws, word ≠ "--" ∧ ∃ t, mainGrammar.recognise word = .ok t := by
  cases h with
  | @apart key _ _ v hname hread htext =>
    have hwrites := hname.writes key.isRunName key.find?_name
    have hnone := hname.completions_mainGrammar key.isRunName
    simp only [List.forall_mem_cons, List.not_mem_nil, false_implies, implies_true, and_true]
    exact ⟨⟨hwrites.ne_separator, hwrites.exists_recognise hnone⟩, htext.ne_separator,
      _, Grammar.recognise_of_isArgument plain_mainGrammar htext⟩
  | @attached key _ text v hname hread =>
    have hwrites := hname.writes key.isRunName key.find?_name
    have hnone := hname.completions_mainGrammar key.isRunName
    exact List.forall_mem_singleton.2
      ⟨hwrites.attached_ne_separator text, hwrites.exists_recognise_attached hnone text⟩
  | ascii hname => exact recognised_flag hname ⟨_, _, rfl, by decide⟩ rfl
  | stats hname => exact recognised_flag hname ⟨_, _, rfl, by decide⟩ rfl

theorem Spells.recognised (h : Spells settings words) :
    ∀ word ∈ words, word ≠ "--" ∧ ∃ t, mainGrammar.recognise word = .ok t := by
  induction h with
  | nil => simp
  | cons hwritten _ ih => exact List.forall_mem_append.2 ⟨hwritten.recognised, ih⟩

/-! ## Numbers -/

theorem Key.read_natural {key : Key} (hkey : key.kind = "int") {n : Nat}
    (hn : n.repr.length ≤ Numeral.maxDecimalDigits) : key.read n.repr = some (.number n) := by
  have hread : (Numeral.read n.repr.toList).map OptionValue.number = some (.number n) := by
    rw [Numeral.read_repr hn]
    rfl
  cases key with
  | foreground => exact absurd hkey (by decide)
  | background => exact absurd hkey (by decide)
  | _ => exact hread

theorem isArgument_natural (n : Nat) : IsArgument n.repr := by
  refine .inl fun hhead => ?_
  have hhyphen := Numeral.isDigit_of_mem_repr (List.mem_of_mem_head? hhead)
  exact absurd hhyphen (by decide)

/-- An option whose value is a number that is written in base ten. -/
theorem Setting.Written.natural {key : Key} (hname : Abbreviates written key.name)
    (hkey : key.kind = "int") {n : Nat} (hn : n.repr.length ≤ Numeral.maxDecimalDigits) :
    Written (.value key (.number n)) [written, n.repr] :=
  .apart hname (key.read_natural hkey hn) (isArgument_natural n)

/-- **A run with so many frames, cycles in a frame and this seed** is asked for like this. -/
theorem runLine_of_numbers {frames rate seed : Nat} (hrom : IsArgument rom)
    (hframes : frames.repr.length ≤ Numeral.maxDecimalDigits)
    (hrate : rate.repr.length ≤ Numeral.maxDecimalDigits)
    (hseed : seed.repr.length ≤ Numeral.maxDecimalDigits) :
    RunLine false rom
      [.value .frames (.number frames), .value .cyclesPerFrame (.number rate),
        .value .seed (.number seed)]
      ["run", rom, "--frames", frames.repr, "--cycles-per-frame", rate.repr, "--seed",
        seed.repr] := by
  have hfull : ∀ key : Key, Abbreviates key.name key.name := by
    intro key
    cases key <;> decide
  have hoptions := Spells.cons (.natural (hfull .frames) rfl hframes) <|
    .cons (.natural (hfull .cyclesPerFrame) rfl hrate) <|
    .cons (.natural (hfull .seed) rfl hseed) .nil
  exact ⟨0, _, .plain .nil hrom hoptions, rfl, rfl⟩

/-! ## Options read -/

/-- Where the path stands among the options is of no account. -/
theorem apply_rom (setting : Setting) (o : RunOptions) :
    setting.apply { o with rom } = { setting.apply o with rom } := by
  rcases setting with ⟨key, v⟩ | _ | _
  · cases key <;> rfl
  all_goals rfl

theorem foldl_apply_rom (settings : List Setting) (o : RunOptions) :
    settings.foldl Setting.apply { o with rom } =
      { settings.foldl Setting.apply o with rom } := by
  induction settings generalizing o with
  | nil => rfl
  | cons setting rest ih => rw [List.foldl_cons, List.foldl_cons, apply_rom, ih]

theorem RunWords.parse_eq (h : RunWords rom settings words) :
    runGrammar.parse words {} = .ok (.ofSettings rom settings, []) := by
  cases h with
  | plain hbefore hrom hafter =>
    rw [Grammar.parse_value plain_runGrammar rfl hbefore.changes hrom hafter.changes,
      ← foldl_apply_rom, ← List.foldl_append]
    rfl
  | separated hbefore =>
    rw [Grammar.parse_separated rfl hbefore.changes, ← foldl_apply_rom]
    rfl

theorem RunWords.exists_classify (h : RunWords rom settings words) :
    ∃ ts, mainGrammar.classify words = .ok ts := by
  cases h with
  | plain hbefore hrom hafter =>
    have hnil : mainGrammar.classify [] = .ok [] := rfl
    obtain ⟨us, hus⟩ := Grammar.exists_classify_append hafter.recognised ⟨[], hnil⟩
    rw [List.append_nil] at hus
    exact Grammar.exists_classify_append hbefore.recognised
      ⟨_, Grammar.classify_argument plain_mainGrammar hrom hus⟩
  | separated hbefore => exact Grammar.exists_classify_append hbefore.recognised ⟨_, rfl⟩

theorem changes_debug (times : Nat) :
    mainGrammar.Changes (List.replicate times "--debug") fun s =>
      { s with debug := s.debug || decide (0 < times) } := by
  induction times with
  | zero =>
    have hsame : (fun s : Reading => { s with debug := s.debug || decide (0 < 0) }) = id := by
      funext s
      simp
    exact hsame ▸ Grammar.Changes.nil
  | succ times ih =>
    have hflag : mainGrammar.Changes ["--debug"] fun s => { s with debug := true } :=
      .flag ⟨.inl rfl, ⟨_, _, rfl⟩, by decide⟩ rfl
    have hsame : (fun s : Reading => { s with debug := s.debug || decide (0 < times + 1) }) =
        (fun s => { s with debug := s.debug || decide (0 < times) }) ∘
          fun s => { s with debug := true } := by
      funext s
      simp
    exact hsame ▸ hflag.append ih

/-- **A command line for a run asks for it**, with the options as they are given. -/
theorem parse_runLine {debug : Bool} (h : RunLine debug rom settings words) :
    Request.parse words = .ok ⟨debug, none, .run (.ofSettings rom settings)⟩ := by
  obtain ⟨times, rest, hwords, rfl, rfl⟩ := h
  have hmain : mainGrammar.parse (List.replicate times "--debug" ++ "run" :: rest) {} = .ok
      ({ debug := decide (0 < times), command := some (.run (.ofSettings rom settings)) }, []) := by
    refine Grammar.parse_command plain_mainGrammar rfl (changes_debug times) (by decide) rfl
      hwords.exists_classify ?_
    rw [commandOf, hwords.parse_eq]
    simp [bind, Except.bind]
  rw [Request.parse, Grammar.parseAll, hmain]
  rfl

/-! ## Values given -/

theorem given_cons (setting : Setting) (settings : List Setting) (key : Key) :
    given (setting :: settings) key = (given settings key).or (setting.value? key) := by
  rw [given, given, List.filterMap_cons]
  cases setting.value? key with
  | none => rw [Option.or_none]
  | some v =>
    rw [List.getLast?_cons]
    cases (settings.filterMap (·.value? key)).getLast? <;> rfl

theorem get_apply (setting : Setting) (o : RunOptions) (key : Key) :
    key.get (setting.apply o) = (setting.value? key).getD (key.get o) := by
  rcases setting with ⟨other, v⟩ | _ | _
  · rw [Setting.apply, Key.get_set, Setting.value?]
    split <;> rfl
  all_goals cases key <;> rfl

/-- **An option has the value that is given to it last.** -/
theorem get_ofSettings (rom : String) (settings : List Setting) (key : Key) :
    key.get (.ofSettings rom settings) = (given settings key).getD (key.get {}) := by
  have hfoldl (o : RunOptions) :
      key.get (settings.foldl Setting.apply o) = (given settings key).getD (key.get o) := by
    induction settings generalizing o with
    | nil => rfl
    | cons setting rest ih =>
      rw [List.foldl_cons, ih, get_apply, given_cons]
      cases given rest key <;> rfl
  rw [RunOptions.ofSettings, hfoldl]
  cases key <;> rfl

theorem ofSettings_kept (rom : String) (settings : List Setting) :
    let o := RunOptions.ofSettings rom settings
    o.rom = rom ∧ o.png = none ∧ o.interactive = false := by
  have happly (o : RunOptions) (setting : Setting) : (setting.apply o).rom = o.rom ∧
      (setting.apply o).png = o.png ∧ (setting.apply o).interactive = o.interactive := by
    rcases setting with ⟨key, v⟩ | _ | _
    · cases key <;> exact ⟨rfl, rfl, rfl⟩
    all_goals exact ⟨rfl, rfl, rfl⟩
  have hfoldl (o : RunOptions) : (settings.foldl Setting.apply o).rom = o.rom ∧
      (settings.foldl Setting.apply o).png = o.png ∧
      (settings.foldl Setting.apply o).interactive = o.interactive := by
    induction settings generalizing o with
    | nil => exact ⟨rfl, rfl, rfl⟩
    | cons setting rest ih =>
      obtain ⟨hrom, hpng, hinteractive⟩ := ih (setting.apply o)
      obtain ⟨hrom', hpng', hinteractive'⟩ := happly o setting
      exact ⟨hrom.trans hrom', hpng.trans hpng', hinteractive.trans hinteractive'⟩
  exact hfoldl { rom }

/-! ## Settings -/

/-- The options that are given are those of valid settings, with `rate` cycles in a frame and this
seed. -/
structure Configured (settings : List Setting) (rate : Nat) (seed : Option Nat) : Prop where
  /-- The cycles in a frame, ten without the option. -/
  rate_eq : (given settings .cyclesPerFrame).getD (.number 10) = .number rate
  /-- A frame has at least one cycle. -/
  rate_pos : 0 < rate
  /-- The scale is positive. -/
  scale : ((given settings .scale).getD (.number 8)).IsPositive
  /-- Lit pixels have a colour. -/
  foreground : ((given settings .foreground).getD (.numbers [255, 255, 255])).IsColour
  /-- Unlit pixels have a colour. -/
  background : ((given settings .background).getD (.numbers [0, 0, 0])).IsColour
  /-- The seed is not negative, if there is one. -/
  seed_eq : given settings .seed = seed.map fun n => .number n

/-- The options of a run that make its settings. -/
def RunOptions.named (o : RunOptions) : Options := ⟨o.overrides, by simp [overrides]⟩

theorem hasOption_of_mem_named {o : RunOptions} : ∀ name ∈ o.named.names,
    Draft.hasOption name = true :=
  show ∀ name ∈ ["cycles_per_frame", "seed", "scale", "foreground", "background"],
    Draft.hasOption name = true by decide

/-- The draft that the options of a run make of the standard settings. -/
theorem changed_named (o : RunOptions) :
    Settings.standard.draft.changed o.named =
      { cyclesPerFrame := o.cyclesPerFrame.given?.getD (.number 10)
        timerHz := .number 60
        scale := o.scale.given?.getD (.number 8)
        foreground := o.foreground.given?.getD (.numbers [255, 255, 255])
        background := o.background.given?.getD (.numbers [0, 0, 0])
        seed := o.seed.given?.getD .unset } := by
  refine Draft.ext_get? fun name => ?_
  rw [Draft.get?_changed]
  unfold Draft.get?
  split <;> rfl

/-- An option that is given counts, and one that is not leaves the standard. -/
theorem given?_getD {value : Option OptionValue} {standard : OptionValue}
    (h : value.getD standard ≠ .unset) :
    (value.getD .unset).given?.getD standard = value.getD standard := by
  rcases value with _ | v
  · rfl
  · cases v <;> first | rfl | exact absurd rfl h

/-- **Valid options make settings that say the same.** -/
theorem Configured.exists_override {settings : List Setting} {rate : Nat} {seed : Option Nat}
    (h : Configured settings rate seed) (rom : String) :
    ∃ s, Settings.standard.override (RunOptions.ofSettings rom settings).overrides = .ok s ∧
      s.cyclesPerFrame = rate ∧ s.seed = seed.map fun n => .number n := by
  let o := RunOptions.ofSettings rom settings
  have hcycles : o.cyclesPerFrame = (given settings .cyclesPerFrame).getD .unset :=
    get_ofSettings rom settings .cyclesPerFrame
  have hscale : o.scale = (given settings .scale).getD .unset :=
    get_ofSettings rom settings .scale
  have hforeground : o.foreground = (given settings .foreground).getD .unset :=
    get_ofSettings rom settings .foreground
  have hbackground : o.background = (given settings .background).getD .unset :=
    get_ofSettings rom settings .background
  have hseed : o.seed = (given settings .seed).getD .unset := get_ofSettings rom settings .seed
  have hrate : (given settings .cyclesPerFrame).getD (.number 10) ≠ .unset := by simp [h.rate_eq]
  have hchanged := changed_named o
  rw [hcycles, hscale, hforeground, hbackground, hseed, given?_getD hrate,
    given?_getD h.scale.ne_unset, given?_getD h.foreground.ne_unset,
    given?_getD h.background.ne_unset, h.rate_eq, h.seed_eq] at hchanged
  have hvalid : (Settings.standard.draft.changed o.named).Valid := by
    rw [hchanged]
    exact ⟨⟨rate, Int.natCast_pos.2 h.rate_pos, rfl⟩, ⟨60, by decide, rfl⟩, h.scale, h.foreground,
      h.background, by cases seed <;> simp [OptionValue.given?]⟩
  obtain ⟨s, hs⟩ := Draft.exists_check_iff.2 hvalid
  have hdraft := Draft.check_eq_ok_iff.1 hs
  refine ⟨s, Settings.override_eq_ok_iff.2 ⟨hasOption_of_mem_named, hdraft⟩, ?_, ?_⟩
  · have hnumber := congrArg Draft.cyclesPerFrame (hdraft.trans hchanged)
    exact Int.ofNat.inj (OptionValue.number.inj hnumber)
  · have hoptional : Draft.optional "seed" s.draft.seed = .ok s.seed :=
      Draft.optional_eq_ok_iff.2 rfl
    rw [hdraft, hchanged] at hoptional
    cases seed <;> exact (Except.ok.inj hoptional).symm

end Chip8.CommandLine
