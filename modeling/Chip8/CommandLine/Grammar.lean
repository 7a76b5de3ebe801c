import Chip8.Text.Digit
import Chip8.Text.Quoted

/-!
# Grammars of command lines

A command line is a list of words. Some of them are options, which begin with a
hyphen, and the others are arguments. A grammar says which options there are and
what the one argument means: a value, or a command that takes all words after it
and has a grammar of its own.

Long options may be shortened as long as no other option begins the same way,
and a value may follow its option in the same word after an equals sign. After
the word `--` there are arguments only.

* `Opt`, `Effect`, `Positional`, `Grammar` — options, what they do, and grammars
* `Stop` — why the words were not taken
* `Token`, `Grammar.classify` — each word as an option or an argument
* `Grammar.parse` — the state after all words, and the words left over
* `Grammar.parseAll` — the same when no word may be left over
-/

namespace Chip8.CommandLine

/-- Why the words of a command line were not taken. -/
inductive Stop where
  /-- Help was asked for. -/
  | help (program : String)
  /-- The words do not fit the grammar. -/
  | usage (program problem : String)
deriving DecidableEq, Repr

/-- What an option does to the state `σ` of the command line. -/
inductive Effect (σ : Type) where
  /-- Asks for help. -/
  | help
  /-- Changes the state. -/
  | flag (set : σ → σ)
  /-- Takes a value of a kind and changes the state, unless the value is not of that
  kind. The word `--` in place of a value leaves the option without one. -/
  | value (kind : String) (set : Option String → Option (σ → σ))

/-- An option. -/
structure Opt (σ : Type) where
  /-- The names of the option, with their hyphens. -/
  names : List String
  /-- What the option does. -/
  effect : Effect σ

/-- The meaning of the one argument. -/
inductive Positional (σ : Type) where
  /-- The argument is a value. -/
  | value (name : String) (set : String → σ → σ)
  /-- The argument is one of several commands, which takes all words after it and leaves
  some over. -/
  | command (name : String)
    (choices : List (String × (List String → σ → Except Stop (σ × List String))))

/-- A grammar of command lines. -/
structure Grammar (σ : Type) where
  /-- The name under which problems are reported. -/
  program : String
  /-- The options, in the order in which they are listed. -/
  options : List (Opt σ)
  /-- The argument. -/
  positional : Positional σ

/-- A word of a command line. -/
inductive Token (σ : Type) where
  /-- An argument. -/
  | argument (text : String)
  /-- The word `--`, after which there are arguments only. -/
  | separator
  /-- An option, and what follows it in the same word. -/
  | option (text : String) (opt : Opt σ) (attached : Option String)
  /-- Something like an option, but none that there is. -/
  | unknown (text : String)

/-- The word of a token. -/
def Token.text {σ : Type} : Token σ → String
  | argument text => text
  | separator => "--"
  | option text _ _ => text
  | unknown text => text

/-- The names of an option as problems show them. -/
def Opt.label {σ : Type} (o : Opt σ) : String := "/".intercalate o.names

/-- The name of an argument as problems show it. -/
def Positional.label {σ : Type} : Positional σ → String
  | value name _ => name
  | command name _ => name

/-- Whether a word is a negative number: digits after the hyphen, with a point before the
last of them at most. A line feed at the end does not count. -/
def isNegativeNumber (word : List Char) : Bool :=
  match word with
  | '-' :: rest =>
    let rest := if rest.getLast? = some '\n' then rest.dropLast else rest
    let isDigit (c : Char) := (Text.decimalValue? c).isSome
    let fraction := rest.dropWhile isDigit
    match fraction with
    | [] => !rest.isEmpty
    | '.' :: digits => !digits.isEmpty && digits.all isDigit
    | _ => false
  | _ => false

namespace Grammar

variable {σ : Type}

/-- A problem with the words of a command line. -/
def problem (g : Grammar σ) (text : String) : Stop := .usage g.program text

/-- A problem with an option or argument. -/
def argumentProblem (g : Grammar σ) (label text : String) : Stop :=
  g.problem ("argument " ++ label ++ ": " ++ text)

/-! ## Telling options from arguments -/

/-- Each name of each option, in the order in which they are listed. -/
def named (g : Grammar σ) : List (String × Opt σ) :=
  g.options.flatMap fun o => o.names.map fun name => (name, o)

/-- The option of a name. -/
def find? (g : Grammar σ) (name : String) : Option (Opt σ) :=
  (g.named.find? (·.1 = name)).map (·.2)

/-- A word cut at its first equals sign, if it has one. -/
def cutAtEquals (word : List Char) : List Char × Option String :=
  match word.dropWhile (· ≠ '=') with
  | [] => (word, none)
  | _ :: after => (word.takeWhile (· ≠ '='), some (String.ofList after))

/-- The options that a shortened name may mean, with what is attached to them. Of a word
with one hyphen the first letter may be an option and the others its value. -/
def candidates (g : Grammar σ) (word : List Char) : List (String × Opt σ × Option String) :=
  match word with
  | '-' :: '-' :: _ =>
    let (stem, attached) := cutAtEquals word
    g.named.filterMap fun (name, o) =>
      if stem.isPrefixOf name.toList then some (name, o, attached) else none
  | _ =>
    g.named.filterMap fun (name, o) =>
      if name.toList = word.take 2 then some (name, o, some (String.ofList (word.drop 2)))
      else if word.isPrefixOf name.toList then some (name, o, none)
      else none

/-- The meaning of a word that begins with a hyphen and is no name of an option in
full. -/
def recogniseShortened (g : Grammar σ) (text : String) : Except Stop (Token σ) :=
  match g.candidates text.toList with
  | [(_, o, attached)] => .ok (.option text o attached)
  | [] =>
    if isNegativeNumber text.toList || text.toList.contains ' ' then .ok (.argument text)
    else .ok (.unknown text)
  | several =>
    .error (g.problem ("ambiguous option: " ++ text ++ " could match " ++
      ", ".intercalate (several.map (·.1))))

/-- The meaning of a word other than `--`. -/
def recognise (g : Grammar σ) (text : String) : Except Stop (Token σ) :=
  match text.toList with
  | '-' :: rest =>
    match g.find? text with
    | some o => .ok (.option text o none)
    | none =>
      if rest.isEmpty then .ok (.argument text)
      else
        let (stem, attached) := cutAtEquals text.toList
        match attached, g.find? (String.ofList stem) with
        | some value, some o => .ok (.option text o (some value))
        | _, _ => g.recogniseShortened text
  | _ => .ok (.argument text)

/-- The meaning of each word. -/
def classify (g : Grammar σ) : List String → Except Stop (List (Token σ))
  | [] => .ok []
  | word :: rest =>
    if word = "--" then .ok (.separator :: rest.map .argument)
    else do
      let token ← g.recognise word
      let tokens ← classify g rest
      .ok (token :: tokens)

/-! ## Taking the words -/

/-- How far the words have been taken. -/
structure Scan (σ : Type) where
  /-- The state of the command line. -/
  state : σ
  /-- Whether the argument was there. -/
  filled : Bool := false
  /-- The words left over. -/
  extras : List String := []

/-- Leaves words over. -/
def Scan.leave (s : Scan σ) (words : List String) : Scan σ :=
  { s with extras := s.extras ++ words }

/-- The state after an option has taken a value. -/
def takeValue (g : Grammar σ) (o : Opt σ) (kind : String)
    (set : Option String → Option (σ → σ)) (text : String) (s : Scan σ) :
    Except Stop (Scan σ) :=
  match set (if text = "--" then none else some text) with
  | some change => .ok { s with state := change s.state }
  | none =>
    .error (g.argumentProblem o.label
      ("invalid " ++ kind ++ " value: " ++ Quoted.quote text))

/-- What is left of the letters after that of an option, when each of them that is the
letter of the same option is taken for the option once more. -/
def otherLetters (o : Opt σ) (letters : List Char) : List Char :=
  letters.dropWhile fun c => o.names.contains (String.ofList ['-', c])

/-- The state after an option to which text is attached. Only an option with a value can
have any, but the letter of a help option may be repeated. -/
def takeAttached (g : Grammar σ) (word : String) (o : Opt σ) (text : String) (s : Scan σ) :
    Except Stop (Scan σ) :=
  let ignored (text : String) : Except Stop (Scan σ) :=
    .error (g.argumentProblem o.label ("ignored explicit argument " ++ Quoted.quote text))
  match o.effect with
  | .value kind set => g.takeValue o kind set text s
  | .flag _ => ignored text
  | .help =>
    if word.startsWith "--" || text.isEmpty then ignored text
    else
      match otherLetters o text.toList with
      | [] => .error (.help g.program)
      | rest => ignored (String.ofList rest)

/-- The state after the argument, where `rest` are the words after it: the words that are
still to be taken, and the state. -/
def takeArgument (g : Grammar σ) (text : String) (rest : List (Token σ)) (s : Scan σ) :
    Except Stop (List (Token σ) × Scan σ) :=
  match g.positional with
  | .value _ set =>
    let rest := match rest with
      | .separator :: rest => rest
      | rest => rest
    .ok (rest, { s with state := set text s.state, filled := true })
  | .command name choices =>
    match choices.find? (·.1 = text) with
    | some (_, run) => do
      let (state, extras) ← run (rest.map Token.text) s.state
      .ok ([], { s with state, filled := true }.leave extras)
    | none =>
      .error (g.argumentProblem name ("invalid choice: " ++ Quoted.quote text ++
        " (choose from " ++ ", ".intercalate (choices.map fun c => Quoted.quote c.1) ++ ")"))

/-- The first argument after `--`. A command must not come after it. -/
def takeSeparated (g : Grammar σ) (text : String) (rest : List (Token σ)) (s : Scan σ) :
    Except Stop (List (Token σ) × Scan σ) :=
  match g.positional with
  | .value .. => g.takeArgument text rest s
  | .command .. => g.takeArgument "--" (.argument text :: rest) s

/-- Takes the words from left to right. The fuel is their number: each step takes at
least one of them. -/
def scan (g : Grammar σ) : Nat → List (Token σ) → Scan σ → Except Stop (Scan σ)
  | 0, _, s | _, [], s => .ok s
  | fuel + 1, .unknown text :: rest, s => g.scan fuel rest (s.leave [text])
  | fuel + 1, .argument text :: rest, s =>
    if s.filled then g.scan fuel rest (s.leave [text])
    else do
      let (rest, s) ← g.takeArgument text rest s
      g.scan fuel rest s
  | fuel + 1, .separator :: rest, s =>
    match s.filled, rest with
    | false, .argument text :: rest => do
      let (rest, s) ← g.takeSeparated text rest s
      g.scan fuel rest s
    | _, rest => g.scan fuel rest (s.leave ["--"])
  | fuel + 1, .option word o (some text) :: rest, s => do
    let s ← g.takeAttached word o text s
    g.scan fuel rest s
  | fuel + 1, .option _ o none :: rest, s =>
    match o.effect, rest with
    | .help, _ => .error (.help g.program)
    | .flag set, rest => g.scan fuel rest { s with state := set s.state }
    | .value kind set, .argument text :: rest => do
      let s ← g.takeValue o kind set text s
      g.scan fuel rest s
    | .value .., _ => .error (g.argumentProblem o.label "expected one argument")

/-- The state after all words, and the words left over. The argument must be there. -/
def parse (g : Grammar σ) (words : List String) (state : σ) : Except Stop (σ × List String) := do
  let tokens ← g.classify words
  let s ← g.scan tokens.length tokens { state }
  if s.filled then .ok (s.state, s.extras)
  else .error (g.problem ("the following arguments are required: " ++ g.positional.label))

/-- The state after all words, none of which may be left over. -/
def parseAll (g : Grammar σ) (words : List String) (state : σ) : Except Stop σ := do
  let (state, extras) ← g.parse words state
  if extras.isEmpty then .ok state
  else .error (g.problem ("unrecognized arguments: " ++ " ".intercalate extras))

end Grammar

end Chip8.CommandLine
