import Chip8.Colour
import Chip8.CommandLine.Grammar
import Chip8.CommandLine.Report
import Chip8.CommandLine.Request
import Chip8.Counters
import Chip8.Fault
import Chip8.Files
import Chip8.Files.Path
import Chip8.Files.Tree
import Chip8.Font
import Chip8.Grid
import Chip8.Grid.Runs
import Chip8.Instruction
import Chip8.Instruction.Encoding
import Chip8.Instruction.Text
import Chip8.Keypad
import Chip8.Listing
import Chip8.Listing.Flow
import Chip8.Machine
import Chip8.Machine.Boot
import Chip8.Machine.Cycle
import Chip8.Machine.Effect
import Chip8.Main
import Chip8.Memory
import Chip8.Number.Binary64
import Chip8.Number.Int64
import Chip8.Number.Shortest
import Chip8.Picture
import Chip8.Picture.Format
import Chip8.Picture.Layout
import Chip8.Picture.Png
import Chip8.Proofs.Accounting
import Chip8.Proofs.Assembler
import Chip8.Proofs.Atomicity
import Chip8.Proofs.Blocks
import Chip8.Proofs.Bounds
import Chip8.Proofs.ByteMap
import Chip8.Proofs.Calls
import Chip8.Proofs.Collisions
import Chip8.Proofs.Colours
import Chip8.Proofs.Command
import Chip8.Proofs.ControlFlow
import Chip8.Proofs.CrashReports
import Chip8.Proofs.Dispatch
import Chip8.Proofs.Drawing
import Chip8.Proofs.Drawless
import Chip8.Proofs.Endings
import Chip8.Proofs.Enlargement
import Chip8.Proofs.Execution
import Chip8.Proofs.Faults
import Chip8.Proofs.Flags
import Chip8.Proofs.Footprint
import Chip8.Proofs.Frames
import Chip8.Proofs.Grammars
import Chip8.Proofs.Grids
import Chip8.Proofs.Headless
import Chip8.Proofs.History
import Chip8.Proofs.Impasse
import Chip8.Proofs.Keys
import Chip8.Proofs.Lettering
import Chip8.Proofs.Lines
import Chip8.Proofs.Locality
import Chip8.Proofs.LogTexts
import Chip8.Proofs.Loops
import Chip8.Proofs.Noninterference
import Chip8.Proofs.Numerals
import Chip8.Proofs.Opcodes
import Chip8.Proofs.Operation
import Chip8.Proofs.Overrides
import Chip8.Proofs.Parity
import Chip8.Proofs.Patterns
import Chip8.Proofs.RandomOrder
import Chip8.Proofs.Randomness
import Chip8.Proofs.Restart
import Chip8.Proofs.RunReports
import Chip8.Proofs.RunWords
import Chip8.Proofs.Runs
import Chip8.Proofs.Semantics
import Chip8.Proofs.Sprites
import Chip8.Proofs.Timeline
import Chip8.Proofs.Timers
import Chip8.Proofs.Tracing
import Chip8.Proofs.Troubles
import Chip8.Proofs.Unattended
import Chip8.Proofs.Wording
import Chip8.Random.Generator
import Chip8.Random.Seed
import Chip8.Random.Source
import Chip8.Screen
import Chip8.Session
import Chip8.Session.Log
import Chip8.Settings
import Chip8.Text.Ascii
import Chip8.Text.Blank
import Chip8.Text.Case
import Chip8.Text.Digit
import Chip8.Text.Hex
import Chip8.Text.Lower
import Chip8.Text.Numeral
import Chip8.Text.Printable
import Chip8.Text.Quoted
import Chip8.Text.Ranges
import Chip8.Word
