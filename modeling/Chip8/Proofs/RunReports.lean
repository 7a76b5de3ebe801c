import Chip8.Files.Tree
import Chip8.Proofs.Drawless
import Chip8.Proofs.Endings
import Chip8.Proofs.RunWords
import Chip8.Proofs.Wording

/-!
# Reports of runs

A run in frames tells how far it came. Its report says how many frames and instructions there
were, it ends with the crash if there was one, and so does its status.

* `ran_unlogged` — runs without a log file
* `exists_ran_of_impasse`, `exists_ran_of_return` — runs that get nowhere
* `report_of_unpictured` — what is reported if no picture is asked for
* `exists_printed_last`, `getLast?_lines_of_fault`, `getLast?_lines_of_running`,
  `exists_crashLine_iff` — the last line
* `reported_of_parse`, `run_reported` — the report of a run tells what happened
-/

namespace Chip8.CommandLine

variable {σ : Type} {disk : Disk (StateM σ)} {files : σ} {entropy : Nat} {o : RunOptions}
  {s : Session} {frames : Int} {size : Nat}

/-! ## Running -/

theorem drive_of_frames (hinteractive : o.interactive = false) (hframes : o.frames = .number frames)
    (s : Session) : o.drive s = .ok (s.run frames) := by
  rw [RunOptions.drive, hinteractive, hframes]
  rfl

/-- A run without a log file makes its frames when its settings are valid, its program fits and
its seed has no integer below zero. -/
theorem ran_unlogged {debug : Bool} {settings : Settings} {program : Program}
    (hinteractive : o.interactive = false) (hframes : o.frames = .number frames)
    (hsettings : Settings.standard.override o.overrides = .ok settings)
    (hread : ((disk.read o.rom).run files).1 = .ok program.bytes)
    (hseed : ∀ seed ∈ settings.seed, ∀ n ∈ seed.parts, 0 ≤ n) :
    let source := RandomSource.ofEntropy (settings.seed.getD (.number entropy)).entropy
    let fresh := Session.ofMachine settings (.powerOn program source) debug
    Request.Ran disk files ⟨debug, none, .run o⟩ entropy o program.bytes (fresh.run frames)
      ((disk.read o.rom).run files).2 := by
  intro source fresh
  have hparts : (settings.seed.getD (.number entropy)).parts.find? (· < 0) = none := by
    rw [List.find?_eq_none]
    intro n hn
    rw [decide_eq_true_iff, Int.not_lt]
    cases hgiven : settings.seed with
    | none =>
      rw [hgiven, Option.getD_none, Seed.parts, List.mem_singleton] at hn
      exact hn ▸ Int.natCast_nonneg entropy
    | some seed => exact hseed seed hgiven n (by rwa [hgiven] at hn)
  have htraced : (Request.mk debug none (.run o)).traced = debug := Bool.or_false debug
  refine ⟨fresh, _, ⟨rfl, ⟨files, rfl, ?_⟩, settings, hsettings, ?_⟩,
    drive_of_frames hinteractive hframes fresh, rfl⟩
  · exact Prod.ext hread rfl
  · rw [htraced]
    exact Session.start_program program debug hparts

/-- Such a run ends in its first cycle if the machine is at an impasse when it is switched on. -/
theorem exists_ran_of_impasse {settings : Settings} {program : Program} {f : Fault} (debug : Bool)
    (entropy : Nat)
    (himpasse : ∀ source, (Machine.powerOn program source).impasse = some f)
    (hinteractive : o.interactive = false) (hframes : o.frames = .number frames)
    (hpos : 0 < frames) (hsettings : Settings.standard.override o.overrides = .ok settings)
    (hread : ((disk.read o.rom).run files).1 = .ok program.bytes)
    (hseed : ∀ seed ∈ settings.seed, ∀ n ∈ seed.parts, 0 ≤ n) :
    ∃ s, Request.Ran disk files ⟨debug, none, .run o⟩ entropy o program.bytes s
        ((disk.read o.rom).run files).2 ∧
      s.fault = some f ∧ s.settings = settings ∧ s.frames = 0 ∧
      s.machine.counters.instructions = 0 ∧ s.machine.pc = programStart ∧
      s.machine.screen = .blank := by
  obtain ⟨hfault, hkept, hcounts, hcycles, keys, previous, hmachine⟩ :=
    Session.run_of_impasse (himpasse _) debug hpos
  exact ⟨_, ran_unlogged hinteractive hframes hsettings hread hseed, hfault, hkept, hcounts,
    hcycles, congrArg Machine.pc hmachine, congrArg Machine.screen hmachine⟩

/-- A program that begins with a return is at an impasse when its machine is switched on. -/
theorem impasse_powerOn_of_return {program : Program}
    (hfirst : .ofBytes (program.bytes.getD 0 0) (program.bytes.getD 1 0) = Instruction.ret.encode)
    (source : RandomSource) : (Machine.powerOn program source).impasse = some .emptyStack := by
  have hpending : (Machine.powerOn program source).pending = .ok (Instruction.ret.encode, .ret) :=
    Machine.pending_of_load (k := 0) rfl rfl (by decide) hfirst rfl
  exact Machine.impasse_eq_some_iff.2 (.inr ⟨_, _, hpending, rfl⟩)

/-- A run with the standard settings of a program that begins with a return. -/
theorem exists_ran_of_return {program : Program} (debug : Bool) (entropy : Nat)
    (hfirst : .ofBytes (program.bytes.getD 0 0) (program.bytes.getD 1 0) = Instruction.ret.encode)
    (hinteractive : o.interactive = false) (hframes : o.frames = .number frames)
    (hpos : 0 < frames) (hunset : ∀ option ∈ o.overrides, option.2 = .unset)
    (hread : ((disk.read o.rom).run files).1 = .ok program.bytes) :
    ∃ s, Request.Ran disk files ⟨debug, none, .run o⟩ entropy o program.bytes s
        ((disk.read o.rom).run files).2 ∧
      s.fault = some .emptyStack ∧ s.settings = .standard ∧ s.frames = 0 ∧
      s.machine.counters.instructions = 0 ∧ s.machine.pc = programStart ∧
      s.machine.screen = .blank :=
  exists_ran_of_impasse debug entropy (impasse_powerOn_of_return hfirst) hinteractive hframes hpos
    (override_of_unset .standard hunset) hread (by rintro _ ⟨⟩)

theorem exists_picture_of_blank (hscreen : s.machine.screen = .blank)
    (hsettings : s.settings = .standard) : ∃ p, picture .usual s = .ok p := by
  rw [picture, hscreen, hsettings]
  exact ⟨_, rfl⟩

/-! ## Printing -/

/-- Without a picture, nothing comes between the two parts of what is printed. -/
theorem report_of_unpictured {words : List String} {r : Request} {bytes : Array UInt8} {after : σ}
    (hparse : Request.parse words = .ok r) (ran : r.Ran disk files entropy o bytes s after)
    (hpng : o.png = none) :
    let answer := ((report disk words entropy).run files).1
    answer.status = .exit (if s.crashed then 1 else 0) ∧
      answer.printed = opening o bytes.size s ++ closing o s := by
  have hsaves : Saves disk after o s (.ok []) := .unasked (by rw [hpng]; rfl)
  rw [report_of_parse hparse, (Request.Ends.shown ran hsaves).perform_eq, List.append_nil]
  exact ⟨rfl, rfl⟩

theorem opening_of_unshown (hinteractive : o.interactive = false) (hascii : o.ascii = false) :
    opening o size s =
      [loadedLine o size, ranLine s.frames s.machine.counters.instructions] := by
  rw [opening, hinteractive, hascii]
  rfl

theorem opening_of_idle (hinteractive : o.interactive = false) (hascii : o.ascii = false)
    (hframes : s.frames = 0) (hcycles : s.machine.counters.instructions = 0) :
    opening o size s = [loadedLine o size, "Ran 0 frames, 0 instructions"] := by
  have hran : ranLine 0 0 = "Ran 0 frames, 0 instructions" := by rfl
  rw [opening_of_unshown hinteractive hascii, hframes, hcycles, hran]

/-- What is printed last of a run that did not crash has no capital E. -/
theorem exists_printed_last (size : Nat) (hinteractive : o.interactive = false)
    (hfault : s.fault = none) :
    ∃ earlier last, opening o size s ++ closing o s = earlier ++ [last] ∧ Lacks 'E' last := by
  have hcrash : crashLines s = [] := by rw [crashLines, hfault]
  have hran : Lacks 'E' (ranLine s.frames s.machine.counters.instructions) :=
    .append (.append (.append (.append (by decide) (lacks_natural rfl _)) (by decide))
      (lacks_natural rfl _)) (by decide)
  rw [closing, hcrash, List.append_nil]
  cases hstats : o.stats with
  | true =>
    obtain hnil | ⟨others, last, hcounters⟩ := s.machine.counters.toList.eq_nil_or_concat
    · cases hnil
    · have hlast : last ∈ s.machine.counters.toList := by simp [hcounters]
      refine ⟨opening o size s ++ (countersHeading ++ others.map counterLine), _, ?_,
        (lacks_counterLine hlast).1⟩
      simp [counterLines, hcounters]
  | false =>
    rw [if_neg Bool.false_ne_true, List.append_nil, opening, hinteractive]
    cases hascii : o.ascii with
    | true => exact ⟨_, _, rfl, Grid.lacks_text (by decide) (by decide) (by decide) _⟩
    | false => exact ⟨[_], _, rfl, hran⟩

/-- A report that ends with a crash does so in its last line. -/
theorem getLast?_lines_of_fault {r : Report} {earlier : List String} {f : Fault}
    (hfault : s.fault = some f) (hprinted : r.printed = earlier ++ closing o s) :
    r.lines.getLast? = some (crashLine s.machine.pc f) := by
  have hcrash : crashLines s = [crashLine s.machine.pc f] := by rw [crashLines, hfault]
  rw [closing, hcrash, ← List.append_assoc] at hprinted
  rw [Report.getLast?_lines hprinted, textLines_crashLine, List.getLast?_singleton]

/-- A report without a crash has another last line. -/
theorem getLast?_lines_of_running {r : Report} (hinteractive : o.interactive = false)
    (hfault : s.fault = none) (hprinted : r.printed = opening o size s ++ closing o s) (pc : Int)
    (f : Fault) : r.lines.getLast? ≠ some (crashLine pc f) := by
  obtain ⟨earlier, last, hlast, hlacks⟩ := exists_printed_last size hinteractive hfault
  rw [Report.getLast?_lines (hprinted.trans hlast)]
  intro hcrash
  have hmem := List.mem_of_getLast? hcrash
  exact initials_ne_of_lacks (lacks_of_mem_textLines hlacks hmem) (initials_parts rfl [_, _, _])

/-- The last line is about a crash exactly if there was one. -/
theorem exists_crashLine_iff {r : Report} (hinteractive : o.interactive = false)
    (hprinted : r.printed = opening o size s ++ closing o s) :
    (∃ pc f, r.lines.getLast? = some (crashLine pc f)) ↔ s.fault ≠ none := by
  cases hfault : s.fault with
  | none =>
    refine iff_of_false ?_ fun h => h rfl
    rintro ⟨pc, f, hcrash⟩
    exact getLast?_lines_of_running hinteractive hfault hprinted pc f hcrash
  | some f =>
    exact iff_of_true ⟨_, f, getLast?_lines_of_fault hfault hprinted⟩ (Option.some_ne_none f)

theorem exit_iff_fault {r : Report} (hstatus : r.status = .exit (if s.crashed then 1 else 0)) :
    (r.status = .exit 1 ↔ s.fault ≠ none) ∧ (r.status = .exit 0 ↔ s.fault = none) := by
  rw [hstatus, Session.crashed]
  cases s.fault <;> simp

theorem ranLine_mem_lines {r : Report} (hinteractive : o.interactive = false)
    (hprinted : r.printed = opening o size s ++ closing o s) :
    ranLine s.frames s.machine.counters.instructions ∈ r.lines := by
  refine Report.mem_lines (textLines_ranLine _ _) ?_
  rw [hprinted, opening, hinteractive]
  simp

/-! ## What is reported -/

/-- The report of any words that ask for a run tells what happened. -/
theorem reported_of_parse {words : List String} {debug : Bool} {settings : Settings}
    {program : Program} (entropy : Nat) (source : RandomSource)
    (hparse : Request.parse words = .ok ⟨debug, none, .run o⟩)
    (hinteractive : o.interactive = false) (hpng : o.png = none)
    (hframes : o.frames = .number frames)
    (hsettings : Settings.standard.override o.overrides = .ok settings)
    (hseed : ∀ seed ∈ settings.seed, ∀ n ∈ seed.parts, 0 ≤ n)
    (hread : ((disk.read o.rom).run files).1 = .ok program.bytes) :
    let r := ((report disk words entropy).run files).1
    let rate := settings.cyclesPerFrame
    let limit := frames.toNat * rate
    let cycles := (Machine.powerOn program source).unattended rate
    (source = .ofEntropy (settings.seed.getD (.number entropy)).entropy ∨
      settings.seed = none ∧
        ∀ k < limit, (∀ j < k, (cycles j).error = none) → (cycles k).Drawless) →
    (r.status = .exit 1 ↔ ∃ k < limit, (cycles k).error ≠ none) ∧
      (r.status = .exit 0 ↔ ∀ k < limit, (cycles k).error = none) ∧
      (∃ k ≤ limit, (∀ j < k, (cycles j).error = none) ∧ ranLine (k / rate) k ∈ r.lines ∧
        (k < limit → ∃ f, (cycles k).error = some (.fault f) ∧
          r.lines.getLast? = some (crashLine (cycles k).after.pc f))) ∧
      (r.status = .exit 1 ↔ ∃ pc f, r.lines.getLast? = some (crashLine pc f)) := by
  intro r rate limit cycles hsource
  let given := RandomSource.ofEntropy (settings.seed.getD (.number entropy)).entropy
  let s := (Session.ofMachine settings (.powerOn program given) debug).run frames
  have hran : Request.Ran disk files _ entropy o _ s _ :=
    ran_unlogged hinteractive hframes hsettings hread hseed
  obtain ⟨hstatus, hprinted⟩ : r.status = _ ∧ r.printed = _ :=
    report_of_unpictured hparse hran hpng
  have hline := ranLine_mem_lines hinteractive hprinted
  have htold : s.ToldBy cycles rate limit := by
    rcases hsource with rfl | ⟨-, hdrawless⟩
    · exact Session.run_unattended settings program given debug frames
    · exact Session.run_drawless settings program source given debug frames hdrawless
  have hfault : s.fault ≠ none ↔ ∃ k < limit, (cycles k).error ≠ none := by
    rw [Ne, htold.fault_eq_none_iff]
    simp only [Classical.not_forall, exists_prop, ne_eq]
  obtain ⟨hone, hzero⟩ := exit_iff_fault hstatus
  refine ⟨hone.trans hfault, hzero.trans htold.fault_eq_none_iff, ?_,
    hone.trans (exists_crashLine_iff hinteractive hprinted).symm⟩
  cases htold with
  | completed hall _ hcounts hcycles =>
    rw [hcounts, hcycles] at hline
    exact ⟨limit, Nat.le_refl limit, hall, hline, fun h => absurd h (Nat.lt_irrefl limit)⟩
  | @failed k f hk hfirst hfault hcounts hcycles hpc =>
    have hlast := getLast?_lines_of_fault hfault hprinted
    rw [hcounts, hcycles] at hline
    rw [hpc] at hlast
    exact ⟨k, Nat.le_of_lt hk, hfirst.before, hline, fun _ => ⟨f, hfirst.error, hlast⟩⟩

/-- **The report of a run tells what happened.** The words are any that ask for a run of a program
that fits, with `--debug` or without and with any of its options but `--png` and `--interactive`.
The number of frames, that of the cycles in a frame and the seed are those that are given last.
The cycles that are made are those of a machine that runs unattended. Its random bytes come from
the seed or, if there is none, from what the system offers; in that case the source is of no
account as long as no cycle that is made draws a byte. -/
theorem run_reported {words : List String} {debug : Bool} {rom : String} {settings : List Setting}
    {rate : Nat} {seed : Option Nat} {program : Program} (entropy : Nat) (source : RandomSource)
    (hline : RunLine debug rom settings words)
    (hframes : (given settings .frames).getD (.number 600) = .number frames)
    (hconfigured : Configured settings rate seed)
    (hread : ((disk.read rom).run files).1 = .ok program.bytes) :
    let r := ((report disk words entropy).run files).1
    let limit := frames.toNat * rate
    let cycles := (Machine.powerOn program source).unattended rate
    (source = .ofEntropy (Seed.number (seed.getD entropy)).entropy ∨
      seed = none ∧ ∀ k < limit, (∀ j < k, (cycles j).error = none) → (cycles k).Drawless) →
    (r.status = .exit 1 ↔ ∃ k < limit, (cycles k).error ≠ none) ∧
      (r.status = .exit 0 ↔ ∀ k < limit, (cycles k).error = none) ∧
      (∃ k ≤ limit, (∀ j < k, (cycles j).error = none) ∧
        "Ran " ++ toString (k / rate) ++ " frames, " ++ toString k ++ " instructions" ∈ r.lines ∧
        (k < limit → ∃ f, (cycles k).error = some (.fault f) ∧
          r.lines.getLast? = some ("Emulator crashed at PC=0x" ++
            Hex.signed 3 (cycles k).after.pc ++ ": " ++ f.message))) ∧
      (r.status = .exit 1 ↔ ∃ (pc : Int) (f : Fault), r.lines.getLast? =
        some ("Emulator crashed at PC=0x" ++ Hex.signed 3 pc ++ ": " ++ f.message)) := by
  intro r limit cycles hsource
  obtain ⟨checked, hsettings, rfl, hseed⟩ := hconfigured.exists_override rom
  obtain ⟨hrom, hpng, hinteractive⟩ := ofSettings_kept rom settings
  have hparse := parse_runLine hline
  have hdriven : (RunOptions.ofSettings rom settings).frames = .number frames :=
    (get_ofSettings rom settings .frames).trans hframes
  have hnonneg : ∀ seed ∈ checked.seed, ∀ n ∈ seed.parts, 0 ≤ n := by
    rw [hseed]
    cases seed with
    | none => rintro _ ⟨⟩
    | some n =>
      rintro _ ⟨⟩ k hk
      exact List.mem_singleton.1 hk ▸ Int.natCast_nonneg n
  refine reported_of_parse entropy source hparse hinteractive hpng hdriven hsettings hnonneg
    (hrom.symm ▸ hread) ?_
  rcases hsource with rfl | ⟨rfl, hdrawless⟩
  · rw [hseed]
    cases seed <;> exact .inl rfl
  · exact .inr ⟨hseed, hdrawless⟩

set_option maxRecDepth 4000 in
/-- The report of a program that begins with a return. The options of its run are partly shortened,
and one of them is given twice. -/
theorem run_reported_return :
    let program : Program := ⟨#[0x00, 0xEE], by decide⟩
    let tree : FileTree := { entries := [(["rom.ch8"], .file (.bytes program.bytes))] }
    let words := ["--debug", "run", "--cycles=4", "rom.ch8", "--frames", "7", "--asc", "--frames",
      "2", "--seed=5"]
    let r := ((report FileTree.disk words 0).run tree).1
    r.status = .exit 1 ∧ "Ran 0 frames, 0 instructions" ∈ r.lines ∧
      r.lines.getLast? = some ("Emulator crashed at PC=0x200: " ++ Fault.emptyStack.message) := by
  intro program tree words r
  let source := RandomSource.ofEntropy (Seed.number 5).entropy
  let settings : List Setting := [.value .cyclesPerFrame (.number 4), .value .frames (.number 7),
    .ascii, .value .frames (.number 2), .value .seed (.number 5)]
  have hbefore : Spells [.value .cyclesPerFrame (.number 4)] ["--cycles=4"] :=
    .cons (@Setting.Written.attached .cyclesPerFrame "--cycles" "4" _ (by decide) rfl) .nil
  have hafter : Spells settings.tail ["--frames", "7", "--asc", "--frames", "2", "--seed=5"] :=
    .cons (.apart (by decide) rfl (by decide)) <| .cons (.ascii (by decide)) <|
      .cons (.apart (by decide) rfl (by decide)) <|
      .cons (@Setting.Written.attached .seed "--seed" "5" _ (by decide) rfl) .nil
  have hline : RunLine true "rom.ch8" settings words :=
    ⟨1, _, .plain hbefore (by decide) hafter, rfl, rfl⟩
  have hconfigured : Configured settings 4 (some 5) :=
    ⟨rfl, by decide, ⟨8, by decide, rfl⟩, ⟨255, 255, 255, rfl, by decide⟩,
      ⟨0, 0, 0, rfl, by decide⟩, rfl⟩
  have hread : ((FileTree.disk.read "rom.ch8").run tree).1 = .ok program.bytes := by rfl
  have hframes : (given settings .frames).getD (.number 600) = .number 2 := rfl
  obtain ⟨hone, -, ⟨k, hk, hbefore, hran, hcrash⟩, -⟩ :=
    run_reported 0 source hline hframes hconfigured hread (.inl rfl)
  -- the first cycle fails, so that none comes before the crash
  have himpasse : (Machine.powerOn program source).impasse = some .emptyStack :=
    impasse_powerOn_of_return (by decide) source
  obtain ⟨hfirst, keys, previous, hafter⟩ := Machine.firstFault_of_impasse himpasse 4
  have herror : ((Machine.powerOn program source).unattended 4 0).error ≠ none := by
    rw [hfirst.error]
    exact Option.some_ne_none _
  obtain rfl : k = 0 := by
    by_contra hne
    exact herror (hbefore 0 (Nat.pos_of_ne_zero hne))
  obtain ⟨f, hf, hlast⟩ := hcrash (by decide)
  obtain rfl : f = .emptyStack := by
    have hsame : some (CycleError.fault f) = some (.fault .emptyStack) :=
      hf.symm.trans hfirst.error
    cases hsame
    rfl
  have hpc : ((Machine.powerOn program source).unattended 4 0).after.pc = 0x200 :=
    congrArg Machine.pc hafter
  rw [hpc] at hlast
  exact ⟨hone.2 ⟨0, by decide, herror⟩, hran, hlast.trans (by rfl)⟩

end Chip8.CommandLine
