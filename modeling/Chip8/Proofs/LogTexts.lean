import Chip8.Proofs.Tracing
import Chip8.Proofs.Wording

/-!
# The written log

A log is written line by line, one line for each entry. The line of an instruction shows its word in
four digits, the program counter and the instruction, so that the trace of a session can be read
back from what is written of it.

* `Hex.numeral_injective`, `Hex.signed_injective` — numbers by their numerals
* `LogEntry.text_executing_inj`, `LogEntry.text_crashed_inj` — what the line of an entry shows
* `LogEntry.written`, `LogEntry.lines_written` — the text of a log, and its lines
* `Session.Traced.told_by_written` — a session that traces is told by what is written of it
-/

namespace Chip8

namespace Hex

theorem numeral_injective (width : Nat) : Function.Injective (numeral width) := by
  intro n m h
  have hread := Numeral.digitsValue_numeral width n
  rw [h, Numeral.digitsValue_numeral width m] at hread
  exact (Option.some.inj hread).symm

/-- A minus sign tells a negative number, and the digits tell the rest. -/
theorem signed_injective (width : Nat) : Function.Injective (signed width) := by
  have hlacks (n : Nat) : Lacks '-' (numeral width n) := lacks_numeral (by decide) width n
  intro n m h
  unfold signed at h
  split at h <;> split at h
  · have hdigits : numeral (width - 1) n.natAbs = numeral (width - 1) m.natAbs :=
      congrArg String.ofList (List.cons.inj (String.ofList_inj.1 h)).2
    have habs := numeral_injective _ hdigits
    omega
  · exact absurd (by simp [← h]) (hlacks m.toNat)
  · exact absurd (by simp [h]) (hlacks n.toNat)
  · have hnat := numeral_injective _ h
    omega

end Hex

namespace LogEntry

/-- What stands before a mark and what stands behind it are told by the text. -/
theorem append_inj_of_lacks {mark : Char} {lead s s' sep t t' : String} {rest : List Char}
    (hsep : sep.toList = mark :: rest) (hs : Lacks mark s) (hs' : Lacks mark s')
    (h : lead ++ (s ++ (sep ++ t)) = lead ++ (s' ++ (sep ++ t'))) : s = s' ∧ t = t' := by
  have hlist := congrArg String.toList h
  simp only [String.toList_append, hsep, List.append_cancel_left_eq, List.cons_append] at hlist
  -- neither of the two goes on to the mark of the other
  rcases List.append_eq_append_iff.1 hlist with ⟨more, hmore, hrest⟩ | ⟨more, hmore, hrest⟩
  all_goals rcases more with _ | ⟨c, more⟩
  · rw [List.append_nil] at hmore
    exact ⟨String.toList_inj.1 hmore.symm, String.toList_inj.1 (by simpa using hrest)⟩
  · cases (List.cons.inj hrest).1
    exact absurd (by simp [hmore]) hs'
  · rw [List.append_nil] at hmore
    exact ⟨String.toList_inj.1 hmore, String.toList_inj.1 (by simpa using hrest.symm)⟩
  · cases (List.cons.inj hrest).1
    exact absurd (by simp [hmore]) hs

variable {word word' : Word} {pc pc' : Int} {i i' : Instruction} {f f' : Fault}

theorem text_executing : (executing word pc i).text =
    "DEBUG chip8vm.cpu: Executing: 0x" ++ (Hex.numeral 4 word.toNat ++ (" at PC=0x" ++
      (Hex.signed 3 pc ++ (" -> " ++ i.record)))) := by
  simp only [← String.append_assoc]
  rfl

theorem text_crashed : (crashed pc f).text =
    "WARNING chip8vm.host: Machine crashed at PC=0x" ++
      (Hex.signed 3 pc ++ (": " ++ f.message)) := by
  simp only [← String.append_assoc]
  rfl

/-- The line of an instruction shows its word, the program counter and the instruction. -/
theorem text_executing_inj :
    (executing word pc i).text = (executing word' pc' i').text ↔
      word = word' ∧ pc = pc' ∧ i.record = i'.record := by
  have hword (w : Word) : Lacks ' ' (Hex.numeral 4 w.toNat) := lacks_numeral (by decide) _ _
  have hpc (pc : Int) : Lacks ' ' (Hex.signed 3 pc) := lacks_signed (by decide) (by decide) _ _
  rw [text_executing, text_executing]
  constructor
  · intro h
    obtain ⟨hnumeral, hrest⟩ := append_inj_of_lacks rfl (hword word) (hword word') h
    have hcounter : " at PC=0x" ++ (Hex.signed 3 pc ++ (" -> " ++ i.record)) =
        " at PC=0x" ++ (Hex.signed 3 pc' ++ (" -> " ++ i'.record)) := congrArg _ hrest
    obtain ⟨hsigned, hrecord⟩ := append_inj_of_lacks rfl (hpc pc) (hpc pc') hcounter
    exact ⟨Word.toNat_inj (Hex.numeral_injective 4 hnumeral), Hex.signed_injective 3 hsigned,
      hrecord⟩
  · rintro ⟨rfl, rfl, hrecord⟩
    rw [hrecord]

/-- The line of a crash shows the program counter and the fault. -/
theorem text_crashed_inj :
    (crashed pc f).text = (crashed pc' f').text ↔ pc = pc' ∧ f.message = f'.message := by
  have hpc (pc : Int) : Lacks ':' (Hex.signed 3 pc) := lacks_signed (by decide) (by decide) _ _
  rw [text_crashed, text_crashed]
  constructor
  · intro h
    obtain ⟨hsigned, hmessage⟩ := append_inj_of_lacks rfl (hpc pc) (hpc pc') h
    exact ⟨Hex.signed_injective 3 hsigned, hmessage⟩
  · rintro ⟨rfl, hmessage⟩
    rw [hmessage]

theorem lacks_record (i : Instruction) : Lacks '\n' i.record := by
  have hname : Lacks '\n' i.name := by
    cases i <;> simp only [Instruction.name] <;> decide
  have hlabels : ∀ p ∈ i.operands, Lacks '\n' p.1 := by
    have hlacks : ∀ label ∈ i.operands.map Prod.fst, label ∈ ["nnn", "vx", "vy", "nn", "n"] := by
      cases i <;> simp [Instruction.operands]
    intro p hp
    have hall : ∀ label ∈ ["nnn", "vx", "vy", "nn", "n"], Lacks '\n' label := by decide
    exact hall _ (hlacks _ (List.mem_map_of_mem hp))
  refine ((hname.append (by decide)).append (.intercalate (by decide) fun text htext => ?_)).append
    (by decide)
  obtain ⟨p, hp, rfl⟩ := List.mem_map.1 htext
  exact ((hlabels p hp).append (by decide)).append (lacks_natural rfl _)

theorem lacks_text (e : LogEntry) : Lacks '\n' e.text := by
  have hsigned (pc : Int) : Lacks '\n' (Hex.signed 3 pc) :=
    lacks_signed (by decide) (by decide) _ _
  cases e with
  | executing word pc i =>
    rw [text_executing]
    exact .append (by decide) (.append (lacks_numeral (by decide) _ _) (.append (by decide)
      (.append (hsigned pc) (.append (by decide) (lacks_record i)))))
  | crashed pc f =>
    rw [text_crashed]
    exact .append (by decide) (.append (hsigned pc) (.append (by decide) f.lacks_newline))

/-- The text of a log. -/
def written (entries : List LogEntry) : String :=
  String.join ((entries.map text).map (· ++ "\n"))

/-- The lines of a log are those of its entries. -/
theorem lines_written (entries : List LogEntry) :
    CommandLine.textLines (written entries) = entries.map text ++ [""] := by
  have hlacks : ∀ line ∈ entries.map text, Lacks '\n' line := by
    intro line hline
    obtain ⟨e, -, rfl⟩ := List.mem_map.1 hline
    exact lacks_text e
  rw [written, CommandLine.textLines_join, CommandLine.flatMap_textLines hlacks]

end LogEntry

namespace Session

variable {past past' : List Moment} {e e' : LogEntry}

theorem exists_of_mem_trace (h : e ∈ trace past) :
    ∃ word pc i, e = .executing word pc i ∧ Instruction.decode? word = some i := by
  obtain ⟨s, -, hnotice⟩ := List.mem_filterMap.1 h
  rw [Machine.notice?] at hnotice
  split at hnotice
  · obtain ⟨i, hdecode, rfl⟩ := Option.map_eq_some_iff.1 hnotice
    exact ⟨_, _, i, rfl, hdecode⟩
  · cases hnotice

/-- What is noted of instructions is told by its text. -/
theorem eq_of_text_eq (he : e ∈ trace past) (he' : e' ∈ trace past') (h : e.text = e'.text) :
    e = e' := by
  obtain ⟨word, pc, i, rfl, hdecode⟩ := exists_of_mem_trace he
  obtain ⟨word', pc', i', rfl, hdecode'⟩ := exists_of_mem_trace he'
  obtain ⟨rfl, rfl, -⟩ := LogEntry.text_executing_inj.1 h
  cases hdecode.symm.trans hdecode'
  rfl

theorem trace_eq_of_map_text
    (h : (trace past).map LogEntry.text = (trace past').map LogEntry.text) :
    trace past = trace past' := by
  have hlength : (trace past).length = (trace past').length := by
    simpa using congrArg List.length h
  refine List.ext_getElem hlength fun k hk hk' => ?_
  refine eq_of_text_eq (List.getElem_mem hk) (List.getElem_mem hk') ?_
  have htext : ((trace past).map LogEntry.text)[k]? = ((trace past').map LogEntry.text)[k]? := by
    rw [h]
  simpa [hk, hk'] using htext

/-- The lines of instructions begin in another way than that of a crash. -/
theorem filter_initials_map_text (s : Session) (past : List Moment) :
    ((trace past ++ s.warning?.toList).map LogEntry.text).filter
        (fun line => CommandLine.initials line = ['D', 'E']) =
      (trace past).map LogEntry.text := by
  rw [List.map_append, List.filter_append, List.filter_eq_self.2, List.filter_eq_nil_iff.2,
    List.append_nil]
  · intro line hline
    obtain ⟨e, he, rfl⟩ := List.mem_map.1 hline
    obtain ⟨f, -, rfl⟩ := Option.map_eq_some_iff.1 (Option.mem_toList.1 he)
    rw [LogEntry.text_crashed, CommandLine.initials_append rfl]
    decide
  · intro line hline
    obtain ⟨e, he, rfl⟩ := List.mem_map.1 hline
    obtain ⟨word, pc, i, rfl, -⟩ := exists_of_mem_trace he
    rw [LogEntry.text_executing, CommandLine.initials_append rfl]
    decide

/-- **A log is told by its text.** Two sessions that trace have logs of the same text. Then they
found the same words at the same places, with the same instructions, and if one of them was stopped,
so was the other, at the same place and with a fault that is told in the same way. -/
theorem Traced.told_by_written {s s' : Session} (h : Traced #[] past s) (h' : Traced #[] past' s')
    (hwritten : LogEntry.written s.log.toList = LogEntry.written s'.log.toList) :
    trace past = trace past' ∧
      s.fault.map (fun f => (s.machine.pc, f.message)) =
        s'.fault.map fun f => (s'.machine.pc, f.message) := by
  have htexts : (trace past ++ s.warning?.toList).map LogEntry.text =
      (trace past' ++ s'.warning?.toList).map LogEntry.text := by
    have hlines := congrArg CommandLine.textLines hwritten
    rw [LogEntry.lines_written, LogEntry.lines_written, List.append_cancel_right_eq, h.log,
      h'.log] at hlines
    exact hlines
  have htrace := congrArg (List.filter fun line => CommandLine.initials line = ['D', 'E']) htexts
  rw [filter_initials_map_text, filter_initials_map_text] at htrace
  refine ⟨trace_eq_of_map_text htrace, ?_⟩
  rw [List.map_append, List.map_append, htrace, List.append_cancel_left_eq] at htexts
  cases hf : s.fault with
  | none => cases hf' : s'.fault <;> simp [warning?, hf, hf'] at htexts ⊢
  | some f =>
    cases hf' : s'.fault with
    | none => simp [warning?, hf, hf'] at htexts
    | some f' =>
      simp only [warning?, hf, hf', Option.map_some, Option.toList_some, List.map_cons,
        List.map_nil, List.cons.injEq, and_true] at htexts
      obtain ⟨hpc, hmessage⟩ := LogEntry.text_crashed_inj.1 htexts
      rw [Option.map_some, Option.map_some, hpc, hmessage]

end Session

end Chip8
