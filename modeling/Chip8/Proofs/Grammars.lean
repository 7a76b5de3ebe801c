import Chip8.CommandLine.Grammar
import Mathlib.Data.List.Forall2
import Mathlib.Data.List.TakeWhile

/-!
# Words that a grammar takes

The words of a command line are taken in two passes, one that tells options from arguments and one
that does what they say. Words change the state in the same way wherever they stand, if each of them
is recognised by itself and what they do needs no more words. A whole command line is taken part by
part for that.

* `Grammar.Writes` — the ways to write the name of an option
* `IsArgument`, `Grammar.Plain` — words that are arguments in every grammar of a kind
* `Grammar.Takes`, `Grammar.Changes` — what words do, whatever words come before and after
* `Grammar.Changes.flag`, `Grammar.Changes.apart`, `Grammar.Changes.attached` — the words of options
* `Grammar.parse_value`, `Grammar.parse_separated`, `Grammar.parse_command` — whole command lines
-/

namespace Chip8.CommandLine

/-- A word is an argument by the way it begins, or as it is a negative number. -/
def IsArgument (word : String) : Prop :=
  word.toList.head? ≠ some '-' ∨ isNegativeNumber word.toList = true

instance (word : String) : Decidable (IsArgument word) :=
  inferInstanceAs (Decidable (_ ∨ _))

/-- A character that can follow the hyphen of a negative number. -/
def isNumeric (c : Char) : Bool := (Text.decimalValue? c).isSome || c == '.'

theorem exists_cons_of_dropLast {rest : List Char} {c : Char} {tail : List Char}
    (h : rest.dropLast = c :: tail) : ∃ tail', rest = c :: tail' := by
  match rest with
  | [] => cases h
  | [d] => cases h
  | d :: e :: rest =>
    rw [List.dropLast_cons_cons] at h
    cases h
    exact ⟨_, rfl⟩

theorem exists_numeric_of_isNegativeNumber {word : List Char} (h : isNegativeNumber word = true) :
    ∃ c rest, word = '-' :: c :: rest ∧ isNumeric c = true := by
  unfold isNegativeNumber at h
  split at h
  · rename_i rest
    have hbegins : ∀ c tail,
        (if rest.getLast? = some '\n' then rest.dropLast else rest) = c :: tail →
          ∃ tail', rest = c :: tail' := by
      intro c tail hrest
      split at hrest
      · exact exists_cons_of_dropLast hrest
      · exact ⟨tail, hrest⟩
    generalize (if rest.getLast? = some '\n' then rest.dropLast else rest) = digits at h hbegins
    have hfirst : ∃ c tail, digits = c :: tail ∧ isNumeric c = true := by
      dsimp only at h
      split at h
      · rename_i hall
        cases digits with
        | nil => cases h
        | cons c tail =>
          have hdigit := List.dropWhile_eq_nil_iff.1 hall c List.mem_cons_self
          exact ⟨c, tail, rfl, Bool.or_eq_true_iff.2 (.inl hdigit)⟩
      · rename_i fraction hpoint
        cases digits with
        | nil => cases hpoint
        | cons c tail =>
          refine ⟨c, tail, rfl, Bool.or_eq_true_iff.2 ?_⟩
          by_cases hdigit : (Text.decimalValue? c).isSome = true
          · exact .inl hdigit
          · rw [List.dropWhile_cons, if_neg hdigit] at hpoint
            cases hpoint
            exact .inr rfl
      · cases h
    obtain ⟨c, tail, hdigits, hc⟩ := hfirst
    obtain ⟨tail', rfl⟩ := hbegins c tail hdigits
    exact ⟨c, tail', rfl, hc⟩
  · cases h

theorem IsArgument.ne_separator {word : String} (h : IsArgument word) : word ≠ "--" := by
  rintro rfl
  revert h
  decide

namespace Grammar

variable {σ : Type} {g : Grammar σ} {o : Opt σ} {text word written : String}
  {ws vs : List String} {s s' s'' : Scan σ} {change change' : σ → σ}

/-! ## One word -/

/-- No name of an option looks like a negative number, and none has an equals sign. -/
def Plain (g : Grammar σ) : Prop :=
  ∀ p ∈ g.named, '=' ∉ p.1.toList ∧ p.1.toList[1]?.any isNumeric = false

instance (g : Grammar σ) : Decidable g.Plain := inferInstanceAs (Decidable (∀ p ∈ g.named, _))

theorem Plain.second_ne {p : String × Opt σ} {c : Char} (h : g.Plain) (hp : p ∈ g.named)
    (hc : isNumeric c = true) : p.1.toList[1]? ≠ some c := by
  intro hsecond
  have hnone := (h p hp).2
  rw [hsecond, Option.any_some, hc] at hnone
  cases hnone

/-- The options whose names begin like this. -/
def completions (g : Grammar σ) (written : String) : List (String × Opt σ) :=
  g.named.filter fun p => written.toList.isPrefixOf p.1.toList

/-- An option is written by its name or, if no other name begins like that, by the beginning of
it. -/
structure Writes (g : Grammar σ) (o : Opt σ) (written : String) : Prop where
  /-- It is a name, or the beginning of a single one. -/
  meaning : g.find? written = some o ∨
    g.find? written = none ∧ ∃ name, g.completions written = [(name, o)]
  /-- There is more than the two hyphens. -/
  long : ∃ c rest, written.toList = '-' :: '-' :: c :: rest
  /-- Nothing is attached to it. -/
  noEquals : '=' ∉ written.toList

theorem mem_completions {p : String × Opt σ} :
    p ∈ g.completions written ↔ p ∈ g.named ∧ written.toList <+: p.1.toList := by
  rw [completions, List.mem_filter, List.isPrefixOf_iff_prefix]

theorem mem_named_of_find? {name : String} (h : g.find? name = some o) : (name, o) ∈ g.named := by
  obtain ⟨p, hp, rfl⟩ := Option.map_eq_some_iff.1 h
  have hname : p.1 = name := by simpa using List.find?_some hp
  exact hname ▸ List.mem_of_find?_eq_some hp

/-- The beginning of a single name writes its option. -/
theorem writes_of_completions {name : String} (hplain : g.Plain)
    (hlong : ∃ c rest, written.toList = '-' :: '-' :: c :: rest)
    (h : g.completions written = [(name, o)]) : g.Writes o written := by
  have hmem : (name, o) ∈ g.completions written := h ▸ List.mem_singleton_self _
  obtain ⟨hnamed, hbegins⟩ := mem_completions.1 hmem
  refine ⟨?_, hlong, fun heq => (hplain _ hnamed).1 (hbegins.subset heq)⟩
  cases hfind : g.find? written with
  | none => exact .inr ⟨rfl, name, h⟩
  | some o' =>
    have hmem' : (written, o') ∈ g.completions written :=
      mem_completions.2 ⟨mem_named_of_find? hfind, List.prefix_rfl⟩
    rw [h, List.mem_singleton] at hmem'
    cases hmem'
    exact .inl rfl

theorem cutAtEquals_of_notMem {w : List Char} (h : '=' ∉ w) : cutAtEquals w = (w, none) := by
  have hdrop : w.dropWhile (· ≠ '=') = [] := by
    rw [List.dropWhile_eq_nil_iff]
    intro c hc
    simpa using ne_of_mem_of_not_mem hc h
  rw [cutAtEquals, hdrop]

theorem cutAtEquals_append {w : List Char} (h : '=' ∉ w) (t : List Char) :
    cutAtEquals (w ++ '=' :: t) = (w, some (String.ofList t)) := by
  have hall : ∀ c ∈ w, decide (c ≠ '=') = true := fun c hc => by
    simpa using ne_of_mem_of_not_mem hc h
  rw [cutAtEquals, List.dropWhile_append_of_pos hall, List.takeWhile_append_of_pos hall]
  simp

theorem candidates_of_long {w : List Char} {c : Char} {rest : List Char}
    (h : w = '-' :: '-' :: c :: rest) :
    g.candidates w = (g.completions (String.ofList (cutAtEquals w).1)).map
      fun p => (p.1, p.2, (cutAtEquals w).2) := by
  subst h
  rw [candidates, completions, ← List.filterMap_eq_map, List.filterMap_filter, String.toList_ofList]
  rfl

theorem text_of_recogniseShortened {t : Token σ} (h : g.recogniseShortened word = .ok t) :
    t.text = word := by
  unfold recogniseShortened at h
  split at h
  · cases h
    rfl
  · split at h <;> cases h <;> rfl
  · cases h

theorem text_of_recognise {t : Token σ} (h : g.recognise word = .ok t) : t.text = word := by
  unfold recognise at h
  split at h
  · split at h
    · cases h
      rfl
    · split at h
      · cases h
        rfl
      · dsimp only at h
        split at h
        · cases h
          rfl
        · exact text_of_recogniseShortened h
  · cases h
    rfl

/-- A word is recognised if it is the beginning of one name at most. -/
theorem exists_recognise (h : (g.candidates word.toList).length ≤ 1) :
    ∃ t, g.recognise word = .ok t := by
  have hshortened : ∃ t, g.recogniseShortened word = .ok t := by
    unfold recogniseShortened
    split
    · exact ⟨_, rfl⟩
    · split <;> exact ⟨_, rfl⟩
    · rename_i hnil hone
      match hseveral : g.candidates word.toList, h with
      | [], _ => exact absurd hseveral hone
      | [p], _ => exact absurd hseveral (hnil p.1 p.2.1 p.2.2)
  unfold recognise
  split
  · split
    · exact ⟨_, rfl⟩
    · split
      · exact ⟨_, rfl⟩
      · dsimp only
        split
        · exact ⟨_, rfl⟩
        · exact hshortened
  · exact ⟨_, rfl⟩

theorem find?_eq_none (h : ∀ p ∈ g.named, p.1 ≠ word) : g.find? word = none := by
  have hnone : g.named.find? (fun p => p.1 = word) = none := by
    simpa [List.find?_eq_none] using h
  rw [find?, hnone, Option.map_none]

theorem recognise_of_hyphen {c : Char} {rest : List Char} (hword : word.toList = '-' :: c :: rest)
    (hfind : g.find? word = none) :
    g.recognise word =
      match (cutAtEquals word.toList).2, g.find? (String.ofList (cutAtEquals word.toList).1) with
      | some value, some o => .ok (.option word o (some value))
      | _, _ => g.recogniseShortened word := by
  unfold recognise
  split
  · rename_i tail htail
    have hmore : ¬ tail.isEmpty = true := by
      rw [hword] at htail
      cases htail
      exact Bool.false_ne_true
    rw [hfind]
    exact if_neg hmore
  · rename_i hhyphen
    exact absurd hword (hhyphen _)

/-- No option is shortened to a negative number. -/
theorem candidates_of_numeric {w : List Char} {c : Char} {rest : List Char} (hplain : g.Plain)
    (hword : w = '-' :: c :: rest) (hc : isNumeric c = true) : g.candidates w = [] := by
  subst hword
  unfold candidates
  split
  · rename_i hlong
    cases hlong
    exact absurd hc (by decide)
  · refine List.filterMap_eq_nil_iff.2 fun ⟨name, o⟩ hmem => ?_
    have hsecond : name.toList[1]? ≠ some c := hplain.second_ne hmem hc
    dsimp only
    rw [if_neg, if_neg]
    · rintro hbegins
      obtain ⟨tail, htail⟩ := List.isPrefixOf_iff_prefix.1 hbegins
      exact hsecond (by rw [← htail]; rfl)
    · rintro hname
      exact hsecond (by rw [hname]; rfl)

/-- Arguments are recognised as such. -/
theorem recognise_of_isArgument (hplain : g.Plain) (h : IsArgument word) :
    g.recognise word = .ok (.argument word) := by
  rcases h with hhead | hnegative
  · unfold recognise
    split
    · rename_i hword
      rw [hword] at hhead
      exact absurd rfl hhead
    · rfl
  · obtain ⟨c, rest, hword, hc⟩ := exists_numeric_of_isNegativeNumber hnegative
    have hsecond {text : String} (htext : text.toList[1]? = some c) : g.find? text = none := by
      refine find?_eq_none fun p hp hname => hplain.second_ne hp hc ?_
      rw [hname, htext]
    have hstem : (cutAtEquals word.toList).1[1]? = some c := by
      have hne : c ≠ '=' := by
        rintro rfl
        revert hc
        decide
      rw [cutAtEquals]
      split
      · rw [hword]
        rfl
      · simp [hword, hne]
    have hcandidates := candidates_of_numeric hplain hword hc
    rw [recognise_of_hyphen hword (hsecond (by rw [hword]; rfl)), hsecond (by simpa using hstem),
      recogniseShortened, hcandidates, hnegative]
    cases (cutAtEquals word.toList).2 <;> rfl

theorem Writes.ne_separator (h : g.Writes o written) : written ≠ "--" := by
  obtain ⟨c, rest, hlong⟩ := h.long
  rintro rfl
  cases hlong

theorem Writes.attached_ne_separator (h : g.Writes o written) (text : String) :
    written ++ "=" ++ text ≠ "--" := by
  obtain ⟨c, rest, hlong⟩ := h.long
  intro heq
  have hlist := congrArg String.toList heq
  simp [hlong] at hlist

theorem Writes.cutAtEquals_toList (h : g.Writes o written) :
    cutAtEquals written.toList = (written.toList, none) :=
  cutAtEquals_of_notMem h.noEquals

theorem Writes.cutAtEquals_attached (h : g.Writes o written) (text : String) :
    cutAtEquals (written ++ "=" ++ text).toList = (written.toList, some text) := by
  have hlist : (written ++ "=" ++ text).toList = written.toList ++ '=' :: text.toList := by simp
  rw [hlist, cutAtEquals_append h.noEquals, String.ofList_toList]

theorem Writes.recognise (h : g.Writes o written) :
    g.recognise written = .ok (.option written o none) := by
  obtain ⟨c, rest, hlong⟩ := h.long
  rcases h.meaning with hsome | ⟨hnone, name, hunique⟩
  · unfold Grammar.recognise
    simp only [hlong, hsome]
  · have hcandidates : g.candidates written.toList = [(name, o, none)] := by
      rw [candidates_of_long hlong, h.cutAtEquals_toList, String.ofList_toList, hunique]
      rfl
    rw [recognise_of_hyphen hlong hnone, h.cutAtEquals_toList, recogniseShortened, hcandidates]

theorem Writes.recognise_attached (hplain : g.Plain) (h : g.Writes o written) (text : String) :
    g.recognise (written ++ "=" ++ text) =
      .ok (.option (written ++ "=" ++ text) o (some text)) := by
  obtain ⟨c, rest, hlong⟩ := h.long
  have hcut := h.cutAtEquals_attached text
  have hlist : (written ++ "=" ++ text).toList =
      '-' :: '-' :: c :: (rest ++ '=' :: text.toList) := by
    simp [hlong]
  have hfind : g.find? (written ++ "=" ++ text) = none :=
    find?_eq_none fun p hp hname => (hplain p hp).1 (by simp [hname])
  rw [recognise_of_hyphen hlist hfind, hcut, String.ofList_toList]
  rcases h.meaning with hsome | ⟨hnone, name, hunique⟩
  · rw [hsome]
  · have hcandidates : g.candidates (written ++ "=" ++ text).toList = [(name, o, some text)] := by
      rw [candidates_of_long hlist, hcut, String.ofList_toList, hunique]
      rfl
    rw [hnone, recogniseShortened, hcandidates]

/-- What writes an option of one grammar is recognised by another one that has no such option. -/
theorem Writes.exists_recognise {τ : Type} {g' : Grammar τ} (h : g.Writes o written)
    (hnone : g'.completions written = []) : ∃ t, g'.recognise written = .ok t := by
  obtain ⟨c, rest, hlong⟩ := h.long
  refine Grammar.exists_recognise ?_
  rw [candidates_of_long hlong, h.cutAtEquals_toList, String.ofList_toList, hnone]
  exact Nat.zero_le 1

theorem Writes.exists_recognise_attached {τ : Type} {g' : Grammar τ} (h : g.Writes o written)
    (hnone : g'.completions written = []) (text : String) :
    ∃ t, g'.recognise (written ++ "=" ++ text) = .ok t := by
  obtain ⟨c, rest, hlong⟩ := h.long
  have hlist : (written ++ "=" ++ text).toList =
      '-' :: '-' :: c :: (rest ++ '=' :: text.toList) := by
    simp [hlong]
  refine Grammar.exists_recognise ?_
  rw [candidates_of_long hlist, h.cutAtEquals_attached, String.ofList_toList, hnone]
  exact Nat.zero_le 1

/-! ## Words before others -/

/-- Each word is recognised by itself. -/
def Recognises (g : Grammar σ) (words : List String) (tokens : List (Token σ)) : Prop :=
  List.Forall₂ (fun word t => word ≠ "--" ∧ g.recognise word = .ok t) words tokens

theorem classify_append {ts us : List (Token σ)} (hws : g.Recognises ws ts)
    (hvs : g.classify vs = .ok us) : g.classify (ws ++ vs) = .ok (ts ++ us) := by
  induction hws with
  | nil => exact hvs
  | cons hword _ ih =>
    rw [List.cons_append, classify, if_neg hword.1, hword.2, ih]
    rfl

theorem exists_classify_append (hws : ∀ word ∈ ws, word ≠ "--" ∧ ∃ t, g.recognise word = .ok t)
    (hvs : ∃ us, g.classify vs = .ok us) : ∃ us, g.classify (ws ++ vs) = .ok us := by
  induction ws with
  | nil => exact hvs
  | cons word rest ih =>
    obtain ⟨⟨hne, t, ht⟩, hrest⟩ := List.forall_mem_cons.1 hws
    obtain ⟨us, hus⟩ := ih hrest
    refine ⟨t :: us, ?_⟩
    rw [List.cons_append, classify, if_neg hne, ht, hus]
    rfl

theorem classify_argument {us : List (Token σ)} (hplain : g.Plain) (hword : IsArgument word)
    (hvs : g.classify vs = .ok us) : g.classify (word :: vs) = .ok (.argument word :: us) := by
  rw [classify, if_neg hword.ne_separator, recognise_of_isArgument hplain hword, hvs]
  rfl

theorem text_of_classify {ts : List (Token σ)} (h : g.classify ws = .ok ts) :
    ts.map Token.text = ws := by
  induction ws generalizing ts with
  | nil =>
    cases h
    rfl
  | cons word rest ih =>
    rw [classify] at h
    split at h
    · rename_i hword
      cases h
      rw [List.map_cons, List.map_map, hword]
      exact congrArg _ (List.map_id rest)
    · cases ht : g.recognise word with
      | error e => simp [ht, bind, Except.bind] at h
      | ok t =>
        cases hts : g.classify rest with
        | error e => simp [ht, hts, bind, Except.bind] at h
        | ok us =>
          simp only [ht, hts, bind, Except.bind, Except.ok.injEq] at h
          rw [← h, List.map_cons, text_of_recognise ht, ih hts]

/-! ## Taking words -/

/-- Tokens lead from one state to another in some steps, whatever comes after them. -/
def Takes (g : Grammar σ) (tokens : List (Token σ)) (s s' : Scan σ) : Prop :=
  ∃ n ≤ tokens.length, ∀ fuel rest, g.scan (fuel + n) (tokens ++ rest) s = g.scan fuel rest s'

theorem Takes.append {ts us : List (Token σ)} (hts : g.Takes ts s s') (hus : g.Takes us s' s'') :
    g.Takes (ts ++ us) s s'' := by
  obtain ⟨n, hn, hts⟩ := hts
  obtain ⟨k, hk, hus⟩ := hus
  refine ⟨k + n, by rw [List.length_append]; omega, fun fuel rest => ?_⟩
  rw [List.append_assoc, ← Nat.add_assoc, hts, hus]

@[simp] theorem scan_nil (fuel : Nat) (s : Scan σ) : g.scan fuel [] s = .ok s := by
  cases fuel <;> rfl

/-- Words change the state, whatever words come before them or after them. -/
def Changes (g : Grammar σ) (words : List String) (change : σ → σ) : Prop :=
  ∃ tokens, g.Recognises words tokens ∧
    ∀ s : Scan σ, g.Takes tokens s { s with state := change s.state }

theorem Changes.nil : g.Changes [] id :=
  ⟨[], .nil, fun _ => ⟨0, Nat.le_refl 0, fun _ _ => rfl⟩⟩

theorem Changes.append (hws : g.Changes ws change) (hvs : g.Changes vs change') :
    g.Changes (ws ++ vs) (change' ∘ change) := by
  obtain ⟨ts, hts, htakes⟩ := hws
  obtain ⟨us, hus, htakes'⟩ := hvs
  exact ⟨ts ++ us, List.rel_append hts hus, fun s => (htakes s).append (htakes' _)⟩

/-- An option without a value. -/
theorem Changes.flag (h : g.Writes o written) (heffect : o.effect = .flag change) :
    g.Changes [written] change := by
  refine ⟨[.option written o none], .cons ⟨h.ne_separator, h.recognise⟩ .nil,
    fun s => ⟨1, by simp, ?_⟩⟩
  intro fuel rest
  simp [scan, heffect]

section Values

variable {kind : String} {set : Option String → Option (σ → σ)}

/-- An option with its value in the next word. -/
theorem Changes.apart (hplain : g.Plain) (h : g.Writes o written)
    (heffect : o.effect = .value kind set) (htext : IsArgument text)
    (hset : set (some text) = some change) : g.Changes [written, text] change := by
  have hword := recognise_of_isArgument hplain htext
  refine ⟨[.option written o none, .argument text],
    .cons ⟨h.ne_separator, h.recognise⟩ (.cons ⟨htext.ne_separator, hword⟩ .nil),
    fun s => ⟨1, by simp, ?_⟩⟩
  intro fuel rest
  simp [scan, heffect, takeValue, htext.ne_separator, hset, bind, Except.bind]

/-- An option with its value attached. -/
theorem Changes.attached (hplain : g.Plain) (h : g.Writes o written)
    (heffect : o.effect = .value kind set) (htext : text ≠ "--")
    (hset : set (some text) = some change) : g.Changes [written ++ "=" ++ text] change := by
  have hword := h.recognise_attached hplain text
  refine ⟨[.option _ o (some text)], .cons ⟨h.attached_ne_separator text, hword⟩ .nil,
    fun s => ⟨1, by simp, ?_⟩⟩
  intro fuel rest
  simp [scan, heffect, takeAttached, takeValue, htext, hset, bind, Except.bind]

end Values

/-! ## Whole command lines -/

theorem recognise_ne_separator : g.recognise word ≠ .ok .separator := by
  unfold recognise recogniseShortened
  intro h
  repeat' split at h
  all_goals cases h

theorem scan_argument {label : String} {set : String → σ → σ}
    (hpositional : g.positional = .value label set) {us : List (Token σ)}
    (hus : g.Recognises vs us) (hfilled : s.filled = false) (fuel : Nat) :
    g.scan (fuel + 1) (.argument word :: us) s =
      g.scan fuel us { s with state := set word s.state, filled := true } := by
  have htake : g.takeArgument word us s =
      .ok (us, { s with state := set word s.state, filled := true }) := by
    unfold takeArgument
    simp only [hpositional]
    cases hus with
    | nil => rfl
    | @cons _ t _ _ hword _ =>
      cases t with
      | separator => exact absurd hword.2 recognise_ne_separator
      | _ => rfl
  rw [scan, hfilled, htake]
  rfl

/-- After the first words, the others are taken with as much fuel as there are of them. -/
theorem Changes.exists_scan (hws : g.Changes ws change) {u : Token σ} {us : List (Token σ)}
    (hvs : g.classify vs = .ok (u :: us)) (state : σ) :
    ∃ fuel, us.length ≤ fuel ∧ ∀ {s : Scan σ},
      g.scan (fuel + 1) (u :: us) { state := change state } = .ok s → s.filled = true →
        g.parse (ws ++ vs) state = .ok (s.state, s.extras) := by
  obtain ⟨ts, hts, htakes⟩ := hws
  obtain ⟨n, hn, htakes⟩ := htakes { state }
  refine ⟨ts.length - n + us.length, by omega, fun {s} hscan hfilled => ?_⟩
  have hfuel : (ts ++ u :: us).length = ts.length - n + us.length + 1 + n := by
    rw [List.length_append, List.length_cons]
    omega
  have hall : g.scan (ts ++ u :: us).length (ts ++ u :: us) { state } = .ok s := by
    rw [hfuel, htakes, hscan]
  rw [parse, classify_append hts hvs]
  simp only [bind, Except.bind, hall, hfilled, if_true]

/-- Options, a value, and options. -/
theorem parse_value {label : String} {set : String → σ → σ} (hplain : g.Plain)
    (hpositional : g.positional = .value label set) (hws : g.Changes ws change)
    (hword : IsArgument word) (hvs : g.Changes vs change') (state : σ) :
    g.parse (ws ++ word :: vs) state = .ok (change' (set word (change state)), []) := by
  obtain ⟨us, hus, htakes⟩ := hvs
  have hvs : g.classify (vs ++ []) = .ok (us ++ []) := classify_append hus rfl
  rw [List.append_nil, List.append_nil] at hvs
  obtain ⟨fuel, hfuel, hparse⟩ := hws.exists_scan (classify_argument hplain hword hvs) state
  obtain ⟨n, hn, htakes⟩ := htakes { state := set word (change state), filled := true }
  refine hparse (s := { state := change' (set word (change state)), filled := true }) ?_ rfl
  rw [scan_argument hpositional hus rfl, ← Nat.sub_add_cancel (hn.trans hfuel),
    ← List.append_nil us, htakes, scan_nil]

/-- Options, and a value after a separator. -/
theorem parse_separated {label : String} {set : String → σ → σ}
    (hpositional : g.positional = .value label set) (hws : g.Changes ws change) (word : String)
    (state : σ) : g.parse (ws ++ ["--", word]) state = .ok (set word (change state), []) := by
  have hclassify : g.classify ["--", word] = .ok [.separator, .argument word] := rfl
  obtain ⟨fuel, -, hparse⟩ := hws.exists_scan hclassify state
  refine hparse (s := { state := set word (change state), filled := true }) ?_ rfl
  simp [scan, takeSeparated, takeArgument, hpositional, bind, Except.bind]

/-- Options, and a command with its words. -/
theorem parse_command {label : String}
    {choices : List (String × (List String → σ → Except Stop (σ × List String)))}
    {run : List String → σ → Except Stop (σ × List String)} {state state' : σ}
    {extras : List String} (hplain : g.Plain) (hpositional : g.positional = .command label choices)
    (hws : g.Changes ws change) (hword : IsArgument word)
    (hchoice : choices.find? (·.1 = word) = some (word, run))
    (hvs : ∃ us, g.classify vs = .ok us) (hrun : run vs (change state) = .ok (state', extras)) :
    g.parse (ws ++ word :: vs) state = .ok (state', extras) := by
  obtain ⟨us, hus⟩ := hvs
  obtain ⟨fuel, -, hparse⟩ := hws.exists_scan (classify_argument hplain hword hus) state
  have htake : g.takeArgument word us { state := change state } =
      .ok ([], { state := state', filled := true, extras }) := by
    unfold takeArgument
    simp only [hpositional, hchoice, text_of_classify hus, hrun, bind, Except.bind]
    rfl
  refine hparse (s := { state := state', filled := true, extras }) ?_ rfl
  simp [scan, htake, bind, Except.bind]

end Grammar

end Chip8.CommandLine
