import Chip8.Settings
import Mathlib.Data.List.Sort
import Mathlib.Data.String.Basic

/-!
# Settings overridden

Settings are changed by options, and the settings that come out can be changed again. An option
without a value changes nothing, but its name counts. It follows that two changes are one, that of
the options joined, where the later value of an option counts unless it is unset.

* `Options`, `Options.given?` — values by name, and those that are not unset
* `Options.Joins`, `Options.join` — two maps of options as one
* `Draft.get?`, `Draft.changed` — the options of a draft by name, and the draft with some changed
* `Draft.Valid`, `Draft.exists_check_iff` — the drafts that make settings
* `Draft.check_eq_ok_iff` — settings say the same as the draft that they are made from
* `Settings.override_eq_ok_iff`, `Settings.override_override` — one change, and two
* `Settings.overrideAll`, `Options.lastGiven?` — any number of changes, and the last values given
* `Settings.overrides_compose` — all of this together
-/

namespace Chip8

/-! ## Options by name -/

namespace OptionValue

/-- The value, unless it is unset. -/
def given? : OptionValue → Option OptionValue
  | unset => none
  | value => some value

/-- The later of two values of an option, where either can be missing. One that is unset does not
count against an earlier one. -/
def later : Option OptionValue → Option OptionValue → Option OptionValue
  | earlier, none => earlier
  | some earlier, some unset => some earlier
  | _, some value => some value

theorem later_eq_none_iff {v w : Option OptionValue} : later v w = none ↔ v = none ∧ w = none := by
  rcases w with _ | w
  · simp [later]
  · rcases v with _ | v <;> cases w <;> simp [later]

theorem bind_later {v w : Option OptionValue} :
    (later v w).bind given? = (w.bind given?).or (v.bind given?) := by
  rcases w with _ | w
  · simp [later]
  · rcases v with _ | v <;> cases w <;> simp [later, given?]

end OptionValue

/-- Values of options by name, each name at most once. -/
structure Options where
  /-- The names with their values. -/
  entries : List (String × OptionValue)
  /-- No name stands there twice. -/
  nodup : (entries.map Prod.fst).Nodup
deriving DecidableEq, Repr

namespace Options

/-- The names that stand there. -/
def names (o : Options) : List String := o.entries.map Prod.fst

/-- The value under a name, if the name is there. -/
def get? (o : Options) (name : String) : Option OptionValue := o.entries.lookup name

/-- The value that is given under a name, if there is one that is not unset. -/
def given? (o : Options) (name : String) : Option OptionValue :=
  (o.get? name).bind OptionValue.given?

/-- `m` has the names of both `a` and `b`, each with the value of `b` if that is set, and else with
the value of `a`. -/
def Joins (m a b : Options) : Prop :=
  ∀ name, m.get? name = OptionValue.later (a.get? name) (b.get? name)

/-- The options of both `a` and `b`. -/
def join (a b : Options) : Options where
  entries := (a.names ∪ b.names).map fun name =>
    (name, (OptionValue.later (a.get? name) (b.get? name)).getD .unset)
  nodup := by
    rw [List.map_map, show Prod.fst ∘ _ = id from rfl, List.map_id]
    exact b.nodup.union _

variable {m a b o : Options} {name : String}

theorem lookup_eq_none_iff {entries : List (String × OptionValue)} :
    entries.lookup name = none ↔ name ∉ entries.map Prod.fst := by
  rw [List.lookup_eq_none_iff]
  constructor
  · intro h hmem
    obtain ⟨entry, hentry, rfl⟩ := List.mem_map.1 hmem
    simpa using h entry hentry
  · intro h entry hentry
    rw [bne_iff_ne]
    rintro rfl
    exact h (List.mem_map_of_mem hentry)

theorem get?_eq_none_iff : o.get? name = none ↔ name ∉ o.names := lookup_eq_none_iff

theorem joins_iff : m.Joins a b ↔ ∀ name ∈ m.names ++ a.names ++ b.names,
    m.get? name = OptionValue.later (a.get? name) (b.get? name) := by
  refine ⟨fun h name _ => h name, fun h name => ?_⟩
  by_cases hmem : name ∈ m.names ++ a.names ++ b.names
  · exact h name hmem
  · simp only [List.mem_append, not_or] at hmem
    obtain ⟨⟨hm, ha⟩, hb⟩ := hmem
    rw [get?_eq_none_iff.2 hm, get?_eq_none_iff.2 ha, get?_eq_none_iff.2 hb]
    rfl

instance (m a b : Options) : Decidable (m.Joins a b) := decidable_of_iff _ joins_iff.symm

theorem Joins.mem_names_iff (hm : m.Joins a b) :
    name ∈ m.names ↔ name ∈ a.names ∨ name ∈ b.names := by
  rw [← not_iff_not, not_or, ← get?_eq_none_iff, ← get?_eq_none_iff, ← get?_eq_none_iff, hm name,
    OptionValue.later_eq_none_iff]

theorem Joins.given?_eq (hm : m.Joins a b) :
    m.given? name = (b.given? name).or (a.given? name) := by
  rw [given?, hm name, OptionValue.bind_later]
  rfl

theorem joins_join (a b : Options) : (a.join b).Joins a b := by
  intro name
  by_cases hmem : name ∈ a.names ∪ b.names
  · have hsome : OptionValue.later (a.get? name) (b.get? name) ≠ none := by
      rw [Ne, OptionValue.later_eq_none_iff, get?_eq_none_iff, get?_eq_none_iff, ← not_or, not_not]
      exact List.mem_union_iff.1 hmem
    obtain ⟨v, hv⟩ := Option.ne_none_iff_exists'.1 hsome
    rw [get?, join, List.lookup_graph _ hmem, hv, Option.getD_some]
  · have hnone := mt List.mem_union_iff.2 hmem
    rw [not_or, ← get?_eq_none_iff, ← get?_eq_none_iff] at hnone
    rw [OptionValue.later_eq_none_iff.2 hnone, get?_eq_none_iff]
    simpa [names, join] using hmem

/-- The last value that is given under a name, if there is one. -/
def lastGiven? (chain : List Options) (name : String) : Option OptionValue :=
  (chain.filterMap (·.given? name)).getLast?

@[simp] theorem lastGiven?_nil (name : String) : lastGiven? [] name = none := rfl

theorem lastGiven?_cons (o : Options) (rest : List Options) (name : String) :
    lastGiven? (o :: rest) name = (lastGiven? rest name).or (o.given? name) := by
  rw [lastGiven?, lastGiven?, List.filterMap_cons]
  cases o.given? name with
  | none => rw [Option.or_none]
  | some v =>
    rw [List.getLast?_cons]
    cases (rest.filterMap (·.given? name)).getLast? <;> rfl

end Options

/-! ## Drafts -/

namespace Draft

variable {d d' : Draft} {name : String}

/-- The value of the option of a name, if there is one of that name. -/
def get? (d : Draft) : String → Option OptionValue
  | "cycles_per_frame" => some d.cyclesPerFrame
  | "timer_hz" => some d.timerHz
  | "scale" => some d.scale
  | "foreground" => some d.foreground
  | "background" => some d.background
  | "seed" => some d.seed
  | _ => none

theorem ext_get? (h : ∀ name, d.get? name = d'.get? name) : d = d' := by
  obtain ⟨cycles, hz, scale, foreground, background, seed⟩ := d
  obtain ⟨cycles', hz', scale', foreground', background', seed'⟩ := d'
  have hcycles := h "cycles_per_frame"
  have hhz := h "timer_hz"
  have hscale := h "scale"
  have hforeground := h "foreground"
  have hbackground := h "background"
  have hseed := h "seed"
  simp only [get?, Option.some.injEq] at hcycles hhz hscale hforeground hbackground hseed
  rw [hcycles, hhz, hscale, hforeground, hbackground, hseed]

/-- Setting an option changes this option, if there is one of that name, and no other. -/
theorem get?_set (d : Draft) (name : String) (value : OptionValue) (other : String) :
    ((d.set? name value).getD d).get? other =
      if other = name then (d.get? other).map fun _ => value else d.get? other := by
  by_cases hother : other = name
  · subst hother
    rw [if_pos rfl]
    unfold set?
    split
    case h_7 => simp [get?]
    all_goals rfl
  · rw [if_neg hother]
    unfold set?
    -- the option that is set, if any, has another name
    split
    all_goals unfold get?; split <;> first | rfl | contradiction

/-- Each option that is set has the value set, and the others keep theirs. -/
theorem get?_setAll {options : List (String × OptionValue)}
    (hnodup : (options.map Prod.fst).Nodup) (name : String) :
    (d.setAll options).get? name = (d.get? name).map fun v => (options.lookup name).getD v := by
  induction options generalizing d with
  | nil => simp [setAll]
  | cons entry rest ih =>
    obtain ⟨n, value⟩ := entry
    rw [List.map_cons, List.nodup_cons] at hnodup
    obtain ⟨hn, hrest⟩ := hnodup
    rw [show d.setAll ((n, value) :: rest) = ((d.set? n value).getD d).setAll rest from rfl,
      ih hrest, get?_set, List.lookup_cons]
    by_cases hname : name = n
    · subst hname
      rw [if_pos rfl, Options.lookup_eq_none_iff.2 hn, beq_self_eq_true, Option.map_map]
      rfl
    · rw [if_neg hname, beq_false_of_ne hname]

/-- A draft with the options changed that are given a value. -/
def changed (d : Draft) (o : Options) : Draft := d.setAll (o.entries.filter (·.2 ≠ .unset))

theorem lookup_filter {entries : List (String × OptionValue)}
    (hnodup : (entries.map Prod.fst).Nodup) (name : String) :
    (entries.filter (·.2 ≠ .unset)).lookup name =
      (entries.lookup name).bind OptionValue.given? := by
  induction entries with
  | nil => rfl
  | cons entry rest ih =>
    obtain ⟨n, v⟩ := entry
    rw [List.map_cons, List.nodup_cons] at hnodup
    obtain ⟨hn, hrest⟩ := hnodup
    rw [List.lookup_cons, List.filter_cons]
    by_cases hname : name = n
    · subst hname
      have hlookup := ih hrest
      rw [Options.lookup_eq_none_iff.2 hn] at hlookup
      cases v <;> simp [OptionValue.given?] at hlookup ⊢
      exact hlookup
    · rw [beq_false_of_ne hname, ← ih hrest]
      split
      · rw [List.lookup_cons, beq_false_of_ne hname]
      · rfl

theorem get?_changed (o : Options) (name : String) :
    (d.changed o).get? name = (d.get? name).map fun v => (o.given? name).getD v := by
  have hnodup : ((o.entries.filter (·.2 ≠ .unset)).map Prod.fst).Nodup :=
    o.nodup.sublist (List.filter_sublist.map _)
  rw [changed, get?_setAll hnodup, lookup_filter o.nodup]
  rfl

end Draft

/-! ## Checks -/

theorem bind_eq_ok_iff {ε α β : Type} {x : Except ε α} {f : α → Except ε β} {b : β} :
    (x >>= f) = .ok b ↔ ∃ a, x = .ok a ∧ f a = .ok b := by
  cases x <;> simp [bind, Except.bind]

theorem Colour.ofComponents?_eq_some_iff {ns : List Int} {c : Colour} :
    ofComponents? ns = some c ↔ c.components = ns := by
  constructor
  · intro h
    unfold ofComponents? at h
    split at h
    · split at h
      · rename_i hall
        cases h
        simp [isComponent] at hall
        simp [components]
        omega
      · cases h
    · cases h
  · rintro rfl
    exact ofComponents?_components c

namespace OptionValue

/-- A positive integer. -/
def IsPositive (v : OptionValue) : Prop := ∃ n : Int, 0 < n ∧ v = number n

/-- Three integers from 0 to 255. -/
def IsColour (v : OptionValue) : Prop :=
  ∃ red green blue : Int, v = numbers [red, green, blue] ∧
    ∀ c ∈ [red, green, blue], 0 ≤ c ∧ c ≤ 255

variable {v : OptionValue}

theorem IsPositive.ne_unset (h : v.IsPositive) : v ≠ unset := by
  obtain ⟨n, -, rfl⟩ := h
  simp

theorem IsColour.ne_unset (h : v.IsColour) : v ≠ unset := by
  obtain ⟨red, green, blue, rfl, -⟩ := h
  simp

theorem isPositive_iff : v.IsPositive ↔ ∃ n : { n : Nat // 0 < n }, v = number n := by
  constructor
  · rintro ⟨n, hpos, rfl⟩
    exact ⟨⟨n.toNat, by omega⟩, by rw [Int.toNat_of_nonneg hpos.le]⟩
  · rintro ⟨n, rfl⟩
    exact ⟨n, Int.natCast_pos.2 n.2, rfl⟩

theorem isColour_iff : v.IsColour ↔ ∃ c : Colour, v = numbers c.components := by
  constructor
  · rintro ⟨red, green, blue, rfl, hbytes⟩
    have hall : [red, green, blue].all Colour.isComponent = true := by
      simpa [Colour.isComponent] using hbytes
    refine ⟨⟨UInt8.ofNat red.toNat, UInt8.ofNat green.toNat, UInt8.ofNat blue.toNat⟩, ?_⟩
    rw [Colour.ofComponents?_eq_some_iff.1 (by rw [Colour.ofComponents?, if_pos hall])]
  · rintro ⟨c, rfl⟩
    refine ⟨_, _, _, rfl, ?_⟩
    have hred := c.red.toNat_lt
    have hgreen := c.green.toNat_lt
    have hblue := c.blue.toNat_lt
    simp
    omega

end OptionValue

namespace Draft

variable {d : Draft} {s : Settings} {name : String} {v : OptionValue}

/-- The options of a draft have values that settings can have. -/
structure Valid (d : Draft) : Prop where
  /-- A frame has a positive number of cycles. -/
  cyclesPerFrame : d.cyclesPerFrame.IsPositive
  /-- A second has a positive number of frames. -/
  timerHz : d.timerHz.IsPositive
  /-- The scale is positive. -/
  scale : d.scale.IsPositive
  /-- Lit pixels have a colour. -/
  foreground : d.foreground.IsColour
  /-- Unlit pixels have a colour. -/
  background : d.background.IsColour
  /-- The seed is unset or made of integers. -/
  seed : d.seed ≠ .other

theorem positive_eq_ok_iff {n : { n : Nat // 0 < n }} :
    positive name v = .ok n ↔ v = .number n := by
  cases v with
  | number k =>
    rw [positive]
    split
    · simp only [Except.ok.injEq, OptionValue.number.injEq, Subtype.ext_iff]
      omega
    · have hpos := n.2
      simp
      omega
  | _ => simp [positive]

theorem colour_eq_ok_iff {c : Colour} : colour name v = .ok c ↔ v = .numbers c.components := by
  cases v with
  | numbers ns =>
    rw [colour, OptionValue.numbers.injEq, eq_comm (a := ns), ← Colour.ofComponents?_eq_some_iff]
    cases Colour.ofComponents? ns <;> simp
  | _ => simp [colour]

theorem optional_eq_ok_iff {seed : Option Seed} :
    optional name v = .ok seed ↔ v = match seed with
      | some (.number n) => .number n
      | some (.numbers ns) => .numbers ns
      | none => .unset := by
  rcases seed with _ | _ | _ <;> cases v <;> simp [optional, eq_comm]

/-- **The settings of a draft**, if there are any, say the same as the draft. -/
theorem check_eq_ok_iff : d.check = .ok s ↔ s.draft = d := by
  constructor
  · intro h
    obtain ⟨cycles, hcycles, h⟩ := bind_eq_ok_iff.1 h
    obtain ⟨hz, hhz, h⟩ := bind_eq_ok_iff.1 h
    obtain ⟨scale, hscale, h⟩ := bind_eq_ok_iff.1 h
    obtain ⟨foreground, hforeground, h⟩ := bind_eq_ok_iff.1 h
    obtain ⟨background, hbackground, h⟩ := bind_eq_ok_iff.1 h
    obtain ⟨seed, hseed, h⟩ := bind_eq_ok_iff.1 h
    cases h
    rw [positive_eq_ok_iff] at hcycles hhz hscale
    rw [colour_eq_ok_iff] at hforeground hbackground
    rw [optional_eq_ok_iff] at hseed
    obtain ⟨_, _, _, _, _, _⟩ := d
    simp only at hcycles hhz hscale hforeground hbackground hseed
    rw [hcycles, hhz, hscale, hforeground, hbackground, hseed]
    rfl
  · rintro rfl
    exact s.check_draft

theorem valid_draft (s : Settings) : s.draft.Valid where
  cyclesPerFrame := OptionValue.isPositive_iff.2 ⟨⟨_, s.cyclesPerFrame_pos⟩, rfl⟩
  timerHz := OptionValue.isPositive_iff.2 ⟨⟨_, s.timerHz_pos⟩, rfl⟩
  scale := OptionValue.isPositive_iff.2 ⟨⟨_, s.scale_pos⟩, rfl⟩
  foreground := OptionValue.isColour_iff.2 ⟨_, rfl⟩
  background := OptionValue.isColour_iff.2 ⟨_, rfl⟩
  seed := by rcases h : s.seed with _ | _ | _ <;> simp [Settings.draft, h]

/-- A draft makes settings exactly if its values are valid. -/
theorem exists_check_iff : (∃ s, d.check = .ok s) ↔ d.Valid := by
  constructor
  · rintro ⟨s, h⟩
    rw [← check_eq_ok_iff.1 h]
    exact valid_draft s
  · intro h
    obtain ⟨cycles, hcycles⟩ := OptionValue.isPositive_iff.1 h.cyclesPerFrame
    obtain ⟨hz, hhz⟩ := OptionValue.isPositive_iff.1 h.timerHz
    obtain ⟨scale, hscale⟩ := OptionValue.isPositive_iff.1 h.scale
    obtain ⟨foreground, hforeground⟩ := OptionValue.isColour_iff.1 h.foreground
    obtain ⟨background, hbackground⟩ := OptionValue.isColour_iff.1 h.background
    obtain ⟨seed, hseed⟩ : ∃ seed, optional "seed" d.seed = .ok seed := by
      have hother := h.seed
      cases hseed : d.seed with
      | other => exact absurd hseed hother
      | _ => exact ⟨_, rfl⟩
    refine ⟨⟨cycles, hz, scale, foreground, background, seed, cycles.2, hz.2, scale.2⟩, ?_⟩
    unfold check
    rw [positive_eq_ok_iff.2 hcycles, positive_eq_ok_iff.2 hhz, positive_eq_ok_iff.2 hscale,
      colour_eq_ok_iff.2 hforeground, colour_eq_ok_iff.2 hbackground, hseed]
    rfl

end Draft

namespace Settings

theorem mem_unknownNames {options : List (String × OptionValue)} {name : String} :
    name ∈ unknownNames options ↔
      name ∈ options.map Prod.fst ∧ Draft.hasOption name = false := by
  simp [unknownNames]

theorem unknownNames_eq_nil_iff {options : List (String × OptionValue)} :
    unknownNames options = [] ↔
      ∀ name ∈ options.map Prod.fst, Draft.hasOption name = true := by
  simp only [List.eq_nil_iff_forall_not_mem, mem_unknownNames, not_and, Bool.not_eq_false]

/-- Names that no option has are told in the same order, whatever the order of the options. -/
theorem unknownNames_congr {o o' : Options}
    (h : ∀ name, Draft.hasOption name = false → (name ∈ o.names ↔ name ∈ o'.names)) :
    unknownNames o.entries = unknownNames o'.entries := by
  have hnodup (o : Options) : (unknownNames o.entries).Nodup :=
    (List.mergeSort_perm _ _).nodup_iff.2 (o.nodup.filter _)
  have hsorted (o : Options) : (unknownNames o.entries).Pairwise (· ≤ ·) :=
    List.pairwise_mergeSort' _ _
  refine List.Perm.eq_of_pairwise' (hsorted o) (hsorted o')
    ((List.perm_ext_iff_of_nodup (hnodup o) (hnodup o')).2 fun name => ?_)
  rw [mem_unknownNames, mem_unknownNames, and_congr_left_iff]
  exact h name

/-- Settings are changed if all names are known, by checking the draft with the options changed. -/
theorem override_eq (s : Settings) (o : Options) :
    s.override o.entries = match unknownNames o.entries with
      | [] => (s.draft.changed o).check
      | names => .error (.unknown names) := rfl

/-- **Settings that are changed** are those that say the same as the draft with the options
changed. -/
theorem override_eq_ok_iff {s s' : Settings} {o : Options} :
    s.override o.entries = .ok s' ↔
      (∀ name ∈ o.names, Draft.hasOption name = true) ∧ s'.draft = s.draft.changed o := by
  rw [Options.names, ← unknownNames_eq_nil_iff, override_eq]
  split
  · rename_i hnames
    simp [hnames, Draft.check_eq_ok_iff]
  · rename_i hnames
    simp only [reduceCtorEq, false_iff, not_and]
    intro h
    exact absurd h hnames

/-- **Two changes are one**, that of the joined options, with the same settings or error. -/
theorem override_override {s s' : Settings} {a b m : Options} (hm : m.Joins a b)
    (h : s.override a.entries = .ok s') : s'.override b.entries = s.override m.entries := by
  obtain ⟨hknown, hdraft⟩ := override_eq_ok_iff.1 h
  -- the names of `a` are known, so that those of `b` and of `m` are unknown together
  have hnames : unknownNames b.entries = unknownNames m.entries := by
    refine unknownNames_congr fun name hunknown => ?_
    rw [hm.mem_names_iff]
    refine ⟨.inr, fun hmem => hmem.resolve_left fun ha => ?_⟩
    rw [hknown name ha] at hunknown
    cases hunknown
  have hchanged : s'.draft.changed b = s.draft.changed m := by
    refine Draft.ext_get? fun name => ?_
    rw [hdraft, Draft.get?_changed, Draft.get?_changed, Draft.get?_changed, hm.given?_eq,
      Option.map_map]
    cases b.given? name <;> rfl
  rw [override_eq, override_eq, hnames, hchanged]

/-! ## Any number of changes -/

/-- Settings changed by one map of options after another. -/
def overrideAll (s : Settings) (chain : List Options) : Except SettingsError Settings :=
  chain.foldlM (fun s o => s.override o.entries) s

/-- Each option has the value that was given to it last. -/
theorem get?_overrideAll {s s' : Settings} {chain : List Options}
    (h : s.overrideAll chain = .ok s') (name : String) :
    s'.draft.get? name =
      (s.draft.get? name).map fun v => (Options.lastGiven? chain name).getD v := by
  induction chain generalizing s with
  | nil =>
    cases h
    simp
  | cons o rest ih =>
    obtain ⟨next, hnext, hrest⟩ := bind_eq_ok_iff.1 h
    rw [ih hrest, (override_eq_ok_iff.1 hnext).2, Draft.get?_changed, Option.map_map,
      Options.lastGiven?_cons]
    cases Options.lastGiven? rest name <;> rfl

/-- **Changes of settings compose.** If options `a` change settings, then options `b` make of these
what the options of both make of the first settings, the same settings or the same error. And
settings that come out of any number of changes are valid: every option has the value that was given
to it last, the numbers are positive, and the colours have three components from 0 to 255. -/
theorem overrides_compose (s : Settings) :
    (∀ (a b m : Options) (s' : Settings), m.Joins a b → s.override a.entries = .ok s' →
        s'.override b.entries = s.override m.entries) ∧
      (∀ a b : Options, (a.join b).Joins a b) ∧
      ∀ (chain : List Options) (s' : Settings), s.overrideAll chain = .ok s' →
        s'.draft.Valid ∧ ∀ name, s'.draft.get? name =
          (s.draft.get? name).map fun v => (Options.lastGiven? chain name).getD v :=
  ⟨fun _ _ _ _ hm h => override_override hm h, Options.joins_join,
    fun _ s' h => ⟨Draft.valid_draft s', get?_overrideAll h⟩⟩

/-- Two changes of the standard settings. The second one unsets a colour, which keeps it. -/
theorem overrides_compose_unset :
    let a : Options := ⟨[("scale", .number 4), ("foreground", .numbers [1, 2, 3])], by decide⟩
    let b : Options := ⟨[("foreground", .unset), ("scale", .number 5), ("seed", .unset)], by decide⟩
    let m : Options :=
      ⟨[("seed", .unset), ("scale", .number 5), ("foreground", .numbers [1, 2, 3])], by decide⟩
    ∃ s' s'', m.Joins a b ∧ standard.override a.entries = .ok s' ∧
      s'.override b.entries = standard.override m.entries ∧
      standard.overrideAll [a, b] = .ok s'' ∧ s''.draft.Valid ∧
      s''.draft.get? "scale" = some (.number 5) ∧
      s''.draft.get? "foreground" = some (.numbers [1, 2, 3]) := by
  intro a b m
  have hm : m.Joins a b := by decide
  let s' : Settings := { standard with
    scale := 4, foreground := ⟨1, 2, 3⟩, scale_pos := by decide }
  let s'' : Settings := { standard with
    scale := 5, foreground := ⟨1, 2, 3⟩, scale_pos := by decide }
  have hfirst : standard.override a.entries = .ok s' :=
    override_eq_ok_iff.2 ⟨by decide, rfl⟩
  have hsecond : s'.override b.entries = .ok s'' :=
    override_eq_ok_iff.2 ⟨by decide, rfl⟩
  have hboth : standard.overrideAll [a, b] = .ok s'' :=
    bind_eq_ok_iff.2 ⟨s', hfirst, bind_eq_ok_iff.2 ⟨s'', hsecond, rfl⟩⟩
  obtain ⟨hcompose, -, hchain⟩ := overrides_compose standard
  obtain ⟨hvalid, hvalue⟩ := hchain _ _ hboth
  exact ⟨s', s'', hm, hfirst, hcompose a b m s' hm hfirst, hboth, hvalid, hvalue _, hvalue _⟩

end Settings

end Chip8
