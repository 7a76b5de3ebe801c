/-!
# Run lengths

A list in which equal elements stand next to each other is held as runs, each an
element with the number of times that it repeats.

* `Runs` — elements with their counts
* `Runs.expand` — the list that the runs stand for
* `Runs.merge` — the runs with equal neighbours joined
* `expand_merge` — joining does not change the list
-/

namespace Chip8

/-- Elements, each with the number of times that it repeats. -/
abbrev Runs (α : Type) := List (Nat × α)

namespace Runs

variable {α : Type}

/-- The list that the runs stand for. -/
def expand (runs : Runs α) : List α := runs.flatMap fun run => List.replicate run.1 run.2

/-- A run in front of others; if the first of those repeats the same element, the two
become one. -/
def push [DecidableEq α] (count : Nat) (a : α) : Runs α → Runs α
  | (n, b) :: rest => if a = b then (count + n, b) :: rest else (count, a) :: (n, b) :: rest
  | [] => [(count, a)]

/-- The runs with equal neighbours joined. -/
def merge [DecidableEq α] (runs : Runs α) : Runs α :=
  runs.foldr (fun run rest => push run.1 run.2 rest) []

theorem expand_push [DecidableEq α] (count : Nat) (a : α) (runs : Runs α) :
    expand (push count a runs) = List.replicate count a ++ expand runs := by
  cases runs with
  | nil => rfl
  | cons run rest =>
    obtain ⟨n, b⟩ := run
    by_cases h : a = b
    · subst h
      simp only [push, if_true, expand, List.flatMap_cons, ← List.append_assoc,
        List.replicate_append_replicate]
    · simp [push, h, expand]

/-- Joining neighbours does not change the list that the runs stand for. -/
theorem expand_merge [DecidableEq α] (runs : Runs α) : expand (merge runs) = expand runs := by
  induction runs with
  | nil => rfl
  | cons run rest ih =>
    change expand (push run.1 run.2 (merge rest)) = _
    rw [expand_push, ih]
    rfl

end Runs

end Chip8
