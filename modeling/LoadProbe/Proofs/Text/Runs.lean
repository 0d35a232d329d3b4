import Mathlib

/-!
# Runs of characters

A text starts with a run of characters of one kind, maybe an empty one, and what follows the run
does not go on with it.

* `Text.takeWhile_run` and `Text.dropWhile_run` take a run off and leave what follows, and
  `Text.exists_run` finds the run in any text.
* `Text.takeWhile_copies`, `Text.dropWhile_copies` and `Text.exists_copies` say the same of copies
  of one character.
-/

namespace LoadProbe.Text

variable {p : Char → Bool} {run rest : List Char} {mark : Char}

/-- A run of characters of one kind is taken as far as the kind goes. -/
theorem takeWhile_run (hrun : ∀ c ∈ run, p c = true) (hrest : ∀ c ∈ rest.head?, p c = false) :
    (run ++ rest).takeWhile p = run := by
  have hstop : rest.takeWhile p = [] := by
    cases rest with
    | nil => rfl
    | cons c rest => exact List.takeWhile_cons_of_neg (by simp [hrest c rfl])
  rw [List.takeWhile_append_of_pos hrun, hstop, List.append_nil]

theorem dropWhile_run (hrun : ∀ c ∈ run, p c = true) (hrest : ∀ c ∈ rest.head?, p c = false) :
    (run ++ rest).dropWhile p = rest := by
  rw [List.dropWhile_append_of_pos hrun]
  cases rest with
  | nil => rfl
  | cons c rest => exact List.dropWhile_cons_of_neg (by simp [hrest c rfl])

/-- Every list starts with all of one kind up to something else. -/
theorem exists_run (p : Char → Bool) (cs : List Char) : ∃ run rest, cs = run ++ rest ∧
    (∀ c ∈ run, p c = true) ∧ ∀ c ∈ rest.head?, p c = false := by
  refine ⟨_, _, (List.takeWhile_append_dropWhile (p := p)).symm, fun c hc =>
    List.mem_takeWhile_imp hc, fun c hc => ?_⟩
  have hstop := List.head?_dropWhile_not p cs
  rw [hc] at hstop
  simpa using hstop

/-- What does not start with a mark does not go on with its copies. -/
theorem decide_head?_eq_false (h : rest.head? ≠ some mark) :
    ∀ c ∈ rest.head?, decide (c = mark) = false := by
  intro c hc
  refine decide_eq_false ?_
  rintro rfl
  exact h hc

theorem takeWhile_copies (h : rest.head? ≠ some mark) (n : Nat) :
    (List.replicate n mark ++ rest).takeWhile (· = mark) = List.replicate n mark :=
  takeWhile_run (by simp) (decide_head?_eq_false h)

theorem dropWhile_copies (h : rest.head? ≠ some mark) (n : Nat) :
    (List.replicate n mark ++ rest).dropWhile (· = mark) = rest :=
  dropWhile_run (by simp) (decide_head?_eq_false h)

/-- What is dropped in front of a list are copies of the mark, and all of them. -/
theorem exists_copies (mark : Char) (cs : List Char) :
    ∃ n, cs = List.replicate n mark ++ cs.dropWhile (· = mark) ∧
      (cs.dropWhile (· = mark)).head? ≠ some mark := by
  obtain ⟨run, rest, rfl, hrun, hrest⟩ := exists_run (· = mark) cs
  have hcopies : run = List.replicate run.length mark :=
    List.eq_replicate_of_mem fun c hc => of_decide_eq_true (hrun c hc)
  rw [dropWhile_run hrun hrest]
  refine ⟨run.length, by rw [← hcopies], fun hmark => ?_⟩
  exact absurd rfl (of_decide_eq_false (hrest mark hmark))

end LoadProbe.Text
