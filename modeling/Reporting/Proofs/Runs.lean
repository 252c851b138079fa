import Mathlib.Data.List.DropRight

/-!
# Runs of characters

A text that is a run of characters and a rest that does not go on with the run is taken apart at
that place, from the left (`span_run`) and from the right (`rspan_run`).
-/

namespace Reporting.Text

variable {p : Char → Bool} {run rest : List Char}

theorem span_run (hrun : ∀ c ∈ run, p c) (hrest : ∀ c ∈ rest.head?, p c = false) :
    (run ++ rest).takeWhile p = run ∧ (run ++ rest).dropWhile p = rest := by
  rw [List.takeWhile_append_of_pos hrun, List.dropWhile_append_of_pos hrun]
  cases rest with
  | nil => simp
  | cons c cs => simp [hrest c rfl]

theorem dropWhile_append_eq_iff :
    (run ++ rest).dropWhile p = rest ↔ (∀ c ∈ run, p c) ∧ ∀ c ∈ rest.head?, p c = false := by
  constructor
  · intro h
    have hsplit := List.takeWhile_append_dropWhile (p := p) (l := run ++ rest)
    have hhead := List.head?_dropWhile_not p (run ++ rest)
    rw [h, List.append_cancel_right_eq] at hsplit
    rw [h] at hhead
    refine ⟨fun c hc => List.mem_takeWhile_imp (hsplit.symm ▸ hc), fun c hc => ?_⟩
    rwa [Option.mem_def.1 hc] at hhead
  · rintro ⟨hrun, hrest⟩
    exact (span_run hrun hrest).2

theorem rspan_run (hrun : ∀ c ∈ run, p c) (hrest : ∀ c ∈ rest.getLast?, p c = false) :
    (rest ++ run).rtakeWhile p = run ∧ (rest ++ run).rdropWhile p = rest := by
  have hspan : (run.reverse ++ rest.reverse).takeWhile p = run.reverse
      ∧ (run.reverse ++ rest.reverse).dropWhile p = rest.reverse :=
    span_run (by simpa using hrun) (by simpa [List.head?_reverse] using hrest)
  rw [List.rtakeWhile, List.rdropWhile, List.reverse_append, hspan.1, hspan.2]
  simp

/-- A text goes on behind the run of a character that it begins with. -/
theorem exists_run_append (c : Char) (cs : List Char) :
    ∃ n, cs = List.replicate n c ++ cs.dropWhile (· == c) := by
  have hrun : cs.takeWhile (· == c) = List.replicate (cs.takeWhile (· == c)).length c := by
    apply List.eq_replicate_of_mem
    intro d hd
    simpa using List.mem_takeWhile_imp hd
  refine ⟨(cs.takeWhile (· == c)).length, ?_⟩
  rw [← hrun, List.takeWhile_append_dropWhile]

theorem exists_append_run (c : Char) (cs : List Char) :
    ∃ n, cs = cs.rdropWhile (· == c) ++ List.replicate n c := by
  obtain ⟨n, hn⟩ := exists_run_append c cs.reverse
  refine ⟨n, ?_⟩
  have h := congrArg List.reverse hn
  rwa [List.reverse_reverse, List.reverse_append, List.reverse_replicate] at h

end Reporting.Text
