import Mathlib

/-!
# Occurrences in a growing stream

A pattern that does not occur in what has been printed occurs after more was printed only where
the new part completes it. What does not have the last symbol of the pattern completes nothing,
and a separator that the pattern does not have cuts the stream in two.
-/

namespace Machine

variable {α : Type}

/-- One more symbol completes the pattern at its end or nowhere. -/
theorem not_infix_concat {pattern printed : List α} {c : α} (absent : ¬ pattern <:+: printed)
    (incomplete : ¬ pattern <:+ printed ++ [c]) : ¬ pattern <:+: printed ++ [c] := by
  intro occurs
  rcases List.infix_concat_iff.mp occurs with last | earlier
  · exact incomplete last
  · exact absent earlier

/-- A pattern at the end of a stream ends like it. -/
theorem suffix_concat_concat {stem printed : List α} {c d : α}
    (ends : stem ++ [c] <:+ printed ++ [d]) : c = d ∧ stem <:+ printed := by
  obtain ⟨front, same⟩ := ends
  rw [← List.append_assoc] at same
  obtain ⟨rest, last⟩ := List.append_inj' same rfl
  exact ⟨List.singleton_inj.mp last, ⟨front, rest⟩⟩

/-- What does not have the last symbol of a pattern does not complete it. -/
theorem not_infix_append_of_not_mem {stem printed : List α} {last : α} {more : List α}
    (absent : ¬ stem ++ [last] <:+: printed) (free : last ∉ more) :
    ¬ stem ++ [last] <:+: printed ++ more := by
  induction more using List.reverseRecOn with
  | nil =>
    rw [List.append_nil]
    exact absent
  | append_singleton more c ih =>
    rw [← List.append_assoc]
    apply not_infix_concat
    · exact ih fun member => free (List.mem_append_left _ member)
    · intro ends
      have same := (suffix_concat_concat ends).1
      exact free (List.mem_append_right _ (List.mem_singleton.mpr same))

/-- A pattern without the separator begins before it or not at all. -/
theorem eq_nil_of_prefix_cons {pattern more : List α} {separator : α} (free : separator ∉ pattern)
    (starts : pattern <+: separator :: more) : pattern = [] := by
  cases pattern with
  | nil => rfl
  | cons c pattern =>
    obtain ⟨rfl, _⟩ := List.cons_prefix_cons.mp starts
    exact absurd List.mem_cons_self free

/-- A separator that the pattern does not have cuts its occurrences. -/
theorem infix_of_infix_append_cons {pattern printed more : List α} {separator : α}
    (free : separator ∉ pattern) (occurs : pattern <:+: printed ++ separator :: more) :
    pattern <:+: printed ∨ pattern <:+: more := by
  rcases List.infix_append_iff.mp occurs with before | behind | ⟨first, second, rfl, ends, starts⟩
  · exact .inl before
  · rcases List.infix_cons_iff.mp behind with starts | after
    · left
      rw [eq_nil_of_prefix_cons free starts]
      exact List.nil_infix
    · exact .inr after
  · left
    have empty := eq_nil_of_prefix_cons (fun member => free (List.mem_append_right _ member)) starts
    rw [empty, List.append_nil]
    exact ends.isInfix

end Machine
