/-! Cutting a sequence at separators. `intercalate_split` says that nothing is lost,
`not_mem_of_mem_split` that no piece holds the separator, and `split_append` how the first piece is
found. -/
namespace Wayfinder.Text
variable {α : Type}

def consFirst (a : α) : List (List α) → List (List α)
  | [] => [[a]]
  | piece :: pieces => (a :: piece) :: pieces

theorem intercalate_consFirst (sep a : α) {pieces : List (List α)} (h : pieces ≠ []) :
    [sep].intercalate (consFirst a pieces) = a :: [sep].intercalate pieces := by
  match pieces with
  | [] => exact absurd rfl h
  | [_] => simp [consFirst, List.intercalate]
  | _ :: _ :: _ => simp [consFirst, List.intercalate]

variable [DecidableEq α]

/-- The pieces between separators, one more than there are separators. -/
def split (sep : α) : List α → List (List α)
  | [] => [[]]
  | a :: rest => if a = sep then [] :: split sep rest else consFirst a (split sep rest)

theorem split_ne_nil (sep : α) (s : List α) : split sep s ≠ [] := by
  cases s with
  | nil => simp [split]
  | cons a rest =>
    rw [split]
    split
    · simp
    · cases split sep rest <;> simp [consFirst]

theorem intercalate_split (sep : α) (s : List α) : [sep].intercalate (split sep s) = s := by
  induction s with
  | nil => simp [split, List.intercalate]
  | cons a rest ih =>
    rw [split]
    split
    · next h =>
      subst h
      have hne := split_ne_nil a rest
      revert ih hne
      cases split a rest with
      | nil => simp
      | cons p ps => intro ih _; rw [← ih]; simp [List.intercalate]
    · rw [intercalate_consFirst sep a (split_ne_nil sep rest), ih]

theorem not_mem_of_mem_split {sep : α} {s piece : List α} (h : piece ∈ split sep s) :
    sep ∉ piece := by
  induction s generalizing piece with
  | nil => simp [split] at h; simp [h]
  | cons a rest ih =>
    rw [split] at h
    split at h
    · rcases List.mem_cons.1 h with rfl | h
      · simp
      · exact ih h
    · next ha =>
      revert h ih
      cases split sep rest with
      | nil =>
        intro _ h
        simp only [consFirst, List.mem_singleton] at h
        subst h
        simpa using fun e => ha e.symm
      | cons p ps =>
        intro ih h
        rcases List.mem_cons.1 h with rfl | h
        · simpa using ⟨fun e => ha e.symm, ih (by simp)⟩
        · exact ih (by simp [h])

theorem split_append {sep : α} {s : List α} (h : sep ∉ s) (rest : List α) :
    split sep (s ++ sep :: rest) = s :: split sep rest := by
  induction s with
  | nil => simp [split]
  | cons a s ih =>
    obtain ⟨ha, hs⟩ := not_or.1 (mt List.mem_cons.2 h)
    rw [List.cons_append, split, if_neg (Ne.symm ha), ih hs, consFirst]

end Wayfinder.Text
