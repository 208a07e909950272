import Wayfinder.Text.Split

/-! The lines of a text, and what is written with a line break after each line: reading it line by
line gives back the lines, as long as none of them holds a line break itself. -/
namespace Wayfinder.Text

theorem split_terminated {α : Type} [DecidableEq α] {sep : α} {pieces : List (List α)}
    (h : ∀ piece ∈ pieces, sep ∉ piece) :
    split sep (pieces.flatMap (· ++ [sep])) = pieces ++ [[]] := by
  induction pieces with
  | nil => rfl
  | cons piece pieces ih =>
    obtain ⟨hpiece, hpieces⟩ := List.forall_mem_cons.1 h
    rw [List.flatMap_cons, List.append_assoc, List.singleton_append, split_append hpiece,
      ih hpieces, List.cons_append]

/-- What stands before the first separator, and what behind it, are known from the whole. -/
theorem append_cons_inj {α : Type} [DecidableEq α] {sep : α} {a a' rest rest' : List α}
    (ha : sep ∉ a) (ha' : sep ∉ a') :
    a ++ sep :: rest = a' ++ sep :: rest' ↔ a = a' ∧ rest = rest' := by
  constructor
  · intro h
    have hsplit := congrArg (split sep) h
    rw [split_append ha, split_append ha'] at hsplit
    obtain rfl := (List.cons.inj hsplit).1
    exact ⟨rfl, (List.cons.inj (List.append_cancel_left h)).2⟩
  · rintro ⟨rfl, rfl⟩
    rfl

/-- The pieces between line breaks; a break at the end of the text starts no further line. -/
def lines (s : String) : List String :=
  let pieces := split '\n' s.toList
  (if pieces.getLast? = some [] then pieces.dropLast else pieces).map String.ofList

theorem lines_join {ls : List String} (h : ∀ l ∈ ls, '\n' ∉ l.toList) :
    lines (String.join (ls.map (· ++ "\n"))) = ls := by
  have htext : (String.join (ls.map (· ++ "\n"))).toList
      = (ls.map String.toList).flatMap (· ++ ['\n']) := by
    simp [List.flatMap_map]
  have hpieces : ∀ piece ∈ ls.map String.toList, '\n' ∉ piece := by
    simpa using h
  rw [lines, htext, split_terminated hpieces]
  simp [Function.comp_def]

theorem mem_of_mem_intercalate {α : Type} {a : α} {sep : List α} {pieces : List (List α)}
    (h : a ∈ sep.intercalate pieces) : a ∈ sep ∨ ∃ piece ∈ pieces, a ∈ piece := by
  induction pieces with
  | nil => simp at h
  | cons piece pieces ih =>
    cases pieces with
    | nil => exact .inr ⟨piece, by simp, by simpa using h⟩
    | cons next pieces =>
      rw [List.intercalate_cons_cons, List.mem_append, List.mem_append] at h
      obtain (h | h) | h := h
      · exact .inr ⟨piece, by simp, h⟩
      · exact .inl h
      · exact (ih h).imp_right fun ⟨l, hl, ha⟩ => ⟨l, List.mem_cons_of_mem _ hl, ha⟩

def OneLine (s : String) : Prop := '\n' ∉ s.toList

theorem oneLine_intercalate {sep : String} {ss : List String} (hsep : OneLine sep)
    (h : ∀ s ∈ ss, OneLine s) : OneLine (String.intercalate sep ss) := by
  intro hmem
  rw [String.toList_intercalate] at hmem
  obtain hin | ⟨piece, hpiece, hin⟩ := mem_of_mem_intercalate hmem
  · exact hsep hin
  · obtain ⟨s, hs, rfl⟩ := List.mem_map.1 hpiece
    exact h s hs hin

theorem not_mem_toDigits {c : Char} (hc : c.isDigit = false) (n : Nat) :
    c ∉ Nat.toDigits 10 n := by
  intro h
  have hdigit := Nat.isDigit_of_mem_toDigits (by decide) (by decide) h
  rw [hc] at hdigit
  cases hdigit

end Wayfinder.Text
