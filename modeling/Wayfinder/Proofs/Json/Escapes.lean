import Wayfinder.Json.Basic
import Wayfinder.Json.Text

/-! Strings as JSON writes them. Only the quote, the backslash and the controls are escaped, what is
written holds no control, and reading the text of a string gives back the string, whatever stands
behind it. -/
namespace Wayfinder
namespace Json
open JsonText (simpleEscape?)

def Escaped (c : Char) : Prop := c = '"' ∨ c = '\\' ∨ c.toNat < 0x20

/-- A character is escaped by a letter, by its code or not at all. -/
theorem escapeChar_cases (c : Char) :
    (∃ e, e ≠ 'u' ∧ 0x20 ≤ e.toNat ∧ simpleEscape? e = some c ∧ Escaped c ∧
      escapeChar c = ['\\', e]) ∨
    (c.toNat < 0x20 ∧ escapeChar c =
      ['\\', 'u', '0', '0', Nat.digitChar (c.toNat / 16), Nat.digitChar (c.toNat % 16)]) ∨
    (¬Escaped c ∧ escapeChar c = [c]) := by
  unfold escapeChar
  split
  case h_1 => exact .inl ⟨'"', by decide, by decide, rfl, by simp [Escaped], rfl⟩
  case h_2 => exact .inl ⟨'\\', by decide, by decide, rfl, by simp [Escaped], rfl⟩
  case h_3 => exact .inl ⟨'b', by decide, by decide, rfl, by simp [Escaped], rfl⟩
  case h_4 => exact .inl ⟨'f', by decide, by decide, rfl, by simp [Escaped], rfl⟩
  case h_5 => exact .inl ⟨'n', by decide, by decide, rfl, by simp [Escaped], rfl⟩
  case h_6 => exact .inl ⟨'r', by decide, by decide, rfl, by simp [Escaped], rfl⟩
  case h_7 => exact .inl ⟨'t', by decide, by decide, rfl, by simp [Escaped], rfl⟩
  case h_8 _ hquote hbackslash _ _ _ _ _ =>
    by_cases hc : c.toNat < 0x20
    · exact .inr (.inl ⟨hc, if_pos hc⟩)
    · refine .inr (.inr ⟨?_, if_neg hc⟩)
      rintro (h | h | h)
      · exact hquote h
      · exact hbackslash h
      · exact hc h

theorem escapeChar_eq_self_iff (c : Char) : escapeChar c = [c] ↔ ¬Escaped c := by
  obtain ⟨e, _, _, _, hc, he⟩ | ⟨hlt, he⟩ | ⟨hc, he⟩ := escapeChar_cases c
  · simp [he, hc]
  · simp [he, Escaped, hlt]
  · simp [he, hc]

theorem hexDigit?_digitChar : ∀ n < 16, Text.hexDigit? (Nat.digitChar n) = some n := by decide

theorem le_toNat_digitChar : ∀ n < 16, 0x20 ≤ (Nat.digitChar n).toNat := by decide

theorem le_of_mem_escapeChar {c d : Char} (h : d ∈ escapeChar c) : 0x20 ≤ d.toNat := by
  obtain ⟨e, _, hle, _, _, he⟩ | ⟨hlt, he⟩ | ⟨hc, he⟩ := escapeChar_cases c
  · have hd : d = '\\' ∨ d = e := by simpa [he] using h
    obtain rfl | rfl := hd
    · decide
    · exact hle
  · have hhigh := le_toNat_digitChar (c.toNat / 16) (by omega)
    have hlow := le_toNat_digitChar (c.toNat % 16) (by omega)
    rw [he] at h
    simp only [List.mem_cons, List.not_mem_nil, or_false] at h
    obtain rfl | rfl | rfl | rfl | rfl | rfl := h
    · decide
    · decide
    · decide
    · decide
    · exact hhigh
    · exact hlow
  · have hd : d = c := by simpa [he] using h
    have hnot : ¬c.toNat < 0x20 := fun hlt => hc (.inr (.inr hlt))
    rw [hd]
    exact Nat.le_of_not_lt hnot

def Printable (cs : List Char) : Prop := ∀ c ∈ cs, 0x20 ≤ c.toNat

instance (cs : List Char) : Decidable (Printable cs) :=
  List.decidableBAll (fun c : Char => 0x20 ≤ c.toNat) cs

theorem printable_nil : Printable [] := by decide

theorem printable_cons {c : Char} {cs : List Char} (hc : 0x20 ≤ c.toNat) (h : Printable cs) :
    Printable (c :: cs) := List.forall_mem_cons.2 ⟨hc, h⟩

theorem Printable.append {cs ds : List Char} (hcs : Printable cs) (hds : Printable ds) :
    Printable (cs ++ ds) := List.forall_mem_append.2 ⟨hcs, hds⟩

theorem printable_stringChars (s : String) : Printable (stringChars s) := by
  have hescaped : Printable (s.toList.flatMap escapeChar) := by
    intro d hd
    obtain ⟨c, -, hd⟩ := List.mem_flatMap.1 hd
    exact le_of_mem_escapeChar hd
  have hquote := printable_cons (c := '"') (by decide) printable_nil
  exact (printable_cons (by decide) hescaped).append hquote

theorem stringChars_append (s : String) (rest : List Char) :
    stringChars s ++ rest = '"' :: (s.toList.flatMap escapeChar ++ '"' :: rest) := by
  simp [stringChars]

end Json

namespace JsonText
open Json

theorem joinUnits_code {n : Nat} (h : n < 0x20) (us : List CodeUnit) :
    joinUnits (.code n :: us) = (joinUnits us).map (Char.ofNat n :: ·) := by
  have hhigh : isHighSurrogate n = false := by simp [isHighSurrogate]; omega
  have hlow : isLowSurrogate n = false := by simp [isLowSurrogate]; omega
  cases us with
  | nil => simp [joinUnits, hhigh, hlow]
  | cons u us => cases u <;> simp [joinUnits, hhigh, hlow]

theorem exists_unit (c : Char) :
    ∃ u, (∀ rest, readUnits (escapeChar c ++ rest) =
        (readUnits rest).map fun (us, rest) => (u :: us, rest)) ∧
      ∀ us, joinUnits (u :: us) = (joinUnits us).map (c :: ·) := by
  obtain ⟨e, hu, _, hsimple, _, he⟩ | ⟨hlt, he⟩ | ⟨hc, he⟩ := escapeChar_cases c
  · refine ⟨.char c, fun rest => ?_, fun _ => rfl⟩
    cases hrest : readUnits rest <;> simp [he, readUnits, hsimple, hu, hrest]
  · have hhigh := hexDigit?_digitChar (c.toNat / 16) (by omega)
    have hlow := hexDigit?_digitChar (c.toNat % 16) (by omega)
    have hzero : Text.hexDigit? '0' = some 0 := rfl
    refine ⟨.code c.toNat, fun rest => ?_, fun us => ?_⟩
    · rw [he]
      cases hrest : readUnits rest <;>
        simp [readUnits, hhigh, hlow, hzero, Nat.div_add_mod', hrest]
    · rw [joinUnits_code hlt, Char.ofNat_toNat]
  · have hquote : c ≠ '"' := fun h => hc (.inl h)
    have hbackslash : c ≠ '\\' := fun h => hc (.inr (.inl h))
    have hlt : ¬c.toNat < 0x20 := fun h => hc (.inr (.inr h))
    refine ⟨.char c, fun rest => ?_, fun _ => rfl⟩
    cases hrest : readUnits rest <;> simp [he, readUnits, hbackslash, hlt, hrest]

theorem exists_units (cs : List Char) :
    ∃ us, (∀ rest, readUnits (cs.flatMap escapeChar ++ '"' :: rest) = some (us, rest)) ∧
      joinUnits us = some cs := by
  induction cs with
  | nil => exact ⟨[], fun _ => rfl, rfl⟩
  | cons c cs ih =>
    obtain ⟨us, hread, hjoin⟩ := ih
    obtain ⟨u, hunit, hone⟩ := exists_unit c
    refine ⟨u :: us, fun rest => ?_, ?_⟩
    · rw [List.flatMap_cons, List.append_assoc, hunit, hread]
      rfl
    · rw [hone, hjoin]
      rfl

theorem readString_escaped (s : String) (rest : List Char) :
    readString (s.toList.flatMap escapeChar ++ '"' :: rest) = some (some s, rest) := by
  obtain ⟨us, hread, hjoin⟩ := exists_units s.toList
  simp [readString, hread, hjoin]

end JsonText
end Wayfinder
