import Mathlib.Data.Option.Basic
import Mathlib.Data.List.TakeDrop
import Wayfinder.Json.Text

/-! Whole numbers as JSON writes them. Their digits do not start with a needless zero, and reading
takes all of them, as long as nothing stands behind them that continues a number. -/
namespace Wayfinder

theorem isDigit_toDigits (n : Nat) : ∀ c ∈ Nat.toDigits 10 n, c.isDigit = true :=
  fun _ hc => Nat.isDigit_of_mem_toDigits (by decide) (by decide) hc

theorem exists_cons_toDigits (n : Nat) :
    ∃ d ds, Nat.toDigits 10 n = d :: ds ∧ d.isDigit = true := by
  have hdigit := isDigit_toDigits n
  cases hdigits : Nat.toDigits 10 n with
  | nil => exact absurd hdigits Nat.toDigits_ne_nil
  | cons d ds => exact ⟨d, ds, rfl, hdigit d (by simp [hdigits])⟩

theorem head?_toDigits {n : Nat} (h : n ≠ 0) : (Nat.toDigits 10 n).head? ≠ some '0' := by
  induction n using Nat.strongRecOn with
  | ind n ih =>
    by_cases hn : n < 10
    · have hdigit : ∀ n < 10, n ≠ 0 → Nat.digitChar n ≠ '0' := by decide
      rw [Nat.toDigits_of_lt_base hn]
      simpa using hdigit n hn h
    · obtain ⟨d, ds, hfront, -⟩ := exists_cons_toDigits (n / 10)
      have hd := ih (n / 10) (by omega) (by omega)
      rw [hfront] at hd
      rw [Nat.toDigits_of_base_le (by decide) (Nat.le_of_not_lt hn), hfront]
      exact hd

theorem toDigits_leading (n : Nat) :
    (Nat.toDigits 10 n).head? ≠ some '0' ∨ (Nat.toDigits 10 n).length = 1 := by
  by_cases h : n = 0
  · exact .inr (by rw [h]; rfl)
  · exact .inl (head?_toDigits h)

namespace Numeral

def ofInt (n : Int) : Numeral := ⟨n < 0, Nat.toDigits 10 n.natAbs, none, none⟩

theorem nat?_ofInt (n : Nat) : (ofInt n).nat? = some n := by
  have hvalue : (Nat.toDigits 10 n).foldl (fun a c => a * 10 + digitValue c) 0 = n := by
    simpa [Nat.ofDigitChars, Nat.mul_comm, digitValue] using @Nat.ofDigitChars_ten_toDigits n
  have hsign : ¬(n : Int) < 0 := Int.not_lt.2 (Int.natCast_nonneg n)
  simp [nat?, ofInt, isWhole, hvalue, hsign]

theorem ofInt_injective : Function.Injective ofInt := by
  intro n k h
  simp only [ofInt, Numeral.mk.injEq, and_true, decide_eq_decide] at h
  obtain ⟨hsign, hdigits⟩ := h
  have habs : n.natAbs = k.natAbs := by
    rw [← @Nat.ofDigitChars_ten_toDigits n.natAbs, hdigits, Nat.ofDigitChars_ten_toDigits]
  omega

end Numeral

namespace JsonText

/-- What stands behind a value: nothing, or what goes on with a list or ends it. -/
def Ends (rest : List Char) : Prop := ∀ c ∈ rest.head?, c = ',' ∨ c = ']' ∨ c = '\x7d'

theorem takeDigits_append {digits rest : List Char} (h : ∀ c ∈ digits, c.isDigit = true)
    (hrest : Ends rest) : takeDigits (digits ++ rest) = (digits, rest) := by
  have hstop : rest.takeWhile Char.isDigit = [] ∧ rest.dropWhile Char.isDigit = rest := by
    cases rest with
    | nil => exact ⟨rfl, rfl⟩
    | cons c rest => obtain rfl | rfl | rfl := hrest c rfl <;> exact ⟨rfl, rfl⟩
  rw [takeDigits, List.span_eq_takeWhile_dropWhile, List.takeWhile_append_of_pos h,
    List.dropWhile_append_of_pos h, hstop.1, hstop.2, List.append_nil]

theorem readFraction_of_ends {rest : List Char} (h : Ends rest) :
    readFraction rest = some (none, rest) := by
  cases rest with
  | nil => rfl
  | cons c rest => obtain rfl | rfl | rfl := h c rfl <;> rfl

theorem readExponent_of_ends {rest : List Char} (h : Ends rest) :
    readExponent rest = some (none, rest) := by
  cases rest with
  | nil => rfl
  | cons c rest => obtain rfl | rfl | rfl := h c rfl <;> rfl

theorem readNumeral_intChars (n : Int) {rest : List Char} (h : Ends rest) :
    readNumeral (intChars n ++ rest) = some (.ofInt n, rest) := by
  have htake := takeDigits_append (isDigit_toDigits n.natAbs) h
  have hleading : (!(Nat.toDigits 10 n.natAbs).isEmpty &&
      ((Nat.toDigits 10 n.natAbs).head? != some '0' ||
        (Nat.toDigits 10 n.natAbs).length == 1)) = true := by
    simpa [Nat.toDigits_ne_nil] using toDigits_leading n.natAbs
  have hfraction := readFraction_of_ends h
  have hexponent := readExponent_of_ends h
  rw [intChars]
  split
  case isTrue hneg =>
    simp only [List.cons_append, readNumeral, htake, hleading, hfraction]
    simp [guard, hexponent, Numeral.ofInt, hneg]
  case isFalse hneg =>
    have hunsigned : ∀ r, Nat.toDigits 10 n.natAbs ++ rest ≠ '-' :: r := by
      intro r hr
      obtain ⟨d, ds, hdigits, hd⟩ := exists_cons_toDigits n.natAbs
      rw [hdigits, List.cons_append, List.cons_eq_cons] at hr
      rw [hr.1] at hd
      exact absurd hd (by decide)
    rw [readNumeral]
    · simp only [htake, hleading, hfraction]
      simp [guard, hexponent, Numeral.ofInt, hneg]
    · exact hunsigned

def StartsNumber (c : Char) : Prop := c = '-' ∨ c.isDigit = true

theorem exists_cons_intChars (n : Int) : ∃ c cs, intChars n = c :: cs ∧ StartsNumber c := by
  rw [intChars]
  split
  · exact ⟨'-', _, rfl, .inl rfl⟩
  · obtain ⟨d, ds, hdigits, hd⟩ := exists_cons_toDigits n.natAbs
    exact ⟨d, ds, hdigits, .inr hd⟩

end JsonText
end Wayfinder
