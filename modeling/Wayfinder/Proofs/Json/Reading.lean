import Wayfinder.Proofs.Json.Escapes
import Wayfinder.Proofs.Json.Numerals

/-! Reading what JSON writes. Values whose numbers are all whole come back from their texts, so two
of them never have the same text; and their texts hold no controls, not even a line break. -/
namespace Wayfinder

namespace Json

mutual
def Plain : Json → Prop
  | .num (.double _) => False
  | .null | .bool _ | .num (.whole _) | .str _ => True
  | .arr items => PlainItems items
  | .obj fields => PlainFields fields

def PlainItems : List Json → Prop
  | [] => True
  | j :: rest => Plain j ∧ PlainItems rest

def PlainFields : List (String × Json) → Prop
  | [] => True
  | (_, j) :: rest => Plain j ∧ PlainFields rest
end

end Json

namespace JsonText
open Json

mutual
/-- What reading the text of a plain value gives; the digits of a double are left out. -/
def of : Json → JsonText
  | .null | .num (.double _) => .null
  | .bool b => .bool b
  | .num (.whole n) => .number (.ofInt n)
  | .str s => .string (some s)
  | .arr items => .array (ofItems items)
  | .obj fields => .object (ofFields fields)

def ofItems : List Json → List JsonText
  | [] => []
  | j :: rest => of j :: ofItems rest

def ofFields : List (String × Json) → List (Option String × JsonText)
  | [] => []
  | (k, j) :: rest => (some k, of j) :: ofFields rest
end

def StartsValue (c : Char) : Prop := c ∉ [' ', '\n', '\t', '\r', ']']

instance : DecidablePred StartsValue := fun c => inferInstanceAs (Decidable (c ∉ _))

instance : DecidablePred StartsNumber := fun c => inferInstanceAs (Decidable (c = _ ∨ _))

theorem skipBlanks_cons {c : Char} {s : List Char} (h : StartsValue c) :
    skipBlanks (c :: s) = c :: s := by
  simp only [StartsValue, List.mem_cons, List.not_mem_nil, or_false, not_or] at h
  simp [skipBlanks, h]

theorem StartsNumber.startsValue {c : Char} (h : StartsNumber c) : StartsValue c := by
  intro hc
  simp only [List.mem_cons, List.not_mem_nil, or_false] at hc
  obtain rfl | rfl | rfl | rfl | rfl := hc <;> exact absurd h (by decide)

theorem exists_cons_chars : ∀ {j : Json}, j.Plain → ∃ c cs, j.chars = c :: cs ∧ StartsValue c
  | .null, _ => ⟨_, _, rfl, by decide⟩
  | .bool true, _ => ⟨_, _, rfl, by decide⟩
  | .bool false, _ => ⟨_, _, rfl, by decide⟩
  | .num (.whole n), _ => by
    obtain ⟨c, cs, hchars, hc⟩ := exists_cons_intChars n
    exact ⟨c, cs, hchars, hc.startsValue⟩
  | .str _, _ => ⟨_, _, rfl, by decide⟩
  | .arr _, _ => ⟨_, _, rfl, by decide⟩
  | .obj _, _ => ⟨_, _, rfl, by decide⟩

theorem exists_cons_itemsChars {j : Json} {items : List Json} (h : PlainItems (j :: items)) :
    ∃ c cs, itemsChars (j :: items) = c :: cs ∧ StartsValue c := by
  obtain ⟨c, cs, hchars, hc⟩ := exists_cons_chars h.1
  cases items with
  | nil => exact ⟨c, cs ++ [']'], by simp [itemsChars, hchars], hc⟩
  | cons k items =>
    exact ⟨c, cs ++ ',' :: itemsChars (k :: items), by simp [itemsChars, hchars], hc⟩

theorem exists_cons_fieldsChars (f : String × Json) (fields : List (String × Json)) :
    ∃ cs, fieldsChars (f :: fields) = '"' :: cs := by
  cases fields <;> simp [fieldsChars, stringChars]

theorem readValue_of_startsNumber {c : Char} (h : StartsNumber c) (fuel : Nat) (s : List Char) :
    readValue (fuel + 1) (c :: s)
      = (readNumeral (c :: s)).map fun (n, rest) => (.number n, rest) := by
  have hne : ∀ d, ¬StartsNumber d → c ≠ d := fun d hd hc => hd (hc ▸ h)
  rw [readValue, skipBlanks_cons h.startsValue]
  split
  case h_1 _ _ hc | h_2 _ _ hc | h_3 _ _ hc | h_4 _ _ hc | h_5 _ _ hc | h_6 _ _ hc =>
    exact absurd (List.cons_eq_cons.1 hc).1 (hne _ (by decide))
  case h_7 => rfl

theorem readItems_last {fuel : Nat} {s rest : List Char} {t : JsonText}
    (h : readValue fuel s = some (t, ']' :: rest)) : readItems (fuel + 1) s = some ([t], rest) := by
  simp [readItems, h, skipBlanks]

theorem readItems_more {fuel : Nat} {s s' rest : List Char} {t : JsonText} {ts : List JsonText}
    (h : readValue fuel s = some (t, ',' :: s')) (hmore : readItems fuel s' = some (ts, rest)) :
    readItems (fuel + 1) s = some (t :: ts, rest) := by
  simp [readItems, h, hmore, skipBlanks]

theorem readMembers_last {fuel : Nat} {s rest : List Char} {t : JsonText} (k : String)
    (h : readValue fuel s = some (t, '\x7d' :: rest)) :
    readMembers (fuel + 1) (stringChars k ++ ':' :: s) = some ([(some k, t)], rest) := by
  rw [stringChars_append, readMembers, skipBlanks_cons (by decide)]
  simp [readString_escaped, h, skipBlanks]

theorem readMembers_more {fuel : Nat} {s s' rest : List Char} {t : JsonText}
    {ts : List (Option String × JsonText)} (k : String)
    (h : readValue fuel s = some (t, ',' :: s')) (hmore : readMembers fuel s' = some (ts, rest)) :
    readMembers (fuel + 1) (stringChars k ++ ':' :: s) = some ((some k, t) :: ts, rest) := by
  rw [stringChars_append, readMembers, skipBlanks_cons (by decide)]
  simp [readString_escaped, h, hmore, skipBlanks]

theorem readValue_arr {fuel : Nat} {c : Char} {s rest : List Char} {ts : List JsonText}
    (hc : StartsValue c) (h : readItems fuel (c :: s) = some (ts, rest)) :
    readValue (fuel + 1) ('[' :: c :: s) = some (.array ts, rest) := by
  rw [readValue, skipBlanks_cons (by decide)]
  simp only [skipBlanks_cons hc]
  split
  case h_1 _ _ heq =>
    exact absurd (show StartsValue ']' from (List.cons_eq_cons.1 heq).1 ▸ hc) (by decide)
  case h_2 => rw [h, Option.map_some]

theorem readValue_obj {fuel : Nat} {s rest : List Char} {ts : List (Option String × JsonText)}
    (h : readMembers fuel ('"' :: s) = some (ts, rest)) :
    readValue (fuel + 1) ('\x7b' :: '"' :: s) = some (.object ts, rest) := by
  rw [readValue, skipBlanks_cons (by decide)]
  simp [skipBlanks, h]

theorem ends_bracket (rest : List Char) : Ends (']' :: rest) := by simp [Ends]

theorem ends_brace (rest : List Char) : Ends ('\x7d' :: rest) := by simp [Ends]

theorem ends_comma (rest : List Char) : Ends (',' :: rest) := by simp [Ends]

mutual
theorem readValue_chars : ∀ {j : Json}, j.Plain → ∀ (fuel : Nat), j.chars.length ≤ fuel →
    ∀ {rest : List Char}, Ends rest → readValue fuel (j.chars ++ rest) = some (of j, rest)
  | j, hplain, 0, hfuel, _, _ => by
    obtain ⟨c, cs, hchars, _⟩ := exists_cons_chars hplain
    simp [hchars] at hfuel
  | .null, _, fuel + 1, _, rest, _ => by
    simp [chars, of, readValue, skipBlanks]
  | .bool true, _, fuel + 1, _, rest, _ => by
    simp [chars, of, readValue, skipBlanks]
  | .bool false, _, fuel + 1, _, rest, _ => by
    simp [chars, of, readValue, skipBlanks]
  | .num (.whole n), _, fuel + 1, _, rest, hrest => by
    obtain ⟨c, cs, hchars, hc⟩ := exists_cons_intChars n
    have hread := readNumeral_intChars n hrest
    rw [hchars, List.cons_append] at hread
    rw [chars, Number.chars, hchars, List.cons_append, readValue_of_startsNumber hc, hread, of]
    rfl
  | .str s, _, fuel + 1, _, rest, _ => by
    rw [chars, stringChars_append, readValue, skipBlanks_cons (by decide)]
    simp only [readString_escaped, of, Option.map_some]
  | .arr [], _, fuel + 1, _, rest, _ => by
    simp [chars, itemsChars, of, ofItems, readValue, skipBlanks]
  | .arr (j :: items), hplain, fuel + 1, hfuel, rest, _ => by
    have hitems := readItems_itemsChars hplain fuel (by simpa [chars] using hfuel) rest
    obtain ⟨c, cs, hchars, hc⟩ := exists_cons_itemsChars hplain
    rw [hchars, List.cons_append] at hitems
    rw [chars, hchars, List.cons_append, List.cons_append, readValue_arr hc hitems, of]
  | .obj [], _, fuel + 1, _, rest, _ => by
    simp [chars, fieldsChars, of, ofFields, readValue, skipBlanks]
  | .obj (f :: fields), hplain, fuel + 1, hfuel, rest, _ => by
    have hfields := readMembers_fieldsChars hplain fuel (by simpa [chars] using hfuel) rest
    obtain ⟨cs, hchars⟩ := exists_cons_fieldsChars f fields
    rw [hchars, List.cons_append] at hfields
    rw [chars, hchars, List.cons_append, List.cons_append, readValue_obj hfields, of]

theorem readItems_itemsChars : ∀ {j : Json} {items : List Json}, PlainItems (j :: items) →
    ∀ (fuel : Nat), (itemsChars (j :: items)).length ≤ fuel → ∀ rest : List Char,
    readItems fuel (itemsChars (j :: items) ++ rest) = some (ofItems (j :: items), rest)
  | j, [], _, 0, hfuel, _ => by simp [itemsChars] at hfuel
  | j, k :: items, _, 0, hfuel, _ => by simp [itemsChars] at hfuel
  | j, [], hplain, fuel + 1, hfuel, rest => by
    have hj := readValue_chars hplain.1 fuel (by simpa [itemsChars] using hfuel)
      (ends_bracket rest)
    have hread := readItems_last hj
    simpa [itemsChars, ofItems] using hread
  | j, k :: items, hplain, fuel + 1, hfuel, rest => by
    simp only [itemsChars, List.length_append, List.length_cons] at hfuel
    have hmore := readItems_itemsChars hplain.2 fuel (by omega) rest
    have hj := readValue_chars hplain.1 fuel (by omega)
      (ends_comma (itemsChars (k :: items) ++ rest))
    have hread := readItems_more hj hmore
    simpa [itemsChars, ofItems] using hread

theorem readMembers_fieldsChars : ∀ {f : String × Json} {fields : List (String × Json)},
    PlainFields (f :: fields) → ∀ (fuel : Nat), (fieldsChars (f :: fields)).length ≤ fuel →
    ∀ rest : List Char, readMembers fuel (fieldsChars (f :: fields) ++ rest)
      = some (ofFields (f :: fields), rest)
  | (k, j), [], _, 0, hfuel, _ => by simp [fieldsChars] at hfuel
  | (k, j), f :: fields, _, 0, hfuel, _ => by simp [fieldsChars] at hfuel
  | (k, j), [], hplain, fuel + 1, hfuel, rest => by
    simp only [fieldsChars, List.length_append, List.length_cons] at hfuel
    have hj := readValue_chars hplain.1 fuel (by omega) (ends_brace rest)
    have hread := readMembers_last k hj
    simpa [fieldsChars, ofFields] using hread
  | (k, j), f :: fields, hplain, fuel + 1, hfuel, rest => by
    simp only [fieldsChars, List.length_append, List.length_cons] at hfuel
    have hmore := readMembers_fieldsChars hplain.2 fuel (by omega) rest
    have hj := readValue_chars hplain.1 fuel (by omega)
      (ends_comma (fieldsChars (f :: fields) ++ rest))
    have hread := readMembers_more k hj hmore
    simpa [fieldsChars, ofFields] using hread
end

theorem read?_text {j : Json} (h : j.Plain) : read? j.text = some (of j) := by
  have hends : Ends [] := by simp [Ends]
  have hread := readValue_chars h (2 * j.chars.length + 2) (by omega) hends
  rw [List.append_nil] at hread
  simp [read?, text, hread, skipBlanks]

theorem whole_of_plain {n : Number} (h : (Json.num n).Plain) : ∃ m, n = .whole m := by
  cases n with
  | whole m => exact ⟨m, rfl⟩
  | double x => exact h.elim

mutual
theorem of_injective : ∀ {j k : Json}, j.Plain → k.Plain → of j = of k → j = k
  | .null, k, _, hk, h => by
    cases k with
    | null => rfl
    | num n => obtain ⟨m, rfl⟩ := whole_of_plain hk; cases h
    | _ => cases h
  | .bool b, k, _, hk, h => by
    cases k with
    | bool c => cases h; rfl
    | num n => obtain ⟨m, rfl⟩ := whole_of_plain hk; cases h
    | _ => cases h
  | .num (.whole n), k, _, hk, h => by
    cases k with
    | num n =>
      obtain ⟨m, rfl⟩ := whole_of_plain hk
      rw [Numeral.ofInt_injective (JsonText.number.inj h)]
    | _ => cases h
  | .str s, k, _, hk, h => by
    cases k with
    | str t => cases h; rfl
    | num n => obtain ⟨m, rfl⟩ := whole_of_plain hk; cases h
    | _ => cases h
  | .arr items, k, hj, hk, h => by
    cases k with
    | arr others => rw [ofItems_injective hj hk (JsonText.array.inj h)]
    | num n => obtain ⟨m, rfl⟩ := whole_of_plain hk; cases h
    | _ => cases h
  | .obj fields, k, hj, hk, h => by
    cases k with
    | obj others => rw [ofFields_injective hj hk (JsonText.object.inj h)]
    | num n => obtain ⟨m, rfl⟩ := whole_of_plain hk; cases h
    | _ => cases h

theorem ofItems_injective : ∀ {items others : List Json}, PlainItems items → PlainItems others →
    ofItems items = ofItems others → items = others
  | [], [], _, _, _ => rfl
  | j :: items, k :: others, hitems, hothers, h => by
    obtain ⟨hfirst, hrest⟩ := List.cons_eq_cons.1 h
    rw [of_injective hitems.1 hothers.1 hfirst, ofItems_injective hitems.2 hothers.2 hrest]

theorem ofFields_injective : ∀ {fields others : List (String × Json)}, PlainFields fields →
    PlainFields others → ofFields fields = ofFields others → fields = others
  | [], [], _, _, _ => rfl
  | (name, j) :: fields, (other, k) :: others, hfields, hothers, h => by
    obtain ⟨hfirst, hrest⟩ := List.cons_eq_cons.1 h
    obtain ⟨hname, hvalue⟩ := Prod.mk.inj hfirst
    rw [Option.some.inj hname, of_injective hfields.1 hothers.1 hvalue,
      ofFields_injective hfields.2 hothers.2 hrest]
end

end JsonText

namespace Json

/-- A text is the text of at most one value. -/
theorem text_injective {j k : Json} (hj : j.Plain) (hk : k.Plain) (h : j.text = k.text) :
    j = k := by
  have hread : some (JsonText.of j) = some (JsonText.of k) := by
    rw [← JsonText.read?_text hj, h, JsonText.read?_text hk]
  exact JsonText.of_injective hj hk (Option.some.inj hread)

theorem printable_intChars (n : Int) : Printable (intChars n) := by
  have hdigits : Printable (Nat.toDigits 10 n.natAbs) := by
    intro c hc
    have hdigit := isDigit_toDigits n.natAbs c hc
    simp only [Char.isDigit, Bool.and_eq_true, decide_eq_true_eq, ge_iff_le] at hdigit
    exact Nat.le_trans (by decide) (UInt32.le_iff_toNat_le.1 hdigit.1)
  rw [intChars]
  split
  · exact printable_cons (by decide) hdigits
  · exact hdigits

mutual
theorem printable_chars : ∀ {j : Json}, j.Plain → Printable j.chars
  | .null, _ => by decide
  | .bool true, _ => by decide
  | .bool false, _ => by decide
  | .num (.whole n), _ => printable_intChars n
  | .str s, _ => printable_stringChars s
  | .arr items, h => printable_cons (by decide) (printable_itemsChars h)
  | .obj fields, h => printable_cons (by decide) (printable_fieldsChars h)

theorem printable_itemsChars : ∀ {items : List Json}, PlainItems items →
    Printable (itemsChars items)
  | [], _ => by decide
  | [j], h => (printable_chars h.1).append (printable_cons (by decide) printable_nil)
  | j :: k :: items, h =>
    (printable_chars h.1).append (printable_cons (by decide) (printable_itemsChars h.2))

theorem printable_fieldsChars : ∀ {fields : List (String × Json)}, PlainFields fields →
    Printable (fieldsChars fields)
  | [], _ => by decide
  | [(k, j)], h => by
    have hmember := (printable_stringChars k).append
      (printable_cons (c := ':') (by decide) (printable_chars h.1))
    exact hmember.append (printable_cons (by decide) printable_nil)
  | (k, j) :: f :: fields, h => by
    have hmember := (printable_stringChars k).append
      (printable_cons (c := ':') (by decide) (printable_chars h.1))
    exact hmember.append (printable_cons (by decide) (printable_fieldsChars h.2))
end

end Json
end Wayfinder
