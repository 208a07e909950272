/-! Finding, cutting and replacing inside a text, as operations on its characters. -/
namespace Wayfinder.Text

def dropPrefix? : List Char → List Char → Option (List Char)
  | [], s => some s
  | _ :: _, [] => none
  | p :: ps, c :: cs => if p = c then dropPrefix? ps cs else none

theorem dropPrefix?_append (pat s : List Char) : dropPrefix? pat (pat ++ s) = some s := by
  induction pat with
  | nil => rfl
  | cons p ps ih => simpa [dropPrefix?] using ih

theorem eq_append_of_dropPrefix? {pat s rest : List Char} (h : dropPrefix? pat s = some rest) :
    s = pat ++ rest := by
  induction pat generalizing s with
  | nil => simpa [dropPrefix?] using h
  | cons p ps ih =>
    cases s with
    | nil => simp [dropPrefix?] at h
    | cons c cs =>
      by_cases hc : p = c
      · subst hc
        simpa using ih (by simpa [dropPrefix?] using h)
      · simp [dropPrefix?, hc] at h

def cut? (pat : List Char) : List Char → Option (List Char × List Char)
  | [] => if pat = [] then some ([], []) else none
  | c :: cs =>
    match dropPrefix? pat (c :: cs) with
    | some rest => some ([], rest)
    | none => (cut? pat cs).map fun (front, back) => (c :: front, back)

theorem eq_append_of_cut? {pat s front back : List Char} (h : cut? pat s = some (front, back)) :
    s = front ++ pat ++ back := by
  induction s generalizing front with
  | nil =>
    by_cases hp : pat = [] <;> simp_all [cut?]
  | cons c cs ih =>
    rw [cut?] at h
    split at h
    · next rest hr =>
      simp only [Option.some.injEq, Prod.mk.injEq] at h
      obtain ⟨rfl, rfl⟩ := h
      simpa using eq_append_of_dropPrefix? hr
    · simp only [Option.map_eq_some_iff] at h
      obtain ⟨⟨f, b⟩, hfb, he⟩ := h
      simp only [Prod.mk.injEq] at he
      obtain ⟨rfl, rfl⟩ := he
      simpa using ih hfb

def contains (pat s : List Char) : Bool := (cut? pat s).isSome

theorem contains_cons (pat : List Char) (c : Char) (cs : List Char) :
    contains pat (c :: cs) = ((dropPrefix? pat (c :: cs)).isSome || contains pat cs) := by
  rw [contains, cut?]
  cases dropPrefix? pat (c :: cs) <;> simp [contains]

/-- A pattern does not run into a text that begins with a character not its own. -/
theorem isSome_dropPrefix?_append (pat s : List Char) {tail : List Char}
    (htail : ∀ c ∈ tail.head?, c ∉ pat) :
    (dropPrefix? pat (s ++ tail)).isSome = (dropPrefix? pat s).isSome := by
  induction pat generalizing s with
  | nil => rfl
  | cons p ps ih =>
    have hrest : ∀ c ∈ tail.head?, c ∉ ps := fun c hc hps => htail c hc (List.mem_cons_of_mem p hps)
    cases s with
    | nil =>
      cases tail with
      | nil => rfl
      | cons t tail =>
        have hne : p ≠ t := fun h => htail t rfl (h ▸ List.mem_cons_self)
        simp [dropPrefix?, hne]
    | cons c cs =>
      rw [List.cons_append, dropPrefix?, dropPrefix?]
      split
      · exact ih cs hrest
      · rfl

theorem contains_append {pat : List Char} (hpat : pat ≠ []) (s : List Char) {tail : List Char}
    (htail : ∀ c ∈ tail.head?, c ∉ pat) :
    contains pat (s ++ tail) = (contains pat s || contains pat tail) := by
  induction s with
  | nil => simp [contains, cut?, hpat]
  | cons c cs ih =>
    have hhere := isSome_dropPrefix?_append pat (c :: cs) htail
    rw [List.cons_append] at hhere
    rw [List.cons_append, contains_cons, contains_cons, hhere, ih, Bool.or_assoc]

/-- Replaces the occurrences of `pat` from left to right, none overlapping the one before. The
counter is what remains to be passed over of an occurrence already replaced. -/
def replaceFrom (pat sub : List Char) : Nat → List Char → List Char
  | _, [] => []
  | n + 1, _ :: cs => replaceFrom pat sub n cs
  | 0, c :: cs =>
    match dropPrefix? pat (c :: cs) with
    | some _ => sub ++ replaceFrom pat sub (pat.length - 1) cs
    | none => c :: replaceFrom pat sub 0 cs

theorem replaceFrom_other {p c : Char} (h : p ≠ c) (pat sub cs : List Char) :
    replaceFrom (p :: pat) sub 0 (c :: cs) = c :: replaceFrom (p :: pat) sub 0 cs := by
  rw [replaceFrom, dropPrefix?, if_neg h]

theorem replaceFrom_passed (pat sub passed cs : List Char) :
    replaceFrom pat sub passed.length (passed ++ cs) = replaceFrom pat sub 0 cs := by
  induction passed with
  | nil => rfl
  | cons c passed ih => exact ih

theorem replaceFrom_occurrence (p : Char) (pat sub cs : List Char) :
    replaceFrom (p :: pat) sub 0 (p :: (pat ++ cs)) = sub ++ replaceFrom (p :: pat) sub 0 cs := by
  have hdrop : dropPrefix? (p :: pat) (p :: (pat ++ cs)) = some cs :=
    dropPrefix?_append (p :: pat) cs
  rw [replaceFrom, hdrop]
  exact congrArg (sub ++ ·) (replaceFrom_passed (p :: pat) sub pat cs)

/-- The empty pattern occurs before every character and at the end. -/
def replace (pat sub s : List Char) : List Char :=
  if pat = [] then s.flatMap (fun c => sub ++ [c]) ++ sub else replaceFrom pat sub 0 s

end Wayfinder.Text
