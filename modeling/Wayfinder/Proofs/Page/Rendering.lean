import Wayfinder.Proofs.Page.Placeholders

/-! Rendering beside the naming of placeholders. A template is spelt from letters and placeholders,
up to a brace that nothing closes if there is one, and in one way only. Both readings of it are told
by that spelling: the names are those of its placeholders, and rendering writes the letters as they
stand and for each placeholder the text of its argument. -/
namespace Wayfinder.Template
variable {ps : List Piece} {cs name rest : List Char} {args : Args} {template : String}

/-- The characters are spelt from these pieces. A letter opens no brace, and the name of a
placeholder goes up to the first brace that closes. -/
inductive Spelt : List Piece → List Char → Prop where
  | nil : Spelt [] []
  | letter {c : Char} {ps : List Piece} {cs : List Char} (hc : c ≠ '\x7b') (h : Spelt ps cs) :
    Spelt (.letter c :: ps) (c :: cs)
  | slot {name : List Char} {ps : List Piece} {cs : List Char} (hname : '\x7d' ∉ name)
    (h : Spelt ps cs) : Spelt (.slot name :: ps) ('\x7b' :: (name ++ '\x7d' :: cs))

def Piece.name? : Piece → Option String
  | .slot name => some (String.ofList name)
  | .letter _ | .unclosed => none

def names (ps : List Piece) : List String := ps.filterMap Piece.name?

def Piece.put (f : String → String) : Piece → List Char
  | .letter c => [c]
  | .slot name => (f (String.ofList name)).toList
  | .unclosed => []

def firstAbsent? (args : Args) (names : List String) : Option String :=
  names.find? (!args.contains ·)

theorem scan_name (hname : '\x7d' ∉ name) (before rest : List Char) :
    scan (some before) (name ++ '\x7d' :: rest) =
      .slot (before.reverse ++ name) :: scan none rest := by
  induction name generalizing before with
  | nil => simp [scan]
  | cons c name ih =>
    obtain ⟨hc, hname⟩ := not_or.1 (mt List.mem_cons.2 hname)
    simp [scan, Ne.symm hc, ih hname]

theorem scan_unclosed (hrest : '\x7d' ∉ rest) (before : List Char) :
    scan (some before) rest = [.unclosed] := by
  induction rest generalizing before with
  | nil => rfl
  | cons c rest ih =>
    obtain ⟨hc, hrest⟩ := not_or.1 (mt List.mem_cons.2 hrest)
    rw [scan, if_neg (Ne.symm hc), ih hrest]

/-- Scanning reads the pieces back, whatever follows. -/
theorem Spelt.scan_append (h : Spelt ps cs) (rest : List Char) :
    scan none (cs ++ rest) = ps ++ scan none rest := by
  induction h with
  | nil => rfl
  | letter hc h ih => simp [scan, hc, ih]
  | slot hname h ih => simp [scan, scan_name hname, ih]

theorem Spelt.scan_eq (h : Spelt ps cs) : scan none cs = ps := by
  simpa [scan] using h.scan_append []

theorem Spelt.unique {qs : List Piece} (h : Spelt ps cs) (h' : Spelt qs cs) : ps = qs :=
  h.scan_eq.symm.trans h'.scan_eq

/-- A brace is open behind the characters spelt from these pieces. -/
def OpenBehind (ps : List Piece) (cs : List Char) : Prop :=
  ∃ before rest, Spelt ps before ∧ '\x7d' ∉ rest ∧ cs = before ++ '\x7b' :: rest

theorem OpenBehind.scan_eq (h : OpenBehind ps cs) : scan none cs = ps ++ [.unclosed] := by
  obtain ⟨before, rest, hspelt, hrest, rfl⟩ := h
  rw [hspelt.scan_append, scan, if_pos rfl, scan_unclosed hrest]

theorem OpenBehind.letter {c : Char} (hc : c ≠ '\x7b') (h : OpenBehind ps cs) :
    OpenBehind (.letter c :: ps) (c :: cs) := by
  obtain ⟨before, rest, hspelt, hrest, rfl⟩ := h
  exact ⟨c :: before, rest, hspelt.letter hc, hrest, rfl⟩

theorem OpenBehind.slot (hname : '\x7d' ∉ name) (h : OpenBehind ps cs) :
    OpenBehind (.slot name :: ps) ('\x7b' :: (name ++ '\x7d' :: cs)) := by
  obtain ⟨before, rest, hspelt, hrest, rfl⟩ := h
  exact ⟨_, rest, hspelt.slot hname, hrest, by simp⟩

theorem exists_spelt (cs : List Char) : (∃ ps, Spelt ps cs) ∨ ∃ ps, OpenBehind ps cs := by
  -- A placeholder takes up many characters at once, so the recursion is on their number.
  match cs with
  | [] => exact .inl ⟨[], .nil⟩
  | c :: cs =>
    by_cases hc : c = '\x7b'
    · subst hc
      by_cases hclose : '\x7d' ∈ cs
      · obtain ⟨name, rest, hcs, hname⟩ := List.eq_append_cons_of_mem hclose
        have hshorter : rest.length < cs.length + 1 := by
          rw [hcs, List.length_append, List.length_cons]
          omega
        rw [hcs]
        obtain ⟨ps, h⟩ | ⟨ps, h⟩ := exists_spelt rest
        · exact .inl ⟨_, h.slot hname⟩
        · exact .inr ⟨_, h.slot hname⟩
      · exact .inr ⟨[], [], cs, .nil, hclose, rfl⟩
    · obtain ⟨ps, h⟩ | ⟨ps, h⟩ := exists_spelt cs
      · exact .inl ⟨_, h.letter hc⟩
      · exact .inr ⟨_, h.letter hc⟩
termination_by cs.length

theorem Spelt.slots_append (h : Spelt ps cs) (tail : List Piece) :
    slots (ps ++ tail) = (names ps ++ (slots tail).1, (slots tail).2) := by
  induction h with
  | nil => rfl
  | letter hc h ih =>
    rw [List.cons_append, slots, ih]
    rfl
  | slot hname h ih =>
    rw [List.cons_append, slots, ih]
    rfl

theorem Spelt.placeholders_eq (h : Spelt ps template.toList) :
    placeholders template = .ok (names ps) := by
  have hslots := h.slots_append []
  rw [List.append_nil] at hslots
  simp [placeholders, pieces, h.scan_eq, hslots, slots]

theorem OpenBehind.placeholders_eq (h : OpenBehind ps template.toList) :
    placeholders template = .error (.unclosed template) := by
  have hscan := h.scan_eq
  obtain ⟨before, rest, hspelt, -, -⟩ := h
  simp [placeholders, pieces, hscan, hspelt.slots_append, slots]

theorem Spelt.fill_of_absent (h : Spelt ps cs) (tail : List Piece) {n : String}
    (hn : firstAbsent? args (names ps) = some n) : fill args (ps ++ tail) = .error (.missing n) := by
  induction h with
  | nil => cases hn
  | letter hc h ih =>
    rw [List.cons_append, fill, ih hn]
    rfl
  | @slot name ps cs hname h ih =>
    rw [List.cons_append, fill]
    change (String.ofList name :: names ps).find? (!args.contains ·) = some n at hn
    rw [List.find?_cons, SortedMap.contains] at hn
    cases hvalue : args.get? (String.ofList name) with
    | some value =>
      rw [hvalue] at hn
      simp only [ih hn]
      rfl
    | none =>
      rw [hvalue] at hn
      cases hn
      rfl

theorem Spelt.fill_of_given (h : Spelt ps cs) (tail : List Piece) {value : String → Json}
    (hvalue : ∀ n ∈ names ps, args.get? n = some (value n)) :
    fill args (ps ++ tail) =
      (fill args tail).map (ps.flatMap (Piece.put fun n => argText (value n)) ++ ·) := by
  induction h with
  | nil => cases hfill : fill args tail <;> simp [hfill, Except.map]
  | letter hc h ih =>
    rw [List.cons_append, fill, ih hvalue]
    cases fill args tail <;> simp [Except.map, Piece.put]
  | slot hname h ih =>
    obtain ⟨hname, hrest⟩ := List.forall_mem_cons.1 hvalue
    rw [List.cons_append, fill]
    simp only [hname, ih hrest]
    cases fill args tail <;> simp [Except.map, Piece.put]

/-- Written in braces again, the names give the characters back. -/
theorem Spelt.put_braced (h : Spelt ps cs) :
    ps.flatMap (Piece.put fun n => "\x7b" ++ n ++ "\x7d") = cs := by
  induction h with
  | nil => rfl
  | letter hc h ih => simp [Piece.put, ih]
  | slot hname h ih => simp [Piece.put, ih]

theorem firstAbsent?_eq_none_iff {names : List String} :
    firstAbsent? args names = none ↔ ∀ n ∈ names, args.contains n = true := by
  simp [firstAbsent?]

theorem exists_values {names : List String} (h : firstAbsent? args names = none) :
    ∃ value : String → Json, ∀ n ∈ names, args.get? n = some (value n) := by
  refine ⟨fun n => (args.get? n).getD .null, fun n hn => ?_⟩
  have hgiven := firstAbsent?_eq_none_iff.1 h n hn
  rw [SortedMap.contains, Option.isSome_iff_exists] at hgiven
  obtain ⟨v, hv⟩ := hgiven
  simp [hv]

theorem Spelt.render_of_absent (h : Spelt ps template.toList) {n : String}
    (hn : firstAbsent? args (names ps) = some n) :
    render template args = .error (.missing template n) := by
  have hfill := h.fill_of_absent [] hn
  rw [List.append_nil] at hfill
  rw [render, pieces, h.scan_eq, hfill]
  rfl

theorem Spelt.render_of_given (h : Spelt ps template.toList) {value : String → Json}
    (hvalue : ∀ n ∈ names ps, args.get? n = some (value n)) :
    render template args =
      .ok (String.ofList (ps.flatMap (Piece.put fun n => argText (value n)))) := by
  have hfill := h.fill_of_given [] hvalue
  rw [List.append_nil] at hfill
  rw [render, pieces, h.scan_eq, hfill]
  simp [fill, Except.map]

theorem Spelt.render_isOk_iff (h : Spelt ps template.toList) :
    (∃ text, render template args = .ok text) ↔ ∀ n ∈ names ps, args.contains n = true := by
  rw [← firstAbsent?_eq_none_iff]
  cases hn : firstAbsent? args (names ps) with
  | some n => simp [h.render_of_absent hn]
  | none =>
    obtain ⟨value, hvalue⟩ := exists_values hn
    simp [h.render_of_given hvalue]

theorem Spelt.render_eq_error_iff (h : Spelt ps template.toList) {e : TemplateError} :
    render template args = .error e ↔
      ∃ n, firstAbsent? args (names ps) = some n ∧ e = .missing template n := by
  cases hn : firstAbsent? args (names ps) with
  | some n => simp [h.render_of_absent hn, eq_comm]
  | none =>
    obtain ⟨value, hvalue⟩ := exists_values hn
    simp [h.render_of_given hvalue]

theorem OpenBehind.render_eq (h : OpenBehind ps template.toList) (args : Args) :
    render template args = .error
      (match firstAbsent? args (names ps) with
        | some n => .missing template n
        | none => .unclosed template) := by
  have hscan := h.scan_eq
  obtain ⟨before, rest, hspelt, -, -⟩ := h
  rw [render, pieces, hscan]
  cases hn : firstAbsent? args (names ps) with
  | some n =>
    rw [hspelt.fill_of_absent _ hn]
    rfl
  | none =>
    obtain ⟨value, hvalue⟩ := exists_values hn
    rw [hspelt.fill_of_given _ hvalue]
    rfl

theorem spelt_of_placeholders {ns : List String} (h : placeholders template = .ok ns) :
    ∃ ps, Spelt ps template.toList ∧ ns = names ps := by
  obtain ⟨ps, hps⟩ | ⟨ps, hps⟩ := exists_spelt template.toList
  · exact ⟨ps, hps, Except.ok.inj (h.symm.trans hps.placeholders_eq)⟩
  · cases h.symm.trans hps.placeholders_eq

theorem closed_iff_spelt : Closed template ↔ ∃ ps, Spelt ps template.toList := by
  constructor
  · intro h
    obtain ⟨ps, hps, -⟩ := spelt_of_placeholders (placeholders_eq_ok_iff.2 ⟨h, rfl⟩)
    exact ⟨ps, hps⟩
  · intro h
    obtain ⟨ps, hps⟩ := h
    exact (placeholders_eq_ok_iff.1 hps.placeholders_eq).1

theorem OpenBehind.not_closed (h : OpenBehind ps template.toList) : ¬Closed template := by
  intro hclosed
  obtain ⟨qs, hqs⟩ := closed_iff_spelt.1 hclosed
  cases hqs.placeholders_eq.symm.trans h.placeholders_eq

theorem render_of_covers (hclosed : Closed template) (hcovers : Covers args template) :
    ∃ text, render template args = .ok text := by
  obtain ⟨ps, hps⟩ := closed_iff_spelt.1 hclosed
  exact hps.render_isOk_iff.2 (hcovers _ hps.placeholders_eq)

theorem render_of_not_closed (args : Args) (hopen : ¬Closed template) :
    ∃ e, render template args = .error e := by
  obtain ⟨ps, hps⟩ | ⟨ps, hps⟩ := exists_spelt template.toList
  · exact absurd (closed_iff_spelt.2 ⟨ps, hps⟩) hopen
  · exact ⟨_, hps.render_eq args⟩

/-- Only a template that leaves a brace open is reported as unclosed, and it is the one reported. -/
theorem not_closed_of_render {t : String} (h : render template args = .error (.unclosed t)) :
    t = template ∧ ¬Closed template := by
  obtain ⟨ps, hps⟩ | ⟨ps, hps⟩ := exists_spelt template.toList
  · cases hn : firstAbsent? args (names ps) with
    | some n => cases (hps.render_of_absent hn).symm.trans h
    | none =>
      obtain ⟨value, hvalue⟩ := exists_values hn
      cases (hps.render_of_given hvalue).symm.trans h
  · rw [hps.render_eq args] at h
    cases hn : firstAbsent? args (names ps) with
    | some n => simp [hn] at h
    | none =>
      rw [hn] at h
      cases h
      exact ⟨rfl, hps.not_closed⟩

/-- A template whose placeholders are all closed is rendered if each of them is given, and otherwise
the first one is reported that is not. What is rendered are the letters in their places, with the
texts of the arguments between them. Before an open brace is reported, so is an argument that is
missing ahead of it. -/
theorem rendering_agrees_with_placeholders (template : String) (args : Args) :
    (∀ ns, placeholders template = .ok ns →
      ((∃ text, render template args = .ok text) ↔ ∀ n ∈ ns, args.contains n = true) ∧
      (∀ n, firstAbsent? args ns = some n → render template args = .error (.missing template n)) ∧
      (∃ ps, Spelt ps template.toList ∧ ns = names ps ∧
        ∀ value : String → Json, (∀ n ∈ ns, args.get? n = some (value n)) →
          render template args =
            .ok (String.ofList (ps.flatMap (Piece.put fun n => argText (value n))))) ∧
      (∀ args', (∀ n ∈ ns, args.get? n = args'.get? n) →
        render template args = render template args') ∧
      ((∀ n ∈ ns, args.get? n = some (.str ("\x7b" ++ n ++ "\x7d"))) →
        render template args = .ok template)) ∧
    ∀ e, placeholders template = .error e →
      e = .unclosed template ∧
      ∃ ps before rest, template.toList = before ++ '\x7b' :: rest ∧ Spelt ps before ∧
        '\x7d' ∉ rest ∧
        render template args = .error
          (match firstAbsent? args (names ps) with
            | some n => .missing template n
            | none => .unclosed template) := by
  constructor
  · intro ns h
    obtain ⟨ps, hps, rfl⟩ := spelt_of_placeholders h
    refine ⟨hps.render_isOk_iff, fun n => hps.render_of_absent,
      ⟨ps, hps, rfl, fun value => hps.render_of_given⟩, fun args' hagree => ?_, fun hself => ?_⟩
    · obtain ⟨hclosed, hnames⟩ := placeholders_eq_ok_iff.1 h
      exact render_congr hclosed fun ns hns => by
        cases h.symm.trans hns
        exact hagree
    · rw [hps.render_of_given hself]
      simp [argText, hps.put_braced]
  · intro e h
    obtain ⟨ps, hps⟩ | ⟨ps, hps⟩ := exists_spelt template.toList
    · cases h.symm.trans hps.placeholders_eq
    · have hrender := hps.render_eq args
      obtain rfl := Except.error.inj (h.symm.trans hps.placeholders_eq)
      obtain ⟨before, rest, hspelt, hrest, htemplate⟩ := hps
      exact ⟨rfl, ps, before, rest, htemplate, hspelt, hrest, hrender⟩

/-- An argument that looks like a placeholder is not filled in its turn. -/
example :
    render "/\x7bstreet\x7d/\x7bnumber\x7d"
      (SortedMap.ofPairs [("street", .str "\x7bnumber\x7d"), ("number", .ofNat 7)]) =
      .ok "/\x7bnumber\x7d/7" := by cbv

end Wayfinder.Template
