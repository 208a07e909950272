import Wayfinder.Page.Template

/-! Which templates are well formed, and which arguments they read: a template is well formed when
the braces that it opens are closed, and reads the arguments of its placeholders and no others. -/
namespace Wayfinder.Template

/-- Behind every brace that opens comes one that closes. A brace that opens within the name of a
placeholder is no placeholder of its own; what closes the placeholder comes behind both. -/
def BracesClosed (cs : List Char) : Prop :=
  ∀ before after, cs = before ++ '\x7b' :: after → '\x7d' ∈ after

def Closed (template : String) : Prop := BracesClosed template.toList

theorem bracesClosed_nil : BracesClosed [] := by
  intro before after h
  simp at h

theorem bracesClosed_cons (c : Char) (cs : List Char) :
    BracesClosed (c :: cs) ↔ (c = '\x7b' → '\x7d' ∈ cs) ∧ BracesClosed cs := by
  constructor
  · intro h
    refine ⟨fun hc => h [] cs (by rw [hc]; rfl), fun before after hcs => ?_⟩
    exact h (c :: before) after (by rw [hcs]; rfl)
  · rintro ⟨hhead, htail⟩ before after h
    cases before with
    | nil =>
      obtain ⟨hc, hcs⟩ := List.cons_eq_cons.1 h
      exact hcs ▸ hhead hc
    | cons a before => exact htail before after (List.cons_eq_cons.1 h).2

/-- Outside of a placeholder every brace has to be closed, inside one also the brace that opened
it. -/
theorem slots_scan (cs : List Char) :
    ((slots (scan none cs)).2 = true ↔ BracesClosed cs) ∧
    ∀ name, (slots (scan (some name) cs)).2 = true ↔ '\x7d' ∈ cs ∧ BracesClosed cs := by
  induction cs with
  | nil => simp [scan, slots, bracesClosed_nil]
  | cons c cs ih =>
    obtain ⟨houtside, hinside⟩ := ih
    constructor
    · by_cases hc : c = '\x7b'
      · simp [scan, hc, hinside, bracesClosed_cons]
      · simp [scan, slots, hc, houtside, bracesClosed_cons]
    · intro name
      by_cases hc : c = '\x7d'
      · simp [scan, slots, hc, houtside, bracesClosed_cons]
      · simp only [scan, hc, if_false, hinside, bracesClosed_cons, List.mem_cons, Ne.symm hc,
          false_or]
        exact ⟨fun h => ⟨h.1, fun _ => h.1, h.2⟩, fun h => ⟨h.1, h.2.2⟩⟩

theorem slots_pieces_iff (template : String) :
    (slots (pieces template)).2 = true ↔ Closed template := (slots_scan template.toList).1

theorem placeholders_of_not_closed {template : String} (h : ¬Closed template) :
    placeholders template = .error (.unclosed template) := by
  rw [← slots_pieces_iff] at h
  rw [placeholders]
  split <;> simp_all

theorem placeholders_eq_ok_iff {template : String} {names : List String} :
    placeholders template = .ok names ↔ Closed template ∧ (slots (pieces template)).1 = names := by
  rw [← slots_pieces_iff, placeholders]
  split <;> simp_all

def Covers (args : Args) (template : String) : Prop :=
  ∀ names, placeholders template = .ok names → ∀ name ∈ names, args.contains name = true

variable {args args' : Args} {ps : List Piece} {template : String}

/-- Filling stops where the slots do, so no argument behind an unclosed brace is read. -/
theorem fill_congr (h : ∀ name ∈ (slots ps).1, args.get? name = args'.get? name) :
    fill args ps = fill args' ps := by
  induction ps with
  | nil => rfl
  | cons p ps ih =>
    cases p with
    | letter c => simp only [fill, ih h]
    | slot name =>
      obtain ⟨hname, hrest⟩ := List.forall_mem_cons.1 h
      simp only [fill, hname, ih hrest]
    | unclosed => rfl

def Agrees (args args' : Args) (template : String) : Prop :=
  ∀ names, placeholders template = .ok names → ∀ name ∈ names, args.get? name = args'.get? name

theorem render_congr (hclosed : Closed template) (h : Agrees args args' template) :
    render template args = render template args' := by
  have hnames := h _ (placeholders_eq_ok_iff.2 ⟨hclosed, rfl⟩)
  rw [render, render, fill_congr hnames]

end Wayfinder.Template
