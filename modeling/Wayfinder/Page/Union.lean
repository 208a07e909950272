import Wayfinder.Page.Basic

/-! Two families of page classes taken together. The pages of either keep their names, prerequisites
and steps; only the handles are those of the union. -/
namespace Wayfinder
variable {ρ σ : Type}

def Destination.map (f : ρ → σ) : Destination ρ → Destination σ
  | .page c => .page (f c)
  | .named name => .named name
  | .href => .href

def Step.map (f : ρ → σ) (s : Step ρ) : Step σ :=
  ⟨s.owner, s.name, s.destination.map f, s.params, s.action⟩

/-- Adds the steps of another table, owned as they were there. -/
def Steps.addMapped (t : Steps σ) (f : ρ → σ) (other : Steps ρ) : Steps σ :=
  { t with list := t.list ++ other.list.map (Step.map f) }

def Page.map (f : ρ → σ) (p : Page ρ) : Page σ :=
  { cls := f p.cls
    path := p.path
    prerequisite := p.prerequisite.map f
    isDisplayed := p.isDisplayed
    declareSteps := fun t => t.addMapped f (p.declareSteps (.empty t.owner))
    notes := p.notes
    arrive := p.arrive }

theorem Page.name_map [PageFamily ρ] [PageFamily σ] (f : ρ → σ)
    (hf : ∀ c : ρ, PageFamily.key (f c) = PageFamily.key c) (p : Page ρ) :
    (p.map f).name = p.name := by
  simp [Page.name, PageFamily.name, Page.map, hf]

theorem Page.steps_map [PageFamily ρ] [PageFamily σ] (f : ρ → σ)
    (hf : ∀ c : ρ, PageFamily.key (f c) = PageFamily.key c) (p : Page ρ) :
    (p.map f).steps.list = p.steps.list.map (Step.map f) := by
  rw [Page.steps, Page.name_map f hf p]
  simp [Page.steps, Page.map, Steps.addMapped, Steps.empty]

instance [PageFamily ρ] [PageFamily σ] : PageFamily (ρ ⊕ σ) where
  key
    | .inl c => PageFamily.key c
    | .inr c => PageFamily.key c
  build
    | .inl c, args => (PageFamily.build c args).map (Page.map .inl)
    | .inr c, args => (PageFamily.build c args).map (Page.map .inr)

theorem exists_of_map_eq_ok {ε α β : Type} {f : α → β} {e : Except ε α} {b : β}
    (h : e.map f = .ok b) : ∃ a, e = .ok a ∧ f a = b := by
  cases e with
  | ok a => exact ⟨a, rfl, by simpa [Except.map] using h⟩
  | error _ => simp [Except.map] at h

theorem eq_error_of_map {ε α β : Type} {f : α → β} {e : Except ε α} {err : ε}
    (h : e.map f = .error err) : e = .error err := by
  cases e with
  | ok a => simp [Except.map] at h
  | error _ => simpa [Except.map] using h

instance [PageFamily ρ] [PageFamily σ] [LawfulPageFamily ρ] [LawfulPageFamily σ] :
    LawfulPageFamily (ρ ⊕ σ) where
  key_build {c args p} h := by
    cases c with
    | inl c =>
      obtain ⟨q, hq, rfl⟩ := exists_of_map_eq_ok h
      exact LawfulPageFamily.key_build (ρ := ρ) hq
    | inr c =>
      obtain ⟨q, hq, rfl⟩ := exists_of_map_eq_ok h
      exact LawfulPageFamily.key_build (ρ := σ) hq

end Wayfinder
