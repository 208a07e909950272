import Wayfinder.Proofs.Route.Likeness
import Wayfinder.Proofs.Spec.Ran
import Wayfinder.Sample.Yard

/-! What one spec can leave behind for the next. Specs are run with one navigator, which remembers
the page displayed last; loading a start URL does not make it forget. That page is all by which an
earlier spec can tell on a later one, and a spec that begins by opening something does not read it.
-/
namespace Wayfinder
variable {ρ σ α β : Type}

namespace Nav.Alike
variable {S : Memory ρ → Memory ρ → Prop}

theorem lift (d : Dialogue α) : Alike S Eq (liftM d : Nav ρ α) (liftM d) := by
  intro m m' hm
  rw [run_lift, run_lift]
  refine (Script.Alike.refl (fun _ => rfl) d).bind ?_
  rintro a _ rfl
  exact .done ⟨.ok rfl, hm⟩

theorem browse (a : Attempt Fault α) : Alike S Eq (browse a : Nav ρ α) (browse a) := by
  intro m m' hm
  refine (Script.Alike.refl (fun _ => rfl) (a.adapt RouteError.browser).run).bind ?_
  rintro r _ rfl
  exact .done ⟨.refl (fun _ => rfl) r, hm⟩

theorem map {t t' : Nav ρ α} (h : Alike S Eq t t') (f : α → β) :
    Alike S Eq (f <$> t) (f <$> t') := by
  rw [← bind_pure_comp, ← bind_pure_comp]
  refine .bind h ?_
  rintro a _ rfl
  exact .pure rfl

theorem mapM {f : α → Nav ρ β} (h : ∀ a, Alike S Eq (f a) (f a)) (as : List α) :
    Alike S Eq (as.mapM f) (as.mapM f) := by
  induction as with
  | nil => exact .pure rfl
  | cons a as ih =>
    rw [List.mapM_cons]
    refine .bind (h a) ?_
    rintro b _ rfl
    refine .bind ih ?_
    rintro bs _ rfl
    exact .pure rfl

/-- Led with the same browser, courses that are alike come to the same. -/
theorem led {t t' : Nav ρ α} (h : Alike S Eq t t') {m m' : Memory ρ} (hm : S m m') (b : Browser σ)
    (s : σ) :
    ∃ r n n' calls s', Nav.led b m s t = ⟨r, n, calls, s'⟩ ∧
      Nav.led b m' s t' = ⟨r, n', calls, s'⟩ ∧ S n n' := by
  obtain ⟨⟨hresult, hmemory⟩, hstate, hcalls⟩ := (h m m' hm).run b.answer s
  refine ⟨_, _, _, _, _, rfl, ?_, hmemory⟩
  simp only [Nav.led, Dialogue.run, hresult.eq, hstate, hcalls]

end Nav.Alike

variable [PageFamily ρ]

/-- The pages remembered are rebuilt as the same one. -/
def Memory.Resembles (m m' : Memory ρ) : Prop := m.Alike False (fun _ => True) m'

theorem Memory.resembles_iff {m m' : Memory ρ} :
    m.Resembles m' ↔ Deed.rebuild m.lastDisplayed = Deed.rebuild m'.lastDisplayed :=
  ⟨fun h => h.shown, fun h => ⟨nofun, h, fun _ _ => trivial⟩⟩

theorem Interchangeable.refl (args : Args) :
    Interchangeable (fun _ : ρ => True) (fun _ => True) args args where
  build _ _ := rfl
  cls _ _ _ _ := trivial
  page _ _ _ _ := trivial
  prerequisite _ _ _ _ _ _ := trivial
  dispatch _ _ _ _ := rfl
  notes _ _ _ := trivial

structure Memory.Steady (S : Memory ρ → Memory ρ → Prop) : Prop where
  next : ∀ {m m'}, S m m' → S m.next m'.next
  log : ∀ {m m'}, S m m' → ∀ event, S (m.log event) (m'.log event)
  forget : ∀ {m m'}, S m m' → S m.forget m'.forget
  remember : ∀ {m m'}, S m m' → ∀ c args, S (m.remember c args) (m'.remember c args)

theorem Memory.steady_resembles : Steady (Resembles (ρ := ρ)) where
  next h := Alike.next h
  log h := Alike.log h
  forget h := Alike.forget h
  remember h _ args := Alike.remember h (Interchangeable.refl args) trivial

omit [PageFamily ρ] in
theorem Memory.steady_any : Steady fun _ _ : Memory ρ => True :=
  ⟨fun _ => trivial, fun _ _ => trivial, fun _ => trivial, fun _ _ _ => trivial⟩

theorem Navigator.opening_alike {S : Memory ρ → Memory ρ → Prop} (hS : Memory.Steady S)
    (nav : Navigator) (c : Option ρ) (url : Option String) (args : Args) :
    Trip.Alike nav S Eq (opening c url args) (opening c url args) := by
  have harrive (c : ρ) (p : Page ρ) : Trip.Alike nav S Eq
      (do
        let notes ← Trip.perform (.arrive p)
        Trip.change (·.log fun n => .opened n (PageFamily.name c) url)
        Trip.change (·.remember c args)
        return some { p with notes })
      (do
        let notes ← Trip.perform (.arrive p)
        Trip.change (·.log fun n => .opened n (PageFamily.name c) url)
        Trip.change (·.remember c args)
        return some { p with notes }) := by
    refine .bind (.perform_same (.arrive p)) ?_
    rintro ns _ rfl
    refine .bind (.change fun _ _ hm => hS.log hm _) fun _ _ _ => ?_
    exact .bind (.change fun _ _ hm => hS.remember hm c args) fun _ _ _ => .pure rfl
  unfold opening
  cases url with
  | none =>
    cases c with
    | none => exact .bind (.throw (R := fun _ _ => False) _) fun _ _ h => h.elim
    | some c =>
      refine .bind (.change fun _ _ => hS.next) fun _ _ _ => ?_
      refine .bind (.orThrow _) ?_
      rintro p _ ⟨rfl, -⟩
      exact .bind (.perform_same (.loadPage p)) fun _ _ _ => harrive c p
  | some url =>
    cases c with
    | none =>
      refine .bind (.change fun _ _ => hS.next) fun _ _ _ => ?_
      refine .bind (.perform_same (.load url)) fun _ _ _ => ?_
      refine .bind (.change fun _ _ => hS.forget) fun _ _ _ => ?_
      exact .bind (.change fun _ _ hm => hS.log hm _) fun _ _ _ => .pure rfl
    | some c =>
      refine .bind (.change fun _ _ => hS.next) fun _ _ _ => ?_
      refine .bind (.perform_same (.load url)) fun _ _ _ => ?_
      refine .bind (.orThrow _) ?_
      rintro p _ ⟨rfl, -⟩
      exact harrive c p

theorem Opened.shown {args : Args} {m m' : Memory ρ} {c : Option ρ} {url : Option String}
    {hs : List (Done ρ)} {p : Option (Page ρ)} (h : Opened args m c url hs (.ok p) m') :
    m'.lastDisplayed = c.map (·, args) := by
  cases h <;> rfl

theorem Navigator.shown_of_openPage {nav : Navigator} {b : Browser σ} {c : Option ρ}
    {url : Option String} {args : Args} {m : Memory ρ} {s : σ} {p : Option (Page ρ)}
    (h : (Nav.led b m s (nav.openPage c url args)).result = .ok p) :
    (Nav.led b m s (nav.openPage c url args)).memory.lastDisplayed = c.map (·, args) := by
  have hplay := Trip.made_play nav b m s (opening c url args)
  have haccount := opened_opening nav b c url args m s
  simp only [openPage, Nav.led, hplay] at h ⊢
  dsimp only at haccount
  rw [h] at haccount
  exact haccount.shown

namespace SpecStep
variable (nav : Navigator) (catalog : Catalog ρ)

theorem openPage_alike {S : Memory ρ → Memory ρ → Prop} (hS : Memory.Steady S)
    (page url : Option String) (args : Args) (p : Progress) :
    Nav.Alike S Eq ((SpecStep.openPage page url args).run nav catalog p)
      ((SpecStep.openPage page url args).run nav catalog p) := by
  have hresolve : Nav.Alike S Eq (page.mapM fun name => Nav.orThrow (catalog.resolve name))
      (page.mapM fun name => Nav.orThrow (catalog.resolve name)) := by
    cases page with
    | none => exact .pure rfl
    | some name =>
      rw [Option.mapM_some]
      refine .map ?_ _
      cases catalog.resolve name with
      | ok c => exact .pure rfl
      | error e => exact .throw e
  refine .bind hresolve ?_
  rintro c _ rfl
  refine .bind (Navigator.opening_alike hS nav c url args) ?_
  rintro opened _ rfl
  cases opened <;> exact .pure rfl

theorem run_alike (step : SpecStep) (p : Progress) :
    Nav.Alike Memory.Resembles Eq (step.run nav catalog p) (step.run nav catalog p) := by
  cases step with
  | openPage page url args =>
    exact openPage_alike nav catalog Memory.steady_resembles page url args p
  | navigate page args =>
    have hreach : Nav.Alike Memory.Resembles Eq (nav.navigateTo catalog page args)
        (nav.navigateTo catalog page args) := by
      refine .bind (.orThrow _) ?_
      rintro c _ ⟨rfl, -⟩
      exact (Interchangeable.refl args).navigation_alike nav trivial
    refine .bind hreach ?_
    rintro q _ rfl
    exact .pure rfl
  | click | fill =>
    refine .bind (.browse _) ?_
    rintro _ _ rfl
    exact .pure rfl
  | check as => exact .map (.mapM (fun a => .lift _) as) _

/-- What is remembered after a page or a URL has been opened is what was opened. -/
theorem shown_of_openPage (b : Browser σ) {m : Memory ρ} {s : σ} {page url : Option String}
    {args : Args} {p q : Progress}
    (h : (Nav.led b m s ((SpecStep.openPage page url args).run nav catalog p)).result = .ok q) :
    ∃ c, page.mapM catalog.resolve = .ok c ∧
      (Nav.led b m s ((SpecStep.openPage page url args).run nav catalog p)).memory.lastDisplayed =
        c.map (·, args) := by
  rw [run, Nav.led_bind] at h ⊢
  obtain ⟨c, hc, h⟩ := Led.exists_of_andThen h
  rw [Led.memory_of_andThen hc, Nav.led_bind]
  rw [Nav.led_bind] at h
  obtain ⟨opened, hopened, -⟩ := Led.exists_of_andThen h
  rw [Led.memory_of_andThen hopened]
  have hshown := Navigator.shown_of_openPage hopened
  refine ⟨c, ?_, ?_⟩
  · cases page with
    | none =>
      cases hc
      rfl
    | some name =>
      rw [Option.mapM_some, Nav.led_map, Nav.led_orThrow] at hc
      rw [Option.mapM_some]
      exact hc
  · cases opened <;> exact hshown

end SpecStep

/-- Two runs that differ at most in how they leave the memory. -/
structure Ran.Same (S : Memory ρ → Memory ρ → Prop) (o o' : Ran ρ σ α) : Prop where
  outcome : o.outcome = o'.outcome
  calls : o.calls = o'.calls
  state : o.state = o'.state
  memory : S o.memory o'.memory

namespace Spec
variable (nav : Navigator) (catalog : Catalog ρ) (b : Browser σ)

/-- The induction is on the steps; each leads from memories that resemble each other to such. -/
theorem runSteps_same (steps : List SpecStep) (i : Nat) (p : Progress) {m m' : Memory ρ}
    (hm : m.Resembles m') (s : σ) :
    (Ran.of b m s (runSteps nav catalog i p steps)).Same Memory.Resembles
      (Ran.of b m' s (runSteps nav catalog i p steps)) := by
  induction steps generalizing i p m m' s with
  | nil => exact ⟨rfl, rfl, rfl, hm⟩
  | cons step rest ih =>
    obtain ⟨r, n, n', calls, s', hled, hled', hn⟩ := (step.run_alike nav catalog _).led hm b s
    cases r with
    | ok q =>
      rw [ran_of_ok nav catalog b rest hled, ran_of_ok nav catalog b rest hled']
      obtain ⟨houtcome, hcalls, hstate, hmemory⟩ := ih (i + 1) q hn s'
      exact ⟨houtcome, congrArg (calls ++ ·) hcalls, hstate, hmemory⟩
    | error e =>
      rw [ran_of_error nav catalog b rest hled, ran_of_error nav catalog b rest hled']
      exact ⟨rfl, rfl, rfl, hn⟩

def OpensFirst (spec : Spec) : Prop :=
  ∃ page url args rest, spec.steps = .openPage page url args :: rest

/-- Whatever was remembered before, after an opening it is the same; and when that fails the run is
over. -/
theorem runSteps_same_of_open (page url : Option String) (args : Args) (rest : List SpecStep)
    (m m' : Memory ρ) (s : σ) :
    (Ran.of b m s (runSteps nav catalog 0 {} (.openPage page url args :: rest))).Same
      (fun _ _ => True)
      (Ran.of b m' s (runSteps nav catalog 0 {} (.openPage page url args :: rest))) := by
  have hopen := SpecStep.openPage_alike nav catalog Memory.steady_any page url args {}
  have hany : (fun _ _ : Memory ρ => True) m m' := trivial
  obtain ⟨r, n, n', calls, s', hled, hled', -⟩ := hopen.led hany b s
  cases r with
  | ok q =>
    obtain ⟨c, hc, hn⟩ := SpecStep.shown_of_openPage nav catalog b (by rw [hled])
    obtain ⟨c', hc', hn'⟩ := SpecStep.shown_of_openPage nav catalog b (by rw [hled'])
    rw [hled] at hn
    rw [hled'] at hn'
    cases hc.symm.trans hc'
    have hresembles : n.Resembles n' := Memory.resembles_iff.2 (by rw [hn, hn'])
    obtain ⟨houtcome, hcalls, hstate, -⟩ := runSteps_same nav catalog b rest 1 q hresembles s'
    rw [ran_of_ok nav catalog b rest hled, ran_of_ok nav catalog b rest hled']
    exact ⟨houtcome, congrArg (calls ++ ·) hcalls, hstate, trivial⟩
  | error e =>
    rw [ran_of_error nav catalog b rest hled, ran_of_error nav catalog b rest hled']
    exact ⟨rfl, rfl, rfl, trivial⟩

/-- A spec is as good as its steps: the start URL is loaded past the memory. -/
theorem run_same {spec : Spec} {m m' : Memory ρ} {S : Memory ρ → Memory ρ → Prop} (hm : S m m')
    (hsteps : ∀ s, (Ran.of b m s (runSteps nav catalog 0 {} spec.steps)).Same S
      (Ran.of b m' s (runSteps nav catalog 0 {} spec.steps))) (s : σ) :
    (Ran.of b m s (spec.run nav catalog)).Same S (Ran.of b m' s (spec.run nav catalog)) := by
  cases hload : spec.start b s with
  | mk r s₀ =>
    cases r with
    | error e =>
      rw [ran_of_start_error nav catalog b hload, ran_of_start_error nav catalog b hload]
      exact ⟨rfl, rfl, rfl, hm⟩
    | ok _ =>
      obtain ⟨houtcome, hcalls, hstate, hmemory⟩ := hsteps s₀
      rw [ran_of_start_ok nav catalog b hload, ran_of_start_ok nav catalog b hload]
      simp only [houtcome, hcalls, hstate]
      exact ⟨rfl, rfl, rfl, hmemory⟩

end Spec

/-- How far a spec is isolated from those before it. It gives the same result, makes the same calls
and leaves the browser in the same state with any two memories of pages that are rebuilt alike; and
with any two memories at all when its first step opens a page or a URL. -/
theorem spec_depends_on_page_shown (nav : Navigator) (catalog : Catalog ρ) (b : Browser σ)
    (spec : Spec) (m m' : Memory ρ) (s : σ)
    (h : Deed.rebuild m.lastDisplayed = Deed.rebuild m'.lastDisplayed ∨ spec.OpensFirst) :
    (Ran.of b m s (spec.run nav catalog)).Same (fun _ _ => True)
      (Ran.of b m' s (spec.run nav catalog)) := by
  obtain h | ⟨page, url, args, rest, hsteps⟩ := h
  · have hm : m.Resembles m' := Memory.resembles_iff.2 h
    obtain ⟨houtcome, hcalls, hstate, -⟩ := Spec.run_same nav catalog b hm
      (fun s => Spec.runSteps_same nav catalog b spec.steps 0 {} hm s) s
    exact ⟨houtcome, hcalls, hstate, trivial⟩
  · have hany : (fun _ _ : Memory ρ => True) m m' := trivial
    refine Spec.run_same nav catalog b hany (fun s => ?_) s
    rw [hsteps]
    exact Spec.runSteps_same_of_open nav catalog b page url args rest m m' s

namespace Yard

def stand : Spec where
  name := "Stand at the gate"
  steps := [.openPage (some "Gate") (some "https://yard.test/gate/west") west]

def enter : Spec where
  name := "Enter the garden"
  startUrl := some "https://yard.test/gate/west"
  steps := [.navigate "Garden" key]

end Yard

theorem standing_is_isolated :
    Yard.stand.OpensFirst ∧
    (Ran.of House.lamp {} "#gate" (Yard.stand.run {} Yard.site.catalog)).Same (fun _ _ => True)
      (Ran.of House.lamp { lastDisplayed := some (⟨Yard.site, Yard.gate⟩, Yard.west) } "#gate"
        (Yard.stand.run {} Yard.site.catalog)) := by
  have hopens : Yard.stand.OpensFirst := ⟨_, _, _, _, rfl⟩
  exact ⟨hopens, spec_depends_on_page_shown {} Yard.site.catalog House.lamp Yard.stand {} _ "#gate"
    (.inr hopens)⟩

/-- A start URL does not isolate a spec. The garden is not entered with a new navigator, but it is
with one that has been at the gate, although the browser is in the same state. -/
theorem entering_is_not_isolated :
    let fresh := Ran.of House.lamp {} "#gate" (Yard.enter.run {} Yard.site.catalog)
    let earlier := Ran.of House.lamp {} "#gate" (Spec.runAll {} Yard.site.catalog [Yard.stand])
    let later := Ran.of House.lamp earlier.memory earlier.state (Yard.enter.run {} Yard.site.catalog)
    Yard.site.validate = .ok () ∧ Yard.enter.startUrl.isSome = true ∧ earlier.state = "#gate" ∧
      fresh.outcome.passed = false ∧ later.outcome.passed = true := by
  intro fresh earlier later
  exact ⟨Yard.validate_site, rfl, by decide +kernel, by decide +kernel, by decide +kernel⟩

end Wayfinder
