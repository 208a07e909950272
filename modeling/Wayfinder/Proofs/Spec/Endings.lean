import Wayfinder.Proofs.Route.Likeness
import Wayfinder.Proofs.Spec.Ran

/-! How a course can end. A course keeps its bounds when, whatever the browser, it leaves a memory
of certain classes behind and comes to a certain kind of result or to a certain kind of error. One
rule belongs to each way of putting courses together; from what building a page and stepping from it
may come to, a navigation then gets its bounds, and from those of its steps the run of a spec. -/
namespace Wayfinder
variable {ρ σ α β ε ε' : Type}

inductive EndsIn (R : α → Prop) (P : ε → Prop) : Except ε α → Prop
  | ok {a} (h : R a) : EndsIn R P (.ok a)
  | error {e} (h : P e) : EndsIn R P (.error e)

namespace EndsIn
variable {R : α → Prop} {P : ε → Prop} {r : Except ε α}

theorem of_error {e : ε} (h : EndsIn R P (.error e : Except ε α)) : P e := by
  cases h with
  | error h => exact h

theorem mono {P' : ε → Prop} (h : EndsIn R P r) (hP : ∀ e, P e → P' e) : EndsIn R P' r := by
  cases h with
  | ok h => exact .ok h
  | error h => exact .error (hP _ h)

theorem map {Q : β → Prop} {f : α → β} (h : EndsIn R P r) (hf : ∀ a, R a → Q (f a)) :
    EndsIn Q P (r.map f) := by
  cases h with
  | ok h => exact .ok (hf _ h)
  | error h => exact .error h

theorem bind {Q : β → Prop} {f : α → Except ε β} (h : EndsIn R P r)
    (hf : ∀ a, R a → EndsIn Q P (f a)) : EndsIn Q P (r >>= f) := by
  cases h with
  | ok h => exact hf _ h
  | error h => exact .error h

theorem mapError {P : ε' → Prop} {f : ε → ε'} (h : EndsIn R (fun e => P (f e)) r) :
    EndsIn R P (r.mapError f) := by
  cases h with
  | ok h => exact .ok h
  | error h => exact .error h

end EndsIn

def Attempt.FailsIn (P : ε → Prop) (a : Attempt ε α) : Prop :=
  ∀ (σ : Type) (b : Browser σ) (s : σ), EndsIn (fun _ => True) P (Dialogue.run b a.run s).1

namespace Attempt.FailsIn
variable {P : ε → Prop} {a : Attempt ε α}

theorem pure (x : α) : FailsIn P (pure x : Attempt ε α) := fun _ _ _ => .ok trivial

theorem throw {e : ε} (h : P e) : FailsIn P (throw e : Attempt ε α) := fun _ _ _ => .error h

theorem bind {f : α → Attempt ε β} (ha : FailsIn P a) (hf : ∀ x, FailsIn P (f x)) :
    FailsIn P (a >>= f) := by
  intro σ b s
  have hfirst := ha σ b s
  rw [Dialogue.run_bind]
  cases hrun : Dialogue.run b a.run s with
  | mk r s' =>
    rw [hrun] at hfirst
    cases hfirst with
    | ok _ => exact hf _ σ b s'
    | error h => exact .error h

theorem mono {P' : ε → Prop} (ha : FailsIn P a) (h : ∀ e, P e → P' e) : FailsIn P' a :=
  fun σ b s => (ha σ b s).mono h

theorem map {f : α → β} (ha : FailsIn P a) : FailsIn P (f <$> a) := by
  rw [← bind_pure_comp]
  exact ha.bind fun x => .pure (f x)

theorem adapt {P : ε' → Prop} {f : ε → ε'} (ha : FailsIn (fun e => P (f e)) a) :
    FailsIn P (a.adapt f) := by
  intro σ b s
  rw [Dialogue.run_adapt]
  exact (ha σ b s).mapError

theorem of_forall (h : ∀ e, P e) (a : Attempt ε α) : FailsIn P a := by
  intro σ b s
  cases (Dialogue.run b a.run s).1 with
  | ok x => exact .ok trivial
  | error e => exact .error (h e)

end Attempt.FailsIn

def Memory.Within (K : ρ → Prop) (m : Memory ρ) : Prop :=
  ∀ c args, m.lastDisplayed = some (c, args) → K c

namespace Memory.Within
variable {K : ρ → Prop} {m : Memory ρ}

theorem of_none (h : m.lastDisplayed = none) : m.Within K := by
  simp [Within, h]

theorem log (h : m.Within K) (event : Nat → Event) : (m.log event).Within K := h

theorem remember {c : ρ} (hc : K c) (m : Memory ρ) (args : Args) :
    (m.remember c args).Within K := by
  rintro _ _ ⟨⟩
  exact hc

theorem forget (m : Memory ρ) : m.forget.Within K := of_none rfl

end Memory.Within

namespace Nav

/-- From a memory within `K` the course leaves one within `K`; it gives what is of `R` and fails
only with errors of `P`. -/
def Keeps (K : ρ → Prop) (P : RouteError → Prop) (R : α → Prop) (t : Nav ρ α) : Prop :=
  ∀ (σ : Type) (b : Browser σ) (m : Memory ρ) (s : σ), m.Within K →
    (led b m s t).memory.Within K ∧ EndsIn R P (led b m s t).result

namespace Keeps
variable {K : ρ → Prop} {P : RouteError → Prop} {R : α → Prop} {R' : β → Prop}

theorem pure {a : α} (h : R a) : Keeps K P R (pure a) := fun _ _ _ _ hm => ⟨hm, .ok h⟩

theorem throw {e : RouteError} (h : P e) : Keeps K P R (throw e : Nav ρ α) :=
  fun _ _ _ _ hm => ⟨hm, .error h⟩

theorem orThrow {r : Except RouteError α} (h : EndsIn R P r) :
    Keeps K P R (orThrow r : Nav ρ α) := by
  cases h with
  | ok h => exact .pure h
  | error h => exact .throw h

theorem bind {t : Nav ρ α} {f : α → Nav ρ β} (ht : Keeps K P R t)
    (hf : ∀ a, R a → Keeps K P R' (f a)) : Keeps K P R' (t >>= f) := by
  intro σ b m s hm
  obtain ⟨hmemory, hresult⟩ := ht σ b m s hm
  rw [led_bind]
  cases hled : led b m s t with
  | mk r m' calls s' =>
    rw [hled] at hmemory hresult
    cases hresult with
    | ok h => exact hf _ h σ b m' s' hmemory
    | error h => exact ⟨hmemory, .error h⟩

theorem map {t : Nav ρ α} {f : α → β} (ht : Keeps K P R t) (hf : ∀ a, R a → R' (f a)) :
    Keeps K P R' (f <$> t) := by
  rw [← bind_pure_comp]
  exact ht.bind fun a ha => .pure (hf a ha)

theorem mapM {f : α → Nav ρ β} (hf : ∀ a, Keeps K P (fun _ => True) (f a)) (as : List α) :
    Keeps K P (fun _ => True) (as.mapM f) := by
  induction as with
  | nil => exact .pure trivial
  | cons a as ih =>
    rw [List.mapM_cons]
    exact (hf a).bind fun _ _ => ih.bind fun _ _ => .pure trivial

theorem lift (d : Dialogue α) : Keeps K P (fun _ => True) (liftM d : Nav ρ α) := by
  intro σ b m s hm
  rw [led_lift]
  exact ⟨hm, .ok trivial⟩

theorem browse (h : ∀ e, P (.browser e)) (a : Attempt Fault α) :
    Keeps K P (fun _ => True) (browse a : Nav ρ α) := by
  intro σ b m s hm
  have hfails : (a.adapt RouteError.browser).FailsIn P := .adapt (.of_forall h a)
  have hrun : Dialogue.run b ((Nav.browse a : Nav ρ α).run.run m) s =
      (((Dialogue.run b (a.adapt RouteError.browser).run s).1, m),
        (Dialogue.run b (a.adapt RouteError.browser).run s).2) :=
    Script.run_bind b.answer (a.adapt RouteError.browser).run (fun r => .done (r, m)) s
  rw [led, hrun]
  exact ⟨hm, hfails σ b s⟩

end Keeps
end Nav

variable [PageFamily ρ]

def Trip.Keeps (nav : Navigator) (K : ρ → Prop) (P : RouteError → Prop) (R : α → Prop)
    (t : Trip ρ α) : Prop := Nav.Keeps K P R (t.play nav)

namespace Trip.Keeps
variable {nav : Navigator} {K : ρ → Prop} {P : RouteError → Prop} {R : α → Prop} {R' : β → Prop}

theorem pure {a : α} (h : R a) : Keeps nav K P R (pure a) := Nav.Keeps.pure h

theorem throw {e : RouteError} (h : P e) : Keeps nav K P R (throw e : Trip ρ α) :=
  Nav.Keeps.throw h

theorem bind {t : Trip ρ α} {f : α → Trip ρ β} (ht : Keeps nav K P R t)
    (hf : ∀ a, R a → Keeps nav K P R' (f a)) : Keeps nav K P R' (t >>= f) := by
  rw [Keeps, play_bind]
  exact Nav.Keeps.bind ht hf

theorem orThrow {r : Except RouteError α} (h : EndsIn R P r) : Keeps nav K P R (orThrow r) := by
  cases h with
  | ok h => exact .pure h
  | error h => exact .throw h

theorem change {f : Memory ρ → Memory ρ} (h : ∀ m, m.Within K → (f m).Within K) :
    Keeps nav K P (fun _ => True) (change f) :=
  fun _ _ m _ hm => ⟨h m hm, .ok trivial⟩

theorem lastDisplayed :
    Keeps nav K P (fun d => ∀ c args, d = some (c, args) → K c) lastDisplayed :=
  fun _ _ _ _ hm => ⟨hm, .ok hm⟩

theorem perform {d : Deed ρ} {R : d.Reply → Prop}
    (h : ∀ (σ : Type) (b : Browser σ) (s : σ), EndsIn R P (d.carryOut nav b s).1) :
    Keeps nav K P R (perform d) := by
  intro σ b m s hm
  rw [Nav.led, made_play, made_perform]
  exact ⟨hm, h σ b s⟩

end Trip.Keeps

/-- Classes and pages among which a navigation stays once it is there, and the errors with which
alone it fails on its way. -/
structure Confined (nav : Navigator) (K : ρ → Prop) (H : Page ρ → Prop) (P : RouteError → Prop) :
    Prop where
  build : ∀ c args, K c → EndsIn H P (PageFamily.build c args)
  cls : ∀ p, H p → K p.cls
  prerequisite : ∀ p d, H p → p.prerequisite = some d → K d
  notes : ∀ p ns, H p → H { p with notes := ns }
  dispatch : ∀ p dest args, H p → (p.steps.dispatch nav.rules dest args).FailsIn P
  arrive : ∀ p, H p → p.arrive.FailsIn P
  browser : ∀ e, P (.browser e)
  circle : ∀ names, P (.prerequisiteCycle names)
  tooDeep : ∀ limit names, P (.backtraceTooDeep limit names)
  stepNotFound : ∀ current dest possibilities, P (.stepNotFound current dest possibilities)
  nothingToOpen : P .nothingToOpen

namespace Confined
variable {nav : Navigator} {K : ρ → Prop} {H : Page ρ → Prop} {P : RouteError → Prop} {args : Args}
  (hc : Confined nav K H P)
include hc

theorem browser_attempt (a : Attempt Fault α) : (a.adapt .browser).FailsIn P :=
  .adapt (.of_forall hc.browser a)

theorem visit_keeps {p : Page ρ} (hp : H p) :
    Trip.Keeps nav K P (fun x => ∀ d, x.2 = some d → K d) (Navigator.visit p args) := by
  refine .bind (.perform (d := .look p) (hc.browser_attempt _)) fun shown _ => ?_
  refine .bind (.change fun _ hm => hm.log _) fun _ _ => ?_
  cases shown with
  | true => exact .bind (.change fun m _ => .remember (hc.cls p hp) m args) fun _ _ => .pure nofun
  | false => exact .pure fun d => hc.prerequisite p d hp

theorem climb_keeps (limit room : Nat) {chain : PathChain ρ} {seen : Bool × Option ρ}
    (hseen : ∀ d, seen.2 = some d → K d) (hchain : ∀ p ∈ chain.pages, H p) :
    Trip.Keeps nav K P (fun a => ∀ p ∈ a.pages, H p)
      (Navigator.climb limit args room chain seen) := by
  induction room generalizing chain seen with
  | zero =>
    obtain ⟨displayed, c⟩ := seen
    cases c with
    | none => exact .pure hchain
    | some c =>
      simp only [Navigator.climb]
      split
      · exact .throw (hc.circle _)
      · exact .throw (hc.tooDeep limit _)
  | succ room ih =>
    obtain ⟨displayed, c⟩ := seen
    cases c with
    | none => exact .pure hchain
    | some c =>
      simp only [Navigator.climb]
      split
      · exact .throw (hc.circle _)
      · refine .bind (.orThrow (hc.build c args (hseen c rfl))) fun p hp => ?_
        refine .bind (hc.visit_keeps hp) fun seen hseen' => ih hseen' ?_
        rw [PathChain.pages_push]
        exact List.forall_mem_append.2 ⟨hchain, List.forall_mem_singleton.2 hp⟩

theorem backtrace_keeps {c : ρ} (hK : K c) :
    Trip.Keeps nav K P (fun a => ∀ p ∈ a.pages, H p) (nav.backtrace c args) := by
  refine .bind (.orThrow (hc.build c args hK)) fun p hp => ?_
  refine .bind (hc.visit_keeps hp) fun seen hseen => ?_
  exact hc.climb_keeps _ _ hseen (List.forall_mem_singleton.2 hp)

theorem advance_keeps {p dest : Page ρ} (hp : H p) (hdest : H dest) :
    Trip.Keeps nav K P H (Navigator.advance args p dest) := by
  refine .bind (.perform (d := .hop p dest args) (hc.dispatch p dest args hp)) fun taken _ => ?_
  refine .bind (.change fun _ hm => hm.log _) fun _ _ => ?_
  refine .bind (.perform (d := .arrive dest) (hc.arrive dest hdest)) fun ns _ => ?_
  refine .bind (.change fun m _ => .remember (hc.cls dest hdest) m args) fun _ _ => ?_
  exact .pure (hc.notes dest ns hdest)

theorem walk_keeps {p : Page ρ} {rest : List (Page ρ)} (hp : H p) (hrest : ∀ q ∈ rest, H q) :
    Trip.Keeps nav K P H (Navigator.walk args p rest) := by
  induction rest generalizing p with
  | nil => exact .pure hp
  | cons dest rest ih =>
    obtain ⟨hdest, hrest⟩ := List.forall_mem_cons.1 hrest
    exact .bind (hc.advance_keeps hp hdest) fun q hq => ih hq hrest

theorem stillDisplayed_keeps :
    Trip.Keeps nav K P (fun shown : Option (Page ρ) => ∀ p, shown = some p → H p)
      Navigator.stillDisplayed := by
  refine .bind .lastDisplayed fun d hd => ?_
  have hrebuild : EndsIn (fun shown : Option (Page ρ) => ∀ p, shown = some p → H p) P
      (Deed.rebuild d) := by
    cases d with
    | none => exact .ok nofun
    | some x =>
      refine (hc.build x.1 x.2 (hd x.1 x.2 rfl)).map fun p hp => ?_
      rintro _ ⟨⟩
      exact hp
  refine .bind (.perform (d := .recall d) fun _ _ _ => hrebuild) fun shown hshown => ?_
  cases shown with
  | none => exact .pure nofun
  | some p =>
    refine .bind (.perform (d := .recheck p) (hc.browser_attempt _)) fun still _ => ?_
    cases still with
    | true => exact .pure hshown
    | false => exact .pure nofun

theorem replay_keeps {chain : PathChain ρ} (hchain : ∀ p ∈ chain.pages, H p) :
    Trip.Keeps nav K P H (Navigator.replay args chain) := by
  have hforward : ∀ p ∈ chain.top :: chain.forward.2, H p := by
    rw [chain.top_cons_forward]
    exact fun p hp => hchain p (List.mem_reverse.1 hp)
  unfold Navigator.replay
  dsimp only
  split
  · exact hc.walk_keeps (hforward chain.top List.mem_cons_self)
      fun p hp => hforward p (List.mem_cons_of_mem _ hp)
  · refine .bind hc.stillDisplayed_keeps fun shown hshown => ?_
    cases shown with
    | some p => exact hc.walk_keeps (hshown p rfl) hforward
    | none => exact .bind (.change fun m _ => .forget m) fun _ _ => .throw (hc.stepNotFound _ _ _)

theorem navigate_keeps {c : ρ} (hK : K c) (args : Args) :
    Nav.Keeps K P H (nav.navigate c args) := by
  have htrip : Trip.Keeps nav K P H (nav.navigation c args) := by
    refine .bind (.change fun _ hm => hm) fun _ _ => ?_
    refine .bind (hc.backtrace_keeps hK) fun chain hchain => ?_
    exact .bind (.change fun _ hm => hm) fun _ _ => hc.replay_keeps hchain
  exact htrip

theorem openPage_keeps {c : Option ρ} (hK : ∀ d, c = some d → K d) (url : Option String)
    (args : Args) : Nav.Keeps K P (fun _ => True) (nav.openPage c url args) := by
  have hreach (p : Page ρ) (hp : H p) (d : ρ) (hd : K d) :
      Trip.Keeps nav K P (fun _ => True) (do
        let notes ← Trip.perform (.arrive p)
        Trip.change (·.log fun n => .opened n (PageFamily.name d) url)
        Trip.change (·.remember d args)
        return some { p with notes }) := by
    refine .bind (.perform (d := .arrive p) (hc.arrive p hp)) fun ns _ => ?_
    refine .bind (.change fun _ hm => hm.log _) fun _ _ => ?_
    exact .bind (.change fun m _ => .remember hd m args) fun _ _ => .pure trivial
  have htrip : Trip.Keeps nav K P (fun _ => True) (Navigator.opening c url args) := by
    cases url with
    | none =>
      cases c with
      | none => exact .throw hc.nothingToOpen
      | some d =>
        refine .bind (.change fun _ hm => hm) fun _ _ => ?_
        refine .bind (.orThrow (hc.build d args (hK d rfl))) fun p hp => ?_
        refine .bind (.perform (d := .loadPage p) (hc.browser_attempt _)) fun _ _ => ?_
        exact hreach p hp d (hK d rfl)
    | some url =>
      cases c with
      | none =>
        refine .bind (.change fun _ hm => hm) fun _ _ => ?_
        refine .bind (.perform (d := .load url) (hc.browser_attempt _)) fun _ _ => ?_
        refine .bind (.change fun m _ => .forget m) fun _ _ => ?_
        exact .bind (.change fun _ hm => hm.log _) fun _ _ => .pure trivial
      | some d =>
        refine .bind (.change fun _ hm => hm) fun _ _ => ?_
        refine .bind (.perform (d := .load url) (hc.browser_attempt _)) fun _ _ => ?_
        refine .bind (.orThrow (hc.build d args (hK d rfl))) fun p hp => ?_
        exact hreach p hp d (hK d rfl)
  exact htrip

variable {catalog : Catalog ρ} (hcatalog : ∀ name, EndsIn K P (catalog.resolve name))
include hcatalog

theorem step_keeps (step : SpecStep) (p : Progress) :
    Nav.Keeps K P (fun _ => True) (step.run nav catalog p) := by
  cases step with
  | openPage page url args =>
    have hclass : Nav.Keeps K P (fun c => ∀ d, c = some d → K d)
        (page.mapM fun name => Nav.orThrow (catalog.resolve name)) := by
      cases page with
      | none => exact .pure nofun
      | some name =>
        rw [Option.mapM_some]
        refine .map (.orThrow (hcatalog name)) fun c hK => ?_
        rintro _ ⟨⟩
        exact hK
    refine .bind hclass fun c hK => .bind (hc.openPage_keeps hK url args) fun opened _ => ?_
    cases opened <;> exact .pure trivial
  | navigate page args =>
    have hreach : Nav.Keeps K P H (nav.navigateTo catalog page args) :=
      .bind (.orThrow (hcatalog page)) fun c hK => hc.navigate_keeps hK args
    exact hreach.bind fun _ _ => .pure trivial
  | click hint => exact .bind (.browse hc.browser _) fun _ _ => .pure trivial
  | fill hint value => exact .bind (.browse hc.browser _) fun _ _ => .pure trivial
  | check as =>
    have hjudge (a : Assertion) : Nav.Keeps K P (fun _ => True)
        (liftM (a.judge catalog p.stepIndex) : Nav ρ Verdict) := .lift _
    exact (Nav.Keeps.mapM hjudge as).bind fun _ _ => .pure trivial

theorem trials_end (b : Browser σ) (steps : List SpecStep) (i : Nat) {m : Memory ρ} (s : σ)
    (hm : m.Within K) {t : Trial ρ σ} (ht : t ∈ Spec.trials nav catalog b i steps m s) :
    EndsIn (fun _ => True) P t.led.result := by
  induction steps generalizing i m s with
  | nil => simp [Spec.trials] at ht
  | cons step rest ih =>
    obtain ⟨hmemory, hresult⟩ := hc.step_keeps hcatalog step { stepIndex := i } σ b m s hm
    simp only [Spec.trials, List.mem_cons] at ht
    obtain rfl | ht := ht
    · exact hresult
    · split at ht
      · exact ih _ _ hmemory ht
      · simp at ht

theorem runSteps_within (b : Browser σ) (steps : List SpecStep) (i : Nat) (p : Progress)
    {m : Memory ρ} (s : σ) (hm : m.Within K) :
    (Ran.of b m s (Spec.runSteps nav catalog i p steps)).memory.Within K := by
  induction steps generalizing i p m s with
  | nil => exact hm
  | cons step rest ih =>
    obtain ⟨hmemory, -⟩ := hc.step_keeps hcatalog step { p with stepIndex := i } σ b m s hm
    cases hled : Nav.led b m s (step.run nav catalog { p with stepIndex := i }) with
    | mk r m' calls s' =>
      rw [hled] at hmemory
      cases r with
      | ok q =>
        rw [Spec.ran_of_ok nav catalog b rest hled]
        exact ih (i + 1) q s' hmemory
      | error e =>
        rw [Spec.ran_of_error nav catalog b rest hled]
        exact hmemory

theorem run_within (b : Browser σ) (spec : Spec) {m : Memory ρ} (s : σ) (hm : m.Within K) :
    (Ran.of b m s (spec.run nav catalog)).memory.Within K := by
  cases hstart : spec.start b s with
  | mk r s' =>
    cases r with
    | ok _ =>
      rw [Spec.ran_of_start_ok nav catalog b hstart]
      exact hc.runSteps_within hcatalog b spec.steps 0 {} s' hm
    | error e =>
      rw [Spec.ran_of_start_error nav catalog b hstart]
      exact hm

end Confined
end Wayfinder
