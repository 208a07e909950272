import Wayfinder.Proofs.History
import Wayfinder.Route.Rule
import Wayfinder.Sample.House

/-! Dispatching among the steps of a page. Among all pairs of a rule and a step that fit, the first
by rule and then by step is the one that runs; what the browser is told is what its handler tells
it. -/
namespace Wayfinder
variable {ρ σ : Type}

def Step.Agrees (st : Step ρ) : Prop :=
  match st.destination, st.action with
  | .href, .withPath _ | .page _, .withArgs _ | .named _, .withArgs _ => True
  | _, _ => False

inductive Steps.Registered : Steps ρ → Prop where
  | empty (owner : String) : Registered (.empty owner)
  | add {t : Steps ρ} (h : Registered t) (draft : StepDraft ρ) (hdest : draft.destination ≠ .href)
    (run : Args → Attempt StepFault Unit) : Registered (t.add draft run)
  | href {t : Steps ρ} (h : Registered t) (name : String)
    (run : String → Attempt StepFault Unit) : Registered (t.href name run)

namespace Steps.Registered
variable {t : Steps ρ}

theorem owner (h : t.Registered) : ∀ st ∈ t.list, st.owner = t.owner := by
  induction h with
  | empty => exact List.forall_mem_nil _
  | add _ _ _ _ ih | href _ _ _ ih =>
    exact List.forall_mem_append.2 ⟨ih, List.forall_mem_singleton.2 rfl⟩

theorem agrees (h : t.Registered) : ∀ st ∈ t.list, st.Agrees := by
  induction h with
  | empty => exact List.forall_mem_nil _
  | href _ _ _ ih => exact List.forall_mem_append.2 ⟨ih, List.forall_mem_singleton.2 trivial⟩
  | add _ draft hdest _ ih =>
    refine List.forall_mem_append.2 ⟨ih, List.forall_mem_singleton.2 ?_⟩
    simp only [Step.Agrees]
    cases hd : draft.destination with
    | href => exact absurd hd hdest
    | page | named => trivial

end Steps.Registered

variable [PageFamily ρ] {t : Steps ρ} {rules : List Rule} {dest : Page ρ} {args : Args}
  {r : Rule} {st : Step ρ} {i j : Nat}

/-- What a step does when a rule invokes it: its handler runs on the path of the destination, or
on those of the arguments that the step declares if none is missing. -/
inductive Step.Handles (st : Step ρ) (r : Rule) (dest : Page ρ) (args : Args) :
    Attempt StepFault Unit → Prop where
  | path {run : String → Attempt StepFault Unit} (hr : r = .href)
    (haction : st.action = .withPath run) : Handles st r dest args (run dest.path)
  | bound {run : Args → Attempt StepFault Unit} {given : Args} (hr : r ≠ .href)
    (haction : st.action = .withArgs run) (hbind : bindParams st.params args = .ok given) :
    Handles st r dest args (run given)
  | unbound {run : Args → Attempt StepFault Unit} {e : BindError} (hr : r ≠ .href)
    (haction : st.action = .withArgs run) (hbind : bindParams st.params args = .error e) :
    Handles st r dest args (throw (.binding e))

theorem Step.Agrees.handles (h : st.Agrees) (happlies : r.applies st dest = true) :
    ∃ a, st.Handles r dest args a ∧ r.invoke st dest args = a.adapt st.failed := by
  obtain ⟨owner, name, leads, params, action⟩ := st
  cases action with
  | withPath run =>
    obtain rfl : r = .href := by cases leads <;> cases r <;> simp_all [Step.Agrees, Rule.applies]
    exact ⟨run dest.path, .path rfl rfl, rfl⟩
  | withArgs run =>
    have hr : r ≠ .href := by
      rintro rfl
      cases leads <;> simp_all [Step.Agrees, Rule.applies]
    have hinvoke : r.invoke ⟨owner, name, leads, params, .withArgs run⟩ dest args =
        Step.invokeWithArgs ⟨owner, name, leads, params, .withArgs run⟩ args := by
      cases r with
      | cls | className => rfl
      | href => exact absurd rfl hr
    rw [hinvoke, Step.invokeWithArgs, Step.runWithArgs, Step.bind]
    cases hbind : bindParams params args with
    | ok given => exact ⟨run given, .bound hr rfl hbind, rfl⟩
    | error e => exact ⟨throw (.binding e), .unbound hr rfl hbind, rfl⟩

/-- The pair of the rule at `i` and the step at `j` fits, and no pair before it does. -/
structure Steps.FirstFit (t : Steps ρ) (rules : List Rule) (dest : Page ρ) (i j : Nat) (r : Rule)
    (st : Step ρ) : Prop where
  rule : rules[i]? = some r
  step : t.list[j]? = some st
  applies : r.applies st dest = true
  first : ∀ i' j' r' st', rules[i']? = some r' → t.list[j']? = some st' →
    r'.applies st' dest = true → i < i' ∨ i = i' ∧ j ≤ j'

namespace Steps

theorem FirstFit.find?_eq (h : t.FirstFit (r :: rules) dest 0 j r st) :
    t.find? r dest = some st := by
  obtain ⟨hj, hget⟩ := List.getElem?_eq_some_iff.1 h.step
  refine List.find?_eq_some_iff_getElem.2 ⟨h.applies, j, hj, hget, fun j' hj' => ?_⟩
  have hlength : j' < t.list.length := Nat.lt_trans hj' hj
  rw [Bool.not_eq_true']
  refine Bool.eq_false_iff.2 fun hfits => ?_
  have hfirst := h.first 0 j' r t.list[j'] rfl (List.getElem?_eq_getElem hlength) hfits
  omega

theorem FirstFit.find?_eq_none {r₀ : Rule} (h : t.FirstFit (r₀ :: rules) dest (i + 1) j r st) :
    t.find? r₀ dest = none := by
  refine List.find?_eq_none.2 fun st' hst' hfits => ?_
  obtain ⟨j', hj'⟩ := List.getElem?_of_mem hst'
  have hfirst := h.first 0 j' r₀ st' rfl hj' hfits
  omega

theorem FirstFit.tail {r₀ : Rule} (h : t.FirstFit (r₀ :: rules) dest (i + 1) j r st) :
    t.FirstFit rules dest i j r st where
  rule := h.rule
  step := h.step
  applies := h.applies
  first i' j' r' st' hr' hst' hfits := by
    have hfirst := h.first (i' + 1) j' r' st' hr' hst' hfits
    omega

theorem FirstFit.choose?_eq (h : t.FirstFit rules dest i j r st) :
    t.choose? rules dest = some (r, st) := by
  induction rules generalizing i with
  | nil => cases h.rule
  | cons r₀ rules ih =>
    cases i with
    | zero =>
      obtain rfl : r₀ = r := Option.some.inj h.rule
      simp [choose?, h.find?_eq]
    | succ i =>
      have hrest := ih h.tail
      simpa [choose?, h.find?_eq_none] using hrest

theorem exists_firstFit (h : ∃ r ∈ rules, ∃ st ∈ t.list, r.applies st dest = true) :
    ∃ i j r st, t.FirstFit rules dest i j r st := by
  induction rules with
  | nil =>
    obtain ⟨r, hr, -⟩ := h
    cases hr
  | cons r₀ rules ih =>
    cases hfind : t.find? r₀ dest with
    | some st =>
      obtain ⟨happlies, j, hj, hget, hbefore⟩ := List.find?_eq_some_iff_getElem.1 hfind
      refine ⟨0, j, r₀, st, rfl, List.getElem?_eq_some_iff.2 ⟨hj, hget⟩, happlies, ?_⟩
      intro i' j' r' st' hr' hst' hfits
      obtain _ | i' := i'
      · obtain rfl : r₀ = r' := Option.some.inj hr'
        obtain ⟨hj', rfl⟩ := List.getElem?_eq_some_iff.1 hst'
        refine .inr ⟨rfl, Nat.not_lt.1 fun hlt => ?_⟩
        have hno := hbefore j' hlt
        rw [hfits] at hno
        cases hno
      · exact .inl (Nat.succ_pos i')
    | none =>
      have hnone := List.find?_eq_none.1 hfind
      obtain ⟨r, hr, st, hst, hfits⟩ := h
      obtain rfl | hr := List.mem_cons.1 hr
      · exact absurd hfits (hnone st hst)
      · obtain ⟨i, j, r', st', hfirst⟩ := ih ⟨r, hr, st, hst, hfits⟩
        refine ⟨i + 1, j, r', st', hfirst.rule, hfirst.step, hfirst.applies, ?_⟩
        intro i' j' r'' st'' hr' hst' hfits'
        obtain _ | i' := i'
        · obtain rfl : r₀ = r'' := Option.some.inj hr'
          exact absurd hfits' (hnone st'' (List.mem_of_getElem? hst'))
        · have hrest := hfirst.first i' j' r'' st'' hr' hst' hfits'
          omega

theorem choose?_eq_none (h : ∀ r ∈ rules, ∀ st ∈ t.list, r.applies st dest = false) :
    t.choose? rules dest = none := by
  refine List.findSome?_eq_none_iff.2 fun r hr => ?_
  rw [Option.map_eq_none_iff]
  refine List.find?_eq_none.2 fun st hst => ?_
  simp [h r hr st hst]

theorem find?_of_choose? (h : t.choose? rules dest = some (r, st)) : t.find? r dest = some st := by
  obtain ⟨r', -, hr⟩ := List.exists_of_findSome?_eq_some h
  obtain ⟨st', hst, heq⟩ := Option.map_eq_some_iff.1 hr
  cases heq
  exact hst

theorem mem_of_choose? (h : t.choose? rules dest = some (r, st)) : st ∈ t.list :=
  List.mem_of_find?_eq_some (find?_of_choose? h)

theorem applies_of_choose? (h : t.choose? rules dest = some (r, st)) :
    r.applies st dest = true := by
  have hfits := List.find?_some (find?_of_choose? h)
  exact hfits

/-- A dispatch says and does what the handler of the step chosen says and does. -/
theorem dispatch_of_choose? {a : Attempt StepFault Unit} (b : Browser σ) (s : σ)
    (hchoose : t.choose? rules dest = some (r, st))
    (hinvoke : r.invoke st dest args = a.adapt st.failed) :
    Script.history b.answer (t.dispatch rules dest args).run s = Script.history b.answer a.run s ∧
    Dialogue.run b (t.dispatch rules dest args).run s =
      match Dialogue.run b a.run s with
      | (.ok (), s') => (.ok ⟨r, st.name⟩, s')
      | (.error cause, s') => (.error (st.failed cause), s') := by
  have hdispatch : t.dispatch rules dest args =
      (a.adapt st.failed >>= fun _ => pure ⟨r, st.name⟩) := by
    rw [dispatch, hchoose, ← hinvoke]
  rw [hdispatch, Dialogue.history_andThen, Dialogue.run_bind, Dialogue.history_adapt,
    Dialogue.run_adapt]
  rcases Dialogue.run b a.run s with ⟨_ | _, s'⟩
  · exact ⟨List.append_nil _, rfl⟩
  · exact ⟨List.append_nil _, rfl⟩

end Steps

/-- Among the pairs of a rule and a step that fit, one comes first. Its handler is all that runs;
when none fits nothing runs. -/
theorem dispatch_runs_first (t : Steps ρ) (ht : t.Registered) (rules : List Rule) (dest : Page ρ)
    (args : Args) (b : Browser σ) (s : σ) :
    let d := (t.dispatch rules dest args).run
    ((∀ r ∈ rules, ∀ st ∈ t.list, r.applies st dest = false) →
      Script.history b.answer d s = [] ∧
      Dialogue.run b d s = (.error (.stepNotFound t.owner dest.name
        (t.list.map fun st => st.destination.label)), s)) ∧
    ((∃ r ∈ rules, ∃ st ∈ t.list, r.applies st dest = true) →
      ∃ i j r st, t.FirstFit rules dest i j r st) ∧
    ∀ i j r st, t.FirstFit rules dest i j r st →
      ∃ a, st.Handles r dest args a ∧
        Script.history b.answer d s = Script.history b.answer a.run s ∧
        Dialogue.run b d s =
          match Dialogue.run b a.run s with
          | (.ok (), s') => (.ok ⟨r, st.name⟩, s')
          | (.error cause, s') => (.error (.stepFailed t.owner st.name cause), s') := by
  refine ⟨fun hnone => ?_, Steps.exists_firstFit, fun i j r st hfirst => ?_⟩
  · rw [Steps.dispatch, Steps.choose?_eq_none hnone]
    exact ⟨rfl, rfl⟩
  · have hst : st ∈ t.list := List.mem_of_getElem? hfirst.step
    obtain ⟨a, hhandles, hinvoke⟩ := (ht.agrees st hst).handles hfirst.applies
    have hrun := Steps.dispatch_of_choose? b s hfirst.choose?_eq hinvoke
    simp only [Step.failed, ht.owner st hst] at hrun
    exact ⟨a, hhandles, hrun⟩

namespace House

def lift : Step SitePage :=
  ⟨"Hall", "lift", .page attic, [], .withArgs fun _ => askStep (.click (.ofCss "#attic"))⟩

def ways : Steps SitePage :=
  (((Steps.empty "Hall").href "link" fun path => askStep (.click (.linkTo path))).add
    (.toNamed "climb" "Attic") fun _ => askStep (.click (.ofCss "#stairs"))).add
    (.toPage "lift" attic) fun _ => askStep (.click (.ofCss "#attic"))

theorem registered_ways : ways.Registered := by
  refine .add (.add (.href (.empty _) _ _) _ ?_ _) _ ?_ _ <;> rintro ⟨⟩

theorem firstFit_ways : ways.FirstFit Rule.inOrder atticPage 0 2 .cls lift where
  rule := rfl
  step := rfl
  applies := rfl
  first i j r st hr hst hfits := by
    match i, j with
    | 0, 0 | 0, 1 =>
      cases hr
      cases hst
      cases hfits
    | 0, _ + 2 => exact .inr ⟨rfl, Nat.le_add_left 2 _⟩
    | i + 1, _ => exact .inl (Nat.succ_pos i)

end House

theorem lift_runs_first :
    House.ways.Registered ∧ House.ways.FirstFit Rule.inOrder House.atticPage 0 2 .cls House.lift ∧
    Dialogue.run House.lamp (House.ways.dispatch Rule.inOrder House.atticPage ∅).run "" =
      (.ok ⟨.cls, "lift"⟩, "#attic") := by
  refine ⟨House.registered_ways, House.firstFit_ways, ?_⟩
  obtain ⟨-, -, hruns⟩ := dispatch_runs_first House.ways House.registered_ways Rule.inOrder
    House.atticPage ∅ House.lamp ""
  obtain ⟨a, hhandles, -, hrun⟩ := hruns 0 2 .cls House.lift House.firstFit_ways
  cases hhandles with
  | path hr => cases hr
  | bound _ haction hbind =>
    cases haction
    exact hrun
  | unbound _ _ hbind => cases hbind

end Wayfinder
