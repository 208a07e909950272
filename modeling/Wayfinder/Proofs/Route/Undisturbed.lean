import Wayfinder.Page.Union
import Wayfinder.Proofs.Questions
import Wayfinder.Proofs.Route.Footing
import Wayfinder.Proofs.Route.Trace
import Wayfinder.Proofs.Site.Circles

/-! Navigations that fail before their first step. Up to there a navigation only looks at pages, so
the browser is still where it was; and a backtrace that fails has found nothing that would be worth
remembering. -/
namespace Wayfinder
variable {ρ σ : Type}

/-- A navigation came to its end before it took a step. -/
inductive Episode.StopsEarly (e : Episode ρ σ) : Prop
  | unbuilt {page cause} (h : e.result = .error (.pageConstruction page cause))
  | circle {passed} (h : e.result = .error (.prerequisiteCycle passed))
  | tooDeep {limit passed} (h : e.result = .error (.backtraceTooDeep limit passed))
  | adrift {dest} (h : e.result = .error (.stepNotFound "<none>" dest []))
      (hno : ∀ x ∈ e.history, ¬x.IsHop)
  | stuck {pre p dest args current name labels}
      (h : e.result = .error (.stepNotFound current name labels))
      (hlast : e.history = pre ++ [⟨.hop p dest args, .error (.stepNotFound current name labels)⟩])
      (hno : ∀ x ∈ pre, ¬x.IsHop)

structure Episode.Unmoved (e : Episode ρ σ) : Prop where
  lastPath : e.after.lastPath = e.before.lastPath
  lastDisplayed : e.after.lastDisplayed = e.before.lastDisplayed

section Backtraces
variable [PageFamily ρ] {nav : Navigator} {args : Args} {m m' : Memory ρ} {hs : List (Done ρ)}

theorem Climbed.hidden_of_error {limit room : Nat} {chain : PathChain ρ} {shown : Bool}
    {e : RouteError} (h : Climbed limit args room chain shown m hs (.error e) m') :
    shown = false := by
  cases h <;> rfl

theorem Climbed.unmoved_of_error {limit room : Nat} {chain : PathChain ρ} {shown : Bool}
    {r : Except RouteError (PathChain ρ)} {e : RouteError}
    (h : Climbed limit args room chain shown m hs r m') (hr : r = .error e) :
    m'.lastPath = m.lastPath ∧ m'.lastDisplayed = m.lastDisplayed := by
  induction h with
  | displayed | root => cases hr
  | circle | tooDeep | unbuilt | unseen => exact ⟨rfl, rfl⟩
  | onward _ _ _ hrest ih =>
    subst hr
    -- A page displayed would have ended the climb well, so this one was hidden.
    obtain rfl := hrest.hidden_of_error
    exact ih rfl

theorem Backtraced.unmoved_of_error {c : ρ} {e : RouteError}
    (h : Backtraced nav c args m hs (.error e) m') :
    m'.lastPath = m.lastPath ∧ m'.lastDisplayed = m.lastDisplayed := by
  cases h with
  | unbuilt | unseen => exact ⟨rfl, rfl⟩
  | begun _ hrest =>
    obtain rfl := hrest.hidden_of_error
    exact hrest.unmoved_of_error rfl

theorem Climbed.looked {limit room : Nat} {chain : PathChain ρ} {shown : Bool}
    {r : Except RouteError (PathChain ρ)} (h : Climbed limit args room chain shown m hs r m') :
    ∀ x ∈ hs, ∃ c p, PageFamily.build c args = .ok p ∧ x.question = .look p := by
  induction h with
  | displayed | root | circle | tooDeep | unbuilt => simp
  | @unseen _ _ _ c p _ _ _ hbuild => exact List.forall_mem_singleton.2 ⟨c, p, hbuild, rfl⟩
  | @onward _ _ _ c p _ _ _ _ _ _ hbuild _ ih =>
    exact List.forall_mem_cons.2 ⟨⟨c, p, hbuild, rfl⟩, ih⟩

theorem Backtraced.looked {c : ρ} {r : Except RouteError (PathChain ρ)}
    (h : Backtraced nav c args m hs r m') :
    ∀ x ∈ hs, ∃ c p, PageFamily.build c args = .ok p ∧ x.question = .look p := by
  cases h with
  | unbuilt => simp
  | @unseen p _ hbuild => exact List.forall_mem_singleton.2 ⟨c, p, hbuild, rfl⟩
  | @begun p _ _ _ _ hbuild hrest =>
    exact List.forall_mem_cons.2 ⟨⟨c, p, hbuild, rfl⟩, hrest.looked⟩

end Backtraces

section SiteMaps
variable {nav : Navigator} {b : Browser σ} {args : Args} {m m' : Memory SitePage} {s : σ}
  {hs : List (Done SitePage)}

inductive Deed.Still (nav : Navigator) (b : Browser σ) (d : Deed SitePage) : Prop
  | look {c : SitePage} {args : Args} {p : Page SitePage}
      (hbuild : PageFamily.build c args = .ok p)
      (hsaid : ∀ s, Script.history b.answer (d.attempt nav).run s =
        Script.history b.answer p.isDisplayed.run s)
  | silent (h : ∀ s, Script.history b.answer (d.attempt nav).run s = [])

namespace Deed

theorem still_look {c : SitePage} {p : Page SitePage} (hbuild : PageFamily.build c args = .ok p) :
    (look p).Still nav b :=
  .look hbuild (Dialogue.history_adapt b RouteError.browser p.isDisplayed)

theorem still_recall (shown : Option (SitePage × Args)) : («recall» shown).Still nav b :=
  .silent fun _ => rfl

theorem still_recheck {shown : Option (SitePage × Args)} {p : Page SitePage}
    (hbuild : rebuild shown = .ok (some p)) : (recheck p).Still nav b := by
  cases shown with
  | none => cases hbuild
  | some d =>
    obtain ⟨q, hq, hp⟩ := exists_of_map_eq_ok hbuild
    obtain rfl : q = p := Option.some.inj hp
    exact .look hq (Dialogue.history_adapt b RouteError.browser q.isDisplayed)

/-- A dispatch that finds no step says nothing. -/
theorem still_hop {p dest : Page SitePage} {current name : String} {labels : List String}
    (h : .error (.stepNotFound current name labels) = ((hop p dest args).carryOut nav b s).1) :
    (hop p dest args).Still nav b := by
  have hchoose := Steps.choose?_of_stepNotFound h.symm
  refine .silent fun s => ?_
  rw [attempt, Steps.dispatch, hchoose]
  rfl

end Deed

def Done.Unstepped (x : Done ρ) : Prop :=
  ∀ p dest args o, x = ⟨.hop p dest args, o⟩ →
    ∃ current name labels, o = .error (.stepNotFound current name labels)

theorem Done.Unstepped.of_not_isHop {x : Done ρ} (h : ¬x.IsHop) : x.Unstepped :=
  fun p dest args o hx => absurd ⟨p, dest, args, o, hx⟩ h

/-- A walk that takes no step has at most one deed, which finds none. -/
theorem Walked.stuck_of_unstepped [PageFamily ρ] {p : Page ρ} {rest : List (Page ρ)}
    {m m' : Memory ρ} {hs : List (Done ρ)} {r : Except RouteError (Page ρ)}
    (h : Walked args p rest m hs r m') (hhops : ∀ x ∈ hs, x.Unstepped) :
    ∀ x ∈ hs, x.IsHop := by
  cases h with
  | here => simp
  | @stuck _ dest _ _ e => exact List.forall_mem_singleton.2 ⟨p, dest, args, .error e, rfl⟩
  | unarrived | onward =>
    obtain ⟨_, _, _, ho⟩ := hhops _ List.mem_cons_self _ _ _ _ rfl
    cases ho

theorem Replayed.still {chain : PathChain SitePage} {r : Except RouteError (Page SitePage)}
    (h : Replayed args chain m hs r m') (hhops : ∀ x ∈ hs, x.Unstepped) :
    ∀ x ∈ hs, x.IsHop ∨ x.question.Still nav b := by
  cases h with
  | anchored _ hwalk => exact fun x hx => .inl (hwalk.stuck_of_unstepped hhops x hx)
  | unbuilt | blank => exact List.forall_mem_singleton.2 (.inr (Deed.still_recall _))
  | unseen _ hbuild | gone _ hbuild =>
    exact List.forall_mem_cons.2 ⟨.inr (Deed.still_recall _),
      List.forall_mem_singleton.2 (.inr (Deed.still_recheck hbuild))⟩
  | remembered _ hbuild hwalk =>
    obtain ⟨-, hrest⟩ := List.forall_mem_cons.1 hhops
    obtain ⟨-, hrest⟩ := List.forall_mem_cons.1 hrest
    exact List.forall_mem_cons.2 ⟨.inr (Deed.still_recall _),
      List.forall_mem_cons.2 ⟨.inr (Deed.still_recheck hbuild),
        fun x hx => .inl (hwalk.stuck_of_unstepped hrest x hx)⟩⟩

/-- A navigation that takes no step does nothing to the browser but look at pages. -/
theorem Navigated.still {c : SitePage} {r : Except RouteError (Page SitePage)}
    (h : Navigated nav c args m hs r m') (hhops : ∀ x ∈ hs, x.Unstepped)
    (hanswers : ∀ x ∈ hs, ∃ s, x.answer = (x.question.carryOut nav b s).1) :
    ∀ x ∈ hs, x.question.Still nav b := by
  have hlooks {hs r m'} (hback : Backtraced nav c args m.next hs r m') :
      ∀ x ∈ hs, x.question.Still nav b := by
    intro x hx
    obtain ⟨d, p, hbuild, hlook⟩ := hback.looked x hx
    exact hlook ▸ Deed.still_look hbuild
  cases h with
  | lost hback => exact hlooks hback
  | found hback hreplay =>
    obtain ⟨-, hhops'⟩ := List.forall_mem_append.1 hhops
    intro x hx
    obtain hx' | hx' := List.mem_append.1 hx
    · exact hlooks hback x hx'
    · obtain ⟨p, dest, args, o, rfl⟩ | hstill := hreplay.still hhops' x hx'
      · obtain ⟨current, name, labels, rfl⟩ := hhops _ hx p dest args o rfl
        obtain ⟨s, hs⟩ := hanswers _ hx
        exact Deed.still_hop hs
      · exact hstill

/-- The failures that only a page not yet stepped to can cause. -/
def RouteError.early : RouteError → Bool
  | .pageConstruction _ _ | .prerequisiteCycle _ | .backtraceTooDeep _ _ => true
  | .stepNotFound _ _ _ | .stepFailed _ _ _ | .nothingToOpen | .unknownPage _
  | .unexpectedPage _ _ | .browser _ => false

theorem Deed.not_early_of_hop {p dest : Page SitePage} {e : RouteError}
    (h : .error e = ((Deed.hop p dest args).carryOut nav b s).1) : e.early = false := by
  obtain ⟨-, rfl⟩ | ⟨step, cause, rfl⟩ := Steps.failed_of_dispatch h.symm <;> rfl

theorem Deed.arrive_ok {p : Page SitePage} (hp : p.Built args) :
    ((Deed.arrive p).carryOut nav b s).1 = .ok p.notes := by
  rw [carryOut, attempt, SitePage.arrive_of_built hp]
  rfl

theorem Walked.not_early {p : Page SitePage} {rest : List (Page SitePage)} {e : RouteError}
    (h : Walked args p rest m hs (.error e) m') (hrest : ∀ q ∈ rest, q.Built args)
    (hanswers : ∀ x ∈ hs, ∃ s, x.answer = (x.question.carryOut nav b s).1) : e.early = false := by
  obtain ⟨d, hd⟩ := h.failed rfl
  obtain ⟨s, hs⟩ := hanswers _ hd
  obtain ⟨_, _, _, hx⟩ | ⟨q, hq, _, hx⟩ := h.hop_or_arrive _ hd
  · cases hx
    exact Deed.not_early_of_hop hs
  · cases hx
    cases hs.trans (Deed.arrive_ok (hrest q hq))

theorem Replayed.no_hop_of_early {chain : PathChain SitePage} {e : RouteError}
    (h : Replayed args chain m hs (.error e) m') (he : e.early = true)
    (hpages : ∀ p ∈ chain.pages, p.Built args)
    (hanswers : ∀ x ∈ hs, ∃ s, x.answer = (x.question.carryOut nav b s).1) :
    ∀ x ∈ hs, ¬x.IsHop := by
  have hforward : ∀ p ∈ chain.top :: chain.forward.2, p.Built args := by
    rw [chain.top_cons_forward]
    exact fun p hp => hpages p (List.mem_reverse.1 hp)
  cases h with
  | anchored _ hwalk =>
    have hlate := hwalk.not_early (fun p hp => hforward p (List.mem_cons_of_mem _ hp)) hanswers
    simp [hlate] at he
  | unbuilt => exact List.forall_mem_singleton.2 (Done.not_isHop_recall _ _)
  | blank | gone => cases he
  | unseen =>
    exact List.forall_mem_cons.2 ⟨Done.not_isHop_recall _ _,
      List.forall_mem_singleton.2 (Done.not_isHop_recheck _ _)⟩
  | remembered _ _ hwalk =>
    obtain ⟨-, hrest⟩ := List.forall_mem_cons.1 hanswers
    obtain ⟨-, hrest⟩ := List.forall_mem_cons.1 hrest
    have hlate := hwalk.not_early hforward hrest
    simp [hlate] at he

theorem Navigated.no_hop_of_early {c : SitePage} {e : RouteError}
    (h : Navigated nav c args m hs (.error e) m') (he : e.early = true)
    (hanswers : ∀ x ∈ hs, ∃ s, x.answer = (x.question.carryOut nav b s).1) :
    ∀ x ∈ hs, ¬x.IsHop := by
  cases h with
  | lost hback => exact hback.no_hop
  | found hback hreplay =>
    obtain ⟨-, hrest⟩ := List.forall_mem_append.1 hanswers
    exact List.forall_mem_append.2
      ⟨hback.no_hop, hreplay.no_hop_of_early he hback.built hrest⟩

/-- What still deeds say to the browser are looks at pages, one after another. -/
theorem Deed.exists_looks {deeds : List (Deed SitePage × σ)} (h : ∀ x ∈ deeds, x.1.Still nav b) :
    ∃ looks : List (Page SitePage × σ),
      (∀ x ∈ looks, ∃ d shown, PageFamily.build d shown = .ok x.1) ∧
      (deeds.flatMap fun x => Script.history b.answer (x.1.attempt nav).run x.2) =
        looks.flatMap fun x => Script.history b.answer x.1.isDisplayed.run x.2 := by
  induction deeds with
  | nil => exact ⟨[], by simp, rfl⟩
  | cons x deeds ih =>
    obtain ⟨hx, hdeeds⟩ := List.forall_mem_cons.1 h
    obtain ⟨looks, hbuilt, hsaid⟩ := ih hdeeds
    rw [List.flatMap_cons, hsaid]
    cases hx with
    | @look c args p hbuild hlook =>
      refine ⟨(p, x.2) :: looks, List.forall_mem_cons.2 ⟨⟨c, args, hbuild⟩, hbuilt⟩, ?_⟩
      rw [hlook, List.flatMap_cons]
    | silent hnothing => exact ⟨looks, hbuilt, by rw [hnothing, List.nil_append]⟩

def Episode.OnlyLooks (nav : Navigator) (b : Browser σ) (e : Episode SitePage σ) : Prop :=
  ∃ looks : List (Page SitePage × σ),
    (∀ x ∈ looks, ∃ d shown, PageFamily.build d shown = .ok x.1) ∧
    e.calls nav b = looks.flatMap fun x => Script.history b.answer x.1.isDisplayed.run x.2

theorem Episode.OnlyLooks.glances {e : Episode SitePage σ} (h : e.OnlyLooks nav b) :
    ∀ x ∈ e.calls nav b, x.question = .currentUrl ∨ ∃ css, x.question = .isVisible css := by
  obtain ⟨looks, hbuilt, hcalls⟩ := h
  intro x hx
  rw [hcalls] at hx
  obtain ⟨y, hy, hx⟩ := List.mem_flatMap.1 hx
  obtain ⟨d, shown, hbuild⟩ := hbuilt y hy
  exact Call.glance_iff.1 ((SitePage.isDisplayed_glances hbuild).of_mem_history hx)

/-- A navigation that stops early has done no step. -/
theorem Episode.StopsEarly.unstepped {e : Episode SitePage σ} (h : e.StopsEarly) {c : SitePage}
    {r : Except RouteError (Page SitePage)} (hresult : e.result = r.map some)
    (haccount : Navigated nav c args m e.history r m')
    (hanswers : ∀ x ∈ e.history, ∃ s, x.answer = (x.question.carryOut nav b s).1) :
    ∀ x ∈ e.history, x.Unstepped := by
  have hfailed {err} (herr : e.result = .error err) : r = .error err := by
    rw [hresult] at herr
    cases r with
    | ok p => cases herr
    | error err' =>
      cases herr
      rfl
  have hno {err} (herr : e.result = .error err) (hearly : err.early = true) (x : Done SitePage)
      (hx : x ∈ e.history) : x.Unstepped := by
    rw [hfailed herr] at haccount
    exact .of_not_isHop (haccount.no_hop_of_early hearly hanswers x hx)
  cases h with
  | unbuilt herr | circle herr | tooDeep herr => exact hno herr rfl
  | adrift _ hnone => exact fun x hx => .of_not_isHop (hnone x hx)
  | @stuck pre p dest args current name labels _ hlast hnone =>
    rw [hlast]
    refine List.forall_mem_append.2 ⟨fun x hx => .of_not_isHop (hnone x hx), ?_⟩
    refine List.forall_mem_singleton.2 fun p' dest' args' o hx => ?_
    cases hx
    exact ⟨current, name, labels, rfl⟩

end SiteMaps

theorem Turn.backtraced_take (nav : Navigator) (b : Browser σ) (t : Turn SitePage σ)
    (m : Memory SitePage) (s : σ) (c : SitePage) (args : Args) :
    (t.take nav b m s).backtraced nav b c args =
      ((nav.backtrace c args).made nav b m.next s).result := by
  simp [Episode.backtraced]

/-- A navigation that fails before its first step leaves the browser where it was: all that it has
said to the browser was said in looking at pages, and asks for the URL or for what is visible. If
it was the backtrace that failed, then the last path and the page remembered are those of before. -/
theorem undisturbed_before_first_step (nav : Navigator) (b : Browser σ) (c : SitePage) (args : Args)
    (m : Memory SitePage) (s : σ) :
    let e := (Turn.navigate c args).take nav b m s
    (e.StopsEarly → e.OnlyLooks nav b ∧
      ∀ x ∈ e.calls nav b, x.question = .currentUrl ∨ ∃ css, x.question = .isVisible css) ∧
    ∀ err, e.backtraced nav b c args = .error err → e.result = .error err ∧ e.Unmoved := by
  intro e
  have hresult : e.result = ((nav.navigation c args).made nav b m s).result.map some :=
    Turn.take_navigate_result nav b m s c args
  constructor
  · intro hearly
    have haccount := nav.navigated_navigation b c args m s
    have hanswers : ∀ x ∈ e.history, ∃ s, x.answer = (x.question.carryOut nav b s).1 :=
      fun x hx => Trip.outcome_of_mem nav b m s hx
    have hunstepped := hearly.unstepped hresult haccount hanswers
    have hstill := haccount.still hunstepped hanswers
    obtain ⟨deeds, hdeeds, hcalls⟩ := (Turn.navigate c args).calls_take nav b m s
    have hlooks : e.OnlyLooks nav b := by
      rw [Episode.OnlyLooks, hcalls]
      refine Deed.exists_looks fun x hx => ?_
      have hmem : x.1 ∈ e.history.map Exchange.question := hdeeds ▸ List.mem_map_of_mem hx
      obtain ⟨d, hd, hquestion⟩ := List.mem_map.1 hmem
      exact hquestion ▸ hstill d hd
    exact ⟨hlooks, hlooks.glances⟩
  · intro err hlost
    have hback := nav.backtraced_backtrace b c args m.next s
    have hmade := nav.made_navigation b c args m s
    rw [Turn.backtraced_take] at hlost
    cases h : (nav.backtrace c args).made nav b m.next s with
    | mk r m' hs s' =>
      rw [h] at hlost hback hmade
      cases hlost
      have hafter : e.after = m' := by
        simp only [e, Turn.take_navigate, hmade, Made.andThen_error]
      obtain ⟨hpath, hlast⟩ := hback.unmoved_of_error
      refine ⟨by rw [hresult, hmade]; rfl, ?_, ?_⟩
      · rw [hafter]
        exact hpath
      · rw [hafter]
        exact hlast

namespace House

theorem backtrace_attic (m : Memory SitePage) :
    ((Navigator.backtrace { settings := { maxBacktraceDepth := 1 } } attic ∅).made
      { settings := { maxBacktraceDepth := 1 } } lamp m "").result =
      .error (.backtraceTooDeep 1 ["Attic", "Hall"]) := by
  have hlook : (Deed.look atticPage).carryOut { settings := { maxBacktraceDepth := 1 } } lamp "" =
      (.ok false, "") := Deed.carryOut_look_of_run _ (run_isDisplayed_attic "")
  have hnew : PageFamily.same atticPage.cls hall = false := rfl
  simp [Navigator.backtrace, Navigator.climb, Navigator.made_visit, build_attic, hlook, Page.seen,
    prerequisite_attic, PathChain.contains, PathChain.pages, PathChain.names, hnew]
  exact ⟨rfl, rfl⟩

end House

theorem attic_out_of_reach :
    let nav : Navigator := { settings := { maxBacktraceDepth := 1 } }
    let m : Memory SitePage := { lastPath := ["Hall"], lastDisplayed := some (House.hall, ∅) }
    let e := (Turn.navigate House.attic ∅).take nav House.lamp m ""
    e.StopsEarly ∧
    (e.OnlyLooks nav House.lamp ∧
      ∀ x ∈ e.calls nav House.lamp,
        x.question = .currentUrl ∨ ∃ css, x.question = .isVisible css) ∧
    e.result = .error (.backtraceTooDeep 1 ["Attic", "Hall"]) ∧
    e.Unmoved := by
  intro nav m e
  obtain ⟨hquiet, hkept⟩ := undisturbed_before_first_step nav House.lamp House.attic ∅ m ""
  have hlost := Turn.backtraced_take nav House.lamp (.navigate House.attic ∅) m "" House.attic ∅
  rw [House.backtrace_attic] at hlost
  obtain ⟨hresult, hunmoved⟩ := hkept _ hlost
  have hearly : e.StopsEarly := .tooDeep hresult
  exact ⟨hearly, hquiet hearly, hresult, hunmoved⟩

end Wayfinder
