import Wayfinder.Proofs.Route.Turns
import Wayfinder.Proofs.Site.Circles
import Wayfinder.Proofs.Url.Joining
import Wayfinder.Sample.Lane

/-! Opening a page that is known by its path. The browser is then at that path on the origin on
which the page was opened; but the page is displayed only if its path can be read off a URL again.
-/
namespace Wayfinder
variable {σ : Type} {b : Browser σ} {url : σ → String}

/-- A browser of whose states the URL is known: it gives it when asked for it, and after a load that
went well it is what was loaded. -/
structure Browser.Addressed (b : Browser σ) (url : σ → String) : Prop where
  current : ∀ s, (b.answer .currentUrl s).1 = .ok (url s)
  load : ∀ address s, (b.answer (.load address) s).1 = .ok () →
    url (b.answer (.load address) s).2 = address

/-- The origin on which pages are opened: the base of the navigator, which may end with slashes, or
else that of the URL that is open. -/
inductive Navigator.OpensOn (nav : Navigator) (current : String) (o : Url.Origin) : Prop
  | base (n : Nat)
      (h : nav.settings.baseUrl = some (o.text ++ String.ofList (List.replicate n '/')))
  | current (rest : String) (hbase : nav.settings.baseUrl = none)
      (hrest : rest = "" ∨ rest.toList.head? = some '/') (h : current = o.text ++ rest)

theorem Url.Origin.origin?_append {o : Url.Origin} {rest : String}
    (h : rest = "" ∨ rest.toList.head? = some '/') :
    Url.origin? (o.text ++ rest) = some o.text := by
  rw [Url.origin?, String.toList_append, splitOrigin_append]
  obtain rfl | h := h
  · simp
  · obtain ⟨more, hmore⟩ := List.head?_eq_some_iff.1 h
    simp [hmore]

/-- Whatever is asked before, in the end the path is loaded on the origin. -/
theorem Navigator.OpensOn.run_loadPage {nav : Navigator} {o : Url.Origin} {s : σ}
    (h : nav.OpensOn (url s) o) (hb : b.Addressed url) (hne : o.authority ≠ "")
    (p : Page SitePage) :
    ∃ s', Dialogue.run b (nav.loadPage p).run s =
      b.answer (.load (o.text ++ Url.rooted p.path)) s' := by
  cases h with
  | base n h =>
    refine ⟨s, ?_⟩
    rw [Navigator.loadPage, h, ← Url.Origin.join_slashes p.path hne n]
    rfl
  | current rest hbase hrest h =>
    refine ⟨(b.answer .currentUrl s).2, ?_⟩
    have horigin : Url.origin? (url s) = some o.text := h ▸ Url.Origin.origin?_append hrest
    have hjoin : Url.join o.text p.path = o.text ++ Url.rooted p.path := by
      simpa using Url.Origin.join_slashes p.path hne 0
    have hask : b.answer .currentUrl s = (.ok (url s), (b.answer .currentUrl s).2) :=
      Prod.ext (hb.current s) rfl
    rw [Navigator.loadPage, hbase, ← hjoin]
    change Dialogue.run b (loadPath p.path).run s = _
    rw [loadPath, Dialogue.run_bind, Dialogue.run_ask, hask]
    simp only [horigin]
    rfl

/-- A page without checks looks whether the path of the URL is its own. -/
theorem SitePage.run_isDisplayed (hb : b.Addressed url) {c : SitePage}
    (hchecks : c.decl.checks = []) (args : Args) (path : String) (s : σ) :
    (Dialogue.run b (c.page args path).isDisplayed.run s).1 = .ok (Url.path (url s) == path) := by
  have hask : b.answer .currentUrl s = (.ok (url s), (b.answer .currentUrl s).2) :=
    Prod.ext (hb.current s) rfl
  have hlook : Dialogue.run b (isAtPath path).run s =
      (.ok (Url.path (url s) == path), (b.answer .currentUrl s).2) := by
    rw [isAtPath, Dialogue.run_bind, Dialogue.run_ask, hask]
    rfl
  have hpage : (c.page args path).isDisplayed = Check.allHold path args [.pathMatches] := by
    simp [page, checks, hchecks]
  rw [hpage, Check.allHold, Dialogue.run_bind, Check.holds, hlook]
  cases Url.path (url s) == path <;> rfl

/-- An opening that went well has loaded the page; to arrive at a page of a site map takes nothing
more. -/
theorem Turn.finish_of_opened {nav : Navigator} {c : SitePage} {args : Args} {p : Page SitePage}
    (hbuild : PageFamily.build c args = .ok p) {m : Memory SitePage} {s : σ}
    {r : Option (Page SitePage)}
    (h : ((Turn.openPage (some c) none args).take nav b m s).result = .ok r) :
    r = some p ∧ (Dialogue.run b (nav.loadPage p).run s).1 = .ok () ∧
      ((Turn.openPage (some c) none args).take nav b m s).finish =
        (Dialogue.run b (nav.loadPage p).run s).2 := by
  have hadapt : (Deed.loadPage p).carryOut nav b s =
      ((Dialogue.run b (nav.loadPage p).run s).1.mapError .browser,
        (Dialogue.run b (nav.loadPage p).run s).2) := Dialogue.run_adapt b s _ _
  have hnotes (s : σ) : (Deed.arrive p).carryOut nav b s = (.ok p.notes, s) := by
    rw [Deed.carryOut, Deed.attempt, SitePage.arrive_of_built (SitePage.built_of_build hbuild)]
    rfl
  have hload := Trip.made_perform nav b m.next s (.loadPage p)
  have harrive (s : σ) := Trip.made_perform nav b m.next s (.arrive p)
  rw [take_openPage] at h ⊢
  cases hrun : Dialogue.run b (nav.loadPage p).run s with
  | mk outcome s' =>
    rw [hadapt, hrun] at hload
    cases outcome with
    | error e => simp [Navigator.opening, hbuild, hload, Except.mapError] at h
    | ok _ =>
      simp [Navigator.opening, hbuild, hload, Except.mapError, harrive, hnotes] at h ⊢
      exact h.symm

/-- A page without checks that is opened well: the origin on which it is opened stays, the path is
that of the page up to a query or fragment, with a slash in front. The page that is given back is
displayed just when its path begins with a slash and holds neither. -/
theorem opened_page_displayed_iff (nav : Navigator) (b : Browser σ) (url : σ → String)
    (hb : b.Addressed url) (c : SitePage) (hchecks : c.decl.checks = []) (args : Args)
    (p : Page SitePage) (hbuild : PageFamily.build c args = .ok p) (o : Url.Origin)
    (hne : o.authority ≠ "") (m : Memory SitePage) (s : σ) (hground : nav.OpensOn (url s) o)
    (r : Option (Page SitePage)) :
    let e := (Turn.openPage (some c) none args).take nav b m s
    e.result = .ok r →
      Url.origin? (url e.finish) = some o.text ∧
      Url.path (url e.finish) = Url.rooted (Url.bare p.path) ∧
      r = some p ∧
      (Dialogue.run b p.isDisplayed.run e.finish).1 = .ok (decide (Url.Plain p.path)) := by
  intro e hopen
  obtain ⟨rfl, hloaded, hfinish⟩ := Turn.finish_of_opened hbuild hopen
  obtain ⟨s', hrun⟩ := hground.run_loadPage hb hne p
  rw [hrun] at hloaded hfinish
  have hurl : url e.finish = o.text ++ Url.rooted p.path := by
    rw [hfinish]
    exact hb.load _ s' hloaded
  have hpath : Url.path (url e.finish) = Url.rooted (Url.bare p.path) := by
    rw [hurl, Url.Origin.path_rooted]
  refine ⟨by rw [hurl, Url.Origin.origin?_rooted], hpath, rfl, ?_⟩
  obtain ⟨path, -, rfl⟩ := SitePage.eq_page_of_build hbuild
  have hsame : (Url.path (url e.finish) == path) = decide (Url.Plain path) := by
    rw [hpath, Bool.beq_eq_decide_eq, decide_eq_decide]
    exact Url.rooted_bare_eq_iff path
  rw [SitePage.run_isDisplayed hb hchecks, hsame]
  rfl

namespace Lane

theorem addressed : addressLine.Addressed id := ⟨fun _ => rfl, fun _ _ _ => rfl⟩

def origin : Url.Origin :=
  ⟨"https", "lane.test", Url.https_plain, Url.forall_mem_of_all (by decide)⟩

def walker : Navigator := { settings := { baseUrl := some "https://lane.test//" } }

def rung : Episode SitePage String :=
  (Turn.openPage (some ⟨site, door⟩) none ringing).take walker addressLine {} "about:blank"

theorem result_rung : rung.result = .ok (some ringingPage) := rfl

end Lane

/-- Who rings at a door stands before it, but the page is not displayed: its path has a query. -/
theorem rung_not_displayed :
    Lane.addressLine.Addressed id ∧ Lane.door.checks = [] ∧ Lane.origin.authority ≠ "" ∧
    Lane.walker.OpensOn "about:blank" Lane.origin ∧
    PageFamily.build (⟨Lane.site, Lane.door⟩ : SitePage) Lane.ringing = .ok Lane.ringingPage ∧
    Lane.rung.result = .ok (some Lane.ringingPage) ∧
    Url.origin? Lane.rung.finish = some "https://lane.test" ∧
    Url.path Lane.rung.finish = "/doors/4" ∧
    (Dialogue.run Lane.addressLine Lane.ringingPage.isDisplayed.run Lane.rung.finish).1 =
      .ok false := by
  have hground : Lane.walker.OpensOn "about:blank" Lane.origin := .base 2 (by decide)
  have hne : Lane.origin.authority ≠ "" := by decide
  obtain ⟨horigin, hpath, -, hshown⟩ := opened_page_displayed_iff Lane.walker
    Lane.addressLine id Lane.addressed ⟨Lane.site, Lane.door⟩ rfl Lane.ringing Lane.ringingPage
    Lane.build_ringing Lane.origin hne {} "about:blank" hground _ Lane.result_rung
  exact ⟨Lane.addressed, rfl, hne, hground, Lane.build_ringing, Lane.result_rung, horigin, hpath,
    hshown⟩

end Wayfinder
