import Wayfinder.Proofs.Route.Turns
import Wayfinder.Sample.Yard

/-! Opening a page that cannot be built. The page is built before its path is loaded, so that
without a URL nothing is said to the browser. A URL that is given with the page is loaded before the
page is built, but that is then all that happens. -/
namespace Wayfinder
variable {ρ σ : Type} [PageFamily ρ] {nav : Navigator} {b : Browser σ}

/-- A browser that does not load a URL or a page is itself at fault. -/
theorem Deed.fault_of_load {d : Deed ρ} {s : σ} {err : RouteError}
    (hd : (∃ url, d = .load url) ∨ ∃ p, d = .loadPage p)
    (h : (d.carryOut nav b s).1 = .error err) : ∃ fault, err = .browser fault := by
  obtain ⟨url, rfl⟩ | ⟨p, rfl⟩ := hd
  · exact Dialogue.exists_of_run_adapt h
  · exact Dialogue.exists_of_run_adapt h

/-- To load a URL is one call. -/
theorem Deed.questions_load (url : String) (s : σ) :
    (Script.history b.answer ((Deed.load url : Deed ρ).attempt nav).run s).map Exchange.question =
      [.load url] := by
  have hadapt := Dialogue.history_adapt b RouteError.browser (ask (.load url)) s
  exact congrArg (List.map Exchange.question) hadapt

/-- An opening whose deeds are loads of URLs makes just the calls for them. -/
theorem Turn.questions_of_loads {t : Turn ρ σ} {m : Memory ρ} {s : σ} {urls : List String}
    (h : (t.take nav b m s).history.map Exchange.question = urls.map Deed.load) :
    ((t.take nav b m s).calls nav b).map Exchange.question = urls.map Call.load := by
  obtain ⟨deeds, hdeeds, hcalls⟩ := t.calls_take nav b m s
  rw [h] at hdeeds
  rw [hcalls]
  clear h hcalls
  induction urls generalizing deeds with
  | nil =>
    obtain rfl : deeds = [] := by simpa using hdeeds
    rfl
  | cons url urls ih =>
    obtain ⟨⟨d, s'⟩, deeds, rfl⟩ : ∃ x rest, deeds = x :: rest := by
      cases deeds with
      | nil => cases hdeeds
      | cons x rest => exact ⟨x, rest, rfl⟩
    obtain ⟨rfl, hrest⟩ := List.cons.inj hdeeds
    rw [List.flatMap_cons, List.map_append, Deed.questions_load, ih deeds hrest]
    rfl

omit [PageFamily ρ] in
theorem questions_loaded (url : Option String) :
    (loaded url none : List (Done ρ)).map Exchange.question = url.toList.map Deed.load := by
  cases url <;> rfl

namespace Opened
variable {c : Option ρ} {url : Option String} {args : Args} {m m' : Memory ρ} {hs : List (Done ρ)}

/-- A page that cannot be built is not opened, and what was done is to load the URL given with it.
If not even that goes well, the failure is that of the browser. -/
theorem of_unbuilt {d : ρ} {r : Except RouteError (Option (Page ρ))} {err : RouteError}
    (hbuild : PageFamily.build d args = .error err) (h : Opened args m (some d) url hs r m') :
    hs.map Exchange.question = url.toList.map Deed.load ∧ m' = m.next ∧
      (r = .error err ∨ ∃ u e, url = some u ∧ ⟨.load u, .error e⟩ ∈ hs ∧ r = .error e) := by
  cases h with
  | unloaded => exact ⟨rfl, rfl, .inr ⟨_, _, rfl, List.mem_singleton_self _, rfl⟩⟩
  | unbuilt h =>
    rw [hbuild] at h
    cases h
    exact ⟨questions_loaded url, rfl, .inl rfl⟩
  | unopened h | unarrived h | page h =>
    rw [hbuild] at h
    cases h

/-- Where the failure of an opening comes from, if it is neither the browser's nor that there is
nothing to open. -/
theorem failed_by_page {err : RouteError} (h : Opened args m c url hs (.error err) m')
    (hnothing : err ≠ .nothingToOpen)
    (hload : ∀ u, ⟨.load u, .error err⟩ ∉ hs) (hpage : ∀ p, ⟨.loadPage p, .error err⟩ ∉ hs) :
    ∃ d, c = some d ∧
      (PageFamily.build d args = .error err ∨
        ∃ p, PageFamily.build d args = .ok p ∧ ⟨.arrive p, .error err⟩ ∈ hs) := by
  cases h with
  | nothing => exact absurd rfl hnothing
  | unloaded => exact absurd (List.mem_singleton_self _) (hload _)
  | unbuilt hbuild => exact ⟨_, rfl, .inl hbuild⟩
  | unopened => exact absurd (List.mem_singleton_self _) (hpage _)
  | unarrived hbuild => exact ⟨_, rfl, .inr ⟨_, hbuild, by simp⟩⟩

end Opened

/-- A page that cannot be built is never opened: nothing is said to the browser but to load the URL,
if one is given, what was remembered stays, and this is why the opening fails, unless the browser
does not load the URL. An opening that fails for a page that cannot be built is of this kind, or the
page was built and itself fails so as one arrives at it. -/
theorem unbuilt_page_is_never_loaded (nav : Navigator) (b : Browser σ) (c : Option ρ)
    (url : Option String) (args : Args) (m : Memory ρ) (s : σ) :
    let e := (Turn.openPage c url args).take nav b m s
    (∀ d err, c = some d → PageFamily.build d args = .error err →
      (e.calls nav b).map Exchange.question = url.toList.map Call.load ∧ e.after = m.next ∧
      (e.result = .error err ∨ ∃ fault, url ≠ none ∧ e.result = .error (.browser fault))) ∧
    ∀ page cause, e.result = .error (.pageConstruction page cause) →
      ∃ d, c = some d ∧
        (PageFamily.build d args = .error (.pageConstruction page cause) ∨
          ∃ p s', PageFamily.build d args = .ok p ∧
            ((Deed.arrive p).carryOut nav b s').1 = .error (.pageConstruction page cause)) := by
  intro e
  have htake : e = _ := Turn.take_openPage nav b m s c url args
  have hopened : Opened args m c url e.history e.result e.after := by
    rw [htake]
    exact Navigator.opened_opening nav b c url args m s
  have hanswer {d : Deed ρ} {err : RouteError} (hd : ⟨d, .error err⟩ ∈ e.history) :
      ∃ s', (d.carryOut nav b s').1 = .error err := by
    rw [htake] at hd
    obtain ⟨s', hs'⟩ := Trip.outcome_of_mem nav b m s hd
    exact ⟨s', hs'.symm⟩
  constructor
  · rintro d err rfl hbuild
    obtain ⟨hquestions, hafter, hfailed⟩ := hopened.of_unbuilt hbuild
    refine ⟨Turn.questions_of_loads hquestions, hafter, hfailed.imp_right ?_⟩
    rintro ⟨u, err', rfl, hload, hresult⟩
    obtain ⟨s', hs'⟩ := hanswer hload
    obtain ⟨fault, rfl⟩ := Deed.fault_of_load (.inl ⟨u, rfl⟩) hs'
    exact ⟨fault, nofun, hresult⟩
  · intro page cause hresult
    rw [hresult] at hopened
    have hnot {d : Deed ρ} (hd : (∃ url, d = .load url) ∨ ∃ p, d = .loadPage p) :
        ⟨d, .error (.pageConstruction page cause)⟩ ∉ e.history := fun hmem => by
      obtain ⟨s', hs'⟩ := hanswer hmem
      obtain ⟨fault, hfault⟩ := Deed.fault_of_load hd hs'
      cases hfault
    obtain ⟨d, rfl, hbuild | ⟨p, hbuild, harrive⟩⟩ := hopened.failed_by_page nofun
      (fun u => hnot (.inl ⟨u, rfl⟩)) (fun p => hnot (.inr ⟨p, rfl⟩))
    · exact ⟨d, rfl, .inl hbuild⟩
    · obtain ⟨s', hs'⟩ := hanswer harrive
      exact ⟨d, rfl, .inr ⟨p, s', hbuild, hs'⟩⟩

namespace Yard

theorem unbuilt_gate :
    PageFamily.build (⟨site, gate⟩ : SitePage) ∅ =
      .error (.pageConstruction "Gate" (.missing "/gate/\x7bside\x7d" "side")) := rfl

def guess (url : Option String) : Episode SitePage String :=
  (Turn.openPage (some ⟨site, gate⟩) url ∅).take {} House.lamp {} "#gate"

end Yard

theorem guess_is_not_loaded :
    PageFamily.build (⟨Yard.site, Yard.gate⟩ : SitePage) ∅ =
      .error (.pageConstruction "Gate" (.missing "/gate/\x7bside\x7d" "side")) ∧
    ((Yard.guess none).calls {} House.lamp).map Exchange.question = [] ∧
    (Yard.guess none).after = Memory.next {} ∧
    (Yard.guess none).result =
      .error (.pageConstruction "Gate" (.missing "/gate/\x7bside\x7d" "side")) := by
  obtain ⟨hcalls, hafter, hresult⟩ := (unbuilt_page_is_never_loaded {} House.lamp
    (some (⟨Yard.site, Yard.gate⟩ : SitePage)) none ∅ {} "#gate").1 _ _ rfl Yard.unbuilt_gate
  exact ⟨Yard.unbuilt_gate, hcalls, hafter, hresult.resolve_right fun ⟨_, h, _⟩ => h rfl⟩

inductive Trapdoor where
  | lid

namespace Trapdoor

def fall : RouteError := .pageConstruction "Cellar" (.missing "/cellar/\x7bstep\x7d" "step")

instance : PageFamily Trapdoor where
  key _ := .own ⟨0, "Trapdoor"⟩
  build c _ := .ok
    { cls := c, path := "/lid", prerequisite := none, isDisplayed := isAtPath "/lid"
      arrive := throw fall }

def stepped : Episode Trapdoor String :=
  (Turn.openPage (some lid) (some "https://yard.test/lid") ∅).take {} House.lamp {} "#gate"

end Trapdoor

/-- When a URL is given with it, a page that cannot be built is found out only at the URL; and what
a page does as one arrives at it comes later still. -/
theorem found_out_at_the_url :
    ((Yard.guess (some "https://yard.test/gate/west")).result =
        .error (.pageConstruction "Gate" (.missing "/gate/\x7bside\x7d" "side")) ∧
      (Yard.guess (some "https://yard.test/gate/west")).calls {} House.lamp =
        [⟨.load "https://yard.test/gate/west", .ok ()⟩]) ∧
    Trapdoor.stepped.result = .error Trapdoor.fall ∧
    Trapdoor.stepped.calls {} House.lamp = [⟨.load "https://yard.test/lid", .ok ()⟩] :=
  ⟨⟨rfl, rfl⟩, rfl, rfl⟩

end Wayfinder
