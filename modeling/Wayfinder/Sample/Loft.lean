import Mathlib.Data.List.Permutation
import Wayfinder.Sample.House
import Wayfinder.Site.Validity

/-! A site map of two pages, a landing and a loft to which a ladder leads up from it. The selector
of the ladder opens a brace that is closed nowhere. -/
namespace Wayfinder
namespace Loft

def landing : PageDef :=
  { name := "Landing", path := "/landing", checks := [.visible "#landing"]
    steps :=
      [{ dest := "Loft", name := some "climb", actions := [.click (.ofCss "#ladder-\x7bside")] }] }

def loft : PageDef :=
  { name := "Loft", path := "/loft", prerequisite := some "Landing", checks := [.visible "#loft"] }

def site : SiteMap := { name := "House with a loft", pages := [landing, loft] }

def landingPage : Page SitePage := SitePage.page ⟨site, landing⟩ ∅ "/landing"

def loftPage : Page SitePage := SitePage.page ⟨site, loft⟩ ∅ "/loft"

theorem validate_site : site.validate = .ok () := by cbv

theorem build_landing : PageFamily.build (⟨site, landing⟩ : SitePage) ∅ = .ok landingPage := rfl

theorem build_loft : PageFamily.build (⟨site, loft⟩ : SitePage) ∅ = .ok loftPage := rfl

theorem prerequisite_loft : loftPage.prerequisite = some ⟨site, landing⟩ := rfl

theorem run_isDisplayed_landing :
    Dialogue.run House.lamp landingPage.isDisplayed.run "#landing" = (.ok true, "#landing") :=
  House.run_visible "/landing" "#landing" ∅ "#landing"

theorem run_isDisplayed_loft :
    Dialogue.run House.lamp loftPage.isDisplayed.run "#landing" = (.ok false, "#landing") :=
  House.run_visible "/loft" "#loft" ∅ "#landing"

def stuck : RouteError :=
  .stepFailed "Landing" "climb" (.template (.unclosed "#ladder-\x7bside"))

theorem run_dispatch :
    Dialogue.run House.lamp (landingPage.steps.dispatch Rule.inOrder loftPage ∅).run "#landing" =
      (.error stuck, "#landing") := by
  have hchoose : landingPage.steps.choose? Rule.inOrder loftPage = some (.className,
      ⟨"Landing", "climb", .named "Loft", [],
        .withArgs (Action.runAll · [.click (.ofCss "#ladder-\x7bside")])⟩) := rfl
  have hrender : Template.render "#ladder-\x7bside" ∅ = .error (.unclosed "#ladder-\x7bside") := rfl
  simp only [Steps.dispatch, hchoose, Rule.invoke, Step.invokeWithArgs, Step.runWithArgs, Step.bind,
    bindParams, bindFrom, Action.runAll, Action.run, fillHint, fillOptional, Hint.ofCss,
    fillTemplate, hrender]
  rfl

end Loft
end Wayfinder
