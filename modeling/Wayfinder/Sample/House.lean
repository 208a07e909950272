import Wayfinder.Route.Deed
import Wayfinder.Site.Pages

/-! A site map of two pages, a hall and an attic to which one climbs from it, and a browser that
shows only the element clicked last. -/
namespace Wayfinder
namespace House

def site : SiteMap :=
  { name := "House"
    pages :=
      [{ name := "Hall", path := "/hall", checks := [.visible "#hall"]
         steps :=
           [{ dest := "Attic", name := some "climb", actions := [.click (.ofCss "#attic")] }] },
       { name := "Attic", path := "/attic", prerequisite := some "Hall"
         checks := [.visible "#attic"] }] }

def hall : SitePage :=
  ⟨site,
    { name := "Hall", path := "/hall", checks := [.visible "#hall"]
      steps := [{ dest := "Attic", name := some "climb", actions := [.click (.ofCss "#attic")] }] }⟩

def attic : SitePage :=
  ⟨site,
    { name := "Attic", path := "/attic", prerequisite := some "Hall"
      checks := [.visible "#attic"] }⟩

def hallPage : Page SitePage := hall.page ∅ "/hall"

def atticPage : Page SitePage := attic.page ∅ "/attic"

def lamp : Browser String where
  answer
    | .click hint, _ => (.ok (), hint.label)
    | .isVisible css, s => (.ok (css == s), s)
    | .currentUrl, s => (.ok "", s)
    | .load _, s | .fill _ _, s | .settle, s => (.ok (), s)
    | .textOf _, s => (.ok none, s)
    | .count _, s => (.ok 0, s)

theorem class?_attic : site.class? "Attic" = some attic := rfl

theorem cls_attic : atticPage.cls = attic := rfl

theorem build_hall : PageFamily.build hall ∅ = .ok hallPage := by
  have hrender : Template.render "/hall" ∅ = .ok "/hall" := rfl
  simp [PageFamily.build, SitePage.build, hall, hrender, hallPage]

theorem build_attic : PageFamily.build attic ∅ = .ok atticPage := by
  have hrender : Template.render "/attic" ∅ = .ok "/attic" := rfl
  simp [PageFamily.build, SitePage.build, attic, hrender, atticPage]

theorem prerequisite_hall : hallPage.prerequisite = none := rfl

theorem prerequisite_attic : atticPage.prerequisite = some hall := rfl

theorem run_visible (path selector : String) (args : Args) (s : String) :
    Dialogue.run lamp (Check.allHold path args [.visible selector]).run s =
      (.ok (Check.fillLoosely selector args == s), s) := by
  have hanswer : lamp.answer (.isVisible (Check.fillLoosely selector args)) s =
      (.ok (Check.fillLoosely selector args == s), s) := rfl
  rw [Check.allHold, Dialogue.run_bind, Check.holds, Dialogue.run_ask, hanswer]
  cases Check.fillLoosely selector args == s <;> rfl

theorem run_isDisplayed_hall (s : String) :
    Dialogue.run lamp hallPage.isDisplayed.run s = (.ok ("#hall" == s), s) := by
  have hfill : Check.fillLoosely "#hall" ∅ = "#hall" := rfl
  rw [← hfill]
  exact run_visible "/hall" "#hall" ∅ s

theorem run_isDisplayed_attic (s : String) :
    Dialogue.run lamp atticPage.isDisplayed.run s = (.ok ("#attic" == s), s) := by
  have hfill : Check.fillLoosely "#attic" ∅ = "#attic" := rfl
  rw [← hfill]
  exact run_visible "/attic" "#attic" ∅ s

/-- Whatever the browser shows, the one step of the hall leads to the attic. -/
theorem run_dispatch (s : String) :
    Dialogue.run lamp (hallPage.steps.dispatch Rule.inOrder atticPage ∅).run s =
      (.ok ⟨.className, "climb"⟩, "#attic") := by
  have hchoose : hallPage.steps.choose? Rule.inOrder atticPage = some (.className,
      ⟨"Hall", "climb", .named "Attic", [],
        .withArgs (Action.runAll · [.click (.ofCss "#attic")])⟩) := rfl
  have hrender : Template.render "#attic" ∅ = .ok "#attic" := rfl
  simp only [Steps.dispatch, hchoose, Rule.invoke, Step.invokeWithArgs, Step.runWithArgs, Step.bind,
    bindParams, bindFrom, Action.runAll, Action.run, fillHint, fillOptional, Hint.ofCss,
    fillTemplate, hrender]
  rfl

end House
end Wayfinder
