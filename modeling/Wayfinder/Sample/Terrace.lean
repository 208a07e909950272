import Wayfinder.Sample.House

/-! A site map with a menu: a porch with two ways into a lawn, and a lawn from which only the menu
leads back. -/
namespace Wayfinder
namespace Terrace

def gate : StepDef := { dest := "Lawn", name := some "gate", actions := [.click (.ofCss "#lawn")] }

def detour : StepDef := { dest := "Lawn", actions := [.click (.ofCss "#stile")] }

def porch : PageDef :=
  { name := "Porch", path := "/porch", checks := [.visible "#porch"], steps := [gate, detour] }

def lawn : PageDef := { name := "Lawn", path := "/lawn", checks := [.visible "#lawn"] }

def sign : MenuLink := { name := "sign" }

def site : SiteMap := { name := "Terrace", menu := [sign], pages := [porch, lawn] }

def porchPage : Page SitePage := SitePage.page ⟨site, porch⟩ ∅ "/porch"

def lawnPage : Page SitePage := SitePage.page ⟨site, lawn⟩ ∅ "/lawn"

theorem build_porch : PageFamily.build (⟨site, porch⟩ : SitePage) ∅ = .ok porchPage := rfl

theorem build_lawn : PageFamily.build (⟨site, lawn⟩ : SitePage) ∅ = .ok lawnPage := rfl

theorem run_isDisplayed_lawn :
    Dialogue.run House.lamp lawnPage.isDisplayed.run "" = (.ok false, "") :=
  House.run_visible "/lawn" "#lawn" ∅ ""

end Terrace
end Wayfinder
