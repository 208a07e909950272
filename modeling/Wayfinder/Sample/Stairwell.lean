import Wayfinder.Sample.House
import Wayfinder.Site.Validity

/-! A site map that cannot be entered: a stair leads up from a landing, and landing and gallery
require each other. -/
namespace Wayfinder
namespace Stairwell

def storey (name below : String) : PageDef :=
  { name, path := "/" ++ name ++ "/\x7bfloor\x7d", prerequisite := some below
    checks := [.visible ("#" ++ name)] }

def site : SiteMap :=
  { name := "Stairwell"
    pages := [storey "Stair" "Landing", storey "Landing" "Gallery", storey "Gallery" "Landing"] }

def args : Args := SortedMap.ofPairs [("floor", .str "2")]

/-- In the dark the lamp shows none of the storeys. -/
theorem run_isDisplayed (c : SitePage) (path : String) (hc : c.decl ∈ site.pages) :
    Dialogue.run House.lamp (c.page args path).isDisplayed.run "" = (.ok false, "") := by
  have hchecks : ∃ name ∈ ["Stair", "Landing", "Gallery"], c.checks = [.visible ("#" ++ name)] := by
    simp only [site, List.mem_cons, List.not_mem_nil, or_false] at hc
    obtain h | h | h := hc <;> simp [SitePage.checks, h, storey]
  obtain ⟨name, hname, hchecks⟩ := hchecks
  have hdark : (Check.fillLoosely ("#" ++ name) args == "") = false := by
    simp only [List.mem_cons, List.not_mem_nil, or_false] at hname
    obtain rfl | rfl | rfl := hname <;> decide
  change Dialogue.run House.lamp (Check.allHold path args c.checks).run "" = _
  rw [hchecks, House.run_visible, hdark]

end Stairwell
end Wayfinder
