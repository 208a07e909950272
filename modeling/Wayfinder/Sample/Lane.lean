import Wayfinder.Site.Pages

/-! A site map of the doors of a lane, which are known by their paths alone, and a browser that is
nothing but the line in which its address stands. -/
namespace Wayfinder
namespace Lane

def door : PageDef := { name := "Door", path := "/doors/\x7bnumber\x7d" }

def site : SiteMap := { name := "Lane", pages := [door] }

def addressLine : Browser String where
  answer
    | .currentUrl, s => (.ok s, s)
    | .load url, _ => (.ok (), url)
    | .click _, s | .fill _ _, s | .settle, s => (.ok (), s)
    | .isVisible _, s => (.ok false, s)
    | .textOf _, s => (.ok none, s)
    | .count _, s => (.ok 0, s)

def ringing : Args := SortedMap.ofPairs [("number", .str "4?ring=yes")]

def ringingPage : Page SitePage := SitePage.page ⟨site, door⟩ ringing "/doors/4?ring=yes"

theorem build_ringing : PageFamily.build (⟨site, door⟩ : SitePage) ringing = .ok ringingPage := rfl

end Lane
end Wayfinder
