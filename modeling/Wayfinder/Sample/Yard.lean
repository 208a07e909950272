import Mathlib.Data.List.Permutation
import Wayfinder.Sample.House
import Wayfinder.Site.Validity

/-! A site map of two pages that require nothing: a gate, and a garden behind it which is entered
with a key. -/
namespace Wayfinder
namespace Yard

def gate : PageDef :=
  { name := "Gate", path := "/gate/\x7bside\x7d", checks := [.visible "#gate"]
    steps :=
      [{ dest := "Garden", params := [.required "key"]
         actions := [.fill (.ofCss "#lock") "\x7bkey\x7d", .click (.ofCss "#garden")] }] }

def garden : PageDef := { name := "Garden", path := "/garden", checks := [.visible "#garden"] }

def site : SiteMap := { name := "Yard", pages := [gate, garden] }

theorem validate_site : site.validate = .ok () := by cbv

def west : Args := SortedMap.ofPairs [("side", .str "west")]

def key : Args := SortedMap.ofPairs [("key", .str "7")]

end Yard
end Wayfinder
