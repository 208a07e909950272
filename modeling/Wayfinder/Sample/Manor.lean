import Mathlib.Data.List.Permutation
import Wayfinder.Site.Forest
import Wayfinder.Site.Validity

/-! A site map of two trees, some of its pages declared before the ones that they require. -/
namespace Wayfinder
namespace Manor

def site : SiteMap :=
  { name := "Manor"
    pages :=
      [{ name := "Vault", path := "/vault/\x7bkey\x7d", prerequisite := some "Cellar" },
       { name := "Gate", path := "/gate", steps := [{ dest := "Hall", actions := [] }] },
       { name := "Cellar", path := "/cellar", prerequisite := some "Hall" },
       { name := "Hall", path := "/hall"
         steps := [{ dest := "Attic", actions := [] }, { dest := "Cellar", actions := [] }] },
       { name := "Attic", path := "/attic", prerequisite := some "Hall" }] }

theorem validate_site : site.validate = .ok () := by cbv

end Manor
end Wayfinder
