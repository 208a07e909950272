import Wayfinder.Site.Basic

/-! The prerequisite forest of a site map as indented lines, a page above those that require it. -/
namespace Wayfinder.SiteMap

def treeLine (depth : Nat) (p : PageDef) : String :=
  String.join (List.replicate depth "  ") ++ p.name ++ " " ++ p.path
    ++ (if p.steps.isEmpty then ""
        else " -> [" ++ String.intercalate ", " (p.steps.map (·.dest)) ++ "]")

/-- The line of a page and those of the pages below it. A chain of prerequisites without a circle
is no longer than the number of pages, which is what `room` starts from. -/
def treeFrom (site : SiteMap) : Nat → Nat → PageDef → List String
  | 0, _, _ => []
  | room + 1, depth, p =>
    treeLine depth p :: (site.dependents p.name).flatMap (treeFrom site room (depth + 1))

def treeLines (site : SiteMap) : List String :=
  site.roots.flatMap (site.treeFrom site.pages.length 0)

def tree (site : SiteMap) : String := String.join (site.treeLines.map (· ++ "\n"))

end Wayfinder.SiteMap
