import Wayfinder.Site.Basic

/-! What can be wrong with a site map, and which fault is reported first: a name declared twice;
then, page by page, an unclosed template, an unknown prerequisite, an unknown destination; then the
first page from which the prerequisites run in a circle. -/
namespace Wayfinder

inductive SiteDefect where
  | duplicatePage (name : String)
  | unknownPrerequisite (page prerequisite : String)
  | unknownDestination (page dest : String)
  | prerequisiteCycle (chain : List String)
  | template (page : String) (cause : TemplateError)
deriving DecidableEq, Repr

def SiteDefect.message : SiteDefect → String
  | .duplicatePage name => "page '" ++ name ++ "' declared twice"
  | .unknownPrerequisite page prerequisite =>
    "page '" ++ page ++ "' requires unknown page '" ++ prerequisite ++ "'"
  | .unknownDestination page dest =>
    "page '" ++ page ++ "' has a step to unknown page '" ++ dest ++ "'"
  | .prerequisiteCycle chain => "prerequisite cycle: " ++ String.intercalate " -> " chain
  | .template page cause => "page '" ++ page ++ "': " ++ cause.message

namespace SiteMap

def firstRepeat? (seen : List String) : List String → Option String
  | [] => none
  | name :: rest => if name ∈ seen then some name else firstRepeat? (name :: seen) rest

def declares (site : SiteMap) (name : String) : Bool := site.pages.any (·.name == name)

def unclosedPath? (p : PageDef) : Option SiteDefect :=
  match Template.placeholders p.path with
  | .error cause => some (.template p.name cause)
  | .ok _ => none

def unknownPrerequisite? (site : SiteMap) (p : PageDef) : Option SiteDefect :=
  (p.prerequisite.filter (!site.declares ·)).map (.unknownPrerequisite p.name)

def unknownDestination? (site : SiteMap) (p : PageDef) : Option SiteDefect :=
  (p.steps.find? (!site.declares ·.dest)).map fun s => .unknownDestination p.name s.dest

def pageDefect? (site : SiteMap) (p : PageDef) : Option SiteDefect :=
  (unclosedPath? p).or ((site.unknownPrerequisite? p).or (site.unknownDestination? p))

def outside (site : SiteMap) (chain : List String) : List PageDef :=
  site.pages.filter (·.name ∉ chain)

theorem outside_append_lt {site : SiteMap} {chain : List String} {p : PageDef}
    (hp : p ∈ site.pages) (hn : p.name ∉ chain) :
    (site.outside (chain ++ [p.name])).length < (site.outside chain).length := by
  have hsub : site.outside (chain ++ [p.name])
      = (site.outside chain).filter fun q => q.name ≠ p.name := by
    simp only [outside, List.filter_filter]
    congr 1
    funext q
    by_cases h : q.name = p.name <;> simp [h, hn]
  rw [hsub]
  have hmem : p ∈ site.outside chain := by simp [outside, hp, hn]
  refine Nat.lt_of_le_of_ne (List.length_filter_le _ _) fun he => ?_
  have := List.length_filter_eq_length_iff.1 he p hmem
  simp at this

set_option linter.unusedVariables false in
/-- Follows prerequisites from a page, `chain` being the names passed so far; gives the names up to
the first that comes again. -/
def circleFrom? (site : SiteMap) (chain : List String) (p : PageDef) : Option (List String) :=
  match h : site.required? p with
  | none => none
  | some q =>
    if hq : q.name ∈ chain then some (chain ++ [q.name])
    else circleFrom? site (chain ++ [q.name]) q
termination_by (site.outside chain).length
decreasing_by exact outside_append_lt (mem_of_required? h) hq

def circle? (site : SiteMap) (p : PageDef) : Option (List String) := site.circleFrom? [p.name] p

def defect? (site : SiteMap) : Option SiteDefect :=
  ((firstRepeat? [] (site.pages.map (·.name))).map .duplicatePage).or
    ((site.pages.findSome? site.pageDefect?).or
      ((site.pages.findSome? site.circle?).map .prerequisiteCycle))

def validate (site : SiteMap) : Except SiteDefect Unit :=
  match site.defect? with
  | some d => .error d
  | none => .ok ()

end SiteMap
end Wayfinder
