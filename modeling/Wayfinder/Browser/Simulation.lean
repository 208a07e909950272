import Wayfinder.Browser.Dialogue
import Wayfinder.SortedMap

/-! A browser that is only simulated: an open URL, links that lead elsewhere, and what each element
shows. Calls are logged, and a call may be set to fail. -/
namespace Wayfinder

namespace Call

def verb : Call → String
  | .currentUrl => "current_url"
  | .load _ => "goto"
  | .click _ => "click"
  | .fill _ _ => "fill"
  | .isVisible _ => "visible"
  | .textOf _ => "text"
  | .count _ => "count"
  | .settle => "settle"

def subject? : Call → Option String
  | .currentUrl | .settle => none
  | .load url => some url
  | .click hint | .fill hint _ => some hint.label
  | .isVisible css | .textOf css | .count css => some css

def value? : Call → Option String
  | .fill _ value => some value
  | _ => none

def words (c : Call) : List String := c.verb :: c.subject?.toList ++ c.value?.toList

def key (c : Call) : String := String.intercalate " " (c.verb :: c.subject?.toList)

end Call

inductive Mishap where
  | element (reason : String)
  | pipe (text : String)
  | refused (command text : String)
  | invalidUrl (text : String)
deriving DecidableEq, Repr

def Mishap.fault (c : Call) : Mishap → Fault
  | .element reason => .element (c.subject?.getD "") reason
  | .pipe text => .pipe text
  | .refused command text => .refused command text
  | .invalidUrl text => .invalidUrl text

structure Simulation where
  url : String := ""
  links : SortedMap String := ∅
  shown : SortedMap (List String) := ∅
  texts : SortedMap String := ∅
  counts : SortedMap Nat := ∅
  mishaps : SortedMap Mishap := ∅
  received : List Call := []

namespace Simulation

def home : String := "https://portal.test"

def receive (c : Call) (s : Simulation) : Except Fault Unit × Simulation :=
  (match s.mishaps.get? c.key with
    | some mishap => .error (mishap.fault c)
    | none => .ok (),
   { s with received := c :: s.received })

def anchorPath? (label : String) : Option String := do
  let rest ← Text.dropPrefix? "a[href='".toList label.toList
  let path ← Text.dropPrefix? "']".toList.reverse rest.reverse
  return String.ofList path.reverse

def target? (s : Simulation) (label : String) : Option String :=
  (s.links.get? label).or (anchorPath? label)

def resolve (target : String) : String :=
  if Text.contains Url.schemeEnd target.toList then target else home ++ target

def load (url : String) (s : Simulation) : Except Fault Unit × Simulation :=
  match s.receive (.load url) with
  | (.ok (), s) => receive .settle { s with url }
  | failed => failed

def follow (hint : Hint) (s : Simulation) : Except Fault Unit × Simulation :=
  match s.receive (.click hint) with
  | (.ok (), s) =>
    match s.target? hint.label with
    | some target => s.load (resolve target)
    | none => s.receive .settle
  | failed => failed

def look (c : Call) (value : Simulation → α) (s : Simulation) : Except Fault α × Simulation :=
  let (outcome, s) := s.receive c
  (outcome.map fun _ => value s, s)

def answer : (c : Call) → Simulation → Except Fault c.Reply × Simulation
  | .currentUrl, s => s.look .currentUrl (·.url)
  | .load url, s => s.load url
  | .click hint, s => s.follow hint
  | .fill hint value, s => s.receive (.fill hint value)
  | .isVisible css, s =>
    s.look (.isVisible css) fun s => ((s.shown.get? (Url.path s.url)).getD []).contains css
  | .textOf css, s => s.look (.textOf css) (·.texts.get? css)
  | .count css, s => s.look (.count css) fun s => (s.counts.get? css).getD 0
  | .settle, s => s.receive .settle

def browser : Browser Simulation := ⟨answer⟩

end Simulation
end Wayfinder
