import Wayfinder.Doc.Hint
import Wayfinder.Site.Basic
import Wayfinder.Yaml.Document

/-! Site maps as JSON values and as documents. What a map leaves out is empty or absent; a map
written out names every field. -/
namespace Wayfinder

namespace Check

def kinds : List String := ["visible", "url_contains", "path_matches"]

def encode : Check → Json
  | .visible selector => .obj [("check", .str "visible"), ("selector", .str selector)]
  | .urlContains expected => .obj [("check", .str "url_contains"), ("expected", .str expected)]
  | .pathMatches => .obj [("check", .str "path_matches")]

def decode? : Decoder Check := fun d => do
  match ← d.variant? "check" kinds with
  | ("visible", d) =>
    match ← d.fields? ["selector"] with
    | [selector] => return .visible (← Doc.required Doc.text? selector)
    | _ => none
  | ("url_contains", d) =>
    match ← d.fields? ["expected"] with
    | [expected] => return .urlContains (← Doc.required Doc.text? expected)
    | _ => none
  | (_, .list (_ :: _)) => none
  | _ => return .pathMatches

end Check

namespace ParamDef

def encode : ParamDef → Json
  | .required name => .str name
  | .withDefault name default => .obj [("name", .str name), ("default", default)]

def decode? : Decoder ParamDef := fun d => do
  match ← d.settle with
  | .json (.str name) => return .required name
  | .json (.arr _) | .list _ => none
  | d =>
    match ← d.fields? ["name", "default"] with
    | [name, default] =>
      return .withDefault (← Doc.required Doc.text? name) (← Doc.required Doc.json? default)
    | _ => none

end ParamDef

namespace Action

def kinds : List String := ["click", "fill", "goto"]

def encode : Action → Json
  | .click hint => .obj [("action", .str "click"), ("selector", hint.encode)]
  | .fill hint value =>
    .obj [("action", .str "fill"), ("selector", hint.encode), ("value", .str value)]
  | .goto path => .obj [("action", .str "goto"), ("path", .str path)]

def decode? : Decoder Action := fun d => do
  match ← d.variant? "action" kinds with
  | ("click", d) =>
    match ← d.fields? ["selector"] with
    | [selector] => return .click (← Doc.required Hint.decode? selector)
    | _ => none
  | ("fill", d) =>
    match ← d.fields? ["selector", "value"] with
    | [selector, value] =>
      return .fill (← Doc.required Hint.decode? selector) (← Doc.required Doc.text? value)
    | _ => none
  | (_, d) =>
    match ← d.fields? ["path"] with
    | [path] => return .goto (← Doc.required Doc.text? path)
    | _ => none

end Action

namespace StepDef

def encode (s : StepDef) : Json :=
  .obj [("to", .str s.dest), ("name", .ofOption .str s.name),
    ("params", .arr (s.params.map ParamDef.encode)),
    ("actions", .arr (s.actions.map Action.encode))]

def decode? : Decoder StepDef := fun d => do
  match ← d.fields? ["to", "name", "params", "actions"] with
  | [dest, name, params, actions] =>
    return {
      dest := ← Doc.required Doc.text? dest
      name := ← Doc.optional Doc.text? name
      params := ← Doc.defaulted [] (Doc.listOf ParamDef.decode?) params
      actions := ← Doc.required (Doc.listOf Action.decode?) actions }
  | _ => none

end StepDef

namespace MenuLink

def encode (link : MenuLink) : Json :=
  .obj [("name", .str link.name), ("selector", .ofOption Hint.encode link.selector)]

def decode? : Decoder MenuLink := fun d => do
  match ← d.fields? ["name", "selector"] with
  | [name, selector] =>
    return {
      name := ← Doc.required Doc.text? name
      selector := ← Doc.optional Hint.decode? selector }
  | _ => none

end MenuLink

namespace PageDef

def encode (p : PageDef) : Json :=
  .obj [("name", .str p.name), ("path", .str p.path),
    ("prerequisite", .ofOption .str p.prerequisite),
    ("checks", .arr (p.checks.map Check.encode)), ("steps", .arr (p.steps.map StepDef.encode))]

def decode? : Decoder PageDef := fun d => do
  match ← d.fields? ["name", "path", "prerequisite", "checks", "steps"] with
  | [name, path, prerequisite, checks, steps] =>
    return {
      name := ← Doc.required Doc.text? name
      path := ← Doc.required Doc.text? path
      prerequisite := ← Doc.optional Doc.text? prerequisite
      checks := ← Doc.defaulted [] (Doc.listOf Check.decode?) checks
      steps := ← Doc.defaulted [] (Doc.listOf StepDef.decode?) steps }
  | _ => none

end PageDef

namespace SiteMap

def encode (site : SiteMap) : Json :=
  .obj [("name", .str site.name), ("menu", .arr (site.menu.map MenuLink.encode)),
    ("pages", .arr (site.pages.map PageDef.encode))]

def decode? : Decoder SiteMap := fun d => do
  match ← d.fields? ["name", "menu", "pages"] with
  | [name, menu, pages] =>
    return {
      name := ← Doc.required Doc.text? name
      menu := ← Doc.defaulted [] (Doc.listOf MenuLink.decode?) menu
      pages := ← Doc.required (Doc.listOf PageDef.decode?) pages }
  | _ => none

end SiteMap
end Wayfinder
