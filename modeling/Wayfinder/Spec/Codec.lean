import Wayfinder.Doc.Hint
import Wayfinder.Spec.Basic

/-! Specs and results as JSON values and as documents. -/
namespace Wayfinder

def encodeArgs (args : Args) : Json := .obj args.entries

namespace Assertion

def kinds : List String :=
  ["url_contains", "url_equals", "page_displayed", "element_text", "element_visible",
    "element_count"]

def maxCount : Nat := 0xFFFFFFFF

def encode : Assertion → Json
  | .urlContains expected => .obj [("type", .str "url_contains"), ("expected", .str expected)]
  | .urlEquals expected => .obj [("type", .str "url_equals"), ("expected", .str expected)]
  | .pageDisplayed page args =>
    .obj [("type", .str "page_displayed"), ("page", .str page), ("args", encodeArgs args)]
  | .elementText selector expected =>
    .obj [("type", .str "element_text"), ("selector", .str selector), ("expected", .str expected)]
  | .elementVisible selector => .obj [("type", .str "element_visible"), ("selector", .str selector)]
  | .elementCount selector expected =>
    .obj [("type", .str "element_count"), ("selector", .str selector),
      ("expected", .ofNat expected)]

def decode? : Decoder Assertion := fun d => do
  match ← d.variant? "type" kinds with
  | ("url_contains", d) =>
    match ← d.fields? ["expected"] with
    | [expected] => return .urlContains (← Doc.required Doc.text? expected)
    | _ => none
  | ("url_equals", d) =>
    match ← d.fields? ["expected"] with
    | [expected] => return .urlEquals (← Doc.required Doc.text? expected)
    | _ => none
  | ("page_displayed", d) =>
    match ← d.fields? ["page", "args"] with
    | [page, args] =>
      return .pageDisplayed (← Doc.required Doc.text? page) (← Doc.defaulted ∅ Doc.args? args)
    | _ => none
  | ("element_text", d) =>
    match ← d.fields? ["selector", "expected"] with
    | [selector, expected] =>
      return .elementText (← Doc.required Doc.text? selector) (← Doc.required Doc.text? expected)
    | _ => none
  | ("element_visible", d) =>
    match ← d.fields? ["selector"] with
    | [selector] => return .elementVisible (← Doc.required Doc.text? selector)
    | _ => none
  | (_, d) =>
    match ← d.fields? ["selector", "expected"] with
    | [selector, expected] =>
      return .elementCount (← Doc.required Doc.text? selector)
        (← Doc.required (Doc.natUpTo? maxCount) expected)
    | _ => none

end Assertion

namespace SpecStep

def kinds : List String := ["open", "navigate", "click", "fill", "assert"]

def encode : SpecStep → Json
  | .openPage page url args =>
    .obj [("action", .str "open"), ("page", .ofOption .str page), ("url", .ofOption .str url),
      ("args", encodeArgs args)]
  | .navigate page args =>
    .obj [("action", .str "navigate"), ("page", .str page), ("args", encodeArgs args)]
  | .click hint => .obj [("action", .str "click"), ("selector", hint.encode)]
  | .fill hint value =>
    .obj [("action", .str "fill"), ("selector", hint.encode), ("value", .str value)]
  | .check assertions =>
    .obj [("action", .str "assert"), ("assertions", .arr (assertions.map Assertion.encode))]

def decode? : Decoder SpecStep := fun d => do
  match ← d.variant? "action" kinds with
  | ("open", d) =>
    match ← d.fields? ["page", "url", "args"] with
    | [page, url, args] =>
      return .openPage (← Doc.optional Doc.text? page) (← Doc.optional Doc.text? url)
        (← Doc.defaulted ∅ Doc.args? args)
    | _ => none
  | ("navigate", d) =>
    match ← d.fields? ["page", "args"] with
    | [page, args] =>
      return .navigate (← Doc.required Doc.text? page) (← Doc.defaulted ∅ Doc.args? args)
    | _ => none
  | ("click", d) =>
    match ← d.fields? ["selector"] with
    | [selector] => return .click (← Doc.required Hint.decode? selector)
    | _ => none
  | ("fill", d) =>
    match ← d.fields? ["selector", "value"] with
    | [selector, value] =>
      return .fill (← Doc.required Hint.decode? selector) (← Doc.required Doc.text? value)
    | _ => none
  | (_, d) =>
    match ← d.fields? ["assertions"] with
    | [assertions] => return .check (← Doc.required (Doc.listOf Assertion.decode?) assertions)
    | _ => none

end SpecStep

namespace Spec

def encode (s : Spec) : Json :=
  .obj [("name", .str s.name), ("start_url", .ofOption .str s.startUrl),
    ("steps", .arr (s.steps.map SpecStep.encode))]

def decode? : Decoder Spec := fun d => do
  match ← d.fields? ["name", "start_url", "steps"] with
  | [name, startUrl, steps] =>
    return {
      name := ← Doc.required Doc.text? name
      startUrl := ← Doc.optional Doc.text? startUrl
      steps := ← Doc.required (Doc.listOf SpecStep.decode?) steps }
  | _ => none

end Spec

namespace Verdict

def encode (v : Verdict) : Json :=
  .obj [("step_index", .ofNat v.stepIndex), ("spec", v.assertion.encode),
    ("passed", .bool v.passed), ("actual", .ofOption .str v.actual),
    ("message", .ofOption .str v.message)]

def decode? : Decoder Verdict := fun d => do
  match ← d.fields? ["step_index", "spec", "passed", "actual", "message"] with
  | [stepIndex, assertion, passed, actual, message] =>
    return {
      stepIndex := ← Doc.required (Doc.natUpTo? maxWord) stepIndex
      assertion := ← Doc.required Assertion.decode? assertion
      passed := ← Doc.required Doc.flag? passed
      actual := ← Doc.optional Doc.text? actual
      message := ← Doc.optional Doc.text? message }
  | _ => none

end Verdict

namespace SpecResult

def encode (r : SpecResult) : Json :=
  .obj [("spec_name", .str r.specName), ("passed", .bool r.passed),
    ("steps_run", .ofNat r.stepsRun), ("pages", .ofStrings r.pages),
    ("assertion_results", .arr (r.verdicts.map Verdict.encode)),
    ("error", .ofOption .str r.error)]

def decode? : Decoder SpecResult := fun d => do
  match ← d.fields?
    ["spec_name", "passed", "steps_run", "pages", "assertion_results", "error"] with
  | [specName, passed, stepsRun, pages, verdicts, error] =>
    return {
      specName := ← Doc.required Doc.text? specName
      passed := ← Doc.required Doc.flag? passed
      stepsRun := ← Doc.required (Doc.natUpTo? maxWord) stepsRun
      pages := ← Doc.required (Doc.listOf Doc.text?) pages
      verdicts := ← Doc.required (Doc.listOf Verdict.decode?) verdicts
      error := ← Doc.optional Doc.text? error }
  | _ => none

end SpecResult
end Wayfinder
