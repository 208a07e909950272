import Wayfinder.Number.Shortest
import Wayfinder.Spec.Codec

/-! The report of a suite: how many specs passed, and a console text with one line for each spec,
each error and each assertion that did not pass. -/
namespace Wayfinder

structure Report where
  suite : String
  results : List SpecResult
  /-- How long the suite ran, in milliseconds. -/
  duration : Option Nat := none

namespace Report

def total (r : Report) : Nat := r.results.length

def passed (r : Report) : Nat := r.results.countP (·.passed)

def failed (r : Report) : Nat := r.total - r.passed

def pagesReached (r : Report) : Nat := r.results.foldl (fun n result => n + result.pages.length) 0

def allPassed (r : Report) : Bool := r.failed == 0

def encode (r : Report) : Json :=
  .obj <|
    [("suite_name", .str r.suite), ("total", .ofNat r.total), ("passed", .ofNat r.passed),
      ("failed", .ofNat r.failed), ("pages_reached", .ofNat r.pagesReached)]
    ++ Json.present [("duration_ms", r.duration.map .ofNat)]
    ++ [("test_results", .arr (r.results.map SpecResult.encode))]

/-- Seconds with one digit: the milliseconds are taken as a double and divided by a thousand. -/
def seconds (ms : Nat) : String :=
  let x := do
    let ms ← Binary64.ofRatio? false ms 1
    ms.div? (← Binary64.ofRatio? false 1000 1)
  String.ofList ((x.getD (.zero false)).tenths)

def marker (passed : Bool) : String := if passed then "\u2713 PASS" else "\u2717 FAIL"

def resultLine (r : SpecResult) : String :=
  marker r.passed ++ "  " ++ r.specName ++ " (" ++ toString r.stepsRun ++ " steps)"
    ++ (if r.pages.isEmpty then "" else " " ++ String.intercalate " -> " r.pages)

def errorLine (error : String) : String := "    [ERROR] " ++ error

def verdictLine (v : Verdict) : String :=
  "    [FAIL] Step " ++ toString v.stepIndex ++ ": " ++ v.assertion.kind ++ " \u2014 "
    ++ v.message.getD "assertion failed"

def resultLines (r : SpecResult) : List String :=
  resultLine r :: (r.error.map errorLine).toList
    ++ (r.verdicts.filter (!·.passed)).map verdictLine

def headerLine (r : Report) : String := "=== Navigation suite: " ++ r.suite ++ " ==="

def summaryLine (r : Report) : String :=
  "=== Results: " ++ toString r.passed ++ " passed, " ++ toString r.failed ++ " failed ("
    ++ toString r.total ++ " total, " ++ toString r.pagesReached ++ " pages reached)"
    ++ (match r.duration with
      | some ms => " in " ++ seconds ms ++ "s"
      | none => "")
    ++ " ==="

def lines (r : Report) : List String :=
  r.headerLine :: "" :: r.results.flatMap resultLines ++ ["", r.summaryLine]

def text (r : Report) : String := String.join (r.lines.map (· ++ "\n"))

end Report
end Wayfinder
