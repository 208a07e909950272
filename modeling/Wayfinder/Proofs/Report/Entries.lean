import Mathlib
import Wayfinder.Proofs.Text.Lines
import Wayfinder.Report

/-! What a report tells, line by line. How a line starts says whether it is the verdict on a spec,
an error or an assertion that did not pass, and which. So as long as nothing that is quoted runs
over several lines, the verdicts can be read off the text again, whatever the names and messages
are. -/
namespace Wayfinder

namespace Report

structure Failure where
  stepIndex : Nat
  kind : String
  detail : String
deriving DecidableEq, Repr

inductive Entry where
  | result (passed : Bool)
  | error (text : String)
  | failure (f : Failure)
deriving DecidableEq, Repr

def Entry.isResult : Entry → Bool
  | result _ => true
  | error _ | failure _ => false

/-- What a line tells, by how it starts. -/
inductive Tells : String → Entry → Prop
  | passed (rest : String) : Tells ("\u2713 PASS" ++ rest) (.result true)
  | failed (rest : String) : Tells ("\u2717 FAIL" ++ rest) (.result false)
  | error (text : String) : Tells ("    [ERROR] " ++ text) (.error text)
  | failure (n : Nat) (a : Assertion) (detail : String) :
    Tells ("    [FAIL] Step " ++ toString n ++ ": " ++ a.kind ++ " \u2014 " ++ detail)
      (.failure ⟨n, a.kind, detail⟩)

end Report

def Verdict.failure (v : Verdict) : Report.Failure :=
  ⟨v.stepIndex, v.assertion.kind, v.message.getD "assertion failed"⟩

namespace SpecResult

def failures (r : SpecResult) : List Report.Failure :=
  (r.verdicts.filter (!·.passed)).map Verdict.failure

/-- What is told behind the verdict: the error if there is one, and the failures. -/
def findings (r : SpecResult) : List Report.Entry :=
  (r.error.map Report.Entry.error).toList ++ r.failures.map Report.Entry.failure

def entries (r : SpecResult) : List Report.Entry := .result r.passed :: r.findings

structure OneLine (r : SpecResult) : Prop where
  name : Text.OneLine r.specName
  pages : ∀ page ∈ r.pages, Text.OneLine page
  error : ∀ e ∈ r.error, Text.OneLine e
  messages : ∀ v ∈ r.verdicts, ∀ m ∈ v.message, Text.OneLine m

end SpecResult

namespace Report

structure OneLine (r : Report) : Prop where
  suite : Text.OneLine r.suite
  results : ∀ x ∈ r.results, x.OneLine

theorem space_not_mem_kind (a : Assertion) : ' ' ∉ a.kind.toList := by
  cases a <;> simp [Assertion.kind]

/-- The number ends at the colon and the kind at the blank, whatever the message is. -/
theorem failureLine_inj {n m : Nat} {a a' : Assertion} {d d' : String}
    (h : "    [FAIL] Step " ++ toString n ++ ": " ++ a.kind ++ " \u2014 " ++ d =
      "    [FAIL] Step " ++ toString m ++ ": " ++ a'.kind ++ " \u2014 " ++ d') :
    n = m ∧ a.kind = a'.kind ∧ d = d' := by
  have hcolon (k : Nat) : ':' ∉ Nat.toDigits 10 k := Text.not_mem_toDigits rfl k
  obtain ⟨hdigits, hkind, hdetail⟩ : Nat.toDigits 10 n = Nat.toDigits 10 m ∧
      a.kind.toList = a'.kind.toList ∧ d.toList = d'.toList := by
    simpa [Text.append_cons_inj (hcolon n) (hcolon m),
      Text.append_cons_inj (space_not_mem_kind a) (space_not_mem_kind a')] using
        congrArg String.toList h
  have hnumber : n = m := by simpa using congrArg (Nat.ofDigitChars 10 · 0) hdigits
  exact ⟨hnumber, String.toList_inj.1 hkind, String.toList_inj.1 hdetail⟩

theorem Tells.unique {l : String} {x y : Entry} (h : Tells l x) (h' : Tells l y) : x = y := by
  obtain ⟨l', hl, hx⟩ : ∃ l', l = l' ∧ Tells l' x := ⟨l, rfl, h⟩
  -- lines of different kinds differ within their first characters
  have hchars := congrArg String.toList hl
  cases hx with
  | passed => cases h' <;> simp at hchars ⊢
  | failed => cases h' <;> simp at hchars ⊢
  | error text =>
    cases h' with
    | error text' => rw [(String.append_right_inj _).1 hl]
    | _ => simp at hchars
  | failure n a detail =>
    cases h' with
    | failure m a' detail' =>
      obtain ⟨hn, hkind, hdetail⟩ := failureLine_inj hl
      rw [hn, hkind, hdetail]
    | _ => simp at hchars

theorem tells_resultLine (r : SpecResult) : Tells (resultLine r) (.result r.passed) := by
  unfold resultLine
  cases hp : r.passed with
  | true =>
    simp only [String.append_assoc]
    exact .passed _
  | false =>
    simp only [String.append_assoc]
    exact .failed _

theorem tells_resultLines (r : SpecResult) : List.Forall₂ Tells (resultLines r) r.entries := by
  have herror : List.Forall₂ Tells (r.error.map errorLine).toList
      (r.error.map Entry.error).toList := by
    cases r.error with
    | none => exact .nil
    | some e => exact .cons (.error e) .nil
  have hfailures : List.Forall₂ Tells ((r.verdicts.filter (!·.passed)).map verdictLine)
      (r.failures.map Entry.failure) := by
    rw [SpecResult.failures, List.forall₂_map_left_iff, List.map_map, List.forall₂_map_right_iff,
      List.forall₂_same]
    exact fun v _ => .failure v.stepIndex v.assertion _
  exact .cons (tells_resultLine r) (List.rel_append herror hfailures)

theorem tells_results (rs : List SpecResult) :
    List.Forall₂ Tells (rs.flatMap resultLines) (rs.flatMap SpecResult.entries) := by
  induction rs with
  | nil => exact .nil
  | cons r rs ih => exact List.rel_append (tells_resultLines r) ih

theorem oneLine_resultLine {r : SpecResult} (h : r.OneLine) : Text.OneLine (resultLine r) := by
  have hmarker : Text.OneLine (marker r.passed) := by
    cases r.passed <;> simp [Text.OneLine, marker]
  have hpages : Text.OneLine (String.intercalate " -> " r.pages) :=
    Text.oneLine_intercalate (by simp [Text.OneLine]) h.pages
  have hname := h.name
  unfold Text.OneLine at hmarker hpages hname ⊢
  unfold resultLine
  split
  · simp [Text.not_mem_toDigits, hmarker, hname]
  · simpa [Text.not_mem_toDigits, hmarker, hname] using hpages

theorem oneLine_errorLine {e : String} (h : Text.OneLine e) : Text.OneLine (errorLine e) := by
  unfold Text.OneLine errorLine at *
  simp [h]

theorem oneLine_verdictLine {r : SpecResult} (h : r.OneLine) {v : Verdict} (hv : v ∈ r.verdicts) :
    Text.OneLine (verdictLine v) := by
  have hkind : Text.OneLine v.assertion.kind := by
    cases v.assertion <;> simp [Assertion.kind, Text.OneLine]
  have hmessage : Text.OneLine (v.message.getD "assertion failed") := by
    cases hm : v.message with
    | none => simp [Text.OneLine]
    | some m => exact h.messages v hv m hm
  unfold Text.OneLine verdictLine at *
  simp [Text.not_mem_toDigits, hkind, hmessage]

theorem oneLine_resultLines {r : SpecResult} (h : r.OneLine) :
    ∀ l ∈ resultLines r, Text.OneLine l := by
  intro l hl
  rw [resultLines, List.cons_append, List.mem_cons, List.mem_append] at hl
  obtain rfl | hl | hl := hl
  · exact oneLine_resultLine h
  · obtain ⟨e, he, rfl⟩ : ∃ e ∈ r.error, errorLine e = l := by simpa using hl
    exact oneLine_errorLine (h.error e he)
  · obtain ⟨v, hv, rfl⟩ := List.mem_map.1 hl
    exact oneLine_verdictLine h (List.mem_filter.1 hv).1

theorem oneLine_headerLine {r : Report} (h : r.OneLine) : Text.OneLine r.headerLine := by
  have hsuite := h.suite
  unfold Text.OneLine headerLine at *
  simp [hsuite]

theorem oneLine_seconds (ms : Nat) : Text.OneLine (seconds ms) := by
  simp [Text.OneLine, seconds, Binary64.tenths, Text.not_mem_toDigits]

theorem oneLine_summaryLine (r : Report) : Text.OneLine r.summaryLine := by
  have hseconds := oneLine_seconds
  unfold Text.OneLine summaryLine at *
  split <;> simp [Text.not_mem_toDigits, hseconds]

theorem lines_text {r : Report} (h : r.OneLine) : Text.lines r.text = r.lines := by
  refine Text.lines_join fun l hl => ?_
  simp only [lines, List.cons_append, List.mem_cons, List.mem_append, List.mem_flatMap,
    List.not_mem_nil, or_false] at hl
  obtain rfl | rfl | ⟨x, hx, hl⟩ | rfl | rfl := hl
  · exact oneLine_headerLine h
  · simp
  · exact oneLine_resultLines (h.results x hx) l hl
  · simp
  · exact oneLine_summaryLine r

theorem not_isResult_of_mem_findings {r : SpecResult} {x : Entry} (h : x ∈ r.findings) :
    x.isResult = false := by
  obtain ⟨e, -, rfl⟩ | ⟨f, -, rfl⟩ : (∃ e, r.error = some e ∧ Entry.error e = x) ∨
      ∃ f ∈ r.failures, Entry.failure f = x := by
    simpa [SpecResult.findings] using h
  · rfl
  · rfl

/-- What is told of a result ends where the next result begins. -/
theorem takeWhile_entries (r : SpecResult) (rs : List SpecResult) :
    (r.findings ++ rs.flatMap SpecResult.entries).takeWhile (!·.isResult) = r.findings := by
  have hnext : (rs.flatMap SpecResult.entries).takeWhile (!·.isResult) = [] := by
    cases rs <;> simp [SpecResult.entries, Entry.isResult]
  rw [List.takeWhile_append_of_pos, hnext, List.append_nil]
  intro x hx
  simp [not_isResult_of_mem_findings hx]

theorem findings_inj {r s : SpecResult} :
    r.findings = s.findings ↔ r.error = s.error ∧ r.failures = s.failures := by
  have hfailures {fs gs : List Failure} : fs.map Entry.failure = gs.map Entry.failure ↔ fs = gs :=
    List.map_inj_right fun _ _ => Entry.failure.inj
  have hne (e : String) (fs : List Failure) (rest : List Entry) :
      fs.map Entry.failure ≠ Entry.error e :: rest := by
    cases fs <;> simp
  unfold SpecResult.findings
  cases r.error with
  | none => cases s.error <;> simp [hfailures, hne]
  | some e => cases s.error <;> simp [hfailures, Ne.symm (hne e _ _)]

structure Alike (r s : SpecResult) : Prop where
  passed : r.passed = s.passed
  error : r.error = s.error
  failures : r.failures = s.failures

theorem alike_of_entries {rs ss : List SpecResult}
    (h : rs.flatMap SpecResult.entries = ss.flatMap SpecResult.entries) :
    List.Forall₂ Alike rs ss := by
  induction rs generalizing ss with
  | nil =>
    cases ss with
    | nil => exact .nil
    | cons s ss => simp [SpecResult.entries] at h
  | cons r rs ih =>
    cases ss with
    | nil => simp [SpecResult.entries] at h
    | cons s ss =>
      simp only [List.flatMap_cons, SpecResult.entries, List.cons_append, List.cons.injEq,
        Entry.result.injEq] at h
      obtain ⟨hpassed, htail⟩ := h
      have hfindings := congrArg (List.takeWhile (!·.isResult)) htail
      rw [takeWhile_entries, takeWhile_entries] at hfindings
      obtain ⟨herror, hfailures⟩ := findings_inj.1 hfindings
      rw [hfindings] at htail
      exact .cons ⟨hpassed, herror, hfailures⟩ (ih (List.append_cancel_left htail))

theorem pagesReached_eq_sum (r : Report) :
    r.pagesReached = (r.results.map (·.pages.length)).sum := by
  rw [pagesReached, List.sum_eq_foldl, List.foldl_map]

theorem passed_add_failed (r : Report) : r.passed + r.failed = r.total :=
  Nat.add_sub_of_le List.countP_le_length

theorem allPassed_iff (r : Report) : r.allPassed = true ↔ ∀ x ∈ r.results, x.passed = true := by
  have hle : r.passed ≤ r.total := List.countP_le_length
  rw [← List.countP_eq_length, allPassed, beq_iff_eq, failed]
  change _ ↔ r.passed = r.total
  omega

/-- Equal texts have equal lines between the first two and the last two. -/
theorem body_eq_of_text_eq {r s : Report} (hr : r.OneLine) (hs : s.OneLine)
    (h : r.text = s.text) : r.results.flatMap resultLines = s.results.flatMap resultLines := by
  have hlines : r.lines = s.lines := by
    rw [← lines_text hr, ← lines_text hs, h]
  have hrest : r.results.flatMap resultLines ++ ["", r.summaryLine] =
      s.results.flatMap resultLines ++ ["", s.summaryLine] :=
    congrArg (List.drop 2) hlines
  exact (List.append_inj' hrest (by simp)).1

theorem alike_of_text_eq {r s : Report} (hr : r.OneLine) (hs : s.OneLine) (h : r.text = s.text) :
    List.Forall₂ Alike r.results s.results := by
  have htold := tells_results r.results
  rw [body_eq_of_text_eq hr hs h] at htold
  refine alike_of_entries (List.right_unique_forall₂' ?_ htold (tells_results s.results))
  exact fun _ _ _ => Tells.unique

end Report

/-- The counts of a report are those of its results. A line of its text tells one thing at most.
When nothing that is quoted runs over several lines, the lines between the blank ones tell the
verdict on each result, its error and its failures, in order, and nothing else; so equal texts tell
equal verdicts. -/
theorem report_tells_verdicts (r : Report) :
    (r.total = r.results.length ∧ r.passed + r.failed = r.total ∧
      r.pagesReached = (r.results.map (·.pages.length)).sum ∧
      (r.allPassed = true ↔ ∀ x ∈ r.results, x.passed = true)) ∧
    (∀ l x y, Report.Tells l x → Report.Tells l y → x = y) ∧
    (r.OneLine → ∃ body, Text.lines r.text = r.headerLine :: "" :: (body ++ ["", r.summaryLine]) ∧
      List.Forall₂ Report.Tells body (r.results.flatMap SpecResult.entries)) ∧
    ∀ s : Report, r.OneLine → s.OneLine → r.text = s.text →
      List.Forall₂ Report.Alike r.results s.results := by
  refine ⟨⟨rfl, r.passed_add_failed, r.pagesReached_eq_sum, r.allPassed_iff⟩,
    fun _ _ _ => Report.Tells.unique, fun h => ?_, fun s => Report.alike_of_text_eq⟩
  exact ⟨r.results.flatMap Report.resultLines, Report.lines_text h, Report.tells_results r.results⟩

namespace Mill

def grinding : SpecResult where
  specName := "Grind"
  passed := true
  stepsRun := 3
  pages := ["Yard", "Mill"]
  verdicts := [⟨2, .elementVisible "#flour", true, none, none⟩]
  error := none

def storing : SpecResult where
  specName := "Store"
  passed := false
  stepsRun := 2
  pages := []
  verdicts := [⟨0, .urlContains "/barn", true, none, none⟩,
    ⟨1, .urlEquals "/barn", false, none, none⟩,
    ⟨1, .elementCount ".sack" 9, false, some "4", some "    [FAIL] Step 7: UrlEquals"⟩]
  error := some "\u2713 PASS"

def report : Report := { suite := "mill", results := [grinding, storing] }

theorem oneLine_report : report.OneLine where
  suite := by simp [Text.OneLine, report]
  results := by
    intro x hx
    obtain rfl | rfl : x = grinding ∨ x = storing := by simpa [report] using hx
    · exact ⟨by simp [grinding, Text.OneLine], by simp [grinding, Text.OneLine],
        by simp [grinding], by simp [grinding]⟩
    · exact ⟨by simp [storing, Text.OneLine], by simp [storing], by simp [storing, Text.OneLine],
        by simp [storing, Text.OneLine]⟩

end Mill

theorem mill_verdicts_told :
    Mill.report.OneLine ∧
    ∃ body, Text.lines Mill.report.text =
        Mill.report.headerLine :: "" :: (body ++ ["", Mill.report.summaryLine]) ∧
      List.Forall₂ Report.Tells body
        [.result true, .result false, .error "\u2713 PASS",
          .failure ⟨1, "UrlEquals", "assertion failed"⟩,
          .failure ⟨1, "ElementCount", "    [FAIL] Step 7: UrlEquals"⟩] :=
  ⟨Mill.oneLine_report, (report_tells_verdicts Mill.report).2.2.1 Mill.oneLine_report⟩

end Wayfinder
