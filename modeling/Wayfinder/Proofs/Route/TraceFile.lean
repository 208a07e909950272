import Wayfinder.Proofs.Json.Records
import Wayfinder.Proofs.Text.Lines
import Wayfinder.Route.Event

/-! A trace file read back. Every event takes one line, and reading the file line by line gives the
events that were logged, in order: a field that an event does not have is left out of its line and
missing from what is read. -/
namespace Wayfinder

namespace JsonText
open Json (ofNat)

theorem natUpTo?_of {bound n : Nat} (h : n ≤ bound) : natUpTo? bound (of (ofNat n)) = some n := by
  simp [natUpTo?, ofNat, of, Numeral.nat?_ofInt, h]

theorem optional?_string (o : Option String) :
    optional? string? ((o.map Json.str).map of) = some o := by
  cases o <;> rfl

theorem optional?_bool (o : Option Bool) : optional? bool? ((o.map Json.bool).map of) = some o := by
  cases o <;> rfl

end JsonText

namespace TimedEvent

/-- The numbers of an event are within their types: the time has 128 bits and the navigation 64. -/
structure Fits (e : TimedEvent) : Prop where
  time : e.time ≤ maxTime
  navigation : e.event.navigation ≤ maxWord

def fields (e : TimedEvent) : List (String × Option Json) :=
  [("timestamp_ms", some (.ofNat e.time)), ("navigation", some (.ofNat e.event.navigation)),
    ("event", some (.str e.event.kind)), ("page", some (.str e.event.page)),
    ("dest", e.event.dest.map .str), ("step", e.event.step.map .str),
    ("rule", e.event.rule.map .str), ("displayed", e.event.displayed.map .bool),
    ("url", e.event.url.map .str)]

theorem plain_encode (e : TimedEvent) : e.encode.Plain := by
  have hnat := Json.plain_map (f := .ofNat) fun _ => trivial
  have hstr := Json.plain_map (f := .str) fun _ => trivial
  have hbool := Json.plain_map (f := .bool) fun _ => trivial
  refine Json.plain_present e.fields ?_
  simp only [fields, List.forall_mem_cons]
  exact ⟨hnat (some _), hnat (some _), hstr (some _), hstr (some _), hstr _, hstr _, hstr _,
    hbool _, hstr _, List.forall_mem_nil _⟩

theorem decode?_encode {e : TimedEvent} (h : e.Fits) : decode? (.of e.encode) = some e := by
  have hfields : (JsonText.of e.encode).fields? fieldNames
      = some (e.fields.map fun f => f.2.map JsonText.of) :=
    JsonText.fields?_present e.fields (by simp [fields])
  rw [decode?, hfields]
  simp only [fields, List.map_cons, List.map_nil, Option.map_some, Option.bind_eq_bind,
    Option.bind_some, JsonText.natUpTo?_of h.time, JsonText.natUpTo?_of h.navigation,
    JsonText.optional?_string, JsonText.optional?_bool, JsonText.of, JsonText.string?]
  rfl

/-- A line of a trace file is read as the event it was written for. -/
theorem read?_line {e : TimedEvent} (h : e.Fits) : read? e.line = some e := by
  rw [read?, line, JsonText.read?_text e.plain_encode]
  exact decode?_encode h

theorem newline_not_mem_line (e : TimedEvent) : '\n' ∉ e.line.toList := by
  intro hmem
  rw [line, Json.text, String.toList_ofList] at hmem
  exact absurd (Json.printable_chars e.plain_encode '\n' hmem) (by decide)

theorem lines_fileText (es : List TimedEvent) : Text.lines (fileText es) = es.map line := by
  have hlines : ∀ l ∈ es.map line, '\n' ∉ l.toList := by
    intro l hl
    obtain ⟨e, -, rfl⟩ := List.mem_map.1 hl
    exact e.newline_not_mem_line
  simpa [fileText, Function.comp_def] using Text.lines_join hlines

/-- What logging events one after another leaves in a file is read line by line as those events. -/
theorem logged_events_decode (es : List TimedEvent) (h : ∀ e ∈ es, e.Fits) :
    es.foldl logged "" = fileText es ∧ (Text.lines (es.foldl logged "")).mapM read? = some es := by
  have htext : es.foldl logged "" = fileText es := by rw [foldl_logged, String.empty_append]
  have hread : es.mapM (read? ∘ line) = some (es.map id) :=
    mapM_eq_some_map fun e he => read?_line (h e he)
  rw [htext, lines_fileText, List.mapM_map, hread, List.map_id]
  exact ⟨rfl, rfl⟩

def awkward : List TimedEvent :=
  [⟨maxTime,
      { navigation := maxWord, kind := "open", page := "\"Hall\"\n\x01", url := some "/a\\b\r" }⟩,
    ⟨0, { navigation := 0, kind := "", page := "\x7f√", displayed := some false }⟩,
    ⟨0, .stepped 1 "A" "B" "\t\x1f" "class_name"⟩]

theorem awkward_decode :
    (∀ e ∈ awkward, e.Fits) ∧ awkward.foldl logged "" = fileText awkward ∧
      (Text.lines (awkward.foldl logged "")).mapM read? = some awkward := by
  have hfits : ∀ e ∈ awkward, e.Fits := by
    simp only [awkward, List.forall_mem_cons]
    exact ⟨⟨by decide, by decide⟩, ⟨by decide, by decide⟩, ⟨by decide, by decide⟩,
      List.forall_mem_nil _⟩
  exact ⟨hfits, logged_events_decode awkward hfits⟩

end TimedEvent
end Wayfinder
