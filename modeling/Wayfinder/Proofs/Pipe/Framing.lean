import Mathlib.Data.List.Basic
import Wayfinder.Pipe.Request
import Wayfinder.Proofs.Json.Records
import Wayfinder.Proofs.Text.Lines

/-! The requests on a pipe. Each takes one line and no two requests share their line, so what was
written to a pipe says which requests were made. -/
namespace Wayfinder

theorem Json.ofNat_injective : Function.Injective Json.ofNat := fun _ _ h =>
  Int.ofNat_inj.1 (Number.whole.inj (Json.num.inj h))

namespace Hint

def fields (h : Hint) : List (String × Option Json) :=
  [("css", h.css.map .str), ("role", h.role.map .str), ("name", h.name.map .str),
    ("tag", h.tag.map .str), ("type", h.inputType.map .str), ("formId", h.formId.map .str)]

theorem plain_encode (h : Hint) : h.encode.Plain := by
  have hstr := Json.plain_map (f := .str) fun _ => trivial
  refine Json.plain_present h.fields ?_
  simp only [fields, List.forall_mem_cons]
  exact ⟨hstr _, hstr _, hstr _, hstr _, hstr _, hstr _, List.forall_mem_nil _⟩

theorem encode_injective : Function.Injective encode := by
  intro h k heq
  have hfields : h.fields = k.fields :=
    Json.present_injective rfl (by simp [fields]) (Json.obj.inj heq)
  have hstr : Function.Injective (Option.map Json.str) :=
    Option.map_injective fun _ _ => Json.str.inj
  simp only [fields, List.cons.injEq, Prod.mk.injEq, true_and, hstr.eq_iff, and_true] at hfields
  obtain ⟨hcss, hrole, hname, htag, htype, hform⟩ := hfields
  cases h
  cases k
  simp_all

end Hint

namespace Request

theorem plain_encode (r : Request) : r.encode.Plain := by
  cases r with
  | click hint => exact ⟨trivial, trivial, hint.plain_encode, trivial⟩
  | fill hint value => exact ⟨trivial, trivial, hint.plain_encode, trivial, trivial⟩
  | wait duration => exact ⟨trivial, trivial, trivial, trivial⟩
  | currentUrl | quit => exact ⟨trivial, trivial⟩
  | navigate url | queryText css | queryVisible css | queryCount css =>
    exact ⟨trivial, trivial, trivial⟩

/-- What a request is called, and for an interaction that it is one, tell the kinds of requests
apart; the rest of the members are what the request carries. -/
theorem encode_injective : Function.Injective encode := by
  intro r q h
  cases r <;> cases q <;>
    simp_all [encode, command, Json.ofNat_injective.eq_iff, Hint.encode_injective.eq_iff]

theorem line_injective : Function.Injective line := fun r q h =>
  encode_injective (Json.text_injective r.plain_encode q.plain_encode h)

theorem printable_line (r : Request) : Json.Printable r.line.toList := by
  rw [line, Json.text, String.toList_ofList]
  exact Json.printable_chars r.plain_encode

/-- The requests written to a pipe are as many lines, each of which is one of them. -/
theorem lines_join (rs : List Request) :
    Text.lines (String.join (rs.map (·.line ++ "\n"))) = rs.map line := by
  have hlines : ∀ l ∈ rs.map line, '\n' ∉ l.toList := by
    intro l hl hmem
    obtain ⟨r, -, rfl⟩ := List.mem_map.1 hl
    exact absurd (r.printable_line '\n' hmem) (by decide)
  simpa [Function.comp_def] using Text.lines_join hlines

/-- A log of requests tells which requests were made. -/
theorem log_injective :
    Function.Injective fun rs : List Request => String.join (rs.map (·.line ++ "\n")) := by
  intro rs qs h
  have hlines : rs.map line = qs.map line := by
    rw [← lines_join rs, ← lines_join qs]
    exact congrArg Text.lines h
  exact List.map_injective_iff.2 line_injective hlines

/-- The line of a request holds no control, so that with a line break behind it it is one line, and
it is the line of no other request. Of the characters of a string only the quote, the backslash and
the controls are escaped. -/
theorem framed_and_unambiguous :
    (∀ r : Request, ∀ c ∈ r.line.toList, 0x20 ≤ c.toNat) ∧
    (∀ r : Request, Text.lines (r.line ++ "\n") = [r.line]) ∧
    Function.Injective line ∧
    ∀ c, Json.escapeChar c = [c] ↔ ¬(c = '"' ∨ c = '\\' ∨ c.toNat < 0x20) := by
  refine ⟨printable_line, fun r => ?_, line_injective, Json.escapeChar_eq_self_iff⟩
  simpa using lines_join [r]

end Request
end Wayfinder
