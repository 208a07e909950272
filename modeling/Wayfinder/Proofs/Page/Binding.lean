import Wayfinder.Proofs.Route.Dispatch

/-! Binding the arguments of a step. What is bound are the declared names and no others, each with
what the caller gives or else with the default of its last declaration; a step without a value for
one of its parameters is not taken at all. -/
namespace Wayfinder
variable {ρ σ : Type} {args args' bound given : Args} {params before after : List StepParam}
  {p : StepParam}

namespace StepParam

/-- The caller gives the parameter, or it is declared with a default. -/
def Served (p : StepParam) (args : Args) : Prop :=
  args.contains p.name = true ∨ p.default.isSome = true

theorem served_iff : p.Served args ↔ ∃ v, p.value? args = some v := by
  rw [← Option.isSome_iff_exists, value?, Option.isSome_or, Bool.or_eq_true]
  rfl

theorem value?_eq_none_iff : p.value? args = none ↔ ¬p.Served args := by
  rw [served_iff, ← Option.isSome_iff_exists, Bool.not_eq_true, Option.isSome_eq_false_iff,
    Option.isNone_iff_eq_none]

end StepParam

theorem bindFrom_append (args : Args) (before after : List StepParam) (bound : Args) :
    bindFrom args (before ++ after) bound =
      (bindFrom args before bound).bind (bindFrom args after) := by
  induction before generalizing bound with
  | nil => rfl
  | cons p before ih =>
    rw [List.cons_append, bindFrom, bindFrom]
    cases p.value? args with
    | some v => exact ih (bound.insert p.name v)
    | none => rfl

theorem bindFrom_eq_ok_iff :
    (∃ given, bindFrom args params bound = .ok given) ↔ ∀ p ∈ params, p.Served args := by
  induction params generalizing bound with
  | nil => simp [bindFrom]
  | cons p params ih =>
    rw [List.forall_mem_cons, StepParam.served_iff, bindFrom]
    cases p.value? args with
    | some v => simpa using ih
    | none => simp

theorem exists_value_of_cons (h : bindFrom args (p :: params) bound = .ok given) :
    ∃ v, p.value? args = some v ∧ bindFrom args params (bound.insert p.name v) = .ok given := by
  rw [bindFrom] at h
  cases hv : p.value? args with
  | some v =>
    rw [hv] at h
    exact ⟨v, rfl, h⟩
  | none =>
    rw [hv] at h
    cases h

/-- A name that is not declared keeps its value. -/
theorem get?_of_not_declared {n : String} (h : bindFrom args params bound = .ok given)
    (hn : ∀ p ∈ params, p.name ≠ n) : given.get? n = bound.get? n := by
  induction params generalizing bound with
  | nil =>
    cases h
    rfl
  | cons p params ih =>
    obtain ⟨hp, hparams⟩ := List.forall_mem_cons.1 hn
    obtain ⟨v, -, hrest⟩ := exists_value_of_cons h
    rw [ih hrest hparams, SortedMap.get?_insert, if_neg hp]

theorem contains_of_bindFrom (h : bindFrom args params bound = .ok given) (n : String) :
    given.contains n = true ↔ (∃ p ∈ params, p.name = n) ∨ bound.contains n = true := by
  induction params generalizing bound with
  | nil =>
    cases h
    simp
  | cons p params ih =>
    obtain ⟨v, -, hrest⟩ := exists_value_of_cons h
    rw [ih hrest, SortedMap.contains_insert]
    simp only [List.mem_cons, exists_eq_or_imp]
    rw [or_left_comm, or_assoc]

/-- The last declaration of a name decides. -/
theorem get?_of_last (h : bindFrom args (before ++ p :: after) bound = .ok given)
    (hlast : ∀ q ∈ after, q.name ≠ p.name) : given.get? p.name = p.value? args := by
  rw [bindFrom_append] at h
  cases hbefore : bindFrom args before bound with
  | ok bound' =>
    rw [hbefore] at h
    change bindFrom args (p :: after) bound' = .ok given at h
    obtain ⟨v, hv, hrest⟩ := exists_value_of_cons h
    rw [get?_of_not_declared hrest hlast, SortedMap.get?_insert, if_pos rfl, hv]
  | error e =>
    rw [hbefore] at h
    cases h

/-- What is missed is the first parameter that nobody serves. -/
theorem exists_unserved {e : BindError} (h : bindFrom args params bound = .error e) :
    ∃ before p after, params = before ++ p :: after ∧ (∀ q ∈ before, q.Served args) ∧
      ¬p.Served args ∧ e = .missingArgument p.name := by
  induction params generalizing bound with
  | nil => cases h
  | cons p params ih =>
    rw [bindFrom] at h
    cases hv : p.value? args with
    | some v =>
      rw [hv] at h
      obtain ⟨before, q, after, rfl, hbefore, hq, he⟩ := ih h
      have hp : p.Served args := StepParam.served_iff.2 ⟨v, hv⟩
      exact ⟨p :: before, q, after, rfl, List.forall_mem_cons.2 ⟨hp, hbefore⟩, hq, he⟩
    | none =>
      rw [hv] at h
      cases h
      exact ⟨[], p, params, rfl, List.forall_mem_nil _, StepParam.value?_eq_none_iff.1 hv, rfl⟩

/-- Arguments are bound by the names that are declared. -/
theorem bindFrom_congr (h : ∀ q ∈ params, args.get? q.name = args'.get? q.name) (bound : Args) :
    bindFrom args params bound = bindFrom args' params bound := by
  induction params generalizing bound with
  | nil => rfl
  | cons q params ih =>
    obtain ⟨hq, hparams⟩ := List.forall_mem_cons.1 h
    simp only [bindFrom, StepParam.value?, hq, ih hparams]

/-- A link declares no parameters. -/
theorem Steps.Registered.takes_args {t : Steps ρ} (h : t.Registered) {s : Step ρ} (hs : s ∈ t.list)
    (hparams : s.params ≠ []) : ∃ run, s.action = .withArgs run := by
  induction h with
  | empty => cases hs
  | add _ draft _ run ih =>
    obtain hs | hs := List.mem_append.1 hs
    · exact ih hs
    · obtain rfl := List.mem_singleton.1 hs
      exact ⟨run, rfl⟩
  | href _ name run ih =>
    obtain hs | hs := List.mem_append.1 hs
    · exact ih hs
    · obtain rfl := List.mem_singleton.1 hs
      exact absurd rfl hparams

namespace Step
variable {s : Step ρ} {e : BindError}

theorem invokeWithArgs_unbound {run : Args → Attempt StepFault Unit}
    (haction : s.action = .withArgs run) (h : s.bind args = .error e) :
    s.invokeWithArgs args = throw (s.failed (.binding e)) := by
  rw [invokeWithArgs, runWithArgs, haction]
  simp only [h]
  rfl

theorem invokeWithArgs_congr (h : ∀ p ∈ s.params, args.get? p.name = args'.get? p.name) :
    s.invokeWithArgs args = s.invokeWithArgs args' := by
  simp only [invokeWithArgs, runWithArgs, bind, bindParams, bindFrom_congr h]

end Step

/-- Arguments are bound if every parameter of the step is given or has a default. Bound are the
declared names, to what the caller gives or else to the default of the last declaration. Otherwise
the first parameter that is missing is named, and the step fails before anything is asked of the
browser. Arguments that are not declared make no difference. -/
theorem binding_is_exact (t : Steps ρ) (ht : t.Registered) (s : Step ρ) (hs : s ∈ t.list)
    (args : Args) (b : Browser σ) (st : σ) :
    ((∃ bound, s.bind args = .ok bound) ↔
      ∀ p ∈ s.params, args.contains p.name = true ∨ p.default.isSome = true) ∧
    (∀ bound, s.bind args = .ok bound →
      (∀ n, n ∈ bound.keys ↔ ∃ p ∈ s.params, p.name = n) ∧
      ∀ before p after, s.params = before ++ p :: after → (∀ q ∈ after, q.name ≠ p.name) →
        bound.get? p.name = (args.get? p.name).or p.default) ∧
    (∀ e, s.bind args = .error e →
      (∃ before p after, s.params = before ++ p :: after ∧
        (∀ q ∈ before, args.contains q.name = true ∨ q.default.isSome = true) ∧
        (args.contains p.name = false ∧ p.default = none) ∧ e = .missingArgument p.name) ∧
      Script.history b.answer (s.invokeWithArgs args).run st = [] ∧
      Dialogue.run b (s.invokeWithArgs args).run st =
        (.error (.stepFailed s.owner s.name (.binding e)), st)) ∧
    ∀ args', (∀ p ∈ s.params, args.get? p.name = args'.get? p.name) →
      s.bind args = s.bind args' ∧ s.invokeWithArgs args = s.invokeWithArgs args' := by
  refine ⟨bindFrom_eq_ok_iff, ?_, ?_, ?_⟩
  · intro bound h
    refine ⟨fun n => ?_, fun before p after hsplit hlast => ?_⟩
    · have hempty : (∅ : Args).contains n ≠ true := nofun
      rw [SortedMap.mem_keys, contains_of_bindFrom h, or_iff_left hempty]
    · rw [Step.bind, bindParams, hsplit] at h
      exact get?_of_last h hlast
  · intro e h
    obtain ⟨before, p, after, hsplit, hbefore, hp, he⟩ := exists_unserved h
    -- Something is missing, so the step has parameters and is no link.
    have hparams : s.params ≠ [] := by simp [hsplit]
    obtain ⟨run, haction⟩ := ht.takes_args hs hparams
    refine ⟨⟨before, p, after, hsplit, hbefore, ?_, he⟩, ?_⟩
    · simpa [StepParam.Served] using hp
    · rw [Step.invokeWithArgs_unbound haction h]
      exact ⟨rfl, rfl⟩
  · intro args' h
    exact ⟨bindFrom_congr h ∅, Step.invokeWithArgs_congr h⟩

namespace House

def bell : StepDraft SitePage :=
  (((StepDraft.toNamed "ring" "Attic").paramOr "times" (.ofNat 1)).param "code").paramOr "times"
    (.ofNat 2)

def ring : Step SitePage :=
  ⟨"Hall", "ring", .named "Attic", bell.params, .withArgs fun _ => askStep (.click (.ofCss "#bell"))⟩

def bells : Steps SitePage := (Steps.empty "Hall").add bell fun _ => askStep (.click (.ofCss "#bell"))

theorem registered_bells : bells.Registered := .add (.empty _) _ (by rintro ⟨⟩) _

def quietly : Args := SortedMap.ofPairs [("code", .null), ("mood", .str "merry")]

end House

theorem bell_is_bound :
    House.bells.Registered ∧ House.ring ∈ House.bells.list ∧
    (∃ bound, House.ring.bind House.quietly = .ok bound ∧
      bound.get? "times" = some (.ofNat 2) ∧ bound.get? "code" = some .null) ∧
    House.ring.bind ∅ = .error (.missingArgument "code") ∧
    Dialogue.run House.lamp (House.ring.invokeWithArgs ∅).run "" =
      (.error (.stepFailed "Hall" "ring" (.binding (.missingArgument "code"))), "") := by
  have hmem : House.ring ∈ House.bells.list := List.mem_singleton.2 rfl
  obtain ⟨hok, hbound, -, -⟩ := binding_is_exact House.bells House.registered_bells House.ring hmem
    House.quietly House.lamp ""
  obtain ⟨-, -, hfails, -⟩ := binding_is_exact House.bells House.registered_bells House.ring hmem
    ∅ House.lamp ""
  obtain ⟨bound, h⟩ := hok.2 (by decide)
  have hlast := (hbound bound h).2
  refine ⟨House.registered_bells, hmem, ⟨bound, h, ?_, ?_⟩, rfl, (hfails _ rfl).2.2⟩
  · exact hlast [⟨"times", some (.ofNat 1)⟩, ⟨"code", none⟩] ⟨"times", some (.ofNat 2)⟩ [] rfl nofun
  · exact hlast [⟨"times", some (.ofNat 1)⟩] ⟨"code", none⟩ [⟨"times", some (.ofNat 2)⟩] rfl (by simp)

end Wayfinder
