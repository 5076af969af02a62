import CloudGraph.Settings.Basic
import CloudGraph.SortedMap

/-!
# What variables change in settings

**Theorem (`override_exact`).** Variables set the endpoint, the model and the log level, each only
if its own variable is set, and nothing else (`Overrides`). They are refused just if the log level
is set to a text that names no level. The log level is then as before, but the other two are what
their variables make of them (`override_keeps_endpoint_beside_error`).

The frame is built up from the three steps: each writes one field, and leaves it if its variable is
not set.
-/

namespace CloudGraph

/-! ## Levels -/

namespace LogLevel

/-- The words for levels. -/
def words : List String := ["error", "warn", "warning", "info", "debug", "trace"]

/-- Whether a text names a level: blanks around it and the case of its letters do not count. -/
def Names (text : String) : Prop :=
  Text.lowercase (Text.trim text) ∈ words

theorem parse_of_names {text : String} (h : Names text) : ∃ level, parse text = .ok level := by
  unfold Names words at h
  unfold parse
  simp only [List.mem_cons, List.not_mem_nil, or_false] at h
  rcases h with h | h | h | h | h | h <;> rw [h] <;> exact ⟨_, rfl⟩

theorem parse_of_not_names {text : String} (h : ¬ Names text) : parse text = .error ⟨text⟩ := by
  unfold Names words at h
  unfold parse
  split <;> simp_all

end LogLevel

namespace Settings

/-- Settings that differ in the endpoint, the model and the log level only, in each of them only if
its variable is set. -/
structure Overrides (value? : String → Option String) (s t : Settings) : Prop where
  frame : t = { s with
    logging := { s.logging with level := t.logging.level }
    advisory := { s.advisory with endpoint := t.advisory.endpoint, model := t.advisory.model } }
  endpoint : value? endpointVariable = none → t.advisory.endpoint = s.advisory.endpoint
  model : value? modelVariable = none → t.advisory.model = s.advisory.model
  level : value? logLevelVariable = none → t.logging.level = s.logging.level

variable {value? : String → Option String} {s t u : Settings}

/-! ## Steps -/

namespace Overrides

theorem refl (s : Settings) : Overrides value? s s where
  frame := rfl
  endpoint _ := rfl
  model _ := rfl
  level _ := rfl

theorem trans (hst : Overrides value? s t) (htu : Overrides value? t u) :
    Overrides value? s u where
  frame := by
    rw [htu.frame, hst.frame]
  endpoint h := (htu.endpoint h).trans (hst.endpoint h)
  model h := (htu.model h).trans (hst.model h)
  level h := (htu.level h).trans (hst.level h)

theorem withEndpoint (s : Settings) :
    Overrides value? s (s.withEndpoint (value? endpointVariable)) := by
  unfold Settings.withEndpoint
  cases h : value? endpointVariable with
  | none => exact refl s
  | some text => exact ⟨rfl, fun hnone => by simp [h] at hnone, fun _ => rfl, fun _ => rfl⟩

theorem withModel (s : Settings) : Overrides value? s (s.withModel (value? modelVariable)) := by
  unfold Settings.withModel
  cases h : value? modelVariable with
  | none => exact refl s
  | some text => exact ⟨rfl, fun _ => rfl, fun hnone => by simp [h] at hnone, fun _ => rfl⟩

theorem withLogLevel (s : Settings) (level : LogLevel) {text : String}
    (h : value? logLevelVariable = some text) : Overrides value? s (s.withLogLevel level) :=
  ⟨rfl, fun _ => rfl, fun _ => rfl, fun hnone => by simp [h] at hnone⟩

end Overrides

/-! ## Runs -/

/-- The settings with the values of the variables that are never refused. -/
def withService (s : Settings) (value? : String → Option String) : Settings :=
  (s.withEndpoint (value? endpointVariable)).withModel (value? modelVariable)

theorem overrides_withService (s : Settings) (value? : String → Option String) :
    Overrides value? s (s.withService value?) :=
  (Overrides.withEndpoint s).trans (Overrides.withModel _)

theorem logging_withService (s : Settings) (value? : String → Option String) :
    (s.withService value?).logging = s.logging := by
  unfold withService withModel withEndpoint
  cases value? endpointVariable <;> cases value? modelVariable <;> rfl

theorem endpoint_withService {text : String} (h : value? endpointVariable = some text) :
    (s.withService value?).advisory.endpoint =
      if Text.isBlankText text then none else some (Text.trim text) := by
  unfold withService withModel withEndpoint
  rw [h]
  cases value? modelVariable <;> rfl

theorem model_withService {text : String} (h : value? modelVariable = some text) :
    (s.withService value?).advisory.model = Text.trim text := by
  unfold withService withModel
  rw [h]

theorem override_cases (s : Settings) (value? : String → Option String) :
    (value? logLevelVariable = none ∧ s.override value? = (s.withService value?, .ok ())) ∨
    (∃ text level, value? logLevelVariable = some text ∧ LogLevel.Names text ∧
      LogLevel.parse text = .ok level ∧
      s.override value? = ((s.withService value?).withLogLevel level, .ok ())) ∨
    ∃ text, value? logLevelVariable = some text ∧ ¬ LogLevel.Names text ∧
      s.override value? =
        (s.withService value?, .error (.invalidVariable logLevelVariable ⟨text⟩)) := by
  cases hset : value? logLevelVariable with
  | none =>
    refine .inl ⟨rfl, ?_⟩
    simp only [override, hset, withService]
  | some text =>
    by_cases hnames : LogLevel.Names text
    · obtain ⟨level, hlevel⟩ := LogLevel.parse_of_names hnames
      refine .inr (.inl ⟨text, level, rfl, hnames, hlevel, ?_⟩)
      simp only [override, hset, hlevel, withService]
    · refine .inr (.inr ⟨text, rfl, hnames, ?_⟩)
      simp only [override, hset, LogLevel.parse_of_not_names hnames, withService]

theorem overrides_override (s : Settings) (value? : String → Option String) :
    Overrides value? s (s.override value?).1 := by
  have hservice := overrides_withService s value?
  rcases override_cases s value? with
    ⟨-, hrun⟩ | ⟨text, level, hset, -, -, hrun⟩ | ⟨text, -, -, hrun⟩
  · rw [hrun]
    exact hservice
  · rw [hrun]
    exact hservice.trans (Overrides.withLogLevel _ level hset)
  · rw [hrun]
    exact hservice

theorem advisory_override (s : Settings) (value? : String → Option String) :
    (s.override value?).1.advisory = (s.withService value?).advisory := by
  rcases override_cases s value? with ⟨-, hrun⟩ | ⟨_, _, -, -, -, hrun⟩ | ⟨_, -, -, hrun⟩
  · rw [hrun]
  · rw [hrun]
    rfl
  · rw [hrun]

theorem level_override {text : String} {level : LogLevel}
    (hset : value? logLevelVariable = some text) (hlevel : LogLevel.parse text = .ok level) :
    (s.override value?).1.logging.level = level := by
  simp only [override, hset, hlevel, withLogLevel]

theorem override_eq_error_iff {e : SettingsError} :
    (s.override value?).2 = .error e ↔ ∃ text, value? logLevelVariable = some text ∧
      ¬ LogLevel.Names text ∧ e = .invalidVariable logLevelVariable ⟨text⟩ := by
  rcases override_cases s value? with
    ⟨hunset, hrun⟩ | ⟨text, level, hset, hnames, -, hrun⟩ | ⟨text, hset, hnames, hrun⟩
  · simp [hrun, hunset]
  · simp [hrun, hset, hnames]
  · simp [hrun, hset, hnames, eq_comm]

theorem logging_override_of_error {e : SettingsError} (h : (s.override value?).2 = .error e) :
    (s.override value?).1.logging = s.logging := by
  rcases override_cases s value? with ⟨-, hrun⟩ | ⟨_, _, -, -, -, hrun⟩ | ⟨_, -, -, hrun⟩
  · simp [hrun] at h
  · simp [hrun] at h
  · rw [hrun]
    exact logging_withService s value?

/-- **What variables change.** Whether the variables are refused or not, only the endpoint, the
model and the log level can differ, each only if its variable is set. The values for the endpoint
and the model are taken in any case. The variables are refused just if the log level is set to a
text that names no level, and then nothing about logging differs. -/
theorem override_exact (s : Settings) (value? : String → Option String) :
    let t := (s.override value?).1
    let result := (s.override value?).2
    Overrides value? s t ∧
      (∀ text, value? endpointVariable = some text →
        t.advisory.endpoint = if Text.isBlankText text then none else some (Text.trim text)) ∧
      (∀ text, value? modelVariable = some text → t.advisory.model = Text.trim text) ∧
      (∀ text level, value? logLevelVariable = some text → LogLevel.parse text = .ok level →
        t.logging.level = level) ∧
      (∀ e, result = .error e ↔ ∃ text, value? logLevelVariable = some text ∧
        ¬ LogLevel.Names text ∧ e = .invalidVariable logLevelVariable ⟨text⟩) ∧
      ∀ e, result = .error e → t.logging = s.logging := by
  refine ⟨overrides_override s value?, ?_, ?_, fun _ _ => level_override,
    fun _ => override_eq_error_iff, fun _ => logging_override_of_error⟩
  · intro text h
    rw [advisory_override]
    exact endpoint_withService h
  · intro text h
    rw [advisory_override]
    exact model_withService h

/-- The endpoint is kept although the log level is refused. -/
theorem override_keeps_endpoint_beside_error :
    let value? (name : String) := lookup name [
      ("INFRAGRAPH_ADVISORY_ENDPOINT", "http://gpu-box:11434"), ("INFRAGRAPH_LOG_LEVEL", "chatty")]
    let s : Settings := {}
    (s.override value?).2 = .error (.invalidVariable "INFRAGRAPH_LOG_LEVEL" ⟨"chatty"⟩) ∧
      s.advisory.endpoint = none ∧
      (s.override value?).1.advisory.endpoint = some "http://gpu-box:11434" ∧
      (s.override value?).1 ≠ s := by
  intro value? s
  have hendpoint : (s.override value?).1.advisory.endpoint = some "http://gpu-box:11434" := by
    decide +kernel
  have hnames : ¬ LogLevel.Names "chatty" := by
    unfold LogLevel.Names
    decide +kernel
  have hlevel : value? logLevelVariable = some "chatty" := by decide +kernel
  refine ⟨override_eq_error_iff.2 ⟨"chatty", hlevel, hnames, rfl⟩, rfl, hendpoint, fun hsame => ?_⟩
  rw [hsame] at hendpoint
  cases hendpoint

end Settings

end CloudGraph
