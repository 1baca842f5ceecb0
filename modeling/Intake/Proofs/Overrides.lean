import Mathlib
import Intake.Proofs.Except
import Intake.Settings

/-!
# Settings and the environment

Which settings a program starts with, when a file holds some and the environment others.

The settings are checked twice, as the file has them and as the environment leaves them. So the
environment decides the values, but it cannot make up for a value in the file that the setting
cannot have.

* `Valid`: settings that pass the check; `Admissible`: environments that keep them so.
* `valid_withEnv_iff`: after the environment, valid settings are valid exactly if it is admissible.
* `load_of_text`: what loading comes to, for every text and every environment.
-/

namespace Intake

namespace Settings

variable {s c : Settings} {env : String → Option String}

/-! ## The check -/

/-- The name of a portion of a feed, whatever the case of its letters. -/
def NamesPortion (name : String) : Prop :=
  ∃ portion ∈ portions, Text.eqIgnoringAsciiCase portion name = true

/-- Each setting has a value that it can have. -/
structure Valid (s : Settings) : Prop where
  level : s.general.level ∈ levels
  format : s.general.format ∈ formats
  portion : NamesPortion s.engine.portion
  pathDelim : s.engine.pathDelim ≠ ""
  cacheCapacity : 0 < s.engine.cacheCapacity

theorem fault?_eq_none_iff : s.fault? = none ↔ s.Valid := by
  -- the five checks in turn, each of which has a condition of its own
  unfold fault?
  constructor
  · intro h
    split at h
    · cases h
    next hlevel =>
    split at h
    · cases h
    next hformat =>
    split at h
    · cases h
    next hportion =>
    split at h
    · cases h
    next hdelim =>
    split at h
    · cases h
    next hcapacity =>
    exact ⟨by simpa using hlevel, by simpa using hformat, by simpa [NamesPortion] using hportion,
      by simpa using hdelim, Nat.pos_of_ne_zero hcapacity⟩
  · rintro ⟨hlevel, hformat, hportion, hdelim, hcapacity⟩
    rw [if_neg (by simpa using hlevel), if_neg (by simpa using hformat),
      if_neg (by simpa [NamesPortion] using hportion), if_neg (by simpa using hdelim),
      if_neg (Nat.ne_of_gt hcapacity)]

theorem validate_eq_ok_iff : s.validate = .ok c ↔ s.Valid ∧ c = s := by
  rw [validate, ← fault?_eq_none_iff]
  cases s.fault? with
  | some r => simp
  | none => simp [eq_comm]

theorem validate_of_fault {r : Report} (h : s.fault? = some r) : s.validate = .error r := by
  rw [validate, h]

/-! ## The environment -/

/-- If the variable is set and can be read, its value satisfies `P`. -/
def Provides {α : Type} (env : String → Option String) (name : String) (read? : String → Option α)
    (P : α → Prop) : Prop :=
  ∀ text, env name = some text → ∀ v, read? text = some v → P v

/-- A property of the given value is one of the value in place exactly if the variable provides
it. -/
theorem override_iff_provides {α : Type} {name : String} {read? : String → Option α} {given : α}
    {P : α → Prop} (h : P given) :
    P (override env name read? given) ↔ Provides env name read? P := by
  unfold override Provides
  cases henv : env name with
  | none => simpa using h
  | some text =>
    cases hread : read? text with
    | none => simpa [hread] using h
    | some v => simp [hread]

/-- Each checked variable that is set and can be read has a value that its setting can have. -/
structure Admissible (env : String → Option String) : Prop where
  level : Provides env "ACTISTREAM_GENERAL_LOG_LEVEL" some (· ∈ levels)
  format : Provides env "ACTISTREAM_GENERAL_LOG_FORMAT" some (· ∈ formats)
  portion : Provides env "ACTISTREAM_ENGINE_ACTIVITY_DELIM" some NamesPortion
  pathDelim : Provides env "ACTISTREAM_ENGINE_COMPOSITE_DELIM" some (· ≠ "")
  cacheCapacity : Provides env "ACTISTREAM_ENGINE_CACHE_MAX_ENTRIES" Text.count? (0 < ·)

/-- **Valid settings stay valid** exactly in admissible environments. -/
theorem valid_withEnv_iff (h : s.Valid) : (s.withEnv env).Valid ↔ Admissible env := by
  constructor
  · intro h'
    exact ⟨(override_iff_provides h.level).1 h'.level,
      (override_iff_provides h.format).1 h'.format,
      (override_iff_provides h.portion).1 h'.portion,
      (override_iff_provides (P := (· ≠ "")) h.pathDelim).1 h'.pathDelim,
      (override_iff_provides (P := (0 < ·)) h.cacheCapacity).1 h'.cacheCapacity⟩
  · intro henv
    exact ⟨(override_iff_provides h.level).2 henv.level,
      (override_iff_provides h.format).2 henv.format,
      (override_iff_provides h.portion).2 henv.portion,
      (override_iff_provides (P := (· ≠ "")) h.pathDelim).2 henv.pathDelim,
      (override_iff_provides (P := (0 < ·)) h.cacheCapacity).2 henv.cacheCapacity⟩

/-! ## Loading -/

theorem ofFile_text_eq_ok_iff {path text : String} :
    ofFile path (.text text) = .ok s ↔ parse text = .ok s ∧ s.Valid := by
  refine bind_eq_ok.trans ⟨?_, ?_⟩
  · rintro ⟨s', hparse, hvalidate⟩
    obtain ⟨hvalid, rfl⟩ := validate_eq_ok_iff.1 hvalidate
    exact ⟨hparse, hvalid⟩
  · rintro ⟨hparse, hvalid⟩
    exact ⟨s, hparse, validate_eq_ok_iff.2 ⟨hvalid, rfl⟩⟩

/-- A fault of the settings in the file is what loading fails with, in every environment. -/
theorem load_of_fault {path text : String} {r : Report} (hparse : parse text = .ok s)
    (hfault : s.fault? = some r) : load path (.text text) env = .error r := by
  have hfile : ofFile path (.text text) = .error r :=
    bind_eq_error.2 (.inr ⟨s, hparse, validate_of_fault hfault⟩)
  exact bind_eq_error.2 (.inl hfile)

theorem load_text_eq_ok_iff {path text : String} :
    load path (.text text) env = .ok c ↔
      ∃ s, parse text = .ok s ∧ s.Valid ∧ (s.withEnv env).Valid ∧ c = s.withEnv env := by
  unfold load
  rw [bind_eq_ok]
  constructor
  · rintro ⟨s, hfile, hvalidate⟩
    obtain ⟨hparse, hvalid⟩ := ofFile_text_eq_ok_iff.1 hfile
    obtain ⟨hvalid', rfl⟩ := validate_eq_ok_iff.1 hvalidate
    exact ⟨s, hparse, hvalid, hvalid', rfl⟩
  · rintro ⟨s, hparse, hvalid, hvalid', rfl⟩
    exact ⟨s, ofFile_text_eq_ok_iff.2 ⟨hparse, hvalid⟩, validate_eq_ok_iff.2 ⟨hvalid', rfl⟩⟩

/-- **The environment prevails over a valid file.** Loading a text succeeds exactly if its settings
are valid, both as they stand there and with those of the environment in their place, and comes to
the latter. Valid settings stay so exactly if no variable has a value that its setting cannot have;
and with settings that are not valid loading fails with their fault, whatever the environment
has. -/
theorem load_of_text (path text : String) (env : String → Option String) :
    (∀ c, load path (.text text) env = .ok c ↔
        ∃ s, parse text = .ok s ∧ s.Valid ∧ (s.withEnv env).Valid ∧ c = s.withEnv env) ∧
      ∀ s, parse text = .ok s →
        (s.Valid → ((s.withEnv env).Valid ↔ Admissible env)) ∧
          ∀ r, s.fault? = some r → load path (.text text) env = .error r :=
  ⟨fun _ => load_text_eq_ok_iff, fun _ hparse =>
    ⟨valid_withEnv_iff, fun _ => load_of_fault hparse⟩⟩

/-- What the environment has for a setting is what the program starts with. -/
theorem load_prefers_environment :
    load "actistream.toml" (.text "[general]\nlog_level = \"debug\"\n")
        (fun name => if name = "ACTISTREAM_GENERAL_LOG_LEVEL" then some "warn" else none) =
      .ok { general := { level := "warn" } } := by
  have hparse : parse "[general]\nlog_level = \"debug\"\n" =
      .ok { general := { level := "debug" } } := by cbv
  exact ((load_of_text _ _ _).1 _).2 ⟨_, hparse, fault?_eq_none_iff.1 (by cbv),
    fault?_eq_none_iff.1 (by cbv), by cbv⟩

/-- A level in the file that there is not makes loading fail, although the environment has another
in its place with which the settings are valid. -/
theorem load_refuses_replaced_level :
    ∃ s, parse "[general]\nlog_level = \"verbose\"\n" = .ok s ∧
      (s.withEnv fun name =>
        if name = "ACTISTREAM_GENERAL_LOG_LEVEL" then some "info" else none).Valid ∧
      load "actistream.toml" (.text "[general]\nlog_level = \"verbose\"\n")
          (fun name => if name = "ACTISTREAM_GENERAL_LOG_LEVEL" then some "info" else none) =
        .error (.invalidSetting "general.log_level"
          "must be one of: trace, debug, info, warn, error") := by
  have hparse : parse "[general]\nlog_level = \"verbose\"\n" =
      .ok { general := { level := "verbose" } } := by cbv
  exact ⟨_, hparse, fault?_eq_none_iff.1 (by cbv), load_of_fault hparse (by cbv)⟩

end Settings

end Intake
