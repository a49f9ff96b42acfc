import Dialogs.Cli.Settings
import Dialogs.Runner

/-!
# Layers of a configuration

A configuration is resolved from three layers: the flags of the command line, the settings of a
file, and a base. Each field is taken from the first layer that gives it, where a blank executable
in the settings counts as none and no flag gives arguments; debugging is on if the flag turns it on,
or if the first layer below that says anything about it does.

The fields are resolved independently, and laying the same flags and settings over the result again
changes nothing. A renderer can be run with the result unless its executable is blank, which takes a
blank flag, or no flag, no usable setting and a blank base.
-/

namespace Dialogs

/-- The fields of a configuration. -/
inductive ConfigField where
  | executable
  | args
  | backend
  | timeout
  | debug
  deriving DecidableEq, Repr

/-- Configurations with the same value in a field. -/
def Config.Agree (first second : Config) : ConfigField → Prop
  | .executable => first.executable = second.executable
  | .args => first.args = second.args
  | .backend => first.backend = second.backend
  | .timeout => first.timeoutSecs = second.timeoutSecs
  | .debug => first.debug = second.debug

/-- A runner is refused exactly if the executable of its configuration is blank. -/
theorem Runner.ofConfig_eq_error_iff {config : Config} {failure : Failure} :
    Runner.ofConfig config = .error failure ↔
      failure = .config .blankExecutable ∧ Text.isAllBlank config.executable = true := by
  rw [Runner.ofConfig, Config.requireExecutable]
  by_cases blank : Text.isAllBlank config.executable = true
  · rw [if_pos blank]
    simp [blank, eq_comm]
  · rw [if_neg blank]
    simp [blank]

namespace Cli

variable {flags : Flags} {settings : Settings} {base : Config} {α : Type}

/-- What settings give for a field of the renderer. -/
def Settings.given? (settings : Settings) (field : RendererSettings → Option α) : Option α :=
  settings.renderer.bind field

/-- The executable that settings give, unless it is blank. -/
def Settings.usable? (settings : Settings) : Option String :=
  (settings.given? RendererSettings.executable).filter fun executable =>
    !Text.isAllBlank executable

/-- The first value that is given. -/
def firstGiven? (values : List (Option α)) : Option α := values.findSome? id

@[simp]
theorem firstGiven?_nil : firstGiven? ([] : List (Option α)) = none := rfl

@[simp]
theorem firstGiven?_cons (value : Option α) (rest : List (Option α)) :
    firstGiven? (value :: rest) = value.or (firstGiven? rest) := by
  cases value <;> rfl

/-- Flags that give the same for a field. There is none for arguments. -/
def Flags.Agree (first second : Flags) : ConfigField → Prop
  | .executable => first.executable = second.executable
  | .args => True
  | .backend => first.backend = second.backend
  | .timeout => first.timeout = second.timeout
  | .debug => first.debug = second.debug

/-- Settings that give the same for a field. -/
def Settings.Agree (first second : Settings) : ConfigField → Prop
  | .executable =>
    first.given? RendererSettings.executable = second.given? RendererSettings.executable
  | .args => first.given? RendererSettings.args = second.given? RendererSettings.args
  | .backend => first.given? RendererSettings.backend = second.given? RendererSettings.backend
  | .timeout =>
    first.given? RendererSettings.timeoutSecs = second.given? RendererSettings.timeoutSecs
  | .debug => first.given? RendererSettings.debug = second.given? RendererSettings.debug

/-! ### Fields -/

/-- Settings without a part on the renderer give nothing, so that the base is left as it is. -/
theorem Settings.apply_eq (settings : Settings) (base : Config) :
    settings.apply base =
      { executable := settings.usable?.getD base.executable
        args := (settings.given? RendererSettings.args).getD base.args
        backend := (settings.given? RendererSettings.backend).or base.backend
        timeoutSecs := (settings.given? RendererSettings.timeoutSecs).or base.timeoutSecs
        debug := (settings.given? RendererSettings.debug).getD base.debug } := by
  obtain ⟨_ | given, logging⟩ := settings
  · rfl
  · rfl

/-- Each field of the configuration is what the first layer gives that gives it. -/
theorem Flags.resolve_eq (flags : Flags) (settings : Settings) (base : Config) :
    flags.resolve settings base =
      { executable := (flags.executable.or settings.usable?).getD base.executable
        args := (settings.given? RendererSettings.args).getD base.args
        backend := (flags.backend.or (settings.given? RendererSettings.backend)).or base.backend
        timeoutSecs :=
          (flags.timeout.or (settings.given? RendererSettings.timeoutSecs)).or base.timeoutSecs
        debug := flags.debug || (settings.given? RendererSettings.debug).getD base.debug } := by
  rw [Flags.resolve, Settings.apply_eq]
  simp only [Option.or_assoc, Bool.or_comm]
  cases flags.executable <;> rfl

/-- Laying flags and settings over a configuration twice is the same as laying them over it once. -/
theorem Flags.resolve_resolve (flags : Flags) (settings : Settings) (base : Config) :
    flags.resolve settings (flags.resolve settings base) = flags.resolve settings base := by
  simp only [Flags.resolve_eq, Config.mk.injEq]
  refine ⟨?_, ?_, ?_, ?_, ?_⟩
  · cases flags.executable.or settings.usable? <;> rfl
  · cases settings.given? RendererSettings.args <;> rfl
  · rw [← Option.or_assoc, Option.or_self]
  · rw [← Option.or_assoc, Option.or_self]
  · cases flags.debug <;> cases settings.given? RendererSettings.debug <;> rfl

/-- Layers that agree on a field are resolved to configurations that agree on it. -/
theorem Flags.resolve_agree {field : ConfigField} {otherFlags : Flags} {otherSettings : Settings}
    {otherBase : Config} (sameFlags : flags.Agree otherFlags field)
    (sameSettings : settings.Agree otherSettings field) (sameBase : base.Agree otherBase field) :
    (flags.resolve settings base).Agree (otherFlags.resolve otherSettings otherBase) field := by
  cases field <;> simp only [Flags.Agree, Settings.Agree, Config.Agree] at * <;>
    simp only [Flags.resolve_eq, Settings.usable?, *]

/-! ### The executable -/

/-- Settings give no usable executable exactly if whatever they give is blank. -/
theorem Settings.usable?_eq_none_iff :
    settings.usable? = none ↔
      ∀ executable, settings.given? RendererSettings.executable = some executable →
        Text.isAllBlank executable = true := by
  simp [Settings.usable?, Option.filter_eq_none_iff]

/-- An executable that settings give is not blank. -/
theorem Settings.not_isAllBlank_of_usable? {executable : String}
    (usable : settings.usable? = some executable) : Text.isAllBlank executable = false := by
  have kept := (Option.filter_eq_some_iff.mp usable).2
  simpa using kept

/-- The resolved executable is blank exactly if the flag is, or if there is no flag, nothing usable
in the settings, and a blank base. -/
theorem Flags.isAllBlank_resolve_iff :
    Text.isAllBlank (flags.resolve settings base).executable = true ↔
      (∃ executable, flags.executable = some executable ∧ Text.isAllBlank executable = true) ∨
        flags.executable = none ∧
          (∀ executable, settings.given? RendererSettings.executable = some executable →
            Text.isAllBlank executable = true) ∧
          Text.isAllBlank base.executable = true := by
  rw [← Settings.usable?_eq_none_iff, Flags.resolve_eq]
  cases flags.executable with
  | some executable => simp
  | none =>
    cases usable : settings.usable? with
    | none => simp
    | some executable => simp [Settings.not_isAllBlank_of_usable? usable]

/-! ### Main result -/

/-- Flags come before settings, and settings before the base, field by field. A blank executable in
the settings counts as none, and debugging is turned on by the flag or else as below it. No field
depends on another, and resolving again changes nothing. A runner is refused, as one that is not
configured, exactly if the resolved executable is blank. That is so exactly if the flag is blank, or
if there is no flag, the settings give none but a blank one, and that of the base is blank. -/
theorem Flags.resolve_layers :
    (∀ (flags : Flags) (settings : Settings) (base : Config),
        let config := flags.resolve settings base
        firstGiven? [flags.executable, settings.usable?, some base.executable] =
            some config.executable ∧
          firstGiven? [settings.given? RendererSettings.args, some base.args] = some config.args ∧
          firstGiven? [flags.backend, settings.given? RendererSettings.backend, base.backend] =
            config.backend ∧
          firstGiven? [flags.timeout, settings.given? RendererSettings.timeoutSecs,
            base.timeoutSecs] = config.timeoutSecs ∧
          config.debug =
            (flags.debug || (settings.given? RendererSettings.debug).getD base.debug)) ∧
      (∀ (field : ConfigField) (flags otherFlags : Flags) (settings otherSettings : Settings)
        (base otherBase : Config), flags.Agree otherFlags field →
          settings.Agree otherSettings field → base.Agree otherBase field →
            (flags.resolve settings base).Agree (otherFlags.resolve otherSettings otherBase)
              field) ∧
      (∀ (flags : Flags) (settings : Settings) (base : Config),
        flags.resolve settings (flags.resolve settings base) = flags.resolve settings base) ∧
      ∀ (flags : Flags) (settings : Settings) (base : Config),
        (∀ failure, Runner.ofConfig (flags.resolve settings base) = .error failure ↔
          failure = .config .blankExecutable ∧
            Text.isAllBlank (flags.resolve settings base).executable = true) ∧
        (Text.isAllBlank (flags.resolve settings base).executable = true ↔
          (∃ executable, flags.executable = some executable ∧
              Text.isAllBlank executable = true) ∨
            flags.executable = none ∧
              (∀ executable, settings.given? RendererSettings.executable = some executable →
                Text.isAllBlank executable = true) ∧
              Text.isAllBlank base.executable = true) := by
  refine ⟨?_, ?_, Flags.resolve_resolve, ?_⟩
  · intro flags settings base config
    simp [config, Flags.resolve_eq, Option.or_assoc]
  · intro field flags otherFlags settings otherSettings base otherBase
    exact Flags.resolve_agree
  · intro flags settings base
    exact ⟨fun failure => Runner.ofConfig_eq_error_iff, Flags.isAllBlank_resolve_iff⟩

/-- Layers that agree on nothing but the timeout, which the settings give. -/
theorem Flags.resolve_layers_timeout :
    ((⟨some "", none, true, none, none⟩ : Flags).resolve
        ⟨some ⟨some " ", none, some "qt", some 7, none⟩, none⟩ ⟨"a", [], none, some 9, false⟩).Agree
      ((⟨none, some "gtk", false, none, some "log"⟩ : Flags).resolve
        ⟨some ⟨some "b", some ["-x"], none, some 7, some false⟩, none⟩
        ⟨"", ["-y"], some "tk", some 9, true⟩) .timeout := by
  obtain ⟨-, agree, -⟩ := Flags.resolve_layers
  exact agree .timeout _ _ _ _ _ _ rfl rfl rfl

end Cli

end Dialogs
