import SchemaReview.Failure
import SchemaReview.Lint.Rule
import SchemaReview.Log
import SchemaReview.Text.Integer

/-!
# Rule sets

Which rules run, how severe they are, and with which options. Overrides are merged over a rule set:
a mapping changes parts of a rule's configuration, a boolean turns the rule on or off, and any other
plain value sets the rule's main option and turns it on. Null changes nothing, and rules that the
catalog does not know are passed over with a warning.
-/
namespace SchemaReview.Lint

structure RuleConfig where
  enabled : Bool
  severity : Severity
  options : Options
deriving Repr, BEq

def RuleId.defaultConfig (id : RuleId) : RuleConfig :=
  ⟨id.rule.enabledByDefault, id.rule.severity, id.rule.defaultOptions⟩

/-- The configuration as plain data. -/
def RuleConfig.toDatum (c : RuleConfig) : Datum :=
  .mapping [(.str "enabled", .bool c.enabled), (.str "severity", .str c.severity.text),
    (.str "options", .mapping c.options)]

/-- Configurations by rule, in the order in which they were set first. -/
structure RuleSet where
  configs : List (RuleId × RuleConfig)
deriving Repr

namespace RuleSet

/-- The rules given, with their default configurations. -/
def ofRules (ids : List RuleId) : RuleSet := ⟨ids.map fun id => (id, id.defaultConfig)⟩

def defaults : RuleSet := ofRules RuleId.all

/-- The configuration of a rule; the default one if the set has none. -/
def config (s : RuleSet) (id : RuleId) : RuleConfig :=
  (s.configs.lookup id).getD id.defaultConfig

def isEnabled (s : RuleSet) (id : RuleId) : Bool := (s.config id).enabled

/-- A list of configurations with one rule's set. -/
def setConfig (configs : List (RuleId × RuleConfig)) (id : RuleId) (config : RuleConfig) :
    List (RuleId × RuleConfig) :=
  match configs with
  | [] => [(id, config)]
  | (k, c) :: rest => if k = id then (k, config) :: rest else (k, c) :: setConfig rest id config

def set (s : RuleSet) (id : RuleId) (config : RuleConfig) : RuleSet :=
  ⟨setConfig s.configs id config⟩

def toDatum (s : RuleSet) : Datum :=
  .mapping (s.configs.map fun (id, c) => (.str id.text, c.toDatum))

end RuleSet

/-- The boolean that a text spells. -/
def booleanText? (s : String) : Option Bool :=
  match Text.lower (Text.strip s) with
  | "true" => some true
  | "false" => some false
  | _ => none

/-- A failure of an override of a rule. -/
def refuse {α : Type} (id : RuleId) (fault : OverrideFault) : Except Failure α :=
  throw (.config (.override id.text fault))

/-- The configuration itself if the rule can use its options. -/
def validated (id : RuleId) (config : RuleConfig) : Except Failure RuleConfig :=
  match id.rule.optionCheck with
  | none => .ok config
  | some check =>
    match check.run config.options with
    | .ok () => .ok config
    | .error f => throw (f.failure (.override id.text (.option f)))

/-- The keys of an override that is a mapping. -/
def overrideKeys : List String := ["enabled", "severity", "options"]

/-- The keys that are not among the known ones, as a message shows them. -/
def unknownKeysShown (entries : Options) : Option String :=
  let texts := entries.filterMap fun e =>
    match e.1 with
    | .str k => if overrideKeys.contains k then none else some (k, e.1.shown)
    | k => some (k.text, k.shown)
  if texts.isEmpty then none
  else
    let sorted := texts.mergeSort fun a b => a.1 ≤ b.1
    some ("[" ++ ", ".intercalate (sorted.map (·.2)) ++ "]")

/-- Whether the rule is on, as far as a mapping says so. -/
def mappedEnabled (id : RuleId) (current : Bool) (entries : Options) : Except Failure Bool :=
  match Datum.textEntry? entries "enabled" with
  | none => .ok current
  | some (.bool b) => .ok b
  | some other => refuse id (.enabledNotBoolean other.shown)

/-- The severity of the rule, as far as a mapping says so. -/
def mappedSeverity (id : RuleId) (current : Severity) (entries : Options) :
    Except Failure Severity :=
  match (Datum.textEntry? entries "severity").getD .null with
  | .null => .ok current
  | value =>
    match Severity.ofText? value.text with
    | some s => .ok s
    | none => refuse id (.unknownSeverity value.text)

/-- The options of the rule with those that a mapping gives. -/
def mappedOptions (id : RuleId) (current : Options) (entries : Options) : Except Failure Options :=
  let extra := (Datum.textEntry? entries "options").getD .null
  if !extra.isTruthy then .ok current
  else
    match extra with
    | .mapping others => .ok (Datum.updateEntries current others)
    | _ => refuse id .optionsNotMapping

/-- A configuration with the parts set that a mapping names. -/
def applyMapping (id : RuleId) (current : RuleConfig) (entries : Options) :
    Except Failure RuleConfig :=
  match unknownKeysShown entries with
  | some shown => refuse id (.unknownKeys shown)
  | none => do
    let enabled ← mappedEnabled id current.enabled entries
    let severity ← mappedSeverity id current.severity entries
    let options ← mappedOptions id current.options entries
    validated id ⟨enabled, severity, options⟩

/-- The number that a text of digits spells; a digit without a decimal value spells none. -/
def digitsOption (s : String) : Except Failure Datum :=
  match Text.integerValue? s.toList with
  | some n => .ok (.int n)
  | none => throw (.value (.notAnInteger (Text.quoted s)))

/-- The value that an option is set to: a text of digits counts as the number it spells. -/
def optionValue (value : Datum) : Except Failure Datum :=
  match value with
  | .str s => if Text.isAllDigits (Text.stripChars s.toList) then digitsOption s else .ok value
  | _ => .ok value

/-- A configuration with the rule's main option set, and the rule turned on. -/
def applyOption (id : RuleId) (current : RuleConfig) (value : Datum) :
    Except Failure RuleConfig :=
  match id.rule.primaryOption with
  | none => refuse id (.noOptionValue value.shown)
  | some option => do
    let value ← optionValue value
    validated id ⟨true, current.severity, Datum.setEntry current.options (.str option) value⟩

/-- A configuration with an override that is not null applied. -/
def applyOverride (id : RuleId) (current : RuleConfig) (value : Datum) :
    Except Failure RuleConfig :=
  match value with
  | .str s =>
    match booleanText? s with
    | some b => .ok { current with enabled := b }
    | none => applyOption id current value
  | .bool b => .ok { current with enabled := b }
  | .mapping entries => applyMapping id current entries
  | .int _ => applyOption id current value
  | .float _ => applyOption id current value
  | other => refuse id (.unsupported other.shown)

/-- A rule set with the overrides of a mapping applied, one after another. -/
def mergeEntries (base : RuleSet) : Options → Logged (Except Failure RuleSet)
  | [] => pure (.ok base)
  | (key, value) :: rest =>
    match RuleId.ofText? key.text with
    | none => do
      Logged.tell .warning .ruleSet ("Ignoring override for unknown rule '" ++ key.text ++ "'")
      mergeEntries base rest
    | some id =>
      match value with
      | .null => mergeEntries base rest
      | value =>
        match applyOverride id (base.config id) value with
        | .ok config => mergeEntries (base.set id config) rest
        | .error f => pure (.error f)

/-- A rule set with overrides applied. Overrides that are absent or empty change nothing. -/
def mergeOverrides (base : RuleSet) (overrides : Datum) : Logged (Except Failure RuleSet) :=
  if !overrides.isTruthy then pure (.ok base)
  else
    match overrides with
    | .mapping entries => mergeEntries base entries
    | other => pure (.error (.noAttribute other.typeName "items"))

end SchemaReview.Lint
