import SchemaReview.Pattern.Fault

/-!
# Why a rule configuration is refused
-/
namespace SchemaReview.Lint

/-- Why a value is not a format version. -/
inductive VersionFault where
  | notText (typeName shown : String)
  | notAVersion (text : String)
deriving DecidableEq, Repr

def VersionFault.text : VersionFault → String
  | .notText t s => "Rule file version must be a string, got " ++ t ++ ": " ++ s
  | .notAVersion t =>
    "Invalid rule file version: '" ++ t ++ "'. Expected 'MAJOR.MINOR.PATCH' (e.g. '1.0.0')."

/-- Why the value of a rule's option is refused. -/
inductive OptionFault where
  | patternNotText (shown : String)
  | badPattern (pattern : String) (error : Pattern.PatternError)
  | badLimit (shown : String)
  | badSyntaxLevel (shown : String)
deriving DecidableEq, Repr

def OptionFault.text : OptionFault → String
  | .patternNotText s => "Option 'pattern' must be a non-empty string, got " ++ s
  | .badPattern p e => "Invalid naming pattern " ++ Text.quoted p ++ ": " ++ e.describe p
  | .badLimit s => "Option 'limit' must be a positive integer, got " ++ s
  | .badSyntaxLevel s => "Option 'expected' must be 'proto2' or 'proto3', got " ++ s

/-- Why the override of one rule is refused. -/
inductive OverrideFault where
  | unknownKeys (shown : String)
  | enabledNotBoolean (shown : String)
  | unknownSeverity (value : String)
  | optionsNotMapping
  | noOptionValue (shown : String)
  | unsupported (shown : String)
  | option (fault : OptionFault)
deriving DecidableEq, Repr

/-- The wording of a refusal, for the rule with the given identifier. -/
def OverrideFault.text (rule : String) : OverrideFault → String
  | .unknownKeys s => "Rule '" ++ rule ++ "': unknown keys " ++ s
  | .enabledNotBoolean s => "Rule '" ++ rule ++ "': 'enabled' must be a boolean, got " ++ s
  | .unknownSeverity v => "Rule '" ++ rule ++ "': Unknown severity: '" ++ v ++ "'"
  | .optionsNotMapping => "Rule '" ++ rule ++ "': 'options' must be a mapping"
  | .noOptionValue s => "Rule '" ++ rule ++ "' takes no option value, got " ++ s
  | .unsupported s => "Rule '" ++ rule ++ "': unsupported override " ++ s
  | .option f => "Rule '" ++ rule ++ "': " ++ f.text

/-- Why a value in a rule file is refused. -/
inductive FileFault where
  | wrongType (shown : String) (types : List String)
  | noRuleValue (shown : String)
  | unexpectedKeys (shown : List String)
deriving DecidableEq, Repr

def FileFault.text : FileFault → String
  | .wrongType s types =>
    s ++ " is not of type " ++ ", ".intercalate (types.map fun t => "'" ++ t ++ "'")
  | .noRuleValue s => s ++ " is not valid under any of the given schemas"
  | .unexpectedKeys keys =>
    "Additional properties are not allowed (" ++ ", ".intercalate keys ++
      (if keys.length = 1 then " was" else " were") ++ " unexpected)"

/-- Why a rule configuration is refused. -/
inductive ConfigFault where
  | option (fault : OptionFault)
  | override (rule : String) (fault : OverrideFault)
  | fileNotFound (path : String)
  | notAFile (path : String)
  | unreadableFile (path reason : String)
  | notReadable (origin : String)
  | rootNotMapping (origin : String)
  | invalid (place pointer : String) (fault : FileFault)
  | version (place message : String)
deriving DecidableEq, Repr

def ConfigFault.text : ConfigFault → String
  | .option f => f.text
  | .override r f => f.text r
  | .fileNotFound p => "Rule file not found: " ++ p
  | .notAFile p => "Path is not a file: " ++ p
  | .unreadableFile p r => "Failed to read rule file " ++ p ++ ": " ++ r
  | .notReadable o => "Failed to parse rule file " ++ o
  | .rootNotMapping o => o ++ ": rule file root must be a mapping"
  | .invalid place pointer fault =>
    place ++ ": invalid rule file at '" ++ (if pointer = "" then "/" else pointer) ++ "': " ++
      fault.text
  | .version place message => place ++ ": " ++ message

end SchemaReview.Lint
