import SchemaReview.Datum
import SchemaReview.Fault
import SchemaReview.Json.Reader
import SchemaReview.JsonSchema.Address
import SchemaReview.Lint.Fault
import SchemaReview.Path
import SchemaReview.Schema.Kind
import SchemaReview.Text.Quoted

/-!
# Failures

Each way in which an operation can fail is a cause; its wording is computed from the cause. The
families are: texts that cannot be read as schemas, invalid rule configurations, schemas that
cannot be compared, and values of a wrong content or type.
-/
namespace SchemaReview

/-- Why a text cannot be turned into a schema. -/
inductive ParseFault where
  | emptyText
  | notJson (fault : Json.SyntaxFault)
  | unknownFormat (shown : String)
  | avro (fault : Avro.Fault)
  | protobuf (fault : Protobuf.Fault)
  | jsonSchema (fault : JsonSchema.Fault)
  | fileNotFound (path : String)
  | notAFile (path : String)
  | unreadableFile (path reason : String)
  | formatWithoutFileName
  | unknownFileType (path : String)
  | entryNotObject (typeName : String)
  | entryWithoutText
  | described (reason : String)
deriving DecidableEq, Repr

/-- The known schema languages, as error texts list them. -/
def knownFormatsText : String := "['avro', 'protobuf', 'json']"

def unknownFormatText (value : String) : String :=
  "Unknown schema format: '" ++ value ++ "'. Valid formats: " ++ knownFormatsText

def ParseFault.text : ParseFault → String
  | .emptyText => "Schema text is empty"
  | .notJson f => "Invalid JSON format: " ++ f.text
  | .unknownFormat v => unknownFormatText v
  | .avro f => f.text
  | .protobuf f => f.text
  | .jsonSchema f => f.text
  | .fileNotFound p => "Schema file not found: " ++ p
  | .notAFile p => "Path is not a file: " ++ p
  | .unreadableFile p r => "Failed to read schema file " ++ p ++ ": " ++ r
  | .formatWithoutFileName =>
    "Cannot detect schema format without a file name; pass the format explicitly"
  | .unknownFileType p =>
    "Unknown schema type for '" ++ p ++ "'. Expected one of: .avsc, .proto, .json"
  | .entryNotObject t => "Registry entry must be an object, got " ++ t
  | .entryWithoutText => "Registry entry has no schema text"
  | .described r => r

/-- A failure to parse: its cause, where in the text it lies, and at which node. -/
structure ParseError where
  fault : ParseFault
  offset : Option Int := none
  path : Path := []
deriving DecidableEq, Repr

/-- The cause, followed by the node and the offset, where there are any. -/
def ParseError.message (e : ParseError) : String :=
  let place := if e.path.isEmpty then "" else " (path= /" ++ e.path.joined ++ ")"
  let offset := match e.offset with
    | some n => " (offset= " ++ toString n ++ ")"
    | none => ""
  e.fault.text ++ place ++ offset

/-- Why attributes do not make up a schema node. -/
inductive ModelFault where
  | unknownKind (word : String)
  | fieldsNotAllowed (kind : Kind)
  | duplicateField (field owner : String)
  | unalignedSymbolValues
  | emptyFieldName
  | defaultNotDeclared (field : String)
deriving DecidableEq, Repr

def ModelFault.text : ModelFault → String
  | .unknownKind w => Text.quoted w ++ " is not a valid SchemaKind"
  | .fieldsNotAllowed k => "Schema kind '" ++ k.text ++ "' cannot carry fields"
  | .duplicateField f o => "Duplicate field name '" ++ f ++ "' in '" ++ o ++ "'"
  | .unalignedSymbolValues => "symbol_values must align with symbols"
  | .emptyFieldName => "Field name must be a non-empty string"
  | .defaultNotDeclared f =>
    "Field '" ++ f ++ "' has a default value but has_default is False"

/-- Why numbers make up no date or time of day. -/
inductive CalendarFault where
  | year (year : Nat)
  | month
  | day
  | hour
  | minute
  | second
  /-- A distance from universal time of a day or more, in seconds. -/
  | offset (seconds : Int)
deriving DecidableEq, Repr

def CalendarFault.text : CalendarFault → String
  | .year y => "year " ++ toString y ++ " is out of range"
  | .month => "month must be in 1..12"
  | .day => "day is out of range for month"
  | .hour => "hour must be in 0..23"
  | .minute => "minute must be in 0..59"
  | .second => "second must be in 0..59"
  | .offset seconds =>
    "offset must be a timedelta strictly between -timedelta(hours=24) and " ++
      "timedelta(hours=24), not " ++ Timestamp.durationShown seconds ++ "."

/-- Why a value has the right type and still is not acceptable. -/
inductive ValueFault where
  | model (fault : ModelFault)
  | unknownFormat (value : String)
  | unknownSeverity (value : String)
  | unknownMode (value : String)
  | unknownCompareMode (value : String)
  | notAnInteger (shown : String) (base : Nat := 10)
  | notADecimal (shown : String)
  | codePointOutOfRange
  | calendar (fault : CalendarFault)
  | noSubject
  | notAvro (kind : Kind)
  | notJsonSchema (kind : Kind)
  | notANumber
  | address (fault : JsonSchema.AddressFault)
deriving DecidableEq, Repr

def ValueFault.text : ValueFault → String
  | .model f => f.text
  | .unknownFormat v => unknownFormatText v
  | .unknownSeverity v => "Unknown severity: '" ++ v ++ "'"
  | .unknownMode v =>
    "Unknown compatibility mode: '" ++ v ++ "'. Valid modes: ['BACKWARD', " ++
      "'BACKWARD_TRANSITIVE', 'FORWARD', 'FORWARD_TRANSITIVE', 'FULL', 'FULL_TRANSITIVE', 'NONE']"
  | .unknownCompareMode v =>
    "Unknown compare mode: '" ++ v ++ "'. Valid modes: ['all', 'subjects', 'schemas', 'versions']"
  | .notAnInteger s base =>
    "invalid literal for int() with base " ++ toString base ++ ": " ++
      String.ofList (s.toList.take 200)
  | .notADecimal s => "could not convert string to float: " ++ s
  | .codePointOutOfRange => "chr() arg not in range(0x110000)"
  | .calendar f => f.text
  | .noSubject => "Cannot derive a subject without a schema name or file path"
  | .notAvro k => "Schema kind '" ++ k.text ++ "' has no Avro representation"
  | .notJsonSchema k => "Schema kind '" ++ k.text ++ "' has no JSON Schema representation"
  | .notANumber => "cannot convert float NaN to integer"
  | .address f => f.text

/-- Why a value of this type cannot be used here. -/
inductive TypeFault where
  | notIterable (typeName : String)
  | noMembershipTest (typeName : String)
  | notIntegerLike (typeName : String)
  | nonTextInSequence (position : Nat) (typeName : String)
  | notText (typeName : String)
  | notOrdered (left right : String)
  | mixedOffsets
  | timestampWithDate
  | unhashable (typeName : String)
  | textIndexOfText
  | textIndexOfList
deriving DecidableEq, Repr

def TypeFault.text : TypeFault → String
  | .notIterable t => "'" ++ t ++ "' object is not iterable"
  | .noMembershipTest t => "argument of type '" ++ t ++ "' is not iterable"
  | .notIntegerLike t =>
    "int() argument must be a string, a bytes-like object or a real number, not '" ++ t ++ "'"
  | .nonTextInSequence i t =>
    "sequence item " ++ toString i ++ ": expected str instance, " ++ t ++ " found"
  | .notText t => "expected string or bytes-like object, got '" ++ t ++ "'"
  | .notOrdered l r =>
    "'<' not supported between instances of '" ++ l ++ "' and '" ++ r ++ "'"
  | .mixedOffsets => "can't compare offset-naive and offset-aware datetimes"
  | .timestampWithDate => "can't compare datetime.datetime to datetime.date"
  | .unhashable t => "unhashable type: '" ++ t ++ "'"
  | .textIndexOfText => "string indices must be integers, not 'str'"
  | .textIndexOfList => "list indices must be integers or slices, not str"

/-- Why an operation failed. -/
inductive Failure where
  | parse (error : ParseError)
  | config (fault : Lint.ConfigFault)
  | version (fault : Lint.VersionFault)
  | incomparable (before after : String)
  | value (fault : ValueFault)
  | type (fault : TypeFault)
  | noAttribute (typeName attr : String)
  | missingKey (key : String)
  | undecodable (error : Json.SyntaxError) (text : String)
  | infinityToInteger
  | pattern (fault : Pattern.Fault)
  | noCharacter
deriving DecidableEq, Repr

def Failure.message : Failure → String
  | .parse e => e.message
  | .config f => f.text
  | .version f => f.text
  | .incomparable b a => "Cannot compare a '" ++ b ++ "' schema with a '" ++ a ++ "' schema"
  | .value f => f.text
  | .type f => f.text
  | .noAttribute t a => "'" ++ t ++ "' object has no attribute '" ++ a ++ "'"
  | .missingKey k => Text.quoted k
  | .undecodable e t => e.describe t
  | .infinityToInteger => "cannot convert float infinity to integer"
  | .pattern f => f.text
  | .noCharacter => "string index out of range"

/-- Whether a failure lies in a schema, a rule configuration or their comparison. -/
def Failure.isSchemaFailure : Failure → Bool
  | .parse _ | .config _ | .version _ | .incomparable .. => true
  | _ => false

/-- Whether a failure lies in a value that is not acceptable. -/
def Failure.isValueFailure : Failure → Bool
  | .value _ | .undecodable .. | .pattern .asciiWithUnicode => true
  | _ => false

/-- The failure that an option causes, given how it is refused. Flags that cannot go together and
numbers of rounds that are too large are no matter of the option. -/
def Lint.OptionFault.failure (fault : Lint.OptionFault) (refusal : Lint.ConfigFault) : Failure :=
  match fault with
  | .badPattern _ e => if e.fault.isSpelling then .config refusal else .pattern e.fault
  | _ => .config refusal

/-- The failure to look into a node that is not there. -/
def absentNode {α : Type} : Except Failure α := throw (.noAttribute "NoneType" "kind")

end SchemaReview
