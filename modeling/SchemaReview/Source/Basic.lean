import SchemaReview.Parse
import SchemaReview.Source.PosixPath

/-!
# Schema sources

A schema text together with where it came from. The language of a text is the one that was given
with it, or else the one that its file name stands for; a `.json` file is a JSON Schema if it says
so, and an Avro schema otherwise.
-/
namespace SchemaReview

/-- Where a registered schema lives. The version is a number or a word. -/
structure RegistryAddress where
  url : String
  subject : String
  version : Json
deriving Repr

namespace RegistryAddress

/-- The registry's own address of the version. -/
def text (a : RegistryAddress) : String :=
  String.ofList (a.url.toList.reverse.dropWhile (· == '/')).reverse ++ "/subjects/" ++ a.subject ++
    "/versions/" ++ a.version.toText

end RegistryAddress

inductive Origin where
  /-- A name, which is also taken for a file's. -/
  | named (name : String)
  | file (path : PosixPath)
  | registry (address : RegistryAddress)
deriving Repr

def Origin.text : Origin → String
  | .named name => name
  | .file path => path.text
  | .registry address => address.text

structure Source where
  text : String
  format : Option Format := none
  origin : Option Origin := none
deriving Repr

/-- The languages that file suffixes stand for; `none` where the text decides. -/
def suffixFormats : List (String × Option Format) :=
  [(".avsc", some .avro), (".proto", some .protobuf), (".json", none)]

def Format.suffix : Format → String
  | .avro => ".avsc"
  | .protobuf => ".proto"
  | .jsonSchema => ".json"

/-- The language of a JSON text: a JSON Schema declares its dialect. -/
def formatOfJsonText (text : String) : Format :=
  match Json.ofText text with
  | .ok (.obj members) => if Json.hasMember members "$schema" then .jsonSchema else .avro
  | _ => .avro

/-- The language of a text in a file with the given path. -/
def detectFormat (path : Option PosixPath) (text : String) : Except ParseError Format :=
  match path with
  | none => .error { fault := .formatWithoutFileName }
  | some path =>
    match suffixFormats.lookup (Text.lower path.suffix) with
    | none => .error { fault := .unknownFileType path.text }
    | some (some format) => .ok format
    | some none => .ok (formatOfJsonText text)

/-- The name under which a schema without a name or file is reported. -/
def inlineIdentifier : String := "<inline>"

namespace Source

/-- The name under which a source is reported. -/
def identifier (s : Source) : String :=
  match s.origin with
  | none => inlineIdentifier
  | some (.registry address) => address.subject
  | some origin => origin.text

/-- The path of the file that a source comes from. -/
def path (s : Source) : Option PosixPath :=
  match s.origin with
  | some (.named name) => some (PosixPath.ofText name)
  | some (.file path) => some path
  | _ => none

/-- The language of a source. -/
def resolveFormat (s : Source) : Except Failure Format :=
  match s.format with
  | some format => .ok format
  | none => failParse (detectFormat s.path s.text)

/-- The document of a source. -/
def parse (s : Source) : Except Failure Document := do SchemaReview.parse s.text (← s.resolveFormat)

/-- The outcome of reading a source: its language as far as it is known, and the document. -/
def read (s : Source) : Option Format × Except Failure Document :=
  match s.resolveFormat with
  | .error f => (s.format, .error f)
  | .ok format => (some format, SchemaReview.parse s.text format)

/-- A text from a registry, which names the language of all schemas but Avro's. -/
def ofRegistry (address : RegistryAddress) (text : String) (schemaType : Json) :
    Except Failure Source :=
  if !schemaType.isTruthy then .ok ⟨text, some .avro, some (.registry address)⟩
  else
    match Format.ofText? schemaType.toText with
    | some format => .ok ⟨text, some format, some (.registry address)⟩
    | none => .error (.value (.unknownFormat schemaType.toText))

end Source
end SchemaReview
