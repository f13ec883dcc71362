import SchemaReview.Source.Basic

/-!
# Subjects

The name under which a schema is registered: the qualified name of an Avro schema, or else the name
of its file. It ends in `-value`, unless it says already whether keys or values have the schema.
-/
namespace SchemaReview

/-- The name of the schema in a document, where subjects are named after it. -/
def schemaName (document : Option Document) : Json :=
  match document with
  | some d => if d.format = .avro then d.root.qualifiedName else .null
  | none => .null

/-- The base of a subject with its ending. -/
def subjectOf (base : String) : String :=
  if base.endsWith "-value" || base.endsWith "-key" then base else base ++ "-value"

/-- The subject of a document in a file. -/
def deriveSubject (document : Option Document) (path : Option PosixPath) :
    Except Failure String :=
  let name := schemaName document
  let base := if name.isTruthy then name else .str ((path.map PosixPath.stem).getD "")
  match base with
  | .str "" => .error (.value .noSubject)
  | .str text => .ok (subjectOf text)
  | other => .error (.noAttribute other.typeName "endswith")

/-- The subject of a source with the given document. -/
def Source.subject (s : Source) (document : Document) : Except Failure String :=
  match s.origin with
  | some (.registry address) => .ok address.subject
  | _ => deriveSubject (some document) s.path

end SchemaReview
