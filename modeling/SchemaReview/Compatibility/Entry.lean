import SchemaReview.Issue

/-!
# Entries of a difference

One difference between two schemas: its kind, where it lies, what stood there before and after, and
whether it is breaking.
-/
namespace SchemaReview

inductive DiffKind where
  | fieldAdded
  | fieldRemoved
  | fieldTypeChanged
  | fieldDefaultChanged
  | docChanged
  | namespaceChanged
  | nameChanged
  | symbolsChanged
  | versionCountMismatch
  | incomparable
deriving DecidableEq, Repr

def DiffKind.text : DiffKind → String
  | .fieldAdded => "field_added"
  | .fieldRemoved => "field_removed"
  | .fieldTypeChanged => "field_type_changed"
  | .fieldDefaultChanged => "field_default_changed"
  | .docChanged => "doc_changed"
  | .namespaceChanged => "namespace_changed"
  | .nameChanged => "name_changed"
  | .symbolsChanged => "symbols_changed"
  | .versionCountMismatch => "version_count_mismatch"
  | .incomparable => "incomparable"

/-- One difference, with what stood there before and after. -/
structure DiffEntry where
  kind : DiffKind
  path : Path
  before : Json := .null
  after : Json := .null
  breaking : Bool := false
  message : String := ""
deriving Repr

namespace DiffEntry

def pointer (e : DiffEntry) : String := e.path.pointer

def toJson (e : DiffEntry) : Json :=
  .obj [("kind", .str e.kind.text), ("path", e.path.toJson), ("before", e.before),
    ("after", e.after), ("breaking", .bool e.breaking), ("message", .str e.message)]

/-- Equality of all attributes, with snapshots compared as values. -/
def same (a b : DiffEntry) : Bool :=
  a.kind == b.kind && a.path == b.path && a.before.same b.before && a.after.same b.after &&
  a.breaking == b.breaking && a.message == b.message

end DiffEntry

def hasBreaking (entries : List DiffEntry) : Bool := entries.any (·.breaking)

end SchemaReview
