import SchemaReview.Log
import SchemaReview.Source.Basic
import SchemaReview.Text.Utf8

/-!
# Files

A tree of directories and files, the reading of texts from it, and the search for schema files.
Paths are looked up from the root of the tree, step by step: a step out of a directory needs the
directory to be there.
-/
namespace SchemaReview

structure FileTree where
  files : List (List String × List UInt8)
  /-- Directories beside those that hold files. -/
  directories : List (List String) := []
deriving Repr

namespace FileTree

/-- The content of a file; of several under one name the last one counts. -/
def content? (t : FileTree) (place : List String) : Option (List UInt8) :=
  t.files.reverse.lookup place

def isDirectory (t : FileTree) (place : List String) : Bool :=
  place.isEmpty || t.directories.any place.isPrefixOf ||
  t.files.any fun f => place.isPrefixOf f.1 && place.length < f.1.length

/-- The place that components lead to from a place, without steps out of directories. -/
def follow (t : FileTree) (place : List String) : List String → Option (List String)
  | [] => some place
  | step :: rest =>
    if !t.isDirectory place then none
    else if step = ".." then if place.isEmpty then none else t.follow place.dropLast rest
    else t.follow (place ++ [step]) rest

/-- Where a path leads, if something is there. -/
def resolve (t : FileTree) (path : PosixPath) : Option (List String) :=
  if path.root ≠ 0 then none
  else
    match t.follow [] path.parts with
    | none => none
    | some place => if t.isDirectory place || (t.content? place).isSome then some place else none

/-- The files below a place, with their components from there on. -/
def filesBelow (t : FileTree) (place : List String) : List (List String) :=
  t.files.filterMap fun f =>
    if place.isPrefixOf f.1 && place.length < f.1.length then some (f.1.drop place.length) else none

/-- A path as an operation on files sees it. -/
inductive Entry where
  | absent
  | directory (place : List String)
  | file (octets : List UInt8)

/-- What a path leads to. -/
def entry (t : FileTree) (path : PosixPath) : Entry :=
  match t.resolve path with
  | none => .absent
  | some place =>
    match t.content? place with
    | some octets => .file octets
    | none => .directory place

end FileTree

/-- The text of a file. -/
def textOfOctets (octets : List UInt8) : Except Text.Utf8Fault String :=
  (Text.decodeUtf8 octets).map fun s => String.ofList (Text.unifyLineEnds s)

/-- The source in a file, with its language if it was given. -/
def Source.ofFile (t : FileTree) (path : PosixPath) (format : Option String) :
    Except Failure Source :=
  let refused (fault : ParseFault) : Except Failure Source := .error (.parse { fault := fault })
  match t.entry path with
  | .absent => refused (.fileNotFound path.text)
  | .directory _ => refused (.notAFile path.text)
  | .file octets =>
    match textOfOctets octets with
    | .error f => refused (.unreadableFile path.text f.text)
    | .ok text =>
      match format with
      | none => .ok ⟨text, none, some (.file path)⟩
      | some "" => .ok ⟨text, none, some (.file path)⟩
      | some word =>
        match Format.ofText? word with
        | some f => .ok ⟨text, some f, some (.file path)⟩
        | none => .error (.value (.unknownFormat word))

/-- The suffixes of schema files, all or those of one language. -/
def schemaSuffixes (format : Option Format) : List String :=
  match format with
  | none => suffixFormats.map (·.1)
  | some f => [f.suffix]

/-- The schema files that a path stands for: itself, or all those below it. -/
def schemaFilesAt (t : FileTree) (suffixes : List String) (path : PosixPath) :
    Logged (List PosixPath) :=
  match t.entry path with
  | .absent => do
    Logged.tell .warning .sources ("Path does not exist: " ++ path.text)
    return []
  | .file _ =>
    if suffixes.contains (Text.lower path.suffix) then return [path]
    else do
      Logged.tell .warning .sources ("File does not match a schema file pattern: " ++ path.text)
      return []
  | .directory place =>
    let isSchema (parts : List String) : Bool :=
      suffixes.any fun s => (parts.getLast?.getD "").endsWith s
    return ((t.filesBelow place).filter isSchema).map fun parts => ⟨path.root, path.parts ++ parts⟩

/-- Whether a list of components comes no later than another one. -/
def partsLe : List String → List String → Bool
  | [], _ => true
  | _ :: _, [] => false
  | a :: as, b :: bs => if a = b then partsLe as bs else a < b

/-- Paths in their order, each once. -/
def sortPaths (paths : List PosixPath) : List PosixPath :=
  (paths.mergeSort fun a b => partsLe a.orderKey b.orderKey).eraseDups

/-- The schema files that some paths stand for. -/
def findSchemaFiles (t : FileTree) (paths : List String) (format : Option String) :
    Logged (Except Failure (List PosixPath)) := do
  let search (format : Option Format) : Logged (Except Failure (List PosixPath)) := do
    let found ← paths.mapM fun p => schemaFilesAt t (schemaSuffixes format) (PosixPath.ofText p)
    return .ok (sortPaths found.flatten)
  match format with
  | none => search none
  | some word =>
    match Format.ofText? word with
    | some f => search (some f)
    | none => return .error (.value (.unknownFormat word))

end SchemaReview
