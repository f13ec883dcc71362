import SchemaReview.Datum
import SchemaReview.Lint.Fault
import SchemaReview.Text.Blank
import SchemaReview.Text.Digit

/-!
# Format versions of rule files

A version is two or three numbers, such as 1.0 or 1.0.0. The first one has to be the supported one;
a larger second one is read with a warning; the third does not count. A file that declares no
version is taken to have the supported one.
-/
namespace SchemaReview.Lint

structure Version where
  major : Nat
  minor : Nat
  patch : Nat := 0
deriving DecidableEq, Repr

namespace Version

def text (v : Version) : String :=
  toString v.major ++ "." ++ toString v.minor ++ "." ++ toString v.patch

/-- The version that this program reads. -/
def supported : Version := ⟨1, 0, 0⟩

/-- A number and what follows it. -/
def number? (s : List Char) : Option (Nat × List Char) := do
  let n ← Text.digitsValue? (s.takeWhile Text.isDecimalDigit)
  return (n, s.dropWhile Text.isDecimalDigit)

/-- The version that a text without blanks around it spells. -/
def ofChars? (s : List Char) : Option Version := do
  let s := match s with | 'v' :: rest => rest | rest => rest
  let (major, s) ← number? s
  match s with
  | '.' :: s =>
    let (minor, s) ← number? s
    match s with
    | [] => some ⟨major, minor, 0⟩
    | '.' :: s =>
      let (patch, s) ← number? s
      if s.isEmpty then some ⟨major, minor, patch⟩ else none
    | _ => none
  | _ => none

/-- The version that a value declares. Numbers are accepted, since `1.0` is one. -/
def ofDatum (value : Datum) : Except VersionFault Version :=
  let read : Except VersionFault Version :=
    match ofChars? (Text.stripChars value.text.toList) with
    | some v => .ok v
    | none => .error (.notAVersion value.text)
  match value with
  | .str _ => read
  | .int _ => read
  | .float _ => read
  | other => .error (.notText other.typeName other.shown)

end Version

/-- Whether a file of a declared version can be read, and why. -/
structure VersionCheck where
  compatible : Bool
  message : String
  file : Option Version := none
  minorNewer : Bool := false
deriving Repr

/-- The check of a declared version. -/
def checkVersion (declared : Datum) : VersionCheck :=
  let supported := Version.supported
  match declared with
  | .null =>
    { compatible := true,
      message := "No version declared, assuming " ++ supported.text ++ "." }
  | value =>
    match Version.ofDatum value with
    | .error f => { compatible := false, message := f.text }
    | .ok v =>
      if v.major ≠ supported.major then
        { compatible := false, file := some v,
          message := "Incompatible rule file version: file declares " ++ v.text ++
            " but this engine supports major version " ++ toString supported.major ++
            " (supported: " ++ supported.text ++ ")." }
      else if supported.minor < v.minor then
        { compatible := true, file := some v, minorNewer := true,
          message := "Rule file version " ++ v.text ++ " is newer than the supported " ++
            supported.text ++ ". Unknown rules and options will be ignored." }
      else
        { compatible := true, file := some v,
          message := "Rule file version " ++ v.text ++ " is compatible." }

end SchemaReview.Lint
