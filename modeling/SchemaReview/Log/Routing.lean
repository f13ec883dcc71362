import SchemaReview.Text.Case

/-!
# Routing of log records

Records below a threshold are dropped. Of the others, those from an error level on go to the error
stream and the rest to the output stream, so that problems stay visible where the output is kept as
a report.
-/
namespace SchemaReview.Log

/-- The levels that have a name. -/
def namedLevels : List (Int × String) :=
  [(50, "CRITICAL"), (40, "ERROR"), (30, "WARNING"), (20, "INFO"), (10, "DEBUG"), (0, "NOTSET")]

/-- The name of a level. -/
def levelName (level : Int) : String :=
  (namedLevels.lookup level).getD ("Level " ++ toString level)

/-- The names by which a configuration chooses a level. -/
def configuredLevels : List (String × Int) :=
  [("CRITICAL", 50), ("FATAL", 50), ("ERROR", 40), ("WARNING", 30), ("WARN", 30), ("INFO", 20),
    ("DEBUG", 10), ("NOTSET", 0)]

/-- The level that a configuration names in any case, or a default. -/
def configuredLevel (name : String) (default : Int) : Int :=
  (configuredLevels.lookup (Text.upper name)).getD default

/-- How a record is written. -/
inductive Layout where
  /-- Name of the writer, level and message. -/
  | named
  /-- Level and message. -/
  | brief
deriving DecidableEq, Repr

inductive Stream where
  | output
  | errors
deriving DecidableEq, Repr

structure Routing where
  /-- The name under which records are written. -/
  logger : String
  /-- The level below which records are dropped. -/
  threshold : Int
  /-- The level from which on records go to the error stream. -/
  errorLevel : Int
  layout : Layout := .named
deriving Repr

namespace Routing

/-- The lowest level that is ever written. -/
def lowest : Int := 10

/-- The stream of a record with a level. -/
def stream? (r : Routing) (level : Int) : Option Stream :=
  if level < r.threshold || level < lowest then none
  else if max r.errorLevel lowest ≤ level then some .errors
  else some .output

/-- A record in one line. -/
def line (r : Routing) (level : Int) (message : String) : String :=
  match r.layout with
  | .named => r.logger ++ " - " ++ levelName level ++ " - " ++ message
  | .brief => levelName level ++ "|" ++ message

/-- The lines that some records leave in a stream. -/
def lines (r : Routing) (stream : Stream) (records : List (Int × String)) : List String :=
  (records.filter fun x => r.stream? x.1 = some stream).map fun x => r.line x.1 x.2

/-- The threshold of a logger whose own level is given. The level zero leaves the choice to the
logger above it, which writes warnings. -/
def inheritedThreshold (level : Int) : Int := if level = 0 then 30 else level

end Routing
end SchemaReview.Log
