import NetworkRollout.Json.Printer
import NetworkRollout.Log.Level

/-!
# Log records

A record is written in one line, as a JSON object or as plain text.
-/

namespace NetworkRollout

structure LogRecord where
  level : LogLevel
  target : String
  message : String
  deriving DecidableEq, Repr

inductive LogFormat where
  | json
  | plain
  deriving DecidableEq, Repr

/-- The form that a setting names: `json`, in any case, or else plain text. -/
def LogFormat.ofText (text : String) : LogFormat :=
  if text.toList.map Char.toLower = "json".toList then json else plain

namespace LogRecord

/-- The level with blanks in front up to the width of the longest. -/
def paddedLevel (level : LogLevel) : String :=
  String.ofList (List.replicate (5 - level.name.length) ' ') ++ level.name

/-- The record as plain text, behind the time. -/
def plainText (r : LogRecord) (time : String) : String :=
  time ++ " " ++ paddedLevel r.level ++ " " ++ r.target ++ ": " ++ r.message

def toJson (r : LogRecord) (time : String) : Json :=
  .object [("timestamp", .text time), ("level", .text r.level.name),
    ("fields", .object [("message", .text r.message)]), ("target", .text r.target)]

def line (r : LogRecord) (format : LogFormat) (time : String) : String :=
  match format with
  | .json => (r.toJson time).render
  | .plain => r.plainText time

end LogRecord

end NetworkRollout
