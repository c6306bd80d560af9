import NetworkRollout.Text.Unsigned

/-!
# Levels of log records

A record has a level; a threshold lets the records of a level and of those above it through, or
none at all.

* `LogThreshold.ofText?`: thresholds as words, in any case, or as numbers from 0 to 5.
-/

namespace NetworkRollout

/-- How grave a record is, from the gravest on. -/
inductive LogLevel where
  | error
  | warn
  | info
  | debug
  | trace
  deriving DecidableEq, Repr, Inhabited

namespace LogLevel

def name : LogLevel → String
  | error => "ERROR"
  | warn => "WARN"
  | info => "INFO"
  | debug => "DEBUG"
  | trace => "TRACE"

/-- One for the gravest, growing from there. -/
def rank : LogLevel → Nat
  | error => 1
  | warn => 2
  | info => 3
  | debug => 4
  | trace => 5

end LogLevel

/-- The least grave level that gets through; nothing does when there is none. -/
structure LogThreshold where
  level : Option LogLevel
  deriving DecidableEq, Repr, Inhabited

namespace LogThreshold

def admits (t : LogThreshold) (level : LogLevel) : Bool :=
  match t.level with
  | none => false
  | some least => decide (level.rank ≤ least.rank)

/-- All thresholds with the word for each, from the strictest on. -/
def all : List (String × LogThreshold) :=
  [("off", ⟨none⟩), ("error", ⟨some .error⟩), ("warn", ⟨some .warn⟩), ("info", ⟨some .info⟩),
    ("debug", ⟨some .debug⟩), ("trace", ⟨some .trace⟩)]

def ofText? (s : List Char) : Option LogThreshold :=
  match Text.u64? s with
  | some n => (all[n]?).map Prod.snd
  | none => all.lookup (String.ofList (s.map Char.toLower))

end LogThreshold

end NetworkRollout
