import GosuForge.Text.Line

/-!
# Logs

Logs are named below the log of the program. Setting a level up gives the program's log one handler,
however often it is done, and keeps its messages to itself.
-/

namespace GosuForge

structure Log where
  name : String
  level : Int
  handlers : Nat
  propagates : Bool
  deriving DecidableEq, Repr

namespace Log

def rootName : String := "umlgen"

/-- The full name of a log: a name that is not below the program's own is put below it. -/
def fullName (name : String) : String :=
  if name = rootName || Text.startsWith (rootName ++ ".") name then name
  else rootName ++ "." ++ name

def initial : Log := ⟨rootName, 0, 0, true⟩

/-- Gives the log a handler if it has none. -/
def withHandler (log : Log) : Log := { log with handlers := max log.handlers 1 }

def configure (log : Log) (level : Int) : Log :=
  { log.withHandler with level, propagates := false }

end Log

end GosuForge
