import SchemaSignature.Failure

/-!
Levels of log messages. A level is a number, or a name that stands for one; names are read without
regard to case. The number zero stands for the level that applies by default.
-/

namespace SchemaSignature.Logging

def defaultThreshold : Int := 30

def levelNames : List (String × Int) :=
  [("CRITICAL", 50), ("FATAL", 50), ("ERROR", 40), ("WARNING", 30), ("WARN", 30), ("INFO", 20),
   ("DEBUG", 10), ("NOTSET", 0)]

/-- The names that are written for levels, one for each number. -/
def writtenNames : List (Int × String) :=
  [(50, "CRITICAL"), (40, "ERROR"), (30, "WARNING"), (20, "INFO"), (10, "DEBUG"), (0, "NOTSET")]

/-- The capital letter of a small one, as far as letters of level names are concerned. The dotless i
and the long s are small forms of I and S. -/
def capital (c : Char) : Char :=
  if c = 'ı' then 'I' else if c = 'ſ' then 'S' else c.toUpper

/-- The number of a level that is given by a value. -/
def levelOf : Json → Except Failure Int
  | .str name =>
      let capitals := name.map capital
      match levelNames.lookup capitals with
      | some level => .ok level
      | none => .error (.misuse (.unknownLevel capitals))
  | .int level => .ok level
  | .bool value => .ok (if value then 1 else 0)
  | _ => .error (.misuse .notALevel)

def levelText (level : Int) : String :=
  match writtenNames.lookup level with
  | some name => name
  | none => "Level " ++ toString level

end SchemaSignature.Logging
