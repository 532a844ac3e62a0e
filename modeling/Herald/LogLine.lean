/-! # Log lines

How a log record is shown on a console: its level in the level's colour, the name of its logger and
the message.
-/

namespace Herald.LogLine

/-- The terminal code that ends a colour. -/
def resetCode : String := "\x1b[0m"

/-- The terminal code of a level's colour. A level without a colour of its own is shown plain. -/
def colorCode (level : String) : String :=
  if level == "DEBUG" then "\x1b[36m"
  else if level == "INFO" then "\x1b[32m"
  else if level == "WARNING" then "\x1b[33m"
  else if level == "ERROR" then "\x1b[31m"
  else if level == "CRITICAL" then "\x1b[35m"
  else resetCode

/-- A record on a console. -/
def colored (level name message : String) : String :=
  colorCode level ++ level ++ resetCode ++ " | " ++ name ++ " | " ++ message

end Herald.LogLine
