import Herald.Value

/-! # Database connections

The options with which a database is opened. A file database is used from several threads by one
process and needs no pool. A server database gets a pool of tested connections, and a statement of
it that runs too long is given up, so that a pass is never held up forever.
-/

namespace Herald

/-- A pool of connections. -/
structure ConnectionPool where
  size : Nat
  overflow : Nat
  /-- Seconds to wait for a free connection. -/
  timeout : Nat
  /-- A connection is tested before it is used. -/
  tested : Bool
  deriving DecidableEq

/-- How a database is opened. -/
structure ConnectionOptions where
  url : String
  arguments : Fields
  pool : Option ConnectionPool
  echo : Bool

namespace ConnectionOptions

def serverPool : ConnectionPool := ⟨20, 10, 30, true⟩

/-- The options for an address, with a limit in milliseconds for the statements of a server. -/
def ofUrl (statementTimeout : Int) (url : String) : ConnectionOptions :=
  if "sqlite".toList.isPrefixOf url.toList then
    ⟨url, [("check_same_thread", .bool false)], none, false⟩
  else if "postgresql".toList.isPrefixOf url.toList then
    ⟨url, [("options", .text s!"-c statement_timeout={statementTimeout}")], some serverPool, false⟩
  else ⟨url, [], some serverPool, false⟩

end ConnectionOptions

end Herald
