import Nucleus.Log

/-! The text console. What is printed appears as it is; what is logged goes through the logger. -/
namespace Nucleus.Console
open Log

inductive Request where
  | setFilter (filter : Filter)
  | log (line : Line)
  | flush
  | print (text : String)
  /-- Prints a text, if there is one, and ends the line. -/
  | printLine (text : Option String)
deriving DecidableEq, Repr

/-- The text that a request puts on the console, and the logger after it. -/
def serve (logger : Logger) : Request → String × Logger
  | .setFilter filter => ("", logger.withFilter filter)
  | .log line => (logger.print line, logger)
  | .flush => ("", logger)
  | .print text => (text, logger)
  | .printLine text => (text.getD "" ++ "\n", logger)

end Nucleus.Console
