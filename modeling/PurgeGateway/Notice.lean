/-!
# Notices

What the gateway tells those who run it, apart from the access log: a line of text with a level of
importance.

## Main definitions

* `Level`: how important a line is.
* `Notice`: a line with its level.
-/

namespace PurgeGateway

/-- How important a line of a log is. -/
inductive Level
  | trace
  | debug
  | info
  | warn
  | error
  deriving DecidableEq, Repr, Inhabited

/-- How a level is shown. -/
def Level.name : Level → String
  | .trace => "TRACE"
  | .debug => "DEBUG"
  | .info => "INFO"
  | .warn => "WARN"
  | .error => "ERROR"

/-- A line of text with its level. -/
structure Notice where
  level : Level
  text : String
  deriving DecidableEq, Repr, Inhabited

namespace Notice

/-- A notice of a failure. -/
def failure (text : String) : Notice :=
  ⟨.error, text⟩

/-- A notice that warns. -/
def warning (text : String) : Notice :=
  ⟨.warn, text⟩

/-- A notice of something that went well. -/
def progress (text : String) : Notice :=
  ⟨.info, text⟩

/-- The notice tells of a failure. -/
def isFailure (n : Notice) : Bool :=
  n.level == .error

end Notice

end PurgeGateway
