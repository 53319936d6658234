import PurgeGateway.Http.Message

/-!
# Bodies that come piece by piece

The body of a reply need not be in memory when the reply starts. It comes in pieces, may break off
behind them, and may announce how long it will be. A reply is a response with such a body.

## Main definitions

* `Http.Stream`: a body that comes piece by piece.
* `Http.Stream.whole?`: all of its bytes, if nothing breaks.
* `Http.Stream.collect?`: the same, if they are few enough.
* `Http.Reply`: a response with such a body.
-/

namespace PurgeGateway.Http

/-- A body that comes piece by piece. -/
structure Stream where
  pieces : List (List UInt8) := []
  breaks : Bool := false
  announced : Option Nat := none
  deriving DecidableEq, Repr, Inhabited

namespace Stream

/-- The body that is at hand. -/
def ofBytes (bytes : List UInt8) : Stream :=
  { pieces := [bytes], announced := some bytes.length }

/-- The body that breaks off at once. -/
def broken : Stream :=
  { breaks := true }

/-- The bytes that come. -/
def bytes (s : Stream) : List UInt8 :=
  s.pieces.flatten

/-- The bytes of the whole body, unless it breaks off. -/
def whole? (s : Stream) : Option (List UInt8) :=
  if s.breaks then none else some s.bytes

/-- The bytes of the whole body, unless it breaks off or is longer than the limit. -/
def collect? (s : Stream) (limit : Nat) : Option (List UInt8) :=
  if s.breaks || limit < s.bytes.length then none else some s.bytes

@[simp] theorem bytes_ofBytes (bytes : List UInt8) : (ofBytes bytes).bytes = bytes := by
  simp [ofBytes, Stream.bytes]

@[simp] theorem whole?_ofBytes (bytes : List UInt8) : (ofBytes bytes).whole? = some bytes := by
  simp [whole?, ofBytes, Stream.bytes]

end Stream

/-- A response whose body comes piece by piece. -/
structure Reply where
  status : Nat := 200
  version : Version := .v11
  headers : Headers := []
  body : Stream := {}
  deriving Repr, Inhabited

namespace Reply

/-- The reply whose body is at hand. -/
def ofResponse (r : Response) : Reply :=
  { status := r.status, version := r.version, headers := r.headers, body := .ofBytes r.body }

/-- The reply as a response with a body of the given bytes. -/
def withBytes (r : Reply) (bytes : List UInt8) : Response :=
  { status := r.status, version := r.version, headers := r.headers, body := bytes }

end Reply

end PurgeGateway.Http
