import BareMetal.Url.Fault

/-!
# Errors

Callers act on the kind of an error, of which there are seven; the error itself
keeps what its message needs. An error that caused another one still counts by its
kind, which `Chain.kind?` finds.
-/

namespace BareMetal

inductive ErrorKind where
  | deserialization
  | unsupportedVersion
  | badRequest
  | permission
  | cannotComplete
  | unexpected
  | transport
deriving DecidableEq, Repr

def ErrorKind.name : ErrorKind → String
  | deserialization => "DeserializationError"
  | unsupportedVersion => "UnsupportedVersionError"
  | badRequest => "BadRequestError"
  | permission => "PermissionError"
  | cannotComplete => "CannotCompleteError"
  | unexpected => "UnexpectedError"
  | transport => "TransportError"

/-- What went wrong below the client, in its words; a status where a response was the reason. -/
structure Failure where
  text : String
  status : Option Nat
deriving DecidableEq, Repr

inductive Error where
  /-- A payload does not have the shape its version asks for. -/
  | deserialization (message : String)
  /-- The requested API version is older than any that can be read. -/
  | unsupportedVersion (message : String)
  | badRequest (message : String)
  | permission (message : String)
  | cannotComplete (message : String)
  /-- Any other status that is no success. -/
  | unexpected (status : Nat) (reason body : String)
  /-- There was no response to read. -/
  | noResponse (failure : Failure)
  | invalidUrl (fault : UrlFault)
  | tls (reason : String)
deriving DecidableEq, Repr

namespace Error

def kind : Error → ErrorKind
  | deserialization _ => .deserialization
  | unsupportedVersion _ => .unsupportedVersion
  | badRequest _ => .badRequest
  | permission _ => .permission
  | cannotComplete _ => .cannotComplete
  | unexpected .. => .unexpected
  | noResponse _ => .transport
  | invalidUrl _ => .transport
  | tls _ => .transport

def message : Error → String
  | deserialization m => m
  | unsupportedVersion m => m
  | badRequest m => m
  | permission m => m
  | cannotComplete m => m
  | unexpected status reason body =>
    "unexpected: ServerError: " ++ toString status ++ " " ++ reason ++ " (" ++ body ++ ")"
  | noResponse failure => "HTTP transport error: " ++ failure.text
  | invalidUrl fault => "Invalid URL: " ++ fault.message
  | tls reason => "TLS error: " ++ reason

def status? : Error → Option Nat
  | unexpected status _ _ => some status
  | noResponse failure => failure.status
  | _ => none

/-- Says where the error arose, in front of the message of an error about a payload. -/
def withContext (context : String) : Error → Error
  | deserialization m => .deserialization (context ++ ": " ++ m)
  | unsupportedVersion m => .unsupportedVersion (context ++ ": " ++ m)
  | e => e

/-- The error in these contexts, the innermost one first. -/
def within (contexts : List String) (e : Error) : Error :=
  contexts.foldl (fun e context => e.withContext context) e

end Error

/-- The kinds a caller can ask for by name, in the usual order. -/
def ErrorKind.askable : List ErrorKind :=
  [.deserialization, .unsupportedVersion, .badRequest, .permission, .cannotComplete, .unexpected]

/-- An error of any program: one of ours, or a foreign one. -/
inductive AnyError where
  | ours (e : Error)
  | foreign
deriving DecidableEq, Repr

/-- An error with the errors that caused it, the outermost first. -/
inductive Chain where
  | last (top : AnyError)
  | caused (top : AnyError) (cause : Chain)
deriving DecidableEq, Repr

namespace Chain

/-- The kind of the outermost error of ours in the chain. -/
def kind? : Chain → Option ErrorKind
  | last (.ours e) => some e.kind
  | last .foreign => none
  | caused (.ours e) _ => some e.kind
  | caused .foreign cause => cause.kind?

def isKind (c : Chain) (k : ErrorKind) : Bool := c.kind? == some k

def wrap : Nat → Chain → Chain
  | 0, c => c
  | n + 1, c => .caused .foreign (wrap n c)

end Chain

/-- An error with the foreign one it stems from, if there is one. -/
def Error.chain (e : Error) : Chain :=
  match e with
  | noResponse _ => .caused (.ours e) (.last .foreign)
  | invalidUrl _ => .caused (.ours e) (.last .foreign)
  | _ => .last (.ours e)

end BareMetal
