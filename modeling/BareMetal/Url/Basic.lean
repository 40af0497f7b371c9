import BareMetal.Url.Host

/-!
# URLs

A URL in its parts, each already escaped, and its text.
-/

namespace BareMetal

/-- The path of a URL: a list of segments, or a text without structure. -/
inductive Url.Path where
  | segments (segs : List String)
  | opaqueText (s : String)
deriving DecidableEq, Repr

structure Url where
  scheme : String
  username : String
  password : String
  host : Option Url.Host
  /-- Absent when it is the usual one of the scheme. -/
  port : Option Nat
  path : Url.Path
  query : Option String
  fragment : Option String
deriving DecidableEq, Repr

namespace Url

def defaultPort : String → Option Nat
  | "http" => some 80
  | "ws" => some 80
  | "https" => some 443
  | "wss" => some 443
  | "ftp" => some 21
  | _ => none

/-- Schemes whose URLs have a host and a path of segments. -/
def isSpecialScheme (scheme : String) : Bool :=
  ["http", "https", "ws", "wss", "ftp", "file"].contains scheme

def Path.text : Path → String
  | segments segs => String.join (segs.map ("/" ++ ·))
  | opaqueText s => s

def userinfoText (u : Url) : String :=
  if u.username.isEmpty ∧ u.password.isEmpty then ""
  else u.username ++ (if u.password.isEmpty then "" else ":" ++ u.password) ++ "@"

def authorityText (u : Url) : String :=
  match u.host with
  | none => if u.scheme = "file" then "//" else ""
  | some h =>
    "//" ++ u.userinfoText ++ h.text ++ (u.port.elim "" fun p => ":" ++ toString p)

def fromPath (u : Url) : String :=
  u.path.text ++ (u.query.elim "" ("?" ++ ·)) ++ (u.fragment.elim "" ("#" ++ ·))

def text (u : Url) : String := u.scheme ++ ":" ++ u.authorityText ++ u.fromPath

/-- What a request for the URL asks its server for. -/
def requestTarget (u : Url) : String := u.path.text ++ u.query.elim "" ("?" ++ ·)

/-- Adds a field to the query, in the encoding of forms. -/
def appendPair (u : Url) (name value : String) : Url :=
  let pair := formPair (name, value)
  { u with query := match u.query with
    | none => some pair
    | some "" => some pair
    | some q => some (q ++ "&" ++ pair) }

end Url

end BareMetal
