import BareMetal.Url.Basic

/-!
# Reading URLs

A URL is read on its own or relative to another one. Blanks and controls around
it and tabs and line breaks inside it do not count; backslashes count as slashes
where the scheme is a special one.
-/

namespace BareMetal.Url

/-! ## Paths -/

def isSingleDot (segment : List Char) : Bool :=
  [".", "%2e", "%2E"].contains (String.ofList segment)

def isDoubleDot (segment : List Char) : Bool :=
  ["..", "%2e%2e", "%2e%2E", "%2E%2e", "%2E%2E", "%2e.", "%2E.", ".%2e", ".%2E"].contains
    (String.ofList segment)

def isDrive : List Char → Bool
  | [a, b] => a.isAlpha && (b == ':' || b == '|')
  | _ => false

/-- The segments without the last one, which stays if it is the letter of a drive. -/
def dropSegment (segs : List String) : List String :=
  if segs.getLast?.any fun seg => isDrive seg.toList then segs else segs.dropLast

/-- Adds a segment. One dot adds nothing and two dots take a segment away, but the path still ends
with a slash where no slash follows them. -/
def pushSegment (segs : List String) (segment : List Char) (slash : Bool) : List String :=
  if isDoubleDot segment then if slash then dropSegment segs else dropSegment segs ++ [""]
  else if isSingleDot segment then if slash then segs else segs ++ [""]
  else segs ++ [String.ofList segment]

def isSlash (special : Bool) (c : Char) : Bool := c == '/' || (special && c == '\\')

/-- Reads segments up to the query or the fragment. -/
def readPath (special : Bool) (segs : List String) (current : List Char) :
    List Char → List String × List Char
  | [] => (pushSegment segs current false, [])
  | c :: rest =>
    if isSlash special c then readPath special (pushSegment segs current true) [] rest
    else if c = '?' ∨ c = '#' then (pushSegment segs current false, c :: rest)
    else readPath special segs (current ++ percentEncodeChar inPath c) rest

def readPathStart (special : Bool) (s : List Char) : List String × List Char :=
  match s with
  | [] => if special then readPath special [] [] [] else ([], [])
  | c :: rest =>
    if isSlash special c then readPath special [] [] rest
    else if !special ∧ (c = '?' ∨ c = '#') then ([], s)
    else readPath special [] [] s

/-! ## Query and fragment -/

def readTail (special : Bool) (s : List Char) : Option String × Option String :=
  let fragment (s : List Char) : Option String :=
    match s with
    | '#' :: f => some (String.ofList (percentEncode inFragment f))
    | _ => none
  match s with
  | '?' :: r =>
    let (q, rest) := r.span (· != '#')
    (some (String.ofList (percentEncode (if special then inSpecialQuery else inQuery) q)),
      fragment rest)
  | _ => (none, fragment s)

/-! ## Authority -/

def endsAuthority (special : Bool) (c : Char) : Bool :=
  c == '/' || c == '?' || c == '#' || (special && c == '\\')

/-- The texts before and after the last at sign of an authority. -/
def splitUserinfo (authority : List Char) : Option (List Char × List Char) :=
  if authority.contains '@' then
    let after := (authority.reverse.takeWhile (· != '@')).reverse
    some (authority.take (authority.length - after.length - 1), after)
  else none

/-- The text of the host: up to the colon of a port, or to the end of the authority. -/
def spanHost (special : Bool) : (bracket : Bool) → List Char → List Char × List Char
  | _, [] => ([], [])
  | bracket, c :: rest =>
    if (c = ':' ∧ !bracket) ∨ endsAuthority special c then ([], c :: rest)
    else
      let (host, more) :=
        spanHost special (if c = '[' then true else if c = ']' then false else bracket) rest
      (c :: host, more)

def readPort (s : List Char) : Except UrlFault (Option Nat × List Char) :=
  let (ds, rest) := s.span Char.isDigit
  let n := Text.numeral 10 ds
  if 65535 < n then .error .invalidPort
  else match rest with
    | [] => .ok (if ds.isEmpty then none else some n, [])
    | c :: _ =>
      if endsAuthority true c then .ok (if ds.isEmpty then none else some n, rest)
      else .error .invalidPort

def readHost (special : Bool) (s : List Char) : Except UrlFault (Option Host) :=
  if special then if s.isEmpty then .error .emptyHost else (parseHost s).map some
  else if s.isEmpty then .ok none
  else (parseOpaqueHost s).map some

/-- The user part of an authority and what is behind its at sign. -/
def readUserinfo (special : Bool) (s : List Char) : Except UrlFault (List Char × List Char) :=
  let (authority, rest) := s.span fun c => !endsAuthority special c
  match splitUserinfo authority with
  | none => .ok ([], s)
  | some (user, after) =>
    if user.isEmpty ∧ after.isEmpty ∧ !rest.isEmpty then .error .emptyHost
    else .ok (user, after ++ rest)

/-- The host, the port and what is behind them. -/
def readServer (special : Bool) (s : List Char) :
    Except UrlFault (Option Host × Option Nat × List Char) := do
  let (hostText, s) := spanHost special false s
  let host ← readHost special hostText
  match s with
  | ':' :: r => if host.isNone then .error .emptyHost else (readPort r).map fun (port, s) => (host, port, s)
  | _ => .ok (host, none, s)

/-- Reads from behind the two slashes that begin an authority. -/
def readAuthority (scheme : String) (s : List Char) : Except UrlFault Url := do
  let special := isSpecialScheme scheme
  let (user, s) ← readUserinfo special s
  let (name, secret) := user.span (· != ':')
  let username := String.ofList (percentEncode inUserinfo name)
  let password := String.ofList (percentEncode inUserinfo (secret.drop 1))
  let (host, port, s) ← readServer special s
  if host.isNone ∧ !(username.isEmpty ∧ password.isEmpty) then .error .emptyHost
  else
    let (segs, s) := readPathStart special s
    let (query, fragment) := readTail special s
    .ok { scheme, username, password, host
          port := if port = defaultPort scheme then none else port
          path := .segments segs, query, fragment }

/-! ## Whole URLs -/

/-- The scheme in lower case and what is behind its colon. -/
def splitScheme (s : List Char) : Option (String × List Char) :=
  let (scheme, rest) := s.span fun c => c.isAlphanum || c == '+' || c == '-' || c == '.'
  match scheme, rest with
  | c :: _, ':' :: after =>
    if c.isAlpha then some (String.ofList (scheme.map Char.toLower), after) else none
  | _, _ => none

def bare (scheme : String) (path : Path) (tail : Option String × Option String) : Url :=
  { scheme, username := "", password := "", host := none, port := none, path
    query := tail.1, fragment := tail.2 }

def readNonSpecial (scheme : String) (s : List Char) : Except UrlFault Url :=
  match s with
  | '/' :: '/' :: r => readAuthority scheme r
  | '/' :: r =>
    let (segs, rest) := readPath false [] [] r
    .ok (bare scheme (.segments segs) (readTail false rest))
  | _ =>
    let (path, rest) := s.span fun c => c != '?' && c != '#'
    .ok (bare scheme (.opaqueText (String.ofList (percentEncode isControl path)))
      (readTail false rest))

def baseSegments (base : Url) : List String :=
  match base.path with
  | .segments segs => segs
  | .opaqueText _ => []

/-- A reference that keeps the authority and, up to its last segment, the path of `base`. -/
def readAgainst (base : Url) (s : List Char) : Url :=
  let special := isSpecialScheme base.scheme
  let withPath (r : List String × List Char) : Url :=
    let (query, fragment) := readTail special r.2
    { base with path := .segments r.1, query, fragment }
  match s with
  | [] => { base with fragment := none }
  | c :: rest =>
    if c = '?' then
      let (query, fragment) := readTail special s
      { base with query, fragment }
    else if c = '#' then { base with fragment := (readTail special s).2 }
    else if isSlash special c then withPath (readPath special [] [] rest)
    else withPath (readPath special (baseSegments base).dropLast [] s)

/-- Reads a file URL from behind its colon. A name for the own machine is no host, nor is the letter
of a drive. -/
def readFile (base : Option Url) (s : List Char) : Except UrlFault Url :=
  let finish (host : Option Host) (r : List String × List Char) : Url :=
    { bare "file" (.segments r.1) (readTail true r.2) with host }
  let onFile := base.filter (·.scheme == "file")
  match s with
  | a :: b :: rest =>
    if isSlash true a ∧ isSlash true b then
      let (host, more) := rest.span fun c => !endsAuthority true c
      if host.isEmpty ∨ isDrive host then .ok (finish none (readPathStart true rest))
      else do
        let h ← parseHost host
        return finish (if h = .domain "localhost" then none else some h) (readPathStart true more)
    else .ok (readAgainst (onFile.getD (finish none ([], []))) s)
  | _ => .ok (readAgainst (onFile.getD (finish none ([], []))) s)

def readRelative (base : Url) (s : List Char) : Except UrlFault Url :=
  match base.path with
  | .opaqueText _ =>
    match s with
    | '#' :: _ => .ok (readAgainst base s)
    | _ => .error .relativeWithOpaqueBase
  | .segments _ =>
    if base.scheme = "file" then readFile (some base) s
    else
      let special := isSpecialScheme base.scheme
      match s with
      | '/' :: '/' :: r => readAuthority base.scheme r
      | a :: b :: _ =>
        if isSlash special a ∧ isSlash special b then
          readAuthority base.scheme (s.dropWhile (isSlash true))
        else .ok (readAgainst base s)
      | _ => .ok (readAgainst base s)

def isBreak (c : Char) : Bool := c == '\t' || c == '\n' || c == '\r'

def clean (input : String) : List Char :=
  (Text.trimBoth (fun c => c.toNat ≤ 0x20) input.toList).filter fun c => !isBreak c

/-- Reads a URL, relative to `base` where there is one. -/
def parse (base : Option Url) (input : String) : Except UrlFault Url :=
  let s := clean input
  match splitScheme s with
  | some (scheme, rest) =>
    if scheme = "file" then readFile base rest
    else if isSpecialScheme scheme then
      let slashes := rest.takeWhile (isSlash true)
      match base with
      | some b =>
        if slashes.length < 2 ∧ b.scheme = scheme then readRelative b rest
        else readAuthority scheme (rest.dropWhile (isSlash true))
      | none => readAuthority scheme (rest.dropWhile (isSlash true))
    else readNonSpecial scheme rest
  | none =>
    match base with
    | some b => readRelative b s
    | none => .error .relativeWithoutBase

def join (base : Url) (reference : String) : Except UrlFault Url := parse (some base) reference

/-! ## Changing the path -/

/-- Reads a text as the path of a URL, all of it: no query and no fragment begins in it. -/
def setPath (u : Url) (text : String) : Url :=
  let s := text.toList.filter fun c => !isBreak c
  match u.path, s with
  | .segments _, s =>
    let s := s.flatMap fun c => if c = '?' ∨ c = '#' then percentEncodeChar inPath c else [c]
    { u with path := .segments (readPathStart (isSpecialScheme u.scheme) s).1 }
  | .opaqueText _, '/' :: s => { u with path := .opaqueText ("%2F" ++ String.ofList (percentEncode isControl s)) }
  | .opaqueText _, s => { u with path := .opaqueText (String.ofList (percentEncode isControl s)) }

def withTrailingSlash (u : Url) : Url :=
  if u.path.text.toList.getLast? = some '/' then u else u.setPath (u.path.text ++ "/")

end BareMetal.Url
