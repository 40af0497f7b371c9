import BareMetal.Error
import BareMetal.Settings.Profile

/-!
# Trusting a certificate

A profile may name a file with certificates to trust, in PEM. The file is read
and its certificates are looked at before there is a client.
-/

namespace BareMetal.Settings

/-! ## PEM -/

/-- The label of a line that opens a section, from behind `BEGIN` up to five dashes. Blanks may
stand among and behind the dashes. A line that begins in this way but ends in another has no
label. -/
def openingLabel? (line : List Char) : Option (Option (List Char)) :=
  let opening := "-----BEGIN ".toList
  if opening.isPrefixOf line then
    let tail := (line.reverse.takeWhile fun c => c == '-' || c == ' ').reverse.dropWhile (· == ' ')
    some (if tail.count '-' = 5 then
      some ((line.take (line.length - tail.length)).drop opening.length) else none)
  else none

/-- The labels of the sections of a text, unless one is not closed or not opened right. -/
def sectionLabels? : (current : Option (List Char)) → List (List Char) →
    Option (List (List Char))
  | none, [] => some []
  | some _, [] => none
  | current, line :: rest =>
    match openingLabel? line, current with
    | some none, _ => none
    | some (some label), _ => sectionLabels? (some label) rest
    | none, some label =>
      if ("-----END ".toList ++ label ++ "-----".toList).isPrefixOf line then
        (sectionLabels? none rest).map (label :: ·)
      else sectionLabels? current rest
    | none, none => sectionLabels? none rest

/-- Whether the sections of a text are in order and none is said to be a certificate. -/
def holdsNoCertificate (text : String) : Bool :=
  match sectionLabels? none (Text.pieces (fun c => c == '\n' || c == '\r') text.toList) with
  | some labels => !labels.contains "CERTIFICATE".toList
  | none => false

/-! ## Clients -/

abbrev Files := String → Option String

/-- What is wrong with a transport, if anything is. What a certificate says is not understood here,
so a file that has one is refused. -/
def Transport.error? (files : Files) (t : Transport) : Option Error :=
  match t.tls with
  | .system => none
  | .acceptInvalid => none
  | .customCa path =>
    match files path with
    | none => some (.tls "failed to read CA cert: No such file or directory (os error 2)")
    | some text =>
      if holdsNoCertificate text then none
      else some (.tls "failed to build HTTP client: builder error")

/-- The base URL of the client for these settings, if there can be one. -/
def ClientSettings.client (files : Files) (s : ClientSettings) : Except Error Url :=
  match s.transport.error? files with
  | none => .ok s.baseUrl
  | some e => .error e

/-- The API version of the invoker for these settings, if it has a client. -/
def ClientSettings.invoker (files : Files) (s : ClientSettings) : Except Error Version :=
  (s.client files).map fun _ => s.version

end BareMetal.Settings
