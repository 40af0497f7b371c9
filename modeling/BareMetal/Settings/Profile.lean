import BareMetal.Url.Parser
import BareMetal.Version.Basic

/-!
# Profiles

A configuration names region controllers. The settings of one are its own values
where it has them and the defaults elsewhere.
-/

namespace BareMetal.Settings

/-- Largest value of a count of seconds, plus one. -/
def countLimit : Nat := UInt64.size

structure Defaults where
  apiVersion : String
  insecure : Bool
  /-- In seconds. -/
  timeout : Nat
deriving DecidableEq, Repr

def Defaults.standard : Defaults := ⟨"2.0", false, 30⟩

/-- A region controller, with what is different from the defaults for it. -/
structure Profile where
  url : String
  apiVersion : Option String
  /-- Path of a certificate to trust. -/
  caCert : Option String
  insecure : Option Bool
  timeout : Option Nat
deriving DecidableEq, Repr

structure Config where
  /-- The profile that is used where none is named. -/
  defaultProfile : Option String
  defaults : Defaults
  /-- By name, each name once. -/
  profiles : List (String × Profile)
deriving DecidableEq, Repr

def Config.standard : Config := ⟨some "default", .standard, []⟩

inductive LookupFault where
  | unknown (name : String)
  | noneSelected
deriving DecidableEq, Repr

def LookupFault.message : LookupFault → String
  | unknown name => "no profile named '" ++ name ++ "'"
  | noneSelected => "no profile selected and no default_profile configured"

/-- The profile of this name, or the default one where no name is given. -/
def Config.profile (c : Config) (name : Option String) :
    Except LookupFault (String × Profile) :=
  match name <|> c.defaultProfile with
  | none => .error .noneSelected
  | some n =>
    match c.profiles.lookup n with
    | some p => .ok (n, p)
    | none => .error (.unknown n)

/-! ## Settings of a client -/

inductive TlsMode where
  | system
  | customCa (path : String)
  | acceptInvalid
deriving DecidableEq, Repr

structure Transport where
  tls : TlsMode
  timeout : Nat
deriving DecidableEq, Repr

def Transport.standard : Transport := ⟨.system, 30⟩

structure ClientSettings where
  baseUrl : Url
  version : Version
  transport : Transport
deriving DecidableEq

inductive ProfileFault where
  | notUrl (text : String)
  | notWeb (scheme : String)
  | badVersion (e : Version.ParseError)
deriving DecidableEq, Repr

namespace ProfileFault

def field : ProfileFault → String
  | notUrl _ => "url"
  | notWeb _ => "url"
  | badVersion _ => "api_version"

def reason : ProfileFault → String
  | notUrl text => "invalid URL: " ++ text
  | notWeb scheme => "expected http or https, got '" ++ scheme ++ "'"
  | badVersion e => e.message

def message (f : ProfileFault) : String := "invalid " ++ f.field ++ ": " ++ f.reason

end ProfileFault

/-- The base URL of a profile: a web URL whose path ends with a slash. -/
def Profile.baseUrl (p : Profile) : Except ProfileFault Url :=
  match Url.parse none p.url with
  | .error _ => .error (.notUrl p.url)
  | .ok url =>
    if url.scheme = "http" ∨ url.scheme = "https" then .ok url.withTrailingSlash
    else .error (.notWeb url.scheme)

/-- A profile that accepts any certificate does so whatever certificate it names. -/
def Profile.tls (p : Profile) (d : Defaults) : TlsMode :=
  if p.insecure.getD d.insecure then .acceptInvalid
  else p.caCert.elim .system .customCa

def Profile.settings (p : Profile) (d : Defaults) : Except ProfileFault ClientSettings := do
  let baseUrl ← p.baseUrl
  let version ← (Version.parse (p.apiVersion.getD d.apiVersion)).mapError .badVersion
  return { baseUrl, version, transport := ⟨p.tls d, p.timeout.getD d.timeout⟩ }

end BareMetal.Settings
