import BareMetal.Action.Run
import BareMetal.Url.Parser

/-!
# The client

A call becomes a request to a region controller: the path of the resource is
resolved against the base URL, the operation goes into the query and the
arguments into the body. What the network does with the request is given from
outside.
-/

namespace BareMetal.Client

open BareMetal.Action

def userAgent : String := "maasly/0.1.0"

structure Request where
  method : String
  target : String
  userAgent : String
  contentType : Option String
  body : String
deriving DecidableEq, Repr

inductive Delivery where
  | unreachable (failure : Failure)
  /-- It is sent, and the connection ends without a whole response. -/
  | broken (failure : Failure)
  | answered (status : Nat) (body : List UInt8)
deriving DecidableEq, Repr

structure Network where
  /-- Why a URL that is not of the web is not requested. -/
  refuse : Url → Failure
  deliver : Url → Request → Delivery

def Network.down (failure : Failure) : Network := ⟨fun _ => failure, fun _ _ => .unreachable failure⟩

/-- The URL of a resource, with the operation where there is one. -/
def resourceUrl (base : Url) (path : String) (op : Option String) : Except UrlFault Url :=
  (base.join path).map fun url => op.elim url (url.appendPair "op")

def callUrl (base : Url) : Call → Except UrlFault Url
  | .get path => resourceUrl base path none
  | .post path op _ => resourceUrl base path (some op)

def request (url : Url) : Call → Request
  | .get _ => ⟨"GET", url.requestTarget, userAgent, none, ""⟩
  | .post _ _ form =>
    ⟨"POST", url.requestTarget, userAgent, some "application/x-www-form-urlencoded",
      Url.formBody form⟩

/-- A call with the request that was sent for it, if one was, and its outcome. -/
structure Exchange where
  sent : Option Request
  outcome : Outcome

/-- Carries out a call over the network. Only web URLs are requested. -/
def exchange (base : Url) (network : Network) (call : Call) : Exchange :=
  match callUrl base call with
  | .error fault => ⟨none, .error (.invalidUrl fault)⟩
  | .ok url =>
    if url.scheme = "http" ∨ url.scheme = "https" then
      let r := request url call
      match network.deliver url r with
      | .unreachable failure => ⟨none, .error (.noResponse failure)⟩
      | .broken failure => ⟨some r, .error (.noResponse failure)⟩
      | .answered status body => ⟨some r, .ok ⟨status, String.ofList (Utf8.decodeLossy body)⟩⟩
    else ⟨none, .error (.noResponse (network.refuse url))⟩

end BareMetal.Client
