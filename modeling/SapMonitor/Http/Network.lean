import SapMonitor.Http.Credentials
import SapMonitor.Http.Status
import SapMonitor.Time.Span
import SapMonitor.Url.Reader
import SapMonitor.Url.Percent
import SapMonitor.Work

/-!
# Posting over a network

A network takes requests and gives replies, or loses them in one of a few ways.
A post is checked before it is sent: its address has to be a URL of HTTP with a
host.  A user in the address is left out of it and becomes credentials, unless
the post has some of its own.
-/

namespace SapMonitor.Http

open Time (Span)

/-! ## Networks -/

/-- A request as it is sent. -/
structure Request where
  url : Url
  headers : List (String × String)
  body : String

/-- What comes back for a request. -/
inductive Reply where
  /-- An answer with a whole body. -/
  | answered (status : Status) (body : String)
  /-- An answer whose body could not be read to its end. -/
  | cutShort (status : Status) (reason : String)
  /-- The connection was closed before an answer came. -/
  | closed
  /-- No answer came in time. -/
  | timedOut
  /-- No connection could be made. -/
  | unreachable (reason : String)

/-- A network exchanges requests for replies, waiting no longer than a span.  Hosts are named by its
tables. -/
structure Network (σ : Type) where
  idna : Url.Idna
  exchange : Request → Span → Work σ Reply

/-- A network that reaches nobody. -/
def Network.isolated (σ : Type) (idna : Url.Idna) : Network σ :=
  { idna := idna
    exchange := fun _ _ =>
      return .unreachable "tcp connect error: Network is unreachable (os error 101)" }

/-! ## Posts -/

/-- A post to an address. -/
structure Post where
  address : String
  headers : List (String × String)
  credentials : Option Credentials := none
  body : String
  limit : Span

/-- An answer: its status, and its body or the reason why it could not be
read. -/
structure Answer where
  status : Status
  body : Except String String

/-- The credentials in a URL. -/
def urlCredentials? (u : Url) : Option Credentials :=
  if u.user.isEmpty && u.password.isEmpty then none
  else some ⟨Url.decodeBytes u.user.toList, Url.decodeBytes u.password.toList⟩

/-- Whether the text can be the value of a header. -/
def isHeaderValue (value : String) : Bool :=
  value.toList.all fun c => c = '\t' || (0x20 ≤ c.toNat && c.toNat ≠ 0x7F)

/-- Why a post is not sent, or the request that is. -/
def Post.request (p : Post) (idna : Url.Idna) : Except String Request :=
  match Url.read idna p.address with
  | .error e => .error ("builder error: " ++ e.message)
  | .ok u =>
    if !p.headers.all fun h => isHeaderValue h.2 then
      .error "builder error: failed to parse header value"
    else
      let shown := u.withoutUser
      if (u.scheme ≠ "http" && u.scheme ≠ "https") || u.host.isNone then
        .error ("builder error for url (" ++ shown.text ++ "): URL scheme is not allowed")
      else
        let credentials := p.credentials.or (urlCredentials? u)
        .ok {
          url := shown
          headers := p.headers ++
            (credentials.toList.map fun c => ("Authorization", c.header))
          body := p.body }

/-- What failed when a request was sent. -/
def sendFault (u : Url) (reason : String) : String :=
  "error sending request for url (" ++ u.text ++ "): " ++ reason

/-- What became of a request that was sent. -/
def Reply.outcome (u : Url) : Reply → Except String Answer
  | answered status body => .ok ⟨status, .ok body⟩
  | cutShort status reason => .ok ⟨status, .error ("request or response body error: " ++ reason)⟩
  | closed => .error (sendFault u "connection closed before message completed")
  | timedOut => .error (sendFault u "operation timed out")
  | unreachable reason => .error (sendFault u ("error trying to connect: " ++ reason))

/-- Sends a post. -/
def Network.post {σ : Type} (n : Network σ) (p : Post) : Work σ (Except String Answer) := do
  match p.request n.idna with
  | .error reason => return .error reason
  | .ok r => return (← n.exchange r p.limit).outcome r.url

end SapMonitor.Http
