import SapMonitor.Text.Strip
import SapMonitor.Url.Basic

/-!
# Reading URLs

Reading follows the URL standard for absolute texts: surrounding controls and
blanks and all line breaks are dropped, special schemes take a backslash for a
slash and any number of slashes before the host, dot segments are resolved,
and the port of the scheme counts as none.
-/

namespace SapMonitor.Url

/-! ## Pieces -/

/-- Whether the character ends the host part of a URL. -/
def endsAuthority (special : Bool) (c : Char) : Bool :=
  c = '/' || c = '?' || c = '#' || (special && c = '\\')

/-- The scheme in lower case and what follows its colon. -/
def takeScheme? (cs : List Char) : Option (List Char × List Char) :=
  match cs with
  | [] => none
  | c :: _ =>
    if !c.isAlpha then none
    else
      let scheme := cs.takeWhile fun c => c.isAlphanum || c = '+' || c = '-' || c = '.'
      match cs.drop scheme.length with
      | ':' :: rest => some (scheme.map Char.toLower, rest)
      | _ => none

/-- The text before and after the last character of a kind. -/
def splitLast? (sep : Char) (cs : List Char) : Option (List Char × List Char) :=
  if cs.contains sep then
    let back := cs.reverse
    some ((back.dropWhile (· ≠ sep)).drop 1 |>.reverse, (back.takeWhile (· ≠ sep)).reverse)
  else none

/-- The characters of the host: up to a colon outside of brackets. -/
def takeHost (inBrackets : Bool) : List Char → List Char × List Char
  | [] => ([], [])
  | c :: cs =>
    if c = ':' && !inBrackets then ([], c :: cs)
    else
      let (host, rest) :=
        takeHost (if c = '[' then true else if c = ']' then false else inBrackets) cs
      (c :: host, rest)

/-- The port written by what follows the colon of a host; the implied port
counts as none. -/
def readPort (implied : Option Nat) (cs : List Char) : Except UrlError (Option Nat) :=
  if !cs.all Char.isDigit then .error .invalidPort
  else if cs.isEmpty then .ok none
  else
    let n := Decimal.digitsValue cs
    if 65535 < n then .error .invalidPort
    else .ok (if implied = some n then none else some n)

/-! ## Paths -/

/-- Whether a segment stands for the one before it. -/
def isDoubleDot (segment : List Char) : Bool :=
  let s := String.ofList (segment.map Char.toLower)
  s = ".." || s = "%2e." || s = ".%2e" || s = "%2e%2e"

/-- Whether a segment stands for nothing. -/
def isSingleDot (segment : List Char) : Bool :=
  let s := String.ofList (segment.map Char.toLower)
  s = "." || s = "%2e"

/-- The segments with dot segments resolved; `done` holds the segments so far,
last first. -/
def resolveDots (done : List (List Char)) : List (List Char) → List (List Char)
  | [] => done.reverse
  | s :: rest =>
    let done :=
      if isDoubleDot s then (if rest.isEmpty then [] :: done.drop 1 else done.drop 1)
      else if isSingleDot s then (if rest.isEmpty then [] :: done else done)
      else s :: done
    resolveDots done rest

/-- The segments with a slash before each. -/
def joinSegments (segments : List (List Char)) : List Char :=
  segments.flatMap fun s => '/' :: s

/-- The path of a URL with segments. -/
def readPath (special : Bool) (cs : List Char) : String :=
  let cs := if special then cs.map fun c => if c = '\\' then '/' else c else cs
  match cs with
  | [] => if special then "/" else ""
  | c :: rest =>
    let body := if c = '/' then rest else c :: rest
    String.ofList
      (joinSegments (resolveDots [] ((Text.splitOnChar '/' body).map (encode inPathSet))))

/-! ## Whole URLs -/

/-- The text before a character of a kind, and what follows it if there is
one. -/
def cutAt (sep : Char) (cs : List Char) : List Char × Option (List Char) :=
  match cs.dropWhile (· ≠ sep) with
  | [] => (cs, none)
  | _ :: rest => (cs.takeWhile (· ≠ sep), some rest)

/-- The URL with the query and the fragment that follow its path. -/
def withTail (u : Url) (query fragment : Option (List Char)) : Url :=
  { u with
    query := query.map fun q => String.ofList (encode (inQuerySet (isSpecial u.scheme)) q)
    fragment := fragment.map fun f => String.ofList (encode inFragmentSet f) }

/-- The user, the password and the host part of an authority. -/
def readUser (special : Bool) (authority : List Char) (rest : List Char) :
    Except UrlError (String × String × List Char) :=
  match splitLast? '@' authority with
  | none => .ok ("", "", authority)
  | some (user, hostPart) =>
    if user.isEmpty && hostPart.isEmpty && (rest.head?.map (endsAuthority special)).getD false then
      .error .emptyHost
    else
      let (name, password) := cutAt ':' user
      .ok (String.ofList (encode inUserSet name),
        String.ofList (encode inUserSet (password.getD [])), hostPart)

/-- The URL after the slashes that begin its authority. -/
def readAuthority (idna : Idna) (scheme : String) (cs : List Char) : Except UrlError Url := do
  let special := isSpecial scheme
  let authority := cs.takeWhile fun c => !endsAuthority special c
  let rest := cs.drop authority.length
  let (beforeFragment, fragment) := cutAt '#' rest
  let (path, query) := cutAt '?' beforeFragment
  let (user, password, hostPart) ← readUser special authority rest
  let (hostChars, portPart) := takeHost false hostPart
  let host ←
    if special then (if hostChars.isEmpty then .error .emptyHost else Host.read idna hostChars)
    else Host.readOpaque hostChars
  if host.isEmpty && (special || !portPart.isEmpty || !(user.isEmpty && password.isEmpty)) then
    .error .emptyHost
  else
    let port ← readPort (defaultPorts.lookup scheme) (portPart.drop 1)
    return withTail
      { scheme := scheme, user := user, password := password, host := some host, port := port
        path := readPath special path } query fragment

/-- The URL of a scheme without domains and without an authority. -/
def readOpaqueUrl (scheme : String) (cs : List Char) : Url :=
  let (beforeFragment, fragment) := cutAt '#' cs
  let (path, query) := cutAt '?' beforeFragment
  let path := match path with
    | '/' :: _ => readPath false path
    | _ => String.ofList (encode isControl path)
  withTail { scheme := scheme, path := path } query fragment

/-- The characters of the text that count. -/
def significant (cs : List Char) : List Char :=
  (Text.strip (fun c => c ≤ ' ') cs).filter fun c => c != '\t' && c != '\n' && c != '\r'

/-- The URL written by a text. -/
def read (idna : Idna) (s : String) : Except UrlError Url :=
  match takeScheme? (significant s.toList) with
  | none => .error .relativeWithoutBase
  | some (scheme, rest) =>
    let name := String.ofList scheme
    if isSpecial name then
      readAuthority idna name (rest.dropWhile fun c => c = '/' || c = '\\')
    else
      match rest with
      | '/' :: '/' :: rest => readAuthority idna name rest
      | rest => .ok (readOpaqueUrl name rest)

/-! ## Changing the host -/

/-- The URL with the host that a text names up to its first colon, brackets
apart. -/
def setHost (u : Url) (idna : Idna) (name : String) : Except UrlError Url := do
  let cs := name.toList
  let bracketed := cs.head? = some '[' && cs.getLast? = some ']'
  let part := if bracketed then cs else cs.takeWhile (· ≠ ':')
  if cs.isEmpty then .error .emptyHost
  else if part.isEmpty then .error .invalidDomainCharacter
  else
    let host ← Host.read idna part
    return { u with host := some host }

end SapMonitor.Url
