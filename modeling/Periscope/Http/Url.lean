import Periscope.Http.Host

/-!
# URLs

A URL has a scheme, perhaps an authority, a path, and perhaps a query and a fragment. The path of a special
URL, and every path with a slash at its front, is a list of segments; what is read into a segment is encoded,
and a segment of one dot or two is a step in the path and never stands in it.
-/

namespace Periscope.Http

/-- Who serves what a URL denotes. -/
structure Authority where
  user : String
  password : Option String
  host : Host
  /-- Absent if it is the one that the scheme implies. -/
  port : Option Nat
  deriving DecidableEq

/-- The path of a URL. -/
inductive UrlPath where
  /-- A text in which slashes mean nothing. -/
  | plain (text : List Char)
  /-- The segments behind the slashes; no segments are no path at all. -/
  | segments (list : List (List Char))
  deriving DecidableEq

/-- A URL. -/
structure Url where
  scheme : String
  authority : Option Authority
  path : UrlPath
  query : Option (List Char)
  fragment : Option (List Char)
  deriving DecidableEq

namespace Url

/-- The port that a scheme implies. -/
def impliedPort? (scheme : String) : Option Nat :=
  match scheme with
  | "http" | "ws" => some 80
  | "https" | "wss" => some 443
  | "ftp" => some 21
  | _ => none

/-- Whether the scheme is one of the web, whose URLs always have a host and a path. -/
def isWeb (scheme : String) : Bool := (impliedPort? scheme).isSome

/-- Whether the scheme is special: of the web, or of files. -/
def isSpecial (scheme : String) : Bool := isWeb scheme || scheme == "file"

/-! ## Steps in a path -/

/-- Whether a segment names a drive, which no step leaves. -/
def isDrive (segment : List Char) : Bool :=
  match segment with
  | [letter, mark] => letter.isAlpha && (mark == ':' || mark == '|')
  | _ => false

/-- Whether a segment stays in its place: one dot, perhaps encoded. -/
def isStay (segment : List Char) : Bool :=
  [".", "%2e"].contains (String.ofList (segment.map Char.toLower))

/-- Whether a segment goes up: two dots, each perhaps encoded. -/
def isUp (segment : List Char) : Bool :=
  ["..", "%2e.", ".%2e", "%2e%2e"].contains (String.ofList (segment.map Char.toLower))

/-- Settles the last segment: a step is taken and leaves an empty segment behind. -/
def settle (path : List (List Char)) (segment : List Char) : List (List Char) :=
  if isUp segment then
    if path.isEmpty then [[]]
    else if path.getLast?.any isDrive then path ++ [[]]
    else path.dropLast ++ [[]]
  else if isStay segment then path ++ [[]]
  else path ++ [segment]

/-- The tabs and line ends, which count nowhere. -/
def isIgnored (c : Char) : Bool := c == '\t' || c == '\n' || c == '\r'

/-- Puts the segments of a written path, one behind the other, in the place of the last segment. -/
def walk (path : List (List Char)) : List (List Char) → List (List Char)
  | [] => path
  | segment :: rest =>
    let path := settle path.dropLast (percentEncode inPath segment)
    if rest.isEmpty then path
    else
      let took := isUp segment || isStay segment
      walk (if took then path else path ++ [[]]) rest

/-- Puts one text behind a path as a segment of its own. What could end a segment is encoded, steps as
they are given are left out, and a path of a single empty segment is filled. -/
def addSegment (isSpecial : Bool) (path : List (List Char)) (text : List Char) : List (List Char) :=
  if text == ['.'] || text == ['.', '.'] then path
  else
    let front := if path == [[]] then [] else path
    settle front (percentEncode (inSegment isSpecial) (text.filter fun c => !isIgnored c))

/-! ## Reading -/

/-- The scheme at the front, in small letters, and the text behind its colon. -/
def splitScheme? (s : List Char) : Option (String × List Char) :=
  let isPart (c : Char) : Bool := c.isAlphanum || "+-.".toList.contains c
  match s, s.dropWhile isPart with
  | first :: _, ':' :: rest =>
    if first.isAlpha then some (String.ofList ((s.takeWhile isPart).map Char.toLower), rest) else none
  | _, _ => none

/-- Whether a character ends the authority. -/
def endsAuthority (special : Bool) (c : Char) : Bool :=
  c == '/' || c == '?' || c == '#' || (special && c == '\\')

/-- The text before the last at sign, if there is one, and the text behind it. -/
def splitUserinfo (s : List Char) : Option (List Char) × List Char :=
  if s.contains '@' then
    let host := (s.reverse.takeWhile (· != '@')).reverse
    (some (s.take (s.length - host.length - 1)), host)
  else (none, s)

/-- The user and the password; an empty password counts as none. -/
def readUserinfo (s : List Char) : String × Option String :=
  let user := s.takeWhile (· != ':')
  let password := (s.dropWhile (· != ':')).drop 1
  let encode (text : List Char) : String := String.ofList (percentEncode inUserinfo text)
  (encode user, if password.isEmpty then none else some (encode password))

/-- The host before the colon of a port, and the text from that colon on. A colon between brackets ends no
host. -/
def splitPort (inBrackets : Bool) : List Char → List Char × List Char
  | [] => ([], [])
  | c :: rest =>
    if c == ':' && !inBrackets then ([], c :: rest)
    else
      let (host, port) := splitPort (if c == '[' then true else if c == ']' then false else inBrackets) rest
      (c :: host, port)

/-- The number of a port, unless it is empty or implied. -/
def readPort (scheme : String) (s : List Char) : Except UrlError (Option Nat) :=
  if !s.all Char.isDigit then .error .invalidPort
  else
    let n := s.foldl (fun n c => 10 * n + (c.toNat - 0x30)) 0
    if 65535 < n then .error .invalidPort
    else .ok (if s.isEmpty || impliedPort? scheme == some n then none else some n)

/-- The authority, between the slashes at its front and the path. Without a host there is no port and no
user; `isLast` says that nothing stands behind the authority. -/
def readAuthority (scheme : String) (isLast : Bool) (s : List Char) :
    Except UrlError (Option Authority) := do
  let special := isSpecial scheme
  let (userinfo, rest) := splitUserinfo s
  let (user, password) := readUserinfo (userinfo.getD [])
  let (host, port) := splitPort false rest
  let isNamed := !user.isEmpty || password.isSome || (userinfo == some [] && !isLast)
  if host.isEmpty && (special || isNamed || !port.isEmpty) then .error .emptyHost
  else
    let host ← if special then Host.ofSpecial host else Host.ofOther host
    let port ← readPort scheme (port.drop 1)
    .ok (some ⟨user, password, host, port⟩)

/-- The parts of a written path between its slashes. -/
def splitPath (special : Bool) (s : List Char) : List (List Char) :=
  Host.splitAt '/' (if special then s.map fun c => if c == '\\' then '/' else c else s)

/-- The segments of a path behind an authority. -/
def readPath (special : Bool) (s : List Char) : List (List Char) :=
  match splitPath special s with
  | [[]] => if special then [[]] else []
  | [] :: rest => walk [[]] rest
  | parts => walk [[]] parts

/-- The query and the fragment at the end of a URL. -/
def readEnd (special : Bool) (s : List Char) : Option (List Char) × Option (List Char) :=
  let query := s.takeWhile (· != '#')
  let fragment := s.dropWhile (· != '#')
  (if query.isEmpty then none else some (percentEncode (inQuery special) (query.drop 1)),
   if fragment.isEmpty then none else some (percentEncode inFragment (fragment.drop 1)))

/-- A URL of the web, or another one with two slashes behind its scheme. -/
def readWithAuthority (scheme : String) (s : List Char) : Except UrlError Url := do
  let special := isSpecial scheme
  let rest := s.dropWhile fun c => !endsAuthority special c
  let authority ←
    readAuthority scheme rest.isEmpty (s.takeWhile fun c => !endsAuthority special c)
  let path := rest.takeWhile fun c => c != '?' && c != '#'
  let (query, fragment) := readEnd special (rest.dropWhile fun c => c != '?' && c != '#')
  .ok ⟨scheme, authority, .segments (readPath special path), query, fragment⟩

/-- A URL without an authority. -/
def readPlain (scheme : String) (s : List Char) : Url :=
  let special := isSpecial scheme
  let path := s.takeWhile fun c => c != '?' && c != '#'
  let (query, fragment) := readEnd special (s.dropWhile fun c => c != '?' && c != '#')
  let path :=
    if special || path.head? == some '/' then .segments (readPath special path)
    else .plain (percentEncode isVisible path)
  ⟨scheme, none, path, query, fragment⟩

/-- A URL of a file; the local host does not count. -/
def readFile (s : List Char) : Except UrlError Url := do
  let isSlash (c : Char) : Bool := c == '/' || c == '\\'
  match s with
  | a :: b :: rest =>
    if isSlash a && isSlash b then
      let host := rest.takeWhile fun c => !endsAuthority true c
      let url := readPlain "file" (rest.dropWhile fun c => !endsAuthority true c)
      if host.isEmpty then .ok url
      else
        let host ← Host.ofSpecial host
        if host == .domain "localhost" then .ok url
        else .ok { url with authority := some ⟨"", none, host, none⟩ }
    else .ok (readPlain "file" s)
  | _ => .ok (readPlain "file" s)

/-- The URL that a text denotes. Controls and blanks around it do not count. -/
def ofText? (text : String) : Except UrlError Url :=
  let isOuter (c : Char) : Bool := c ≤ ' '
  let trimmed := ((text.toList.dropWhile isOuter).reverse.dropWhile isOuter).reverse
  let s := trimmed.filter fun c => !isIgnored c
  match splitScheme? s with
  | none => .error .relative
  | some (scheme, rest) =>
    if scheme == "file" then readFile rest
    else if isWeb scheme then
      readWithAuthority scheme (rest.dropWhile fun c => c == '/' || c == '\\')
    else
      match rest with
      | '/' :: '/' :: rest => readWithAuthority scheme rest
      | rest => .ok (readPlain scheme rest)

/-! ## Writing -/

/-- The text of a path. -/
def renderPath : UrlPath → String
  | .plain text => String.ofList text
  | .segments list => String.ofList (list.flatMap ('/' :: ·))

/-- The text of an authority. -/
def renderAuthority (a : Authority) : String :=
  let password := (a.password.map fun p => ":" ++ p).getD ""
  let userinfo := if a.user.isEmpty && a.password.isNone then "" else a.user ++ password ++ "@"
  userinfo ++ a.host.render ++ (a.port.map fun n => ":" ++ toString n).getD ""

/-- The path and the query, as a request names them. -/
def target (u : Url) : String :=
  renderPath u.path ++ (u.query.map fun q => "?" ++ String.ofList q).getD ""

/-- The text of a URL. -/
def render (u : Url) : String :=
  let authority :=
    match u.authority, u.path with
    | some a, _ => "//" ++ renderAuthority a
    | none, .segments ([] :: _ :: _) => if u.scheme == "file" then "//" else "/."
    | none, _ => if u.scheme == "file" then "//" else ""
  u.scheme ++ ":" ++ authority ++ u.target ++
    (u.fragment.map fun f => "#" ++ String.ofList f).getD ""

/-- The URL without the name of a user and a password. -/
def withoutUserinfo (u : Url) : Url :=
  { u with authority := u.authority.map fun a => { a with user := "", password := none } }

/-- The URL with further segments in its path and with a new query. A single empty segment at the end of
the path gives way. A path that is a plain text has no segments. -/
def extended? (u : Url) (segments : List String) (query : Option (List Char)) : Option Url :=
  match u.path with
  | .plain _ => none
  | .segments list =>
    let start := if list.getLast? == some [] && list.length != 1 then list.dropLast else list
    let path := (segments.map String.toList).foldl (addSegment (isSpecial u.scheme)) start
    some { u with path := .segments path, query }

end Url

end Periscope.Http
