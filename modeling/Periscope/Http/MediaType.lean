/-!
# Media types

The value of a content type header: a type, a subtype and parameters.
-/

namespace Periscope.Http

/-- A media type without its parameters. -/
structure MediaType where
  type : String
  /-- The whole of the subtype, together with its suffix. -/
  subtype : List Char
  deriving DecidableEq

namespace MediaType

/-- Whether a character may stand in a token. -/
def isToken (c : Char) : Bool := c.isAlphanum || "!#$%&'*+-.^_\x60|~".toList.contains c

/-- Whether a character may stand between quotes. -/
def isQuotable (c : Char) : Bool := ' ' ≤ c && c ≤ '~'

/-- The text behind the blanks after a quoted value and the semicolon that ends it. -/
def afterQuoted : List Char → Option (List Char)
  | [] => some []
  | ' ' :: rest => afterQuoted rest
  | ';' :: rest => some rest
  | _ => none

/-- The text behind the value of a parameter. A quoted value is not empty: its first character never
closes it. -/
def afterValue (s : List Char) : Option (List Char) :=
  match s with
  | '"' :: c :: rest =>
    if !isQuotable c then none
    else
      match rest.dropWhile fun c => isQuotable c && c != '"' with
      | '"' :: rest => afterQuoted rest
      | _ => none
  | s =>
    match s.dropWhile isToken with
    | [] => some []
    | ';' :: rest => if s.head? == some ';' then none else some rest
    | _ => none

/-- Whether a text is a list of parameters. `bound` is a bound on their number. -/
def areParameters : Nat → List Char → Bool
  | 0, s => s.isEmpty
  | bound + 1, s =>
    match s.dropWhile (· == ' ') with
    | [] => true
    | s =>
      let name := s.takeWhile isToken
      match s.dropWhile isToken with
      | '=' :: rest =>
        !name.isEmpty &&
          match afterValue rest with
          | some rest => areParameters bound rest
          | none => false
      | _ => false

/-- The media type that a text denotes. Letters count as small ones. -/
def ofText? (text : String) : Option MediaType :=
  let s := text.toList
  match s.dropWhile isToken with
  | '/' :: rest =>
    let type := s.takeWhile isToken
    let subtype := rest.takeWhile isToken
    let result : MediaType := ⟨String.ofList (type.map Char.toLower), subtype.map Char.toLower⟩
    if type.isEmpty then none
    else
      match rest.dropWhile isToken with
      | [] => some result
      | ';' :: parameters =>
        if subtype.isEmpty || !areParameters (parameters.length + 1) parameters then none
        else some result
      | _ => none
  | _ => none

/-- The parts of the subtype before and behind its last plus sign; one at its very front is none. -/
def splitSuffix (m : MediaType) : List Char × Option (List Char) :=
  let back := m.subtype.reverse
  let suffix := back.takeWhile (· != '+')
  match back.dropWhile (· != '+') with
  | _ :: front => if front.isEmpty then (m.subtype, none) else (front.reverse, some suffix.reverse)
  | [] => (m.subtype, none)

/-- Whether the type stands for JSON, in its subtype or in its suffix. -/
def isJson (m : MediaType) : Bool :=
  let (subtype, suffix) := m.splitSuffix
  m.type == "application" && (subtype == "json".toList || suffix == some "json".toList)

end MediaType

end Periscope.Http
