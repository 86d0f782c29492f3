import Periscope.Text.Alphabetic
import Periscope.Text.Lowercase

/-!
# Mapping keys

What a redaction rule asks of a mapping key: that it contains a term, or that the term is one of the words
which the key is made of.
-/

namespace Periscope.Redaction

open Text

/-- Whether `s` holds `term` as a stretch of consecutive characters. -/
def holdsText (term : List Char) : List Char → Bool
  | [] => term.isEmpty
  | c :: rest => term.isPrefixOf (c :: rest) || holdsText term rest

/-- Whether a word begins with `c` inside a run of alphanumeric characters: at a capital behind a small
letter or a number, and at the last capital of an acronym. -/
def startsWord (prev : Option Char) (c : Char) (next : Option Char) : Bool :=
  isUppercase c &&
    match prev with
    | some p =>
      if isLowercase p || isNumeric p then true
      else isUppercase p && (next.map isLowercase).getD false
    | none => false

/-- The words of a text whose preceding character is `prev` and whose current word has begun with
`current`. -/
def wordsFrom (prev : Option Char) (current : List Char) : List Char → List (List Char)
  | [] => if current.isEmpty then [] else [current]
  | c :: rest =>
    if !isAlphanumeric c then
      if current.isEmpty then wordsFrom (some c) [] rest
      else current :: wordsFrom (some c) [] rest
    else if !current.isEmpty && startsWord prev c rest.head? then
      current :: wordsFrom (some c) (lowercaseChar c) rest
    else wordsFrom (some c) (current ++ lowercaseChar c) rest

/-- The words of a key in small letters: `clientSecretRef`, `client_secret.ref` and `CLIENT-SECRET-REF`
have the same three. -/
def keyWords (key : List Char) : List (List Char) := wordsFrom none [] key

/-- Whether a key has letters and none of them is small. Such keys run words together without a mark. -/
def isShouted (key : List Char) : Bool := key.any isAlphabetic && !key.any isLowercase

/-- How a key rule compares its term, which is in small letters, with a key. -/
inductive KeyMatcher where
  /-- The key holds the term anywhere, letter case apart. -/
  | contains (term : String)
  /-- The term is a word of the key or, in a shouted key, the end of one. -/
  | word (term : String)
  deriving DecidableEq

/-- Whether the matcher accepts a key. -/
def KeyMatcher.accepts (key : List Char) : KeyMatcher → Bool
  | .contains term => holdsText term.toList (lowercase key)
  | .word term =>
    (keyWords key).any fun w =>
      w == term.toList || (isShouted key && term.toList.isSuffixOf w)

end Periscope.Redaction
