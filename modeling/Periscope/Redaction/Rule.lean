import Periscope.Pattern.Required
import Periscope.Redaction.Key

/-!
# Redaction rules

A key rule hides the whole value under a mapping key. A content rule hides stretches of a text that look
like a secret. What a content rule does to a text is a list of pieces, each kept or hidden, whose texts
joined together are the text itself.
-/

namespace Periscope.Redaction

/-- What stands in the place of everything hidden. -/
def marker : String := "[REDACTED]"

/-- Which part of a match a content rule hides. -/
inductive Extent where
  | wholeMatch
  /-- The group named `secret`; the text around it stays. -/
  | secretGroup
  deriving DecidableEq

/-- A rule on texts. -/
structure ContentRule where
  name : String
  /-- The pattern as text. -/
  source : String
  pattern : Pattern
  extent : Extent
  /-- May veto a stretch that would be hidden. -/
  accepts : List Char → Bool

/-- A redaction rule. -/
inductive Rule where
  | key (name : String) (matcher : KeyMatcher)
  | content (rule : ContentRule)

/-- The name under which a report counts the rule. -/
def Rule.name : Rule → String
  | .key name _ => name
  | .content rule => rule.name

/-- Whether the rule is about mapping keys. -/
def Rule.isKeyRule : Rule → Bool
  | .key .. => true
  | .content _ => false

/-- Whether the rule hides the values under a key. -/
def Rule.matchesKey (key : List Char) : Rule → Bool
  | .key _ matcher => matcher.accepts key
  | .content _ => false

/-- The rule on texts, if it is one. -/
def Rule.content? : Rule → Option ContentRule
  | .content rule => some rule
  | .key .. => none

/-- A stretch of a text and whether it is hidden. -/
inductive Piece where
  | kept (text : List Char)
  | hidden (text : List Char)
  deriving DecidableEq

namespace Piece

/-- The text of the piece. -/
def text : Piece → List Char
  | .kept t => t
  | .hidden t => t

/-- The piece as it is shown. -/
def shown : Piece → List Char
  | .kept t => t
  | .hidden _ => marker.toList

/-- Whether the piece is hidden. -/
def isHidden : Piece → Bool
  | .kept _ => false
  | .hidden _ => true

end Piece

namespace ContentRule

/-- Where in a match the part begins and ends that the rule would hide. -/
def target (rule : ContentRule) (hit : Pattern.Hit) : Option (Nat × Nat) :=
  match rule.extent with
  | .wholeMatch => some (0, hit.text.length)
  | .secretGroup => hit.groups.lookup "secret"

/-- The pieces of one match. What is hidden already and what the rule vetoes stays as it is. -/
def hitPieces (rule : ContentRule) (hit : Pattern.Hit) : List Piece :=
  match rule.target hit with
  | none => [.kept hit.text]
  | some (start, stop) =>
    let secret := (hit.text.drop start).take (stop - start)
    if secret == marker.toList || !rule.accepts secret then [.kept hit.text]
    else [.kept (hit.text.take start), .hidden secret, .kept (hit.text.drop stop)]

/-- The pieces of a text. -/
def pieces (rule : ContentRule) (text : List Char) : List Piece :=
  (rule.pattern.segments text).flatMap fun
    | .plain c => [.kept [c]]
    | .hit h => rule.hitPieces h

/-- The text with the hidden pieces replaced by the marker. -/
def apply (rule : ContentRule) (text : List Char) : List Char :=
  (rule.pieces text).flatMap Piece.shown

/-- The number of pieces that the rule hides. -/
def hitCount (rule : ContentRule) (text : List Char) : Nat :=
  (rule.pieces text).countP Piece.isHidden

end ContentRule

end Periscope.Redaction
