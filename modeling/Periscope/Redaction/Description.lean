import Periscope.Redaction.Redactor
import Periscope.Text.Quoted

/-!
# Describing rules

The one-line description of a rule, with its texts quoted.
-/

namespace Periscope.Redaction

open Text

/-- The name of an extent. -/
def Extent.label : Extent → String
  | .wholeMatch => "ReplaceMatch"
  | .secretGroup => "ReplaceSecret"

/-- The description of a key matcher. -/
def KeyMatcher.describe : KeyMatcher → String
  | .contains term => "Contains(" ++ quoted term ++ ")"
  | .word term => "Word(" ++ quoted term ++ ")"

/-- The description of a rule. -/
def Rule.describe : Rule → String
  | .key name matcher =>
    "Key \x7B name: " ++ quoted name ++ ", matcher: " ++ matcher.describe ++ " \x7D"
  | .content rule =>
    "Content \x7B name: " ++ quoted rule.name ++ ", pattern: " ++ quoted rule.source ++
      ", action: " ++ rule.extent.label ++ " \x7D"

end Periscope.Redaction
