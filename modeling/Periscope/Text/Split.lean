/-!
# Splitting texts

The two parts of a text around the first place of a separator.
-/

namespace Periscope.Text

/-- The texts before and behind the first `separator`. -/
def splitFirst? (separator : Char) : List Char → Option (List Char × List Char)
  | [] => none
  | c :: rest =>
    if c == separator then some ([], rest)
    else (splitFirst? separator rest).map fun (before, behind) => (c :: before, behind)

end Periscope.Text
