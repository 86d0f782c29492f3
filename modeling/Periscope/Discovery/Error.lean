/-!
# Discovery errors

Why a look-up in the API surface fails.
-/

namespace Periscope

/-- The cause of a failed look-up. -/
inductive DiscoveryError where
  /-- No resource type fits the description. -/
  | notFound (what : String)
  | ambiguous (query : String) (candidates : List String)
  /-- The API surface could not be read. -/
  | unavailable (reason : String)
  deriving DecidableEq

/-- The text of a discovery error. -/
def DiscoveryError.message : DiscoveryError → String
  | .notFound what => "no resource type matches " ++ what
  | .ambiguous query candidates =>
    query ++ " matches multiple resource types: " ++ ", ".intercalate candidates
  | .unavailable reason => "discovery unavailable: " ++ reason

end Periscope
