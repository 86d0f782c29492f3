import Periscope.Discovery.Error

/-!
# Resolution errors

Why an identifier does not come down to one resource type.
-/

namespace Periscope

/-- The cause of a failed resolution. -/
inductive ResolveError where
  /-- The identifier itself is at fault. -/
  | invalidInput (reason : String)
  | notFound (what : String)
  | ambiguous (what : String) (candidates : List String)
  | discoveryUnavailable (reason : String)
  deriving DecidableEq

namespace ResolveError

/-- The text of a resolution error. -/
def message : ResolveError → String
  | .invalidInput reason => "invalid resource identifier: " ++ reason
  | .notFound what => "no resource type found for " ++ what
  | .ambiguous what candidates =>
    what ++ " is ambiguous, it matches: " ++ ", ".intercalate candidates ++
      "; specify apiVersion or group to disambiguate"
  | .discoveryUnavailable reason => "discovery unavailable: " ++ reason

/-- Whether the same request may succeed later. -/
def isRetriable : ResolveError → Bool
  | .discoveryUnavailable _ => true
  | _ => false

/-- The resolution error for a failed look-up. -/
def ofDiscovery : DiscoveryError → ResolveError
  | .notFound what => .notFound what
  | .ambiguous query candidates => .ambiguous query candidates
  | .unavailable reason => .discoveryUnavailable reason

end ResolveError

end Periscope
