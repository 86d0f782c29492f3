import Periscope.Main
import Periscope.Cache.Schedule
import Periscope.Mcp.Routes
import Periscope.Redaction.Description
import Periscope.Proofs.Resolution.Soundness
import Periscope.Proofs.Resolution.Naming
import Periscope.Proofs.Resolution.Ambiguity
import Periscope.Proofs.Resolution.Outage
import Periscope.Proofs.Pattern.Combinators
import Periscope.Proofs.Pattern.Greedy
import Periscope.Proofs.Redaction.Fences
import Periscope.Proofs.Redaction.Idempotence
import Periscope.Proofs.Inspection.Noninterference
import Periscope.Proofs.Inspection.Queries
import Periscope.Proofs.Http.Percent
import Periscope.Proofs.Http.Segments
import Periscope.Proofs.Remote.Collections
import Periscope.Proofs.Cache.Step
import Periscope.Proofs.Cache.Execution
import Periscope.Proofs.Cache.Progress
import Periscope.Proofs.Cache.Monotone
import Periscope.Proofs.Cache.Invalidation
import Periscope.Proofs.Cache.Fetches
import Periscope.Proofs.Cache.Schedule
import Periscope.Proofs.Resolution.Enumeration
import Periscope.Proofs.Resolution.Consistency
import Periscope.Proofs.Resource.GroupVersion
import Periscope.Proofs.Resolution.Reports
import Periscope.Proofs.Resolution.WordGroups
import Periscope.Proofs.Resolution.KindTypes
import Periscope.Proofs.Redaction.Spans
import Periscope.Proofs.Redaction.Selection
import Periscope.Proofs.Remote.Announcement
import Periscope.Proofs.Redaction.KeyWords
import Periscope.Proofs.Redaction.Extras
import Periscope.Proofs.Redaction.Stability
import Periscope.Proofs.Redaction.AssignedSecrets
import Periscope.Proofs.Resolution.Compounds
import Periscope.Proofs.Remote.Paths
import Periscope.Proofs.Remote.Selectors
import Periscope.Proofs.Redaction.Terms
import Periscope.Proofs.Discovery.Fingerprints
import Periscope.Proofs.Discovery.Documents
import Periscope.Proofs.Json.Readings
import Periscope.Proofs.Redaction.Plain
