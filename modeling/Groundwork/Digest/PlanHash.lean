import Groundwork.Digest.Fingerprint
import Groundwork.Plan

/-!
# Fingerprints of plans

Two plans have the same fingerprint when they are written as the same JSON text; so do two
resources.
-/

namespace Groundwork

/-- The hash of one resource. -/
def Resource.hash (r : Resource) : String := hashJson r.toJson

namespace Plan

/-- The hash of every resource under its id, in provisioning order. -/
def resourceHashes (p : Plan) : OrderedMap String :=
  OrderedMap.ofList (p.ordered.map fun r => (r.id, r.hash))

/-- The hash of the whole plan, the order included. -/
def fingerprint (p : Plan) : String := hashJson p.toJson

end Plan

end Groundwork
