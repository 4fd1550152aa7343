import Groundwork.Digest.PlanHash
import Groundwork.Provisioning

/-!
# Summaries of plans

A plan for the eye: its nodes in provisioning order with short hashes and the edges both ways, the
images that its workloads need, and the fingerprint.
-/

namespace Groundwork

/-- The first digits of a hash, without the name of the hash function. -/
def shortHash (hash : String) : String :=
  let digits := hash.toList
  let label := "blake3:".toList
  String.ofList ((if label.isPrefixOf digits then digits.drop label.length else digits).take 12)

namespace Plan

/-- The lines about a node. -/
def nodeLines (p : Plan) (hashes : OrderedMap String) (r : Resource) : List String :=
  let users := (Provisioning.dependents p.resources r.id).map (·.id)
  ["  + " ++ r.id ++ " (" ++ r.typeTag ++ ")  " ++ shortHash ((hashes.get? r.id).getD "")]
    ++ (if r.dependsOn.isEmpty then [] else ["      after: " ++ ", ".intercalate r.dependsOn])
    ++ (if users.isEmpty then [] else ["      required by: " ++ ", ".intercalate users])

/-- The lines about images. -/
def imageLines (p : Plan) : List String :=
  if p.images.isEmpty then []
  else ["", "Images:"] ++ p.images.map fun i => "  " ++ i.resourceId ++ "  " ++ i.image

/-- The text of a summary. -/
def summary (p : Plan) : String :=
  let heading :=
    "Planning: " ++ p.project.name ++ " (" ++ p.project.backend.name ++ " backend, "
      ++ toString p.resources.length ++ " resources)"
  let hashes := p.resourceHashes
  let lines :=
    [heading, ""] ++ p.ordered.flatMap (p.nodeLines hashes) ++ p.imageLines
      ++ ["", "Fingerprint: " ++ p.fingerprint]
  "\n".intercalate lines ++ "\n"

end Plan

end Groundwork
