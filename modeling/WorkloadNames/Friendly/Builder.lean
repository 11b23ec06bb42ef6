import WorkloadNames.Dns.Rule
import WorkloadNames.Friendly.Hash
import WorkloadNames.Friendly.Name
import WorkloadNames.Sanitize

/-!
Building friendly names for container images and for workload instances. An image name is built
from a tag, which is brought into the alphabet of DNS names, and an instance name from a
namespace, a kind and a name, which must already form a DNS subdomain when joined.
-/

set_option autoImplicit false
set_option relaxedAutoImplicit false

namespace WorkloadNames.Friendly

/-- What comes of building a name. A fault is a cut where there is nothing to cut: past the end of a
text or inside a character. -/
inductive Answer where
  | built (name : Name)
  | rejected (rejection : Rejection)
  | fault
  deriving DecidableEq, Repr

/-- The text of a name, if one has been built. -/
def Answer.text? : Answer → Option Text
  | .built name => some name.text
  | .rejected _ | .fault => none

/-- The answer for an identifier that has passed every check. -/
def Answer.join (identifier : Text) (suffix? : Option Text) : Answer :=
  match suffix?.bind fun suffix ↦ Name.join? identifier suffix with
  | some name => .built name
  | none => .fault

/-- The friendly name of an image: its sanitized tag and the end of its hash. -/
def imageName (tag hash : Text) : Answer :=
  if tag.isEmpty then .rejected .emptyTag
  else
    match hashRejection? hash minImageHashLength with
    | some rejection => .rejected rejection
    | none =>
      if (sanitize tag).isEmpty then .rejected (.unusableTag tag)
      else .join (sanitize tag) (imageSuffix? hash)

/-- The components of an instance as one identifier. -/
def assembled (namespaceName kind name : Text) : Text :=
  ['-'].intercalate [namespaceName, kind, name]

/-- The friendly name of an instance: its components joined by hyphens and both ends of its
hash. -/
def instanceName (name namespaceName kind hash : Text) : Answer :=
  let identifier := assembled namespaceName kind name
  match Dns.Rule.subdomain.violation? identifier with
  | some violation => .rejected (.badInstanceName identifier violation)
  | none =>
    match hashRejection? hash (instanceFragmentLength * 2) with
    | some rejection => .rejected rejection
    | none => .join identifier (instanceSuffix? hash)

end WorkloadNames.Friendly
