import WorkloadNames.Friendly.Rejection
import WorkloadNames.Text.Ends

/-!
The hashes behind friendly names: what a hash must look like, and the fragments that a name takes
from it. Hashes are measured in characters, since fragments are counted out in characters, and a
fragment may well take more bytes than it has characters.
-/

set_option autoImplicit false
set_option relaxedAutoImplicit false

namespace WorkloadNames.Friendly

/-- The number of characters that an image name takes from the end of its hash. -/
def imageSuffixLength : Nat := 6

/-- The least number of characters of an image hash. -/
def minImageHashLength : Nat := imageSuffixLength

/-- The number of characters that an instance name takes from either end of its hash. -/
def instanceFragmentLength : Nat := 4

/-- A colon or a slash: what separates a hash from an algorithm name or a repository. -/
def isHashSeparator (c : Char) : Bool := c == ':' || c == '/'

/-- The first rule that a hash breaks: it is empty, it holds a separator, or it has fewer
characters than `minimum`. -/
def hashRejection? (hash : Text) (minimum : Nat) : Option Rejection :=
  if hash.isEmpty then some .emptyHash
  else
    match hash.find? isHashSeparator with
    | some found => some (.badHashCharacter found)
    | none =>
      if hash.length < minimum then some (.shortHash hash.length minimum) else none

/-- What an image name takes from its hash: the last six characters. -/
def imageSuffix? (hash : Text) : Option Text := Text.lastChars? hash imageSuffixLength

/-- What an instance name takes from its hash: the first four characters, a hyphen and the last
four characters. -/
def instanceSuffix? (hash : Text) : Option Text := do
  let front ← Text.firstChars? hash instanceFragmentLength
  let back ← Text.lastChars? hash instanceFragmentLength
  return front ++ ['-'] ++ back

end WorkloadNames.Friendly
