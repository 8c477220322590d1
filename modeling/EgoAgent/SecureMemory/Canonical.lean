import EgoAgent.Api.Provenance

/-!
`canonical_sha256` of the secure-memory contracts: a digest in its own domain.
-/

namespace EgoAgent.SecureMemory

open EgoAgent.Api

variable {φ : Type} [FloatText φ]

/-- `canonical_bytes`. -/
def canonicalBytes (value : Json φ) : Bytes := utf8Encode value.sorted.text

def domainDigest (sha256 : Bytes → Digest) (domain : String) (value : Json φ) : Digest :=
  sha256 (utf8Encode (("egoagentos:" ++ domain ++ ":v1\x00").toList ++ value.sorted.text))

def digestText (digest : Digest) : Json φ := .str (digest.labelled "")

end EgoAgent.SecureMemory
