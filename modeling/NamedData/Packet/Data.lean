import NamedData.Packet.MetaInfo
import NamedData.Packet.Signature

/-!
# Data packets

A Data packet binds content to a name under a signature.
-/

namespace NamedData

/-- A named and signed piece of content. -/
structure Data where
  name : Name
  metaInfo : MetaInfo := {}
  content : Bytes := []
  signature : Signature := .initial
  deriving DecidableEq, Repr

end NamedData
