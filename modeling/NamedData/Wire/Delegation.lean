import NamedData.Packet.Delegation
import NamedData.Wire.Name

/-!
# Delegations on the wire

A list of delegations is one element an entry, without an element around them.
-/

namespace NamedData.Wire

/-- A delegation as an element. -/
def delegationElement (d : Delegation) : Bytes :=
  element ElementType.linkDelegation
    (integerElement ElementType.linkPreference d.preference ++ nameElement d.name)

/-- Encodes a list of delegations. -/
def encodeDelegations (set : DelegationSet) : Bytes :=
  set.entries.flatMap delegationElement

/-- Reads a delegation. -/
def Reader.delegation : Reader Delegation :=
  nested ElementType.linkDelegation do
    let preference ← integer ElementType.linkPreference
    let name ← name
    return ⟨preference, name⟩

/-- Decodes a list of delegations that fills the input. -/
def decodeDelegations (input : Bytes) : Except DecodingError DelegationSet :=
  DelegationSet.mk <$> (Reader.many Reader.delegation).value input

end NamedData.Wire
