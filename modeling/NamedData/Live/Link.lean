import NamedData.Live.Data

/-!
# Live links

A link is a Data packet whose content is a list of delegations. The link keeps both: changing the
delegations writes them into the content.
-/

namespace NamedData

/-- A Data packet and the delegations that its content lists. -/
structure LiveLink where
  data : LiveData
  delegations : DelegationSet
  deriving DecidableEq, Repr

namespace LiveLink

/-- The meta information that says that the content is a list of delegations. -/
def markAsLink (m : MetaInfo) : MetaInfo :=
  { m with contentType := .link }

/-- A link that is new, without a name or delegations. -/
def make : Draws LiveLink := do
  let d ← LiveData.make { name := .empty }
  let ((), d) ← (LiveData.editMetaInfo (Stamped.update markAsLink)).run d
  return ⟨d, {}⟩

/-- Changes the packet, but not the delegations. -/
def onData {ρ : Type} (e : Edit LiveData ρ) : Edit LiveLink ρ := do
  let l ← get
  let (result, data) ← (e.run l.data : Draws _)
  set { l with data }
  return result

/-- Puts another name in the place. -/
def setName (n : LiveName) : Edit LiveLink Unit :=
  onData (LiveData.setName n)

/-- A link that is new, with the given name and no delegations. -/
def withName (n : LiveName) : Draws LiveLink := do
  let ((), l) ← (setName n).run (← make)
  return l

/-- The link of a packet whose content is marked as one. -/
def ofData (d : LiveData) : Except Wire.DecodingError LiveLink := do
  return ⟨d, ← Wire.linkDelegations d.toData⟩

/-- Writes the delegations into the content. -/
def encodeContent : Edit LiveLink (Except Wire.EncodingError Unit) := do
  match Wire.WireFormat.initial.encodeDelegations (← get).delegations with
  | .error e => return .error e
  | .ok content =>
    onData do
      LiveData.setContent content
      LiveData.editMetaInfo (Stamped.update markAsLink)
    return .ok ()

/-- Gives a name a preference, adding the name if it is not listed. -/
def addDelegation (preference : UInt64) (n : Name) :
    Edit LiveLink (Except Wire.EncodingError Unit) := do
  modify fun l => { l with delegations := l.delegations.insert preference n }
  encodeContent

/-- Takes a name out and tells whether it was listed. -/
def removeDelegation (n : Name) : Edit LiveLink (Except Wire.EncodingError Bool) := do
  let l ← get
  if l.delegations.contains n then
    set { l with delegations := l.delegations.erase n }
    match ← encodeContent with
    | .error e => return .error e
    | .ok () => return .ok true
  else return .ok false

/-- The encoding of the packet. -/
def wireEncode : Edit LiveLink (Except Wire.EncodingError Wire.SignedBlob) :=
  onData LiveData.wireEncode

/-- Decodes a link from a packet. -/
def wireDecode (input : Bytes) : Draws (Except Wire.DecodingError LiveLink) := do
  let (result, d) ← (LiveData.wireDecode input).run (← LiveData.make { name := .empty })
  match result with
  | .error e => return .error e
  | .ok () => return ofData d

end LiveLink

end NamedData
