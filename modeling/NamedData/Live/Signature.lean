import NamedData.Live.KeyLocator
import NamedData.Packet.Signature

/-!
# Live signatures

A signature that counts its changes, those of its key locator and its validity period included.
`toSignature` is the value it has at the moment.
-/

namespace NamedData

/-- A validity period that counts its changes. -/
abbrev LiveValidityPeriod := Stamped ValidityPeriod

/-- The schemes of signatures, with parts that count their changes. -/
inductive LiveSignature.Scheme where
  | digestSha256
  | hmacWithSha256 (keyLocator : Tracked LiveKeyLocator)
  | sha256WithRsa (keyLocator : Tracked LiveKeyLocator) (validity : Tracked LiveValidityPeriod)
  | sha256WithEcdsa (keyLocator : Tracked LiveKeyLocator) (validity : Tracked LiveValidityPeriod)
  | generic (info : Bytes) (typeCode : Option UInt64)
  deriving DecidableEq, Repr

/-- A signature that counts its changes. -/
structure LiveSignature where
  bytes : Bytes
  scheme : LiveSignature.Scheme
  count : Count
  deriving DecidableEq, Repr

namespace LiveSignature

/-- The value of a signature at the moment. -/
def toSignature (s : LiveSignature) : Signature :=
  match s.scheme with
  | .digestSha256 => .digestSha256 s.bytes
  | .hmacWithSha256 k => .hmacWithSha256 s.bytes k.part.toKeyLocator
  | .sha256WithRsa k period => .sha256WithRsa s.bytes k.part.toKeyLocator period.part.value
  | .sha256WithEcdsa k period => .sha256WithEcdsa s.bytes k.part.toKeyLocator period.part.value
  | .generic info typeCode => .generic s.bytes info typeCode

/-- A key locator that is new in its signature. -/
def makeKeyLocator (k : KeyLocator) : Draws (Tracked LiveKeyLocator) := do
  Tracked.make (← LiveKeyLocator.make k)

/-- A validity period that is new in its signature. -/
def makeValidity (period : ValidityPeriod) : Draws (Tracked LiveValidityPeriod) := do
  Tracked.make (← Stamped.make period)

/-- The scheme of a given signature. -/
def Scheme.make : Signature → Draws Scheme
  | .digestSha256 _ => return digestSha256
  | .hmacWithSha256 _ k => return hmacWithSha256 (← makeKeyLocator k)
  | .sha256WithRsa _ k period => return sha256WithRsa (← makeKeyLocator k) (← makeValidity period)
  | .sha256WithEcdsa _ k period => do
    return sha256WithEcdsa (← makeKeyLocator k) (← makeValidity period)
  | .generic _ info typeCode => return generic info typeCode

/-- A signature that is new. -/
def make (s : Signature) : Draws LiveSignature := do
  let scheme ← Scheme.make s
  return ⟨s.bytes, scheme, ← draw⟩

/-- Changes the bytes. -/
def setBytes (bytes : Bytes) : Edit LiveSignature Unit := do
  let s ← get
  set { s with bytes, count := ← (draw : Draws _) }

/-- Changes the description of a scheme that is kept as it is encoded; other schemes have none. -/
def setInfo (info : Bytes) (typeCode : Option UInt64) : Edit LiveSignature (Option Unit) := do
  let s ← get
  match s.scheme with
  | .generic _ _ =>
    set { s with scheme := .generic info typeCode, count := ← (draw : Draws _) }
    return some ()
  | _ => return none

/-- Changes the part that holds the key locator, if the scheme has one. -/
def onKeyLocator {ρ : Type} (e : Edit (Tracked LiveKeyLocator) ρ) :
    Edit LiveSignature (Option ρ) := do
  let s ← get
  match s.scheme with
  | .hmacWithSha256 k =>
    let (result, k) ← (e.run k : Draws _)
    set { s with scheme := .hmacWithSha256 k }
    return some result
  | .sha256WithRsa k period =>
    let (result, k) ← (e.run k : Draws _)
    set { s with scheme := .sha256WithRsa k period }
    return some result
  | .sha256WithEcdsa k period =>
    let (result, k) ← (e.run k : Draws _)
    set { s with scheme := .sha256WithEcdsa k period }
    return some result
  | .digestSha256 | .generic _ _ => return none

/-- Changes the part that holds the validity period, if the scheme has one. -/
def onValidity {ρ : Type} (e : Edit (Tracked LiveValidityPeriod) ρ) :
    Edit LiveSignature (Option ρ) := do
  let s ← get
  match s.scheme with
  | .sha256WithRsa k period =>
    let (result, period) ← (e.run period : Draws _)
    set { s with scheme := .sha256WithRsa k period }
    return some result
  | .sha256WithEcdsa k period =>
    let (result, period) ← (e.run period : Draws _)
    set { s with scheme := .sha256WithEcdsa k period }
    return some result
  | .digestSha256 | .hmacWithSha256 _ | .generic _ _ => return none

/-- Notes a change of the signature itself. -/
def touch : Edit LiveSignature Unit := do
  let s ← get
  set { s with count := ← (draw : Draws _) }

/-- Changes the key locator in place, if the scheme has one. -/
def editKeyLocator {ρ : Type} (e : Edit LiveKeyLocator ρ) : Edit LiveSignature (Option ρ) :=
  onKeyLocator (Tracked.edit e)

/-- Changes the validity period in place, if the scheme has one. -/
def editValidity {ρ : Type} (e : Edit LiveValidityPeriod ρ) : Edit LiveSignature (Option ρ) :=
  onValidity (Tracked.edit e)

/-- Puts another key locator in the place, if the scheme has one. -/
def setKeyLocator (k : LiveKeyLocator) : Edit LiveSignature (Option Unit) := do
  match ← onKeyLocator (Tracked.replace k) with
  | none => return none
  | some () => some <$> touch

/-- Puts another validity period in the place, if the scheme has one. -/
def setValidity (period : LiveValidityPeriod) : Edit LiveSignature (Option Unit) := do
  match ← onValidity (Tracked.replace period) with
  | none => return none
  | some () => some <$> touch

instance : ChangeCounted LiveSignature where
  settle := do
    let keyChanged ← onKeyLocator Tracked.check
    let periodChanged ← onValidity Tracked.check
    if keyChanged = some true ∨ periodChanged = some true then touch
  count s := s.count

end LiveSignature

end NamedData
