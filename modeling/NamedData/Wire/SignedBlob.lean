import NamedData.Bytes

/-!
# Signed blobs

An encoded packet together with the range of its bytes that the signature is over.
-/

namespace NamedData.Wire

/-- Encoded bytes and the range of them that is signed. -/
structure SignedBlob where
  bytes : Bytes
  /-- The offset of the first signed byte. -/
  signedBegin : Nat
  /-- The offset after the last signed byte. -/
  signedEnd : Nat
  deriving DecidableEq, Repr

namespace SignedBlob

/-- Whether the signed range lies in the bytes. -/
def InBounds (blob : SignedBlob) : Prop :=
  blob.signedBegin ≤ blob.signedEnd ∧ blob.signedEnd ≤ blob.bytes.length

instance (blob : SignedBlob) : Decidable blob.InBounds :=
  inferInstanceAs (Decidable (_ ∧ _))

/-- The signed bytes. -/
def signedPortion (blob : SignedBlob) : Bytes :=
  (blob.bytes.drop blob.signedBegin).take (blob.signedEnd - blob.signedBegin)

/-- A range that does not lie in the bytes. -/
structure OutOfBounds where
  blob : SignedBlob
  deriving DecidableEq, Repr

/-- The refusal in words. -/
def OutOfBounds.message (fault : OutOfBounds) : String :=
  let blob := fault.blob
  s!"signed range {blob.signedBegin}..{blob.signedEnd} out of bounds for {blob.bytes.length} bytes"

/-- Some bytes with a signed range, which must lie in them. -/
def ofRange (bytes : Bytes) (signedBegin signedEnd : Nat) : Except OutOfBounds SignedBlob :=
  let blob : SignedBlob := ⟨bytes, signedBegin, signedEnd⟩
  if blob.InBounds then .ok blob else .error ⟨blob⟩

end SignedBlob

end NamedData.Wire
