/-!
# Element types

The type numbers of the elements that packets are made of, and which unknown types may be skipped.
-/

namespace NamedData.Wire.ElementType

/-! ## Packets and names -/

abbrev interest : UInt64 := 0x05

abbrev data : UInt64 := 0x06

abbrev name : UInt64 := 0x07

/-! ## Interest -/

abbrev selectors : UInt64 := 0x09

abbrev nonce : UInt64 := 0x0A

abbrev scope : UInt64 := 0x0B

abbrev interestLifetime : UInt64 := 0x0C

abbrev minSuffixComponents : UInt64 := 0x0D

abbrev maxSuffixComponents : UInt64 := 0x0E

abbrev publisherPublicKeyLocator : UInt64 := 0x0F

abbrev exclude : UInt64 := 0x10

abbrev childSelector : UInt64 := 0x11

abbrev mustBeFresh : UInt64 := 0x12

abbrev any : UInt64 := 0x13

abbrev selectedDelegation : UInt64 := 0x20

/-! ## Data -/

abbrev metaInfo : UInt64 := 0x14

abbrev content : UInt64 := 0x15

abbrev signatureInfo : UInt64 := 0x16

abbrev signatureValue : UInt64 := 0x17

abbrev contentType : UInt64 := 0x18

abbrev freshnessPeriod : UInt64 := 0x19

abbrev finalBlockId : UInt64 := 0x1A

abbrev signatureType : UInt64 := 0x1B

abbrev keyLocator : UInt64 := 0x1C

abbrev keyLocatorDigest : UInt64 := 0x1D

abbrev validityPeriod : UInt64 := 0xFD

abbrev notBefore : UInt64 := 0xFE

abbrev notAfter : UInt64 := 0xFF

/-! ## Links -/

abbrev linkPreference : UInt64 := 0x1E

abbrev linkDelegation : UInt64 := 0x1F

/-! ## Refusals by forwarders -/

abbrev networkNack : UInt64 := 0x0320

abbrev nackReason : UInt64 := 0x0321

/-! ## Management -/

abbrev controlResponse : UInt64 := 0x65

abbrev statusCode : UInt64 := 0x66

abbrev statusText : UInt64 := 0x67

abbrev controlParameters : UInt64 := 0x68

abbrev faceId : UInt64 := 0x69

abbrev cost : UInt64 := 0x6A

abbrev strategy : UInt64 := 0x6B

abbrev flags : UInt64 := 0x6C

abbrev expirationPeriod : UInt64 := 0x6D

abbrev localControlFeature : UInt64 := 0x6E

abbrev origin : UInt64 := 0x6F

abbrev uri : UInt64 := 0x72

/-! ## Unknown types -/

/-- Whether an element of an unknown type makes the packet unreadable; all others are skipped. -/
def isCritical (type : UInt64) : Bool :=
  type < 32 || type % 2 = 1

end NamedData.Wire.ElementType
