import NamedData.Packet.Interest
import NamedData.Wire.KeyLocator
import NamedData.Wire.SignedBlob

/-!
# Interests on the wire

`encodeInterest` writes the name, the selectors if any is set, the nonce, and the other settings. A
request without a nonce gets one from a stream of bytes. The signed range is the name without its
last component. `Reader.interest` reads the same grammar with tails of unknown elements.
-/

namespace NamedData.Wire

/-- A number of 32 bits as an element. -/
def integer32Element? (type : UInt64) (n : Option UInt32) : Bytes :=
  integerElement? type (n.map UInt32.toUInt64)

/-- An entry of an exclude as an element. -/
def excludeEntryElement : ExcludeEntry → Bytes
  | .any => element ElementType.any []
  | .component c => componentElement c

/-- An exclude as an element, nothing for one without entries. -/
def excludeElement? (e : Exclude) : Bytes :=
  if e.entries.isEmpty then []
  else element ElementType.exclude (e.entries.flatMap excludeEntryElement)

/-- Whether an Interest has selectors. -/
def hasSelectors (i : Interest) : Bool :=
  i.minSuffixComponents.isSome || i.maxSuffixComponents.isSome || !i.keyLocator.isAbsent
    || !i.exclude.entries.isEmpty || i.childSelector.isSome || i.mustBeFresh

/-- The selectors of an Interest as the value of an element. -/
def selectorsValue (i : Interest) : Except EncodingError Bytes := do
  let locator ← keyLocatorElement? ElementType.publisherPublicKeyLocator i.keyLocator
  return integer32Element? ElementType.minSuffixComponents i.minSuffixComponents
    ++ integer32Element? ElementType.maxSuffixComponents i.maxSuffixComponents
    ++ locator
    ++ excludeElement? i.exclude
    ++ integerElement? ElementType.childSelector (i.childSelector.map ChildSelector.code)
    ++ (if i.mustBeFresh then element ElementType.mustBeFresh [] else [])

/-- The selectors of an Interest as an element, nothing if it has none. -/
def selectorsElement? (i : Interest) : Except EncodingError Bytes :=
  if hasSelectors i then element ElementType.selectors <$> selectorsValue i else .ok []

/-- The first bytes of a stream. -/
def takeStream (stream : Nat → UInt8) (count : Nat) : Bytes :=
  (List.range count).map stream

/-- What follows the name in the value of an Interest, given its nonce. -/
def interestTail (i : Interest) (nonce : Bytes) : Except EncodingError Bytes := do
  let selectors ← selectorsElement? i
  return selectors
    ++ element ElementType.nonce nonce
    ++ integer32Element? ElementType.scope i.scope
    ++ integerElement? ElementType.interestLifetime (i.lifetime.map Time.Duration.saturatedMillis)
    ++ i.link
    ++ integer32Element? ElementType.selectedDelegation i.selectedDelegation

/-- Encodes an Interest. A missing nonce is made of the first `nonceLength` bytes of `random`. -/
def encodeInterest (nonceLength : Nat) (random : Nat → UInt8) (i : Interest) :
    Except EncodingError SignedBlob := do
  let nonce := if i.nonce.isEmpty then takeStream random nonceLength else i.nonce
  let following ← interestTail i nonce
  let components := componentElements i.name.components
  let value := nameElement i.name ++ following
  let signedBegin :=
    (header ElementType.interest value.length).length
      + (header ElementType.name components.length).length
  let signed := componentElements i.name.components.dropLast
  return ⟨element ElementType.interest value, signedBegin, signedBegin + signed.length⟩

/-- The selectors as they are read. -/
structure Selectors where
  minSuffixComponents : Option UInt32 := none
  maxSuffixComponents : Option UInt32 := none
  keyLocator : KeyLocator := .absent
  exclude : Exclude := {}
  childSelector : Option ChildSelector := none
  mustBeFresh : Bool := false
  deriving DecidableEq, Repr

namespace Reader

/-- Reads a number of 32 bits if the next element has the given type. -/
def optionalInteger32 (type : UInt64) : Reader (Option UInt32) := do
  match ← optional type (integer type) with
  | none => return none
  | some n =>
    if n.toNat < UInt32.size then return some n.toUInt32
    else fail (.invalidValue (.exceeds32Bits n))

/-- Reads an entry of an exclude. -/
def excludeEntry : Reader ExcludeEntry := do
  let (type, value) ← any
  return if type = ElementType.any then .any else .component ⟨.ofCode type, value⟩

/-- Reads a child selector. -/
def childSelector : Reader ChildSelector := do
  let code ← integer ElementType.childSelector
  match ChildSelector.ofCode? code with
  | some selector => return selector
  | none => fail (.invalidValue (.unknownChildSelector code))

/-- Reads the value of the selectors. -/
def selectors : Reader Selectors := do
  let minSuffixComponents ← optionalInteger32 ElementType.minSuffixComponents
  let maxSuffixComponents ← optionalInteger32 ElementType.maxSuffixComponents
  let locator ← optionalNested ElementType.publisherPublicKeyLocator keyLocatorValue
  let entries ← optionalNested ElementType.exclude (many excludeEntry)
  let childSelector ← optional ElementType.childSelector childSelector
  let fresh ← optional ElementType.mustBeFresh (blob ElementType.mustBeFresh)
  return {
    minSuffixComponents, maxSuffixComponents, childSelector
    keyLocator := locator.getD .absent
    exclude := ⟨entries.getD []⟩
    mustBeFresh := fresh.isSome }

/-- Reads an Interest and its signed range. -/
def interest : Reader (Interest × Nat × Nat) :=
  nested ElementType.interest do
    let (name, signedBegin, signedEnd) ← nameRange
    let selectors ← optionalNested ElementType.selectors selectors
    let nonce ← blob ElementType.nonce
    let scope ← optionalInteger32 ElementType.scope
    let lifetime ← optional ElementType.interestLifetime (integer ElementType.interestLifetime)
    let link ← optional ElementType.data (withBytes (blob ElementType.data))
    let selectedDelegation ← optionalInteger32 ElementType.selectedDelegation
    let s := selectors.getD {}
    return ({
      name, nonce, scope, selectedDelegation
      minSuffixComponents := s.minSuffixComponents
      maxSuffixComponents := s.maxSuffixComponents
      keyLocator := s.keyLocator
      exclude := s.exclude
      childSelector := s.childSelector
      answerOrigin := if s.mustBeFresh then none else some .stale
      lifetime := lifetime.map Time.Duration.ofMillis
      link := (link.map Prod.snd).getD [] }, signedBegin, signedEnd)

end Reader

/-- Decodes an Interest at the start of an input, and the part of the input it takes up. -/
def decodeInterest (input : Bytes) : Except DecodingError (Interest × SignedBlob) := do
  let ((i, signedBegin, signedEnd), c) ← Reader.interest.run input
  return (i, ⟨input.take c.offset, signedBegin, signedEnd⟩)

end NamedData.Wire
