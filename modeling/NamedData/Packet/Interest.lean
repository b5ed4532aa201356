import NamedData.Config.Basic
import NamedData.Name.Uri
import NamedData.Packet.Exclude
import NamedData.Packet.KeyLocator

/-!
# Interest packets

An Interest asks for Data by name. Its settings narrow down which packets answer it, guide how it is
forwarded, and tell two requests for one name apart. `Interest.toUri` shows the name and all
settings but the link as the path and query of a URI.
-/

namespace NamedData

/-- Which of several answers is preferred. -/
inductive ChildSelector where
  | leftmost
  | rightmost
  deriving DecidableEq, Repr

namespace ChildSelector

/-- The number of a selector on the wire. -/
def code : ChildSelector → UInt64
  | leftmost => 0
  | rightmost => 1

/-- The selector of a number. -/
def ofCode? (code : UInt64) : Option ChildSelector :=
  if code = 0 then some leftmost else if code = 1 then some rightmost else none

/-- The name of a selector. -/
def label : ChildSelector → String
  | leftmost => "Leftmost"
  | rightmost => "Rightmost"

end ChildSelector

/-- Where answers may come from, a bit for each place. -/
structure AnswerOrigin where
  bits : UInt32
  deriving DecidableEq, Repr

namespace AnswerOrigin

/-- The bit for answers that are no longer fresh. -/
def stale : AnswerOrigin := ⟨4⟩

/-- Whether answers may be stale. -/
def allowsStale (origin : AnswerOrigin) : Bool :=
  origin.bits &&& stale.bits == stale.bits

/-- The origin that also allows stale answers. -/
def withStale (origin : AnswerOrigin) : AnswerOrigin :=
  ⟨origin.bits ||| stale.bits⟩

/-- The origin that does not allow stale answers. -/
def withoutStale (origin : AnswerOrigin) : AnswerOrigin :=
  ⟨origin.bits &&& ~~~stale.bits⟩

end AnswerOrigin

/-- The parts of an Interest that are single values. -/
structure InterestSettings where
  /-- The least number of components after the name, the digest included. -/
  minSuffixComponents : Option UInt32 := none
  /-- The largest number of components after the name, the digest included. -/
  maxSuffixComponents : Option UInt32 := none
  childSelector : Option ChildSelector := none
  answerOrigin : Option AnswerOrigin := none
  scope : Option UInt32 := none
  lifetime : Option Time.Duration := none
  /-- The encoded link that helps to reach the producer, empty without one. -/
  link : Bytes := []
  /-- Which delegation of the link is in use. -/
  selectedDelegation : Option UInt32 := none
  deriving DecidableEq, Repr

namespace InterestSettings

/-- Whether answers must be fresh, as they must unless stale ones are allowed. -/
def mustBeFresh (s : InterestSettings) : Bool :=
  match s.answerOrigin with
  | none => true
  | some origin => !origin.allowsStale

/-- The settings that demand fresh answers or not, all other origins kept. -/
def withMustBeFresh (fresh : Bool) (s : InterestSettings) : InterestSettings :=
  { s with
    answerOrigin :=
      match s.answerOrigin, fresh with
      | none, true => none
      | none, false => some .stale
      | some origin, true => some origin.withoutStale
      | some origin, false => some origin.withStale }

/-- The settings without a link. -/
def withoutLink (s : InterestSettings) : InterestSettings :=
  { s with link := [], selectedDelegation := none }

/-- How long forwarders keep the Interest. -/
def effectiveLifetime (config : PacketConfig) (s : InterestSettings) : Time.Duration :=
  s.lifetime.getD config.defaultLifetime

/-- Whether a link is attached. -/
def hasLink (s : InterestSettings) : Bool :=
  !s.link.isEmpty

end InterestSettings

/-- A request for Data under a name. -/
structure Interest extends InterestSettings where
  name : Name
  /-- Whose signature the answer must carry. -/
  keyLocator : KeyLocator := .absent
  /-- The components that must not follow the name. -/
  exclude : Exclude := {}
  /-- Bytes that tell this request from others for the name, empty if none are set. -/
  nonce : Bytes := []
  deriving DecidableEq, Repr

namespace Interest

/-- A number as a part of the query. -/
def numberText (n : Nat) : List Char :=
  Text.Numeral.render n

/-- The query's parts by name, those that are unset left out. -/
def query (i : Interest) : List (String × List Char) :=
  let number (key : String) (value : Option Nat) : List (String × List Char) :=
    value.toList.map fun n => (key, numberText n)
  let bytes (key : String) (value : Bytes) : List (String × List Char) :=
    if value.isEmpty then [] else [(key, Name.escape value)]
  number "ndn.MinSuffixComponents" (i.minSuffixComponents.map UInt32.toNat)
    ++ number "ndn.MaxSuffixComponents" (i.maxSuffixComponents.map UInt32.toNat)
    ++ number "ndn.ChildSelector" (i.childSelector.map fun s => s.code.toNat)
    ++ number "ndn.AnswerOriginKind" (i.answerOrigin.map fun origin => origin.bits.toNat)
    ++ number "ndn.Scope" (i.scope.map UInt32.toNat)
    ++ number "ndn.InterestLifetime" (i.lifetime.map Time.Duration.wholeMillis)
    ++ bytes "ndn.PublisherPublicKeyDigest" i.keyLocator.digestBytes
    ++ bytes "ndn.Nonce" i.nonce
    ++ (if i.exclude.entries.isEmpty then [] else [("ndn.Exclude", i.exclude.path)])

/-- The parts of a query, each behind its mark. -/
def queryText : (mark : Char) → List (String × List Char) → List Char
  | _, [] => []
  | mark, (key, value) :: rest => mark :: key.toList ++ '=' :: value ++ queryText '&' rest

/-- The text of an Interest. -/
def toUri (i : Interest) : String :=
  String.ofList (i.name.path ++ queryText '?' i.query)

end Interest

end NamedData
