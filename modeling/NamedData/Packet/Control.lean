import NamedData.Name.Basic
import NamedData.Time.Duration

/-!
# Control messages

What a forwarder is told and what it answers: the reason for which it refused an Interest, the
parameters of a management command, and the response to one.
-/

namespace NamedData

/-- Why a forwarder refused an Interest. -/
inductive NackReason where
  | unspecified
  | congestion
  | duplicate
  | noRoute
  /-- Any other reason. -/
  | other (code : UInt64)
  deriving DecidableEq, Repr

namespace NackReason

/-- The number of a reason on the wire. -/
def code : NackReason → UInt64
  | unspecified => 0
  | congestion => 50
  | duplicate => 100
  | noRoute => 150
  | other code => code

/-- The reason of a number. -/
def ofCode (code : UInt64) : NackReason :=
  if code = 0 then unspecified
  else if code = 50 then congestion
  else if code = 100 then duplicate
  else if code = 150 then noRoute
  else other code

/-- The name of a reason. -/
def label : NackReason → String
  | unspecified => "None"
  | congestion => "Congestion"
  | duplicate => "Duplicate"
  | noRoute => "NoRoute"
  | other code => s!"Other({code.toNat})"

end NackReason

/-- A forwarder's refusal of an Interest. -/
structure NetworkNack where
  reason : NackReason := .unspecified
  deriving DecidableEq, Repr

namespace NetworkNack

/-- The number of a reason without a name. -/
def otherCode? (nack : NetworkNack) : Option UInt64 :=
  match nack.reason with
  | .other code => some code
  | _ => none

/-- A reason's number that is negative, which no reason has. -/
structure NegativeCode where
  code : Int
  deriving DecidableEq, Repr

/-- The refusal in words. -/
def NegativeCode.message (fault : NegativeCode) : String :=
  s!"nack reason code must not be negative, got {fault.code}"

/-- The refusal for the reason of a signed number. -/
def ofSignedCode (code : Int) : Except NegativeCode NetworkNack :=
  if code < 0 then .error ⟨code⟩ else .ok ⟨.ofCode (UInt64.ofNat code.toNat)⟩

end NetworkNack

/-- How a route is inherited, a bit for each rule. -/
structure ForwardingFlags where
  bits : UInt64
  deriving DecidableEq, Repr

namespace ForwardingFlags

/-- The flags of a route of which nothing else is said. -/
def initial : ForwardingFlags := ⟨1⟩

/-- Whether longer names inherit the route. -/
def childInherit (flags : ForwardingFlags) : Bool :=
  flags.bits &&& 1 == 1

/-- Whether shorter names lose the route. -/
def capture (flags : ForwardingFlags) : Bool :=
  flags.bits &&& 2 == 2

end ForwardingFlags

/-- The parameters of a management command. -/
structure ControlParameters where
  name : Option Name := none
  faceId : Option UInt64 := none
  uri : Option String := none
  localControlFeature : Option UInt64 := none
  origin : Option UInt64 := none
  cost : Option UInt64 := none
  flags : ForwardingFlags := .initial
  strategy : Option Name := none
  expirationPeriod : Option Time.Duration := none
  deriving DecidableEq, Repr

/-- The answer to a management command. -/
structure ControlResponse where
  statusCode : UInt64
  statusText : String
  body : Option ControlParameters := none
  deriving DecidableEq, Repr

end NamedData
