import NamedData.Name.Component
import NamedData.Text.Numeral
import NamedData.Time.Duration

/-!
# Meta information

What a Data packet says about its content: the kind of content, how long it stays fresh, and the
last component of the final packet in a sequence.
-/

namespace NamedData

/-- The kind of a packet's content. -/
inductive ContentType where
  /-- Bytes of the application. -/
  | blob
  /-- A list of delegations. -/
  | link
  /-- A public key. -/
  | key
  /-- A refusal by the application. -/
  | nack
  /-- Any other kind. -/
  | other (code : UInt64)
  deriving DecidableEq, Repr

namespace ContentType

/-- The number of a kind of content on the wire. -/
def code : ContentType → UInt64
  | blob => 0
  | link => 1
  | key => 2
  | nack => 3
  | other code => code

/-- The kind of content of a number. -/
def ofCode (code : UInt64) : ContentType :=
  if code = 0 then blob
  else if code = 1 then link
  else if code = 2 then key
  else if code = 3 then nack
  else other code

/-- The name of a kind of content. -/
def label : ContentType → String
  | blob => "Blob"
  | link => "Link"
  | key => "Key"
  | nack => "Nack"
  | other code => s!"Other({code.toNat})"

end ContentType

/-- The meta information of a Data packet. -/
structure MetaInfo where
  contentType : ContentType := .blob
  freshnessPeriod : Option Time.Duration := none
  finalBlockId : Option Component := none
  deriving DecidableEq, Repr

end NamedData
