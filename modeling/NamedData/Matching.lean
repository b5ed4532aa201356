import NamedData.Packet.Data
import NamedData.Packet.Interest

/-!
# Which Data answers which Interest

A packet answers an Interest if the Interest's name starts the packet's full name, which ends in the
digest of the packet, if as many components follow as the Interest admits, if the next one is not
excluded, and if the packet is signed as the Interest demands. The full name takes an encoding to
find; `matchesData` asks for it only where the answer hangs on it, in any monad that can give it.
-/

namespace NamedData.Interest

/-- Whether the Interest admits this many components after its name, the digest included. -/
def admitsSuffix (i : Interest) (length : Nat) : Bool :=
  i.minSuffixComponents.all (fun least => least.toNat ≤ length)
    && i.maxSuffixComponents.all (fun largest => length ≤ largest.toNat)

/-- Whether a Data packet of this name could answer, as far as can be told without its digest. -/
def matchesName (i : Interest) (n : Name) : Bool :=
  i.name.isPrefixOf n && i.admitsSuffix (n.length + 1 - i.name.length)
    && !(n.components[i.name.length]?.any i.exclude.contains)

/-- Whether a name ends in the digest of a packet. -/
def endsInDigest (n : Name) : Bool :=
  n.components.getLast?.any fun c => c.type == .implicitSha256Digest

/-- Whether the Interest's name starts the full name of a packet, whose length is given. -/
def startsFullName {m : Type → Type} [Monad m] (i : Interest) (d : Data) (fullLength : Nat)
    (fullName : m Name) : m Bool :=
  if i.name.length = fullLength then
    if endsInDigest i.name then return i.name == (← fullName) else return false
  else return i.name.isPrefixOf d.name

/-- Whether the component of the full name after the Interest's name is excluded. -/
def excludesNext {m : Type → Type} [Monad m] (i : Interest) (d : Data) (fullLength : Nat)
    (fullName : m Name) : m Bool :=
  if i.exclude.entries.isEmpty || fullLength ≤ i.name.length then return false
  else if i.name.length + 1 = fullLength then
    return (← fullName).components[i.name.length]?.any i.exclude.contains
  else return d.name.components[i.name.length]?.any i.exclude.contains

/-- Whether a signature is as the Interest demands. -/
def acceptsSignature (i : Interest) (s : Signature) : Bool :=
  i.keyLocator.isAbsent || s.keyLocator? == some i.keyLocator

/-- Whether a Data packet answers the Interest. -/
def matchesData {m : Type → Type} [Monad m] (i : Interest) (d : Data) (fullName : m Name) :
    m Bool := do
  let fullLength := d.name.length + 1
  if fullLength < i.name.length || !i.admitsSuffix (fullLength - i.name.length) then return false
  -- The digest is looked at only if the Interest's name is long enough to hold it.
  else if !(← i.startsFullName d fullLength fullName) then return false
  else if ← i.excludesNext d fullLength fullName then return false
  else return i.acceptsSignature d.signature

end NamedData.Interest
