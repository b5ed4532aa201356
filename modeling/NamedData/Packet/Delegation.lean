import NamedData.Name.Basic

/-!
# Delegations

A delegation is a name with a preference, the smaller the better. `DelegationSet.insert` keeps one
entry a name and the entries in order of preference, then name; `push` keeps an entry as it comes,
which is how a list is read from a packet.
-/

namespace NamedData

/-- A name to reach a producer under, and how much it is preferred. -/
structure Delegation where
  preference : UInt64
  name : Name
  deriving DecidableEq, Repr

instance : Ord Delegation where
  compare a b := (compare a.preference b.preference).then (compare a.name b.name)

/-- A list of delegations. -/
structure DelegationSet where
  entries : List Delegation := []
  deriving DecidableEq, Repr

namespace DelegationSet

/-- The entries with the first one for `name` preferred as given, if there is one. -/
def setPreference (preference : UInt64) (name : Name) : List Delegation → Option (List Delegation)
  | [] => none
  | d :: rest =>
    if d.name = name then some (⟨preference, d.name⟩ :: rest)
    else (setPreference preference name rest).map (d :: ·)

/-- The entries in order. -/
def sort (entries : List Delegation) : List Delegation :=
  entries.mergeSort fun a b => (compare a b).isLE

/-- Gives a name a preference, adding the name if it has no entry, and puts the entries in order. -/
def insert (set : DelegationSet) (preference : UInt64) (name : Name) : DelegationSet :=
  ⟨sort ((setPreference preference name set.entries).getD
    (set.entries ++ [⟨preference, name⟩]))⟩

/-- Adds an entry at the end. -/
def push (set : DelegationSet) (preference : UInt64) (name : Name) : DelegationSet :=
  ⟨set.entries ++ [⟨preference, name⟩]⟩

/-- Whether a name has an entry. -/
def contains (set : DelegationSet) (name : Name) : Bool :=
  set.entries.any fun d => d.name == name

/-- Takes all entries of a name out. -/
def erase (set : DelegationSet) (name : Name) : DelegationSet :=
  ⟨set.entries.filter fun d => d.name != name⟩

/-- The index of the first entry of a name. -/
def find? (set : DelegationSet) (name : Name) : Option Nat :=
  set.entries.findIdx? fun d => d.name == name

end DelegationSet

end NamedData
