import NamedData.Proofs.Delegation
import NamedData.Proofs.Live.Link

/-!
# Adding a delegation to a link

A name that is added gets the preference that is given if the link lists it at most once. A link that was
read from a packet may list a name more often, since reading keeps the list as it comes. Then only the
first of its entries changes, and the others stay (`addDelegation_leaves_repeated`).
-/

namespace NamedData

namespace LiveLink

open DelegationSet (ofName ofOthers)

/-- Adding a delegation to a link, whatever the link lists, always succeeds, puts the list in order and
keeps the entries of all other names. The preference that is given replaces that of the first entry of the
name. So the name has this preference and no other one if and only if it was listed at most once, and names
that were all different stay so. -/
theorem addDelegation_settles_iff (l : LiveLink) (preference : UInt64) (name : Name) (n : Count) :
    ∃ l' n', addDelegation preference name l n = ((.ok (), l'), n')
      ∧ DelegationSet.InOrder l'.delegations.entries
      ∧ (ofOthers name l'.delegations.entries).Perm (ofOthers name l.delegations.entries)
      ∧ (ofName name l'.delegations.entries).Perm
        (⟨preference, name⟩ :: (ofName name l.delegations.entries).tail)
      ∧ (ofName name l'.delegations.entries = [⟨preference, name⟩]
        ↔ (ofName name l.delegations.entries).length ≤ 1)
      ∧ ((l.delegations.entries.map Delegation.name).Nodup →
        (l'.delegations.entries.map Delegation.name).Nodup) := by
  obtain ⟨d, n', hrun, -⟩ :=
    encodeContent_apply { l with delegations := l.delegations.insert preference name } n
  have hown := DelegationSet.ofName_insert l.delegations preference name
  refine ⟨_, n', hrun, DelegationSet.inOrder_insert _ _ _, DelegationSet.ofOthers_insert _ _ _, hown, ?_,
    DelegationSet.nodup_names_insert⟩
  have hlength := hown.length_eq
  rw [List.length_cons, List.length_tail] at hlength
  constructor
  · intro hsingle
    rw [hsingle, List.length_singleton] at hlength
    omega
  · intro honce
    have htail : (ofName name l.delegations.entries).tail = [] := by
      rw [← List.length_eq_zero_iff, List.length_tail]
      omega
    rw [htail] at hown
    exact List.perm_singleton.1 hown

/-- The packet of a link that lists `/x` twice, with the preferences 1 and 2. -/
def repeatingPacket : LiveData :=
  (LiveData.make {
    name := ⟨[.generic [0x6c]]⟩
    metaInfo := { contentType := .link }
    content := [0x1f, 0x08, 0x1e, 0x01, 0x01, 0x07, 0x03, 0x08, 0x01, 0x78,
      0x1f, 0x08, 0x1e, 0x01, 0x02, 0x07, 0x03, 0x08, 0x01, 0x78] } 0).1

/-- The link of the packet. -/
def repeatingLink : LiveLink :=
  ⟨repeatingPacket, ⟨[⟨1, ⟨[.generic [0x78]]⟩⟩, ⟨2, ⟨[.generic [0x78]]⟩⟩]⟩⟩

/-- Giving `/x` the preference 5 leaves an entry that prefers it more. -/
theorem addDelegation_leaves_repeated :
    LiveLink.ofData repeatingPacket = .ok repeatingLink
      ∧ (addDelegation 5 ⟨[.generic [0x78]]⟩ repeatingLink 10).1.1 = .ok ()
      ∧ (addDelegation 5 ⟨[.generic [0x78]]⟩ repeatingLink 10).1.2.delegations
        = ⟨[⟨2, ⟨[.generic [0x78]]⟩⟩, ⟨5, ⟨[.generic [0x78]]⟩⟩]⟩ := by
  refine ⟨eq_ok_of_toOption (by decide +kernel), rfl, ?_⟩
  exact congrArg DelegationSet.mk (DelegationSet.sort_pair (by decide))

end LiveLink

end NamedData
