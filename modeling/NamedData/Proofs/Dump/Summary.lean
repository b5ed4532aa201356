import Mathlib.Data.List.Forall2
import NamedData.Dump.Summary
import NamedData.Proofs.Name.Canonical

/-!
# What summaries show

The lines and the JSON value of a summary say the same. A full name is shown as its text, which tells the
digest (`showsFullName_withDigest_iff`), and a delegation as its preference and the text of its name
(`listsDelegations_iff`).
-/

namespace NamedData

/-- The text of a full name tells the digest. -/
theorem Name.toUri_withDigest_inj (n : Name) {a b : Bytes} :
    (n.withDigest a).toUri = (n.withDigest b).toUri ↔ a = b := by
  refine ⟨fun h => ?_, congrArg fun digest => (n.withDigest digest).toUri⟩
  have hname : n.withDigest a = n.withDigest b := path_injective (String.ofList_injective h)
  have hlast := List.append_cancel_left (congrArg components hname)
  exact congrArg Component.value (List.singleton_inj.1 hlast)

namespace Text.Json

/-- The values of the fields with the given name. -/
def members (name : String) : Json → List Json
  | .object fields => fields.filterMap fun field => if field.1 = name.toList then some field.2 else none
  | _ => []

/-- The order in which a record has its fields does not matter for what they are. -/
theorem members_record (name : String) (fields : List (String × Json)) :
    ((record fields).members name).Perm
      (fields.filterMap fun field => if field.1 = name then some field.2 else none) := by
  rw [record, members, List.filterMap_map]
  simp only [Function.comp_def, String.toList_inj]
  exact (List.mergeSort_perm fields _).filterMap _

/-- A record has one value for a name that it gives once. -/
theorem members_record_eq {name : String} {fields : List (String × Json)} {value : Json}
    (h : fields.filterMap (fun field => if field.1 = name then some field.2 else none) = [value]) :
    (record fields).members name = [value] :=
  List.perm_singleton.1 (h ▸ members_record name fields)

theorem ofString_inj {s t : String} : ofString s = ofString t ↔ s = t := by
  rw [ofString, ofString, string.injEq, String.toList_inj]

end Text.Json

namespace Dump

open Text (Json)

/-! ## Full names -/

/-- The summary has a line and a field with the full name, and no other field of this name. -/
structure Summary.ShowsFullName (s : Summary) (full : Name) : Prop where
  line : s.lines[1]? = some ("  full name: " ++ full.toUri)
  field : s.json.members "full_name" = [.ofString full.toUri]

/-- The summary of a Data packet shows the text of one full name. -/
theorem showsFullName_iff {shown full : Name} {d : Data} :
    (ofData shown d).ShowsFullName full ↔ shown.toUri = full.toUri := by
  have hfield : (ofData shown d).json.members "full_name" = [.ofString shown.toUri] := by
    refine Json.members_record_eq ?_
    simp only [List.filterMap_cons, List.filterMap_nil, String.reduceEq, if_false, if_true]
    rfl
  constructor
  · intro h
    exact Json.ofString_inj.1 (List.singleton_inj.1 (hfield.symm.trans h.field))
  · intro h
    exact ⟨h ▸ rfl, hfield.trans (h ▸ rfl)⟩

/-- A full name of a packet is the one that is shown if and only if the digests are the same. -/
theorem showsFullName_withDigest_iff {n : Name} {a b : Bytes} {d : Data} :
    (ofData (n.withDigest a) d).ShowsFullName (n.withDigest b) ↔ a = b :=
  showsFullName_iff.trans n.toUri_withDigest_inj

/-! ## Delegations -/

/-- The line for a delegation. -/
def delegationLine (delegation : Delegation) : String :=
  s!"  {delegation.preference.toNat} " ++ delegation.name.toUri

/-- The JSON value for a delegation. -/
def delegationJson (delegation : Delegation) : Json :=
  .record
    [("preference", numberJson delegation.preference),
      ("name", nameJson delegation.name)]

/-- The summary has these delegations in this order, one a line after the first line, and in the one field
of their name. -/
structure Summary.ListsDelegations (s : Summary) (delegations : List Delegation) : Prop where
  lines : s.lines.tail = delegations.map delegationLine
  field : s.json.members "delegations" = [.array (delegations.map delegationJson)]

/-- Two delegations with the same preference and the same text for their names. -/
def ShownAlike (a b : Delegation) : Prop :=
  a.preference = b.preference ∧ a.name.toUri = b.name.toUri

theorem delegationJson_inj {a b : Delegation} : delegationJson a = delegationJson b ↔ ShownAlike a b := by
  have hpreference (d : Delegation) :
      (delegationJson d).members "preference" = [numberJson d.preference] := by
    refine Json.members_record_eq ?_
    simp only [List.filterMap_cons, List.filterMap_nil, String.reduceEq, if_false, if_true]
  have hname (d : Delegation) : (delegationJson d).members "name" = [nameJson d.name] := by
    refine Json.members_record_eq ?_
    simp only [List.filterMap_cons, List.filterMap_nil, String.reduceEq, if_false, if_true]
  constructor
  · intro h
    have hnumbers := (hpreference a).symm.trans (h ▸ hpreference b)
    have hnames := (hname a).symm.trans (h ▸ hname b)
    rw [List.singleton_inj, numberJson, numberJson, Json.number.injEq] at hnumbers
    exact ⟨UInt64.toNat_inj.1 hnumbers, Json.ofString_inj.1 (List.singleton_inj.1 hnames)⟩
  · rintro ⟨hpreference, hname⟩
    rw [delegationJson, delegationJson, hpreference, nameJson, nameJson, hname]

/-- The summary of a link lists its delegations, one for one and in their order. -/
theorem listsDelegations_iff {d : Data} {listed delegations : List Delegation} :
    (ofLink d ⟨listed⟩).ListsDelegations delegations ↔ List.Forall₂ ShownAlike listed delegations := by
  have hfield : (ofLink d ⟨listed⟩).json.members "delegations"
      = [.array (listed.map delegationJson)] := by
    refine Json.members_record_eq ?_
    simp only [List.filterMap_cons, List.filterMap_nil, String.reduceEq, if_false, if_true]
    rfl
  constructor
  · intro h
    have hitems := List.singleton_inj.1 (hfield.symm.trans h.field)
    rw [Json.array.injEq, ← List.forall₂_eq_eq_eq, List.forall₂_map_left_iff,
      List.forall₂_map_right_iff] at hitems
    exact hitems.imp fun _ _ => delegationJson_inj.1
  · intro h
    have hmap {β : Type} (f : Delegation → β) (hf : ∀ a b, ShownAlike a b → f a = f b) :
        listed.map f = delegations.map f := by
      rw [← List.forall₂_eq_eq_eq, List.forall₂_map_left_iff, List.forall₂_map_right_iff]
      exact h.imp hf
    refine ⟨hmap delegationLine ?_, hfield.trans ?_⟩
    · rintro a b ⟨hpreference, hname⟩
      rw [delegationLine, delegationLine, hpreference, hname]
    · rw [hmap delegationJson fun a b => delegationJson_inj.2]

end Dump

end NamedData
