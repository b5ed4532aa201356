import Mathlib.Data.Finmap
import NamedData.Packet.Delegation
import NamedData.Proofs.Name.Order

/-!
# Delegations as a finite map

Inserting a name changes the first of its entries, if it has any, and leaves the entries of all other
names (`ofName_insert` and `ofOthers_insert`); this holds of any list of delegations, also of one that was
read from a packet and repeats names. A list that starts empty never comes to repeat one: after any
changes it holds for each name what a finite map from names to preferences holds after the same
changes (`represents_run`), and it is in order.
-/

namespace NamedData

/-! ## The order

Entries that have one place in the order may be two, as names may. The order is transitive and total, which
is what sorting needs.
-/

instance : Std.TransOrd Delegation :=
  inferInstanceAs (Std.TransCmp (compareLex (compareOn Delegation.preference) (compareOn Delegation.name)))

namespace DelegationSet

variable {set : DelegationSet} {preference : UInt64} {name other : Name}

/-- No entry comes behind one that is greater. -/
def InOrder (entries : List Delegation) : Prop :=
  entries.Pairwise fun d e => (compare d e).isLE = true

theorem inOrder_sort (entries : List Delegation) : InOrder (sort entries) := by
  refine List.pairwise_mergeSort (fun d e f hde hef => ?_) (fun d e => ?_) entries
  · exact Std.TransCmp.isLE_trans hde hef
  · have hswap : compare e d = (compare d e).swap := Std.OrientedCmp.eq_swap
    rw [hswap]
    cases compare d e <;> rfl

/-- Two entries change places if the first is not the lesser one. -/
theorem sort_pair {d e : Delegation} (h : (compare d e).isLE = false) : sort [d, e] = [e, d] := by
  rw [sort, List.mergeSort]
  simp [h]

/-! ## Inserting into any list -/

/-- The entries of a name. -/
def ofName (name : Name) (entries : List Delegation) : List Delegation :=
  entries.filter fun d => d.name = name

/-- The entries of all names but one. -/
def ofOthers (name : Name) (entries : List Delegation) : List Delegation :=
  entries.filter fun d => d.name ≠ name

section Cons

variable {d : Delegation} {rest : List Delegation}

theorem ofName_cons_self (h : d.name = name) : ofName name (d :: rest) = d :: ofName name rest :=
  List.filter_cons_of_pos (decide_eq_true h)

theorem ofName_cons_of_ne (h : d.name ≠ name) : ofName name (d :: rest) = ofName name rest :=
  List.filter_cons_of_neg (by simpa using h)

theorem ofOthers_cons_self (h : d.name = name) : ofOthers name (d :: rest) = ofOthers name rest :=
  List.filter_cons_of_neg (by simpa using h)

theorem ofOthers_cons_of_ne (h : d.name ≠ name) : ofOthers name (d :: rest) = d :: ofOthers name rest :=
  List.filter_cons_of_pos (decide_eq_true h)

end Cons

/-- The entries after an insertion, before they are put in order. -/
def settled (preference : UInt64) (name : Name) (entries : List Delegation) : List Delegation :=
  (setPreference preference name entries).getD (entries ++ [⟨preference, name⟩])

theorem settled_cons (d : Delegation) (rest : List Delegation) : settled preference name (d :: rest) =
    if d.name = name then ⟨preference, name⟩ :: rest else d :: settled preference name rest := by
  unfold settled
  rw [setPreference]
  by_cases hname : d.name = name
  · rw [if_pos hname, if_pos hname, hname]
    rfl
  · rw [if_neg hname, if_neg hname]
    cases setPreference preference name rest <;> rfl

theorem ofName_settled (entries : List Delegation) : ofName name (settled preference name entries) =
    ⟨preference, name⟩ :: (ofName name entries).tail := by
  induction entries with
  | nil => exact ofName_cons_self rfl
  | cons d rest ih =>
    rw [settled_cons]
    by_cases hname : d.name = name
    · have hfirst : (Delegation.mk preference name).name = name := rfl
      rw [if_pos hname, ofName_cons_self hfirst, ofName_cons_self hname, List.tail_cons]
    · rw [if_neg hname, ofName_cons_of_ne hname, ofName_cons_of_ne hname, ih]

theorem ofOthers_settled (entries : List Delegation) :
    ofOthers name (settled preference name entries) = ofOthers name entries := by
  induction entries with
  | nil => exact ofOthers_cons_self rfl
  | cons d rest ih =>
    rw [settled_cons]
    by_cases hname : d.name = name
    · have hfirst : (Delegation.mk preference name).name = name := rfl
      rw [if_pos hname, ofOthers_cons_self hfirst, ofOthers_cons_self hname]
    · rw [if_neg hname, ofOthers_cons_of_ne hname, ofOthers_cons_of_ne hname, ih]

theorem insert_perm (set : DelegationSet) (preference : UInt64) (name : Name) :
    (set.insert preference name).entries.Perm (settled preference name set.entries) :=
  List.mergeSort_perm _ _

theorem inOrder_insert (set : DelegationSet) (preference : UInt64) (name : Name) :
    InOrder (set.insert preference name).entries :=
  inOrder_sort _

/-- The preference that is given replaces that of the first entry of the name, if there is one; any
others stay. -/
theorem ofName_insert (set : DelegationSet) (preference : UInt64) (name : Name) :
    (ofName name (set.insert preference name).entries).Perm
      (⟨preference, name⟩ :: (ofName name set.entries).tail) := by
  rw [← ofName_settled]
  exact (insert_perm set preference name).filter _

theorem ofOthers_insert (set : DelegationSet) (preference : UInt64) (name : Name) :
    (ofOthers name (set.insert preference name).entries).Perm (ofOthers name set.entries) := by
  rw [← ofOthers_settled set.entries]
  exact (insert_perm set preference name).filter _

/-- The entries of a name are among those of all names but another one. -/
theorem ofName_ofOthers (hne : other ≠ name) (entries : List Delegation) :
    ofName other (ofOthers name entries) = ofName other entries := by
  rw [ofName, ofOthers, List.filter_filter]
  refine List.filter_congr fun d _ => ?_
  by_cases hother : d.name = other
  · simp [hother, hne]
  · simp [hother]

theorem ofName_insert_of_ne (hne : other ≠ name) :
    (ofName other (set.insert preference name).entries).Perm (ofName other set.entries) := by
  rw [← ofName_ofOthers hne, ← ofName_ofOthers hne set.entries]
  exact (ofOthers_insert set preference name).filter _

/-- Names are all different if each has at most one entry. -/
theorem nodup_names_iff {entries : List Delegation} :
    (entries.map Delegation.name).Nodup ↔ ∀ name, (ofName name entries).length ≤ 1 := by
  rw [List.nodup_iff_count_le_one]
  refine forall_congr' fun name => ?_
  rw [List.count, List.countP_map, List.countP_eq_length_filter]
  rfl

theorem nodup_names_insert (h : (set.entries.map Delegation.name).Nodup) :
    ((set.insert preference name).entries.map Delegation.name).Nodup := by
  rw [nodup_names_iff] at h ⊢
  intro other
  have hle := h other
  by_cases heq : other = name
  · subst heq
    have hlength := (ofName_insert set preference other).length_eq
    rw [List.length_cons, List.length_tail] at hlength
    omega
  · rw [(ofName_insert_of_ne heq).length_eq]
    exact hle

/-! ## Erasing -/

theorem ofName_erase : ofName name (set.erase name).entries = [] := by
  simp [ofName, erase, List.filter_filter]

theorem ofName_erase_of_ne (hne : other ≠ name) :
    ofName other (set.erase name).entries = ofName other set.entries := by
  have herase : (set.erase name).entries = ofOthers name set.entries :=
    List.filter_congr fun d _ => by simp [bne, BEq.beq]
  rw [herase, ofName_ofOthers hne]

theorem inOrder_erase (h : InOrder set.entries) : InOrder (set.erase name).entries :=
  h.filter _

/-- Erasing shows in the length of the list if and only if the name was there. -/
theorem contains_iff_erase_shorter :
    set.contains name = true ↔ (set.erase name).entries.length ≠ set.entries.length := by
  rw [contains, erase, ne_eq, List.length_filter_eq_length_iff, List.any_eq_true]
  simp

/-! ## The finite map -/

/-- A change of a list of delegations. -/
inductive Change where
  | insert (preference : UInt64) (name : Name)
  | erase (name : Name)
  | clear

/-- Changes the list. -/
def Change.apply : Change → DelegationSet → DelegationSet
  | insert preference name, set => set.insert preference name
  | erase name, set => set.erase name
  | clear, _ => {}

/-- Changes the preferences of names. -/
def Change.applyToMap : Change → (Finmap fun _ : Name => UInt64) → Finmap fun _ : Name => UInt64
  | insert preference name, map => map.insert name preference
  | erase name, map => map.erase name
  | clear, _ => ∅

/-- The list after some changes of the empty one. -/
def run (changes : List Change) : DelegationSet :=
  changes.foldl (fun set change => change.apply set) {}

/-- The preferences after some changes when no name had one. -/
def runOnMap (changes : List Change) : Finmap fun _ : Name => UInt64 :=
  changes.foldl (fun map change => change.applyToMap map) ∅

variable {map : Finmap fun _ : Name => UInt64}

/-- Each name has one entry with its preference in the map, or none. The entries are in order. -/
structure Represents (set : DelegationSet) (map : Finmap fun _ : Name => UInt64) : Prop where
  ofName_eq : ∀ name, ofName name set.entries =
    (map.lookup name).toList.map fun preference => ⟨preference, name⟩
  inOrder : InOrder set.entries

theorem represents_empty : Represents {} ∅ := by
  refine ⟨fun name => ?_, List.Pairwise.nil⟩
  rw [Finmap.lookup_empty]
  rfl

theorem Represents.insert (h : Represents set map) (preference : UInt64) (name : Name) :
    Represents (set.insert preference name) (map.insert name preference) := by
  refine ⟨fun other => ?_, inOrder_insert set preference name⟩
  by_cases heq : other = name
  · subst heq
    have hperm := ofName_insert set preference other
    have htail : (ofName other set.entries).tail = [] := by
      rw [h.ofName_eq]
      cases map.lookup other <;> rfl
    rw [htail, List.perm_singleton] at hperm
    rw [hperm, Finmap.lookup_insert]
    rfl
  · have hperm : (ofName other (set.insert preference name).entries).Perm (ofName other set.entries) :=
      ofName_insert_of_ne heq
    rw [Finmap.lookup_insert_of_ne _ heq]
    rw [h.ofName_eq] at hperm
    cases hlookup : map.lookup other with
    | none =>
      rw [hlookup] at hperm
      exact hperm.eq_nil
    | some old =>
      rw [hlookup] at hperm
      exact List.perm_singleton.1 hperm

theorem Represents.erase (h : Represents set map) (name : Name) :
    Represents (set.erase name) (map.erase name) := by
  refine ⟨fun other => ?_, inOrder_erase h.inOrder⟩
  by_cases heq : other = name
  · subst heq
    rw [ofName_erase, Finmap.lookup_erase]
    rfl
  · rw [ofName_erase_of_ne heq, Finmap.lookup_erase_ne heq, h.ofName_eq]

theorem Represents.apply (h : Represents set map) (change : Change) :
    Represents (change.apply set) (change.applyToMap map) := by
  cases change with
  | insert preference name => exact h.insert preference name
  | erase name => exact h.erase name
  | clear => exact represents_empty

theorem represents_run (changes : List Change) : Represents (run changes) (runOnMap changes) := by
  suffices hrun : ∀ set map, Represents set map →
      Represents (changes.foldl (fun set change => change.apply set) set)
        (changes.foldl (fun map change => change.applyToMap map) map) from
    hrun _ _ represents_empty
  induction changes with
  | nil => exact fun set map h => h
  | cons change rest ih => exact fun set map h => ih _ _ (h.apply change)

/-! ## What the list says -/

namespace Represents

theorem mem_iff (h : Represents set map) :
    ⟨preference, name⟩ ∈ set.entries ↔ map.lookup name = some preference := by
  have hmem : ⟨preference, name⟩ ∈ set.entries ↔ ⟨preference, name⟩ ∈ ofName name set.entries := by
    simp [ofName]
  rw [hmem, h.ofName_eq]
  simp

theorem nodup_names (h : Represents set map) : (set.entries.map Delegation.name).Nodup := by
  rw [nodup_names_iff]
  intro name
  rw [h.ofName_eq]
  cases map.lookup name <;> simp

/-- Nothing is lost and nothing is there twice. -/
theorem coe_entries (h : Represents set map) :
    (↑(set.entries.map fun d => (⟨d.name, d.preference⟩ : Σ _ : Name, UInt64)) : Multiset _)
      = map.entries := by
  have hnodup : (set.entries.map fun d => (⟨d.name, d.preference⟩ : Σ _ : Name, UInt64)).Nodup := by
    refine List.Nodup.of_map Sigma.fst ?_
    rw [List.map_map]
    exact h.nodup_names
  refine (Multiset.Nodup.ext (Multiset.coe_nodup.2 hnodup) map.nodup_entries).2 ?_
  rintro ⟨name, preference⟩
  rw [← Finmap.mem_lookup_iff, Option.mem_def, ← h.mem_iff, Multiset.mem_coe, List.mem_map]
  constructor
  · rintro ⟨d, hd, ⟨⟩⟩
    exact hd
  · intro hd
    exact ⟨_, hd, rfl⟩

theorem contains_iff (h : Represents set map) : set.contains name = true ↔ name ∈ map := by
  rw [Finmap.mem_iff, contains, List.any_eq_true]
  simp only [beq_iff_eq, ← h.mem_iff]
  constructor
  · rintro ⟨d, hd, rfl⟩
    exact ⟨d.preference, hd⟩
  · rintro ⟨preference, hd⟩
    exact ⟨_, hd, rfl⟩

/-- A name is found where its entry is. -/
theorem find?_eq_some_iff (h : Represents set map) {i : Nat} : set.find? name = some i ↔
    ∃ preference, map.lookup name = some preference ∧ set.entries[i]? = some ⟨preference, name⟩ := by
  rw [find?, List.findIdx?_eq_some_iff_getElem]
  constructor
  · rintro ⟨hi, hname, -⟩
    have hentry : set.entries[i] = ⟨set.entries[i].preference, name⟩ := by
      rw [← beq_iff_eq.1 hname]
    refine ⟨set.entries[i].preference, h.mem_iff.1 ?_, ?_⟩
    · rw [← hentry]
      exact List.getElem_mem hi
    · rw [← hentry]
      exact List.getElem?_eq_getElem hi
  · rintro ⟨preference, -, hentry⟩
    obtain ⟨hi, hentry⟩ := List.getElem?_eq_some_iff.1 hentry
    refine ⟨hi, by rw [hentry]; exact beq_self_eq_true name, fun j hj hfirst => ?_⟩
    -- an entry of the name in front of this one would be a second one
    have hother := List.pairwise_iff_getElem.1 (List.pairwise_map.1 h.nodup_names) j i (by omega) hi hj
    rw [hentry] at hother
    exact hother (beq_iff_eq.1 hfirst)

theorem exists_find?_iff (h : Represents set map) : (∃ i, set.find? name = some i) ↔ name ∈ map := by
  rw [Finmap.mem_iff]
  constructor
  · rintro ⟨i, hi⟩
    obtain ⟨preference, hlookup, -⟩ := h.find?_eq_some_iff.1 hi
    exact ⟨preference, hlookup⟩
  · rintro ⟨preference, hlookup⟩
    obtain ⟨i, hi⟩ := List.getElem?_of_mem (h.mem_iff.2 hlookup)
    exact ⟨i, h.find?_eq_some_iff.2 ⟨preference, hlookup, hi⟩⟩

end Represents

/-- After any changes of the empty list its entries are the pairs of the finite map that the same changes
make, each once, in order of preference and name. A name is there, and is erased, if and only if it is in
the map, and then it is found where its entry is. -/
theorem run_isFiniteMap (changes : List Change) :
    (↑((run changes).entries.map fun d => (⟨d.name, d.preference⟩ : Σ _ : Name, UInt64)) : Multiset _)
        = (runOnMap changes).entries
      ∧ ((run changes).entries.map Delegation.name).Nodup
      ∧ InOrder (run changes).entries
      ∧ ∀ name,
        ((run changes).contains name = true ↔ name ∈ runOnMap changes)
        ∧ (((run changes).erase name).entries.length ≠ (run changes).entries.length
          ↔ name ∈ runOnMap changes)
        ∧ ((∃ i, (run changes).find? name = some i) ↔ name ∈ runOnMap changes)
        ∧ ∀ i, (run changes).find? name = some i ↔ ∃ preference,
          (runOnMap changes).lookup name = some preference
            ∧ (run changes).entries[i]? = some ⟨preference, name⟩ := by
  have h := represents_run changes
  refine ⟨h.coe_entries, h.nodup_names, h.inOrder, fun name => ⟨h.contains_iff, ?_, h.exists_find?_iff,
    fun i => h.find?_eq_some_iff⟩⟩
  rw [← contains_iff_erase_shorter]
  exact h.contains_iff

end DelegationSet

end NamedData
