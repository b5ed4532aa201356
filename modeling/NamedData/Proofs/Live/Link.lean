import NamedData.Live.Link
import NamedData.Proofs.Live.Data
import NamedData.Proofs.Wire.Recoding

/-!
# A link keeps its delegations and its content in step

A link lists its delegations twice, once as they are and once encoded in the content of its packet. The two
agree when the link is made or decoded, and each operation on the link leaves them in agreement
(`InStep.perform`): a change of the delegations writes the content anew, and nothing else changes the
content. So they agree after any run of operations (`Reachable.inStep`).
-/

namespace NamedData

open Wire (WireFormat)

/-! ## What a content lists -/

/-- The delegations are those that the content lists, up to the types of the components, or there are none
if the content is no list of delegations. Content above the size limit may list anything. -/
def DelegationSet.Lists (content : Bytes) (set : DelegationSet) : Prop :=
  content.length ≤ 8800 →
    (∀ listed, WireFormat.initial.decodeDelegations content = .ok listed → set.normalize = listed)
    ∧ ∀ e, WireFormat.initial.decodeDelegations content = .error e → set = {}

namespace DelegationSet

/-- A list of delegations is decoded in normal form. -/
theorem normalize_of_decode {content : Bytes} {set : DelegationSet}
    (h : WireFormat.initial.decodeDelegations content = .ok set) : set.normalize = set := by
  obtain ⟨bytes, hencode, hlength, hagain⟩ := Wire.recodes_delegations {} content set h
  cases hencode
  obtain ⟨-, hdecode⟩ := Wire.withinSize_eq_ok_iff.1 hagain
  obtain ⟨hsize, -⟩ := Wire.withinSize_eq_ok_iff.1 hagain
  rw [Wire.decodeDelegations_encode (Nat.lt_of_le_of_lt hsize (by decide))] at hdecode
  exact Except.ok.inj hdecode

/-- What is encoded lists what it was encoded from. -/
theorem lists_encode (set : DelegationSet) : Lists (Wire.encodeDelegations set) set := by
  intro hsize
  have hdecode : WireFormat.initial.decodeDelegations (Wire.encodeDelegations set) = .ok set.normalize :=
    Wire.withinSize_eq_ok_iff.2 ⟨hsize, Wire.decodeDelegations_encode (by simp [UInt64.size]; omega)⟩
  constructor
  · intro listed h
    rw [hdecode] at h
    exact Except.ok.inj h
  · intro e h
    rw [hdecode] at h
    cases h

/-- A name is listed if it has an entry. -/
theorem contains_iff {set : DelegationSet} {n : Name} :
    set.contains n = true ↔ ∃ d ∈ set.entries, d.name = n := by
  simp [contains]

end DelegationSet

/-! ## The meta information and the content -/

namespace LiveData

/-- What a link reads of its packet. -/
def body (d : LiveData) : MetaInfo × Bytes :=
  (d.toData.metaInfo, d.content)

variable (d : LiveData) (n : Count)

@[simp] theorem body_setName (new : LiveName) : body (setName new d n).1.2 = body d :=
  rfl

@[simp] theorem body_editSignature {ρ : Type} (e : Edit LiveSignature ρ) :
    body (editSignature e d n).1.2 = body d :=
  rfl

@[simp] theorem body_changeCount : body (changeCount d n).1.2 = body d := by
  obtain ⟨-, hmetaInfo, hcontent⟩ := settle_keeps d n
  exact Prod.ext hmetaInfo hcontent

@[simp] theorem body_wireEncode : body (wireEncode d n).1.2 = body d := by
  have hvalue := toData_wireEncode d n
  have hbody : body (wireEncode d n).1.2 = body (changeCount d n).1.2 :=
    Prod.ext (congrArg Data.metaInfo hvalue) (congrArg Data.content hvalue)
  rw [hbody, body_changeCount]

@[simp] theorem body_fullName : body (fullName d n).1.2 = body d := by
  have hpacket : (fullName d n).1.2 = (wireEncode d n).1.2 := by
    unfold fullName
    rw [bind_edit_apply]
    cases (wireEncode d n).1.1 <;> rfl
  rw [hpacket, body_wireEncode]

end LiveData

/-! ## Operations -/

namespace LiveLink

open LiveData (body)

/-- An operation on a link. -/
inductive Operation where
  | addDelegation (preference : UInt64) (n : Name)
  | removeDelegation (n : Name)
  | setName (n : LiveName)
  | editSignature (e : Edit LiveSignature Unit)
  | changeCount
  | wireEncode
  | fullName

/-- Carries out the operation. -/
def Operation.perform : Operation → Edit LiveLink Unit
  | addDelegation preference n => discard (LiveLink.addDelegation preference n)
  | removeDelegation n => discard (LiveLink.removeDelegation n)
  | setName n => LiveLink.setName n
  | editSignature e => onData (LiveData.editSignature e)
  | changeCount => onData (discard NamedData.changeCount)
  | wireEncode => discard LiveLink.wireEncode
  | fullName => onData (discard LiveData.fullName)

/-- The links that a program can come to have. Other objects may draw counts at any time. -/
inductive Reachable : LiveLink → Prop
  | make (n : Count) : Reachable (make n).1
  | withName (name : LiveName) (n : Count) : Reachable (withName name n).1
  | ofData {d : LiveData} {l : LiveLink} : ofData d = .ok l → Reachable l
  | wireDecode {input : Bytes} {l : LiveLink} (n : Count) : (wireDecode input n).1 = .ok l → Reachable l
  | perform {l : LiveLink} (op : Operation) (n : Count) : Reachable l → Reachable (op.perform l n).1.2

/-! ## Delegations and content agree -/

/-- The content is marked as a list of delegations, and lists those that the link keeps. -/
structure InStep (l : LiveLink) : Prop where
  marked : l.data.toData.metaInfo.contentType = .link
  lists : l.delegations.Lists l.data.content

variable {l : LiveLink}

/-- Nothing else of the packet matters. -/
theorem inStep_of_body {d : LiveData} {set : DelegationSet} {m : MetaInfo} {content : Bytes}
    (hbody : body d = (m, content)) (hmarked : m.contentType = .link) (hlists : set.Lists content) :
    InStep ⟨d, set⟩ := by
  cases hbody
  exact ⟨hmarked, hlists⟩

theorem InStep.of_body_eq (h : InStep l) {d : LiveData} (hbody : body d = body l.data) :
    InStep ⟨d, l.delegations⟩ :=
  inStep_of_body hbody h.marked h.lists

/-- Writing the delegations into the content always succeeds. -/
theorem encodeContent_apply (l : LiveLink) (n : Count) :
    ∃ d n', encodeContent l n = ((.ok (), ⟨d, l.delegations⟩), n')
      ∧ body d = (markAsLink l.data.toData.metaInfo, Wire.encodeDelegations l.delegations) :=
  ⟨_, _, rfl, rfl⟩

/-- It brings the two in step, whatever the content was. -/
theorem inStep_encodeContent (l : LiveLink) (n : Count) : InStep (encodeContent l n).1.2 := by
  obtain ⟨d, n', hrun, hbody⟩ := encodeContent_apply l n
  rw [hrun]
  exact inStep_of_body hbody rfl (DelegationSet.lists_encode l.delegations)

theorem addDelegation_apply (preference : UInt64) (name : Name) (l : LiveLink) (n : Count) :
    addDelegation preference name l n =
      encodeContent { l with delegations := l.delegations.insert preference name } n :=
  rfl

/-- A name that is not listed cannot be taken out, and nothing is written. -/
theorem removeDelegation_of_not_listed {name : Name} (h : l.delegations.contains name = false) (n : Count) :
    removeDelegation name l n = ((.ok false, l), n) := by
  simp [removeDelegation, bind_edit_apply, get_edit_apply, pure_edit_apply, h]

theorem removeDelegation_of_listed {name : Name} (h : l.delegations.contains name = true) (n : Count) :
    ∃ l' n', encodeContent { l with delegations := l.delegations.erase name } n = ((.ok (), l'), n')
      ∧ removeDelegation name l n = ((.ok true, l'), n') := by
  obtain ⟨d, n', hrun, -⟩ := encodeContent_apply { l with delegations := l.delegations.erase name } n
  refine ⟨_, n', hrun, ?_⟩
  simp [removeDelegation, bind_edit_apply, get_edit_apply, set_edit_apply, pure_edit_apply, h, hrun]

theorem InStep.perform (h : InStep l) (op : Operation) (n : Count) : InStep (op.perform l n).1.2 := by
  cases op with
  | addDelegation preference name =>
    exact inStep_encodeContent { l with delegations := l.delegations.insert preference name } n
  | removeDelegation name =>
    show InStep (removeDelegation name l n).1.2
    by_cases hlisted : l.delegations.contains name = true
    · obtain ⟨l', n', hwrite, hrun⟩ := removeDelegation_of_listed hlisted n
      have hstep := inStep_encodeContent { l with delegations := l.delegations.erase name } n
      rw [hwrite] at hstep
      rw [hrun]
      exact hstep
    · rw [removeDelegation_of_not_listed (by simpa using hlisted)]
      exact h
  | setName new => exact h.of_body_eq (LiveData.body_setName l.data n new)
  | editSignature e => exact h.of_body_eq (LiveData.body_editSignature l.data n e)
  | changeCount => exact h.of_body_eq (LiveData.body_changeCount l.data n)
  | wireEncode => exact h.of_body_eq (LiveData.body_wireEncode l.data n)
  | fullName => exact h.of_body_eq (LiveData.body_fullName l.data n)

/-! ## Links are made and decoded -/

theorem inStep_make (n : Count) : InStep (make n).1 := by
  refine ⟨rfl, fun _ => ⟨fun listed h => ?_, fun e h => ?_⟩⟩
  · cases h
    rfl
  · cases h

/-- The link of a packet keeps what the content lists, as it is decoded. -/
theorem InStep.ofData {d : LiveData} (h : ofData d = .ok l) : InStep l := by
  unfold LiveLink.ofData Wire.linkDelegations at h
  by_cases hlink : d.toData.metaInfo.contentType = .link
  · rw [if_pos hlink] at h
    cases hdecode : WireFormat.initial.decodeDelegations d.toData.content with
    | ok listed =>
      rw [hdecode] at h
      cases h
      refine ⟨hlink, fun _ => ⟨fun again hagain => ?_, fun e herror => ?_⟩⟩
      · rw [DelegationSet.normalize_of_decode hdecode]
        exact Except.ok.inj (hdecode.symm.trans hagain)
      · exact nomatch hdecode.symm.trans herror
    | error e =>
      rw [hdecode] at h
      cases h
      exact ⟨hlink, fun _ => ⟨fun again hagain => (nomatch hdecode.symm.trans hagain), fun _ _ => rfl⟩⟩
  · rw [if_neg hlink] at h
    cases h

/-- A decoded link is the link of the decoded packet. -/
theorem exists_ofData_of_wireDecode {input : Bytes} {n : Count} (h : (wireDecode input n).1 = .ok l) :
    ∃ d, LiveLink.ofData d = .ok l := by
  rcases hmake : LiveData.make { name := .empty } n with ⟨fresh, n₁⟩
  rcases hrun : LiveData.wireDecode input fresh n₁ with ⟨⟨result, d⟩, n₂⟩
  have hresult : (wireDecode input n).1 = match result with
      | .error e => .error e
      | .ok () => LiveLink.ofData d := by
    simp only [wireDecode, bind, StateT.bind, StateT.run, hmake, hrun]
    cases result <;> rfl
  rw [hresult] at h
  cases result with
  | error e => cases h
  | ok _ => exact ⟨d, h⟩

/-- After any run of operations the delegations and the content agree. -/
theorem Reachable.inStep (h : Reachable l) : InStep l := by
  induction h with
  | make n => exact inStep_make n
  | withName name n => exact (inStep_make n).perform (.setName name) _
  | ofData h => exact .ofData h
  | wireDecode n h =>
    obtain ⟨d, hd⟩ := exists_ofData_of_wireDecode h
    exact .ofData hd
  | perform op n _ ih => exact ih.perform op n

/-- Whatever was done to a link, its packet is marked as one, and the delegations are those that the content
lists. Adding a delegation always succeeds. Taking one out tells whether it was there, and does nothing at all
if it was not. -/
theorem link_in_step (h : Reachable l) :
    (l.data.toData.metaInfo.contentType = .link ∧ l.delegations.Lists l.data.content)
      ∧ ∀ n : Count,
        (∀ preference name, (addDelegation preference name l n).1.1 = .ok ())
        ∧ ∀ name, ∃ removed, (removeDelegation name l n).1.1 = .ok removed
          ∧ (removed = true ↔ ∃ d ∈ l.delegations.entries, d.name = name)
          ∧ (removed = false → removeDelegation name l n = ((.ok false, l), n)) := by
  refine ⟨⟨h.inStep.marked, h.inStep.lists⟩, fun n => ⟨fun preference name => ?_, fun name => ?_⟩⟩
  · obtain ⟨d, n', hrun, -⟩ :=
      encodeContent_apply { l with delegations := l.delegations.insert preference name } n
    rw [addDelegation_apply, hrun]
  · by_cases hlisted : l.delegations.contains name = true
    · obtain ⟨l', n', -, hrun⟩ := removeDelegation_of_listed hlisted n
      refine ⟨true, by rw [hrun], ?_, fun h => nomatch h⟩
      exact iff_of_true rfl (DelegationSet.contains_iff.1 hlisted)
    · have hrun := removeDelegation_of_not_listed (Bool.eq_false_iff.2 hlisted) n
      refine ⟨false, by rw [hrun], ?_, fun _ => hrun⟩
      exact iff_of_false nofun fun h => hlisted (DelegationSet.contains_iff.2 h)

/-- A link that was renamed after `/a` was added, with the code of a plain component for its type. -/
def delegated : LiveLink :=
  let l := (Operation.perform (.addDelegation 20 ⟨[⟨.other 8, [0x61]⟩]⟩) (make 0).1 10).1.2
  (Operation.perform (.setName ⟨⟨[⟨.generic, [0x62]⟩]⟩, 30⟩) l 40).1.2

theorem delegations_delegated : delegated.delegations = ⟨[⟨20, ⟨[⟨.other 8, [0x61]⟩]⟩⟩]⟩ := by
  show DelegationSet.mk (DelegationSet.sort [_]) = _
  rw [DelegationSet.sort, List.mergeSort_singleton]

theorem link_in_step_delegated :
    WireFormat.initial.decodeDelegations delegated.data.content = .ok ⟨[⟨20, ⟨[⟨.generic, [0x61]⟩]⟩⟩]⟩
      ∧ (removeDelegation ⟨[⟨.other 8, [0x61]⟩]⟩ delegated 50).1.1 = .ok true
      ∧ removeDelegation ⟨[⟨.generic, [0x61]⟩]⟩ delegated 50 = ((.ok false, delegated), 50) := by
  have hreachable : Reachable delegated := .perform _ _ (.perform _ _ (.make 0))
  obtain ⟨⟨-, hlists⟩, hoperations⟩ := link_in_step hreachable
  have hcontent : delegated.data.content = [0x1f, 0x08, 0x1e, 0x01, 0x14, 0x07, 0x03, 0x08, 0x01, 0x61] := by
    show Wire.encodeDelegations delegated.delegations = _
    rw [delegations_delegated]
    decide +kernel
  refine ⟨?_, ?_, ?_⟩
  · have hlisted := hlists (by rw [hcontent]; decide)
    rw [delegations_delegated] at hlisted
    cases hdecode : WireFormat.initial.decodeDelegations delegated.data.content with
    | ok listed =>
      rw [← hlisted.1 listed hdecode]
      rfl
    | error e => cases hlisted.2 e hdecode
  · obtain ⟨removed, hrun, hremoved, -⟩ := (hoperations 50).2 ⟨[⟨.other 8, [0x61]⟩]⟩
    rw [hrun, hremoved.2 ?_]
    rw [delegations_delegated]
    exact ⟨_, List.mem_cons_self, rfl⟩
  · obtain ⟨removed, -, hremoved, hnothing⟩ := (hoperations 50).2 ⟨[⟨.generic, [0x61]⟩]⟩
    refine hnothing ?_
    rw [delegations_delegated] at hremoved
    simpa using hremoved

end LiveLink

end NamedData
