import NamedData.Live.Signature
import NamedData.Proofs.Live.KeyLocator

/-!
# Changes of signatures

A signature keeps the contract of asking for a count; depending on the scheme, its key locator and
its validity period can have changes to take up. Each change of it in place keeps the contract of
such changes, where a change of a part that the scheme does not have fails.
-/

namespace NamedData.LiveSignature

open Observed

/-- Every count in a scheme has been drawn. -/
def Scheme.Drawn (n : Count) : Scheme → Prop
  | .hmacWithSha256 k => Observed.Drawn n k
  | .sha256WithRsa k period | .sha256WithEcdsa k period => Observed.Drawn n (k, period)
  | .digestSha256 | .generic _ _ => True

/-- A scheme has no change to take up. -/
def Scheme.Settled : Scheme → Prop
  | .hmacWithSha256 k => Observed.Settled k
  | .sha256WithRsa k period | .sha256WithEcdsa k period => Observed.Settled (k, period)
  | .digestSha256 | .generic _ _ => True

theorem Scheme.drawn_mono {n n' : Count} {scheme : Scheme} (hle : n ≤ n') (h : scheme.Drawn n) :
    scheme.Drawn n' := by
  cases scheme with
  | hmacWithSha256 k => exact Observed.drawn_mono (a := k) hle h
  | sha256WithRsa k period => exact Observed.drawn_mono (a := (k, period)) hle h
  | sha256WithEcdsa k period => exact Observed.drawn_mono (a := (k, period)) hle h
  | digestSha256 | generic => trivial

instance : Observed LiveSignature Signature where
  value := toSignature
  Drawn n s := s.scheme.Drawn n ∧ s.count < n
  Settled s := s.scheme.Settled
  drawn_mono hle h := ⟨Scheme.drawn_mono hle h.1, Nat.lt_of_lt_of_le h.2 hle⟩

/-! ## Asking for the count -/

/-- A signature with a key locator looks at it, and draws a count if it has changed. -/
theorem settle_hmac_apply (bytes : Bytes) (k : Tracked LiveKeyLocator) (count n : Count) :
    ChangeCounted.settle (⟨bytes, .hmacWithSha256 k, count⟩ : LiveSignature) n =
      (((), ⟨bytes, .hmacWithSha256 (Tracked.check k n).1.2,
          if (Tracked.check k n).1.1 then (Tracked.check k n).2 else count⟩),
        if (Tracked.check k n).1.1 then (Tracked.check k n).2 + 1 else (Tracked.check k n).2) := by
  show (ite (some (Tracked.check k n).1.1 = some true ∨ (none : Option Bool) = some true) touch
    (pure ()) : Edit LiveSignature Unit) _ _ = _
  rw [ite_edit_apply]
  cases (Tracked.check k n).1.1 <;> rfl

/-- A signature with both parts looks at them in turn, and draws a count if any has changed. -/
theorem settle_both_apply {scheme : Tracked LiveKeyLocator → Tracked LiveValidityPeriod → Scheme}
    (hscheme : scheme = .sha256WithRsa ∨ scheme = .sha256WithEcdsa) (bytes : Bytes)
    (p : Tracked LiveKeyLocator × Tracked LiveValidityPeriod) (count n : Count) :
    ChangeCounted.settle (⟨bytes, scheme p.1 p.2, count⟩ : LiveSignature) n =
      (((), ⟨bytes, scheme (Checkable.check p n).1.2.1 (Checkable.check p n).1.2.2,
          if (Checkable.check p n).1.1 then (Checkable.check p n).2 else count⟩),
        if (Checkable.check p n).1.1 then (Checkable.check p n).2 + 1
        else (Checkable.check p n).2) := by
  obtain ⟨k, period⟩ := p
  have hrun : ChangeCounted.settle (⟨bytes, scheme k period, count⟩ : LiveSignature) n =
      (ite (some (Checkable.check k n).1.1 = some true
          ∨ some (Checkable.check period (Checkable.check k n).2).1.1 = some true) touch (pure ()) :
        Edit LiveSignature Unit)
        ⟨bytes, scheme (Checkable.check k n).1.2 (Checkable.check period (Checkable.check k n).2).1.2,
          count⟩ (Checkable.check period (Checkable.check k n).2).2 := by
    rcases hscheme with rfl | rfl <;> rfl
  rw [hrun, ite_edit_apply, check_prod_apply]
  cases (Checkable.check k n).1.1 <;>
    cases (Checkable.check period (Checkable.check k n).2).1.1 <;> rfl

/-- A scheme with both parts keeps the contract of asking for a count. -/
private theorem looked_both {scheme : Tracked LiveKeyLocator → Tracked LiveValidityPeriod → Scheme}
    (hscheme : scheme = .sha256WithRsa ∨ scheme = .sha256WithEcdsa) {bytes : Bytes}
    {p : Tracked LiveKeyLocator × Tracked LiveValidityPeriod} {count n : Count}
    (hdrawn : Drawn n p) (hcount : count < n) :
    Looked n (⟨bytes, scheme p.1 p.2, count⟩ : LiveSignature)
      (ChangeCounted.settle (⟨bytes, scheme p.1 p.2, count⟩ : LiveSignature) n).2
      (ChangeCounted.settle (⟨bytes, scheme p.1 p.2, count⟩ : LiveSignature) n).1.2 := by
  let make (p : Tracked LiveKeyLocator × Tracked LiveValidityPeriod) (count : Count) :
      LiveSignature := ⟨bytes, scheme p.1 p.2, count⟩
  have hmake : ∀ n p c, Drawn n p → c < n → Drawn n (make p c) := by
    intro n p c hp hc
    rcases hscheme with rfl | rfl <;> exact ⟨hp, hc⟩
  rw [settle_both_apply hscheme]
  refine Looked.ofChecked make ?_ hmake ?_ ?_ (hmake _ _ _ hdrawn hcount)
    (LawfulCheckable.checked hdrawn)
  · intro p c
    rcases hscheme with rfl | rfl <;> exact Iff.rfl
  · intro p p' c c' hvalue
    rcases hscheme with rfl | rfl
    · exact congrArg (fun v : KeyLocator × ValidityPeriod => Signature.sha256WithRsa bytes v.1 v.2)
        hvalue
    · exact congrArg
        (fun v : KeyLocator × ValidityPeriod => Signature.sha256WithEcdsa bytes v.1 v.2) hvalue
  · exact fun _ _ => rfl

/-- A scheme with both parts that is asked later draws later counts. -/
private theorem settle_both_le {scheme : Tracked LiveKeyLocator → Tracked LiveValidityPeriod → Scheme}
    (hscheme : scheme = .sha256WithRsa ∨ scheme = .sha256WithEcdsa) {bytes : Bytes}
    {p : Tracked LiveKeyLocator × Tracked LiveValidityPeriod} {count n m : Count} (hle : n ≤ m)
    (hdrawn : Drawn n p) :
    (ChangeCounted.settle (⟨bytes, scheme p.1 p.2, count⟩ : LiveSignature) n).2
      ≤ (ChangeCounted.settle (⟨bytes, scheme p.1 p.2, count⟩ : LiveSignature) m).2 := by
  rw [settle_both_apply hscheme, settle_both_apply hscheme]
  exact draw_le_draw (LawfulCheckable.check_le hle hdrawn)

instance : LawfulObserved LiveSignature Signature where
  count_le h := Nat.le_of_lt h.2
  looked {n s} hdrawn := by
    obtain ⟨bytes, scheme, count⟩ := s
    cases scheme with
    | digestSha256 | generic => exact .ofSettled hdrawn trivial
    | hmacWithSha256 k =>
      rw [settle_hmac_apply]
      let make (k : Tracked LiveKeyLocator) (count : Count) : LiveSignature :=
        ⟨bytes, .hmacWithSha256 k, count⟩
      refine Looked.ofChecked make ?_ ?_ ?_ ?_ hdrawn (Tracked.check_checked hdrawn.1)
      · exact fun _ _ => Iff.rfl
      · exact fun _ _ _ hk hcount => ⟨hk, hcount⟩
      · exact fun _ _ _ _ hvalue => congrArg (Signature.hmacWithSha256 bytes) hvalue
      · exact fun _ _ => rfl
    | sha256WithRsa k period => exact looked_both (p := (k, period)) (.inl rfl) hdrawn.1 hdrawn.2
    | sha256WithEcdsa k period => exact looked_both (p := (k, period)) (.inr rfl) hdrawn.1 hdrawn.2
  settle_le {n m s} hle hdrawn := by
    obtain ⟨bytes, scheme, count⟩ := s
    cases scheme with
    | digestSha256 | generic => exact hle
    | hmacWithSha256 k =>
      rw [settle_hmac_apply, settle_hmac_apply]
      exact draw_le_draw (LawfulCheckable.check_le hle hdrawn.1)
    | sha256WithRsa k period => exact settle_both_le (p := (k, period)) (.inl rfl) hle hdrawn.1
    | sha256WithEcdsa k period => exact settle_both_le (p := (k, period)) (.inr rfl) hle hdrawn.1

/-! ## Making -/

/-- A signature is made by making the parts of its scheme and drawing a count of its own. -/
private theorem made_of_parts {τ W : Type} [Observed τ W] {n n₁ : Count} {w : W} {p : τ}
    {s : Signature} {a : LiveSignature} (h : Made n w n₁ p) (hdrawn : Drawn n₁ p → a.scheme.Drawn n₁)
    (hsettled : Settled p → a.scheme.Settled) (hvalue : value p = w → a.toSignature = s)
    (hcount : a.count = n₁) : Made n s (n₁ + 1) a where
  lt := Nat.lt_succ_of_lt h.lt
  drawn := ⟨Scheme.drawn_mono (Nat.le_succ n₁) (hdrawn h.drawn), hcount ▸ Nat.lt_succ_self n₁⟩
  settled := hsettled h.settled
  value_eq := hvalue h.value_eq

theorem made (s : Signature) (n : Count) : Made n s (make s n).2 (make s n).1 := by
  have hboth : ∀ k period, Made n (k, period) (makeValidity period (makeKeyLocator k n).2).2
      ((makeKeyLocator k n).1, (makeValidity period (makeKeyLocator k n).2).1) :=
    fun k period => (Tracked.made_of_made (LiveKeyLocator.made k n)).prod
      (Tracked.made_of_made (Stamped.made period _))
  cases s with
  | digestSha256 | generic =>
    exact ⟨Nat.lt_succ_self n, ⟨trivial, Nat.lt_succ_self n⟩, trivial, rfl⟩
  | hmacWithSha256 bytes k =>
    exact made_of_parts (Tracked.made_of_made (LiveKeyLocator.made k n)) id id
      (fun h => congrArg (Signature.hmacWithSha256 bytes) h) rfl
  | sha256WithRsa bytes k period =>
    exact made_of_parts (hboth k period) id id (fun h => congrArg
      (fun v : KeyLocator × ValidityPeriod => Signature.sha256WithRsa bytes v.1 v.2) h) rfl
  | sha256WithEcdsa bytes k period =>
    exact made_of_parts (hboth k period) id id (fun h => congrArg
      (fun v : KeyLocator × ValidityPeriod => Signature.sha256WithEcdsa bytes v.1 v.2) h) rfl

/-! ## Parts that a scheme may have -/

/-- The key locator of a scheme. -/
def Scheme.keyLocator? : Scheme → Option (Tracked LiveKeyLocator)
  | .hmacWithSha256 k | .sha256WithRsa k _ | .sha256WithEcdsa k _ => some k
  | .digestSha256 | .generic _ _ => none

/-- A scheme with another key locator in the place of the one it has. -/
def Scheme.withKeyLocator (k : Tracked LiveKeyLocator) : Scheme → Scheme
  | .hmacWithSha256 _ => .hmacWithSha256 k
  | .sha256WithRsa _ period => .sha256WithRsa k period
  | .sha256WithEcdsa _ period => .sha256WithEcdsa k period
  | .digestSha256 => .digestSha256
  | .generic info typeCode => .generic info typeCode

/-- The validity period of a scheme. -/
def Scheme.validity? : Scheme → Option (Tracked LiveValidityPeriod)
  | .sha256WithRsa _ period | .sha256WithEcdsa _ period => some period
  | .digestSha256 | .hmacWithSha256 _ | .generic _ _ => none

/-- A scheme with another validity period in the place of the one it has. -/
def Scheme.withValidity (period : Tracked LiveValidityPeriod) : Scheme → Scheme
  | .sha256WithRsa k _ => .sha256WithRsa k period
  | .sha256WithEcdsa k _ => .sha256WithEcdsa k period
  | .digestSha256 => .digestSha256
  | .hmacWithSha256 k => .hmacWithSha256 k
  | .generic info typeCode => .generic info typeCode

/-- A part that only some schemes have, and how it is reached. -/
structure Slot (α V : Type) [ChangeCounted α] [Observed α V] where
  part? : Scheme → Option (Tracked α)
  withPart : Tracked α → Scheme → Scheme
  /-- Changes the part, if the scheme has one. -/
  onPart {ρ : Type} : Edit (Tracked α) ρ → Edit LiveSignature (Option ρ)
  onPart_none {ρ : Type} (e : Edit (Tracked α) ρ) {n : Count} {s : LiveSignature}
    (h : part? s.scheme = none) : onPart e s n = ((none, s), n)
  onPart_some {ρ : Type} (e : Edit (Tracked α) ρ) {n : Count} {s : LiveSignature} {t : Tracked α}
    (h : part? s.scheme = some t) :
    onPart e s n = ((some (e t n).1.1, { s with scheme := withPart (e t n).1.2 s.scheme }), (e t n).2)
  drawn_part {n : Count} {scheme : Scheme} {t : Tracked α} (h : scheme.Drawn n)
    (ht : part? scheme = some t) : Observed.Drawn n t
  drawn_withPart {n n' : Count} {scheme : Scheme} {t : Tracked α} (h : scheme.Drawn n)
    (hle : n ≤ n') (ht : Observed.Drawn n' t) : (withPart t scheme).Drawn n'
  not_settled_withPart {scheme : Scheme} {t t' : Tracked α} (ht : part? scheme = some t)
    (h : ¬ Observed.Settled t') : ¬ (withPart t' scheme).Settled
  withPart_self {scheme : Scheme} {t : Tracked α} (ht : part? scheme = some t) :
    withPart t scheme = scheme

/-- The key locator. -/
def keyLocatorSlot : Slot LiveKeyLocator KeyLocator where
  part? := Scheme.keyLocator?
  withPart := Scheme.withKeyLocator
  onPart := onKeyLocator
  onPart_none _ _ s h := by
    obtain ⟨bytes, scheme, count⟩ := s
    cases scheme with
    | digestSha256 | generic => rfl
    | hmacWithSha256 | sha256WithRsa | sha256WithEcdsa => cases h
  onPart_some _ _ s _ h := by
    obtain ⟨bytes, scheme, count⟩ := s
    cases scheme with
    | digestSha256 | generic => cases h
    | hmacWithSha256 | sha256WithRsa | sha256WithEcdsa =>
      cases h
      rfl
  drawn_part {_ scheme _} h ht := by
    cases scheme with
    | digestSha256 | generic => cases ht
    | hmacWithSha256 =>
      cases ht
      exact h
    | sha256WithRsa | sha256WithEcdsa =>
      cases ht
      exact h.1
  drawn_withPart {_ _ scheme _} h hle ht := by
    cases scheme with
    | digestSha256 | generic => trivial
    | hmacWithSha256 => exact ht
    | sha256WithRsa | sha256WithEcdsa => exact ⟨ht, Observed.drawn_mono hle h.2⟩
  not_settled_withPart {scheme _ _} ht h := by
    cases scheme with
    | digestSha256 | generic => cases ht
    | hmacWithSha256 => exact h
    | sha256WithRsa | sha256WithEcdsa => exact fun hs => h hs.1
  withPart_self {scheme _} ht := by
    cases scheme with
    | digestSha256 | generic => rfl
    | hmacWithSha256 | sha256WithRsa | sha256WithEcdsa =>
      cases ht
      rfl

/-- The validity period. -/
def validitySlot : Slot LiveValidityPeriod ValidityPeriod where
  part? := Scheme.validity?
  withPart := Scheme.withValidity
  onPart := onValidity
  onPart_none _ _ s h := by
    obtain ⟨bytes, scheme, count⟩ := s
    cases scheme with
    | digestSha256 | hmacWithSha256 | generic => rfl
    | sha256WithRsa | sha256WithEcdsa => cases h
  onPart_some _ _ s _ h := by
    obtain ⟨bytes, scheme, count⟩ := s
    cases scheme with
    | digestSha256 | hmacWithSha256 | generic => cases h
    | sha256WithRsa | sha256WithEcdsa =>
      cases h
      rfl
  drawn_part {_ scheme _} h ht := by
    cases scheme with
    | digestSha256 | hmacWithSha256 | generic => cases ht
    | sha256WithRsa | sha256WithEcdsa =>
      cases ht
      exact h.2
  drawn_withPart {_ _ scheme _} h hle ht := by
    cases scheme with
    | digestSha256 | generic => trivial
    | hmacWithSha256 => exact Observed.drawn_mono hle h
    | sha256WithRsa | sha256WithEcdsa => exact ⟨Observed.drawn_mono hle h.1, ht⟩
  not_settled_withPart {scheme _ _} ht h := by
    cases scheme with
    | digestSha256 | hmacWithSha256 | generic => cases ht
    | sha256WithRsa | sha256WithEcdsa => exact fun hs => h hs.2
  withPart_self {scheme _} ht := by
    cases scheme with
    | digestSha256 | hmacWithSha256 | generic => rfl
    | sha256WithRsa | sha256WithEcdsa =>
      cases ht
      rfl

namespace Slot

variable {α V : Type} [ChangeCounted α] [Observed α V]

/-- Puts another part in the place, if the scheme has one. -/
def put (slot : Slot α V) (part : α) : Edit LiveSignature (Option Unit) := do
  match ← slot.onPart (Tracked.replace part) with
  | none => return none
  | some () => some <$> touch

variable {n seen : Count} {s : LiveSignature} (slot : Slot α V)

/-- Another part in the place comes with a count of the signature's own. -/
theorem changed_put [LawfulObserved α V] {new : α} (hdrawn : Drawn n s) (hseen : seen < n)
    (hnew : Drawn n new) :
    Changed seen n s (slot.put new s n).1.1.isSome (slot.put new s n).2 (slot.put new s n).1.2 := by
  simp only [put, bind_edit_apply]
  cases ht : slot.part? s.scheme with
  | none =>
    rw [slot.onPart_none _ ht]
    exact .failed hdrawn
  | some t =>
    have hmade := Tracked.made (a := new) hnew
    have hle := Nat.le_of_lt hmade.lt
    have hscheme := slot.drawn_withPart hdrawn.1 hle hmade.drawn
    rw [slot.onPart_some _ ht]
    exact .ofNoticeable (Nat.le_succ_of_le hle)
      ⟨Scheme.drawn_mono (Nat.le_succ _) hscheme, Nat.lt_succ_self _⟩ (noticeable_of_le hseen hle)

/-- A change of the part in place is one of the signature, whose own count stays. -/
theorem edited {e : Edit α Bool} (hdrawn : Drawn n s)
    (hpart : ∀ t, slot.part? s.scheme = some t → Drawn n t →
      Edited n t.part (e t.part n).1.1 (e t.part n).2 (e t.part n).1.2) :
    Edited n s ((slot.onPart (Tracked.edit e) s n).1.1.getD false)
      (slot.onPart (Tracked.edit e) s n).2 (slot.onPart (Tracked.edit e) s n).1.2 := by
  cases ht : slot.part? s.scheme with
  | none =>
    rw [slot.onPart_none _ ht]
    exact .failed hdrawn
  | some t =>
    have hold := slot.drawn_part hdrawn.1 ht
    obtain ⟨hle, htracked, hkept⟩ := Tracked.edited hold (hpart t ht hold)
    rw [slot.onPart_some _ ht]
    exact
      { le := hle
        drawn := ⟨slot.drawn_withPart hdrawn.1 hle htracked, Nat.lt_of_lt_of_le hdrawn.2 hle⟩
        kept := fun h => congrArg (LiveSignature.mk s.bytes · s.count)
          ((congrArg (slot.withPart · s.scheme) (hkept h)).trans (slot.withPart_self ht)) }

/-- It unsettles the signature if it unsettles the part. -/
theorem changed_edit {e : Edit α Bool} (hdrawn : Drawn n s)
    (hpart : ∀ t, slot.part? s.scheme = some t → Drawn n t →
      Changed t.seen n t.part (e t.part n).1.1 (e t.part n).2 (e t.part n).1.2) :
    Changed seen n s ((slot.onPart (Tracked.edit e) s n).1.1.getD false)
      (slot.onPart (Tracked.edit e) s n).2 (slot.onPart (Tracked.edit e) s n).1.2 := by
  refine ⟨slot.edited hdrawn fun t ht hold => (hpart t ht hold).toEdited, ?_⟩
  cases ht : slot.part? s.scheme with
  | none =>
    rw [slot.onPart_none _ ht]
    exact fun hdone => nomatch hdone
  | some t =>
    have hchanged := hpart t ht (slot.drawn_part hdrawn.1 ht)
    rw [slot.onPart_some _ ht]
    exact fun hdone => noticeable_of_not_settled
      (slot.not_settled_withPart ht (Tracked.unsettled hchanged hdone))

end Slot

/-! ## Changes in place -/

/-- A change of a signature in place. -/
inductive Change where
  | setBytes (bytes : Bytes)
  /-- Another description, for schemes that keep one as it is encoded. -/
  | setInfo (info : Bytes) (typeCode : Option UInt64)
  | setKeyLocator (k : LiveKeyLocator)
  | setValidity (period : LiveValidityPeriod)
  /-- A change of the key locator, which fails if there is none. -/
  | keyLocator (c : LiveKeyLocator.Change)
  /-- A change of the validity period, which fails if there is none. -/
  | validity (c : Stamped.Change ValidityPeriod)
  /-- Another signature takes its place. -/
  | assign (s : LiveSignature)

namespace Change

/-- Makes the change and tells whether it could be made. -/
def run : Change → Edit LiveSignature Bool
  | setBytes bytes => do
    LiveSignature.setBytes bytes
    return true
  | setInfo info typeCode => do return (← LiveSignature.setInfo info typeCode).isSome
  | setKeyLocator k => do return (← LiveSignature.setKeyLocator k).isSome
  | setValidity period => do return (← LiveSignature.setValidity period).isSome
  | keyLocator c => do return (← editKeyLocator c.run).getD false
  | validity c => do return (← editValidity c.run).getD false
  | assign s => do
    set s
    return true

/-- What is handed in exists, and what is put in a place is no copy of what the owner remembers. -/
def Allowed (n seen : Count) (s : LiveSignature) : Change → Prop
  | setBytes _ | setInfo _ _ => True
  | setKeyLocator k => Drawn n k
  | setValidity period => Drawn n period
  | keyLocator c => ∀ k, s.scheme.keyLocator? = some k → c.Allowed n k.seen k.part
  | validity c => ∀ period, s.scheme.validity? = some period → c.Allowed n period.seen
  | assign s => Drawn n s ∧ Noticeable seen s

theorem changed {c : Change} {n seen : Count} {s : LiveSignature} (hdrawn : Drawn n s)
    (hseen : seen < n) (hallowed : c.Allowed n seen s) :
    Changed seen n s (c.run s n).1.1 (c.run s n).2 (c.run s n).1.2 := by
  cases c with
  | setBytes bytes =>
    exact .ofNoticeable (Nat.le_succ n)
      ⟨Scheme.drawn_mono (Nat.le_succ n) hdrawn.1, Nat.lt_succ_self n⟩
      (noticeable_of_le hseen (Nat.le_refl n))
  | setInfo info typeCode =>
    obtain ⟨bytes, scheme, count⟩ := s
    cases scheme with
    | generic =>
      exact .ofNoticeable (Nat.le_succ n) ⟨trivial, Nat.lt_succ_self n⟩
        (noticeable_of_le hseen (Nat.le_refl n))
    | digestSha256 | hmacWithSha256 | sha256WithRsa | sha256WithEcdsa =>
      exact .failed hdrawn
  | setKeyLocator k => exact keyLocatorSlot.changed_put hdrawn hseen hallowed
  | setValidity period => exact validitySlot.changed_put hdrawn hseen hallowed
  | keyLocator c =>
    exact keyLocatorSlot.changed_edit hdrawn fun k hk hold =>
      LiveKeyLocator.Change.changed hold.1 hold.2.1 (hallowed k hk)
  | validity c =>
    exact validitySlot.changed_edit hdrawn fun period hperiod hold =>
      Stamped.Change.changed hold.2.1 (hallowed period hperiod)
  | assign s' => exact .ofNoticeable (Nat.le_refl n) hallowed.1 hallowed.2

end Change

end NamedData.LiveSignature
