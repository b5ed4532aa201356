import NamedData.Proofs.Live.Packet

/-!
# What packets of all kinds do alike

Packets are changed in place, assigned other parts, encoded and decoded into in one way, whatever
their kind. Each of these operations has one of the effects that an operation can have, and leaves
parts that are recalled in a ledger that has grown.

A decoded packet gets a count above the one that the old packet would have answered, had it been
asked when the decoding began. The decoder asks later, after it has made the new parts, and so the old
packet may answer a later count to the decoder, but no earlier one (`changeCount_le`).
-/

namespace NamedData

open Observed Recalling Recorded Ledger LivePacket LawfulCore LawfulLivePacket

section Apply

variable {σ τ π α : Type} [LivePacket σ τ π] [ChangeCounted α]

/-- A change of a part in place leaves all else. -/
theorem edit_apply {ρ : Type} (place : Place τ (Tracked α)) (e : Edit α ρ) (p : σ) (n : Count) :
    LivePacket.edit place e p n =
      (((e (place.view (parts p)).part n).1.1,
          withParts p (place.put { place.view (parts p) with
            part := (e (place.view (parts p)).part n).1.2 } (parts p)) (core.view p).count),
        (e (place.view (parts p)).part n).2) :=
  rfl

/-- Another part comes with a tracker of its own, and a count for the packet. -/
theorem assign_apply (place : Place τ (Tracked α)) (a : α) (p : σ) (n : Count) :
    LivePacket.assign place a p n =
      (((), withParts p (place.put (Tracked.make a n).1 (parts p)) (Tracked.make a n).2),
        (Tracked.make a n).2 + 1) :=
  rfl

theorem update_apply (f : σ → σ) (p : σ) (n : Count) :
    LivePacket.update f p n = (((), withParts (f p) (parts (f p)) n), n + 1) :=
  rfl

end Apply

section Changes

variable {σ τ π W : Type} [Checkable τ] [LivePacket σ τ π] [Observed τ W] [Recalling τ]
  [LawfulLivePacket σ] {n : Count} {p : σ}

/-! ## Changes in place -/

section Edit

variable {α V : Type} [ChangeCounted α] [Observed α V] {place : Place τ (Tracked α)} {e : Edit α Bool}

/-- A change of a part in place either is one, and is looked for when the packet is asked, or fails
and does nothing. -/
theorem effect_noteEdit (hplace : place.Lawful) (hdrawn : Drawn n p)
    (h : Edited n (place.view (parts p)).part (e (place.view (parts p)).part n).1.1
      (e (place.view (parts p)).part n).2 (e (place.view (parts p)).part n).1.2) :
    Effect n p (noteEdit (LivePacket.edit place e) p n).1.1
      (noteEdit (LivePacket.edit place e) p n).2
      (noteEdit (LivePacket.edit place e) p n).1.2 := by
  have hpart := Tracked.edited (hplace.drawn_view hdrawn.1) h
  simp only [noteEdit, edit_apply]
  cases hdone : (e (place.view (parts p)).part n).1.1 with
  | true =>
    exact .edited h.le ((drawn_withParts _ _ _ _).2
      ⟨hplace.drawn_put hdrawn.1 h.le hpart.drawn, Nat.le_trans hdrawn.2 h.le⟩)
  | false =>
    rw [hpart.kept hdone, hplace.put_view]
    show Effect n p none _ (core.put (core.view p) p)
    rw [put_view]
    exact .nothing h.le

end Edit

/-! ## Setters -/

/-- A part that was made for a place is put there, under a count drawn after it. -/
theorem assigned_put {α V : Type} [Observed α V] {place : Place τ α} (hplace : place.Lawful)
    (hdrawn : Drawn n p) {v : V} {n₁ : Count} {a : α} (hmade : Made n v n₁ a) :
    Assigned n p (n₁ + 1) (withParts p (place.put a (parts p)) n₁) where
  drawn := (drawn_withParts _ _ _ _).2
    ⟨drawn_mono (Nat.le_succ n₁) (hplace.drawn_put hdrawn.1 (Nat.le_of_lt hmade.lt) hmade.drawn),
      Nat.le_succ n₁⟩
  le := Nat.le_trans (Nat.le_of_lt hmade.lt) (Nat.le_of_eq (count_withParts _ _ _).symm)
  lt := Nat.lt_of_le_of_lt (Nat.le_of_eq (count_withParts _ _ _)) (Nat.lt_succ_self n₁)
  settled h := by
    -- the setter drew other counts first, so the count is one that the packet has not had
    rw [count_withParts] at h
    exact absurd (Nat.lt_of_lt_of_le hmade.lt (h ▸ hdrawn.2)) (Nat.lt_irrefl n)
  cache_eq := cache_withParts _ _ _

/-- A change of something that is no part leaves the packet as settled as it was. -/
theorem assigned_update {f : σ → σ} (hf : core.view (f p) = core.view p) (hdrawn : Drawn n p)
    {n₁ : Count} (hle : n ≤ n₁) : Assigned n p (n₁ + 1) (withParts (f p) (parts (f p)) n₁) := by
  have hparts : parts (f p) = parts p := congrArg Core.parts hf
  have hcache : cache (f p) = cache p := congrArg Core.cache hf
  exact
    { drawn := (drawn_withParts _ _ _ _).2
        ⟨hparts ▸ drawn_mono (Nat.le_succ_of_le hle) hdrawn.1, Nat.le_succ n₁⟩
      le := Nat.le_trans hle (Nat.le_of_eq (count_withParts _ _ _).symm)
      lt := Nat.lt_of_le_of_lt (Nat.le_of_eq (count_withParts _ _ _)) (Nat.lt_succ_self n₁)
      settled := fun _ => by
        rw [settled_withParts, hparts]
        rfl
      cache_eq := (cache_withParts _ _ _).trans hcache }

theorem effect_assign {α V : Type} [ChangeCounted α] [Observed α V] [LawfulObserved α V]
    {place : Place τ (Tracked α)} (hplace : place.Lawful) (hdrawn : Drawn n p) {a : α}
    (ha : Drawn n a) :
    Effect n p (noteMove .set (LivePacket.assign place a) p n).1.1
      (noteMove .set (LivePacket.assign place a) p n).2
      (noteMove .set (LivePacket.assign place a) p n).1.2 :=
  effect_noteMove (assigned_put hplace hdrawn (Tracked.made ha)) (nonce_withParts _ _ _)

/-- The setter may be called after others have drawn counts. -/
theorem effect_update {f : σ → σ} (hf : core.view (f p) = core.view p) (hnonce : nonce (f p) = nonce p)
    (hdrawn : Drawn n p) {n₁ : Count} (hle : n ≤ n₁) :
    Effect n p (noteMove .set (LivePacket.update f) p n₁).1.1
      (noteMove .set (LivePacket.update f) p n₁).2
      (noteMove .set (LivePacket.update f) p n₁).1.2 :=
  .set (assigned_update hf hdrawn hle) ((nonce_withParts _ _ _).trans hnonce)

end Changes

/-! ## Encoding -/

section Encode

variable {σ τ π : Type} [Checkable τ] [LivePacket σ τ π] {n n₁ n' : Count} {p p₁ p' : σ}
  {encode : σ → Except Wire.EncodingError Wire.SignedBlob} {blob : Wire.SignedBlob}

/-- The packet is asked for its count, and encoded if it keeps no encoding for that count. -/
theorem encodeOnce_apply (hsettle : ChangeCounted.settle p n = (((), p₁), n₁)) :
    encodeOnce encode p n =
      match CachedEncoding.lookup (cache p₁) (ChangeCounted.count p₁) with
      | some blob => ((.ok blob, p₁), n₁)
      | none =>
        match encode p₁ with
        | .error e => ((.error e, p₁), n₁)
        | .ok blob => ((.ok blob, keeping p₁ blob), n₁) := by
  have hcount : changeCount p n = ((ChangeCounted.count p₁, p₁), n₁) := by
    rw [changeCount_apply, hsettle]
  have hcache : (core.view p₁).cache = cache p₁ := rfl
  simp only [encodeOnce, bind_edit_apply, hcount, get_edit_apply, hcache]
  cases CachedEncoding.lookup (cache p₁) (ChangeCounted.count p₁) with
  | some blob => rfl
  | none => cases encode p₁ <;> rfl

/-- A packet answers the encoding that it keeps for its count. -/
theorem encodeOnce_keeping [LawfulCore σ] (hsettle : ChangeCounted.settle (keeping p blob) n =
    (((), keeping p blob), n)) :
    encodeOnce encode (keeping p blob) n = ((.ok blob, keeping p blob), n) := by
  rw [encodeOnce_apply hsettle, CachedEncoding.lookup_eq_some.2 (cache_keeping p blob)]

/-- A packet that keeps no encoding is encoded. -/
theorem encodeOnce_new (hsettle : ChangeCounted.settle p n = (((), p), n)) (hcache : cache p = none)
    (hencode : encode p = .ok blob) :
    encodeOnce encode p n = ((.ok blob, keeping p blob), n) := by
  rw [encodeOnce_apply hsettle, hcache, hencode]
  rfl

theorem encodeOnce_error {e : Wire.EncodingError}
    (hsettle : ChangeCounted.settle p n = (((), p₁), n₁))
    (h : encodeOnce encode p n = ((.error e, p'), n')) : p' = p₁ ∧ n' = n₁ := by
  rw [encodeOnce_apply hsettle] at h
  split at h
  · cases h
  · split at h
    · cases h
      exact ⟨rfl, rfl⟩
    · cases h

theorem next_encodeOnce (p : σ) (n : Count) :
    (encodeOnce encode p n).2 = (ChangeCounted.settle p n).2 := by
  rw [encodeOnce_apply rfl]
  split
  · rfl
  · split <;> rfl

theorem parts_encodeOnce [LawfulCore σ] (p : σ) (n : Count) :
    parts (encodeOnce encode p n).1.2 = parts (ChangeCounted.settle p n).1.2 := by
  rw [encodeOnce_apply rfl]
  split
  · rfl
  · split
    · rfl
    · exact parts_withCache _ _

variable {W : Type} [Observed τ W] [Recalling τ] [LawfulLivePacket σ]

/-- An answer is the encoding that the packet keeps, or else a new one, and is kept. -/
theorem encodeOnce_ok (hsettle : ChangeCounted.settle p n = (((), p₁), n₁))
    (hencode : encode p₁ = .ok blob → Encodes σ (present p₁ (value p₁)) blob)
    (h : encodeOnce encode p n = ((.ok blob, p'), n')) :
    Answers p₁ blob ∧ p' = keeping p₁ blob ∧ n' = n₁ := by
  rw [encodeOnce_apply hsettle] at h
  cases hlookup : CachedEncoding.lookup (cache p₁) (ChangeCounted.count p₁) with
  | some b =>
    rw [hlookup] at h
    cases h
    have hkept := CachedEncoding.lookup_eq_some.1 hlookup
    exact ⟨.kept hkept, (keeping_of_kept hkept).symm, rfl⟩
  | none =>
    have hnone : ∀ b, cache p₁ ≠ some ⟨b, ChangeCounted.count p₁⟩ := fun b hb =>
      nomatch hlookup.symm.trans (CachedEncoding.lookup_eq_some.2 hb)
    rw [hlookup] at h
    cases hencoded : encode p₁ with
    | error e =>
      rw [hencoded] at h
      cases h
    | ok b =>
      rw [hencoded] at h
      cases h
      exact ⟨.new hnone (hencode hencoded), rfl, rfl⟩

theorem effect_noteEncoded [LawfulCheckable τ W] (hdrawn : Drawn n p)
    (hencode : ∀ q blob, encode q = .ok blob → Encodes σ (present q (value q)) blob) :
    Effect n p (noteEncoded (encodeOnce encode) p n).1.1 (noteEncoded (encodeOnce encode) p n).2
      (noteEncoded (encodeOnce encode) p n).1.2 := by
  have hpolled := polled hdrawn
  generalize hsettle : ChangeCounted.settle p n = r at hpolled
  obtain ⟨⟨⟨⟩, p₁⟩, n₁⟩ := r
  simp only [noteEncoded, bind_edit_apply]
  rcases hrun : encodeOnce encode p n with ⟨⟨result, p'⟩, n'⟩
  cases result with
  | ok blob =>
    obtain ⟨hanswer, rfl, rfl⟩ := encodeOnce_ok hsettle (hencode p₁ blob) hrun
    exact .encoded hpolled (Nat.le_refl _) hanswer
  | error e =>
    obtain ⟨rfl, rfl⟩ := encodeOnce_error hsettle hrun
    exact .polled hpolled

end Encode

/-! ## Decoding -/

section Decode

variable {σ τ π : Type} [Checkable τ] [LivePacket σ τ π] {n n₁ n₂ : Count} {p p₁ : σ}
  {decoded : π} {blob : Wire.SignedBlob} {format : Wire.WireFormat} {input : Bytes}

/-- An input that is wrong leaves the packet as it is. -/
theorem takeUp_error {e : Wire.DecodingError} (h : decode σ format input = .error e) (p : σ)
    (n : Count) : ∃ n', n ≤ n' ∧ takeUp format input p n = ((.error e, p), n') := by
  simp only [takeUp, h]
  cases format.enters (elementType σ) input with
  | true => exact ⟨n + 1, Nat.le_succ n, rfl⟩
  | false => exact ⟨n, Nat.le_refl n, rfl⟩

theorem takeUp_ok (h : decode σ format input = .ok (decoded, blob)) (p : σ) (n : Count) :
    takeUp format input p n = ((.ok blob, (replace decoded p n).1.2), (replace decoded p n).2) := by
  simp only [takeUp, h]
  rfl

theorem wireDecode_error {e : Wire.DecodingError} (h : decode σ .initial input = .error e) (p : σ)
    (n : Count) : ∃ n', n ≤ n' ∧ LivePacket.wireDecode input p n = ((.error e, p), n') := by
  obtain ⟨n', hle, htakeUp⟩ := takeUp_error h p n
  refine ⟨n', hle, ?_⟩
  simp only [LivePacket.wireDecode, bind_edit_apply, htakeUp]
  rfl

theorem wireDecodeWith_error {e : Wire.DecodingError} (h : decode σ format input = .error e) (p : σ)
    (n : Count) : ∃ n', n ≤ n' ∧ LivePacket.wireDecodeWith format input p n = ((.error e, p), n') := by
  obtain ⟨n', hle, htakeUp⟩ := takeUp_error h p n
  refine ⟨n', hle, ?_⟩
  simp only [LivePacket.wireDecodeWith, bind_edit_apply, htakeUp]
  rfl

/-- An input that is not wrong replaces the packet, which then has no encoding. -/
theorem wireDecodeWith_ok (h : decode σ format input = .ok (decoded, blob)) (p : σ) (n : Count) :
    LivePacket.wireDecodeWith format input p n =
      ((.ok (), withCache (replace decoded p n).1.2 none), (replace decoded p n).2) := by
  simp only [LivePacket.wireDecodeWith, bind_edit_apply, takeUp_ok h]
  rfl

/-- A decoded packet is made first, and gets a count above the one that the old packet then has. -/
theorem replace_apply {fresh : σ} (hmake : make decoded n = (fresh, n₁))
    (hsettle : ChangeCounted.settle p n₁ = (((), p₁), n₂)) :
    replace decoded p n =
      (((), recount (max (ChangeCounted.count fresh) (ChangeCounted.count p₁ + 1)) fresh), n₂) := by
  have hcount : changeCount p n₁ = ((ChangeCounted.count p₁, p₁), n₂) := by
    rw [changeCount_apply, hsettle]
  simp only [replace, bind_edit_apply, lift_edit_apply, hmake, hcount, set_edit_apply]

variable {W : Type} [Observed τ W] [Recalling τ] [LawfulLivePacket σ] [LawfulCheckable τ W]

/-- A packet that was replaced is settled, and its count may be the next of the sequence. -/
theorem replaced (hdrawn : Drawn n p) (decoded : π) :
    Replaced n p (replace decoded p n).2 (replace decoded p n).1.2 decoded := by
  rcases hmake : (make decoded n : σ × Count) with ⟨fresh, n₁⟩
  obtain ⟨hmade, rfl⟩ := built hmake
  have hle : n ≤ (core.view fresh).count + 1 := Nat.le_succ_of_le (Nat.le_of_lt hmade.lt)
  -- the old packet is asked after the new one was made, and answers counts drawn since
  have hpolled := polled (drawn_mono hle hdrawn)
  have hanswer := changeCount_le hle hdrawn
  rw [changeCount_apply p (_ + 1)] at hanswer
  generalize hsettle : ChangeCounted.settle p ((core.view fresh).count + 1) = r at hpolled hanswer
  obtain ⟨⟨⟨⟩, p₁⟩, n₂⟩ := r
  have hfresh : ChangeCounted.count fresh ≤ n₂ := Nat.le_of_succ_le hpolled.le
  have hraised : ChangeCounted.count p₁ < n₂ :=
    hpolled.count_lt (Nat.lt_of_le_of_lt hdrawn.2 (Nat.lt_succ_of_lt hmade.lt))
  rw [replace_apply hmake hsettle]
  exact
    { settled := (settled_recount _ fresh).2 hmade.settled
      drawn := (drawn_recount _ _ fresh).2 ⟨drawn_mono hfresh hmade.drawn,
        Nat.max_le.2 ⟨hfresh, hraised⟩⟩
      le := Nat.le_trans hle hpolled.le
      answer_lt := by
        rw [count_recount]
        exact Nat.lt_of_lt_of_le (Nat.lt_succ_of_le hanswer) (Nat.le_max_right _ _)
      nonce_eq := by rw [nonce_recount hmake, count_recount]
      present_eq := by
        have hvalue : value fresh = partsOf σ decoded := hmade.value_eq
        rw [value_recount, hvalue, present_recount hmake] }

/-- The count of a packet that was replaced is the next of the sequence if and only if changes of the
old packet's parts had to be taken up. -/
theorem replace_reaches_next (hdrawn : Drawn n p) (decoded : π) :
    ChangeCounted.count (replace decoded p n).1.2 = (replace decoded p n).2 ↔ ¬ Settled p := by
  rcases hmake : (make decoded n : σ × Count) with ⟨fresh, n₁⟩
  obtain ⟨hmade, rfl⟩ := built hmake
  have hle : n ≤ (core.view fresh).count + 1 := Nat.le_succ_of_le (Nat.le_of_lt hmade.lt)
  have hpolled := polled (drawn_mono hle hdrawn)
  rw [replace_apply hmake rfl, count_recount]
  exact hpolled.raised_eq_iff
    (Nat.succ_lt_succ (Nat.lt_of_le_of_lt hdrawn.2 hmade.lt)) (Nat.lt_succ_self _)

/-- An input that is not wrong replaces the packet, which keeps what was consumed of it as its
encoding. -/
theorem wireDecode_ok (hdrawn : Drawn n p) (h : decode σ .initial input = .ok (decoded, blob)) :
    LivePacket.wireDecode input p n =
      ((.ok (), keeping (replace decoded p n).1.2 blob), (replace decoded p n).2) := by
  have hreplaced := replaced hdrawn decoded
  simp only [LivePacket.wireDecode, bind_edit_apply, takeUp_ok h,
    changeCount_of_settled hreplaced.drawn hreplaced.settled]
  rfl

theorem effect_noteReceived (hdrawn : Drawn n p) (input : Bytes) :
    Effect n p (noteReceived (nonceOf σ) input p n).1.1 (noteReceived (nonceOf σ) input p n).2
      (noteReceived (nonceOf σ) input p n).1.2 := by
  simp only [noteReceived, bind_edit_apply]
  cases hdecode : decode σ .initial input with
  | error e =>
    obtain ⟨n', hle, hrun⟩ := wireDecode_error hdecode p n
    rw [hrun]
    exact .nothing hle
  | ok result =>
    obtain ⟨decoded, blob⟩ := result
    rw [wireDecode_ok hdrawn hdecode]
    exact .received ((replaced hdrawn decoded).withCache _) (cache_keeping _ blob) hdecode

theorem effect_noteConverted (hdrawn : Drawn n p) (format : Wire.WireFormat) (input : Bytes) :
    Effect n p (noteConverted (nonceOf σ) format input p n).1.1
      (noteConverted (nonceOf σ) format input p n).2
      (noteConverted (nonceOf σ) format input p n).1.2 := by
  simp only [noteConverted, bind_edit_apply]
  cases hdecode : decode σ format input with
  | error e =>
    obtain ⟨n', hle, hrun⟩ := wireDecodeWith_error hdecode p n
    rw [hrun]
    exact .nothing hle
  | ok result =>
    obtain ⟨decoded, blob⟩ := result
    rw [wireDecodeWith_ok hdecode]
    exact .converted ((replaced hdrawn decoded).withCache none) (cache_withCache _ none)

end Decode

/-! ## What is recalled afterwards -/

section Recalled

variable {σ τ π W : Type} [LivePacket σ τ π] [Observed τ W] [Recalling τ]

/-- Values of the parts of packet `p'` are recalled in a ledger that has grown since count `n`. -/
def Recalled (n : Count) (L : Ledger) (p' : σ) : Prop :=
  ∃ L' w, L.Agrees n L' ∧ Recalls L' (parts p') w

/-- Values of the parts of packet `p'` are recalled, and if the parts were changed in place, the
values `w` that were recalled before. -/
def Remembers (n : Count) (L : Ledger) (w : W) (deed : Option Deed) (p' : σ) : Prop :=
  ∃ L' w', L.Agrees n L' ∧ Recalls L' (parts p') w' ∧ ∀ noticed, deed = some (.edited noticed) → w' = w

variable {n : Count} {L : Ledger} {w : W} {p p' : σ}

theorem Recalled.kept (h : Recalls L (parts p) w) : Recalled n L p :=
  ⟨L, w, .refl, h⟩

theorem Recalled.remembers {deed : Option Deed} (h : Recalled n L p')
    (hdeed : ∀ noticed, deed ≠ some (.edited noticed)) : Remembers n L w deed p' := by
  obtain ⟨L', w', hagree, hrecalls⟩ := h
  exact ⟨L', w', hagree, hrecalls, fun noticed h => absurd h (hdeed noticed)⟩

/-- Nothing was done, or nothing that is noted. -/
theorem Recalled.unnoted (h : Recalled n L p') : Remembers n L w none p' :=
  h.remembers fun _ hdeed => nomatch hdeed

theorem Recalled.asked (h : Recalled n L p') : Remembers n L w (some .asked) p' :=
  h.remembers fun _ hdeed => nomatch hdeed

theorem remembers_noteAsked {ρ : Type} {e : Edit σ ρ} (h : Recalled n L (e p n).1.2) :
    Remembers n L w (noteAsked e p n).1.1 (noteAsked e p n).1.2 :=
  h.asked

theorem remembers_noteEncoded {e : Edit σ (Except Wire.EncodingError Wire.SignedBlob)}
    (h : Recalled n L (e p n).1.2) :
    Remembers n L w (noteEncoded e p n).1.1 (noteEncoded e p n).1.2 := by
  simp only [noteEncoded, bind_edit_apply]
  cases (e p n).1.1 <;> exact h.remembers fun _ hdeed => nomatch hdeed

theorem remembers_noteReceived [Checkable τ] {nonceOf : π → Bytes} {input : Bytes}
    (h : Recalled n L (LivePacket.wireDecode input p n).1.2) :
    Remembers n L w (noteReceived nonceOf input p n).1.1 (noteReceived nonceOf input p n).1.2 := by
  simp only [noteReceived, bind_edit_apply]
  cases (LivePacket.wireDecode input p n).1.1 <;> cases decode σ .initial input <;>
    exact h.remembers fun _ hdeed => nomatch hdeed

theorem remembers_noteConverted [Checkable τ] {nonceOf : π → Bytes} {format : Wire.WireFormat}
    {input : Bytes} (h : Recalled n L (LivePacket.wireDecodeWith format input p n).1.2) :
    Remembers n L w (noteConverted nonceOf format input p n).1.1
      (noteConverted nonceOf format input p n).1.2 := by
  simp only [noteConverted, bind_edit_apply]
  cases (LivePacket.wireDecodeWith format input p n).1.1 <;> cases decode σ format input <;>
    exact h.remembers fun _ hdeed => nomatch hdeed

theorem remembers_noteMove [ChangeCounted σ] {deed : Bool → Deed} {e : Edit σ Unit} {n₁ : Count}
    (h : Recalled n L (e p n₁).1.2) (hdeed : ∀ moved noticed, deed moved ≠ .edited noticed) :
    Remembers n L w (noteMove deed e p n₁).1.1 (noteMove deed e p n₁).1.2 :=
  h.remembers fun noticed hd => hdeed _ noticed (Option.some.inj hd)

theorem remembers_noteSet [ChangeCounted σ] {e : Edit σ Unit} {n₁ : Count}
    (h : Recalled n L (e p n₁).1.2) :
    Remembers n L w (noteMove .set e p n₁).1.1 (noteMove .set e p n₁).1.2 :=
  remembers_noteMove h fun _ _ hdeed => nomatch hdeed

theorem remembers_noteEdit [ChangeCounted σ] {e : Edit σ Bool}
    (h : ∃ L', L.Agrees n L' ∧ Recalls L' (parts (e p n).1.2) w) :
    Remembers n L w (noteEdit e p n).1.1 (noteEdit e p n).1.2 := by
  obtain ⟨L', hagree, hrecalls⟩ := h
  exact ⟨L', w, hagree, hrecalls, fun _ _ => rfl⟩

/-! ### What operations leave -/

section Parts

variable {α V : Type} [ChangeCounted α] [Observed α V] [Enterable V] [Recorded α]
  [LawfulRecorded α] {place : Place τ (Tracked α)} [LawfulCore σ]

/-- The owner does not look at a part that is changed in place. -/
theorem recalls_edit (hplace : place.Lawful) (hsplits : place.Splits) (h : Recalls L (parts p) w)
    (hdrawn : Drawn n (parts p)) {e : Edit α Bool}
    (he : Entered L (place.view (parts p)).part →
      ∃ L', L.Agrees n L' ∧ Entered L' (e (place.view (parts p)).part n).1.2) :
    ∃ L', L.Agrees n L' ∧ Recalls L' (parts (LivePacket.edit place e p n).1.2) w := by
  obtain ⟨_, _, hview, -⟩ := hsplits n L L _ w h hdrawn .refl
  obtain ⟨L', hagree, ha⟩ := he hview.1
  obtain ⟨v, g, hv, rfl, hput⟩ := hsplits n L L' _ w h hdrawn hagree
  refine ⟨L', hagree, ?_⟩
  rw [edit_apply, parts_withParts]
  exact hput _ v (Tracked.recalls_edit hv (hplace.drawn_view hdrawn) hagree ha)

theorem recalled_assign [LawfulObserved α V] (hsplits : place.Splits) (h : Recalls L (parts p) w)
    (hdrawn : Drawn n (parts p)) {a : α} (ha : Drawn n a ∧ Entered L a) :
    Recalled n L (LivePacket.assign place a p n).1.2 := by
  obtain ⟨L', hagree, hrecalls⟩ := Tracked.recalls_make ha.2 ha.1
  obtain ⟨v, g, -, -, hput⟩ := hsplits n L L' _ w h hdrawn hagree
  refine ⟨L', g (value a), hagree, ?_⟩
  rw [assign_apply, parts_withParts]
  exact hput _ _ hrecalls

end Parts

/-- The parts stay as they are. -/
theorem recalled_update [LawfulCore σ] {f : σ → σ} (hf : core.view (f p) = core.view p)
    (h : Recalls L (parts p) w) (n₁ : Count) : Recalled n L (LivePacket.update f p n₁).1.2 := by
  have hparts : parts (f p) = parts p := congrArg Core.parts hf
  refine ⟨L, w, .refl, ?_⟩
  rw [update_apply, parts_withParts, hparts]
  exact h

variable [Checkable τ]

section Looked

variable [LawfulRecalling τ] [LawfulCore σ]

theorem recalled_settle (h : Recalls L (parts p) w) (hdrawn : Drawn n (parts p)) :
    Recalled n L (ChangeCounted.settle p n).1.2 := by
  obtain ⟨L', hagree, hrecalls⟩ := LawfulRecalling.check h hdrawn
  refine ⟨L', value (parts p), hagree, ?_⟩
  rw [settle_apply, parts_withParts]
  exact hrecalls

theorem recalled_encodeOnce {encode : σ → Except Wire.EncodingError Wire.SignedBlob}
    (h : Recalls L (parts p) w) (hdrawn : Drawn n (parts p)) :
    Recalled n L (encodeOnce encode p n).1.2 := by
  rw [Recalled, parts_encodeOnce]
  exact recalled_settle h hdrawn

end Looked

section Decode

variable [LawfulLivePacket σ]

theorem recalled_replace (decoded : π) (p : σ) (n : Count) (L : Ledger) :
    Recalled n L (replace decoded p n).1.2 := by
  rcases hmake : (make decoded n : σ × Count) with ⟨fresh, n₁⟩
  obtain ⟨L', hagree, hrecalls⟩ := (built hmake).1.recalls L
  refine ⟨L', partsOf σ decoded, hagree, ?_⟩
  rw [replace_apply hmake rfl, parts_recount]
  exact hrecalls

theorem recalled_wireDecodeWith (h : Recalls L (parts p) w) (format : Wire.WireFormat)
    (input : Bytes) : Recalled n L (LivePacket.wireDecodeWith format input p n).1.2 := by
  cases hdecode : decode σ format input with
  | error e =>
    obtain ⟨n', -, hrun⟩ := wireDecodeWith_error hdecode p n
    rw [hrun]
    exact .kept h
  | ok result =>
    obtain ⟨decoded, blob⟩ := result
    rw [wireDecodeWith_ok hdecode, Recalled, parts_withCache]
    exact recalled_replace decoded p n L

theorem recalled_wireDecode [LawfulCheckable τ W] (h : Recalls L (parts p) w) (hdrawn : Drawn n p)
    (input : Bytes) : Recalled n L (LivePacket.wireDecode input p n).1.2 := by
  cases hdecode : decode σ .initial input with
  | error e =>
    obtain ⟨n', -, hrun⟩ := wireDecode_error hdecode p n
    rw [hrun]
    exact .kept h
  | ok result =>
    obtain ⟨decoded, blob⟩ := result
    rw [wireDecode_ok hdrawn hdecode, Recalled, keeping, parts_withCache]
    exact recalled_replace decoded p n L

end Decode

/-! ### What making leaves -/

section Made

variable [LawfulLivePacket σ] {v : π} {n₁ : Count}

omit [Checkable τ] in
theorem recalled_make (h : make v n = (p, n₁)) (L : Ledger) :
    n ≤ n₁ ∧ Drawn n₁ p ∧ Recalled n L p := by
  obtain ⟨hbuilt, rfl⟩ := built h
  obtain ⟨L', hagree, hw⟩ := hbuilt.recalls L
  exact ⟨Nat.le_succ_of_le (Nat.le_of_lt hbuilt.lt),
    ⟨drawn_mono (Nat.le_succ _) hbuilt.drawn, Nat.le_succ _⟩, L', partsOf σ v, hagree, hw⟩

omit [Checkable τ] in
/-- A part takes the place of the one that a new packet has there. -/
theorem recalled_make_put {α V : Type} [ChangeCounted α] [Observed α V] [LawfulObserved α V]
    [Enterable V] [Recorded α] [LawfulRecorded α] {place : Place τ (Tracked α)}
    (hplace : place.Lawful) (hsplits : place.Splits) (h : make v n = (p, n₁)) {a : α}
    (ha : Drawn n a ∧ Entered L a) {t : Tracked α} {n₂ : Count} (ht : Tracked.make a n₁ = (t, n₂)) :
    n ≤ n₂ ∧ Drawn n₂ (withParts p (place.put t (parts p)) (core.view p).count)
      ∧ Recalled n L (withParts p (place.put t (parts p)) (core.view p).count) := by
  cases ht
  obtain ⟨hle, hdrawn, L₁, w, hagree, hw⟩ := recalled_make h L
  have hold := drawn_mono hle ha.1
  have hmade := Tracked.made hold
  have hle' := Nat.le_of_lt hmade.lt
  obtain ⟨L₂, hagree', hnew⟩ := Tracked.recalls_make (LawfulRecorded.agree ha.2 ha.1 hagree) hold
  obtain ⟨_, g, -, -, hput⟩ := hsplits _ L₁ L₂ _ w hw hdrawn.1 hagree'
  refine ⟨Nat.le_trans hle hle', (drawn_withParts _ _ _ _).2
    ⟨hplace.drawn_put hdrawn.1 hle' hmade.drawn, Nat.le_trans hdrawn.2 hle'⟩,
    L₂, g (value a), hagree.trans hle hagree', ?_⟩
  rw [parts_withParts]
  exact hput _ _ hnew

end Made

end Recalled

end NamedData
