import NamedData.Proofs.Text.Utf8
import NamedData.Proofs.Wire.DataGrammar
import NamedData.Wire.Control
import NamedData.Wire.Delegation

/-!
# Grammars of control messages

Refusals, parameters and responses are decoded from exactly the inputs that start with an element of
the grammar, and a list of delegations from an input that is a row of such elements. Texts are in
UTF-8, which has one form for each text (`HoldsText`).
-/

namespace NamedData.Wire

open Element (concat)

/-! ## The grammars -/

/-- An element with a text in it. -/
def HoldsText (e : Element) (s : String) : Prop :=
  e.value = Text.Utf8.encode s.toList

/-- A name, which is the only field. -/
def NameField : Grammar Name :=
  Required ElementType.name HoldsName

/-- The fields of a delegation. -/
inductive DelegationFields : Grammar Delegation where
  | mk {es es₁ rest : List Element} {preference : UInt64} {name : Name}
      (hpreference : Required ElementType.linkPreference HoldsInteger es preference es₁)
      (hname : Required ElementType.name HoldsName es₁ name rest) :
      DelegationFields es ⟨preference, name⟩ rest

/-- An element with a delegation in it. -/
def IsDelegation (e : Element) (d : Delegation) : Prop :=
  e.type = ElementType.linkDelegation ∧ Contains DelegationFields e d

/-- The field of a refusal. -/
inductive NackFields : Grammar NetworkNack where
  | mk {es rest : List Element} {code : Option UInt64}
      (hreason : Optional ElementType.nackReason HoldsInteger es code rest) :
      NackFields es ⟨(code.map NackReason.ofCode).getD .unspecified⟩ rest

/-- The fields of parameters. -/
inductive ParametersFields : Grammar ControlParameters where
  | mk {es es₁ es₂ es₃ es₄ es₅ es₆ es₇ es₈ rest : List Element} {name strategy : Option Name}
      {uri : Option String}
      {faceId localControlFeature origin cost flags expiration : Option UInt64}
      (hname : Optional ElementType.name HoldsName es name es₁)
      (hfaceId : Optional ElementType.faceId HoldsInteger es₁ faceId es₂)
      (huri : Optional ElementType.uri HoldsText es₂ uri es₃)
      (hfeature : Optional ElementType.localControlFeature HoldsInteger es₃ localControlFeature es₄)
      (horigin : Optional ElementType.origin HoldsInteger es₄ origin es₅)
      (hcost : Optional ElementType.cost HoldsInteger es₅ cost es₆)
      (hflags : Optional ElementType.flags HoldsInteger es₆ flags es₇)
      (hstrategy : Optional ElementType.strategy (Contains NameField) es₇ strategy es₈)
      (hexpiration : Optional ElementType.expirationPeriod HoldsInteger es₈ expiration rest) :
      ParametersFields es {
        name, faceId, uri, localControlFeature, origin, cost, strategy
        flags := (flags.map ForwardingFlags.mk).getD .initial
        expirationPeriod := expiration.map Time.Duration.ofMillis } rest

/-- The fields of a response. -/
inductive ResponseFields : Grammar ControlResponse where
  | mk {es es₁ es₂ rest : List Element} {statusCode : UInt64} {statusText : String}
      {body : Option ControlParameters}
      (hcode : Required ElementType.statusCode HoldsInteger es statusCode es₁)
      (htext : Required ElementType.statusText HoldsText es₁ statusText es₂)
      (hbody : Optional ElementType.controlParameters (Contains ParametersFields) es₂ body rest) :
      ResponseFields es { statusCode, statusText, body } rest

/-! ## The readers -/

theorem decodeText_eq_ok_iff {field : TextField} {value : Bytes} {text : List Char} :
    decodeText field value = .ok text ↔ value = Text.Utf8.encode text := by
  rw [← Text.Utf8.decode_eq_ok_iff, decodeText]
  cases Text.Utf8.decode value with
  | error fault => exact iff_of_false (by rintro ⟨⟩) (by rintro ⟨⟩)
  | ok text' => rw [Except.ok.injEq, Except.ok.injEq]

namespace Reader

variable {stop : Nat} {type : UInt64}

namespace AcceptsElement

protected theorem text (field : TextField) (type : UInt64) :
    AcceptsElement (text field type) fun _ e s => e.type = type ∧ HoldsText e s := by
  have hidle (value : Bytes) : Idle (String.ofList <$> lift (decodeText field value))
      fun s => value = Text.Utf8.encode s.toList := by
    refine ⟨fun {stop c c' s} => ?_⟩
    rw [← @decodeText_eq_ok_iff field]
    cases decodeText field value with
    | error e => exact iff_of_false (by rintro ⟨⟩) (by rintro ⟨⟨⟩, -⟩)
    | ok text =>
      constructor
      · rintro ⟨⟩
        exact ⟨by rw [String.toList_ofList], rfl⟩
      · rintro ⟨heq, rfl⟩
        cases heq
        show Except.ok (String.ofList s.toList, _) = _
        rw [String.ofList_toList]
  refine ((AcceptsElement.blob type).bind_idle hidle).congr fun offset e s => ?_
  constructor
  · rintro ⟨_, ⟨htype, rfl⟩, hs⟩
    exact ⟨htype, hs⟩
  · rintro ⟨htype, hs⟩
    exact ⟨_, ⟨htype, rfl⟩, hs⟩

protected theorem delegation : AcceptsElement delegation fun _ e d => IsDelegation e d := by
  refine (AcceptsElement.nested (fun _ =>
    (AcceptsElement.integer ElementType.linkPreference).required.bind fun preference =>
    AcceptsElement.name.required.bind fun name => .pure _) ElementType.linkDelegation).congr
      fun offset e d => and_congr_right fun _ => contains_congr fun es d rest => ?_
  constructor
  · rintro ⟨preference, es₁, hpreference, name, es₂, hname, rfl, rfl⟩
    exact .mk hpreference hname
  · rintro ⟨hpreference, hname⟩
    exact ⟨_, _, hpreference, _, _, hname, rfl, rfl⟩

protected theorem nack : AcceptsElement nack fun _ e refusal =>
    e.type = ElementType.networkNack ∧ Contains NackFields e refusal := by
  refine (AcceptsElement.nested (fun _ =>
    (AcceptsElement.integer ElementType.nackReason).optional.bind_idle fun code => .pure _)
      ElementType.networkNack).congr
      fun offset e refusal => and_congr_right fun _ => contains_congr fun es refusal rest => ?_
  constructor
  · rintro ⟨code, hreason, rfl⟩
    exact .mk hreason
  · rintro ⟨hreason⟩
    exact ⟨_, hreason, rfl⟩

protected theorem parameters : AcceptsElement parameters fun _ e p =>
    e.type = ElementType.controlParameters ∧ Contains ParametersFields e p := by
  refine (AcceptsElement.nested (fun _ => AcceptsElement.name.optional.bind fun name =>
    (AcceptsElement.integer ElementType.faceId).optional.bind fun faceId =>
    (AcceptsElement.text .uri ElementType.uri).optional.bind fun uri =>
    (AcceptsElement.integer ElementType.localControlFeature).optional.bind fun feature =>
    (AcceptsElement.integer ElementType.origin).optional.bind fun origin =>
    (AcceptsElement.integer ElementType.cost).optional.bind fun cost =>
    (AcceptsElement.integer ElementType.flags).optional.bind fun flags =>
    (AcceptsElement.nested (fun _ => AcceptsElement.name.required)
      ElementType.strategy).optional.bind fun strategy =>
    (AcceptsElement.integer ElementType.expirationPeriod).optional.bind fun expiration => .pure _)
      ElementType.controlParameters).congr
      fun offset e p => and_congr_right fun _ => contains_congr fun es p rest => ?_
  constructor
  · rintro ⟨name, es₁, hname, faceId, es₂, hfaceId, uri, es₃, huri, feature, es₄, hfeature, origin, es₅,
      horigin, cost, es₆, hcost, flags, es₇, hflags, strategy, es₈, hstrategy, expiration, es₉,
      hexpiration, rfl, rfl⟩
    exact .mk hname hfaceId huri hfeature horigin hcost hflags hstrategy hexpiration
  · rintro ⟨hname, hfaceId, huri, hfeature, horigin, hcost, hflags, hstrategy, hexpiration⟩
    exact ⟨_, _, hname, _, _, hfaceId, _, _, huri, _, _, hfeature, _, _, horigin, _, _, hcost, _, _,
      hflags, _, _, hstrategy, _, _, hexpiration, rfl, rfl⟩

protected theorem response : AcceptsElement response fun _ e r =>
    e.type = ElementType.controlResponse ∧ Contains ResponseFields e r := by
  refine (AcceptsElement.nested (fun _ =>
    (AcceptsElement.integer ElementType.statusCode).required.bind fun statusCode =>
    (AcceptsElement.text .statusText ElementType.statusText).required.bind fun statusText =>
    AcceptsElement.parameters.optional.bind fun body => .pure _) ElementType.controlResponse).congr
      fun offset e r => and_congr_right fun _ => contains_congr fun es r rest => ?_
  constructor
  · rintro ⟨statusCode, es₁, hcode, statusText, es₂, htext, body, es₃, hbody, rfl, rfl⟩
    exact .mk hcode htext hbody
  · rintro ⟨hcode, htext, hbody⟩
    exact ⟨_, _, hcode, _, _, htext, _, _, hbody, rfl, rfl⟩

end AcceptsElement

/-! ## Decoding -/

/-- What is decoded is told by the element that the input starts with. -/
theorem AcceptsElement.value_eq_ok_iff {α : Type} {r : Reader α} {P : Nat → Element → α → Prop}
    (h : AcceptsElement r P) {input : Bytes} (hsize : input.length < UInt64.size) {a : α} :
    r.value input = .ok a ↔ ∃ e rest, input = e.bytes ++ rest ∧ P 0 e a := by
  rw [Reader.value_eq_ok_iff]
  simp only [h.run_eq_ok_iff hsize]
  constructor
  · rintro ⟨c, e, hP, hinput, -⟩
    exact ⟨e, c.rest, hinput, hP⟩
  · rintro ⟨e, rest, hinput, hP⟩
    exact ⟨⟨e.bytes.length, rest⟩, e, hP, hinput, rfl⟩

/-- Delegations are read from inputs that are a row of them. -/
theorem run_many_delegation_eq_ok_iff {input : Bytes} (hsize : input.length < UInt64.size)
    {entries : List Delegation} {c : Cursor} : (many delegation).run input = .ok (entries, c)
      ↔ (∃ es, input = concat es ∧ Row (fun _ => IsDelegation) 0 es entries)
        ∧ c = ⟨input.length, []⟩ := by
  have hexhausts : Exhausts input.length (many delegation) _ :=
    AcceptsElement.delegation.many.exhausts (.many AcceptsElement.delegation)
  refine (hexhausts.run_eq_ok_iff hsize).trans (and_congr_left fun _ => ?_)
  constructor
  · rintro ⟨es, rfl, -, hrow⟩
    rw [Nat.sub_self] at hrow
    exact ⟨es, rfl, hrow⟩
  · rintro ⟨es, rfl, hrow⟩
    rw [← Nat.sub_self (concat es).length] at hrow
    exact ⟨es, rfl, rfl, hrow⟩

end Reader

end NamedData.Wire
