import NamedData.Proofs.Wire.Alike
import NamedData.Proofs.Wire.Shortest

/-!
# Which elements are dropped

Each element of parameters, of a response, of an Interest or of selectors either gives a field its value
or is one of the trailing elements, of a type that may be skipped (`Container.Accounts`). Trailing
elements are dropped whether their types are known or not: a field that comes once more, or behind the
place where it is looked for, is dropped if its type may be skipped, and refused otherwise. That nothing
else depends on them is shown by leaving all of them out.
-/

namespace NamedData.Wire

open Element (concat)

variable {α : Type} {type : UInt64} {x e : Element} {es rest : List Element}

/-! ## Elements that are shown -/

/-- Each element of a container is shown by the object, or it is one of the trailing elements, which may
be skipped. -/
def Container.Accounts (c : Container) (Shows : Element → Prop) (e : Element) : Prop :=
  ∃ es, HoldsElements e es
    ∧ ∀ x ∈ es, Shows x ∨ x ∈ trailing c.fields es ∧ ElementType.isCritical x.type = false

/-- An element whose value a field of parameters has. -/
inductive ParametersShow (p : ControlParameters) (x : Element) : Prop where
  | name {n : Name} (htype : x.type = ElementType.name) (hvalue : HoldsName x n)
      (hfield : p.name = some n)
  | faceId {n : UInt64} (htype : x.type = ElementType.faceId) (hvalue : HoldsInteger x n)
      (hfield : p.faceId = some n)
  | uri {s : String} (htype : x.type = ElementType.uri) (hvalue : HoldsText x s)
      (hfield : p.uri = some s)
  | localControlFeature {n : UInt64} (htype : x.type = ElementType.localControlFeature)
      (hvalue : HoldsInteger x n) (hfield : p.localControlFeature = some n)
  | origin {n : UInt64} (htype : x.type = ElementType.origin) (hvalue : HoldsInteger x n)
      (hfield : p.origin = some n)
  | cost {n : UInt64} (htype : x.type = ElementType.cost) (hvalue : HoldsInteger x n)
      (hfield : p.cost = some n)
  | flags {n : UInt64} (htype : x.type = ElementType.flags) (hvalue : HoldsInteger x n)
      (hfield : p.flags = ⟨n⟩)
  | strategy {n : Name} (htype : x.type = ElementType.strategy) (hvalue : Contains NameField x n)
      (hfield : p.strategy = some n)
  | expirationPeriod {n : UInt64} (htype : x.type = ElementType.expirationPeriod)
      (hvalue : HoldsInteger x n) (hfield : p.expirationPeriod = some (.ofMillis n))

/-- An element whose value a field of a response has, and for parameters their elements too. -/
inductive ResponseShow (r : ControlResponse) (x : Element) : Prop where
  | statusCode (htype : x.type = ElementType.statusCode) (hvalue : HoldsInteger x r.statusCode)
  | statusText (htype : x.type = ElementType.statusText) (hvalue : HoldsText x r.statusText)
  | body {p : ControlParameters} (htype : x.type = ElementType.controlParameters)
      (hvalue : Container.parameters.Accounts (ParametersShow p) x) (hfield : r.body = some p)

/-- An element of the selectors whose value a field of an Interest has. -/
inductive SelectorsShow (i : Interest) (x : Element) : Prop where
  | minSuffixComponents {n : UInt32} (htype : x.type = ElementType.minSuffixComponents)
      (hvalue : HoldsInteger32 x n) (hfield : i.minSuffixComponents = some n)
  | maxSuffixComponents {n : UInt32} (htype : x.type = ElementType.maxSuffixComponents)
      (hvalue : HoldsInteger32 x n) (hfield : i.maxSuffixComponents = some n)
  | keyLocator (htype : x.type = ElementType.publisherPublicKeyLocator)
      (hvalue : Contains KeyLocatorFields x i.keyLocator)
  | exclude (htype : x.type = ElementType.exclude) (hvalue : HoldsEntries x i.exclude.entries)
  | childSelector {selector : ChildSelector} (htype : x.type = ElementType.childSelector)
      (hvalue : HoldsChildSelector x selector) (hfield : i.childSelector = some selector)
  | mustBeFresh (htype : x.type = ElementType.mustBeFresh) (hfield : i.mustBeFresh = true)

/-- An element whose value a field of an Interest has, and for selectors their elements. -/
inductive InterestShow (i : Interest) (x : Element) : Prop where
  | name (htype : x.type = ElementType.name) (hvalue : HoldsName x i.name)
  | selectors (htype : x.type = ElementType.selectors)
      (hvalue : Container.selectors.Accounts (SelectorsShow i) x)
  | nonce (htype : x.type = ElementType.nonce) (hvalue : HoldsBytes x i.nonce)
  | scope {n : UInt32} (htype : x.type = ElementType.scope) (hvalue : HoldsInteger32 x n)
      (hfield : i.scope = some n)
  | lifetime {n : UInt64} (htype : x.type = ElementType.interestLifetime) (hvalue : HoldsInteger x n)
      (hfield : i.lifetime = some (.ofMillis n))
  | link (htype : x.type = ElementType.data) (hvalue : IsVerbatim x i.link)
  | selectedDelegation {n : UInt32} (htype : x.type = ElementType.selectedDelegation)
      (hvalue : HoldsInteger32 x n) (hfield : i.selectedDelegation = some n)

/-! ## Parameters and responses -/

theorem ParametersFields.shows_or_mem {p : ControlParameters} (h : ParametersFields es p rest)
    (hx : x ∈ es) : ParametersShow p x ∨ x ∈ rest := by
  obtain ⟨hname, hfaceId, huri, hfeature, horigin, hcost, hflags, hstrategy, hexpiration⟩ := h
  rcases hname.mem_cases hx with ⟨n, rfl, htype, hn⟩ | hx
  · exact .inl (.name htype hn rfl)
  rcases hfaceId.mem_cases hx with ⟨n, rfl, htype, hn⟩ | hx
  · exact .inl (.faceId htype hn rfl)
  rcases huri.mem_cases hx with ⟨s, rfl, htype, hs⟩ | hx
  · exact .inl (.uri htype hs rfl)
  rcases hfeature.mem_cases hx with ⟨n, rfl, htype, hn⟩ | hx
  · exact .inl (.localControlFeature htype hn rfl)
  rcases horigin.mem_cases hx with ⟨n, rfl, htype, hn⟩ | hx
  · exact .inl (.origin htype hn rfl)
  rcases hcost.mem_cases hx with ⟨n, rfl, htype, hn⟩ | hx
  · exact .inl (.cost htype hn rfl)
  rcases hflags.mem_cases hx with ⟨n, rfl, htype, hn⟩ | hx
  · exact .inl (.flags htype hn rfl)
  rcases hstrategy.mem_cases hx with ⟨n, rfl, htype, hn⟩ | hx
  · exact .inl (.strategy htype hn rfl)
  rcases hexpiration.mem_cases hx with ⟨n, rfl, htype, hn⟩ | hx
  · exact .inl (.expirationPeriod htype hn rfl)
  · exact .inr hx

/-- What a grammar leaves are the trailing elements. -/
theorem Container.Accounts.of_fields {c : Container} {Shows : Element → Prop}
    (hvalue : HoldsElements e es) (hrest : trailing c.fields es = rest) (htail : IsTail rest)
    (hshows : ∀ x ∈ es, Shows x ∨ x ∈ rest) : c.Accounts Shows e :=
  ⟨es, hvalue, fun x hx => (hshows x hx).imp_right fun h => ⟨hrest ▸ h, htail x h⟩⟩

theorem Contains.accounts_parameters {p : ControlParameters} (h : Contains ParametersFields e p) :
    Container.parameters.Accounts (ParametersShow p) e := by
  obtain ⟨es, rest, hvalue, hfields, htail⟩ := h
  exact .of_fields hvalue hfields.rest_eq htail fun _ => hfields.shows_or_mem

theorem ResponseFields.shows_or_mem {r : ControlResponse} (h : ResponseFields es r rest)
    (hx : x ∈ es) : ResponseShow r x ∨ x ∈ rest := by
  obtain ⟨hcode, htext, hbody⟩ := h
  rcases hcode.mem_cases hx with ⟨htype, hn⟩ | hx
  · exact .inl (.statusCode htype hn)
  rcases htext.mem_cases hx with ⟨htype, hs⟩ | hx
  · exact .inl (.statusText htype hs)
  rcases hbody.mem_cases hx with ⟨p, rfl, htype, hp⟩ | hx
  · exact .inl (.body htype hp.accounts_parameters rfl)
  · exact .inr hx

theorem Contains.accounts_response {r : ControlResponse} (h : Contains ResponseFields e r) :
    Container.response.Accounts (ResponseShow r) e := by
  obtain ⟨es, rest, hvalue, hfields, htail⟩ := h
  exact .of_fields hvalue hfields.rest_eq htail fun _ => hfields.shows_or_mem

/-! ## Interests -/

theorem SelectorsFields.shows_or_mem {i : Interest} (h : SelectorsFields es (selectorsOf i) rest)
    (hx : x ∈ es) : SelectorsShow i x ∨ x ∈ rest := by
  generalize hi : selectorsOf i = s at h
  obtain ⟨hmin, hmax, hlocator, hexclude, hchild, hfresh⟩ := h
  simp only [selectorsOf, Selectors.mk.injEq] at hi
  obtain ⟨hminEq, hmaxEq, hlocatorEq, hexcludeEq, hchildEq, hfreshEq⟩ := hi
  rcases hmin.mem_cases hx with ⟨n, rfl, htype, hn⟩ | hx
  · exact .inl (.minSuffixComponents htype hn hminEq)
  rcases hmax.mem_cases hx with ⟨n, rfl, htype, hn⟩ | hx
  · exact .inl (.maxSuffixComponents htype hn hmaxEq)
  rcases hlocator.mem_cases hx with ⟨k, rfl, htype, hk⟩ | hx
  · exact .inl (.keyLocator htype (hlocatorEq ▸ hk))
  rcases hexclude.mem_cases hx with ⟨entries, rfl, htype, hentries⟩ | hx
  · exact .inl (.exclude htype (hexcludeEq ▸ hentries))
  rcases hchild.mem_cases hx with ⟨selector, rfl, htype, hselector⟩ | hx
  · exact .inl (.childSelector htype hselector hchildEq)
  rcases hfresh.mem_cases hx with ⟨bytes, rfl, htype, -⟩ | hx
  · exact .inl (.mustBeFresh htype hfreshEq)
  · exact .inr hx

theorem InterestFields.shows_or_mem {name : Name} {i : Interest} (h : InterestFields name es i rest)
    (hx : x ∈ es) : InterestShow i x ∨ x ∈ rest := by
  generalize hi : i = j
  obtain ⟨hselectors, hnonce, hscope, hlifetime, hlink, hselected, hfound⟩ := h
  next found _ _ _ _ _ s =>
  have hs : selectorsOf j = found.getD {} := hfound ▸ hi ▸ selectorsOf_eq rfl rfl
  subst hi
  rcases hselectors.mem_cases hx with ⟨s', rfl, htype, inner, left, hvalue, hfields, htail⟩ | hx
  · rw [Option.getD_some] at hs
    exact .inl (.selectors htype (.of_fields hvalue hfields.rest_eq htail
      fun _ => SelectorsFields.shows_or_mem (hs ▸ hfields)))
  rcases hnonce.mem_cases hx with ⟨htype, hbytes⟩ | hx
  · exact .inl (.nonce htype hbytes)
  rcases hscope.mem_cases hx with ⟨n, rfl, htype, hn⟩ | hx
  · exact .inl (.scope htype hn rfl)
  rcases hlifetime.mem_cases hx with ⟨n, rfl, htype, hn⟩ | hx
  · exact .inl (.lifetime htype hn rfl)
  rcases hlink.mem_cases hx with ⟨bytes, rfl, htype, hbytes⟩ | hx
  · exact .inl (.link htype hbytes)
  rcases hselected.mem_cases hx with ⟨n, rfl, htype, hn⟩ | hx
  · exact .inl (.selectedDelegation htype hn rfl)
  · exact .inr hx

theorem Container.Holds.accounts_interest {i : Interest} (h : Container.interest.Holds e i) :
    Container.interest.Accounts (InterestShow i) e := by
  obtain ⟨blob, hpacket, hbytes⟩ := h
  obtain ⟨-, hbytes', hvalue, -⟩ := id hpacket
  next packet name fields _ _ =>
  obtain rfl := Element.bytes_injective (hbytes.symm.trans hbytes')
  obtain ⟨-, _, components, _, rest, ⟨⟩, hname, hcomponents, hfields, htail⟩ :=
    hpacket.exists_fields hbytes hvalue
  refine .of_fields hvalue ((trailing_cons_of_eq hname).trans hfields.rest_eq) htail fun x hx => ?_
  rcases List.mem_cons.1 hx with rfl | hx
  · exact .inl (.name hname ⟨components, hcomponents, hfields.name_eq⟩)
  · exact hfields.shows_or_mem hx

/-! ## Decoding -/

/-- The second element is the first one without its trailing elements. -/
def Container.Trims (c : Container) (e e' : Element) : Prop :=
  e'.type = e.type ∧ ∃ es kept, HoldsElements e es ∧ es = kept ++ trailing c.fields es
    ∧ HoldsElements e' kept

/-- In whatever is decoded, all elements but the trailing ones are shown by the object, and the same is
decoded without the trailing ones. -/
def Container.DropsTrailing (c : Container) (config : PacketConfig)
    (Shows : c.Value → Element → Prop) (Decodes : Bytes → c.Value → Prop) : Prop :=
  ∀ input a, Decodes input a → ∃ e rest, input = Element.bytes e ++ rest ∧ c.Accounts (Shows a) e
    ∧ ∀ e', c.Trims e e' → e'.bytes.length ≤ config.maxPacketSize.toNat → Decodes e'.bytes a

theorem Container.IsDecodedBy.dropsTrailing {c : Container} {config : PacketConfig}
    {Decodes : Bytes → c.Value → Prop} {Shows : c.Value → Element → Prop}
    (h : c.IsDecodedBy type config Decodes) (hopen : ∀ e, c.IsOpen e)
    (haccounts : ∀ e a, c.Holds e a → c.Accounts (Shows a) e) :
    c.DropsTrailing config Shows Decodes := by
  intro input a hdecode
  obtain ⟨-, e, rest, hinput, htype, ha⟩ := (h input a).1 hdecode
  refine ⟨e, rest, hinput, haccounts e a ha, fun e' htrims hsize => (h e'.bytes a).2 ⟨hsize, e', [],
    (List.append_nil _).symm, ?_⟩⟩
  obtain ⟨htype', es, kept, hvalue, hkept, hvalue'⟩ := htrims
  exact ⟨htype'.trans htype, c.holds_of_alike ha hvalue hvalue' htype' (hopen e) (.cut hkept)⟩

/-- Whatever parameters, responses and Interests are decoded, with the parameters in a response and the
selectors in an Interest: an element is shown by a field of the object unless it is one of the trailing
elements and of a type that may be skipped. The object does not depend on the trailing elements, also not
on those of them that are of a known type. -/
theorem elements_shown_or_trailing (config : PacketConfig) :
    Container.parameters.DropsTrailing config ParametersShow
        (fun input p => (WireFormat.tlv config).decodeParameters input = .ok p)
      ∧ Container.response.DropsTrailing config ResponseShow
        (fun input r => (WireFormat.tlv config).decodeResponse input = .ok r)
      ∧ Container.interest.DropsTrailing config InterestShow
        (fun input i => ∃ blob, (WireFormat.tlv config).decodeInterest input = .ok (i, blob)) :=
  ⟨(isDecodedBy_parameters config).dropsTrailing (fun _ => nofun) fun _ _ h => h.accounts_parameters,
    (isDecodedBy_response config).dropsTrailing (fun _ => nofun) fun _ _ h => h.accounts_response,
    (isDecodedBy_interest config).dropsTrailing (fun _ => nofun) fun _ _ h => h.accounts_interest⟩

/-- A cost of parameters. -/
def costElement (n : UInt8) : Element :=
  .written ElementType.cost [n] (show 1 < UInt64.size by decide)

/-- Parameters with two costs. -/
def twoCosts : Element :=
  .written ElementType.controlParameters (concat [costElement 1, costElement 2]) (by decide)

/-- Of two costs the second one is trailing, and the first one is all that is needed. -/
theorem elements_shown_or_trailing_two_costs :
    (WireFormat.tlv {}).decodeParameters twoCosts.bytes = .ok { cost := some 1 }
      ∧ (WireFormat.tlv {}).decodeParameters [0x68, 0x03, 0x6a, 0x01, 0x01]
        = .ok { cost := some 1 } := by
  obtain ⟨hparameters, -, -⟩ := elements_shown_or_trailing {}
  have hdecode : (WireFormat.tlv {}).decodeParameters twoCosts.bytes = .ok { cost := some 1 } :=
    eq_ok_of_toOption (by decide +kernel)
  obtain ⟨e, rest, hinput, -, htrims⟩ := hparameters _ _ hdecode
  obtain ⟨rfl, -⟩ := Element.unique ((List.append_nil _).trans hinput)
  let oneCost : Element :=
    .written ElementType.controlParameters (concat [costElement 1]) (by decide)
  have htrim : Container.parameters.Trims twoCosts oneCost :=
    ⟨rfl, [costElement 1, costElement 2], [costElement 1], rfl, rfl, rfl⟩
  exact ⟨hdecode, htrims oneCost htrim (by decide)⟩

/-- Parameters with two costs are decoded, and the second cost is not shown by them. -/
theorem repeated_cost_dropped :
    twoCosts.bytes = [0x68, 0x06, 0x6a, 0x01, 0x01, 0x6a, 0x01, 0x02]
      ∧ (WireFormat.tlv {}).decodeParameters twoCosts.bytes = .ok { cost := some 1 }
      ∧ HoldsElements twoCosts [costElement 1, costElement 2]
      ∧ (costElement 2).type ∈ Container.parameters.fields
      ∧ ¬ ParametersShow { cost := some 1 } (costElement 2) := by
  refine ⟨rfl, eq_ok_of_toOption (by decide +kernel), rfl, by decide, ?_⟩
  have hholds : HoldsInteger (costElement 2) 2 := ⟨by decide, rfl⟩
  rintro (_ | _ | _ | _ | _ | ⟨-, hvalue, hfield⟩ | _ | _ | _)
  case cost =>
    cases hfield
    exact absurd (hvalue.unique hholds) (by decide)
  all_goals next htype _ _ => exact absurd htype (by decide)

end NamedData.Wire
