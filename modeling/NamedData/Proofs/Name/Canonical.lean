import Mathlib.Data.List.Basic
import NamedData.Packet.Exclude
import NamedData.Proofs.Name.Uri

/-!
# Values are told apart by their texts

The only equals sign of a segment stands behind the word of the type, so the segment tells the word, with it the
type, and then the value (`Component.segment_injective`). No segment is empty or holds a slash, a comma or an
asterisk, so the segments of a path and the entries of an exclude are found again. Different names and different
excludes have different texts, also where these are read as something else or not at all (`toUri_injective`).
-/

namespace NamedData

/-! ## Components -/

namespace Component

/-- The text before the equals sign of a segment, none if the segment has no equals sign. -/
def typeWord : ComponentType → Option (List Char)
  | .implicitSha256Digest => some implicitDigestWord.dropLast
  | .parametersSha256Digest => some parametersDigestWord.dropLast
  | .generic => none
  | .other code => some (Text.Numeral.render code.toNat)

theorem typeWord_injective : Function.Injective typeWord := by
  intro type type' h
  -- the words of digests start with letters, numerals with digits
  have hletter (code : UInt64) (d : Char) (rest : List Char) (hd : Text.Numeral.isDigit d = false) :
      typeWord (.other code) ≠ some (d :: rest) :=
    fun h => Text.Numeral.render_ne_cons hd rest (Option.some.inj h)
  cases type <;> cases type'
  case other.other code code' =>
    have hcode := Text.Numeral.render_injective (Option.some.inj h)
    rw [UInt64.toNat_inj.1 hcode]
  case other.implicitSha256Digest => exact absurd h (hletter _ _ _ rfl)
  case other.parametersSha256Digest => exact absurd h (hletter _ _ _ rfl)
  case implicitSha256Digest.other => exact absurd h.symm (hletter _ _ _ rfl)
  case parametersSha256Digest.other => exact absurd h.symm (hletter _ _ _ rfl)
  all_goals first | rfl | cases h

theorem splitOnce_segment (c : Component) :
    (Text.splitOnce '=' c.segment).map Prod.fst = typeWord c.type := by
  have himplicit : '=' ∉ implicitDigestWord.dropLast := by decide
  have hparameters : '=' ∉ parametersDigestWord.dropLast := by decide
  obtain ⟨type, value⟩ := c
  cases type with
  | implicitSha256Digest => exact congrArg (Option.map Prod.fst) (Text.splitOnce_append himplicit)
  | parametersSha256Digest => exact congrArg (Option.map Prod.fst) (Text.splitOnce_append hparameters)
  | generic =>
    exact congrArg (Option.map Prod.fst) (Text.splitOnce_eq_none (Name.equals_not_mem_escape value))
  | other code =>
    have hdigits : '=' ∉ Text.Numeral.render code.toNat := fun h =>
      absurd (Text.Numeral.isDigit_of_mem_render h) (by decide)
    exact congrArg (Option.map Prod.fst) (Text.splitOnce_append hdigits)

/-- A component has a segment of its own. -/
theorem segment_injective : Function.Injective segment := by
  intro c d h
  have hword : typeWord c.type = typeWord d.type := by
    rw [← splitOnce_segment, ← splitOnce_segment, h]
  obtain ⟨type, value⟩ := c
  obtain ⟨type', value'⟩ := d
  obtain rfl : type = type' := typeWord_injective hword
  -- behind the same word the text is that of the value
  have hvalue : value = value' := by
    cases type with
    | implicitSha256Digest => exact Text.Hex.encode_injective (List.append_cancel_left h)
    | parametersSha256Digest => exact Text.Hex.encode_injective (List.append_cancel_left h)
    | generic => exact Name.escape_injective h
    | other code => exact Name.escape_injective (List.cons.inj (List.append_cancel_left h)).2
  rw [hvalue]

end Component

/-! ## Lists in pieces -/

/-- The texts of the items; without items there is one that is empty. -/
def pieces {α : Type} (text : α → List Char) : List α → List (List Char)
  | [] => [[]]
  | items => items.map text

theorem pieces_injective {α : Type} {text : α → List Char} (htext : Function.Injective text)
    (hne : ∀ a, text a ≠ []) : Function.Injective (pieces text) := by
  have hempty (a : α) (items : List α) : pieces text (a :: items) ≠ pieces text [] := fun h =>
    hne a (List.cons.inj h).1
  intro items items' h
  cases items with
  | nil =>
    cases items' with
    | nil => rfl
    | cons b items' => exact absurd h.symm (hempty b items')
  | cons a items =>
    cases items' with
    | nil => exact absurd h (hempty a items)
    | cons b items' => exact List.map_injective_iff.2 htext h

/-! ## Names -/

namespace Name

theorem segments_path (n : Name) :
    Text.segments '/' n.path.tail = pieces Component.segment n.components := by
  obtain ⟨components⟩ := n
  cases components with
  | nil => rfl
  | cons c others =>
    have hno (c : Component) : '/' ∉ c.segment := Component.not_mem_segment (by decide) (by decide)
    rw [path_cons, List.tail_cons]
    exact Text.segments_flatMap (hno c) (by simp [hno])

theorem path_injective : Function.Injective path := by
  intro n n' h
  have hpieces : pieces Component.segment n.components = pieces Component.segment n'.components := by
    rw [← segments_path, ← segments_path, h]
  exact congrArg Name.mk (pieces_injective Component.segment_injective Component.segment_ne_nil hpieces)

end Name

/-! ## Excludes -/

namespace Exclude

theorem entryText_ne_nil (entry : ExcludeEntry) : entryText entry ≠ [] := by
  cases entry with
  | any => exact List.cons_ne_nil _ _
  | component c => exact Component.segment_ne_nil c

theorem comma_not_mem_entryText (entry : ExcludeEntry) : ',' ∉ entryText entry := by
  cases entry with
  | any => exact (by decide : ',' ∉ ['*'])
  | component c => exact Component.not_mem_segment (by decide) (by decide)

theorem entryText_injective : Function.Injective entryText := by
  have hmark (c : Component) : c.segment ≠ ['*'] := by
    intro h
    have hno : '*' ∉ c.segment := Component.not_mem_segment (by decide) (by decide)
    exact hno (h ▸ List.mem_cons_self)
  intro entry entry' h
  cases entry with
  | any =>
    cases entry' with
    | any => rfl
    | component d => exact absurd h.symm (hmark d)
  | component c =>
    cases entry' with
    | any => exact absurd h (hmark c)
    | component d => exact congrArg ExcludeEntry.component (Component.segment_injective h)

theorem segments_path (e : Exclude) : Text.segments ',' e.path = pieces entryText e.entries := by
  obtain ⟨entries⟩ := e
  cases entries with
  | nil => rfl
  | cons entry others =>
    refine Text.segments_intercalate (List.cons_ne_nil _ _) ?_
    simp [comma_not_mem_entryText]

theorem path_injective : Function.Injective path := by
  intro e e' h
  have hpieces : pieces entryText e.entries = pieces entryText e'.entries := by
    rw [← segments_path, ← segments_path, h]
  exact congrArg Exclude.mk (pieces_injective entryText_injective entryText_ne_nil hpieces)

end Exclude

/-- Names with one text are equal, whatever the types and the values of their components are, and so are
excludes with one text. -/
theorem toUri_injective : Function.Injective Name.toUri ∧ Function.Injective Exclude.toUri :=
  ⟨fun _ _ h => Name.path_injective (String.ofList_injective h),
    fun _ _ h => Exclude.path_injective (String.ofList_injective h)⟩

end NamedData
