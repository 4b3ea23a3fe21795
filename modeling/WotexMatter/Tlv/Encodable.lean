/-
# WotexMatter.Tlv.Encodable -- what the encoder and the decoder ask of one element

`TLV.validate_element` encodes an element and decodes it again.  What passes is `WellFormed`: numbers
are in the range of their width, no container has more than 1023 children, arrays and structures
are tagged as they must be, and the same holds of every child.
-/
import WotexMatter.Tlv.RoundTrip

set_option autoImplicit false

namespace WotexMatter.Tlv

open WotexMatter.Storage WotexMatter.Theory

variable {F : Type} {floats : Floats F}

/-! ## The budget -/

mutual

/-- Every element takes a node. -/
theorem encodeElements_budget (elements : List (Element F)) {depth budget left : Nat}
    {bytes : Bytes} (encoded : encodeElements floats elements depth budget = some (bytes, left)) :
    elements.length + left ≤ budget := by
  match elements with
  | [] =>
      rw [encodeElements] at encoded
      obtain ⟨-, rfl⟩ := Prod.mk.inj (Option.some.inj encoded)
      simp
  | element :: others =>
      rw [encodeElements] at encoded
      simp only [Option.ite_none_right_eq_some, Option.bind_eq_bind, Option.bind_eq_some_iff,
        Prod.exists, Option.some.injEq, Prod.mk.injEq] at encoded
      obtain ⟨guard, _, _, -, _, _, middle, valued, _, last, others', -, -, rfl⟩ := encoded
      have first := encodeValue_budget element valued
      have rest := encodeElements_budget others others'
      rw [List.length_cons]
      omega

theorem encodeValue_budget (element : Element F) {depth budget left typeControl : Nat}
    {body : Bytes}
    (encoded : encodeValue floats element depth budget = some (typeControl, body, left)) :
    left ≤ budget := by
  match element with
  | .scalar tag value =>
      rw [encodeValue] at encoded
      obtain ⟨_, -, same⟩ := Option.map_eq_some_iff.mp encoded
      obtain ⟨-, -, rfl⟩ := Prod.mk.inj same |>.imp id Prod.mk.inj
      exact le_refl _
  | .container tag kind children =>
      rw [encodeValue] at encoded
      simp only [Option.ite_none_right_eq_some, Option.bind_eq_bind, Option.bind_eq_some_iff,
        Prod.exists, Option.some.injEq, Prod.mk.injEq] at encoded
      obtain ⟨-, _, middle, below, -, -, rfl⟩ := encoded
      have := encodeElements_budget children below
      omega

end

/-- The element can be written below another one. -/
def Encodable (floats : Floats F) (element : Element F) : Prop :=
  ∃ depth budget written, budget ≤ 1023 ∧ encodeValue floats element depth budget = some written

theorem encodeElements_encodable {elements : List (Element F)} :
    ∀ {depth budget : Nat} {written : Bytes × Nat}, budget ≤ 1024 →
      encodeElements floats elements depth budget = some written →
        ∀ element ∈ elements, Encodable floats element := by
  induction elements with
  | nil =>
      intro depth budget written _ _ element inside
      cases inside
  | cons first rest ih =>
      intro depth budget written bound encoded
      rw [encodeElements] at encoded
      simp only [Option.ite_none_right_eq_some, Option.bind_eq_bind, Option.bind_eq_some_iff,
        Prod.exists, Option.some.injEq] at encoded
      obtain ⟨guard, _, _, -, _, _, middle, valued, _, last, others, -, -⟩ := encoded
      have less := encodeValue_budget first valued
      exact List.forall_mem_cons.mpr
        ⟨⟨depth, budget - 1, _, by omega, valued⟩, ih (by omega) others⟩

theorem Encodable.children {tag : Tag} {kind : Container} {children : List (Element F)}
    (encodable : Encodable floats (.container tag kind children)) :
    children.length ≤ 1023 ∧ ∀ child ∈ children, Encodable floats child := by
  obtain ⟨depth, budget, written, bound, encoded⟩ := encodable
  rw [encodeValue] at encoded
  simp only [Option.ite_none_right_eq_some, Option.bind_eq_bind, Option.bind_eq_some_iff,
    Prod.exists] at encoded
  obtain ⟨-, _, left, below, -⟩ := encoded
  have nodes := encodeElements_budget children below
  exact ⟨by omega, encodeElements_encodable (by omega) below⟩

theorem Encodable.unsigned {tag : Tag} {width : Width} {value : Int}
    (encodable : Encodable floats (.scalar tag (.unsigned width value))) :
    0 ≤ value ∧ value < 256 ^ width.octets := by
  obtain ⟨depth, budget, written, -, encoded⟩ := encodable
  rw [encodeValue] at encoded
  obtain ⟨_, number, -⟩ := Option.map_eq_some_iff.mp encoded
  rw [encodeScalar, Option.ite_none_right_eq_some] at number
  exact number.1

theorem Encodable.signed {tag : Tag} {width : Width} {value : Int}
    (encodable : Encodable floats (.scalar tag (.signed width value))) :
    LittleEndian.Signed width.octets value := by
  obtain ⟨depth, budget, written, -, encoded⟩ := encodable
  rw [encodeValue] at encoded
  obtain ⟨_, number, -⟩ := Option.map_eq_some_iff.mp encoded
  rw [encodeScalar, Option.ite_none_right_eq_some] at number
  exact number.1

/-! ## Well-formed elements -/

/-- What is asked of an element without floats. -/
structure WellFormed (floats : Floats F) (element : Element F) : Prop where
  encodable : Encodable floats element
  inside : inside element = true
  tags : validChildren element.value = true

theorem admissible_mem {elements : List (Element F)} (within : admissible elements = true) :
    ∀ element ∈ elements, Tlv.inside element = true ∧ validChildren element.value = true := by
  induction elements with
  | nil =>
      intro element inside
      cases inside
  | cons first rest ih =>
      rw [admissible, Bool.and_eq_true, Bool.and_eq_true] at within
      exact List.forall_mem_cons.mpr ⟨within.1, ih within.2⟩

theorem WellFormed.children {tag : Tag} {kind : Container} {children : List (Element F)}
    (formed : WellFormed floats (.container tag kind children)) :
    ∀ child ∈ children, WellFormed floats child := by
  intro child listed
  obtain ⟨within, tags⟩ := admissible_mem formed.inside child listed
  exact ⟨formed.encodable.children.2 child listed, within, tags⟩

theorem WellFormed.structure_tags {tag : Tag} {children : List (Element F)}
    (formed : WellFormed floats (.container tag .structure children)) :
    (∀ child ∈ children, child.tag ≠ .anonymous) ∧ (children.map Element.tag).Nodup := by
  have tags := formed.tags
  simp only [Element.value, validChildren, Bool.and_eq_true, decide_eq_true_eq] at tags
  exact ⟨fun child listed anonymous => tags.1 (anonymous ▸ List.mem_map_of_mem listed), tags.2⟩

theorem WellFormed.array_tags {tag : Tag} {children : List (Element F)}
    (formed : WellFormed floats (.container tag .array children)) :
    ∀ child ∈ children, child.tag = .anonymous := by
  have tags := formed.tags
  simp only [Element.value, validChildren, List.all_eq_true, decide_eq_true_eq] at tags
  exact tags

/-- **What validation passes is well formed, has no tag outside and is left as it is.** -/
theorem validateElement_wellFormed {element normalized : Element F}
    (free : element.floatFree = true)
    (validated : validateElement floats element = some normalized) :
    normalized = element ∧ element.tag = .anonymous ∧ WellFormed floats element := by
  obtain ⟨outer, bytes, encoded, -⟩ := validateElement_some validated
  obtain ⟨within, -⟩ := encode_admissible (by rw [floatFree, free]; rfl) encoded
  obtain ⟨inside, tags⟩ := admissible_mem within element (List.mem_singleton_self _)
  obtain ⟨left, written, -, -⟩ := encode_some encoded
  exact ⟨validateElement_same free validated, outer,
    encodeElements_encodable (le_refl _) written element (List.mem_singleton_self _), inside, tags⟩

end WotexMatter.Tlv
