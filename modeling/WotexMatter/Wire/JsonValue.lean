/-
# WotexMatter.Wire.JsonValue -- the value of a JSON document

Two documents are one JSON value if they differ only in the order of members and in whether a
number is kept signed or unsigned.  `canonical` is the normal form: members sorted by key, whole
numbers signed.

`exactKeys_perm` is what `ExactKeys` says of an object: its members are these keys, each once, so
`canonical_exact` knows the normal form without knowing the order.  Where only the number of keys
is compared, `counted_perm` says the same of the keys that are there, and
`canonical_fields_iff` compares two objects field by field.
-/
import WotexMatter.Theory.Collation
import WotexMatter.Wire.RequestEnvelope

set_option autoImplicit false

namespace WotexMatter.Wire

open WotexMatter.Storage WotexMatter.Theory

/-! ## Normal form -/

/-- How keys are sorted. -/
def keyRank (member : Bytes × Json) : List Nat := member.1.map UInt8.toNat

mutual

def canonical : Json → Json
  | .null => .null
  | .boolean value => .boolean value
  | .unsigned value => .integer value.toNat
  | .integer value => .integer value
  | .floating literal => .floating literal
  | .string value => .string value
  | .array items => .array (canonicalItems items)
  | .object members => .object (Collation.sortBy keyRank (canonicalMembers members))

def canonicalItems : List Json → List Json
  | [] => []
  | item :: rest => canonical item :: canonicalItems rest

def canonicalMembers : List (Bytes × Json) → List (Bytes × Json)
  | [] => []
  | (key, value) :: rest => (key, canonical value) :: canonicalMembers rest

end

@[simp] theorem canonical_object (members : List (Bytes × Json)) :
    canonical (.object members) =
      .object (Collation.sortBy keyRank (canonicalMembers members)) := rfl

@[simp] theorem canonicalMembers_cons (member : Bytes × Json) (rest : List (Bytes × Json)) :
    canonicalMembers (member :: rest) =
      (member.1, canonical member.2) :: canonicalMembers rest := rfl

theorem canonicalMembers_map (members : List (Bytes × Json)) :
    canonicalMembers members = members.map fun member => (member.1, canonical member.2) := by
  induction members with
  | nil => rfl
  | cons member rest ih => rw [canonicalMembers_cons, ih, List.map_cons]

theorem keyRank_injective : Function.Injective (List.map UInt8.toNat) :=
  List.map_injective_iff.mpr fun _ _ => UInt8.toNat_inj.mp

/-! ## Exact keys -/

/-- An object with exactly these keys has them once each. -/
theorem exactKeys_perm {members listed : List (Bytes × Json)}
    (exact : exactKeys members (listed.map Prod.fst) = true)
    (distinct : (listed.map Prod.fst).Nodup)
    (found : ∀ member ∈ listed, members.lookup member.1 = some member.2) :
    members.Perm listed := by
  rw [exactKeys, Bool.and_eq_true, decide_eq_true_eq, List.length_map] at exact
  have inside : listed ⊆ members := by
    intro member known
    obtain ⟨before, after, rfl, -⟩ := List.lookup_eq_some_iff.mp (found member known)
    exact List.mem_append_right _ List.mem_cons_self
  exact ((List.subperm_of_subset distinct.of_map inside).perm_of_length_le exact.1.le).symm

/-- The normal form of an object with exactly these keys, which are given in order. -/
theorem canonical_exact {members : List (Bytes × Json)} (listed : List (Bytes × Json))
    (exact : exactKeys members (listed.map Prod.fst) = true)
    (sorted : (listed.map keyRank).Pairwise (· < ·))
    (found : ∀ member ∈ listed, members.lookup member.1 = some member.2) :
    canonical (.object members) =
      .object (listed.map fun member => (member.1, canonical member.2)) := by
  have ranked : (listed.map keyRank).Nodup := sorted.imp fun less => ne_of_lt less
  have distinct : (listed.map Prod.fst).Nodup := by
    rw [show keyRank = List.map UInt8.toNat ∘ Prod.fst from rfl, ← List.map_map] at ranked
    exact ranked.of_map _
  have perm : (canonicalMembers members).Perm
      (listed.map fun member => (member.1, canonical member.2)) := by
    rw [canonicalMembers_map]
    exact (exactKeys_perm exact distinct found).map _
  have ranks : ((listed.map fun member => (member.1, canonical member.2)).map keyRank) =
      listed.map keyRank := by
    rw [List.map_map]
    rfl
  have already : (listed.map fun member => (member.1, canonical member.2)).Pairwise
      fun first second => keyRank first ≤ keyRank second := by
    rw [← List.pairwise_map (f := keyRank), ranks]
    exact sorted.imp fun less => le_of_lt less
  rw [canonical_object, Collation.sortBy_congr perm (ranks ▸ ranked)]
  exact congrArg _ already.insertionSort_eq

/-! ## Counted keys -/

theorem canonical_perm {members others : List (Bytes × Json)} (perm : members.Perm others)
    (distinct : (others.map Prod.fst).Nodup) :
    canonical (.object members) = canonical (.object others) := by
  have ranked : ((canonicalMembers others).map keyRank).Nodup := by
    rw [canonicalMembers_map, List.map_map]
    show (others.map (List.map UInt8.toNat ∘ Prod.fst)).Nodup
    rw [← List.map_map]
    exact distinct.map keyRank_injective
  have perm : (canonicalMembers members).Perm (canonicalMembers others) := by
    rw [canonicalMembers_map, canonicalMembers_map]
    exact perm.map _
  rw [canonical_object, canonical_object, Collation.sortBy_congr perm ranked]

theorem canonical_object_length {members others : List (Bytes × Json)}
    (same : canonical (.object members) = canonical (.object others)) :
    members.length = others.length := by
  have long : ∀ members, (Collation.sortBy keyRank (canonicalMembers members)).length =
      members.length := by
    intro members
    rw [(Collation.sortBy_perm keyRank _).length_eq, canonicalMembers_map, List.length_map]
  rw [canonical_object, canonical_object, Json.object.injEq] at same
  rw [← long members, same, long]

section

variable {ι : Type} {key : ι → Bytes} {known : List ι}

/-- The object with these fields, as far as they are there. -/
def fieldMembers (key : ι → Bytes) (known : List ι) (field : ι → Option Json) :
    List (Bytes × Json) :=
  known.filterMap fun name => (field name).map fun value => (key name, value)

theorem mem_fieldMembers {field : ι → Option Json} {member : Bytes × Json} :
    member ∈ fieldMembers key known field ↔
      ∃ name ∈ known, key name = member.1 ∧ field name = some member.2 := by
  simp only [fieldMembers, List.mem_filterMap, Option.map_eq_some_iff]
  constructor
  · rintro ⟨name, listed, value, there, rfl⟩
    exact ⟨name, listed, rfl, there⟩
  · rintro ⟨name, listed, same, there⟩
    exact ⟨name, listed, member.2, there, by rw [same]⟩

theorem fieldMembers_keys (known : List ι) (field : ι → Option Json) :
    (fieldMembers key known field).map Prod.fst =
      (known.filter fun name => (field name).isSome).map key := by
  rw [fieldMembers]
  induction known with
  | nil => rfl
  | cons name rest ih =>
      cases there : field name with
      | none =>
          rw [List.filterMap_cons_none (by rw [there, Option.map_none]), ih,
            List.filter_cons_of_neg (by simp [there])]
      | some value =>
          rw [List.filterMap_cons_some (by rw [there, Option.map_some]), List.map_cons, ih,
            List.filter_cons_of_pos (by simp [there]), List.map_cons]

theorem fieldMembers_distinct (distinct : (known.map key).Nodup) (field : ι → Option Json) :
    ((fieldMembers key known field).map Prod.fst).Nodup := by
  rw [fieldMembers_keys]
  exact distinct.sublist (List.filter_sublist.map key)

theorem canonicalMembers_fieldMembers (field : ι → Option Json) :
    canonicalMembers (fieldMembers key known field) =
      fieldMembers key known fun name => (field name).map canonical := by
  rw [canonicalMembers_map, fieldMembers, fieldMembers, List.map_filterMap]
  congr 1
  funext name
  rw [Option.map_map, Option.map_map]
  rfl

/-- An object with as many members as there are known fields in it has these and no others. -/
theorem counted_perm {members : List (Bytes × Json)} (distinct : (known.map key).Nodup)
    (counted : members.length =
      (known.filter fun name => (members.lookup (key name)).isSome).length) :
    members.Perm (fieldMembers key known fun name => members.lookup (key name)) := by
  have apart := (fieldMembers_distinct distinct fun name => members.lookup (key name)).of_map
  have inside : fieldMembers key known (fun name => members.lookup (key name)) ⊆ members := by
    intro member listed
    obtain ⟨name, -, same, found⟩ := mem_fieldMembers.mp listed
    obtain ⟨before, after, split, -⟩ := List.lookup_eq_some_iff.mp found
    rw [split, same]
    exact List.mem_append_right _ List.mem_cons_self
  have long : (fieldMembers key known fun name => members.lookup (key name)).length =
      members.length := by
    rw [counted, ← List.length_map, fieldMembers_keys, List.length_map]
  exact ((List.subperm_of_subset apart inside).perm_of_length_le long.ge).symm

/-- Objects with known fields are one value if they are field by field. -/
theorem canonical_fields_iff (distinct : (known.map key).Nodup) {first second : ι → Option Json} :
    canonical (.object (fieldMembers key known first)) =
        canonical (.object (fieldMembers key known second)) ↔
      ∀ name ∈ known, (first name).map canonical = (second name).map canonical := by
  constructor
  · intro same
    rw [canonical_object, canonical_object, canonicalMembers_fieldMembers,
      canonicalMembers_fieldMembers, Json.object.injEq] at same
    have perm := (Collation.sortBy_perm keyRank _).symm.trans
      (same ▸ Collation.sortBy_perm keyRank _)
    intro name listed
    have owner : ∀ {other : ι}, other ∈ known → key other = key name → other = name :=
      fun known' same => List.inj_on_of_nodup_map distinct known' listed same
    have entry : ∀ {field : ι → Option Json} {value : Json},
        (key name, value) ∈ fieldMembers key known field ↔ field name = some value := by
      intro field value
      rw [mem_fieldMembers]
      constructor
      · rintro ⟨other, known', same, there⟩
        rwa [owner known' same] at there
      · intro there
        exact ⟨name, listed, rfl, there⟩
    exact Option.ext fun value => (entry.symm.trans perm.mem_iff.symm).trans entry
  · intro same
    rw [canonical_object, canonical_object, canonicalMembers_fieldMembers,
      canonicalMembers_fieldMembers]
    have members : (fieldMembers key known fun name => (first name).map canonical) =
        fieldMembers key known fun name => (second name).map canonical := by
      rw [fieldMembers, fieldMembers]
      exact List.filterMap_congr fun name listed => by rw [same name listed]
    rw [members]

end

end WotexMatter.Wire
