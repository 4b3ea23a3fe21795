/-
# WotexMatter.Theory.Table -- finite maps with values of one type

`std::unordered_map` on the native side and Elixir maps on the BEAM side are both
finite maps that no caller reads in iteration order.  A `Table K V` is Mathlib's
`Finmap` at a constant family; this module adds what that API leaves out and the
two programs use: rewriting or dropping every entry (`filterMap`), counting the
entries whose value satisfies a predicate (`count`) and summing a weight over the
values (`total`).

All three are determined by `lookup`, so two tables that agree on every key agree
on them as well (`Finmap.ext_lookup`).
-/
import Mathlib.Data.Finmap
import Mathlib.Algebra.BigOperators.Group.Finset.Basic
import Mathlib.Algebra.Order.BigOperators.Group.Finset

set_option autoImplicit false

namespace WotexMatter.Theory

/-- A finite map from `K` to `V`. -/
abbrev Table (K V : Type) := Finmap fun _ : K => V

namespace Table

variable {K V W : Type} [DecidableEq K]

@[simp] theorem lookup_insert_self (t : Table K V) (k : K) (v : V) :
    (t.insert k v).lookup k = some v :=
  Finmap.lookup_insert t

/-- What is written is read, and nothing else changes. -/
theorem lookup_insert (t : Table K V) (k k' : K) (v : V) :
    (t.insert k v).lookup k' = if k' = k then some v else t.lookup k' := by
  split
  · rename_i same
    subst same
    exact Finmap.lookup_insert t
  · rename_i different
    exact Finmap.lookup_insert_of_ne t different

/-- What is erased is gone, and nothing else is. -/
theorem lookup_erase (t : Table K V) (k k' : K) :
    (t.erase k).lookup k' = if k' = k then none else t.lookup k' := by
  split
  · rename_i same
    subst same
    exact Finmap.lookup_erase k' t
  · rename_i different
    exact Finmap.lookup_erase_ne different

/-- The keys are where a look-up succeeds. -/
theorem mem_keys_iff (t : Table K V) (k : K) : k ∈ t.keys ↔ (t.lookup k).isSome := by
  rw [Finmap.mem_keys, Finmap.lookup_isSome]

theorem mem_keys_of_lookup {t : Table K V} {k : K} {v : V} (found : t.lookup k = some v) :
    k ∈ t.keys := by
  rw [mem_keys_iff, found]
  rfl

theorem keys_insert (t : Table K V) (k : K) (v : V) : (t.insert k v).keys = insert k t.keys := by
  ext x
  rw [mem_keys_iff, lookup_insert, Finset.mem_insert, mem_keys_iff]
  split <;> simp_all

/-- Writing a present key keeps the key set. -/
theorem keys_insert_of_lookup {t : Table K V} {k : K} {v w : V} (found : t.lookup k = some w) :
    (t.insert k v).keys = t.keys := by
  rw [keys_insert, Finset.insert_eq_of_mem (mem_keys_of_lookup found)]

/-- Writing what is there changes nothing. -/
theorem insert_of_lookup {t : Table K V} {k : K} {v : V} (found : t.lookup k = some v) :
    t.insert k v = t := by
  apply Finmap.ext_lookup
  intro x
  rw [lookup_insert]
  split
  · rename_i same
    rw [same, found]
  · rfl

/-- The last write of a key stands. -/
theorem insert_insert_self (t : Table K V) (k : K) (v w : V) :
    (t.insert k v).insert k w = t.insert k w := by
  apply Finmap.ext_lookup
  intro x
  simp only [lookup_insert]
  split <;> rfl

/-- An erased key forgets the write before. -/
theorem erase_insert_self (t : Table K V) (k : K) (v : V) : (t.insert k v).erase k = t.erase k := by
  apply Finmap.ext_lookup
  intro x
  simp only [lookup_insert, lookup_erase]
  split <;> simp_all

/-! ## The table of a list -/

/-- `Map.new`: a later entry replaces an earlier one under its key. -/
def ofList {A : Type} (key : A → K) (value : A → V) (entries : List A) : Table K V :=
  entries.foldl (fun t entry => t.insert (key entry) (value entry)) ∅

section

variable {A : Type} {key : A → K} {value : A → V}

theorem mem_keys_foldl_insert {entries : List A} {t : Table K V} {k : K} :
    k ∈ (entries.foldl (fun t entry => t.insert (key entry) (value entry)) t).keys ↔
      k ∈ entries.map key ∨ k ∈ t.keys := by
  induction entries generalizing t with
  | nil => simp
  | cons entry rest ih =>
      rw [List.foldl_cons, ih, keys_insert, Finset.mem_insert, List.map_cons, List.mem_cons]
      tauto

@[simp] theorem mem_keys_ofList {entries : List A} {k : K} :
    k ∈ (ofList key value entries).keys ↔ k ∈ entries.map key := by
  rw [ofList, mem_keys_foldl_insert, Finmap.keys_empty]
  simp

/-- With distinct keys each entry is read back, over what stood there before. -/
theorem lookup_foldl_insert {entries : List A} (distinct : (entries.map key).Nodup)
    {t : Table K V} {k : K} {v : V} :
    (entries.foldl (fun t entry => t.insert (key entry) (value entry)) t).lookup k = some v ↔
      (∃ entry ∈ entries, key entry = k ∧ value entry = v) ∨
        (k ∉ entries.map key ∧ t.lookup k = some v) := by
  induction entries generalizing t with
  | nil => simp
  | cons entry rest ih =>
      obtain ⟨fresh, distinct⟩ := List.nodup_cons.mp distinct
      rw [List.foldl_cons, ih distinct, lookup_insert]
      by_cases here : k = key entry
      · rw [if_pos here, here]
        simp [fresh, or_comm]
      · rw [if_neg here]
        simp [here, Ne.symm here]

/-- Under keys that differ, the entries are what the list holds. -/
theorem lookup_ofList {entries : List A} (distinct : (entries.map key).Nodup) {k : K} {v : V} :
    (ofList key value entries).lookup k = some v ↔
      ∃ entry ∈ entries, key entry = k ∧ value entry = v := by
  rw [ofList, lookup_foldl_insert distinct]
  simp

end

/-! ## Rewriting and dropping entries -/

/-- Rewrite every value, dropping the entries for which `f` has none. -/
def filterMap (f : K → V → Option W) (t : Table K V) : Table K W :=
  Finmap.keysLookupEquiv.symm
    ⟨(t.keys.filter fun k => ((t.lookup k).bind (f k)).isSome, fun k => (t.lookup k).bind (f k)),
      fun k => by
        rw [Finset.mem_filter, mem_keys_iff]
        cases found : t.lookup k <;> simp [found]⟩

@[simp] theorem lookup_filterMap (f : K → V → Option W) (t : Table K V) (k : K) :
    (filterMap f t).lookup k = (t.lookup k).bind (f k) :=
  Finmap.keysLookupEquiv_symm_apply_lookup _ k

/-! ## Counting and summing -/

/-- How many values satisfy `p`. -/
def count (p : V → Bool) (t : Table K V) : Nat :=
  (t.keys.filter fun k => (t.lookup k).any p).card

/-- How many entries there are. -/
def size (t : Table K V) : Nat := t.keys.card

/-- The sum of `weight` over the values. -/
def total (weight : V → Nat) (t : Table K V) : Nat :=
  ∑ k ∈ t.keys, (t.lookup k).elim 0 weight

/-- Nothing is counted if and only if no entry satisfies the predicate. -/
theorem count_eq_zero_iff {p : V → Bool} {t : Table K V} :
    count p t = 0 ↔ ∀ k v, t.lookup k = some v → p v = false := by
  rw [count, Finset.card_eq_zero, Finset.filter_eq_empty_iff]
  constructor
  · intro none k v found
    have refused := none (mem_keys_of_lookup found)
    rwa [found, Option.any_some, Bool.not_eq_true] at refused
  · intro refused k member
    cases found : t.lookup k with
    | none => simp
    | some v => simp [refused k v found]

theorem size_insert_le (t : Table K V) (k : K) (v : V) : size (t.insert k v) ≤ size t + 1 := by
  unfold size
  rw [keys_insert]
  exact Finset.card_insert_le _ _

theorem size_insert_of_lookup {t : Table K V} {k : K} {v w : V} (found : t.lookup k = some w) :
    size (t.insert k v) = size t := by
  unfold size
  rw [keys_insert_of_lookup found]

theorem size_erase_le (t : Table K V) (k : K) : size (t.erase k) ≤ size t := by
  unfold size
  rw [Finmap.keys_erase]
  exact Finset.card_le_card (Finset.erase_subset _ _)

/-- A write counts for one at most. -/
theorem count_insert_le (p : V → Bool) (t : Table K V) (k : K) (v : V) :
    count p (t.insert k v) ≤ count p t + 1 := by
  unfold count
  refine (Finset.card_le_card (t := insert k (t.keys.filter fun k => (t.lookup k).any p))
    ?_).trans (Finset.card_insert_le _ _)
  intro x member
  rw [Finset.mem_filter, keys_insert, Finset.mem_insert, lookup_insert] at member
  rw [Finset.mem_insert, Finset.mem_filter]
  by_cases same : x = k
  · exact Or.inl same
  · rw [if_neg same] at member
    exact Or.inr ⟨member.1.resolve_left same, member.2⟩

/-- Overwriting a value with one that `p` accepts only if it accepted the old
value does not raise the count. -/
theorem count_insert_of_lookup_le {p : V → Bool} {t : Table K V} {k : K} {v w : V}
    (found : t.lookup k = some w) (kept : p v → p w) :
    count p (t.insert k v) ≤ count p t := by
  unfold count
  apply Finset.card_le_card
  intro x member
  rw [Finset.mem_filter, keys_insert_of_lookup found, lookup_insert] at member
  rw [Finset.mem_filter]
  refine ⟨member.1, ?_⟩
  by_cases same : x = k
  · subst same
    rw [if_pos rfl, Option.any_some] at member
    rw [found, Option.any_some]
    exact kept member.2
  · rw [if_neg same] at member
    exact member.2

theorem count_erase_le (p : V → Bool) (t : Table K V) (k : K) :
    count p (t.erase k) ≤ count p t := by
  unfold count
  apply Finset.card_le_card
  intro x member
  rw [Finset.mem_filter, Finmap.keys_erase, Finset.mem_erase, lookup_erase,
    if_neg (by rintro rfl; exact member.1.1 rfl)] at member
  rw [Finset.mem_filter]
  exact ⟨member.1.2, member.2⟩

theorem keys_filterMap_subset (f : K → V → Option W) (t : Table K V) :
    (filterMap f t).keys ⊆ t.keys := by
  intro k member
  rw [mem_keys_iff, lookup_filterMap] at member
  rw [mem_keys_iff]
  cases found : t.lookup k <;> simp_all

theorem size_filterMap_le (f : K → V → Option W) (t : Table K V) :
    size (filterMap f t) ≤ size t :=
  Finset.card_le_card (keys_filterMap_subset f t)

/-- A filter that keeps the predicate adds nothing to the count. -/
theorem count_filterMap_le {p : V → Bool} {q : W → Bool} {f : K → V → Option W} {t : Table K V}
    (kept : ∀ k v w, f k v = some w → q w → p v) : count q (filterMap f t) ≤ count p t := by
  apply Finset.card_le_card
  intro k member
  rw [Finset.mem_filter, lookup_filterMap] at member
  rw [Finset.mem_filter]
  refine ⟨keys_filterMap_subset f t member.1, ?_⟩
  obtain ⟨w, found, accepted⟩ := (Option.any_eq_true _ _).1 member.2
  obtain ⟨v, found, maps⟩ := Option.bind_eq_some_iff.1 found
  rw [found, Option.any_some]
  exact kept k v w maps accepted

theorem notMem_keys_of_lookup {t : Table K V} {k : K} (fresh : t.lookup k = none) : k ∉ t.keys := by
  rw [mem_keys_iff, fresh]
  simp

/-- A fresh key makes the table larger by one. -/
theorem size_insert_of_fresh {t : Table K V} {k : K} (v : V) (fresh : t.lookup k = none) :
    size (t.insert k v) = size t + 1 := by
  unfold size
  rw [keys_insert, Finset.card_insert_of_notMem (notMem_keys_of_lookup fresh)]

/-- Its weight comes on top. -/
theorem total_insert_of_fresh (weight : V → Nat) {t : Table K V} {k : K} (v : V)
    (fresh : t.lookup k = none) : total weight (t.insert k v) = total weight t + weight v := by
  unfold total
  rw [keys_insert, Finset.sum_insert (notMem_keys_of_lookup fresh), lookup_insert_self, Nat.add_comm]
  congr 1
  apply Finset.sum_congr rfl
  intro x member
  have other : x ≠ k := by
    rintro rfl
    exact notMem_keys_of_lookup fresh member
  rw [lookup_insert, if_neg other]

/-- Overwriting a value with one of the same weight. -/
theorem total_insert_of_lookup {weight : V → Nat} {t : Table K V} {k : K} {v w : V}
    (found : t.lookup k = some w) (same : weight v = weight w) :
    total weight (t.insert k v) = total weight t := by
  unfold total
  rw [keys_insert_of_lookup found]
  apply Finset.sum_congr rfl
  intro x _
  rw [lookup_insert]
  split
  · rename_i here
    rw [here, found, Option.elim_some, Option.elim_some, same]
  · rfl

theorem size_erase_of_lookup {t : Table K V} {k : K} {v : V} (found : t.lookup k = some v) :
    size (t.erase k) + 1 = size t := by
  unfold size
  rw [Finmap.keys_erase, Finset.card_erase_add_one (mem_keys_of_lookup found)]

/-- An erased entry takes its weight with it. -/
theorem total_erase_of_lookup (weight : V → Nat) {t : Table K V} {k : K} {v : V}
    (found : t.lookup k = some v) : total weight (t.erase k) + weight v = total weight t := by
  unfold total
  rw [Finmap.keys_erase, ← Finset.sum_erase_add _ _ (mem_keys_of_lookup found), found]
  congr 1
  apply Finset.sum_congr rfl
  intro x member
  rw [lookup_erase, if_neg (Finset.ne_of_mem_erase member)]

theorem keys_filterMap_of_isSome {f : K → V → Option W} (kept : ∀ k v, (f k v).isSome)
    (t : Table K V) : (filterMap f t).keys = t.keys := by
  ext k
  rw [mem_keys_iff, mem_keys_iff, lookup_filterMap]
  cases t.lookup k <;> simp [kept]

theorem size_filterMap_of_isSome {f : K → V → Option W} (kept : ∀ k v, (f k v).isSome)
    (t : Table K V) : size (filterMap f t) = size t := by
  unfold size
  rw [keys_filterMap_of_isSome kept]

/-- A change of values that keeps their weights keeps the total. -/
theorem total_filterMap {weight : V → Nat} {weight' : W → Nat} {f : K → V → Option W}
    (kept : ∀ k v, ∃ w, f k v = some w ∧ weight' w = weight v) (t : Table K V) :
    total weight' (filterMap f t) = total weight t := by
  unfold total
  rw [keys_filterMap_of_isSome (fun k v => by obtain ⟨w, same, -⟩ := kept k v; simp [same])]
  apply Finset.sum_congr rfl
  intro k _
  rw [lookup_filterMap]
  cases t.lookup k with
  | none => rfl
  | some v =>
      obtain ⟨w, same, equal⟩ := kept k v
      rw [Option.bind_some, same, Option.elim_some, Option.elim_some, equal]

end Table

end WotexMatter.Theory
