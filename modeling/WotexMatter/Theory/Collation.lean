/-
# WotexMatter.Theory.Collation -- entries read one by one, and put in order group by group

`traverse` reads a list entry by entry and gives up at the first that cannot be read.  `collate`
lists the members of one group after another, those of each group by rank.  If every member
belongs to a listed group (`collate_perm`) nothing is lost or listed twice, and if members of one
group differ in rank (`Separate`) the list does not depend on the order the members came in
(`collate_congr`).
-/
import Mathlib.Data.List.Sort
import Mathlib.Data.List.Perm.Basic

set_option autoImplicit false

namespace WotexMatter.Theory.Collation

variable {α β ε ι κ : Type}

/-! ## Reading -/

def traverse (read : α → Except ε β) : List α → Except ε (List β)
  | [] => .ok []
  | entry :: rest =>
      match read entry with
      | .error failure => .error failure
      | .ok value =>
          match traverse read rest with
          | .error failure => .error failure
          | .ok values => .ok (value :: values)

theorem traverse_ok_iff {read : α → Except ε β} {entries : List α} {values : List β} :
    traverse read entries = .ok values ↔
      List.Forall₂ (fun entry value => read entry = .ok value) entries values := by
  induction entries generalizing values with
  | nil =>
      rw [traverse, List.forall₂_nil_left_iff]
      constructor
      · intro same
        exact (Except.ok.inj same).symm
      · rintro rfl
        rfl
  | cons entry rest ih =>
      rw [traverse, List.forall₂_cons_left_iff]
      constructor
      · intro done
        split at done
        · cases done
        rename_i value read
        split at done
        · cases done
        rename_i others reads
        exact ⟨value, others, read, ih.mp reads, (Except.ok.inj done).symm⟩
      · rintro ⟨value, others, read, reads, rfl⟩
        rw [read, ih.mpr reads]

theorem traverse_mem {read : α → Except ε β} {entries : List α} {values : List β}
    (done : traverse read entries = .ok values) {value : β} (inside : value ∈ values) :
    ∃ entry ∈ entries, read entry = .ok value := by
  have reads := traverse_ok_iff.mp done
  clear done
  induction reads with
  | nil => cases inside
  | cons read _ ih =>
      rcases List.mem_cons.mp inside with rfl | inside
      · exact ⟨_, List.mem_cons_self, read⟩
      · obtain ⟨entry, listed, reads⟩ := ih inside
        exact ⟨entry, List.mem_cons_of_mem _ listed, reads⟩

/-- Entries in another order are read as the same values in another order. -/
theorem traverse_perm {read : α → Except ε β} {entries others : List α} {values : List β}
    (perm : others.Perm entries) (done : traverse read entries = .ok values) :
    ∃ values', traverse read others = .ok values' ∧ values'.Perm values := by
  obtain ⟨values', reads, same⟩ := List.perm_comp_forall₂ perm (traverse_ok_iff.mp done)
  exact ⟨values', traverse_ok_iff.mpr reads, same⟩

/-- The entries that are read are the images of the values that are admitted. -/
theorem traverse_ok_iff_map {read : α → Except ε β} {item : β → α} {admits : β → Prop}
    (reads : ∀ entry value, read entry = .ok value ↔ entry = item value ∧ admits value)
    {entries : List α} {values : List β} :
    traverse read entries = .ok values ↔
      entries = values.map item ∧ ∀ value ∈ values, admits value := by
  rw [traverse_ok_iff]
  induction values generalizing entries with
  | nil => simp
  | cons value rest ih =>
      rw [List.forall₂_cons_right_iff, List.map_cons, List.forall_mem_cons]
      constructor
      · rintro ⟨entry, others, first, reads', rfl⟩
        obtain ⟨rfl, admitted⟩ := (reads entry value).mp first
        obtain ⟨rfl, rest⟩ := ih.mp reads'
        exact ⟨rfl, admitted, rest⟩
      · rintro ⟨rfl, admitted, rest⟩
        exact ⟨item value, _, (reads _ _).mpr ⟨rfl, admitted⟩, ih.mpr ⟨rfl, rest⟩, rfl⟩

/-! ## Sorting -/

section

variable [LinearOrder κ] (rank : α → κ)

/-- `Enum.sort_by`. -/
def sortBy (members : List α) : List α :=
  members.insertionSort fun first second => rank first ≤ rank second

theorem sortBy_perm (members : List α) : (sortBy rank members).Perm members :=
  List.perm_insertionSort _ _

theorem sortBy_pairwise (members : List α) :
    (sortBy rank members).Pairwise fun first second => rank first ≤ rank second := by
  have total : Std.Total fun first second : α => rank first ≤ rank second :=
    ⟨fun first second => le_total (rank first) (rank second)⟩
  have trans : IsTrans α fun first second => rank first ≤ rank second :=
    ⟨fun _ _ _ => le_trans⟩
  exact List.pairwise_insertionSort _ _

variable {rank}

theorem sortBy_strict {members : List α} (distinct : (members.map rank).Nodup) :
    (sortBy rank members).Pairwise fun first second => rank first < rank second := by
  have different : (sortBy rank members).Pairwise fun first second => rank first ≠ rank second :=
    List.pairwise_map.mp (((sortBy_perm rank members).map rank).nodup_iff.mpr distinct)
  exact ((sortBy_pairwise rank members).and different).imp fun both => lt_of_le_of_ne both.1 both.2

theorem sortBy_congr {members others : List α} (perm : others.Perm members)
    (distinct : (members.map rank).Nodup) : sortBy rank others = sortBy rank members := by
  have apart := sortBy_strict distinct
  have apart' := sortBy_strict ((perm.map rank).nodup_iff.mpr distinct)
  have same := (sortBy_perm rank others).trans (perm.trans (sortBy_perm rank members).symm)
  exact same.eq_of_pairwise (fun _ _ _ _ less more => absurd less more.not_gt) apart' apart

end

/-! ## Groups -/

section

variable [DecidableEq ι]

/-- The members of one group, as they came. -/
def group (owner : α → Option ι) (members : List α) (index : ι) : List α :=
  members.filter fun member => owner member = some index

@[simp] theorem mem_group {owner : α → Option ι} {members : List α} {index : ι} {member : α} :
    member ∈ group owner members index ↔ member ∈ members ∧ owner member = some index := by
  simp [group]

theorem group_perm {members others : List α} (perm : others.Perm members) (owner : α → Option ι)
    (index : ι) : (group owner others index).Perm (group owner members index) :=
  perm.filter _

/-- Members of one group differ in rank. -/
def Separate (owner : α → Option ι) (rank : α → κ) (members : List α) : Prop :=
  ∀ index, ((group owner members index).map rank).Nodup

theorem separate_of_nodup {rank : α → κ} {members : List α} (distinct : (members.map rank).Nodup)
    (owner : α → Option ι) : Separate owner rank members :=
  fun _ => distinct.sublist (List.filter_sublist.map rank)

variable [LinearOrder κ]

def collate (groups : List ι) (owner : α → Option ι) (rank : α → κ) (members : List α) : List α :=
  groups.flatMap fun index => sortBy rank (group owner members index)

/-- **Nothing is lost and nothing is listed twice.** -/
theorem collate_perm {groups : List ι} {owner : α → Option ι} {members : List α} (rank : α → κ)
    (distinct : groups.Nodup)
    (owned : ∀ member ∈ members, ∃ index ∈ groups, owner member = some index) :
    (collate groups owner rank members).Perm members := by
  have gathered : ∀ groups : List ι, groups.Nodup →
      (collate groups owner rank members).Perm
        (members.filter fun member => decide (∃ index ∈ groups, owner member = some index)) := by
    intro groups distinct
    induction groups with
    | nil => simp [collate]
    | cons index rest ih =>
        obtain ⟨fresh, distinct⟩ := List.nodup_cons.mp distinct
        let listed := members.filter fun member =>
          decide (∃ other ∈ index :: rest, owner member = some other)
        have first : group owner members index = listed.filter fun member =>
            decide (owner member = some index) := by
          rw [List.filter_filter]
          refine List.filter_congr fun member _ => ?_
          by_cases mine : owner member = some index <;> simp [mine]
        have others : (members.filter fun member =>
            decide (∃ other ∈ rest, owner member = some other)) = listed.filter fun member =>
              !decide (owner member = some index) := by
          rw [List.filter_filter]
          refine List.filter_congr fun member _ => ?_
          by_cases mine : owner member = some index <;> simp [mine, fresh]
        rw [collate, List.flatMap_cons]
        refine ((sortBy_perm rank _).append (ih distinct)).trans ?_
        rw [first, others]
        exact List.filter_append_perm _ _
  refine (gathered groups distinct).trans ?_
  rw [List.filter_eq_self.mpr fun member inside => decide_eq_true (owned member inside)]

/-- **Groups in their order, and ranks rising in each.** -/
theorem collate_pairwise {groups : List ι} {owner : α → Option ι} {rank : α → κ} {members : List α}
    {related : α → α → Prop} (separate : ∀ index ∈ groups,
      ((group owner members index).map rank).Nodup)
    (within : ∀ index ∈ groups, ∀ first ∈ group owner members index,
      ∀ second ∈ group owner members index, rank first < rank second → related first second)
    (across : groups.Pairwise fun index other => ∀ first second, owner first = some index →
      owner second = some other → related first second) :
    (collate groups owner rank members).Pairwise related := by
  have mine : ∀ {index member}, member ∈ sortBy rank (group owner members index) →
      member ∈ group owner members index :=
    fun inside => (sortBy_perm rank _).mem_iff.mp inside
  rw [collate, List.pairwise_flatMap]
  refine ⟨fun index listed => ?_, across.imp fun apart first inside second inside' =>
    apart first second (mem_group.mp (mine inside)).2 (mem_group.mp (mine inside')).2⟩
  exact (sortBy_strict (separate index listed)).imp_of_mem fun first second less =>
    within index listed _ (mine first) _ (mine second) less

/-- The order the members came in does not matter. -/
theorem collate_congr {owner : α → Option ι} {rank : α → κ} {members others : List α}
    (perm : others.Perm members) (separate : Separate owner rank members) (groups : List ι) :
    collate groups owner rank others = collate groups owner rank members := by
  rw [collate, collate, funext fun index => sortBy_congr (group_perm perm owner index)
    (separate index)]

end

end WotexMatter.Theory.Collation
