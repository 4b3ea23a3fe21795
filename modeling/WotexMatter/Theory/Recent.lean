/-
# WotexMatter.Theory.Recent -- a memory of the last items

`recent size items` is what a queue of bounded length holds after `items` have gone through it.
Items that are taken only while they are not recent are `Spaced`: between two occurrences of one
item there are at least `size` others (`spaced_snoc`).
-/
import Mathlib.Data.List.Basic

set_option autoImplicit false

namespace WotexMatter.Theory.Recent

variable {α : Type}

/-- The last `size` items. -/
def recent (size : Nat) (items : List α) : List α := items.drop (items.length - size)

theorem recent_of_short {size : Nat} {items : List α} (short : items.length ≤ size) :
    recent size items = items := by
  rw [recent, Nat.sub_eq_zero_of_le short, List.drop_zero]

theorem recent_append {size : Nat} {front back : List α} (long : size ≤ back.length) :
    recent size (front ++ back) = recent size back := by
  have skipped : (front ++ back).length - size = front.length + (back.length - size) := by
    rw [List.length_append]
    omega
  rw [recent, recent, skipped, List.drop_append]
  simp

theorem mem_recent {size : Nat} {front back : List α} {item : α} (short : back.length < size) :
    item ∈ recent size (front ++ item :: back) := by
  have within : (front ++ item :: back).length - size ≤ front.length := by
    rw [List.length_append, List.length_cons]
    omega
  rw [recent, List.drop_append_of_le_length within]
  exact List.mem_append_right _ List.mem_cons_self

theorem length_recent {size : Nat} {items : List α} (long : size ≤ items.length) :
    (recent size items).length = size := by
  rw [recent, List.length_drop]
  omega

/-- The oldest item leaves a full memory when one enters. -/
theorem recent_snoc (size : Nat) (items : List α) (item : α) :
    recent size (items ++ [item]) =
      if (recent size items ++ [item]).length > size then (recent size items ++ [item]).tail
      else recent size items ++ [item] := by
  by_cases long : size ≤ items.length
  · have full : (recent size items ++ [item]).length > size := by
      rw [List.length_append, length_recent long, List.length_singleton]
      omega
    have next : (items ++ [item]).length - size = items.length - size + 1 := by
      rw [List.length_append, List.length_singleton]
      omega
    rw [if_pos full, recent, recent, next, ← List.tail_drop,
      List.drop_append_of_le_length (Nat.sub_le _ _)]
  · have short : (items ++ [item]).length ≤ size := by
      rw [List.length_append, List.length_singleton]
      omega
    rw [recent_of_short short, recent_of_short (by omega), if_neg (by omega)]

/-! ## Spacing -/

variable [DecidableEq α]

/-- Between two occurrences of an item there are `size` others. -/
def Spaced (size : Nat) (items : List α) : Prop :=
  ∀ before between after item, items = before ++ item :: (between ++ item :: after) →
    size ≤ (between.filter (· ≠ item)).length

theorem spaced_nil (size : Nat) : Spaced size ([] : List α) := by
  intro before between after item same
  simp at same

/-- **An item that is not recent may be taken again.** -/
theorem spaced_snoc {size : Nat} {items : List α} {item : α} (spaced : Spaced size items)
    (fresh : item ∉ recent size items) : Spaced size (items ++ [item]) := by
  intro before between after item' same
  rcases List.eq_nil_or_concat after with rfl | ⟨after, last, rfl⟩
  · have ends : items ++ [item] = (before ++ item' :: between) ++ [item'] := by simpa using same
    obtain ⟨rfl, single⟩ := List.append_inj' ends rfl
    obtain rfl := List.head_eq_of_cons_eq single
    have long : size ≤ between.length := by
      by_contra short
      exact fresh (mem_recent (by omega))
    have window : recent size (before ++ item :: between) = recent size between := by
      have joined : before ++ item :: between = (before ++ [item]) ++ between := by simp
      rw [joined, recent_append long]
    rw [window] at fresh
    -- the last `size` items between the two are all others
    have others : (recent size between).filter (· ≠ item) = recent size between :=
      List.filter_eq_self.mpr fun other inside => by
        simpa using fun same : other = item => fresh (same ▸ inside)
    calc size = ((recent size between).filter (· ≠ item)).length := by
          rw [others, length_recent long]
      _ ≤ (between.filter (· ≠ item)).length :=
          ((List.drop_sublist _ _).filter _).length_le
  · have ends : items ++ [item] =
        (before ++ item' :: (between ++ item' :: after)) ++ [last] := by simpa using same
    exact spaced _ _ _ _ (List.append_inj' ends rfl).1

end WotexMatter.Theory.Recent
