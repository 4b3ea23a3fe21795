/-
# WotexMatter.Theory.PathSearch -- a search for cycles that remembers only its own path

`search` walks a directed graph depth first and answers yes as soon as it meets a vertex of the
path it is on.  There is no set of visited vertices: a vertex that two paths share is walked twice,
and what stops the search is that a path without repetition cannot leave a finite graph.

An answer is exact for any path to begin with (`search_iff`), and on a graph whose edges stay among
its vertices there is always one (`search_halts`).
-/
import Mathlib.Data.Finset.Card
import Mathlib.Logic.Relation

set_option autoImplicit false

namespace WotexMatter.Theory.PathSearch

open Relation

variable {V : Type}

/-- How a search can fail to answer; `missing` is a vertex without an entry. -/
inductive Halt where
  | outOfFuel
  | missing
  deriving DecidableEq

def search [DecidableEq V] (children : V → Option (List V)) : Nat → V → List V → Except Halt Bool
  | 0, _, _ => .error .outOfFuel
  | fuel + 1, vertex, path =>
      if vertex ∈ path then .ok true
      else
        match children vertex with
        | none => .error .missing
        | some below => below.anyM fun child => search children fuel child (vertex :: path)

def Edge (children : V → Option (List V)) (parent child : V) : Prop :=
  ∃ below, children parent = some below ∧ child ∈ below

/-- Edges stay among the vertices. -/
def Closed (children : V → Option (List V)) (vertices : Finset V) : Prop :=
  ∀ vertex ∈ vertices, ∃ below, children vertex = some below ∧ ∀ child ∈ below, child ∈ vertices

/-! ## Any child -/

section

variable {ε α : Type} {ask : α → Except ε Bool}

theorem anyM_true {items : List α} (answered : items.anyM ask = .ok true) :
    ∃ item ∈ items, ask item = .ok true := by
  induction items with
  | nil => cases answered
  | cons item rest ih =>
      rw [List.anyM_cons] at answered
      cases asked : ask item with
      | error failure =>
          rw [asked] at answered
          cases answered
      | ok first =>
          rw [asked] at answered
          cases first with
          | true => exact ⟨item, List.mem_cons_self, asked⟩
          | false =>
              obtain ⟨other, inside, asked⟩ := ih answered
              exact ⟨other, List.mem_cons_of_mem _ inside, asked⟩

theorem anyM_false {items : List α} (answered : items.anyM ask = .ok false) :
    ∀ item ∈ items, ask item = .ok false := by
  induction items with
  | nil => simp
  | cons item rest ih =>
      rw [List.anyM_cons] at answered
      cases asked : ask item with
      | error failure =>
          rw [asked] at answered
          cases answered
      | ok first =>
          rw [asked] at answered
          cases first with
          | true => cases answered
          | false => exact List.forall_mem_cons.mpr ⟨asked, ih answered⟩

theorem anyM_ok {items : List α} (each : ∀ item ∈ items, ∃ answer, ask item = .ok answer) :
    ∃ answer, items.anyM ask = .ok answer := by
  induction items with
  | nil => exact ⟨false, rfl⟩
  | cons item rest ih =>
      obtain ⟨first, asked⟩ := each item List.mem_cons_self
      obtain ⟨others, answered⟩ := ih fun item inside => each item (List.mem_cons_of_mem _ inside)
      rw [List.anyM_cons, asked]
      cases first with
      | true => exact ⟨true, rfl⟩
      | false => exact ⟨others, answered⟩

end

/-! ## The answer -/

variable {children : V → Option (List V)}

/-- The search can reach its own path or a cycle. -/
def Leads (children : V → Option (List V)) (vertex : V) (path : List V) : Prop :=
  ∃ met, ReflTransGen (Edge children) vertex met ∧
    (met ∈ path ∨ TransGen (Edge children) met met)

theorem leads_of_child {vertex child : V} {path : List V} (edge : Edge children vertex child)
    (leads : Leads children child (vertex :: path)) : Leads children vertex path := by
  obtain ⟨met, reached, found⟩ := leads
  rcases found with onPath | cycle
  · rcases List.mem_cons.mp onPath with rfl | onPath
    · exact ⟨met, .refl, .inr (TransGen.head' edge reached)⟩
    · exact ⟨met, reached.head edge, .inl onPath⟩
  · exact ⟨met, reached.head edge, .inr cycle⟩

theorem child_leads {vertex : V} {path : List V} (fresh : vertex ∉ path)
    (leads : Leads children vertex path) :
    ∃ child, Edge children vertex child ∧ Leads children child (vertex :: path) := by
  obtain ⟨met, reached, found⟩ := leads
  rcases reached.cases_head with rfl | ⟨child, edge, reached⟩
  · -- the vertex lies on a cycle, and the first step of the cycle leads back to it
    obtain ⟨child, edge, back⟩ := TransGen.head'_iff.mp (found.resolve_left fresh)
    exact ⟨child, edge, vertex, back, .inl List.mem_cons_self⟩
  · exact ⟨child, edge, met, reached, found.imp_left (List.mem_cons_of_mem _)⟩

/-- From its vertices a search meets no cycle exactly if there is none anywhere. -/
theorem acyclic_iff {vertices : Finset V}
    (covered : ∀ {parent child}, Edge children parent child → parent ∈ vertices) :
    (∀ vertex ∈ vertices, ¬ Leads children vertex []) ↔
      ∀ vertex, ¬ TransGen (Edge children) vertex vertex := by
  constructor
  · intro leaves vertex cycle
    obtain ⟨child, edge, -⟩ := TransGen.head'_iff.mp cycle
    exact leaves vertex (covered edge) ⟨vertex, .refl, .inr cycle⟩
  · rintro acyclic vertex - ⟨met, -, onPath | cycle⟩
    · cases onPath
    · exact acyclic met cycle

section

variable [DecidableEq V]

/-- **An answer is exact**, on any graph and for any path to begin with. -/
theorem search_iff {fuel : Nat} {vertex : V} {path : List V} {answer : Bool}
    (answered : search children fuel vertex path = .ok answer) :
    answer = true ↔ Leads children vertex path := by
  induction fuel generalizing vertex path answer with
  | zero => cases answered
  | succ fuel ih =>
      rw [search] at answered
      split at answered
      · rename_i onPath
        obtain rfl := Except.ok.inj answered
        exact iff_of_true rfl ⟨vertex, .refl, .inl onPath⟩
      rename_i fresh
      split at answered
      · cases answered
      rename_i below listed
      cases answer with
      | true =>
          obtain ⟨child, inside, asked⟩ := anyM_true answered
          exact iff_of_true rfl (leads_of_child ⟨below, listed, inside⟩ ((ih asked).mp rfl))
      | false =>
          refine iff_of_false Bool.false_ne_true fun leads => ?_
          obtain ⟨child, ⟨below', listed', inside⟩, leads⟩ := child_leads fresh leads
          obtain rfl := Option.some.inj (listed.symm.trans listed')
          exact Bool.false_ne_true ((ih (anyM_false answered child inside)).mpr leads)

/-- **On a closed graph there is an answer.**  Every step puts a new vertex on the path. -/
theorem search_halts {vertices : Finset V} (closed : Closed children vertices) {fuel : Nat}
    {vertex : V} (inside : vertex ∈ vertices) {path : List V}
    (fuelled : (vertices.filter (· ∉ path)).card < fuel) :
    ∃ answer, search children fuel vertex path = .ok answer := by
  induction fuel generalizing vertex path with
  | zero => exact absurd fuelled (Nat.not_lt_zero _)
  | succ fuel ih =>
      rw [search]
      by_cases onPath : vertex ∈ path
      · exact ⟨true, if_pos onPath⟩
      obtain ⟨below, listed, stay⟩ := closed vertex inside
      have fewer : (vertices.filter (· ∉ vertex :: path)).card <
          (vertices.filter (· ∉ path)).card := by
        refine Finset.card_lt_card (Finset.ssubset_iff_of_subset ?_ |>.mpr
          ⟨vertex, Finset.mem_filter.mpr ⟨inside, onPath⟩, by simp⟩)
        intro other member
        obtain ⟨member, off⟩ := Finset.mem_filter.mp member
        exact Finset.mem_filter.mpr ⟨member, fun on => off (List.mem_cons_of_mem _ on)⟩
      have each : ∀ child ∈ below, ∃ answer,
          search children fuel child (vertex :: path) = .ok answer :=
        fun child listed => ih (stay child listed) (by omega)
      obtain ⟨answer, answered⟩ := anyM_ok each
      refine ⟨answer, ?_⟩
      rw [if_neg onPath, listed]
      exact answered

end

end WotexMatter.Theory.PathSearch
