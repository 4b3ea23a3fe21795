/-
# WotexMatter.Theory.Monitor -- a partial automaton watching a list of events

`run next start events` feeds `events` to the partial transition function `next`;
it is `none` as soon as one event is not allowed.  A property of all histories is
stated as acceptance by such an automaton, and read back at one position
(`exists_of_run_append`) or between two positions (`persists`).
-/
import Mathlib.Data.List.Basic

set_option autoImplicit false

namespace WotexMatter.Theory.Monitor

variable {S E : Type} {next : S → E → Option S}

def run (next : S → E → Option S) (start : S) (events : List E) : Option S :=
  events.foldlM next start

@[simp] theorem run_nil (start : S) : run next start [] = some start := rfl

theorem run_cons (start : S) (event : E) (events : List E) :
    run next start (event :: events) = (next start event).bind fun s => run next s events :=
  rfl

theorem run_append (start : S) (front back : List E) :
    run next start (front ++ back) = (run next start front).bind fun s => run next s back :=
  List.foldlM_append

theorem run_snoc (start : S) (front : List E) (event : E) :
    run next start (front ++ [event]) = (run next start front).bind fun s => next s event := by
  rw [run_append]
  congr 1
  funext s
  rw [run_cons]
  cases next s event <;> rfl

/-- An accepted list has an accepted state before each of its events. -/
theorem exists_of_run_append {start last : S} {front back : List E}
    (accepted : run next start (front ++ back) = some last) :
    ∃ middle, run next start front = some middle ∧ run next middle back = some last := by
  rw [run_append, Option.bind_eq_some_iff] at accepted
  exact accepted

theorem exists_of_run_cons {start last : S} {event : E} {events : List E}
    (accepted : run next start (event :: events) = some last) :
    ∃ middle, next start event = some middle ∧ run next middle events = some last := by
  rw [run_cons, Option.bind_eq_some_iff] at accepted
  exact accepted

/-- What every event except `reset` preserves still holds after a list without it. -/
theorem persists {p : S → Prop} {reset : E → Prop}
    (closed : ∀ {s event s'}, ¬ reset event → p s → next s event = some s' → p s')
    {events : List E} (absent : ∀ event ∈ events, ¬ reset event) {start last : S}
    (initially : p start) (accepted : run next start events = some last) : p last := by
  induction events generalizing start with
  | nil =>
      obtain rfl := Option.some.inj accepted
      exact initially
  | cons event events ih =>
      obtain ⟨middle, step, tail⟩ := exists_of_run_cons accepted
      exact ih (fun other member => absent other (List.mem_cons_of_mem _ member))
        (closed (absent event (by simp)) initially step) tail

/-- Events that change no state are invisible. -/
theorem run_of_silent {events : List E} (silent : ∀ event ∈ events, ∀ s, next s event = some s)
    (start : S) : run next start events = some start := by
  induction events with
  | nil => rfl
  | cons event events ih =>
      rw [run_cons, silent event (by simp), Option.bind_some]
      exact ih fun other member => silent other (List.mem_cons_of_mem _ member)

end WotexMatter.Theory.Monitor
