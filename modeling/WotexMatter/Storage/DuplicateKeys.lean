/-
# WotexMatter.Storage.DuplicateKeys -- which repeated keys `ParseState` sees

The callback of `ParseState` keeps one set of keys for each depth and clears
`keys[depth]` at an object start.  An object reports its start with the depth of the
container around it and its keys one deeper, so the set it clears is not its own but
the one its parent is still filling: a member whose value is an object makes the
parent forget every key before it.

`run_duplicate_iff` says exactly what the callback reports: two equal keys at one depth
with no object start of that depth between them.  `parseState_rejects_repeated_iff` is
what that means for whole documents.
-/
import WotexMatter.Storage.StateDocument

set_option autoImplicit false

namespace WotexMatter.Storage

/-! ## What the callback reports -/

/-- The last object start at `depth` lies before a key `name` of that depth. -/
def StandsOpen (events : List ParseEvent) (depth : Nat) (name : Bytes) : Prop :=
  ∃ before after, events = before ++ .key depth name :: after ∧
    ParseEvent.objectStart depth ∉ after

/-- Two equal keys at one depth, with no object start of that depth between them. -/
def RepeatsUncut (events : List ParseEvent) : Prop :=
  ∃ before between after depth name,
    events = before ++ .key depth name :: (between ++ .key depth name :: after) ∧
      ParseEvent.objectStart depth ∉ between

theorem standsOpen_append (events : List ParseEvent) (event : ParseEvent) (depth : Nat)
    (name : Bytes) :
    StandsOpen (events ++ [event]) depth name ↔
      event = .key depth name ∨ event ≠ .objectStart depth ∧ StandsOpen events depth name := by
  constructor
  · rintro ⟨before, after, same, uncut⟩
    rcases List.eq_nil_or_concat after with rfl | ⟨front, last, rfl⟩
    · left
      exact (List.append_inj' same rfl).2 |> List.singleton_inj.mp
    · right
      have split : events ++ [event] = (before ++ .key depth name :: front) ++ [last] := by
        rw [same]
        simp
      obtain ⟨rest, lasts⟩ := List.append_inj' split rfl
      cases lasts
      simp only [List.concat_eq_append, List.mem_append, List.mem_singleton, not_or] at uncut
      exact ⟨fun start => uncut.2 start.symm, before, front, rest, uncut.1⟩
  · rintro (rfl | ⟨other, before, after, rfl, uncut⟩)
    · exact ⟨events, [], rfl, List.not_mem_nil⟩
    · refine ⟨before, after ++ [event], by simp, ?_⟩
      simp only [List.mem_append, List.mem_singleton, not_or]
      exact ⟨uncut, fun start => other start.symm⟩

theorem repeatsUncut_append (events : List ParseEvent) (event : ParseEvent) :
    RepeatsUncut (events ++ [event]) ↔
      RepeatsUncut events ∨ ∃ depth name, event = .key depth name ∧ StandsOpen events depth name := by
  constructor
  · rintro ⟨before, between, after, depth, name, same, uncut⟩
    rcases List.eq_nil_or_concat after with rfl | ⟨front, last, rfl⟩
    · right
      have split : events ++ [event] = (before ++ .key depth name :: between) ++ [.key depth name] := by
        rw [same]
        simp
      obtain ⟨rest, lasts⟩ := List.append_inj' split rfl
      exact ⟨depth, name, List.singleton_inj.mp lasts, before, between, rest, uncut⟩
    · left
      have split : events ++ [event] =
          (before ++ .key depth name :: (between ++ .key depth name :: front)) ++ [last] := by
        rw [same]
        simp
      obtain ⟨rest, _⟩ := List.append_inj' split rfl
      exact ⟨before, between, front, depth, name, rest, uncut⟩
  · rintro (⟨before, between, after, depth, name, rfl, uncut⟩ |
      ⟨depth, name, rfl, before, after, rfl, uncut⟩)
    · exact ⟨before, between, after ++ [event], depth, name, by simp, uncut⟩
    · exact ⟨before, after, [], depth, name, by simp, uncut⟩

theorem run_append (events : List ParseEvent) (event : ParseEvent) :
    KeyScan.run (events ++ [event]) = (KeyScan.run events).callback event := by
  simp [KeyScan.run]

/-- The set of a depth holds the keys that stand open there. -/
theorem run_keys_iff (events : List ParseEvent) (depth : Nat) (name : Bytes) :
    name ∈ (KeyScan.run events).keys depth ↔ StandsOpen events depth name := by
  induction events using List.reverseRecOn with
  | nil =>
      constructor
      · intro present
        simp [KeyScan.run, KeyScan.initial] at present
      · rintro ⟨before, after, impossible, _⟩
        simp at impossible
  | append_singleton events event ih =>
      rw [run_append, standsOpen_append, ← ih]
      cases event with
      | objectStart start =>
          by_cases same : start = depth
          · subst same
            simp [KeyScan.callback]
          · simp [KeyScan.callback, Function.update_of_ne (Ne.symm same), same]
      | key start other =>
          by_cases same : start = depth
          · subst same
            simp only [KeyScan.callback]
            split
            · rename_i present
              by_cases equal : other = name
              · subst equal
                simpa using present
              · simp [equal]
            · simp [eq_comm]
          · simp only [KeyScan.callback]
            split
            · simp [same]
            · simp [Function.update_of_ne (Ne.symm same), same]

/-- **The flag of the callback** is raised exactly by a repetition with no object start
of that depth between. -/
theorem run_duplicate_iff (events : List ParseEvent) :
    (KeyScan.run events).duplicate = true ↔ RepeatsUncut events := by
  induction events using List.reverseRecOn with
  | nil =>
      constructor
      · intro raised
        simp [KeyScan.run, KeyScan.initial] at raised
      · rintro ⟨before, between, after, depth, name, impossible, _⟩
        simp at impossible
  | append_singleton events event ih =>
      rw [run_append, repeatsUncut_append, ← ih]
      cases event with
      | objectStart start => simp [KeyScan.callback]
      | key start other =>
          simp only [KeyScan.callback]
          split
          · rename_i present
            rw [run_keys_iff] at present
            simp [present]
          · rename_i absent
            rw [run_keys_iff] at absent
            simp [absent]

/-! ## Documents -/

/-- Some object of the text, at whatever level, has the same key twice. -/
inductive Json.RepeatsKey : Json → Prop where
  | here {members : List (Bytes × Json)} (repeated : ¬ (members.map Prod.fst).Nodup) :
      RepeatsKey (.object members)
  | member {members : List (Bytes × Json)} {key : Bytes} {value : Json}
      (inside : (key, value) ∈ members) (deeper : RepeatsKey value) : RepeatsKey (.object members)
  | item {items : List Json} {value : Json} (inside : value ∈ items) (deeper : RepeatsKey value) :
      RepeatsKey (.array items)

theorem parseState_eq_none_iff {library : JsonLibrary} {contents : Bytes} {text : Json}
    (parsed : library.parse contents = some text) (expected : ControllerIdentity) :
    parseState library contents expected = none ↔
      RepeatsUncut (text.events 0) ∨ ¬ StateOf expected text := by
  have state := loadState_isSome_iff expected text
  simp only [parseState, parsed, ← run_duplicate_iff, ← state]
  split
  · rename_i raised
    simp [raised]
  · rename_i quiet
    simp [quiet]

/-- **Repeated keys are refused exactly when two of them stand uncut**, or the document is
not a state document of the identity even after the later values won. -/
theorem parseState_rejects_repeated_iff (library : JsonLibrary) (contents : Bytes)
    (expected : ControllerIdentity) :
    (∀ text, library.parse contents = some text → text.RepeatsKey →
        parseState library contents expected = none) ↔
      ∀ text, library.parse contents = some text → text.RepeatsKey →
        RepeatsUncut (text.events 0) ∨ ¬ StateOf expected text := by
  constructor
  · intro rejects text parsed repeated
    exact (parseState_eq_none_iff parsed expected).mp (rejects text parsed repeated)
  · intro condition text parsed repeated
    exact (parseState_eq_none_iff parsed expected).mpr (condition text parsed repeated)

/-! ## A repetition that is missed -/

/-- The text of a document with two fabrics, the second one after `values`. -/
def twoFabrics : Bytes :=
  ascii "\x7b\"schema\":\"wotex.matter.store\",\"version\":1,\"fabric_id\":2," ++
    ascii "\"controller_node_id\":4660,\"vendor_id\":65521,\"authority\":\"generate_root\"," ++
    ascii "\"values\":\x7b\x7d,\"fabric_id\":1\x7d\n"

/-- The tree of that text. -/
def twoFabricsTree : Json :=
  .object
    [(ascii "schema", .string kSchema), (ascii "version", .unsigned 1),
      (ascii "fabric_id", .unsigned 2), (ascii "controller_node_id", .unsigned 4660),
      (ascii "vendor_id", .unsigned 65521), (ascii "authority", .string kAuthority),
      (ascii "values", .object []), (ascii "fabric_id", .unsigned 1)]

/-- A parser that knows this text. -/
def twoFabricsLibrary : JsonLibrary where
  parse contents := if contents = twoFabrics then some twoFabricsTree else none
  dump _ := none

/-- The later fabric wins, and the rest is as it should be. -/
theorem twoFabrics_describes :
    ∃ members, twoFabricsTree = .object members ∧ Describes ⟨1, 4660, 65521⟩ members [] :=
  ⟨_, rfl, by decide +kernel, rfl, rfl, rfl, rfl, rfl, rfl, rfl, by decide, by decide, by simp [settled]⟩

/-- The document names fabric 2 and then fabric 1, and is read as fabric 1. -/
theorem parseState_missed_repetition :
    ∃ text, twoFabricsLibrary.parse twoFabrics = some text ∧ text.RepeatsKey ∧
      parseState twoFabricsLibrary twoFabrics ⟨1, 4660, 65521⟩ = some ∅ := by
  refine ⟨twoFabricsTree, by simp [twoFabricsLibrary], .here (by decide), ?_⟩
  have quiet : (KeyScan.run (twoFabricsTree.events 0)).duplicate = false := by decide +kernel
  obtain ⟨members, same, described⟩ := twoFabrics_describes
  rw [parseState_of_quiet (by simp [twoFabricsLibrary]) quiet, same,
    loadState_of_describes described]
  rfl

end WotexMatter.Storage
