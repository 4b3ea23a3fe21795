/-
# WotexMatter.Read.EventResults -- one untrusted batch of event records, put in order

`normalize_events` of `standalone.ex` and `EventReport.new` (`event_report.ex`).  An event path may
have many records or none, which are returned path after path and number after number; a path with
an error has that entry alone.  `normalize_events_whole` says that a batch which is accepted is
returned whole, and that neither the outcome nor the list depends on the order it came in.
-/
import WotexMatter.Read.PathResults
import WotexMatter.Value.Descriptor

set_option autoImplicit false

namespace WotexMatter.Read

open WotexMatter.Storage WotexMatter.Theory WotexMatter.Tlv WotexMatter.Value

variable {F D : Type}

/-! ## Reports -/

inductive TimestampKind where
  | epoch
  | system
  deriving DecidableEq

structure Timestamp where
  kind : TimestampKind
  value : Int
  deriving DecidableEq

structure EventReport (F : Type) where
  path : Address
  value : Element F
  eventNumber : Int
  priority : Int
  timestamp : Timestamp

/-- The six fields of a term given for a report.  A number is `none` if the term is no integer, a
timestamp if it has another shape or kind. -/
structure RawEventReport (F : Type) where
  path : Option Address
  value : Option (Element F)
  eventNumber : Option Int
  priority : Option Int
  timestamp : Option Timestamp
  status : Option Int

/-- `uint64?`. -/
def uint64 (value : Int) : Bool := inRange value 0 0xFFFFFFFFFFFFFFFF

def EventReport.new (floats : Floats F) :
    Option (RawEventReport F) → Option (EventReport F)
  | none => none
  | some report =>
      if report.status = some 0 then do
        let path ← Address.new report.path
        let value ← report.value.bind (Tlv.validateElement floats)
        let eventNumber ← report.eventNumber
        let priority ← report.priority
        let timestamp ← report.timestamp
        if uint64 eventNumber && inRange priority 0 255 && uint64 timestamp.value then
          some { path, value, eventNumber, priority, timestamp }
        else none
      else none

inductive RawEventResult (F D : Type) where
  | ok (report : Option (RawEventReport F))
  | error (error : Error D)
  | other

/-- The two fields of a term given for an entry. -/
structure RawEventEntry (F D : Type) where
  path : Option Address
  result : RawEventResult F D

inductive EventOutcome (F D : Type) where
  | ok (report : EventReport F)
  | error (error : Error D)

structure EventResult (F D : Type) where
  path : Address
  result : EventOutcome F D

/-! ## Normalization -/

/-- `normalize_event_result`. -/
def normalizeEventResult (floats : Floats F) (path : Address) :
    RawEventResult F D → Except Failure (EventResult F D)
  | .ok report =>
      match EventReport.new floats report with
      | none => .error .invalidTransportReturn
      | some report =>
          if (Descriptor.validateElement floats .event (some path) .read (some report.value)).isSome &&
              report.path = path then
            .ok { path, result := .ok report }
          else .error .invalidTransportReturn
  | .error error =>
      if error.effect.among ["none"] then .ok { path, result := .error error }
      else .error .invalidTransportReturn
  | .other => .error .invalidTransportReturn

/-- `event_entry`; `none` is a term of another shape. -/
def eventEntry (floats : Floats F) (paths : List Address) :
    Option (RawEventEntry F D) → Except Failure (EventResult F D)
  | none => .error .invalidTransportReturn
  | some raw =>
      match Address.new raw.path with
      | none => .error .invalidPath
      | some path =>
          if path ∈ paths then normalizeEventResult floats path raw.result
          else .error .invalidTransportReturn

/-- What a record is known by: fabric, node and event number. -/
def EventResult.identity (entry : EventResult F D) : Option (Int × Int × Int) :=
  match entry.result with
  | .ok report => some (report.path.fabricId, report.path.nodeId, report.eventNumber)
  | .error _ => none

/-- `unique_event_numbers?`. -/
def uniqueEventNumbers (results : List (EventResult F D)) : Bool :=
  (results.filterMap EventResult.identity).Nodup

/-- What a group is sorted by; no error is sorted. -/
def EventResult.number (entry : EventResult F D) : Int :=
  match entry.result with
  | .ok report => report.eventNumber
  | .error _ => 0

/-- The entry is a report from the minimum on. -/
def EventResult.reaches (minimum : Option Int) (entry : EventResult F D) : Bool :=
  match entry.result with
  | .ok report => minimum.all fun minimum => minimum ≤ report.eventNumber
  | .error _ => false

/-- `event_group`. -/
def eventGroup (minimum : Option Int) (results : List (EventResult F D)) :
    Except Failure (List (EventResult F D)) :=
  match results with
  | [⟨path, .error error⟩] => .ok [⟨path, .error error⟩]
  | results =>
      if results.all (EventResult.reaches minimum) then
        .ok (Collation.sortBy EventResult.number results)
      else .error .invalidTransportReturn

/-- `Map.get(groups, path_key(path), [])`. -/
def groupOf (results : List (EventResult F D)) (path : Address) : List (EventResult F D) :=
  results.filter fun result => result.path = path

def normalizeEvents (floats : Floats F) (paths : List Address) (minimum : Option Int)
    (results : List (Option (RawEventEntry F D))) : Except Failure (List (EventResult F D)) :=
  if results.length ≤ 1024 then
    match Collation.traverse (eventEntry floats paths) results with
    | .error _ => .error .invalidTransportReturn
    | .ok results =>
        if uniqueEventNumbers results then
          match Collation.traverse (fun path => eventGroup minimum (groupOf results path)) paths with
          | .error _ => .error .invalidTransportReturn
          | .ok ordered => .ok ordered.flatten
        else .error .invalidTransportReturn
  else .error .invalidTransportReturn

/-! ## Entries -/

/-- An entry is about a requested path, and its report about the same. -/
structure Entered (paths : List Address) (entry : EventResult F D) : Prop where
  requested : entry.path ∈ paths
  report : ∀ report, entry.result = .ok report → report.path = entry.path

theorem eventEntry_entered {floats : Floats F} {paths : List Address}
    {raw : Option (RawEventEntry F D)} {entry : EventResult F D}
    (read : eventEntry floats paths raw = .ok entry) : Entered paths entry := by
  unfold eventEntry at read
  split at read
  · cases read
  split at read
  · cases read
  split at read
  swap
  · cases read
  rename_i requested
  unfold normalizeEventResult at read
  split at read
  · split at read
    · cases read
    split at read
    swap
    · cases read
    rename_i checks
    obtain rfl := Except.ok.inj read
    refine ⟨requested, fun report same => ?_⟩
    obtain rfl := EventOutcome.ok.inj same
    exact of_decide_eq_true (Bool.and_eq_true_iff.mp checks).2
  · split at read
    · obtain rfl := Except.ok.inj read
      exact ⟨requested, fun report same => nomatch same⟩
    · cases read
  · cases read

/-! ## Groups -/

/-- One entry, and an error. -/
def Alone (results : List (EventResult F D)) : Prop :=
  ∃ path error, results = [⟨path, .error error⟩]

theorem eventGroup_ok_iff {minimum : Option Int} {results ordered : List (EventResult F D)} :
    eventGroup minimum results = .ok ordered ↔
      (Alone results ∨ results.all (EventResult.reaches minimum) = true) ∧
        ordered = Collation.sortBy EventResult.number results := by
  unfold eventGroup
  split
  · rename_i path error
    constructor
    · intro same
      exact ⟨Or.inl ⟨path, error, rfl⟩, (Except.ok.inj same).symm⟩
    · rintro ⟨-, rfl⟩
      rfl
  · rename_i several
    constructor
    · intro done
      split at done
      · rename_i reach
        exact ⟨Or.inr reach, (Except.ok.inj done).symm⟩
      · cases done
    · rintro ⟨⟨path, error, same⟩ | reach, rfl⟩
      · exact absurd same (several path error)
      · rw [if_pos reach]

theorem groupOf_group (results : List (EventResult F D)) (path : Address) :
    groupOf results path = Collation.group (fun entry => some entry.path) results path := by
  simp [groupOf, Collation.group]

theorem reaches_report {minimum : Option Int} {entry : EventResult F D}
    (reach : entry.reaches minimum = true) :
    ∃ report, entry.result = .ok report ∧ ∀ least, minimum = some least →
      least ≤ report.eventNumber := by
  unfold EventResult.reaches at reach
  split at reach
  · rename_i report same
    refine ⟨report, same, fun least given => ?_⟩
    rw [given] at reach
    exact of_decide_eq_true reach
  · cases reach

/-- Numbers differ in a group that passes, since fabric and node are those of its path. -/
theorem group_numbers {paths : List Address} {minimum : Option Int}
    {results : List (EventResult F D)} (entered : ∀ entry ∈ results, Entered paths entry)
    (unique : uniqueEventNumbers results = true) {path : Address}
    (fine : Alone (groupOf results path) ∨
      (groupOf results path).all (EventResult.reaches minimum) = true) :
    ((groupOf results path).map EventResult.number).Nodup := by
  rcases fine with ⟨_, _, same⟩ | reach
  · rw [same]
    exact List.nodup_singleton _
  · have identities : (groupOf results path).filterMap EventResult.identity =
        ((groupOf results path).map EventResult.number).map fun number =>
          (path.fabricId, path.nodeId, number) := by
      rw [List.map_map, ← List.filterMap_eq_map]
      refine List.filterMap_congr fun entry inside => ?_
      obtain ⟨report, ok, -⟩ := reaches_report (List.all_eq_true.mp reach entry inside)
      obtain ⟨listed, mine⟩ := List.mem_filter.mp inside
      have about := (entered entry listed).report report ok
      rw [of_decide_eq_true mine] at about
      simp [EventResult.identity, EventResult.number, ok, about]
    have within : (groupOf results path).Sublist results := List.filter_sublist
    have distinct := (of_decide_eq_true unique).sublist (within.filterMap EventResult.identity)
    exact List.Nodup.of_map _ (identities ▸ distinct)

theorem eventGroup_congr {paths : List Address} {minimum : Option Int}
    {results others : List (EventResult F D)} (perm : others.Perm results)
    (entered : ∀ entry ∈ results, Entered paths entry) (unique : uniqueEventNumbers results = true)
    {path : Address} {ordered : List (EventResult F D)}
    (grouped : eventGroup minimum (groupOf results path) = .ok ordered) :
    eventGroup minimum (groupOf others path) = .ok ordered := by
  have perm' : (groupOf others path).Perm (groupOf results path) := perm.filter _
  obtain ⟨fine, rfl⟩ := eventGroup_ok_iff.mp grouped
  refine eventGroup_ok_iff.mpr
    ⟨?_, (Collation.sortBy_congr perm' (group_numbers entered unique fine)).symm⟩
  rcases fine with ⟨_, error, same⟩ | reach
  · rw [same] at perm'
    exact Or.inl ⟨_, error, List.perm_singleton.mp perm'⟩
  · exact Or.inr ((List.Perm.all_eq perm').trans reach)

theorem groups_collate {minimum : Option Int} {results : List (EventResult F D)}
    {paths : List Address} {ordered : List (List (EventResult F D))}
    (done : Collation.traverse (fun path => eventGroup minimum (groupOf results path)) paths =
      .ok ordered) :
    (∀ path ∈ paths, Alone (groupOf results path) ∨
      (groupOf results path).all (EventResult.reaches minimum) = true) ∧
      ordered.flatten = Collation.collate paths (fun entry => some entry.path)
        EventResult.number results := by
  have grouped := Collation.traverse_ok_iff.mp done
  clear done
  induction grouped with
  | nil => exact ⟨fun _ none => absurd none List.not_mem_nil, rfl⟩
  | cons first _ ih =>
      obtain ⟨fine, rfl⟩ := eventGroup_ok_iff.mp first
      obtain ⟨others, rest⟩ := ih
      refine ⟨List.forall_mem_cons.mpr ⟨fine, others⟩, ?_⟩
      rw [List.flatten_cons, rest, Collation.collate, Collation.collate, List.flatMap_cons,
        groupOf_group]

/-! ## What normalization returns -/

theorem normalizeEvents_ok_iff {floats : Floats F} {paths : List Address} {minimum : Option Int}
    {results : List (Option (RawEventEntry F D))} {out : List (EventResult F D)} :
    normalizeEvents floats paths minimum results = .ok out ↔
      results.length ≤ 1024 ∧ ∃ rebuilt,
        Collation.traverse (eventEntry floats paths) results = .ok rebuilt ∧
          uniqueEventNumbers rebuilt = true ∧ ∃ ordered,
            Collation.traverse (fun path => eventGroup minimum (groupOf rebuilt path)) paths =
              .ok ordered ∧ out = ordered.flatten := by
  rw [normalizeEvents]
  constructor
  · intro done
    split at done
    swap
    · cases done
    rename_i limit
    split at done
    · cases done
    rename_i rebuilt reads
    split at done
    swap
    · cases done
    rename_i unique
    split at done
    · cases done
    rename_i ordered grouped
    exact ⟨limit, rebuilt, reads, unique, ordered, grouped, (Except.ok.inj done).symm⟩
  · rintro ⟨limit, rebuilt, reads, unique, ordered, grouped, rfl⟩
    simp [if_pos limit, reads, unique, grouped]

/-- All failures are one. -/
theorem normalizeEvents_error {floats : Floats F} {paths : List Address} {minimum : Option Int}
    {results : List (Option (RawEventEntry F D))} {failure : Failure}
    (failed : normalizeEvents floats paths minimum results = .error failure) :
    failure = .invalidTransportReturn := by
  unfold normalizeEvents at failed
  repeat' split at failed
  all_goals first
    | exact (Except.error.inj failed).symm
    | cases failed

/-- What a list of events owes its paths, its minimum and the entries it was made of. -/
structure EventsInOrder (paths : List Address) (minimum : Option Int)
    (rebuilt out : List (EventResult F D)) : Prop where
  whole : out.Perm rebuilt
  requested : ∀ entry ∈ out, entry.path ∈ paths
  sorted : out.Pairwise fun first second =>
    paths.idxOf first.path < paths.idxOf second.path ∨ first.path = second.path ∧
      ∃ report report', first.result = .ok report ∧ second.result = .ok report' ∧
        report.eventNumber < report'.eventNumber
  distinct : (out.filterMap EventResult.identity).Nodup
  reached : ∀ entry ∈ out, ∀ report, entry.result = .ok report → ∀ least, minimum = some least →
    least ≤ report.eventNumber
  alone : ∀ entry ∈ out, ∀ error, entry.result = .error error → groupOf out entry.path = [entry]

theorem groups_inOrder {paths : List Address} {minimum : Option Int}
    {rebuilt : List (EventResult F D)} {ordered : List (List (EventResult F D))}
    (distinct : paths.Nodup) (entered : ∀ entry ∈ rebuilt, Entered paths entry)
    (unique : uniqueEventNumbers rebuilt = true)
    (grouped : Collation.traverse (fun path => eventGroup minimum (groupOf rebuilt path)) paths =
      .ok ordered) : EventsInOrder paths minimum rebuilt ordered.flatten := by
  obtain ⟨fine, same⟩ := groups_collate grouped
  have perm : ordered.flatten.Perm rebuilt := by
    rw [same]
    exact Collation.collate_perm _ distinct fun entry inside =>
      ⟨entry.path, (entered entry inside).requested, rfl⟩
  have report : ∀ entry ∈ rebuilt, (∃ error, entry.result = .error error ∧
      groupOf rebuilt entry.path = [entry]) ∨ entry.reaches minimum = true := by
    intro entry inside
    have member : entry ∈ groupOf rebuilt entry.path :=
      List.mem_filter.mpr ⟨inside, decide_eq_true rfl⟩
    rcases fine entry.path (entered entry inside).requested with ⟨path, error, single⟩ | reach
    · rw [single] at member
      obtain rfl := List.mem_singleton.mp member
      exact Or.inl ⟨error, rfl, single⟩
    · exact Or.inr (List.all_eq_true.mp reach entry member)
  refine ⟨perm, fun entry inside => (entered entry (perm.mem_iff.mp inside)).requested, ?_, ?_, ?_, ?_⟩
  · rw [same]
    refine Collation.collate_pairwise (fun path listed => ?_) ?_ ?_
    · rw [← groupOf_group]
      exact group_numbers entered unique (fine path listed)
    · intro path listed first inside second inside' less
      rw [← groupOf_group] at inside inside'
      have here := of_decide_eq_true (List.mem_filter.mp inside).2
      have here' := of_decide_eq_true (List.mem_filter.mp inside').2
      rcases fine path listed with ⟨_, _, single⟩ | reach
      · rw [single] at inside inside'
        rw [List.mem_singleton.mp inside, List.mem_singleton.mp inside'] at less
        exact absurd less (lt_irrefl _)
      · obtain ⟨report, ok, -⟩ := reaches_report (List.all_eq_true.mp reach first inside)
        obtain ⟨report', ok', -⟩ := reaches_report (List.all_eq_true.mp reach second inside')
        rw [EventResult.number, EventResult.number, ok, ok'] at less
        exact Or.inr ⟨here.trans here'.symm, report, report', ok, ok', less⟩
    · refine List.pairwise_iff_getElem.mpr fun i j lower upper less first second mine mine' => ?_
      rw [Option.some.inj mine, Option.some.inj mine', distinct.idxOf_getElem,
        distinct.idxOf_getElem]
      exact Or.inl less
  · exact (perm.filterMap _).nodup_iff.mpr (of_decide_eq_true unique)
  · intro entry inside report' ok least given
    rcases report entry (perm.mem_iff.mp inside) with ⟨error, failed, -⟩ | reach
    · rw [failed] at ok
      cases ok
    · obtain ⟨report'', ok', above⟩ := reaches_report reach
      rw [ok'] at ok
      obtain rfl := EventOutcome.ok.inj ok
      exact above least given
  · intro entry inside error failed
    rcases report entry (perm.mem_iff.mp inside) with ⟨_, -, single⟩ | reach
    · have members : (groupOf ordered.flatten entry.path).Perm (groupOf rebuilt entry.path) :=
        perm.filter _
      rw [single] at members
      exact List.perm_singleton.mp members
    · obtain ⟨report', ok, -⟩ := reaches_report reach
      rw [failed] at ok
      cases ok

theorem entries_entered {floats : Floats F} {paths : List Address}
    {results : List (Option (RawEventEntry F D))} {rebuilt : List (EventResult F D)}
    (reads : Collation.traverse (eventEntry floats paths) results = .ok rebuilt) :
    ∀ entry ∈ rebuilt, Entered paths entry := by
  intro entry inside
  obtain ⟨_, -, read⟩ := Collation.traverse_mem reads inside
  exact eventEntry_entered read

theorem normalizeEvents_congr {floats : Floats F} {paths : List Address} {minimum : Option Int}
    {results others : List (Option (RawEventEntry F D))} {out : List (EventResult F D)}
    (perm : others.Perm results)
    (done : normalizeEvents floats paths minimum results = .ok out) :
    normalizeEvents floats paths minimum others = .ok out := by
  obtain ⟨limit, rebuilt, reads, unique, ordered, grouped, rfl⟩ := normalizeEvents_ok_iff.mp done
  obtain ⟨rebuilt', reads', perm'⟩ := Collation.traverse_perm perm reads
  have entered := entries_entered reads
  have unique' : uniqueEventNumbers rebuilt' = true :=
    decide_eq_true ((perm'.filterMap _).nodup_iff.mpr (of_decide_eq_true unique))
  have grouped' : Collation.traverse (fun path => eventGroup minimum (groupOf rebuilt' path)) paths =
      .ok ordered :=
    Collation.traverse_ok_iff.mpr ((Collation.traverse_ok_iff.mp grouped).imp
      fun _ _ => eventGroup_congr perm' entered unique)
  exact normalizeEvents_ok_iff.mpr
    ⟨perm.length_eq ▸ limit, rebuilt', reads', unique', ordered, grouped', rfl⟩

/-- **A batch of events that is accepted is returned whole and in order, and the outcome does not
depend on the order the batch came in.** -/
theorem normalizeEvents_whole (floats : Floats F) (paths : List Address) (minimum : Option Int)
    (results : List (Option (RawEventEntry F D))) (distinct : paths.Nodup) :
    (∀ out, normalizeEvents floats paths minimum results = .ok out →
      ∃ rebuilt, Collation.traverse (eventEntry floats paths) results = .ok rebuilt ∧
        EventsInOrder paths minimum rebuilt out) ∧
      ∀ others, others.Perm results → normalizeEvents floats paths minimum others =
        normalizeEvents floats paths minimum results := by
  constructor
  · intro out done
    obtain ⟨-, rebuilt, reads, unique, ordered, grouped, rfl⟩ := normalizeEvents_ok_iff.mp done
    exact ⟨rebuilt, reads, groups_inOrder distinct (entries_entered reads) unique grouped⟩
  · intro others perm
    cases done : normalizeEvents floats paths minimum results with
    | ok out => exact normalizeEvents_congr perm done
    | error failure =>
        cases done' : normalizeEvents floats paths minimum others with
        | ok out =>
            have back := normalizeEvents_congr perm.symm done'
            rw [done] at back
            cases back
        | error failure' => rw [normalizeEvents_error done, normalizeEvents_error done']

/-- A bridged device that was reachable, was not, and was again, on two endpoints. -/
def bridged (endpoint : Int) : Address := ⟨1, 2, endpoint, 0x39, 3⟩

def reachable (endpoint number : Int) (value : Bool) : EventReport Empty where
  path := bridged endpoint
  value := .container .anonymous .structure [.scalar (.context 0) (.boolean value)]
  eventNumber := number
  priority := 1
  timestamp := ⟨.epoch, 0⟩

def reachableEntry (endpoint number : Int) (value : Bool) : RawEventEntry Empty Unit where
  path := some (bridged endpoint)
  result := .ok (some ⟨some (bridged endpoint), some (reachable endpoint number value).value,
    some number, some 1, some ⟨.epoch, 0⟩, some 0⟩)

theorem normalizeEvents_whole_bridged :
    ∃ rebuilt, Collation.traverse (eventEntry noFloats [bridged 3, bridged 2])
        [some (reachableEntry 2 8 true), some (reachableEntry 3 9 false),
          some (reachableEntry 2 6 false)] = .ok rebuilt ∧
      EventsInOrder (D := Unit) [bridged 3, bridged 2] (some 5) rebuilt
        [⟨bridged 3, .ok (reachable 3 9 false)⟩, ⟨bridged 2, .ok (reachable 2 6 false)⟩,
          ⟨bridged 2, .ok (reachable 2 8 true)⟩] :=
  (normalizeEvents_whole noFloats [bridged 3, bridged 2] (some 5)
    [some (reachableEntry 2 8 true), some (reachableEntry 3 9 false),
      some (reachableEntry 2 6 false)] (by decide)).1 _ (normalizeEvents_ok_iff.mpr
        ⟨by decide, _, rfl, by decide +kernel, _, rfl, rfl⟩)

end WotexMatter.Read
