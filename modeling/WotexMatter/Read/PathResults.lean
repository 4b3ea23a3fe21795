/-
# WotexMatter.Read.PathResults -- one untrusted batch of attribute results, put in order

`Wotex.Matter.PathResults` (`path_results.ex`) and `AttributeReport.new`
(`attribute_report.ex`).  A batch is read entry by entry, must not hold a path twice, is put in
the order of the requests that own its paths, and is measured.

Two requests may select one path: a concrete one owns it, else the first wildcard that selects it
(`Owner`).  `normalize_orders` says that a batch which is accepted is returned whole, owner after
owner and path after path, and that the order it came in does not matter.

Jason is a parameter, as are floats; of the details of an error only the two sizes are used that
`valid_error?` measures.
-/
import WotexMatter.Storage.Encoding
import WotexMatter.Theory.Collation
import WotexMatter.Tlv.RoundTrip
import WotexMatter.Value.Address

set_option autoImplicit false

namespace WotexMatter.Read

open WotexMatter.Storage WotexMatter.Theory WotexMatter.Tlv WotexMatter.Value

variable {F D : Type}

/-! ## Reports and errors -/

structure AttributeReport (F : Type) where
  path : Address
  value : Element F
  dataVersion : Option Int

/-- The three fields of a term given for a report; `none` is a term of another shape. -/
structure RawReport (F : Type) where
  path : Option Address
  value : Option (Element F)
  dataVersion : Option (Option Int)

def AttributeReport.new (floats : Floats F) :
    Option (RawReport F) → Option (AttributeReport F)
  | none => none
  | some report => do
      let path ← Address.new report.path
      let value ← report.value.bind (validateElement floats)
      let dataVersion ← report.dataVersion
      if dataVersion.all fun version => inRange version 0 0xFFFFFFFF then
        some { path, value, dataVersion }
      else none

/-- A field of an `%Error{}`: an atom, a map, or another term. -/
inductive Datum (D : Type) where
  | atom (name : String)
  | map (details : D)
  | other (term : D)

structure Error (D : Type) where
  code : Datum D
  field : Datum D
  errorClass : Datum D
  details : Datum D
  retryable : Datum D
  effect : Datum D

/-- `map_size` and `:erlang.external_size` of a map of details. -/
structure Sizes (D : Type) where
  mapSize : D → Nat
  externalSize : D → Nat

namespace Datum

def isAtom : Datum D → Bool
  | .atom _ => true
  | _ => false

/-- The atom is one of these. -/
def among (names : List String) : Datum D → Bool
  | .atom name => names.contains name
  | _ => false

end Datum

/-- `valid_error?`. -/
def validError (sizes : Sizes D) (error : Error D) : Bool :=
  error.code.isAtom && !error.code.among ["nil"] && error.field.isAtom &&
    (match error.details with
      | .map details => sizes.mapSize details ≤ 16 && sizes.externalSize details ≤ 4096
      | _ => false) &&
    error.errorClass.among ["timeout", "unavailable", "rate_limited", "protocol", "permanent", "nil"] &&
    error.retryable.among ["true", "false"] && error.effect.among ["none"]

/-! ## Entries -/

inductive RawResult (F D : Type) where
  | ok (report : Option (RawReport F))
  | error (error : Error D)
  | other

/-- The two fields of a term given for an entry. -/
structure RawEntry (F D : Type) where
  path : Option Address
  result : RawResult F D

inductive Outcome (F D : Type) where
  | ok (report : AttributeReport F)
  | error (error : Error D)

structure PathResult (F D : Type) where
  path : Address
  result : Outcome F D

inductive Failure where
  | invalidPath
  | invalidTransportReturn
  | responseLimit
  deriving DecidableEq

/-- `result`. -/
def result (floats : Floats F) (sizes : Sizes D) (path : Address) :
    RawResult F D → Option (Outcome F D)
  | .ok report => do
      let report ← AttributeReport.new floats report
      if report.path = path then some (.ok report) else none
  | .error error => if validError sizes error then some (.error error) else none
  | .other => none

/-- The clauses of `reconstruct` for one entry; `none` is a term of another shape. -/
def entry (floats : Floats F) (sizes : Sizes D) :
    Option (RawEntry F D) → Except Failure (PathResult F D)
  | none => .error .invalidTransportReturn
  | some raw =>
      match Address.new raw.path with
      | none => .error .invalidPath
      | some path =>
          match result floats sizes path raw.result with
          | none => .error .invalidTransportReturn
          | some result => .ok { path, result }

def reconstruct (floats : Floats F) (sizes : Sizes D) (results : List (Option (RawEntry F D))) :
    Except Failure (List (PathResult F D)) :=
  Collation.traverse (entry floats sizes) results

/-- `unique_paths?`. -/
def uniquePaths (results : List (PathResult F D)) : Bool :=
  (results.map fun result => result.path.key).Nodup

/-! ## Order -/

/-- `concrete_requests_present?`. -/
def concreteRequestsPresent (requested : List ReadPath) (results : List (PathResult F D)) : Bool :=
  requested.all fun request =>
    !request.concrete || results.any fun result => request.selects result.path

/-- `owner_index`. -/
def ownerIndex (requested : List ReadPath) (address : Address) : Option Nat :=
  (requested.findIdx? fun request => request.concrete && request.selects address).or
    (requested.findIdx? fun request => request.selects address)

def order (requested : List ReadPath) (results : List (PathResult F D)) :
    Option (List (PathResult F D)) :=
  if (results.all fun result => requested.any fun request => request.selects result.path) &&
      concreteRequestsPresent requested results then
    let ordered := (List.range requested.length).flatMap fun index =>
      Collation.sortBy (fun result => result.path.key)
        (results.filter fun result => ownerIndex requested result.path = some index)
    if ordered.length = results.length then some ordered else none
  else none

/-! ## Size -/

/-- What is given to Jason.  The keys of an object are in order, as they are in an Elixir map of
this size. -/
inductive Projection (F D : Type) where
  | null
  | boolean (value : Bool)
  | integer (value : Int)
  | float (value : F)
  | string (value : Bytes)
  | name (value : String)
  | details (value : D)
  | array (items : List (Projection F D))
  | object (members : List (String × Projection F D))

def pathProjection (path : Address) : Projection F D :=
  .object [("cluster", .integer path.cluster), ("endpoint", .integer path.endpoint),
    ("fabric_id", .integer path.fabricId), ("member", .integer path.member),
    ("node_id", .integer path.nodeId)]

def tagProjection : Tag → Projection F D
  | .anonymous => .name "anonymous"
  | .context id => .array [.name "context", .integer id]
  | .common id => .array [.name "common", .integer id]
  | .implicit id => .array [.name "implicit", .integer id]
  | .qualified vendor profile id =>
      .array [.name "qualified", .integer vendor, .integer profile, .integer id]

def Scalar.projection : Scalar F → String × Projection F D
  | .signed .w8 value => ("i8", .integer value)
  | .signed .w16 value => ("i16", .integer value)
  | .signed .w32 value => ("i32", .integer value)
  | .signed .w64 value => ("i64", .integer value)
  | .unsigned .w8 value => ("u8", .integer value)
  | .unsigned .w16 value => ("u16", .integer value)
  | .unsigned .w32 value => ("u32", .integer value)
  | .unsigned .w64 value => ("u64", .integer value)
  | .boolean value => ("boolean", .boolean value)
  | .float32 value => ("float32", .float value)
  | .float64 value => ("float64", .float value)
  | .utf8 value => ("utf8", .string value)
  | .bytes value => ("bytes", .object [("base64", .string (base64Encode value))])
  | .null => ("null", .null)

def Container.name : Container → String
  | .structure => "structure"
  | .array => "array"
  | .list => "list"

mutual

def elementProjection : Element F → Projection F D
  | .scalar tag value =>
      let projected := Scalar.projection value
      .object [("tag", tagProjection tag), ("type", .name projected.1), ("value", projected.2)]
  | .container tag kind children =>
      .object [("tag", tagProjection tag), ("type", .name (Container.name kind)),
        ("value", .array (elementProjections children))]

def elementProjections : List (Element F) → List (Projection F D)
  | [] => []
  | element :: rest => elementProjection element :: elementProjections rest

end

/-- `Atom.to_string`; `valid_error?` leaves only atoms. -/
def Datum.projection : Datum D → Projection F D
  | .atom name => .name name
  | .map details => .details details
  | .other term => .details term

def Error.projection (error : Error D) : Projection F D :=
  .object [("code", error.code.projection), ("details", error.details.projection),
    ("effect", error.effect.projection),
    ("field", if error.field.among ["nil", "false"] then .null else error.field.projection),
    ("retryable", .boolean (error.retryable.among ["true"]))]

def projection (entry : PathResult F D) : Projection F D :=
  match entry.result with
  | .ok report =>
      .object [("path", pathProjection entry.path), ("result", .object [("ok", .object
        [("data_version", report.dataVersion.elim .null .integer),
          ("path", pathProjection report.path),
          ("value", elementProjection report.value)])])]
  | .error error =>
      .object [("path", pathProjection entry.path),
        ("result", .object [("error", error.projection)])]

def resultBudget : Nat := 98304

/-- `projected_size`. -/
def projectedSize (jason : Projection F D → Option Bytes) (size : Nat) (entry : PathResult F D) :
    Option Nat := do
  let encoded ← jason (projection entry)
  let next := size + encoded.length + if size = 2 then 0 else 1
  if next ≤ resultBudget then some next else none

/-- `within_budget`. -/
def withinBudget (jason : Projection F D → Option Bytes) (results : List (PathResult F D)) : Bool :=
  (results.foldlM (projectedSize jason) 2).isSome

/-! ## Normalization -/

def normalize (floats : Floats F) (sizes : Sizes D) (jason : Projection F D → Option Bytes)
    (requested : List ReadPath) (results : List (Option (RawEntry F D))) :
    Except Failure (List (PathResult F D)) :=
  if 1 ≤ requested.length ∧ requested.length ≤ 64 ∧ results.length ≤ 1024 then
    match reconstruct floats sizes results with
    | .error failure => .error failure
    | .ok results =>
        if uniquePaths results then
          match order requested results with
          | none => .error .invalidTransportReturn
          | some ordered =>
              if withinBudget jason ordered then .ok ordered else .error .responseLimit
        else .error .invalidTransportReturn
  else .error .invalidTransportReturn

/-! ## Owners -/

/-- The request at `index` owns the path: the first concrete one that is equal to it, and without
one the first wildcard that selects it. -/
inductive Owner (requested : List ReadPath) (address : Address) (index : Nat) : Prop where
  | concrete (here : requested[index]? = some address.selector)
      (first : ∀ other < index, requested[other]? ≠ some address.selector)
  | wildcard (request : ReadPath) (absent : address.selector ∉ requested)
      (here : requested[index]? = some request) (wild : request.concrete = false)
      (selects : request.selects address = true)
      (first : ∀ other < index, ∀ request, requested[other]? = some request →
        request.selects address = false)

theorem findIdx_iff {requested : List ReadPath} {test : ReadPath → Bool} {index : Nat} :
    requested.findIdx? test = some index ↔
      (∃ request, requested[index]? = some request ∧ test request = true) ∧
        ∀ other < index, ∀ request, requested[other]? = some request → test request = false := by
  rw [List.findIdx?_eq_some_iff_getElem]
  constructor
  · rintro ⟨room, here, first⟩
    refine ⟨⟨_, List.getElem?_eq_getElem room, here⟩, fun other less request found => ?_⟩
    obtain ⟨_, rfl⟩ := List.getElem?_eq_some_iff.mp found
    exact Bool.eq_false_iff.mpr (first other less)
  · rintro ⟨⟨request, found, here⟩, first⟩
    obtain ⟨room, rfl⟩ := List.getElem?_eq_some_iff.mp found
    refine ⟨room, here, fun other less => ?_⟩
    rw [first other less _ (List.getElem?_eq_getElem (less.trans room))]
    exact Bool.false_ne_true

theorem ownerIndex_owner {requested : List ReadPath} {address : Address} {index : Nat} :
    ownerIndex requested address = some index ↔ Owner requested address index := by
  have exact : ∀ {request : ReadPath},
      (request.concrete && request.selects address) = true ↔ request = address.selector :=
    ReadPath.concrete_selects
  rw [ownerIndex, Option.or_eq_some_iff, findIdx_iff, findIdx_iff, List.findIdx?_eq_none_iff]
  constructor
  · rintro (⟨⟨request, here, mine⟩, first⟩ | ⟨none, ⟨request, here, selects⟩, first⟩)
    · rw [exact.mp mine] at here
      refine .concrete here fun other less found => ?_
      have not := first other less _ found
      rw [exact.mpr rfl] at not
      cases not
    · have absent : address.selector ∉ requested := fun inside => by
        have not := none _ inside
        rw [exact.mpr rfl] at not
        cases not
      have wild := none _ (List.mem_of_getElem? here)
      rw [selects, Bool.and_true] at wild
      exact .wildcard request absent here wild selects first
  · rintro (⟨here, first⟩ | ⟨request, absent, here, -, selects, first⟩)
    · refine Or.inl ⟨⟨_, here, exact.mpr rfl⟩, fun other less request found => ?_⟩
      refine Bool.eq_false_iff.mpr fun mine => first other less ?_
      rw [found, exact.mp mine]
    · refine Or.inr ⟨fun request inside => ?_, ⟨request, here, selects⟩, first⟩
      exact Bool.eq_false_iff.mpr fun mine => absent (exact.mp mine ▸ inside)

/-! ## Measuring -/

/-- What the measurement counts on: the text of an object is not empty, and an array is its items
between brackets, with commas. -/
structure Compact (jason : Projection F D → Option Bytes) : Prop where
  object_text : ∀ {members text}, jason (.object members) = some text → text ≠ []
  array_text : ∀ {items texts},
    List.Forall₂ (fun item text => jason item = some text) items texts →
      jason (.array items) = some (91 :: (List.intercalate [44] texts ++ [93]))

theorem projection_object (entry : PathResult F D) :
    ∃ members, projection entry = .object members := by
  unfold projection
  split <;> exact ⟨_, rfl⟩

theorem projectedSize_some {jason : Projection F D → Option Bytes} {size next : Nat}
    {entry : PathResult F D} (measured : projectedSize jason size entry = some next) :
    ∃ text, jason (projection entry) = some text ∧
      next = size + text.length + (if size = 2 then 0 else 1) ∧ next ≤ resultBudget := by
  simp only [projectedSize, Option.bind_eq_bind, Option.bind_eq_some_iff,
    Option.ite_none_right_eq_some, Option.some.injEq] at measured
  obtain ⟨text, encoded, small, rfl⟩ := measured
  exact ⟨text, encoded, rfl, small⟩

/-- After the first result each one takes its text and a comma. -/
theorem measured_rest {jason : Projection F D → Option Bytes} {results : List (PathResult F D)} :
    ∀ {size total : Nat}, 2 < size → size ≤ resultBudget →
      results.foldlM (projectedSize jason) size = some total →
        ∃ texts, List.Forall₂ (fun entry text => jason (projection entry) = some text) results texts ∧
          total = size + (texts.map fun text => text.length + 1).sum ∧ total ≤ resultBudget := by
  induction results with
  | nil =>
      intro size total _ fits done
      obtain rfl := Option.some.inj done
      exact ⟨[], .nil, rfl, fits⟩
  | cons entry rest ih =>
      intro size total started _ done
      rw [List.foldlM_cons] at done
      obtain ⟨next, measured, done⟩ := Option.bind_eq_some_iff.mp done
      obtain ⟨text, encoded, same, fits⟩ := projectedSize_some measured
      rw [if_neg (by omega)] at same
      obtain ⟨texts, encodes, sum, small⟩ := ih (by omega) fits done
      refine ⟨text :: texts, .cons encoded encodes, ?_, small⟩
      rw [List.map_cons, List.sum_cons]
      omega

theorem intercalate_length (text : Bytes) (texts : List Bytes) :
    (List.intercalate [44] (text :: texts)).length =
      text.length + (texts.map fun text => text.length + 1).sum := by
  induction texts generalizing text with
  | nil => simp
  | cons other rest ih =>
      rw [List.intercalate_cons_cons, List.length_append, List.length_append, ih, List.map_cons,
        List.sum_cons, List.length_singleton]
      omega

theorem withinBudget_text {jason : Projection F D → Option Bytes} (compact : Compact jason)
    {results : List (PathResult F D)} (within : withinBudget jason results = true) :
    ∃ text, jason (.array (results.map projection)) = some text ∧ text.length ≤ resultBudget := by
  have array : ∀ {texts : List Bytes},
      List.Forall₂ (fun entry text => jason (projection entry) = some text) results texts →
        jason (.array (results.map projection)) =
          some (91 :: (List.intercalate [44] texts ++ [93])) :=
    fun encodes => compact.array_text (List.forall₂_map_left_iff.mpr encodes)
  obtain ⟨total, done⟩ := Option.isSome_iff_exists.mp within
  cases results with
  | nil => exact ⟨_, array .nil, by decide⟩
  | cons entry rest =>
      rw [List.foldlM_cons] at done
      obtain ⟨next, measured, done⟩ := Option.bind_eq_some_iff.mp done
      obtain ⟨text, encoded, same, fits⟩ := projectedSize_some measured
      obtain ⟨members, object⟩ := projection_object entry
      have positive : 0 < text.length :=
        List.length_pos_iff.mpr (compact.object_text (object ▸ encoded))
      rw [if_pos rfl] at same
      obtain ⟨texts, encodes, sum, small⟩ := measured_rest (by omega) fits done
      refine ⟨_, array (.cons encoded encodes), ?_⟩
      rw [List.length_cons, List.length_append, intercalate_length, List.length_singleton]
      omega

/-! ## What normalization returns -/

theorem normalize_ok_iff {floats : Floats F} {sizes : Sizes D}
    {jason : Projection F D → Option Bytes} {requested : List ReadPath}
    {results : List (Option (RawEntry F D))} {ordered : List (PathResult F D)} :
    normalize floats sizes jason requested results = .ok ordered ↔
      (1 ≤ requested.length ∧ requested.length ≤ 64 ∧ results.length ≤ 1024) ∧
        ∃ rebuilt, reconstruct floats sizes results = .ok rebuilt ∧ uniquePaths rebuilt = true ∧
          order requested rebuilt = some ordered ∧ withinBudget jason ordered = true := by
  rw [normalize]
  constructor
  · intro done
    split at done
    swap
    · cases done
    rename_i sizes
    split at done
    · cases done
    rename_i rebuilt reads
    split at done
    swap
    · cases done
    rename_i unique
    split at done
    · cases done
    rename_i listed sorted
    split at done
    swap
    · cases done
    rename_i within
    obtain rfl := Except.ok.inj done
    exact ⟨sizes, rebuilt, reads, unique, sorted, within⟩
  · rintro ⟨sizes, rebuilt, reads, unique, sorted, within⟩
    simp [if_pos sizes, reads, unique, sorted, within]

/-- `order` in terms of groups. -/
theorem order_some_iff {requested : List ReadPath} {results ordered : List (PathResult F D)} :
    order requested results = some ordered ↔
      (∀ entry ∈ results, ∃ request ∈ requested, request.selects entry.path = true) ∧
        (∀ request ∈ requested, request.concrete = true →
          ∃ entry ∈ results, request.selects entry.path = true) ∧
        ordered = Collation.collate (List.range requested.length)
          (fun entry => ownerIndex requested entry.path) (fun entry => entry.path.key) results ∧
        ordered.length = results.length := by
  have collated : ((List.range requested.length).flatMap fun index =>
      Collation.sortBy (fun result : PathResult F D => result.path.key)
        (results.filter fun result => ownerIndex requested result.path = some index)) =
      Collation.collate (List.range requested.length)
        (fun entry => ownerIndex requested entry.path) (fun entry => entry.path.key) results := rfl
  have tests : ((results.all fun result => requested.any fun request =>
      request.selects result.path) && concreteRequestsPresent requested results) = true ↔
      (∀ entry ∈ results, ∃ request ∈ requested, request.selects entry.path = true) ∧
        ∀ request ∈ requested, request.concrete = true →
          ∃ entry ∈ results, request.selects entry.path = true := by
    simp [concreteRequestsPresent, or_iff_not_imp_left]
  rw [order, collated]
  constructor
  · intro done
    split at done
    · rename_i passed
      dsimp only at done
      split at done
      · rename_i whole
        obtain rfl := Option.some.inj done
        obtain ⟨selected, present⟩ := tests.mp passed
        exact ⟨selected, present, rfl, whole⟩
      · cases done
    · cases done
  · rintro ⟨selected, present, rfl, whole⟩
    rw [if_pos (tests.mpr ⟨selected, present⟩)]
    exact if_pos whole

theorem uniquePaths_perm {results others : List (PathResult F D)} (perm : others.Perm results)
    (unique : uniquePaths results = true) : uniquePaths others = true :=
  decide_eq_true ((perm.map _).nodup_iff.mpr (of_decide_eq_true unique))

theorem uniquePaths_separate {results : List (PathResult F D)} (unique : uniquePaths results = true)
    (requested : List ReadPath) :
    Collation.Separate (fun entry : PathResult F D => ownerIndex requested entry.path)
      (fun entry => entry.path.key) results :=
  Collation.separate_of_nodup (of_decide_eq_true unique) _

theorem order_congr {requested : List ReadPath} {results others ordered : List (PathResult F D)}
    (perm : others.Perm results) (unique : uniquePaths results = true)
    (sorted : order requested results = some ordered) : order requested others = some ordered := by
  obtain ⟨selected, present, same, whole⟩ := order_some_iff.mp sorted
  refine order_some_iff.mpr ⟨fun entry inside => selected entry (perm.mem_iff.mp inside),
    fun request listed concrete => ?_, ?_, whole.trans perm.length_eq.symm⟩
  · obtain ⟨entry, inside, selects⟩ := present request listed concrete
    exact ⟨entry, perm.mem_iff.mpr inside, selects⟩
  · rw [same]
    exact (Collation.collate_congr perm (uniquePaths_separate unique requested) _).symm

theorem normalize_congr {floats : Floats F} {sizes : Sizes D}
    {jason : Projection F D → Option Bytes} {requested : List ReadPath}
    {results others : List (Option (RawEntry F D))} {ordered : List (PathResult F D)}
    (perm : others.Perm results)
    (done : normalize floats sizes jason requested results = .ok ordered) :
    normalize floats sizes jason requested others = .ok ordered := by
  obtain ⟨⟨some, few, limit⟩, rebuilt, reads, unique, sorted, within⟩ := normalize_ok_iff.mp done
  obtain ⟨rebuilt', reads', perm'⟩ := Collation.traverse_perm perm reads
  exact normalize_ok_iff.mpr ⟨⟨some, few, perm.length_eq ▸ limit⟩, rebuilt', reads',
    uniquePaths_perm perm' unique, order_congr perm' unique sorted, within⟩

/-- What a list of results owes its requests and the results it was made of. -/
structure Orders (jason : Projection F D → Option Bytes) (requested : List ReadPath)
    (rebuilt ordered : List (PathResult F D)) : Prop where
  whole : ordered.Perm rebuilt
  distinct : (ordered.map PathResult.path).Nodup
  selected : ∀ entry ∈ ordered, ∃ request ∈ requested, request.selects entry.path = true
  present : ∀ request ∈ requested, request.concrete = true →
    ∃ entry ∈ ordered, request = entry.path.selector
  owned : ∀ entry ∈ ordered, ∃ index, Owner requested entry.path index
  sorted : ordered.Pairwise fun first second => ∀ index other,
    Owner requested first.path index → Owner requested second.path other →
      index < other ∨ index = other ∧ first.path.key < second.path.key
  small : ∃ text, jason (.array (ordered.map projection)) = some text ∧ text.length ≤ 98304

theorem order_orders {jason : Projection F D → Option Bytes} (compact : Compact jason)
    {requested : List ReadPath} {rebuilt ordered : List (PathResult F D)}
    (unique : uniquePaths rebuilt = true) (sorted : order requested rebuilt = some ordered)
    (within : withinBudget jason ordered = true) : Orders jason requested rebuilt ordered := by
  obtain ⟨selected, present, same, whole⟩ := order_some_iff.mp sorted
  have owned : ∀ entry ∈ rebuilt, ∃ index ∈ List.range requested.length,
      ownerIndex requested entry.path = some index := by
    intro entry inside
    obtain ⟨request, listed, selects⟩ := selected entry inside
    have found : (requested.findIdx? fun request => request.selects entry.path).isSome = true := by
      rw [List.findIdx?_isSome]
      exact List.any_eq_true.mpr ⟨request, listed, selects⟩
    have some : (ownerIndex requested entry.path).isSome = true := by
      rw [ownerIndex, Option.isSome_or, found, Bool.or_true]
    obtain ⟨index, owner⟩ := Option.isSome_iff_exists.mp some
    refine ⟨index, List.mem_range.mpr ?_, owner⟩
    rcases ownerIndex_owner.mp owner with ⟨here, -⟩ | ⟨_, -, here, -, -, -⟩ <;>
      exact (List.getElem?_eq_some_iff.mp here).1
  have perm : ordered.Perm rebuilt := by
    rw [same]
    exact Collation.collate_perm _ List.nodup_range owned
  have unique' := uniquePaths_perm perm unique
  refine ⟨perm, ?_, fun entry inside => selected entry (perm.mem_iff.mp inside),
    fun request listed concrete => ?_, fun entry inside => ?_, ?_, withinBudget_text compact within⟩
  · have keys := of_decide_eq_true unique'
    rw [show (ordered.map fun result => result.path.key) =
      (ordered.map PathResult.path).map Address.key by rw [List.map_map]; rfl] at keys
    exact keys.of_map _
  · obtain ⟨entry, inside, selects⟩ := present request listed concrete
    refine ⟨entry, perm.mem_iff.mpr inside, ReadPath.concrete_selects.mp ?_⟩
    rw [concrete, selects]
    rfl
  · obtain ⟨index, -, owner⟩ := owned entry (perm.mem_iff.mp inside)
    exact ⟨index, ownerIndex_owner.mp owner⟩
  · rw [same]
    refine Collation.collate_pairwise (fun group _ => uniquePaths_separate unique requested group)
      ?_ ?_
    · intro group _ first inside second inside' less index other owns owns'
      have mine := (Collation.mem_group.mp inside).2
      have mine' := (Collation.mem_group.mp inside').2
      rw [ownerIndex_owner.mpr owns] at mine
      rw [ownerIndex_owner.mpr owns'] at mine'
      obtain rfl := Option.some.inj mine
      obtain rfl := Option.some.inj mine'
      exact Or.inr ⟨rfl, less⟩
    · refine List.pairwise_lt_range.imp fun less first second mine mine' index other owns owns' => ?_
      rw [ownerIndex_owner.mpr owns] at mine
      rw [ownerIndex_owner.mpr owns'] at mine'
      obtain rfl := Option.some.inj mine
      obtain rfl := Option.some.inj mine'
      exact Or.inl less

/-- **A batch that is accepted is returned whole and in order, whatever order it came in.** -/
theorem normalize_orders (floats : Floats F) (sizes : Sizes D)
    (jason : Projection F D → Option Bytes) (compact : Compact jason) (requested : List ReadPath)
    (results : List (Option (RawEntry F D))) :
    (∀ ordered, normalize floats sizes jason requested results = .ok ordered →
      ∃ rebuilt, reconstruct floats sizes results = .ok rebuilt ∧
        Orders jason requested rebuilt ordered) ∧
      ∀ others, others.Perm results → ∀ ordered,
        normalize floats sizes jason requested others = .ok ordered ↔
          normalize floats sizes jason requested results = .ok ordered := by
  refine ⟨fun ordered done => ?_, fun others perm ordered =>
    ⟨normalize_congr perm.symm, normalize_congr perm⟩⟩
  obtain ⟨-, rebuilt, reads, unique, sorted, within⟩ := normalize_ok_iff.mp done
  exact ⟨rebuilt, reads, order_orders compact unique sorted within⟩

/-! ### A batch without floats and without details -/

mutual

def plainDocument : Projection Empty Unit → Json
  | .null => .null
  | .boolean value => .boolean value
  | .integer value => .integer value
  | .float value => value.elim
  | .string value => .string value
  | .name value => .string (ascii value)
  | .details () => .object []
  | .array items => .array (plainDocuments items)
  | .object members => .object (plainMembers members)

def plainDocuments : List (Projection Empty Unit) → List Json
  | [] => []
  | item :: rest => plainDocument item :: plainDocuments rest

def plainMembers : List (String × Projection Empty Unit) → List (Bytes × Json)
  | [] => []
  | (name, value) :: rest => (ascii name, plainDocument value) :: plainMembers rest

end

def plainJason (projected : Projection Empty Unit) : Option Bytes :=
  some (Wire.jasonText (plainDocument projected))

theorem plainJason_compact : Compact plainJason := by
  refine ⟨fun {members text} encoded empty => ?_, fun {items texts} encodes => ?_⟩
  · obtain rfl := Option.some.inj encoded
    cases members <;> simp [plainDocument, plainMembers, Wire.jasonText, ascii] at empty
  · have rest : ∀ {items texts},
        List.Forall₂ (fun item text => plainJason item = some text) items texts →
          Wire.jasonItems (plainDocuments items) = texts.flatMap (fun text => 44 :: text) ++ [93] := by
      intro items texts encodes
      induction encodes with
      | nil => rfl
      | cons encoded _ ih =>
          obtain rfl := Option.some.inj encoded
          rw [plainDocuments, Wire.jasonItems, ih, List.flatMap_cons]
          simp
    have joined : ∀ (text : Bytes) (texts : List Bytes),
        List.intercalate [44] (text :: texts) = text ++ texts.flatMap (fun text => 44 :: text) := by
      intro text texts
      induction texts generalizing text with
      | nil => simp
      | cons other others ih => rw [List.intercalate_cons_cons, ih, List.flatMap_cons]; simp
    cases encodes with
    | nil => rfl
    | cons encoded encodes =>
        obtain rfl := Option.some.inj encoded
        rw [joined, plainJason, plainDocument, plainDocuments, Wire.jasonText, rest encodes]
        simp

def noSizes : Sizes Unit where
  mapSize _ := 0
  externalSize _ := 6

def lampPath : Address := ⟨1, 2, 1, 6, 0⟩

def sensorPath : Address := ⟨1, 2, 3, 1026, 0⟩

def lampResult : RawEntry Empty Unit where
  path := some lampPath
  result := .ok (some ⟨some lampPath, some (.scalar .anonymous (.boolean true)), some (some 7)⟩)

def sensorResult : RawEntry Empty Unit where
  path := some sensorPath
  result := .error ⟨.atom "timeout", .atom "nil", .atom "timeout", .map (), .atom "true", .atom "none"⟩

/-- Both paths are selected by the wildcard; the second request owns the lamp. -/
def bothRequests : List ReadPath := [⟨1, 2, none, none, some 0⟩, lampPath.selector]

theorem normalize_orders_lamp :
    ∃ rebuilt, reconstruct noFloats noSizes [some lampResult, some sensorResult] = .ok rebuilt ∧
      Orders plainJason bothRequests rebuilt
        [⟨sensorPath, .error ⟨.atom "timeout", .atom "nil", .atom "timeout", .map (), .atom "true",
            .atom "none"⟩⟩,
          ⟨lampPath, .ok ⟨lampPath, .scalar .anonymous (.boolean true), some 7⟩⟩] :=
  (normalize_orders noFloats noSizes plainJason plainJason_compact bothRequests
    [some lampResult, some sensorResult]).1 _ (normalize_ok_iff.mpr
      ⟨by decide, _, rfl, by decide +kernel, rfl, by decide +kernel⟩)

end WotexMatter.Read
