/-
# WotexMatter.Session.ReplyLines -- the lines of replies

Whether the line of a reply is written, and whether it is read.  It is written if its strings are
UTF-8 and its text is short enough, and read if the document is within the limits of a frame: for
`Success` and `InteractionFailure` both come down to what is in the frame.
-/
import WotexMatter.Session.ReplyTerms

set_option autoImplicit false

namespace WotexMatter.Session

open WotexMatter.Beam WotexMatter.Beam.Inbound
open WotexMatter.Storage
open WotexMatter.Wire (Term InteractionError Admissible isText nodeCount memberNodes stringValid)

variable {F : Type}

/-! ## Strings -/

/-- An ASCII text is UTF-8; on a fixed text the hypothesis is decided. -/
theorem stringValid_plain {text : Bytes}
    (plain : (text.all fun byte => decide (byte ≤ 0x7F)) = true) : stringValid text = true := by
  induction text with
  | nil => rfl
  | cons byte rest ih =>
      rw [List.all_cons, Bool.and_eq_true, decide_eq_true_eq] at plain
      unfold stringValid
      rw [if_pos plain.1, ih plain.2]

/-- The id of a request, `Integer.to_string` of its number. -/
def requestId (number : UInt64) : Bytes := dumpNumber number.toNat

/-- A number of 64 bits has 20 digits at most. -/
theorem dumpNumber_length {n : Nat} (word : n < 0x10000000000000000) :
    (dumpNumber n).length ≤ 20 := by
  rw [dumpNumber]
  split
  · simp
  · have digits : (Nat.digits 10 n).length ≤ 20 := by
      rw [Nat.digits_length_le_iff (by omega)]
      omega
    simpa using digits

theorem escapeByte_length (byte : UInt8) : (escapeByte byte).length ≤ 6 := by
  unfold escapeByte
  split_ifs <;> simp [ascii]

/-- A byte is escaped with six at most. -/
theorem dumpString_length (text : Bytes) : (dumpString text).length ≤ 6 * text.length + 2 := by
  have escaped : (text.flatMap escapeByte).length ≤ 6 * text.length := by
    induction text with
    | nil => exact Nat.zero_le _
    | cons byte rest ih =>
        have first := escapeByte_length byte
        rw [List.flatMap_cons, List.length_append, List.length_cons]
        omega
  rw [dumpString, List.length_cons, List.length_append, List.length_singleton]
  omega

/-- The bytes a member takes, with a colon and a comma. -/
def memberBytes (member : Bytes × Json) : Nat :=
  (dumpString member.1).length + member.2.dumpText.length + 2

/-- The text of an object is the sum of its members. -/
theorem objectText_length (members : List (Bytes × Json)) :
    (Json.object members).dumpText.length ≤ (members.map memberBytes).sum + 2 := by
  have others : ∀ members, (dumpMembers members).length = (members.map memberBytes).sum + 1 := by
    intro members
    induction members with
    | nil => rfl
    | cons member rest ih =>
        simp only [dumpMembers, List.length_cons, List.length_append, ih, List.map_cons,
          List.sum_cons, memberBytes]
        omega
  cases members with
  | nil => simp [Json.dumpText, ascii]
  | cons member rest =>
      simp only [Json.dumpText, List.length_cons, List.length_append, others, List.map_cons,
        List.sum_cons, memberBytes]
      omega

section Frames

variable (number : UInt64) (ok : Bool) (document : Json)

variable {document}

theorem admissible_replyFrame (id : Bytes) (ok : Bool) {key : Bytes}
    (fresh : key ∉ [ascii "id", ascii "ok", ascii "version"]) (inside : Admissible 1 document) :
    Admissible 0 (Wire.replyFrame (.string id) ok (key, document)) := by
  have others : [ascii "id", ascii "ok", ascii "version"].Nodup := by decide
  cases ok with
  | true =>
      refine .object (Nat.succ_pos _) (by simp [Wire.kMaximumCollectionEntries]) ?_ ?_
      · have same : [ascii "id", ascii "ok", key, ascii "version"].Perm
            (key :: [ascii "id", ascii "ok", ascii "version"]) :=
          @List.perm_middle _ key [ascii "id", ascii "ok"] [ascii "version"]
        exact same.nodup_iff.mpr (List.nodup_cons.mpr ⟨fresh, others⟩)
      · simp only [List.forall_mem_cons, List.not_mem_nil]
        exact ⟨.string _ _, .boolean _ _, inside, .unsigned _ _, fun _ => False.elim⟩
  | false =>
      refine .object (Nat.succ_pos _) (by simp [Wire.kMaximumCollectionEntries])
        (List.nodup_cons.mpr ⟨fresh, others⟩) ?_
      simp only [List.forall_mem_cons, List.not_mem_nil]
      exact ⟨inside, .string _ _, .boolean _ _, .unsigned _ _, fun _ => False.elim⟩

end Frames

theorem nodeCount_replyFrame (id : Bytes) (ok : Bool) (key : Bytes) (document : Json) :
    nodeCount (Wire.replyFrame (.string id) ok (key, document)) = nodeCount document + 8 := by
  cases ok <;> simp [Wire.replyFrame, nodeCount, memberNodes] <;> omega

theorem worded_replyFrame (id : Bytes) (ok : Bool) (key : Bytes) (document : Json) :
    worded (Wire.replyFrame (.string id) ok (key, document)) = worded document := by
  cases ok <;> simp [Wire.replyFrame, worded, wordedMembers]

/-! ## Paths and elements -/

theorem isText_pathJson (path : Wire.ConcretePath) : isText (Wire.pathJson path) = true := by
  simp (disch := decide) [Wire.pathJson, isText, Wire.membersAreTexts, stringValid_plain]

theorem admissible_pathJson (path : Wire.ConcretePath) {depth : Nat}
    (shallow : depth < Wire.kMaximumSaxDepth) : Admissible depth (Wire.pathJson path) := by
  refine .object shallow (by simp [Wire.kMaximumCollectionEntries]) ?_ ?_
  · show [ascii "cluster", ascii "endpoint", ascii "fabric_id", ascii "member",
      ascii "node_id"].Nodup
    decide
  · simp only [List.forall_mem_cons, List.not_mem_nil]
    exact ⟨.unsigned _ _, .unsigned _ _, .unsigned _ _, .unsigned _ _, .unsigned _ _,
      fun _ => False.elim⟩

theorem isText_elementObject (tag : Native.Elements.Tag) {name : Bytes} (value : Json)
    (plain : stringValid name = true) :
    isText (Wire.elementObject tag name value) = isText value := by
  have keys : stringValid (ascii "tag") = true ∧ stringValid (ascii "type") = true ∧
      stringValid (ascii "value") = true :=
    ⟨stringValid_plain (by decide), stringValid_plain (by decide), stringValid_plain (by decide)⟩
  have tags : isText (Wire.tagJson tag) = true := by
    cases tag <;>
      simp (disch := decide) [Wire.tagJson, isText, Wire.areTexts, stringValid_plain]
  simp [Wire.elementObject, isText, Wire.membersAreTexts, keys, tags, plain]

theorem admissible_elementObject (tag : Native.Elements.Tag) (name : Bytes) {value : Json}
    {depth : Nat} (shallow : depth + 1 < Wire.kMaximumSaxDepth)
    (inside : Admissible (depth + 1) value) :
    Admissible depth (Wire.elementObject tag name value) := by
  have tags : Admissible (depth + 1) (Wire.tagJson tag) := by
    cases tag with
    | anonymous => exact .string _ _
    | context id =>
        refine .array shallow (by simp [Wire.kMaximumCollectionEntries]) ?_
        simp only [List.forall_mem_cons, List.not_mem_nil]
        exact ⟨.string _ _, .unsigned _ _, fun _ => False.elim⟩
  refine .object (by omega) (by simp [Wire.kMaximumCollectionEntries]) ?_ ?_
  · show [ascii "tag", ascii "type", ascii "value"].Nodup
    decide
  · simp only [List.forall_mem_cons, List.not_mem_nil]
    exact ⟨tags, .string _ _, inside, fun _ => False.elim⟩

mutual

/-- An element is a text, whatever it is. -/
theorem isText_elementJson (element : Native.Elements.Element) :
    isText (Wire.elementJson element) = true := by
  match element with
  | .null tag => exact isText_elementObject tag .null (stringValid_plain (by decide))
  | .i16 tag value => exact isText_elementObject tag (.integer value) (stringValid_plain (by decide))
  | .unsigned tag width value =>
      refine isText_elementObject tag (.unsigned value) (stringValid_plain ?_)
      cases width <;> decide
  | .boolean tag value =>
      exact isText_elementObject tag (.boolean value) (stringValid_plain (by decide))
  | .container tag kind children =>
      refine (isText_elementObject tag _ (stringValid_plain ?_)).trans
        (areTexts_elementJsons children)
      cases kind <;> decide

theorem areTexts_elementJsons (children : List Native.Elements.Element) :
    Wire.areTexts (Wire.elementJsons children) = true := by
  match children with
  | [] => rfl
  | child :: rest =>
      rw [Wire.elementJsons, Wire.areTexts, isText_elementJson child, areTexts_elementJsons rest]
      rfl

end

/-! ## Errors -/

/-- The two documents an error is written as. -/
inductive Written (error : InteractionError) : Json → Prop where
  | whole : Written error (Wire.errorJson error)
  | code (plain : error = { code := error.code }) :
      Written error (.object [(ascii "code", .string error.code)])

/-- **Either document is read as the error.** -/
theorem Written.read {error : InteractionError} {document : Json} (written : Written error document) :
    Inbound.error (termOf document) = some (errorOf error) := by
  cases written with
  | whole => exact error_errorJson error
  | code plain =>
      rw [error_code]
      exact congrArg (some ∘ errorOf) plain.symm

/-- An error has a handful of nodes. -/
theorem Written.small {error : InteractionError} {document : Json}
    (written : Written error document) : nodeCount document ≤ 9 ∧ worded document = true := by
  obtain ⟨code, status, clusterStatus, effect⟩ := error
  cases written with
  | whole =>
      cases status <;> cases clusterStatus <;>
        simp [Wire.errorJson, Wire.optionalMember, nodeCount, memberNodes, worded, wordedMembers]
  | code plain => simp [nodeCount, memberNodes, worded, wordedMembers]

section Errors

variable {error : InteractionError} {document : Json} (written : Written error document)
include written

/-- Of an error only the code may fail to be a text. -/
theorem Written.text : isText document = stringValid error.code := by
  obtain ⟨code, status, clusterStatus, effect⟩ := error
  cases written with
  | whole =>
      cases status <;> cases clusterStatus <;> cases effect <;>
        simp (disch := decide) [Wire.errorJson, Wire.optionalMember, Wire.effectName, isText,
          Wire.membersAreTexts, stringValid_plain]
  | code plain => simp (disch := decide) [isText, Wire.membersAreTexts, stringValid_plain]

/-- Only the code may be long. -/
theorem Written.length : document.dumpText.length ≤ 6 * error.code.length + 400 := by
  have coded := dumpString_length error.code
  have keys : (dumpString (ascii "code")).length ≤ 26 ∧ (dumpString (ascii "effect")).length ≤ 38 :=
    ⟨dumpString_length _, dumpString_length _⟩
  have named : (dumpString (Wire.effectName error.effect)).length ≤ 44 := by
    cases error.effect
    · exact (dumpString_length _).trans (by decide)
    · exact dumpString_length _
  have optional : ∀ key (status : Option UInt8), key.length ≤ 14 →
      ((Wire.optionalMember key status).map memberBytes).sum ≤ 108 := by
    intro key status short
    cases status with
    | none => exact Nat.zero_le _
    | some status =>
        have keyed := dumpString_length key
        have number : (Json.unsigned status.toUInt64).dumpText.length ≤ 20 := by
          rw [Json.dumpText]
          exact dumpNumber_length status.toUInt64.toNat_lt
        show (dumpString key).length + (Json.unsigned status.toUInt64).dumpText.length + 2 + 0 ≤ _
        omega
  cases written with
  | whole =>
      have cluster := optional (ascii "cluster_status") error.clusterStatus (by decide)
      have status := optional (ascii "status") error.status (by decide)
      refine (objectText_length _).trans ?_
      simp only [List.map_append, List.sum_append, List.map_cons, List.sum_cons, memberBytes,
        Json.dumpText] at cluster status ⊢
      omega
  | code plain =>
      refine (objectText_length _).trans ?_
      simp only [List.map_cons, List.map_nil, List.sum_cons, List.sum_nil, memberBytes, Json.dumpText]
      omega

theorem Written.admissible : Admissible 1 document := by
  cases written with
  | whole =>
      have optional : ∀ key status, (Wire.optionalMember key status).length ≤ 1 := by
        intro key status
        cases status <;> simp [Wire.optionalMember]
      refine .object (by decide) ?_ ?_ ?_
      · have cluster := optional (ascii "cluster_status") error.clusterStatus
        have status := optional (ascii "status") error.status
        simp only [List.length_append, List.length_cons, Wire.kMaximumCollectionEntries]
        omega
      · cases error.status <;> cases error.clusterStatus <;> simp [Wire.optionalMember] <;> decide
      · rintro ⟨key, value⟩ listed
        simp only [Wire.optionalMember, List.mem_append, List.mem_cons, Option.mem_toList,
          Option.map_eq_some_iff, Prod.mk.injEq] at listed
        rcases listed with ⟨_, -, -, rfl⟩ | ⟨-, rfl⟩ | ⟨-, rfl⟩ | ⟨_, -, -, rfl⟩
        · exact .unsigned _ _
        · exact .string _ _
        · exact .string _ _
        · exact .unsigned _ _
  | code plain =>
      refine .object (by decide) ?_ ?_ (List.forall_mem_singleton.mpr (.string _ _))
      · simp [Wire.kMaximumCollectionEntries]
      · simp

/-- The frame of an error is read if it is not too long. -/
theorem Written.within (id : Bytes)
    (short : (Wire.replyFrame (.string id) false (ascii "error", document)).dumpText.length ≤
      kMaxBytes) :
    WithinLimits (Wire.replyFrame (.string id) false (ascii "error", document)) := by
  have small := written.small
  refine ⟨short, admissible_replyFrame id false (by decide) written.admissible, ?_,
    (worded_replyFrame ..).trans small.2⟩
  rw [nodeCount_replyFrame, kFrameNodes]
  omega

end Errors

/-- A decoder that knows the line of one document. -/
def knows (document : Json) (line : Bytes) : Option Term :=
  if line = document.dumpText then some (termOf document) else none

theorem decodes_knows {document : Json} (bytes : document.dumpText.length ≤ kMaxBytes)
    (collections : Admissible 0 document) : Decodes (knows document) document where
  within _ := by rw [knows, if_pos rfl]; rfl
  beyond _ := ⟨bytes, collections⟩
  same term decoded := by
    rw [knows, if_pos rfl] at decoded
    exact (Option.some.inj decoded).symm

end WotexMatter.Session
