import Coordination.Performance.Client
import Coordination.Performance.Sequential
import Coordination.Proofs.Decimal.Reading

/-!
# Requests on the wire

A query is taken apart at its separators and read field by field. No text in a query needs
escaping (`isUnescaped_of_mem_fields`), so the fields are found again as they were written
(`Query.pairs_query`), each reads as the value it was written for, and the request that is sent is
read back (`PerformanceRequest.read?_query`). Hence a query tells all of the request but for what
its mode is folded onto (`requests_are_faithful`).
-/

namespace Coordination

open Decimal (readDouble? readDouble?_write)
open Text (cut cut_append readDigits?)

/-! ## Queries in parts -/

/-- The characters that stand for themselves in a query. -/
def isUnescaped (c : Char) : Bool := c.isAlphanum || ['*', '-', '.', '_'].contains c

namespace Query

def isPlain (text : String) : Bool := text.toList.all isUnescaped

/-- The fields of a query as names and texts. -/
def pairs (query : String) : List (String × String) :=
  (query.toList.splitOn '&').map fun field =>
    let (name, text) := cut '=' field
    (String.ofList name, (text.map String.ofList).getD "")

theorem notMem_of_isPlain {text : String} (h : isPlain text = true) {c : Char}
    (hc : isUnescaped c = false) : c ∉ text.toList := by
  intro hmem
  have := List.all_eq_true.1 h c hmem
  rw [hc] at this
  cases this

theorem pairs_intercalate {fields : List (String × String)} (hne : fields ≠ [])
    (h : ∀ f ∈ fields, isPlain f.1 = true ∧ isPlain f.2 = true) :
    pairs ("&".intercalate (fields.map fun f => f.1 ++ "=" ++ f.2)) = fields := by
  have htexts : ("&".intercalate (fields.map fun f => f.1 ++ "=" ++ f.2)).toList =
      ['&'].intercalate (fields.map fun f => f.1.toList ++ '=' :: f.2.toList) := by
    rw [String.toList_intercalate, List.map_map]
    congr 1
    refine List.map_congr_left fun f _ => ?_
    simp
  have hseparate : ∀ text ∈ fields.map fun f => f.1.toList ++ '=' :: f.2.toList, '&' ∉ text := by
    intro text htext
    obtain ⟨f, hf, rfl⟩ := List.mem_map.1 htext
    rw [List.mem_append, List.mem_cons]
    rintro (hmem | heq | hmem)
    · exact notMem_of_isPlain (h f hf).1 rfl hmem
    · cases heq
    · exact notMem_of_isPlain (h f hf).2 rfl hmem
  unfold pairs
  rw [htexts, List.splitOn_intercalate '&' hseparate (by simpa using hne), List.map_map]
  refine (List.map_congr_left fun f hf => ?_).trans (List.map_id fields)
  show (let (name, text) := cut '=' (f.1.toList ++ '=' :: f.2.toList)
    (String.ofList name, (text.map String.ofList).getD "")) = f
  rw [cut_append (notMem_of_isPlain (h f hf).1 rfl)]
  simp

end Query

/-! ## Texts of values -/

section

variable {α : Type}

/-- Reads a number below a bound. -/
def readBelow? (bound : ℕ) (ofNat : ℕ → α) (text : String) : Option α :=
  ((readDigits? text.toList).filter (· < bound)).map ofNat

theorem toList_toString (n : ℕ) : (toString n).toList = Nat.toDigits 10 n := by
  simp [toString, Nat.repr]

theorem readBelow?_toString {bound n : ℕ} (h : n < bound) (ofNat : ℕ → α) :
    readBelow? bound ofNat (toString n) = some (ofNat n) := by
  unfold readBelow?
  rw [toList_toString, Text.readDigits?_toDigits, Option.filter_some, if_pos (decide_eq_true h)]
  rfl

theorem isPlain_toString (n : ℕ) : Query.isPlain (toString n) = true := by
  unfold Query.isPlain
  rw [toList_toString, List.all_eq_true]
  intro c hc
  rw [isUnescaped, Char.isAlphanum, Decimal.isDigit_of_mem_toDigits hc, Bool.or_true, Bool.true_or]

theorem isPlain_write (x : Float) : Query.isPlain (Decimal.Layout.query.write x) = true := by
  unfold Query.isPlain
  rw [List.all_eq_true]
  intro c hc
  unfold isUnescaped
  rcases Decimal.Layout.mem_write rfl hc with h | rfl | rfl
  · rw [h, Bool.true_or]
  · rfl
  · rfl

def readUInt8? : String → Option UInt8 := readBelow? (2 ^ 8) .ofNat
def readUInt32? : String → Option UInt32 := readBelow? (2 ^ 32) .ofNat
def readUInt64? : String → Option UInt64 := readBelow? (2 ^ 64) .ofNat
def readFloat? (text : String) : Option Float := readDouble? text.toList

theorem readUInt8?_toString (n : UInt8) : readUInt8? (toString n) = some n := by
  show readUInt8? (toString n.toNat) = some n
  rw [readUInt8?, readBelow?_toString n.toNat_lt, UInt8.ofNat_toNat]

theorem readUInt32?_toString (n : UInt32) : readUInt32? (toString n) = some n := by
  show readUInt32? (toString n.toNat) = some n
  rw [readUInt32?, readBelow?_toString n.toNat_lt, UInt32.ofNat_toNat]

theorem readUInt64?_toString (n : UInt64) : readUInt64? (toString n) = some n := by
  show readUInt64? (toString n.toNat) = some n
  rw [readUInt64?, readBelow?_toString n.toNat_lt, UInt64.ofNat_toNat]

end

/-! ## Fields -/

section

variable {α : Type} (name : String)

/-- A field that may be left out. -/
def field (write : α → String) (x : Option α) : List (String × String) :=
  (x.map fun a => (name, write a)).toList

/-- The value of a field that must be there. -/
def required? (read : String → Option α) (fields : List (String × String)) : Option α :=
  (fields.lookup name).bind read

/-- The value of a field that may be left out, or nothing if its text cannot be read. -/
def optional? (read : String → Option α) (fields : List (String × String)) :
    Option (Option α) :=
  match fields.lookup name with
  | none => some none
  | some text => (read text).map some

variable {name} {read : String → Option α} {write : α → String}
  {fields : List (String × String)}

theorem lookup_field (key : String) (x : Option α) :
    (field name write x).lookup key = if key = name then x.map write else none := by
  unfold field
  cases x with
  | none =>
    show none = _
    split <;> rfl
  | some a =>
    show [(name, write a)].lookup key = _
    rw [List.lookup_cons]
    by_cases h : key = name
    · rw [beq_iff_eq.2 h, if_pos h]
      rfl
    · rw [beq_false_of_ne h, if_neg h]
      rfl

theorem map_fst_field (x : Option α) :
    (field name write x).map Prod.fst = if x.isSome then [name] else [] := by
  cases x <;> rfl

theorem required?_eq (h : ∀ a, read (write a) = some a) {a : α}
    (hlookup : fields.lookup name = some (write a)) : required? name read fields = some a := by
  unfold required?
  rw [hlookup]
  exact h a

theorem optional?_eq (h : ∀ a, read (write a) = some a) {x : Option α}
    (hlookup : fields.lookup name = x.map write) : optional? name read fields = some x := by
  unfold optional?
  rw [hlookup]
  cases x with
  | none => rfl
  | some a => exact congrArg (Option.map some) (h a)

end

namespace PerformanceRequest

variable (r : PerformanceRequest)

/-- The names of the fields that are set, in the order of the record. -/
def setFields : List String :=
  ["beatmap_id", "mode"] ++ (if r.mods.isSome then ["mods"] else []) ++
  (if r.maxCombo.isSome then ["max_combo"] else []) ++
  (if r.accuracy.isSome then ["accuracy"] else []) ++
  (if r.missCount.isSome then ["miss_count"] else []) ++
  (if r.legacyScore.isSome then ["legacy_score"] else []) ++
  (if r.passedObjects.isSome then ["passed_objects"] else [])

/-- The request that a query stands for. -/
def read? (query : String) : Option PerformanceRequest := do
  let fields := Query.pairs query
  let beatmapId ← required? "beatmap_id" readUInt32? fields
  let mode ← required? "mode" readUInt8? fields
  let mods ← optional? "mods" readUInt32? fields
  let maxCombo ← optional? "max_combo" readUInt32? fields
  let accuracy ← optional? "accuracy" readFloat? fields
  let missCount ← optional? "miss_count" readUInt32? fields
  let legacyScore ← optional? "legacy_score" readUInt64? fields
  let passedObjects ← optional? "passed_objects" readUInt32? fields
  return { beatmapId, mode, mods, maxCombo, accuracy, missCount, legacyScore, passedObjects }

theorem fields_eq : r.fields =
    [("beatmap_id", toString r.beatmapId), ("mode", toString r.mode)] ++
    field "mods" toString r.mods ++ field "max_combo" toString r.maxCombo ++
    field "accuracy" Decimal.Layout.query.write r.accuracy ++
    field "miss_count" toString r.missCount ++ field "legacy_score" toString r.legacyScore ++
    field "passed_objects" toString r.passedObjects := rfl

theorem map_fst_fields : r.fields.map Prod.fst = r.setFields := by
  simp only [fields_eq, List.map_append, map_fst_field]
  rfl

def allFields : List String :=
  ["beatmap_id", "mode", "mods", "max_combo", "accuracy", "miss_count", "legacy_score",
    "passed_objects"]

theorem setFields_sublist : r.setFields.Sublist allFields := by
  have hfield (set : Bool) (name : String) :
      (if set then [name] else []).Sublist [name] := by
    cases set
    · exact List.nil_sublist _
    · exact List.Sublist.refl _
  unfold setFields
  exact ((((((List.Sublist.refl ["beatmap_id", "mode"]).append (hfield _ "mods")).append
    (hfield _ "max_combo")).append (hfield _ "accuracy")).append (hfield _ "miss_count")).append
    (hfield _ "legacy_score")).append (hfield _ "passed_objects")

/-- No field is written twice. -/
theorem nodup_setFields : r.setFields.Nodup :=
  r.setFields_sublist.nodup (by decide)

theorem isPlain_of_mem_fields :
    ∀ f ∈ r.fields, Query.isPlain f.1 = true ∧ Query.isPlain f.2 = true := by
  have hfield {α : Type} {name : String} {write : α → String} (x : Option α)
      (hname : Query.isPlain name = true) (hwrite : ∀ a, Query.isPlain (write a) = true) :
      ∀ f ∈ field name write x, Query.isPlain f.1 = true ∧ Query.isPlain f.2 = true := by
    intro f hf
    obtain ⟨a, -, rfl⟩ := Option.map_eq_some_iff.1 (Option.mem_toList.1 hf)
    exact ⟨hname, hwrite a⟩
  have hrequired : ∀ f ∈ [("beatmap_id", toString r.beatmapId), ("mode", toString r.mode)],
      Query.isPlain f.1 = true ∧ Query.isPlain f.2 = true := by
    have hnames : Query.isPlain "beatmap_id" = true ∧ Query.isPlain "mode" = true := by decide
    intro f hf
    rcases List.mem_pair.1 hf with rfl | rfl
    · exact ⟨hnames.1, isPlain_toString r.beatmapId.toNat⟩
    · exact ⟨hnames.2, isPlain_toString r.mode.toNat⟩
  rw [fields_eq]
  simp only [List.forall_mem_append]
  exact ⟨⟨⟨⟨⟨⟨hrequired, hfield r.mods rfl fun n => isPlain_toString n.toNat⟩,
    hfield r.maxCombo rfl fun n => isPlain_toString n.toNat⟩,
    hfield r.accuracy rfl isPlain_write⟩,
    hfield r.missCount rfl fun n => isPlain_toString n.toNat⟩,
    hfield r.legacyScore rfl fun n => isPlain_toString n.toNat⟩,
    hfield r.passedObjects rfl fun n => isPlain_toString n.toNat⟩

theorem pairs_query : Query.pairs r.query = r.forWire.fields :=
  Query.pairs_intercalate (List.cons_ne_nil _ _) r.forWire.isPlain_of_mem_fields

/-- What is found under the names of the fields. -/
theorem lookup_fields :
    (r.fields.lookup "beatmap_id" = some (toString r.beatmapId) ∧
      r.fields.lookup "mode" = some (toString r.mode)) ∧
    r.fields.lookup "mods" = r.mods.map toString ∧
    r.fields.lookup "max_combo" = r.maxCombo.map toString ∧
    r.fields.lookup "accuracy" = r.accuracy.map Decimal.Layout.query.write ∧
    r.fields.lookup "miss_count" = r.missCount.map toString ∧
    r.fields.lookup "legacy_score" = r.legacyScore.map toString ∧
    r.fields.lookup "passed_objects" = r.passedObjects.map toString := by
  refine ⟨⟨rfl, rfl⟩, ?_, ?_, ?_, ?_, ?_, ?_⟩ <;>
    simp [fields_eq, List.lookup_append, lookup_field, List.lookup_cons]

/-- The request that is sent is found again in the query. -/
theorem read?_query : read? r.query = some r.forWire := by
  unfold read?
  rw [pairs_query]
  generalize r.forWire = sent
  obtain ⟨⟨hbeatmap, hmode⟩, hmods, hcombo, haccuracy, hmisses, hlegacy, hpassed⟩ :=
    sent.lookup_fields
  dsimp only
  rw [required?_eq readUInt32?_toString hbeatmap, required?_eq readUInt8?_toString hmode,
    optional?_eq readUInt32?_toString hmods, optional?_eq readUInt32?_toString hcombo,
    optional?_eq (readDouble?_write .query) haccuracy, optional?_eq readUInt32?_toString hmisses,
    optional?_eq readUInt64?_toString hlegacy, optional?_eq readUInt32?_toString hpassed]
  rfl

theorem query_eq_iff (s : PerformanceRequest) : r.query = s.query ↔ r.forWire = s.forWire := by
  constructor
  · intro h
    have hread := r.read?_query
    rw [h, s.read?_query] at hread
    exact (Option.some.inj hread).symm
  · intro h
    unfold query
    rw [h]

end PerformanceRequest

/-! ## What is asked for -/

/-- What follows the first question mark of a URL. -/
def Query.ofUrl? (url : String) : Option String := (cut '?' url.toList).2.map String.ofList

namespace Server

theorem prefix_get (s : Server) (url : String) : s.requests <+: (s.get url).2.requests := by
  unfold get
  split
  · exact List.prefix_rfl
  · exact List.prefix_append _ _

/-- The first URL is asked for, whatever redirections follow. -/
theorem get_prefix_follow (deadline budget now : Nat) (s : Server) (url : String) :
    (s.get url).2.requests <+: (s.follow deadline budget now url).2.requests := by
  fun_induction Server.follow deadline budget now s url with
  | case1 budget now s url s' hget => rw [hget]
  | case2 budget now s url after s' hget => rw [hget]
  | case3 budget now s url r s' hget => rw [hget]
  | case4 budget now s url r s' hget => rw [hget]
  | case5 now s url r s' hget => rw [hget]
  | case6 now s url r s' hget _ _ next budget _ ih =>
    rw [hget]
    exact (s'.prefix_get next).trans ih

end Server

namespace ComputeClient

variable (c : ComputeClient) (r : PerformanceRequest)

/-- A call begins with asking for the request's URL. -/
theorem requests_call {u : HttpUrl} (hurl : c.server.locate? c.endpoint = some u)
    (h : c.server.replies ≠ []) : ∃ redirected, (c.call r).2.server.requests =
      c.server.requests ++ u.withFields r.query :: redirected := by
  generalize hsent : u.withFields r.query = url
  have hserver : (c.call r).2.server =
      (c.server.follow c.timeout redirectLimit 0 url).2 := by
    simp only [call, url?, hurl, Option.map_some, hsent]
    split
    · rename_i hfollow
      rw [hfollow]
    · rename_i hfollow
      rw [hfollow]
  obtain ⟨reply, replies, hreplies⟩ := List.exists_cons_of_ne_nil h
  have hget : (c.server.get url).2.requests = c.server.requests ++ [url] := by
    unfold Server.get
    rw [hreplies]
  obtain ⟨redirected, hredirected⟩ := c.server.get_prefix_follow c.timeout redirectLimit 0 url
  refine ⟨redirected, ?_⟩
  rw [hserver, ← hredirected, hget, List.append_assoc, List.singleton_append]

end ComputeClient

namespace HttpUrl

variable (u : HttpUrl) (fields : String)

theorem withFields_eq : u.withFields fields =
    u.location ++ "?" ++ (if u.query = "" then "" else u.query ++ "&") ++ fields := by
  unfold withFields
  by_cases h : u.query = ""
  · simp [h]
  · simp [h, String.append_assoc]

/-- If the URL has no query of its own, the fields are all of it. -/
theorem ofUrl?_withFields (hquery : u.query = "") (h : '?' ∉ u.location.toList) :
    Query.ofUrl? (u.withFields fields) = some fields := by
  have hurl : (u.withFields fields).toList = u.location.toList ++ '?' :: fields.toList := by
    simp [withFields_eq, hquery, String.toList_append]
  unfold Query.ofUrl?
  rw [hurl, cut_append h]
  exact congrArg some String.ofList_toList

end HttpUrl

/-- The zero of either sign. -/
def IsZero (x : Float) : Prop := x = 0 ∨ x = -0

theorem beq_zero_iff (x : Float) : (x == 0) = true ↔ IsZero x := by
  have hzero : (0 : Float) ≠ Float.nan := by decide +kernel
  have hneg : (-0 : Float) ≠ Float.nan := by decide +kernel
  rw [Float.beq_iff_ne_nan_and_eq]
  constructor
  · rintro ⟨-, -, h | ⟨h, -⟩ | ⟨h, -⟩⟩
    · exact .inl h
    · exact .inl h
    · exact .inr h
  · rintro (rfl | rfl)
    · exact ⟨hzero, hzero, .inl rfl⟩
    · exact ⟨hneg, hzero, .inr (.inr ⟨rfl, rfl⟩)⟩

/-- What is asked about a play is its accuracy, unless it has none or zero. -/
theorem Play.effectiveAccuracy_spec (p : Play) :
    ¬ IsZero p.effectiveAccuracy ∧
      (p.accuracy = some p.effectiveAccuracy ∨
        p.effectiveAccuracy = 100 ∧ ∀ given, p.accuracy = some given → IsZero given) := by
  have hhundred : ¬ IsZero 100 := by
    rw [← beq_zero_iff]
    decide +kernel
  unfold effectiveAccuracy
  split
  · rename_i given hgiven
    by_cases hzero : (given == 0) = true
    · rw [if_pos hzero]
      refine ⟨hhundred, .inr ⟨rfl, ?_⟩⟩
      intro given' hgiven'
      rw [hgiven, Option.some_inj] at hgiven'
      rw [← hgiven', ← beq_zero_iff]
      exact hzero
    · rw [if_neg hzero, hgiven, ← beq_zero_iff]
      exact ⟨hzero, .inl rfl⟩
  · rename_i hnone
    refine ⟨hhundred, .inr ⟨rfl, ?_⟩⟩
    intro given hgiven
    rw [hnone] at hgiven
    cases hgiven

/-- With its points at full combo wanted or not, all that is asked about a play is asked at one
accuracy. -/
theorem accuracy_of_mem_requestsOf {hypothetical : Bool} {beatmapId : UInt32} {play : Play}
    {request : PerformanceRequest}
    (h : request ∈ Sequential.requestsOf hypothetical beatmapId play) :
    request.accuracy = some play.effectiveAccuracy := by
  unfold Sequential.requestsOf at h
  dsimp only at h
  split at h
  · rcases List.mem_pair.1 h with rfl | rfl <;> rfl
  · rw [List.mem_singleton.1 h]
    rfl

/-- What a request is sent as tells what it is. -/
structure PerformanceRequest.Faithful (r : PerformanceRequest) : Prop where
  /-- The query has the fields that are set, in the order of the record. -/
  fields : (Query.pairs r.query).map Prod.fst = r.setFields
  once : r.setFields.Nodup
  reads : read? r.query = some r.forWire
  unchanged : r.forWire = { r with mode := r.forWire.mode }
  mode : r.forWire.mode.toNat = r.mode.toNat % 4
  tells : ∀ s : PerformanceRequest, r.query = s.query ↔ r.forWire = s.forWire
  /-- The query is what a client adds to the URL that its endpoint is read as. -/
  sent : ∀ (c : ComputeClient) (u : HttpUrl), c.server.locate? c.endpoint = some u →
    c.server.replies ≠ [] → ∃ url redirected,
      (c.call r).2.server.requests = c.server.requests ++ url :: redirected ∧
      url = u.location ++ "?" ++ (if u.query = "" then "" else u.query ++ "&") ++ r.query ∧
      (u.query = "" → '?' ∉ u.location.toList → Query.ofUrl? url = some r.query)
  /-- If the endpoint is no URL, nothing is sent. -/
  unsent : ∀ c : ComputeClient, c.server.locate? c.endpoint = none →
    c.call r = (⟨0, .error .request⟩, c)

/-- What is asked about a play has its accuracy, which is never zero. -/
structure Play.AskedAt (play : Play) (request : PerformanceRequest) (a : Float) : Prop where
  accuracy : request.accuracy = some a
  sent : (PerformanceRequest.read? request.query).bind PerformanceRequest.accuracy = some a
  not_isZero : ¬ IsZero a
  given : play.accuracy = some a ∨
    a = 100 ∧ ∀ given, play.accuracy = some given → IsZero given

/-- The wire encoding is faithful: a query has the fields that are set and no other, in their
order, and reads as the request but for its mode, which is folded onto the four rulesets. So two
queries are the same only if their requests are the same on the wire. What is asked about a play
has an accuracy that is not zero, and it is the play's unless that is missing or zero. -/
theorem requests_are_faithful : (∀ r : PerformanceRequest, r.Faithful) ∧
    ∀ (play : Play) (beatmapId : UInt32) (hypothetical : Bool),
      ∀ request ∈ Sequential.requestsOf hypothetical beatmapId play,
        ∃ a, play.AskedAt request a := by
  refine ⟨fun r => ⟨?_, r.nodup_setFields, r.read?_query, rfl, rfl, r.query_eq_iff, ?_,
    fun c => ComputeClient.call_of_no_url r⟩, ?_⟩
  · rw [r.pairs_query]
    exact r.forWire.map_fst_fields
  · intro c u hurl hreplies
    obtain ⟨redirected, hredirected⟩ := c.requests_call r hurl hreplies
    exact ⟨u.withFields r.query, redirected, hredirected, u.withFields_eq r.query,
      u.ofUrl?_withFields r.query⟩
  · intro play beatmapId hypothetical request hrequest
    have haccuracy := accuracy_of_mem_requestsOf hrequest
    obtain ⟨hzero, hgiven⟩ := play.effectiveAccuracy_spec
    refine ⟨play.effectiveAccuracy, haccuracy, ?_, hzero, hgiven⟩
    rw [request.read?_query, Option.bind_some]
    exact haccuracy

/-- A request with an exponent in its accuracy and with the mode of a relaxed play, as a client sends
it, and a play whose accuracy is a negative zero. -/
theorem requests_are_faithful_relaxed :
    let r : PerformanceRequest :=
      { beatmapId := 4294967295, mode := 6, accuracy := some (-2.5e-7),
        legacyScore := some 18446744073709551615 }
    let query :=
      "beatmap_id=4294967295&mode=2&accuracy=-2.5e-7&legacy_score=18446744073709551615"
    let client : ComputeClient :=
      { endpoint := "http://127.0.0.1:8665/calculate", timeout := 10000
        server := { locate? text := some ⟨text, ""⟩, replies := [.silence] } }
    let play : Play := { mode := 6, accuracy := some (-0) }
    (r.query = query ∧ PerformanceRequest.read? query = some { r with mode := 2 }) ∧
    (∃ redirected, (client.call r).2.server.requests =
      ("http://127.0.0.1:8665/calculate?" ++ query) :: redirected) ∧
    ∃ a, play.AskedAt ((play.request 75).hypothetical) a ∧ a = 100 := by
  intro r query client play
  have hquery : r.query = query := by decide +kernel
  have hfaithful := requests_are_faithful.1 r
  obtain ⟨url, redirected, hrequests, hurl, -⟩ :=
    hfaithful.sent client ⟨client.endpoint, ""⟩ rfl (List.cons_ne_nil _ _)
  obtain ⟨a, hasked⟩ := requests_are_faithful.2 play 75 true _ (List.mem_cons_of_mem _
    List.mem_cons_self)
  refine ⟨⟨hquery, ?_⟩, ⟨redirected, ?_⟩, a, hasked, ?_⟩
  · have hmode : (6 : UInt8) % 4 = 2 := by decide
    have hwire : r.forWire = { r with mode := 2 } :=
      congrArg (fun mode => { r with mode }) hmode
    rw [← hquery, ← hwire]
    exact hfaithful.reads
  · rw [if_pos rfl, hquery] at hurl
    rw [hrequests, hurl]
    rfl
  · exact hasked.given.elim
      (fun hgiven => absurd (.inr (Option.some.inj hgiven).symm) hasked.not_isZero) And.left

end Coordination
