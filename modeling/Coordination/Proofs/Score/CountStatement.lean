import Mathlib.Data.List.Forall2
import Coordination.Score.Database
import Coordination.Proofs.Decimal.Order
import Coordination.Proofs.Score.Rows

/-!
# The count query as a statement

The query that counts who is ahead, as a database takes it literally: a statement that joins two
tables and tests the pairs of rows. Integers of all widths are compared as integers and doubles in
PostgreSQL's order, in which what is no number is above all numbers; a comparison with null is not
passed. Written out, the statement is the text that is sent (`text_ahead`), and if no performance
points are in play that are no number, then a pair of rows passes it exactly if the query is said
to count the pair (`passes_ahead`).
-/

namespace Coordination

/-! ## Values -/

/-- PostgreSQL's order of doubles. What is no number is equal to itself and above all numbers. -/
def Decimal.databaseOrder (x y : Float) : Ordering :=
  match x.isNaN, y.isNaN with
  | true, true => .eq
  | true, false => .gt
  | false, true => .lt
  | false, false => if x < y then .lt else if x == y then .eq else .gt

/-- Among numbers it is the usual order. -/
theorem Decimal.databaseOrder_eq_gt_iff {x y : Float} (hx : x.isNaN = false)
    (hy : y.isNaN = false) : databaseOrder x y = .gt ↔ y < x := by
  simp only [databaseOrder, hx, hy]
  rcases lt_or_beq_or_gt hx hy with h | h | h
  · have hnot : ¬ y < x := fun h' => not_lt_self (lt_of_le_of_lt (le_of_lt h) h')
    simp [h, hnot]
  · obtain ⟨hle, hge⟩ := le_of_beq h
    have hlt : ¬ x < y := fun h' => not_lt_self (lt_of_le_of_lt hge h')
    have hgt : ¬ y < x := fun h' => not_lt_self (lt_of_le_of_lt hle h')
    simp [h, hlt, hgt]
  · have hlt : ¬ x < y := fun h' => not_lt_self (lt_of_le_of_lt (le_of_lt h) h')
    have hbeq : ¬ (x == y) = true := fun h' => not_lt_self (lt_of_le_of_lt (le_of_beq h').1 h)
    simp [h, hlt, hbeq]

/-- What a value is compared as, whatever the width of its type. -/
inductive Datum where
  | integer (n : Int)
  | double (x : Float)
  | text (s : String)

/-- The order of two data of one kind. The statement here compares no others. -/
def Datum.compare? : Datum → Datum → Option Ordering
  | integer m, integer n => some (compare m n)
  | double x, double y => some (Decimal.databaseOrder x y)
  | text s, text t => some (compare s t)
  | _, _ => none

namespace SqlValue

def datum? : SqlValue → Option Datum
  | null => none
  | int2 n => some (.integer n.toInt)
  | int4 n => some (.integer n.toInt)
  | int8 n => some (.integer n.toInt)
  | float4 x => some (.double x.toFloat)
  | float8 x => some (.double x)
  | text s => some (.text s)

/-- Nothing is known of the order of null and anything else. -/
def compare? (a b : SqlValue) : Option Ordering :=
  a.datum?.bind fun x => b.datum?.bind x.compare?

/-- The bits that two integers of one type share. -/
def bitAnd : SqlValue → SqlValue → SqlValue
  | int2 m, int2 n => int2 (m &&& n)
  | int4 m, int4 n => int4 (m &&& n)
  | int8 m, int8 n => int8 (m &&& n)
  | _, _ => null

end SqlValue

/-! ## Statements -/

/-- What a statement computes from a row of scores and a row of users. -/
inductive SqlTerm where
  | score (column : String)
  | user (column : String)
  /-- A parameter. They are numbered from one. -/
  | param (n : Nat)
  | number (n : Nat)
  | bitAnd (a b : SqlTerm)

namespace SqlTerm

def text : SqlTerm → String
  | score column => "s." ++ column
  | user column => "u." ++ column
  | param n => "$" ++ toString n
  | number n => toString n
  | bitAnd a b => "(" ++ a.text ++ " & " ++ b.text ++ ")"

/-- A number that is written in a statement is of type `integer`. -/
def value (params : List SqlValue) (r u : SqlRow) : SqlTerm → SqlValue
  | score column => (r.lookup column).getD .null
  | user column => (u.lookup column).getD .null
  | param n => params.getD (n - 1) .null
  | number n => .int4 (Int32.ofNat n)
  | bitAnd a b => (a.value params r u).bitAnd (b.value params r u)

end SqlTerm

inductive SqlRelation where
  | equal
  | different
  | above

namespace SqlRelation

def text : SqlRelation → String
  | equal => " = "
  | different => " <> "
  | above => " > "

def holds : SqlRelation → Ordering → Bool
  | equal, o => o == .eq
  | different, o => o != .eq
  | above, o => o == .gt

end SqlRelation

structure SqlTest where
  left : SqlTerm
  relation : SqlRelation
  right : SqlTerm

namespace SqlTest

def text (t : SqlTest) : String := t.left.text ++ t.relation.text ++ t.right.text

/-- A test of which nothing is known is not passed. -/
def passes (t : SqlTest) (params : List SqlValue) (r u : SqlRow) : Bool :=
  ((t.left.value params r u).compare? (t.right.value params r u)).any t.relation.holds

end SqlTest

/-- A statement that counts pairs of a row of scores and a row of users. -/
structure CountStatement where
  on : SqlTest
  tests : List SqlTest

namespace CountStatement

def text (c : CountStatement) : String :=
  "SELECT COUNT(*) FROM scores s INNER JOIN users u ON " ++ c.on.text ++
    " WHERE " ++ " AND ".intercalate (c.tests.map SqlTest.text)

def passes (c : CountStatement) (params : List SqlValue) (r u : SqlRow) : Bool :=
  c.on.passes params r u && c.tests.all (·.passes params r u)

/-- The answer of a database that holds these rows. -/
def count (c : CountStatement) (params : List SqlValue) (scores users : List SqlRow) : Nat :=
  (scores.flatMap fun r => users.map fun u => (r, u)).countP fun (r, u) => c.passes params r u

/-- How many scores are ahead. -/
def ahead (m : Metric) : CountStatement where
  on := ⟨.user "id", .equal, .score "userid"⟩
  tests := [
    ⟨.score "map_md5", .equal, .param 1⟩,
    ⟨.score "mode", .equal, .param 2⟩,
    ⟨.score "status", .equal, .number SubmissionStatus.best.toNat⟩,
    ⟨.bitAnd (.user "priv") (.number Privileges.unrestrictedBit.toNat), .different, .number 0⟩,
    ⟨.score m.column, .above, .param 3⟩]

/-- The statement is the one that is sent. -/
theorem text_ahead (q : CountQuery) : (ahead q.metric).text = q.sql.text := by
  show _ = "SELECT COUNT(*) FROM scores s INNER JOIN users u ON u.id = s.userid" ++
    s!" WHERE s.map_md5 = $1 AND s.mode = $2 AND s.status = {SubmissionStatus.best.toNat}" ++
    s!" AND (u.priv & {Privileges.unrestrictedBit}) <> 0 AND s.{q.metric.column} > $3"
  cases q.metric <;> decide +kernel

end CountStatement

/-! ## What the statement counts -/

section

variable {params : List SqlValue} {r u : SqlRow}

theorem SqlTerm.datum?_score {column : String} {v : SqlValue} (h : r.lookup column = some v) :
    ((score column).value params r u).datum? = v.datum? := by
  rw [value, h, Option.getD_some]

theorem SqlTerm.datum?_param {n : Nat} {v : SqlValue} (h : params[n]? = some v) :
    ((param (n + 1)).value params r u).datum? = v.datum? := by
  rw [value, Nat.add_sub_cancel, List.getD_eq_getElem?_getD, h, Option.getD_some]

theorem SqlTest.passes_eq {t : SqlTest} {x y : Datum} {o : Ordering}
    (hleft : (t.left.value params r u).datum? = some x)
    (hright : (t.right.value params r u).datum? = some y) (ho : x.compare? y = some o) :
    t.passes params r u = t.relation.holds o := by
  rw [passes, SqlValue.compare?, hleft, hright, Option.bind_some, Option.bind_some, ho,
    Option.any_some]

theorem SqlRelation.holds_equal_compare {α : Type} [Ord α] [Std.LawfulEqOrd α] [BEq α]
    [LawfulBEq α] (a b : α) : equal.holds (compare a b) = (a == b) := by
  rw [Bool.eq_iff_iff]
  simp [holds]

end

namespace Threshold

/-- Whether the value can be compared. -/
def isNumber : Threshold → Bool
  | score _ => true
  | pp x => !x.isNaN

/-- The threshold as a parameter. -/
def value : Threshold → SqlValue
  | score n => .int8 n
  | pp x => .float8 x

end Threshold

namespace CountQuery

theorem params_sql (q : CountQuery) :
    q.sql.params = [.text q.beatmap, .int2 q.mode, q.threshold.value] := by
  show [SqlValue.text q.beatmap, .int2 q.mode, _] = _
  cases q.threshold <;> rfl

/-- A user's row as the database sends it. -/
def UserRow.columns (u : UserRow) : SqlRow := [("id", .int8 u.id), ("priv", .int4 u.privileges)]

variable {q : CountQuery} {row : ScoreRow} {r : SqlRow} {params : List SqlValue}

/-- The test on privileges looks at one bit. -/
theorem passes_privileges (u : UserRow) :
    SqlTest.passes ⟨.bitAnd (.user "priv") (.number Privileges.unrestrictedBit.toNat), .different,
      .number 0⟩ params r u.columns = admits u := by
  have hdatum : SqlTest.passes ⟨.bitAnd (.user "priv")
      (.number Privileges.unrestrictedBit.toNat), .different, .number 0⟩ params r u.columns =
        SqlRelation.different.holds (compare (u.privileges &&& 1).toInt 0) :=
    SqlTest.passes_eq rfl rfl rfl
  have hzero : (u.privileges &&& 1).toInt = 0 ↔ u.privileges &&& 1 = 0 := Int32.toInt_inj (y := 0)
  rw [hdatum, Bool.eq_iff_iff]
  simp [SqlRelation.holds, admits, hzero]

/-- The last test compares a `bigint` with a `bigint` or a double with a double. -/
theorem passes_threshold {u : SqlRow} (hr : r.Shows row)
    (hparam : params[2]? = some q.threshold.value) (hq : q.threshold.isNumber = true)
    (hpp : row.pp.isNaN = false) :
    SqlTest.passes ⟨.score q.metric.column, .above, .param 3⟩ params r u = q.exceeds row := by
  simp only [SqlRow.Shows, ScoreRow.columns, List.forall_mem_cons] at hr
  obtain ⟨-, -, -, -, hscore, hpp', -⟩ := hr
  obtain ⟨beatmap, mode, threshold⟩ := q
  cases threshold with
  | score n =>
    rw [SqlTest.passes_eq (SqlTerm.datum?_score hscore) (SqlTerm.datum?_param hparam) rfl,
      Bool.eq_iff_iff]
    simp [SqlRelation.holds, exceeds, Int64.lt_iff_toInt_lt, Int.compare_eq_gt]
  | pp x =>
    have hx : x.isNaN = false := by simpa [Threshold.isNumber] using hq
    rw [SqlTest.passes_eq (SqlTerm.datum?_score hpp') (SqlTerm.datum?_param hparam) rfl,
      Bool.eq_iff_iff]
    simp [SqlRelation.holds, exceeds, Decimal.databaseOrder_eq_gt_iff hpp hx]

/-- A pair of rows passes the statement exactly if the query counts it. -/
theorem passes_ahead (hr : r.Shows row) (u : UserRow) (hq : q.threshold.isNumber = true)
    (hpp : row.pp.isNaN = false) :
    (CountStatement.ahead q.metric).passes q.sql.params r u.columns = q.counts row u := by
  have hcolumns := hr
  simp only [SqlRow.Shows, ScoreRow.columns, List.forall_mem_cons] at hcolumns
  obtain ⟨-, hbeatmap, hplayer, hmode, -, -, -, -, -, -, hstatus, -⟩ := hcolumns
  have hfirst : q.sql.params[0]? = some (.text q.beatmap) := by rw [params_sql]; rfl
  have hsecond : q.sql.params[1]? = some (.int2 q.mode) := by rw [params_sql]; rfl
  have hthird : q.sql.params[2]? = some q.threshold.value := by rw [params_sql]; rfl
  generalize q.sql.params = params at hfirst hsecond hthird ⊢
  have hon : SqlTest.passes ⟨.user "id", .equal, .score "userid"⟩ params r u.columns =
      (u.id == row.player) := by
    rw [SqlTest.passes_eq rfl (SqlTerm.datum?_score hplayer) rfl,
      SqlRelation.holds_equal_compare, Bool.eq_iff_iff]
    simp [Int64.toInt_inj]
  have hbeatmap' : SqlTest.passes ⟨.score "map_md5", .equal, .param 1⟩ params r u.columns =
      (row.beatmap == q.beatmap) := by
    rw [SqlTest.passes_eq (SqlTerm.datum?_score hbeatmap) (SqlTerm.datum?_param hfirst) rfl,
      SqlRelation.holds_equal_compare]
  have hmode' : SqlTest.passes ⟨.score "mode", .equal, .param 2⟩ params r u.columns =
      (row.mode == q.mode) := by
    rw [SqlTest.passes_eq (SqlTerm.datum?_score hmode) (SqlTerm.datum?_param hsecond) rfl,
      SqlRelation.holds_equal_compare, Bool.eq_iff_iff]
    simp [Int16.toInt_inj]
  have hstatus' : SqlTest.passes ⟨.score "status", .equal, .number SubmissionStatus.best.toNat⟩
      params r u.columns = (row.status == Int16.ofNat SubmissionStatus.best.toNat) := by
    rw [SqlTest.passes_eq (SqlTerm.datum?_score hstatus) rfl rfl,
      SqlRelation.holds_equal_compare, Bool.eq_iff_iff]
    simp [← Int16.toInt_inj, SubmissionStatus.toNat]
  simp only [CountStatement.passes, CountStatement.ahead, List.all_cons, List.all_nil, hon,
    hbeatmap', hmode', hstatus', passes_privileges, passes_threshold hr hthird hq hpp, counts,
    Bool.and_assoc, Bool.and_true]

/-- The statement's answer over whole tables is the query's count. -/
theorem count_ahead {rows : List SqlRow} {table : List ScoreRow}
    (hrows : List.Forall₂ SqlRow.Shows rows table) (users : List UserRow)
    (hq : q.threshold.isNumber = true) (hpp : ∀ row ∈ table, row.pp.isNaN = false) :
    (CountStatement.ahead q.metric).count q.sql.params rows (users.map UserRow.columns) =
      q.count table users := by
  unfold CountStatement.count count
  induction hrows with
  | nil => rfl
  | cons hr hrows ih =>
    obtain ⟨hrow, htable⟩ := List.forall_mem_cons.1 hpp
    rw [List.flatMap_cons, List.flatMap_cons, List.countP_append, List.countP_append, ih htable]
    simp only [List.countP_map, Function.comp_def, passes_ahead hr _ hq hrow]

end CountQuery

end Coordination
