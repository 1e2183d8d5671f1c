import Coordination.Proofs.Score.CountStatement
import Coordination.Proofs.Score.Leaderboard
import Coordination.Proofs.Table

/-!
# The database and the store count alike

A store that holds what the tables of scores and users hold counts as many scores ahead as a
database that evaluates the count statement over these tables (`counts_as_the_database`). The
store filters its scores and looks a player's privileges up; the statement joins the tables, and as
no two users have one id, a score is joined with one row at most. A threshold that no `bigint` can
be above stands for every larger one, since stored scores are such numbers.
-/

namespace Coordination

open CountQuery (UserRow)

/-! ## What a store holds -/

/-- A user's privileges, the column's bits read without a sign. -/
def CountQuery.UserRow.held (u : UserRow) : Privileges := ⟨u.privileges.toUInt32⟩

theorem CountQuery.admits_eq_isUnrestricted (u : UserRow) : admits u = u.held.isUnrestricted := by
  have hzero : u.privileges &&& 1 = 0 ↔ u.privileges.toUInt32 &&& 1 = 0 :=
    ⟨congrArg Int32.toUInt32, fun h => Int32.toBitVec_inj.1 (congrArg UInt32.toBitVec h)⟩
  rw [Bool.eq_iff_iff]
  simp [admits, UserRow.held, Privileges.isUnrestricted, Privileges.unrestrictedBit, hzero]

namespace ScoreStore

/-- The store holds the scores and no others, and of each user the privileges in his row. A user
without a row has none. -/
structure Holds (t : ScoreStore) (scores : List Score) (users : List UserRow) : Prop where
  scores : (t.scores.toList.map (·.2)).Perm scores
  privileges : ∀ user, t.privileges[user]? = (users.find? (·.id == user)).map UserRow.held

theorem holds_empty : Holds {} [] [] :=
  ⟨List.Perm.nil, fun _ => rfl⟩

variable {t : ScoreStore} {scores : List Score} {users : List UserRow}

theorem Holds.setPrivileges (h : t.Holds scores users) (u : UserRow) :
    (t.setPrivileges u.id u.held).Holds scores (u :: users) := by
  refine ⟨h.scores, fun user => ?_⟩
  rw [ScoreStore.setPrivileges, Std.ExtTreeMap.getElem?_insert, h.privileges, List.find?_cons]
  by_cases hu : u.id = user
  · simp [hu]
  · simp [hu, beq_false_of_ne hu]

theorem Holds.insertScore (h : t.Holds scores users) {s : Score} (hnew : t.score? s.id = none) :
    (t.insertScore s).Holds (s :: scores) users := by
  refine ⟨?_, h.privileges⟩
  exact ((toList_insert_perm hnew).map _).trans (h.scores.cons s)

end ScoreStore

/-! ## The filters -/

theorem metric_ofStanding (q : Standing) : (CountQuery.ofStanding q).metric = q.value.metric := by
  obtain ⟨beatmap, mode, value⟩ := q
  cases value <;> rfl

theorem isNumber_ofStanding (q : Standing) :
    (CountQuery.ofStanding q).threshold.isNumber = q.value.isNumber := by
  obtain ⟨beatmap, mode, value⟩ := q
  cases value <;> rfl

/-- Whatever the threshold, a stored score is above it exactly if it is above the parameter. -/
theorem threshold_lt_iff {v n : UInt64} (hn : n.toNat < 2 ^ 63) :
    (if v.toNat ≤ Int64.maxValue.toNatClampNeg then v.toInt64 else Int64.maxValue) < n.toInt64 ↔
      v < n := by
  have hmax : Int64.maxValue.toNatClampNeg = 2 ^ 63 - 1 := by decide
  rw [Int64.lt_iff_toInt_lt, UInt64.lt_iff_toNat_lt, toInt_toInt64 hn, hmax]
  split
  · rename_i hv
    rw [toInt_toInt64 (by omega), Int.ofNat_lt]
  · rename_i hv
    have : Int64.maxValue.toInt = 2 ^ 63 - 1 := by decide
    omega

theorem exceeds_ofStanding (q : Standing) {s : Score} (hs : s.Fits) :
    (CountQuery.ofStanding q).exceeds s.toRow = q.value.beatenBy s := by
  obtain ⟨beatmap, mode, value⟩ := q
  cases value with
  | score v => exact decide_eq_decide.2 (threshold_lt_iff hs.score)
  | pp v => rfl

theorem mode_beq (a b : GameMode) : (Int16.ofNat a.toNat == Int16.ofNat b.toNat) = (a == b) := by
  cases a <;> cases b <;> rfl

theorem status_beq (status : SubmissionStatus) :
    (Int16.ofNat status.toNat == Int16.ofNat SubmissionStatus.best.toNat) = (status == .best) := by
  cases status <;> rfl

/-- A score's row is counted with a user's row if it is the row of its player, who is unrestricted,
and if it is above the value on the leaderboard. -/
theorem counts_ofStanding (q : Standing) {s : Score} (hs : s.Fits) (u : UserRow) :
    (CountQuery.ofStanding q).counts s.toRow u = (u.id == s.player && (u.held.isUnrestricted &&
      (s.beatmap == q.beatmap && s.mode == q.mode && s.status == .best &&
        q.value.beatenBy s))) := by
  have hmode : (Int16.ofNat s.mode.toNat == (CountQuery.ofStanding q).mode) = (s.mode == q.mode) :=
    mode_beq s.mode q.mode
  rw [CountQuery.counts, exceeds_ofStanding q hs, CountQuery.admits_eq_isUnrestricted]
  simp only [Score.toRow, hmode, status_beq]
  show (u.id == s.player && s.beatmap == q.beatmap && _ && _ && _ && _) = _
  ac_rfl

/-- With no two equal keys a key is found once or not at all. -/
theorem countP_of_nodup {α β : Type} [BEq β] [LawfulBEq β] {f : α → β} {l : List α}
    (h : (l.map f).Nodup) (k : β) (p : α → Bool) :
    l.countP (fun a => f a == k && p a) = ((l.find? (f · == k)).any p).toNat := by
  induction l with
  | nil => rfl
  | cons a l ih =>
    obtain ⟨ha, hl⟩ := List.nodup_cons.1 h
    rw [List.countP_cons, ih hl, List.find?_cons]
    cases hk : f a == k with
    | true => 
      have hnone : l.find? (f · == k) = none := by
        rw [List.find?_eq_none]
        intro b hb hbk
        rw [eq_of_beq hk, ← eq_of_beq hbk] at ha
        exact ha (List.mem_map_of_mem hb)
      cases hp : p a <;> simp [hnone, hp]
    | false => simp

/-- What is joined once or not at all is counted once or not at all. -/
theorem countP_join {α β γ : Type} {f : α → β} {l : List α} {m : List γ} {p : β → γ → Bool}
    {q : α → Bool} (h : ∀ a ∈ l, m.countP (p (f a)) = (q a).toNat) :
    ((l.map f).flatMap fun b => m.map fun c => (b, c)).countP (fun (b, c) => p b c) =
      l.countP q := by
  induction l with
  | nil => rfl
  | cons a l ih =>
    obtain ⟨ha, hl⟩ := List.forall_mem_cons.1 h
    have hhead : (m.map fun c => (f a, c)).countP (fun (b, c) => p b c) = (q a).toNat := by
      rw [List.countP_map, ← ha]
      rfl
    rw [List.map_cons, List.flatMap_cons, List.countP_append, hhead, ih hl, List.countP_cons,
      Nat.add_comm]
    cases q a <;> rfl

/-! ## The counts -/

namespace ScoreStore

variable {t : ScoreStore} {scores : List Score} {users : List UserRow}

/-- The query counts over the tables what the store counts. -/
theorem Holds.count_eq (h : t.Holds scores users) (hunique : (users.map (·.id)).Nodup)
    (hfits : ∀ s ∈ scores, s.Fits) (q : Standing) :
    (CountQuery.ofStanding q).count (scores.map Score.toRow) users = t.countBetter q := by
  have hjoin : ∀ s ∈ scores, users.countP ((CountQuery.ofStanding q).counts s.toRow) =
      (t.isRankedOn q.beatmap q.mode s && q.value.beatenBy s).toNat := by
    intro s hs
    rw [List.countP_congr fun u _ => by rw [counts_ofStanding q (hfits s hs) u],
      countP_of_nodup hunique, isRankedOn, isUnrestricted, h.privileges]
    cases users.find? (·.id == s.player) with
    | none => simp
    | some u =>
      rw [Option.any_some, Option.map_some, Option.any_some]
      congr 1
      ac_rfl
  rw [CountQuery.count, countBetter, h.scores.countP_eq]
  exact countP_join hjoin

/-- A score of a user without a row is not ranked. -/
theorem Holds.isRankedOn_of_notMem (h : t.Holds scores users) {s : Score}
    (hs : s.player ∉ users.map (·.id)) (beatmap : String) (mode : GameMode) :
    t.isRankedOn beatmap mode s = false := by
  have hnone : users.find? (·.id == s.player) = none := by
    rw [List.find?_eq_none]
    intro u hu hid
    exact hs (eq_of_beq hid ▸ List.mem_map_of_mem hu)
  rw [isRankedOn, isUnrestricted, h.privileges, hnone]
  simp

end ScoreStore

/-- A count that the database sends is read as it is. -/
theorem countOfRow_of_natCast {n : Int64} {k : ℕ} (h : n.toInt = k) (column : String) :
    Database.countOfRow [(column, .int8 n)] = .ok (UInt64.ofNat k) := by
  have hmax : (max n.toInt 0).toNat = k := by omega
  rw [Database.countOfRow, hmax]

/-- Rows that are read as scores show the rows of these. -/
theorem shows_of_forall₂ {rows : List SqlRow} {scores : List Score}
    (h : List.Forall₂ (fun r s => Score.ofRow r = .ok s) rows scores) :
    List.Forall₂ SqlRow.Shows rows (scores.map Score.toRow) ∧ ∀ s ∈ scores, s.Fits := by
  induction h with
  | nil => exact ⟨.nil, List.forall_mem_nil _⟩
  | cons hr hrows ih =>
    obtain ⟨hshows, hfits⟩ := Score.shows_of_ofRow hr
    exact ⟨.cons hshows ih.1, List.forall_mem_cons.2 ⟨hfits, ih.2⟩⟩

/-- A database that takes the count statement literally and a store that holds what its tables hold
count the same scores. This is so for every value that is a number, also for scores beyond all
`bigint`s. In particular neither counts a score whose player has no row, and a repository over such
a database has the answers of the one over the store. -/
theorem counts_as_the_database {rows : List SqlRow} {scores : List Score} {users : List UserRow}
    (hrows : List.Forall₂ (fun r s => Score.ofRow r = .ok s) rows scores)
    (hpp : ∀ s ∈ scores, s.pp.isNaN = false) (hunique : (users.map (·.id)).Nodup)
    {t : ScoreStore} (ht : t.Holds scores users) (q : Standing) (hq : q.value.isNumber = true) :
    let c := CountStatement.ahead q.value.metric
    let sql := (CountQuery.ofStanding q).sql
    c.text = sql.text ∧
    c.count sql.params rows (users.map UserRow.columns) = t.countBetter q ∧
    (∀ r s, (r, s) ∈ rows.zip scores → s.player ∉ users.map (·.id) →
      (∀ u ∈ users, c.passes sql.params r u.columns = false) ∧
        t.isRankedOn q.beatmap q.mode s = false) ∧
    ∀ (d : Database) (n : Int64), d.run sql = some [[("count", .int8 n)]] →
      n.toInt = c.count sql.params rows (users.map UserRow.columns) →
      (Repository.ofDatabase (some d)).countBetter q = (Repository.ofStore t).countBetter q := by
  intro c sql
  obtain ⟨hshows, hfits⟩ := shows_of_forall₂ hrows
  have hnumber : (CountQuery.ofStanding q).threshold.isNumber = true :=
    (isNumber_ofStanding q).trans hq
  have hc : c = CountStatement.ahead (CountQuery.ofStanding q).metric := by
    rw [metric_ofStanding]
  have hcount : c.count sql.params rows (users.map UserRow.columns) = t.countBetter q := by
    rw [hc, CountQuery.count_ahead hshows users hnumber, ht.count_eq hunique hfits]
    intro row hrow
    obtain ⟨s, hs, rfl⟩ := List.mem_map.1 hrow
    exact hpp s hs
  refine ⟨?_, hcount, ?_, ?_⟩
  · rw [hc]
    exact CountStatement.text_ahead _
  · intro r s hrs hplayer
    have hs : s ∈ scores := (List.of_mem_zip hrs).2
    have hread := (List.forall₂_iff_zip.1 hrows).2 hrs
    refine ⟨fun u hu => ?_, ht.isRankedOn_of_notMem hplayer q.beatmap q.mode⟩
    have hid : (u.id == s.player) = false :=
      beq_false_of_ne fun e => hplayer (e ▸ List.mem_map_of_mem hu)
    rw [hc, CountQuery.passes_ahead (Score.shows_of_ofRow hread).1 u hnumber (hpp s hs),
      counts_ofStanding q (hfits s hs), hid, Bool.false_and]
  · intro d n hrun hn
    rw [hcount] at hn
    show (d.row sql).bind Database.countOfRow = .ok (UInt64.ofNat (t.countBetter q))
    rw [Database.row, Database.rowAtMost, hrun]
    exact countOfRow_of_natCast hn "count"

/-- One of three scores is counted. The player of the second is restricted and the third has no
player. Nothing is above a score that is beyond all `bigint`s. -/
theorem counts_as_the_database_three :
    let first := ScoreStore.relaxScore 1 250.5
    let second := { ScoreStore.relaxScore 2 300 with player := 8 }
    let third := { ScoreStore.relaxScore 3 400 with player := 9 }
    let users : List UserRow := [⟨7, 3⟩, ⟨8, 2⟩]
    let rows := [first, second, third].map fun s => s.toRow.columns
    let t := ((((({} : ScoreStore).setPrivileges 8 ⟨2⟩).setPrivileges 7 ⟨3⟩).insertScore
      third).insertScore second).insertScore first
    let points : Standing := ⟨"5f2c", .relaxOsu, .pp 100⟩
    let large : Standing := ⟨"5f2c", .relaxOsu, .score 0x8000000000000000⟩
    (CountStatement.ahead .pp).count (CountQuery.ofStanding points).sql.params rows
        (users.map UserRow.columns) = t.countBetter points ∧ t.countBetter points = 1 ∧
      (CountStatement.ahead .score).count (CountQuery.ofStanding large).sql.params rows
        (users.map UserRow.columns) = t.countBetter large ∧ t.countBetter large = 0 := by
  intro first second third users rows t points large
  have ht : t.Holds [first, second, third] users :=
    ((((ScoreStore.holds_empty.setPrivileges ⟨8, 2⟩).setPrivileges ⟨7, 3⟩).insertScore
      rfl).insertScore (by decide +kernel)).insertScore (by decide +kernel)
  have hrows : List.Forall₂ (fun r s => Score.ofRow r = .ok s) rows [first, second, third] :=
    .cons rfl (.cons rfl (.cons rfl .nil))
  have hpp : ∀ s ∈ [first, second, third], s.pp.isNaN = false := by decide +kernel
  have hunique : (users.map (·.id)).Nodup := by decide
  exact ⟨(counts_as_the_database hrows hpp hunique ht points (by decide +kernel)).2.1,
    by decide +kernel,
    (counts_as_the_database hrows hpp hunique ht large rfl).2.1, by decide +kernel⟩

end Coordination
