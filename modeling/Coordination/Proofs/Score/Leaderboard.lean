import Mathlib.Algebra.Group.Nat.Defs
import Mathlib.Data.List.Count
import Mathlib.Data.List.Perm.Subperm
import Coordination.Proofs.Score.LargeCounts
import Coordination.Proofs.Score.MetricOrder

/-!
# Leaderboards

The leaderboard of a beatmap and mode are its ranked scores, and a score is placed behind those of
them that are ahead of it. Placements follow the order of the values
(`placement_respects_values`). Among the ranked scores whose values are numbers they are a
competition ranking (`competition_ranking`): a score is placed one behind the number of scores
that are placed before it. A ranked score whose value is no number is placed first and is ahead
of nobody, so that it has to be left out of this count (`first_without_number`).
-/

namespace Coordination

/-- One element more passes the weaker test. -/
theorem countP_lt_countP {α : Type} {p q : α → Bool} {l : List α} {a : α}
    (h : ∀ x ∈ l, p x = true → q x = true) (ha : a ∈ l) (hp : p a = false) (hq : q a = true) :
    l.countP p < l.countP q := by
  have hpq : l.countP p = (l.filter q).countP p := by
    rw [List.countP_filter]
    exact List.countP_congr fun x hx => by simpa using h x hx
  rw [hpq, List.countP_eq_length_filter (p := q)]
  exact List.countP_lt_length_iff.2 ⟨a, List.mem_filter.2 ⟨ha, hq⟩, hp⟩

/-- Distinct numbers from one to their count are all of these. -/
theorem perm_range' {l : List ℕ} (hdistinct : l.Nodup) (hrange : ∀ n ∈ l, 1 ≤ n ∧ n ≤ l.length) :
    l.Perm (List.range' 1 l.length) := by
  have hsub : l ⊆ List.range' 1 l.length := by
    intro n hn
    obtain ⟨h₁, h₂⟩ := hrange n hn
    rw [List.mem_range'_1]
    omega
  exact (hdistinct.subperm hsub).perm_of_length_le (by rw [List.length_range'])

/-! ## Who is ahead -/

namespace ScoreStore

variable (t : ScoreStore) {beatmap : String} {mode : GameMode} {a b s : Score}

/-- The ranked scores of a beatmap and mode. -/
def board (beatmap : String) (mode : GameMode) : List Score :=
  (t.scores.toList.map (·.2)).filter (t.isRankedOn beatmap mode)

theorem mem_board : s ∈ t.board beatmap mode ↔ (∃ id, t.score? id = some s) ∧
    s.beatmap = beatmap ∧ s.mode = mode ∧ s.status = .best ∧ t.isUnrestricted s.player = true := by
  have hstored : s ∈ t.scores.toList.map (·.2) ↔ ∃ id, t.score? id = some s := by
    simp [score?, Std.ExtTreeMap.mem_toList_iff_getElem?_eq_some]
  rw [board, List.mem_filter, hstored]
  simp [isRankedOn, and_assoc]

theorem length_board_le : (t.board beatmap mode).length ≤ t.scores.size := by
  calc (t.board beatmap mode).length ≤ (t.scores.toList.map (·.2)).length :=
        List.length_filter_le _ _
    _ = t.scores.size := by rw [List.length_map, Std.ExtTreeMap.length_toList]

/-- How many ranked scores are strictly ahead of a score. -/
def ahead (s : Score) : Nat := (t.board s.beatmap s.mode).countP s.metricValue.beatenBy

theorem countBetter_standing : t.countBetter s.standing = t.ahead s := by
  rw [ahead, board, List.countP_filter]
  exact List.countP_congr fun o _ => by simp [Score.standing, and_comm]

theorem ahead_le_size : t.ahead s ≤ t.scores.size :=
  List.countP_le_length.trans t.length_board_le

theorem beatenBy_iff_of_mem (hs : s ∈ t.board b.beatmap b.mode) :
    b.metricValue.beatenBy s = true ↔ b.metricValue < s.metricValue :=
  MetricValue.beatenBy_iff (t.mem_board.1 hs).2.2.1.symm

/-- Who is ahead of the better score is ahead of the other one too. -/
theorem beatenBy_of_le (hmode : a.mode = b.mode) (h : b.metricValue ≤ a.metricValue)
    (hs : s ∈ t.board b.beatmap b.mode) (ha : a.metricValue.beatenBy s = true) :
    b.metricValue.beatenBy s = true := by
  have hsmode : s.mode = b.mode := (t.mem_board.1 hs).2.2.1
  have hlt := (MetricValue.beatenBy_iff (hmode.trans hsmode.symm)).1 ha
  exact (t.beatenBy_iff_of_mem hs).2 (MetricValue.lt_of_le_of_lt h hlt)

theorem ahead_le_ahead (hbeatmap : a.beatmap = b.beatmap) (hmode : a.mode = b.mode)
    (h : b.metricValue ≤ a.metricValue) : t.ahead a ≤ t.ahead b := by
  rw [ahead, ahead, hbeatmap, hmode]
  exact List.countP_mono_left fun s hs ha => t.beatenBy_of_le hmode h hs ha

/-- A ranked score is ahead of every score with a lower value, and not of itself. -/
theorem ahead_lt_ahead (ha : a ∈ t.board b.beatmap b.mode) (h : b.metricValue < a.metricValue) :
    t.ahead a < t.ahead b := by
  obtain ⟨-, hbeatmap, hmode, -⟩ := t.mem_board.1 ha
  rw [ahead, ahead, hbeatmap, hmode]
  refine countP_lt_countP ?_ ha (MetricValue.beatenBy_self a) ((t.beatenBy_iff_of_mem ha).2 h)
  intro s hs has
  exact t.beatenBy_of_le hmode (MetricValue.le_of_lt h) hs has

/-- One leaderboard, one scale. -/
theorem metric_eq_of_mem (ha : a ∈ t.board beatmap mode) (hb : b ∈ t.board beatmap mode) :
    a.metricValue.metric = b.metricValue.metric := by
  rw [MetricValue.metric_metricValue, MetricValue.metric_metricValue, (t.mem_board.1 ha).2.2.1,
    (t.mem_board.1 hb).2.2.1]

/-- The ranked scores that can be compared. -/
def numbered (beatmap : String) (mode : GameMode) : List Score :=
  (t.board beatmap mode).filter fun s => s.metricValue.isNumber

theorem mem_numbered : s ∈ t.numbered beatmap mode ↔
    s ∈ t.board beatmap mode ∧ s.metricValue.isNumber = true := List.mem_filter

/-- Only numbers are ahead of anything. -/
theorem ahead_eq_countP_numbered :
    t.ahead s = (t.numbered s.beatmap s.mode).countP s.metricValue.beatenBy := by
  rw [numbered, List.countP_filter, ahead]
  refine List.countP_congr fun o ho => ?_
  have hnumber : s.metricValue.beatenBy o = true → o.metricValue.isNumber = true := by
    intro h
    exact (MetricValue.isNumber_of_lt ((t.beatenBy_iff_of_mem ho).1 h)).2
  simpa using hnumber

/-- Nobody is ahead of what is no number. -/
theorem ahead_of_not_isNumber (h : s.metricValue.isNumber = false) : t.ahead s = 0 := by
  rw [ahead, List.countP_eq_zero]
  intro o ho hbeats
  have := (MetricValue.isNumber_of_lt ((t.beatenBy_iff_of_mem ho).1 hbeats)).1
  rw [h] at this
  exact Bool.false_ne_true this

/-- On one leaderboard the count of those ahead tells who is ahead. -/
theorem ahead_lt_ahead_iff (ha : a ∈ t.numbered beatmap mode)
    (hb : b ∈ t.numbered beatmap mode) :
    t.ahead a < t.ahead b ↔ b.metricValue < a.metricValue := by
  obtain ⟨haboard, hanumber⟩ := t.mem_numbered.1 ha
  obtain ⟨hbboard, hbnumber⟩ := t.mem_numbered.1 hb
  have hscale := t.metric_eq_of_mem hbboard haboard
  obtain ⟨-, rfl, rfl, -⟩ := t.mem_board.1 hbboard
  obtain ⟨-, hbeatmap, hmode, -⟩ := t.mem_board.1 haboard
  constructor
  · intro hlt
    by_contra hnot
    have hle := MetricValue.le_of_not_lt hscale hbnumber hanumber hnot
    exact absurd (t.ahead_le_ahead hbeatmap.symm hmode.symm hle) (by omega)
  · exact t.ahead_lt_ahead haboard

theorem ahead_ne_ahead (ha : a ∈ t.numbered beatmap mode) (hb : b ∈ t.numbered beatmap mode)
    (h : (a.metricValue == b.metricValue) = false) : t.ahead a ≠ t.ahead b := by
  obtain ⟨haboard, hanumber⟩ := t.mem_numbered.1 ha
  obtain ⟨hbboard, hbnumber⟩ := t.mem_numbered.1 hb
  have hscale := t.metric_eq_of_mem haboard hbboard
  rcases MetricValue.lt_or_beq_or_gt hscale hanumber hbnumber with hlt | heq | hgt
  · exact ((t.ahead_lt_ahead_iff hb ha).2 hlt).ne'
  · rw [h] at heq
    exact absurd heq Bool.false_ne_true
  · exact ((t.ahead_lt_ahead_iff ha hb).2 hgt).ne

theorem ahead_lt_length_numbered (hs : s ∈ t.numbered beatmap mode) :
    t.ahead s < (t.numbered beatmap mode).length := by
  obtain ⟨-, rfl, rfl, -⟩ := t.mem_board.1 (t.mem_numbered.1 hs).1
  rw [ahead_eq_countP_numbered, List.countP_lt_length_iff]
  exact ⟨s, hs, MetricValue.beatenBy_self s⟩

/-! ## A leaderboard of three -/

/-- A ranked score of an assisted mode. -/
def relaxScore (id : ScoreId) (pp : Float) : Score where
  id
  beatmap := "5f2c"
  player := 7
  mode := .relaxOsu
  score := 0
  pp
  accuracy := 100
  maxCombo := 0
  misses := 0
  mods := ⟨0⟩
  status := .best

/-- Three ranked scores. The points of the first are no number. -/
def relaxStore : ScoreStore :=
  ((((({} : ScoreStore).setPrivileges 7 ⟨1⟩).insertScore (relaxScore 1 (0 / 0))).insertScore
    (relaxScore 2 250.5)).insertScore (relaxScore 3 100))

theorem size_relaxStore : relaxStore.scores.size < 2 ^ 32 - 1 := by
  decide +kernel

theorem mem_board_relaxStore {id : ScoreId} {pp : Float}
    (h : relaxStore.score? id = some (relaxScore id pp)) :
    relaxScore id pp ∈ relaxStore.board "5f2c" .relaxOsu :=
  relaxStore.mem_board.2 ⟨⟨id, h⟩, rfl, rfl, rfl, rfl⟩

end ScoreStore

/-! ## Placements -/

namespace Repository

open ScoreStore (relaxScore relaxStore size_relaxStore mem_board_relaxStore)

theorem placementBehind_ofNat {n : ℕ} (h : n < 2 ^ 32 - 1) :
    placementBehind (UInt64.ofNat n) = .ok (UInt32.ofNat (n + 1)) := by
  have hn : (UInt64.ofNat n).toNat = n := UInt64.toNat_ofNat_of_lt' (h.trans (by decide))
  have hgreatest : UInt64.ofNat n ≠ greatestCount := by
    rw [ne_eq, eq_greatestCount_iff, hn]
    omega
  rw [placementBehind_eq, if_neg hgreatest, hn, Nat.min_eq_left (by omega)]

section

variable {t : ScoreStore} (ht : t.scores.size < 2 ^ 32 - 1) (s : Score)
include ht

theorem placement_ofStore : (ofStore t).placement s = .ok (UInt32.ofNat (t.ahead s + 1)) := by
  show placementBehind (UInt64.ofNat (t.countBetter s.standing)) = _
  have := t.ahead_le_size (s := s)
  rw [t.countBetter_standing, placementBehind_ofNat (by omega)]

theorem toNat_placement : (UInt32.ofNat (t.ahead s + 1)).toNat = t.ahead s + 1 := by
  have := t.ahead_le_size (s := s)
  exact UInt32.toNat_ofNat_of_lt' (by change _ < 2 ^ 32; omega)

end

/-- Whether a score is placed strictly before another one. -/
def placesBefore (r : Repository) (a b : Score) : Bool :=
  match r.placement a, r.placement b with
  | .ok p, .ok q => decide (p < q)
  | _, _ => false

theorem placesBefore_ofStore {t : ScoreStore} (ht : t.scores.size < 2 ^ 32 - 1) (a b : Score) :
    (ofStore t).placesBefore a b = true ↔ t.ahead a < t.ahead b := by
  simp only [placesBefore, placement_ofStore ht, decide_eq_true_eq, UInt32.lt_iff_toNat_lt,
    toNat_placement ht]
  omega

/-! ## The order of placements -/

/-- Placements follow the order of the values, which are scores in the plain modes and points in the
assisted ones: who has at least the value of another score of the same beatmap and mode is not
placed behind it, equal values share their placement, and a ranked score is placed before all lower
values. None of the scores need be stored but the ranked one. -/
theorem placement_respects_values (t : ScoreStore) (ht : t.scores.size < 2 ^ 32 - 1) {a b : Score}
    (hbeatmap : a.beatmap = b.beatmap) (hmode : a.mode = b.mode) :
    ∃ p q, (ofStore t).placement a = .ok p ∧ (ofStore t).placement b = .ok q ∧
      (MetricValue.ofMode b ≤ MetricValue.ofMode a → p ≤ q) ∧
      ((MetricValue.ofMode a == MetricValue.ofMode b) = true → p = q) ∧
      ((∃ id, t.score? id = some a) → a.status = .best → t.isUnrestricted a.player = true →
        MetricValue.ofMode b < MetricValue.ofMode a → p < q) := by
  rw [← MetricValue.metricValue_eq, ← MetricValue.metricValue_eq]
  refine ⟨_, _, placement_ofStore ht a, placement_ofStore ht b, ?_, ?_, ?_⟩
  · intro hle
    have := t.ahead_le_ahead hbeatmap hmode hle
    rw [UInt32.le_iff_toNat_le, toNat_placement ht, toNat_placement ht]
    omega
  · intro heq
    obtain ⟨hab, hba⟩ := MetricValue.le_of_beq heq
    have h₁ := t.ahead_le_ahead hbeatmap hmode hba
    have h₂ := t.ahead_le_ahead hbeatmap.symm hmode.symm hab
    rw [show t.ahead a = t.ahead b by omega]
  · intro hstored hbest hunrestricted hlt
    have := t.ahead_lt_ahead
      (t.mem_board.2 ⟨hstored, hbeatmap, hmode, hbest, hunrestricted⟩) hlt
    rw [UInt32.lt_iff_toNat_lt, toNat_placement ht, toNat_placement ht]
    omega

theorem placement_respects_values_relax :
    let r := ofStore relaxStore
    relaxStore.scores.size < 2 ^ 32 - 1 ∧
      MetricValue.ofMode (relaxScore 3 100) < MetricValue.ofMode (relaxScore 2 250.5) ∧
      ∃ p q, r.placement (relaxScore 2 250.5) = .ok p ∧ r.placement (relaxScore 3 100) = .ok q ∧
        p < q := by
  have hlt : MetricValue.ofMode (relaxScore 3 100) < MetricValue.ofMode (relaxScore 2 250.5) := by
    show (100 : Float) < 250.5
    decide +kernel
  obtain ⟨p, q, hp, hq, -, -, hbefore⟩ := placement_respects_values relaxStore size_relaxStore
    (a := relaxScore 2 250.5) (b := relaxScore 3 100) rfl rfl
  exact ⟨size_relaxStore, hlt, p, q, hp, hq, hbefore ⟨2, rfl⟩ rfl rfl hlt⟩

/-! ## The ranking of a leaderboard -/

section

variable {t : ScoreStore} (ht : t.scores.size < 2 ^ 32 - 1) {beatmap : String} {mode : GameMode}
  {s : Score}
include ht

/-- Those who are ahead are placed before, and of the numbers nobody else is. -/
theorem countP_placesBefore (hs : s ∈ t.board beatmap mode) :
    (t.numbered beatmap mode).countP ((ofStore t).placesBefore · s) = t.ahead s := by
  cases hnumber : s.metricValue.isNumber with
  | false =>
    rw [t.ahead_of_not_isNumber hnumber, List.countP_eq_zero]
    intro o _ hbefore
    have := (placesBefore_ofStore ht o s).1 hbefore
    rw [t.ahead_of_not_isNumber hnumber] at this
    omega
  | true =>
    have hnumbered := t.mem_numbered.2 ⟨hs, hnumber⟩
    obtain ⟨-, rfl, rfl, -⟩ := t.mem_board.1 hs
    rw [t.ahead_eq_countP_numbered]
    refine List.countP_congr fun o ho => ?_
    rw [placesBefore_ofStore ht, t.ahead_lt_ahead_iff ho hnumbered,
      t.beatenBy_iff_of_mem (t.mem_numbered.1 ho).1]

theorem le_of_placement_eq_one {o : Score} (hs : s ∈ t.numbered beatmap mode)
    (hfirst : (ofStore t).placement s = .ok 1) (ho : o ∈ t.numbered beatmap mode) :
    o.metricValue ≤ s.metricValue := by
  have hahead : t.ahead s = 0 := by
    rw [placement_ofStore ht] at hfirst
    have hone : UInt32.ofNat (t.ahead s + 1) = 1 := Except.ok.inj hfirst
    have htoNat := toNat_placement ht s
    rw [hone] at htoNat
    have : (1 : UInt32).toNat = 1 := rfl
    omega
  obtain ⟨hsboard, hsnumber⟩ := t.mem_numbered.1 hs
  obtain ⟨hoboard, honumber⟩ := t.mem_numbered.1 ho
  refine MetricValue.le_of_not_lt (t.metric_eq_of_mem hsboard hoboard) hsnumber honumber ?_
  intro hlt
  have := (t.ahead_lt_ahead_iff ho hs).2 hlt
  omega

/-- The counts of those ahead are distinct and lower than the number of scores, so that they are
all the numbers below it. -/
theorem perm_placement (hdistinct : (t.numbered beatmap mode).Pairwise
      fun a b => (a.metricValue == b.metricValue) = false) :
    ((t.numbered beatmap mode).map (ofStore t).placement).Perm
      ((List.range' 1 (t.numbered beatmap mode).length).map fun n => .ok (UInt32.ofNat n)) := by
  have hnodup : ((t.numbered beatmap mode).map fun s => t.ahead s + 1).Nodup := by
    rw [List.Nodup, List.pairwise_map]
    refine hdistinct.imp_of_mem fun {a b} ha hb hab => ?_
    have := t.ahead_ne_ahead ha hb hab
    omega
  have hperm := perm_range' hnodup fun n hn => by
    obtain ⟨s, hs, rfl⟩ := List.mem_map.1 hn
    have := t.ahead_lt_length_numbered hs
    rw [List.length_map]
    omega
  rw [List.length_map] at hperm
  have hplacements : (t.numbered beatmap mode).map (ofStore t).placement =
      ((t.numbered beatmap mode).map fun s => t.ahead s + 1).map
        fun n => .ok (UInt32.ofNat n) := by
    rw [List.map_map]
    exact List.map_congr_left fun s _ => placement_ofStore ht s
  rw [hplacements]
  exact hperm.map _

end

/-- The placements of the ranked scores of a beatmap and mode are a competition ranking of those
whose values are numbers: so many of these are placed before a score as its placement says, the
first have the greatest value, and distinct values take all the placements from the first to the
last. A ranked score whose value is no number is placed first. -/
theorem competition_ranking (t : ScoreStore) (ht : t.scores.size < 2 ^ 32 - 1) (beatmap : String)
    (mode : GameMode) :
    let r := ofStore t
    let numbered := t.numbered beatmap mode
    (∀ s ∈ t.board beatmap mode, ∃ p, r.placement s = .ok p ∧
      p.toNat = numbered.countP (r.placesBefore · s) + 1) ∧
    (∀ s ∈ numbered, r.placement s = .ok 1 → ∀ o ∈ numbered, o.metricValue ≤ s.metricValue) ∧
    (numbered.Pairwise (fun a b => (a.metricValue == b.metricValue) = false) →
      (numbered.map r.placement).Perm
        ((List.range' 1 numbered.length).map fun n => .ok (UInt32.ofNat n))) ∧
    ∀ s ∈ t.board beatmap mode, s.metricValue.isNumber = false → r.placement s = .ok 1 := by
  refine ⟨?_, ?_, perm_placement ht, ?_⟩
  · intro s hs
    refine ⟨_, placement_ofStore ht s, ?_⟩
    rw [countP_placesBefore ht hs, toNat_placement ht]
  · intro s hs hfirst o ho
    exact le_of_placement_eq_one ht hs hfirst ho
  · intro s _ hnumber
    rw [placement_ofStore ht, t.ahead_of_not_isNumber hnumber]
    rfl

/-- The two scores with numbers are the first and the second. -/
theorem competition_ranking_relax :
    let r := ofStore relaxStore
    let numbered := relaxStore.numbered "5f2c" .relaxOsu
    relaxStore.scores.size < 2 ^ 32 - 1 ∧
    (∃ p, r.placement (relaxScore 3 100) = .ok p ∧
      p.toNat = numbered.countP (r.placesBefore · (relaxScore 3 100)) + 1) ∧
    (numbered.map r.placement).Perm [.ok 1, .ok 2] := by
  obtain ⟨hbehind, -, hall, -⟩ :=
    competition_ranking relaxStore size_relaxStore "5f2c" .relaxOsu
  exact ⟨size_relaxStore, hbehind _ (mem_board_relaxStore rfl), hall (by decide +kernel)⟩

/-- With what is no number among them, the ranked scores are not ranked as in a competition: two
of the three are placed before the last, which is placed second, and one is placed first whose
value is not the greatest. -/
theorem first_without_number :
    let r := ofStore relaxStore
    let board := relaxStore.board "5f2c" .relaxOsu
    relaxStore.scores.size < 2 ^ 32 - 1 ∧
    (relaxScore 3 100 ∈ board ∧ r.placement (relaxScore 3 100) = .ok 2 ∧
      board.countP (r.placesBefore · (relaxScore 3 100)) = 2) ∧
    relaxScore 1 (0 / 0) ∈ board ∧ r.placement (relaxScore 1 (0 / 0)) = .ok 1 ∧
      ¬ (relaxScore 3 100).metricValue ≤ (relaxScore 1 (0 / 0)).metricValue := by
  refine ⟨size_relaxStore, ⟨mem_board_relaxStore rfl, rfl, ?_⟩, mem_board_relaxStore rfl, rfl, ?_⟩
  · decide +kernel
  · show ¬ (100 : Float) ≤ 0 / 0
    decide +kernel

end Repository

end Coordination
