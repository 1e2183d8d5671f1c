import Coordination.Proofs.Score.Leaderboard
import Coordination.Proofs.Table

/-!
# How writes move placements

A placement counts who is ranked above a score, so a write moves it by what the write does to this
count (`placements_move`). A record that is stored adds itself and takes away the record that it
replaces, and privileges add or take away all the best scores of their player at once.
-/

namespace Coordination

/-! ## Who is above -/

namespace Score

/-- Both compete on one leaderboard. -/
def SharesBoard (o s : Score) : Prop := o.beatmap = s.beatmap ∧ o.mode = s.mode

instance (o s : Score) : Decidable (o.SharesBoard s) :=
  inferInstanceAs (Decidable (_ ∧ _))

/-- The best score of its player on the leaderboard of `s`, with a strictly greater value. -/
structure IsBestAbove (o s : Score) : Prop where
  board : o.SharesBoard s
  best : o.status = .best
  above : s.metricValue < o.metricValue

theorem isBestAbove_iff {o s : Score} : o.IsBestAbove s ↔
    o.SharesBoard s ∧ o.status = .best ∧ s.metricValue.beatenBy o = true := by
  constructor
  · rintro ⟨hboard, hbest, habove⟩
    exact ⟨hboard, hbest, (MetricValue.beatenBy_iff hboard.2.symm).2 habove⟩
  · rintro ⟨hboard, hbest, hbeats⟩
    exact ⟨hboard, hbest, (MetricValue.beatenBy_iff hboard.2.symm).1 hbeats⟩

instance (o s : Score) : Decidable (o.IsBestAbove s) :=
  decidable_of_iff _ isBestAbove_iff.symm

end Score

namespace ScoreStore

variable (t : ScoreStore) (s r : Score) (user : UserId) (p : Privileges)

/-- A score that is ranked, and above `s` on the same leaderboard. -/
def RankedAbove (o : Score) : Prop := o.IsBestAbove s ∧ t.isUnrestricted o.player = true

instance (o : Score) : Decidable (t.RankedAbove s o) :=
  inferInstanceAs (Decidable (_ ∧ _))

theorem ahead_eq_countP :
    t.ahead s = t.scores.toList.countP fun e => decide (t.RankedAbove s e.2) := by
  rw [ahead, board, List.countP_filter, List.countP_map]
  refine List.countP_congr fun e _ => ?_
  simp only [Function.comp_apply, isRankedOn, RankedAbove, Score.isBestAbove_iff,
    Score.SharesBoard, Bool.and_eq_true, beq_iff_eq, decide_eq_true_eq]
  tauto

/-! ## Records -/

theorem size_insertScore_le : (t.insertScore r).scores.size ≤ t.scores.size + 1 :=
  Std.ExtTreeMap.size_insert_le

/-- The record that another one would replace is ranked above `s`. -/
def ReplacesAbove : Prop := ∃ old ∈ t.score? r.id, t.RankedAbove s old

instance : Decidable (t.ReplacesAbove s r) :=
  inferInstanceAs (Decidable (∃ old ∈ t.score? r.id, t.RankedAbove s old))

theorem ahead_insertScore :
    (t.insertScore r).ahead s + (if t.ReplacesAbove s r then 1 else 0) =
      t.ahead s + if (t.insertScore r).RankedAbove s r then 1 else 0 := by
  have hcount := countP_toList_insert t.scores r.id r fun o => decide (t.RankedAbove s o)
  have hold : (t.scores[r.id]?.any fun o => decide (t.RankedAbove s o)) = true ↔
      t.ReplacesAbove s r := by
    rw [ReplacesAbove, score?]
    simp only [Option.any_eq_true, Option.mem_def, decide_eq_true_eq]
  simp only [hold, decide_eq_true_eq] at hcount
  rw [ahead_eq_countP, ahead_eq_countP]
  exact hcount

/-! ## Privileges -/

theorem isUnrestricted_setPrivileges (other : UserId) :
    (t.setPrivileges user p).isUnrestricted other =
      if user = other then p.isUnrestricted else t.isUnrestricted other := by
  rw [isUnrestricted, setPrivileges, Std.ExtTreeMap.getElem?_insert]
  by_cases h : user = other
  · simp [h]
  · simp [h, isUnrestricted]

/-- How many of a player's best scores are above `s`. Whether they are ranked depends on the
privileges of the player. -/
def bestsAbove : Nat :=
  t.scores.toList.countP fun e => decide (e.2.player = user ∧ e.2.IsBestAbove s)

/-- How many ranked scores of all other players are above `s`. -/
def aheadBesides : Nat :=
  t.scores.toList.countP fun e => decide (e.2.player ≠ user ∧ t.RankedAbove s e.2)

theorem ahead_eq_add : t.ahead s =
    t.aheadBesides s user + if t.isUnrestricted user then t.bestsAbove s user else 0 := by
  rw [ahead_eq_countP, List.countP_eq_countP_filter_add _ _ fun e => decide (e.2.player ≠ user),
    List.countP_filter, List.countP_filter]
  congr 1
  · refine List.countP_congr fun e _ => ?_
    simp [and_comm]
  · cases hpublic : t.isUnrestricted user with
    | true =>
      refine List.countP_congr fun e _ => ?_
      simp only [Bool.and_eq_true, Bool.not_eq_true', decide_eq_true_eq,
        decide_eq_false_iff_not, ne_eq, not_not]
      constructor
      · rintro ⟨⟨habove, -⟩, hplayer⟩
        exact ⟨hplayer, habove⟩
      · rintro ⟨hplayer, habove⟩
        exact ⟨⟨habove, hplayer ▸ hpublic⟩, hplayer⟩
    | false =>
      rw [if_neg Bool.false_ne_true, List.countP_eq_zero]
      intro e _ he
      simp only [Bool.and_eq_true, Bool.not_eq_true', decide_eq_true_eq,
        decide_eq_false_iff_not, ne_eq, not_not] at he
      obtain ⟨⟨-, hranked⟩, hplayer⟩ := he
      rw [hplayer, hpublic] at hranked
      exact Bool.false_ne_true hranked

theorem aheadBesides_setPrivileges :
    (t.setPrivileges user p).aheadBesides s user = t.aheadBesides s user := by
  refine List.countP_congr fun e _ => ?_
  rw [decide_eq_true_iff, decide_eq_true_iff]
  refine and_congr_right fun hplayer => ?_
  rw [RankedAbove, RankedAbove, isUnrestricted_setPrivileges, if_neg (Ne.symm hplayer)]

theorem ahead_setPrivileges : (t.setPrivileges user p).ahead s =
    t.aheadBesides s user + if p.isUnrestricted then t.bestsAbove s user else 0 := by
  rw [ahead_eq_add _ s user, aheadBesides_setPrivileges, isUnrestricted_setPrivileges, if_pos rfl]
  rfl

/-- Without a score on the leaderboard a player is above nobody there. -/
theorem bestsAbove_eq_zero (h : ∀ id, ∀ o ∈ t.score? id, o.player = user → ¬ o.SharesBoard s) :
    t.bestsAbove s user = 0 := by
  rw [bestsAbove, List.countP_eq_zero]
  rintro ⟨id, o⟩ ho habove
  obtain ⟨hplayer, habove⟩ := of_decide_eq_true habove
  exact h id o (Std.ExtTreeMap.mem_toList_iff_getElem?_eq_some.1 ho) hplayer habove.board

end ScoreStore

/-! ## Placements -/

namespace Repository

open ScoreStore (relaxScore relaxStore)

/-- A score has a placement in both stores, and the second is so much further behind. -/
def Moves (t t' : ScoreStore) (s : Score) (d : ℤ) : Prop :=
  ∃ p q, (ofStore t).placement s = .ok p ∧ (ofStore t').placement s = .ok q ∧
    (q.toNat : ℤ) = p.toNat + d

theorem moves_of_ahead {t t' : ScoreStore} {s : Score} {d : ℤ} (ht : t.scores.size < 2 ^ 32 - 1)
    (ht' : t'.scores.size < 2 ^ 32 - 1) (h : (t'.ahead s : ℤ) = t.ahead s + d) :
    Moves t t' s d := by
  refine ⟨_, _, placement_ofStore ht s, placement_ofStore ht' s, ?_⟩
  rw [toNat_placement ht, toNat_placement ht']
  omega

section

variable {t : ScoreStore} (ht : t.scores.size < 2 ^ 32 - 2) (s r : Score) (user : UserId)
  (p : Privileges)
include ht

theorem moves_insertScore : Moves t (t.insertScore r) s
    ((if (t.insertScore r).RankedAbove s r then 1 else 0) -
      if t.ReplacesAbove s r then 1 else 0) := by
  have hsize := t.size_insertScore_le r
  refine moves_of_ahead (by omega) (by omega) ?_
  have := t.ahead_insertScore s r
  split_ifs at this ⊢ <;> omega

theorem moves_setPrivileges : Moves t (t.setPrivileges user p) s
    ((if p.isUnrestricted then (t.bestsAbove s user : ℤ) else 0) -
      if t.isUnrestricted user then (t.bestsAbove s user : ℤ) else 0) := by
  have hsize : (t.setPrivileges user p).scores.size = t.scores.size := rfl
  refine moves_of_ahead (by omega) (by omega) ?_
  rw [t.ahead_setPrivileges, t.ahead_eq_add s user]
  split_ifs <;> omega

end

/-- A write moves a placement by what it does to those who are ranked above. A record that is
stored adds one if it is ranked above now, and takes one away if the record that it replaces was.
Privileges that make a player unrestricted add the number of his best scores above, those that
restrict him take as many away, and all others leave the placement. Nothing moves on a leaderboard
that neither the record nor the replaced record is on, or no score of the player. -/
theorem placements_move (t : ScoreStore) (ht : t.scores.size < 2 ^ 32 - 2) (s : Score) :
    (∀ r, Moves t (t.insertScore r) s
      ((if (t.insertScore r).RankedAbove s r then 1 else 0) -
        if t.ReplacesAbove s r then 1 else 0)) ∧
    (∀ user p, t.isUnrestricted user = false → p.isUnrestricted = true →
      Moves t (t.setPrivileges user p) s (t.bestsAbove s user)) ∧
    (∀ user p, t.isUnrestricted user = true → p.isUnrestricted = false →
      Moves t (t.setPrivileges user p) s (-t.bestsAbove s user)) ∧
    (∀ user p, t.isUnrestricted user = p.isUnrestricted → Moves t (t.setPrivileges user p) s 0) ∧
    (∀ r, ¬ r.SharesBoard s → (∀ old ∈ t.score? r.id, ¬ old.SharesBoard s) →
      Moves t (t.insertScore r) s 0) ∧
    ∀ user p, (∀ id, ∀ o ∈ t.score? id, o.player = user → ¬ o.SharesBoard s) →
      Moves t (t.setPrivileges user p) s 0 := by
  refine ⟨moves_insertScore ht s, ?_, ?_, ?_, ?_, ?_⟩
  · intro user p hbefore hafter
    simpa [hbefore, hafter] using moves_setPrivileges ht s user p
  · intro user p hbefore hafter
    simpa [hbefore, hafter] using moves_setPrivileges ht s user p
  · intro user p hsame
    simpa [hsame] using moves_setPrivileges ht s user p
  · intro r hnew hold
    have hranked : ¬ (t.insertScore r).RankedAbove s r := fun h => hnew h.1.board
    have hreplaces : ¬ t.ReplacesAbove s r := fun ⟨old, hmem, h⟩ => hold old hmem h.1.board
    simpa [hranked, hreplaces] using moves_insertScore ht s r
  · intro user p hnone
    simpa [t.bestsAbove_eq_zero s user hnone] using moves_setPrivileges ht s user p

/-- Above the last of three scores, a record is improved, which moves nothing, or worsened. The
player of all of them is restricted, and is then unrestricted again. -/
theorem placements_move_relax :
    let restricted := relaxStore.setPrivileges 7 ⟨2⟩
    relaxStore.scores.size < 2 ^ 32 - 2 ∧
    Moves relaxStore (relaxStore.insertScore (relaxScore 2 300)) (relaxScore 3 100) 0 ∧
    Moves relaxStore (relaxStore.insertScore (relaxScore 2 50)) (relaxScore 3 100) (-1) ∧
    Moves relaxStore (relaxStore.insertScore (relaxScore 4 200)) (relaxScore 3 100) 1 ∧
    Moves relaxStore restricted (relaxScore 3 100) (-1) ∧
    Moves restricted (restricted.setPrivileges 7 ⟨1⟩) (relaxScore 3 100) 1 := by
  intro restricted
  have hsize : relaxStore.scores.size < 2 ^ 32 - 2 := by decide +kernel
  have hsize' : restricted.scores.size < 2 ^ 32 - 2 := hsize
  obtain ⟨hrecord, -, hoff, -⟩ := placements_move relaxStore hsize (relaxScore 3 100)
  obtain ⟨-, hon, -⟩ := placements_move restricted hsize' (relaxScore 3 100)
  refine ⟨hsize, ?_, ?_, ?_, ?_, ?_⟩
  · convert hrecord (relaxScore 2 300) using 1
    decide +kernel
  · convert hrecord (relaxScore 2 50) using 1
    decide +kernel
  · convert hrecord (relaxScore 4 200) using 1
    decide +kernel
  · convert hoff 7 ⟨2⟩ rfl rfl using 1
    decide +kernel
  · convert hon 7 ⟨1⟩ rfl rfl using 1
    decide +kernel

end Repository

end Coordination
