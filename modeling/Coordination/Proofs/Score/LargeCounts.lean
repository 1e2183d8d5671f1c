import Coordination.Score.Ranking
import Mathlib.Algebra.Group.Nat.Defs

/-!
# Placements behind large counts

A placement has 32 bits and the count it is computed from has 64. A count that does not fit into
32 bits is placed last, and one is added to any other. The greatest count that fits has no
successor of 32 bits: behind it, and behind no other count, the addition overflows and there is no
placement. All other counts are placed at the lesser of their successor and the last placement
(`placementBehind_eq`).
-/

namespace Coordination.Repository

/-- The greatest count of 32 bits. -/
def greatestCount : UInt64 := 0xFFFFFFFF

theorem eq_greatestCount_iff {c : UInt64} : c = greatestCount ↔ c.toNat = 2 ^ 32 - 1 :=
  UInt64.toNat_inj.symm

theorem placementBehind_eq (c : UInt64) : placementBehind c =
    if c = greatestCount then .error .overflow
    else .ok (UInt32.ofNat (min (c.toNat + 1) (2 ^ 32 - 1))) := by
  have hsize : UInt32.size = 2 ^ 32 := rfl
  rw [placementBehind]
  by_cases hfits : c.toNat < UInt32.size
  · have hcount : c.toUInt32.toNat = c.toNat := by
      rw [UInt64.toNat_toUInt32, Nat.mod_eq_of_lt (hsize ▸ hfits)]
    simp only [if_pos hfits, hcount]
    by_cases hc : c.toNat = 2 ^ 32 - 1
    · rw [if_pos (eq_greatestCount_iff.2 hc), if_neg (by omega)]
    · rw [if_neg (mt eq_greatestCount_iff.1 hc), if_pos (by omega), Nat.min_eq_left (by omega)]
      refine congrArg Except.ok (UInt32.toNat_inj.1 ?_)
      rw [UInt32.toNat_add, hcount, UInt32.toNat_one, UInt32.toNat_ofNat']
  · have hc : c.toNat ≠ 2 ^ 32 - 1 := by omega
    rw [if_neg hfits, if_neg (mt eq_greatestCount_iff.1 hc), Nat.min_eq_right (by omega)]
    rfl

theorem placement_of_countBetter {r : Repository} {s : Score} {c : UInt64}
    (h : r.countBetter s.standing = .ok c) : r.placement s = placementBehind c := by
  rw [placement, h]

theorem placement_eq_ok_iff {r : Repository} {s : Score} {c : UInt64} {p : UInt32}
    (h : r.countBetter s.standing = .ok c) : r.placement s = .ok p ↔
      c ≠ greatestCount ∧ p.toNat = min (c.toNat + 1) (2 ^ 32 - 1) := by
  have hlast : min (c.toNat + 1) (2 ^ 32 - 1) < 2 ^ 32 := by omega
  rw [placement_of_countBetter h, placementBehind_eq]
  by_cases hc : c = greatestCount
  · simp [hc]
  · rw [if_neg hc, Except.ok.injEq, ← UInt32.toNat_inj, UInt32.toNat_ofNat_of_lt' hlast, eq_comm]
    exact (and_iff_right hc).symm

/-- A repository that counts so many scores ahead of every score. -/
def counting (c : UInt64) : Repository where
  countBetter _ := .ok c
  score? _ := .ok none
  beatmapText? _ := .ok none

/-- Behind every count but the greatest of 32 bits, a score is placed. Behind this one count the
addition overflows. Who is placed is placed at the lesser of the count's successor and the last
placement: at least first, and nowhere before where a lesser count would place him. -/
theorem placement_saturates_iff (r : Repository) (s : Score) {c : UInt64}
    (h : r.countBetter s.standing = .ok c) :
    ((∃ p, r.placement s = .ok p) ↔ c ≠ greatestCount) ∧
    (r.placement s = .error .overflow ↔ c = greatestCount) ∧
    ∀ p, r.placement s = .ok p → p.toNat = min (c.toNat + 1) (2 ^ 32 - 1) ∧ 1 ≤ p.toNat ∧
      ∀ (r' : Repository) (c' : UInt64) (p' : UInt32), r'.countBetter s.standing = .ok c' →
        c' ≤ c → r'.placement s = .ok p' → p' ≤ p := by
  refine ⟨?_, ?_, ?_⟩
  · refine ⟨fun ⟨p, hp⟩ => ((placement_eq_ok_iff h).1 hp).1, fun hc => ?_⟩
    exact ⟨_, by rw [placement_of_countBetter h, placementBehind_eq, if_neg hc]⟩
  · rw [placement_of_countBetter h, placementBehind_eq]
    by_cases hc : c = greatestCount <;> simp [hc]
  · intro p hp
    have hplaced := ((placement_eq_ok_iff h).1 hp).2
    refine ⟨hplaced, by omega, fun r' c' p' h' hle hp' => ?_⟩
    have hplaced' := ((placement_eq_ok_iff h').1 hp').2
    have := UInt64.le_iff_toNat_le.1 hle
    rw [UInt32.le_iff_toNat_le]
    omega

/-- The first play of its kind. -/
def onlyScore : Score :=
  ⟨7, "5f2c", 7, .vanillaOsu, 0, 0, 0, 0, 0, ⟨0⟩, .best⟩

/-- Behind a count that does not fit, the score is placed last, and so it is behind the one before
the greatest count that fits. -/
theorem placement_saturates_beyond :
    (counting 0x100000000).countBetter onlyScore.standing = .ok 0x100000000 ∧
    (∃ p, (counting 0x100000000).placement onlyScore = .ok p ∧ p.toNat = 2 ^ 32 - 1) ∧
    ∃ p, (counting 0xFFFFFFFE).placement onlyScore = .ok p ∧ p.toNat = 2 ^ 32 - 1 := by
  refine ⟨rfl, ?_, ?_⟩
  · obtain ⟨hplaced, -, hwhere⟩ := placement_saturates_iff (counting 0x100000000) onlyScore rfl
    obtain ⟨p, hp⟩ := hplaced.2 (by decide)
    exact ⟨p, hp, (hwhere p hp).1⟩
  · obtain ⟨hplaced, -, hwhere⟩ := placement_saturates_iff (counting 0xFFFFFFFE) onlyScore rfl
    obtain ⟨p, hp⟩ := hplaced.2 (by decide)
    exact ⟨p, hp, (hwhere p hp).1⟩

/-- Behind the greatest count of 32 bits the addition overflows, although the last placement would
do for this count too. -/
theorem placement_overflows :
    (counting 0xFFFFFFFF).countBetter onlyScore.standing = .ok 0xFFFFFFFF ∧
    (counting 0xFFFFFFFF).placement onlyScore = .error .overflow ∧
    min ((0xFFFFFFFF : UInt64).toNat + 1) (2 ^ 32 - 1) = (0xFFFFFFFF : UInt32).toNat ∧
    ¬ ∃ p, (counting 0xFFFFFFFF).placement onlyScore = .ok p :=
  ⟨rfl, rfl, rfl, fun ⟨_, hp⟩ => by cases hp⟩

end Coordination.Repository
