import Mathlib.Algebra.Group.Nat.Defs
import Coordination.Score.Row

/-!
# Rows that are scores

A row that is read as a score shows the row of that score, column by column, and the score's counts
fit into signed columns (`shows_of_ofRow`). Whatever is asked of the row's columns can hence be
asked of the score.
-/

namespace Coordination

/-- What succeeds has succeeded in its first part. -/
theorem exists_of_bind_eq_ok {ε α β : Type} {x : Except ε α} {f : α → Except ε β} {b : β}
    (h : (x >>= f) = .ok b) : ∃ a, x = .ok a ∧ f a = .ok b := by
  cases x with
  | error e => cases h
  | ok a => exact ⟨a, rfl, h⟩

/-! ## Columns -/

namespace SqlRow

/-- The columns of a row of scores are among those of `r`. -/
def Shows (r : SqlRow) (row : ScoreRow) : Prop :=
  ∀ c ∈ row.columns, r.lookup c.1 = some c.2

variable {r : SqlRow} {column : String}

theorem int2_eq_ok_iff {n : Int16} :
    r.int2 column = .ok n ↔ r.lookup column = some (.int2 n) := by
  unfold int2
  split <;> simp_all

theorem int4_eq_ok_iff {n : Int32} :
    r.int4 column = .ok n ↔ r.lookup column = some (.int4 n) := by
  unfold int4
  split <;> simp_all

theorem int8_eq_ok_iff {n : Int64} :
    r.int8 column = .ok n ↔ r.lookup column = some (.int8 n) := by
  unfold int8
  split <;> simp_all

theorem float8_eq_ok_iff {x : Float} :
    r.float8 column = .ok x ↔ r.lookup column = some (.float8 x) := by
  unfold float8
  split <;> simp_all

theorem text_eq_ok_iff {s : String} :
    r.text column = .ok s ↔ r.lookup column = some (.text s) := by
  unfold text
  split <;> simp_all

/-- A row shows the columns of one row of scores only. -/
theorem Shows.unique {row other : ScoreRow} (h : r.Shows row) (h' : r.Shows other) :
    row = other := by
  simp only [Shows, ScoreRow.columns, List.forall_mem_cons] at h h'
  cases row
  cases other
  simp_all

end SqlRow

/-! ## Values -/

/-- A number in the range of a byte is not changed on the way. -/
theorem ofNat_toNat_toInt {n : Int16} (h : ¬ (n < 0 ∨ 255 < n)) :
    Int16.ofNat n.toInt.toNat = n := by
  have hsign : 0 ≤ n.toInt := by
    have := fun hlt => h (.inl (Int16.lt_iff_toInt_lt.2 hlt))
    simpa using this
  rw [← Int16.ofInt_eq_ofNat, Int.toNat_of_nonneg hsign, Int16.ofInt_toInt]

theorem GameMode.ofNat_toNat_of_ofColumn {n : Int16} {mode : GameMode}
    (h : GameMode.ofColumn n = .ok mode) : Int16.ofNat mode.toNat = n := by
  unfold ofColumn at h
  split at h
  · cases h
  · rename_i hrange
    split at h
    · rename_i found hfound
      obtain rfl := Except.ok.inj h
      rw [toNat_of_ofNat? hfound, ofNat_toNat_toInt hrange]
    · cases h

theorem SubmissionStatus.ofNat_toNat_of_ofColumn {n : Int16} {status : SubmissionStatus}
    (h : SubmissionStatus.ofColumn n = .ok status) : Int16.ofNat status.toNat = n := by
  unfold ofColumn at h
  split at h
  · cases h
  · rename_i hrange
    split at h
    · rename_i found hfound
      obtain rfl := Except.ok.inj h
      rw [toNat_of_ofNat? hfound, ofNat_toNat_toInt hrange]
    · cases h

theorem natCast_of_nonNegative {column : String} {n : Int} {k : Nat}
    (h : nonNegative column n = .ok k) : (k : Int) = n := by
  unfold nonNegative at h
  split at h
  · cases h
  · obtain rfl := Except.ok.inj h
    omega

theorem toInt64_toUInt64_of_natCast {n : Int64} {k : Nat} (h : (k : Int) = n.toInt) :
    k.toUInt64.toInt64 = n ∧ k.toUInt64.toNat < 2 ^ 63 := by
  have hlt : k < 2 ^ 63 := by
    have := n.toInt_lt
    omega
  refine ⟨?_, ?_⟩
  · show Int64.ofNat k = n
    rw [← Int64.ofInt_eq_ofNat, h, Int64.ofInt_toInt]
  · rwa [Nat.toUInt64_eq, UInt64.toNat_ofNat_of_lt' (Nat.lt_trans hlt (by decide))]

theorem toInt32_toUInt32_of_natCast {n : Int32} {k : Nat} (h : (k : Int) = n.toInt) :
    k.toUInt32.toInt32 = n ∧ k.toUInt32.toNat < 2 ^ 31 := by
  have hlt : k < 2 ^ 31 := by
    have := n.toInt_lt
    omega
  refine ⟨?_, ?_⟩
  · show Int32.ofNat k = n
    rw [← Int32.ofInt_eq_ofNat, h, Int32.ofInt_toInt]
  · rwa [Nat.toUInt32_eq, UInt32.toNat_ofNat_of_lt' (Nat.lt_trans hlt (by decide))]

theorem toInt_toInt64 {n : UInt64} (h : n.toNat < 2 ^ 63) : n.toInt64.toInt = n.toNat := by
  rw [← UInt64.ofNat_toNat (x := n), UInt64.toInt64_ofNat', UInt64.ofNat_toNat,
    Int64.toInt_ofNat_of_lt h]

theorem toInt_toInt32 {n : UInt32} (h : n.toNat < 2 ^ 31) : n.toInt32.toInt = n.toNat := by
  rw [← UInt32.ofNat_toNat (x := n), UInt32.toInt32_ofNat', UInt32.ofNat_toNat,
    Int32.toInt_ofNat_of_lt h]

/-! ## Scores -/

namespace Score

/-- The counts are not above the largest values of their columns. -/
structure Fits (s : Score) : Prop where
  score : s.score.toNat < 2 ^ 63
  maxCombo : s.maxCombo.toNat < 2 ^ 31
  misses : s.misses.toNat < 2 ^ 31

/-- A row that is read as a score is the row of this score. -/
theorem shows_of_ofRow {r : SqlRow} {s : Score} (h : Score.ofRow r = .ok s) :
    r.Shows s.toRow ∧ s.Fits := by
  obtain ⟨mode, hmode, h⟩ := exists_of_bind_eq_ok h
  obtain ⟨status, hstatus, h⟩ := exists_of_bind_eq_ok h
  obtain ⟨score, hscore, h⟩ := exists_of_bind_eq_ok h
  obtain ⟨maxCombo, hmaxCombo, h⟩ := exists_of_bind_eq_ok h
  obtain ⟨misses, hmisses, h⟩ := exists_of_bind_eq_ok h
  obtain ⟨mods, hmods, h⟩ := exists_of_bind_eq_ok h
  obtain ⟨mode', hmode', h⟩ := exists_of_bind_eq_ok h
  obtain ⟨status', hstatus', h⟩ := exists_of_bind_eq_ok h
  obtain ⟨id, hid, h⟩ := exists_of_bind_eq_ok h
  obtain ⟨beatmap, hbeatmap, h⟩ := exists_of_bind_eq_ok h
  obtain ⟨player, hplayer, h⟩ := exists_of_bind_eq_ok h
  obtain ⟨score', hscore', h⟩ := exists_of_bind_eq_ok h
  obtain ⟨pp, hpp, h⟩ := exists_of_bind_eq_ok h
  obtain ⟨accuracy, haccuracy, h⟩ := exists_of_bind_eq_ok h
  obtain ⟨maxCombo', hmaxCombo', h⟩ := exists_of_bind_eq_ok h
  obtain ⟨misses', hmisses', h⟩ := exists_of_bind_eq_ok h
  obtain rfl := Except.ok.inj h
  obtain ⟨escore, hscorefits⟩ := toInt64_toUInt64_of_natCast (natCast_of_nonNegative hscore')
  obtain ⟨ecombo, hcombofits⟩ := toInt32_toUInt32_of_natCast (natCast_of_nonNegative hmaxCombo')
  obtain ⟨emisses, hmissesfit⟩ := toInt32_toUInt32_of_natCast (natCast_of_nonNegative hmisses')
  refine ⟨?_, hscorefits, hcombofits, hmissesfit⟩
  have emode := GameMode.ofNat_toNat_of_ofColumn hmode'
  have estatus := SubmissionStatus.ofNat_toNat_of_ofColumn hstatus'
  simp only [SqlRow.Shows, ScoreRow.columns, toRow, List.forall_mem_cons, emode, estatus, escore,
    ecombo, emisses, Int32.toInt32_toUInt32]
  exact ⟨SqlRow.int8_eq_ok_iff.1 hid, SqlRow.text_eq_ok_iff.1 hbeatmap,
    SqlRow.int8_eq_ok_iff.1 hplayer, SqlRow.int2_eq_ok_iff.1 hmode,
    SqlRow.int8_eq_ok_iff.1 hscore, SqlRow.float8_eq_ok_iff.1 hpp,
    SqlRow.float8_eq_ok_iff.1 haccuracy, SqlRow.int4_eq_ok_iff.1 hmaxCombo,
    SqlRow.int4_eq_ok_iff.1 hmisses, SqlRow.int4_eq_ok_iff.1 hmods,
    SqlRow.int2_eq_ok_iff.1 hstatus, List.forall_mem_nil _⟩

end Score

end Coordination
