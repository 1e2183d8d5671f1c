import Coordination.Proofs.Score.Rows

/-!
# Which rows are scores

All types of columns hold more values than a score can have, so five columns are judged one after
the other, and reading a row fails because of the first of them with a value that no score can have
(`Judges`, `judges_ofRow`). Rows that pass are the rows of the scores whose counts fit into signed
columns, each of a score of its own (`reads_rows_of_scores`).
-/

namespace Coordination

/-! ## Columns that are judged -/

namespace ScoreRow

/-- The columns whose values are judged, since not all values of their types are values of a
score. -/
inductive Column where
  | mode
  | status
  | score
  | maxCombo
  | misses
deriving DecidableEq, Repr

namespace Column

/-- In the order in which they are judged. -/
def all : List Column := [mode, status, score, maxCombo, misses]

def name : Column → String
  | mode => "mode"
  | status => "status"
  | score => "score"
  | maxCombo => "max_combo"
  | misses => "nmiss"

/-- The values that a score can have. -/
def Admits : Column → Int → Prop
  | mode, n => (0 ≤ n ∧ n ≤ 6) ∨ n = 8
  | status, n => 0 ≤ n ∧ n ≤ 2
  | score, n | maxCombo, n | misses, n => 0 ≤ n

instance : (c : Column) → (n : Int) → Decidable (c.Admits n)
  | mode, n => inferInstanceAs (Decidable ((0 ≤ n ∧ n ≤ 6) ∨ n = 8))
  | status, n => inferInstanceAs (Decidable (0 ≤ n ∧ n ≤ 2))
  | score, n | maxCombo, n | misses, n => inferInstanceAs (Decidable (0 ≤ n))

/-- What is said of a value before the column is named. A byte is no such mode or status; what is
no byte is not looked up. -/
def lead : Column → Int → String
  | mode, n => if 0 ≤ n ∧ n ≤ 255 then "unknown game " else ""
  | status, n => if 0 ≤ n ∧ n ≤ 255 then "unknown submission " else ""
  | score, _ | maxCombo, _ | misses, _ => ""

/-- What is said of a value: it ends in the column's name and the value. -/
def complaint (c : Column) (n : Int) : String := c.lead n ++ c.name ++ " " ++ toString n

end Column

variable (row : ScoreRow)

def value : Column → Int
  | .mode => row.mode.toInt
  | .status => row.status.toInt
  | .score => row.score.toInt
  | .maxCombo => row.maxCombo.toInt
  | .misses => row.misses.toInt

/-- The first of the columns with a value that no score can have. -/
def offending? (cs : List Column) : Option Column :=
  cs.find? fun c => !decide (c.Admits (row.value c))

theorem offending?_cons (c : Column) (cs : List Column) : row.offending? (c :: cs) =
    if c.Admits (row.value c) then row.offending? cs else some c := by
  rw [offending?, List.find?_cons]
  by_cases h : c.Admits (row.value c)
  · rw [if_pos h, decide_eq_true h]
    rfl
  · rw [if_neg h, decide_eq_false h]
    rfl

/-- All values are such as a score can have. -/
def IsScore : Prop := ∀ c : Column, c.Admits (row.value c)

theorem offending?_eq_none_iff : row.offending? Column.all = none ↔ row.IsScore := by
  simp only [offending?, List.find?_eq_none, Bool.not_eq_true', Bool.not_eq_false,
    decide_eq_true_eq]
  exact ⟨fun h c => h c (by cases c <;> decide), fun h c _ => h c⟩

/-- The columns judge a computation: it succeeds if they all have values that a score can have,
and else it fails because of the first that has not. -/
def Judges (cs : List Column) {α : Type} (x : Except StoreError α) : Prop :=
  match row.offending? cs with
  | none => ∃ a, x = .ok a
  | some c => x = .error (.corrupt (c.complaint (row.value c)))

section

variable {row} {α β : Type} {x : Except StoreError α} {f : α → Except StoreError β}
  {c : Column} {cs : List Column}

theorem judges_nil (a : α) : row.Judges [] (.ok a : Except StoreError α) := ⟨a, rfl⟩

theorem judges_cons_of_admits (h : c.Admits (row.value c)) (hx : row.Judges cs x) :
    row.Judges (c :: cs) x := by
  rwa [Judges, offending?_cons, if_pos h]

theorem judges_cons_of_not_admits (h : ¬ c.Admits (row.value c))
    (hx : x = .error (.corrupt (c.complaint (row.value c)))) : row.Judges (c :: cs) x := by
  rwa [Judges, offending?_cons, if_neg h]

/-- What is read without being judged. -/
theorem Judges.bind_read {a : α} (hx : x = .ok a) (hf : row.Judges cs (f a)) :
    row.Judges cs (x >>= f) := by
  rw [hx]
  exact hf

/-- A check of one column comes before the checks of the others. -/
theorem Judges.bind_check (hx : row.Judges [c] x) (hf : ∀ a, row.Judges cs (f a)) :
    row.Judges (c :: cs) (x >>= f) := by
  rw [Judges, offending?_cons] at hx
  by_cases h : c.Admits (row.value c)
  · rw [if_pos h] at hx
    obtain ⟨a, rfl⟩ := hx
    exact judges_cons_of_admits h (hf a)
  · rw [if_neg h] at hx
    refine judges_cons_of_not_admits h ?_
    rw [hx]
    rfl

end

end ScoreRow

/-! ## What is no byte, no mode or no status -/

theorem GameMode.isSome_ofNat? {k : Nat} : (GameMode.ofNat? k).isSome = true ↔ k ≤ 6 ∨ k = 8 := by
  simp only [ofNat?, all, List.find?_isSome, List.mem_cons, List.not_mem_nil, or_false,
    exists_eq_or_imp, exists_eq_left, toNat, beq_iff_eq]
  omega

theorem SubmissionStatus.isSome_ofNat? {k : Nat} :
    (SubmissionStatus.ofNat? k).isSome = true ↔ k ≤ 2 := by
  simp only [ofNat?, all, List.find?_isSome, List.mem_cons, List.not_mem_nil, or_false,
    exists_eq_or_imp, exists_eq_left, toNat, beq_iff_eq]
  omega

theorem GameMode.ofColumn_eq (n : Int16) : GameMode.ofColumn n =
    if n < 0 ∨ 255 < n then .error (.corrupt ("mode " ++ toString n.toInt))
    else (GameMode.ofNat? n.toInt.toNat).elim
      (.error (.corrupt ("unknown game mode " ++ toString n.toInt.toNat))) .ok := by
  unfold GameMode.ofColumn
  cases GameMode.ofNat? n.toInt.toNat <;> rfl

theorem SubmissionStatus.ofColumn_eq (n : Int16) : SubmissionStatus.ofColumn n =
    if n < 0 ∨ 255 < n then .error (.corrupt ("status " ++ toString n.toInt))
    else (SubmissionStatus.ofNat? n.toInt.toNat).elim
      (.error (.corrupt ("unknown submission status " ++ toString n.toInt.toNat))) .ok := by
  unfold SubmissionStatus.ofColumn
  cases SubmissionStatus.ofNat? n.toInt.toNat <;> rfl

/-- Numbers that a byte can hold. -/
theorem isByte_iff {n : Int16} : ¬ (n < 0 ∨ 255 < n) ↔ 0 ≤ n.toInt ∧ n.toInt ≤ 255 := by
  rw [Int16.lt_iff_toInt_lt, Int16.lt_iff_toInt_lt]
  have h0 : (0 : Int16).toInt = 0 := rfl
  have h255 : (255 : Int16).toInt = 255 := rfl
  omega

namespace ScoreRow

variable {row : ScoreRow}

/-- A column of codes judges the code: a byte that stands for something. -/
theorem judges_code {α : Type} {c : Column} {n : Int16} {found : Option α}
    {foreign unknown : String} (hvalue : row.value c = n.toInt)
    (hadmits : c.Admits n.toInt ↔ (0 ≤ n.toInt ∧ n.toInt ≤ 255) ∧ found.isSome = true)
    (hforeign : ¬ (0 ≤ n.toInt ∧ n.toInt ≤ 255) → c.lead n.toInt ++ c.name ++ " " = foreign)
    (hunknown : 0 ≤ n.toInt ∧ n.toInt ≤ 255 → c.lead n.toInt ++ c.name ++ " " = unknown) :
    row.Judges [c] (if n < 0 ∨ 255 < n then .error (.corrupt (foreign ++ toString n.toInt))
      else found.elim (.error (.corrupt (unknown ++ toString n.toInt.toNat))) .ok) := by
  by_cases hbyte : 0 ≤ n.toInt ∧ n.toInt ≤ 255
  · have hnumeral : toString n.toInt.toNat = toString n.toInt :=
      congrArg (toString : Int → String) (Int.toNat_of_nonneg hbyte.1)
    rw [if_neg (isByte_iff.2 hbyte), ← hunknown hbyte, hnumeral]
    cases found with
    | none =>
      refine judges_cons_of_not_admits ?_ ?_
      · rw [hvalue, hadmits]
        exact fun h => Bool.false_ne_true h.2
      · rw [hvalue]
        rfl
    | some a =>
      refine judges_cons_of_admits ?_ (judges_nil a)
      rw [hvalue, hadmits]
      exact ⟨hbyte, rfl⟩
  · rw [if_pos (Decidable.of_not_not (mt isByte_iff.1 hbyte)), ← hforeign hbyte]
    refine judges_cons_of_not_admits ?_ ?_
    · rw [hvalue, hadmits]
      exact fun h => hbyte h.1
    · rw [hvalue]
      rfl

theorem judges_mode : row.Judges [.mode] (GameMode.ofColumn row.mode) := by
  rw [GameMode.ofColumn_eq]
  refine judges_code rfl ?_ ?_ ?_
  · rw [GameMode.isSome_ofNat?]
    simp only [Column.Admits]
    omega
  · intro h
    simp only [Column.lead, if_neg h]
    rfl
  · intro h
    simp only [Column.lead, if_pos h]
    rfl

theorem judges_status : row.Judges [.status] (SubmissionStatus.ofColumn row.status) := by
  rw [SubmissionStatus.ofColumn_eq]
  refine judges_code rfl ?_ ?_ ?_
  · rw [SubmissionStatus.isSome_ofNat?]
    simp only [Column.Admits]
    omega
  · intro h
    simp only [Column.lead, if_neg h]
    rfl
  · intro h
    simp only [Column.lead, if_pos h]
    rfl

/-- A column of counts judges the sign. -/
theorem judges_count {c : Column} (hadmits : c.Admits (row.value c) ↔ 0 ≤ row.value c)
    (hlead : c.lead (row.value c) = "") :
    row.Judges [c] (nonNegative c.name (row.value c)) := by
  unfold nonNegative
  by_cases h : row.value c < 0
  · rw [if_pos h]
    refine judges_cons_of_not_admits ?_ ?_
    · rw [hadmits]
      omega
    · rw [Column.complaint, hlead, String.empty_append]
      rfl
  · rw [if_neg h]
    exact judges_cons_of_admits (hadmits.2 (by omega)) (judges_nil _)

/-! ## Rows -/

theorem judges_ofRow {r : SqlRow} (h : r.Shows row) : row.Judges Column.all (Score.ofRow r) := by
  simp only [SqlRow.Shows, ScoreRow.columns, List.forall_mem_cons] at h
  obtain ⟨hid, hbeatmap, hplayer, hmode, hscore, hpp, haccuracy, hcombo, hmisses, hmods, hstatus,
    -⟩ := h
  refine .bind_read (SqlRow.int2_eq_ok_iff.2 hmode) ?_
  refine .bind_read (SqlRow.int2_eq_ok_iff.2 hstatus) ?_
  refine .bind_read (SqlRow.int8_eq_ok_iff.2 hscore) ?_
  refine .bind_read (SqlRow.int4_eq_ok_iff.2 hcombo) ?_
  refine .bind_read (SqlRow.int4_eq_ok_iff.2 hmisses) ?_
  refine .bind_read (SqlRow.int4_eq_ok_iff.2 hmods) ?_
  refine .bind_check judges_mode fun mode => ?_
  refine .bind_check judges_status fun status => ?_
  refine .bind_read (SqlRow.int8_eq_ok_iff.2 hid) ?_
  refine .bind_read (SqlRow.text_eq_ok_iff.2 hbeatmap) ?_
  refine .bind_read (SqlRow.int8_eq_ok_iff.2 hplayer) ?_
  refine .bind_check (judges_count (c := .score) Iff.rfl rfl) fun score => ?_
  refine .bind_read (SqlRow.float8_eq_ok_iff.2 hpp) ?_
  refine .bind_read (SqlRow.float8_eq_ok_iff.2 haccuracy) ?_
  refine .bind_check (judges_count (c := .maxCombo) Iff.rfl rfl) fun maxCombo => ?_
  refine .bind_check (judges_count (c := .misses) Iff.rfl rfl) fun misses => ?_
  exact judges_nil _

theorem exists_ofRow_iff {r : SqlRow} (h : r.Shows row) :
    (∃ s, Score.ofRow r = .ok s) ↔ row.IsScore := by
  have hjudged := judges_ofRow h
  rw [← offending?_eq_none_iff]
  unfold Judges at hjudged
  cases hfirst : row.offending? Column.all with
  | none =>
    rw [hfirst] at hjudged
    exact iff_of_true hjudged rfl
  | some c =>
    rw [hfirst] at hjudged
    refine iff_of_false ?_ (by simp)
    rintro ⟨s, hs⟩
    rw [hs] at hjudged
    cases hjudged

theorem ofRow_eq_error_iff {r : SqlRow} (h : r.Shows row) {e : StoreError} :
    Score.ofRow r = .error e ↔ ∃ c, row.offending? Column.all = some c ∧
      e = .corrupt (c.complaint (row.value c)) := by
  have hjudged := judges_ofRow h
  unfold Judges at hjudged
  cases hfirst : row.offending? Column.all with
  | none =>
    rw [hfirst] at hjudged
    obtain ⟨s, hs⟩ := hjudged
    simp [hs]
  | some c =>
    rw [hfirst] at hjudged
    rw [hjudged]
    simp [eq_comm]

end ScoreRow

theorem GameMode.ofColumn_ofNat_toNat (mode : GameMode) :
    GameMode.ofColumn (Int16.ofNat mode.toNat) = .ok mode := by
  cases mode <;> rfl

theorem SubmissionStatus.ofColumn_ofNat_toNat (status : SubmissionStatus) :
    SubmissionStatus.ofColumn (Int16.ofNat status.toNat) = .ok status := by
  cases status <;> rfl

namespace Score

/-- The row of a score loses nothing, not even of a count that does not fit. -/
theorem toRow_injective {a b : Score} (h : a.toRow = b.toRow) : a = b := by
  obtain ⟨aid, abeatmap, aplayer, amode, ascore, app, aaccuracy, acombo, amisses, ⟨amods⟩,
    astatus⟩ := a
  obtain ⟨bid, bbeatmap, bplayer, bmode, bscore, bpp, baccuracy, bcombo, bmisses, ⟨bmods⟩,
    bstatus⟩ := b
  simp only [toRow, ScoreRow.mk.injEq] at h
  obtain ⟨rfl, rfl, rfl, hmode, hscore, rfl, rfl, hcombo, hmisses, hmods, hstatus⟩ := h
  have hmode := congrArg GameMode.ofColumn hmode
  have hstatus := congrArg SubmissionStatus.ofColumn hstatus
  rw [GameMode.ofColumn_ofNat_toNat, GameMode.ofColumn_ofNat_toNat] at hmode
  rw [SubmissionStatus.ofColumn_ofNat_toNat, SubmissionStatus.ofColumn_ofNat_toNat] at hstatus
  have hscore := congrArg Int64.toUInt64 hscore
  have hcombo := congrArg Int32.toUInt32 hcombo
  have hmisses := congrArg Int32.toUInt32 hmisses
  have hmods := congrArg Int32.toUInt32 hmods
  simp only [UInt64.toUInt64_toInt64] at hscore
  simp only [UInt32.toUInt32_toInt32] at hcombo hmisses hmods
  rw [Except.ok.inj hmode, Except.ok.inj hstatus, hscore, hcombo, hmisses, hmods]

theorem isScore_toRow {s : Score} (h : s.Fits) : s.toRow.IsScore := by
  intro c
  cases c with
  | mode =>
    show ScoreRow.Column.mode.Admits (Int16.ofNat s.mode.toNat).toInt
    cases s.mode <;> decide
  | status =>
    show ScoreRow.Column.status.Admits (Int16.ofNat s.status.toNat).toInt
    cases s.status <;> decide
  | score =>
    show 0 ≤ s.score.toInt64.toInt
    rw [toInt_toInt64 h.score]
    omega
  | maxCombo =>
    show 0 ≤ s.maxCombo.toInt32.toInt
    rw [toInt_toInt32 h.maxCombo]
    omega
  | misses =>
    show 0 ≤ s.misses.toInt32.toInt
    rw [toInt_toInt32 h.misses]
    omega

end Score

/-! ## What rows are scores -/

/-- A row of scores with all its columns, in any order and among others, is read as a score exactly
if every column has a value that a score can have. The row is then the row of the score, so that
rows with different columns are different scores, and a score whose counts fit is read from its
row. Otherwise the row is corrupt, which is said of the first column with another value. -/
theorem reads_rows_of_scores {r : SqlRow} {row : ScoreRow} (h : r.Shows row) :
    ((∃ s, Score.ofRow r = .ok s) ↔ row.IsScore) ∧
    (∀ s, Score.ofRow r = .ok s → s.toRow = row) ∧
    (∀ (r' : SqlRow) (row' : ScoreRow) (s : Score), r'.Shows row' → Score.ofRow r = .ok s →
      Score.ofRow r' = .ok s → row = row') ∧
    (∀ s, s.Fits → s.toRow = row → Score.ofRow r = .ok s) ∧
    ∀ e, Score.ofRow r = .error e ↔ ∃ c, row.offending? ScoreRow.Column.all = some c ∧
      e = .corrupt (c.complaint (row.value c)) := by
  have himage {r : SqlRow} {row : ScoreRow} {s : Score} (h : r.Shows row)
      (hs : Score.ofRow r = .ok s) : s.toRow = row :=
    (Score.shows_of_ofRow hs).1.unique h
  refine ⟨ScoreRow.exists_ofRow_iff h, fun s hs => himage h hs, ?_, ?_,
    fun e => ScoreRow.ofRow_eq_error_iff h⟩
  · intro r' row' s h' hs hs'
    exact (himage h hs).symm.trans (himage h' hs')
  · rintro s hfits rfl
    obtain ⟨s', hs'⟩ := (ScoreRow.exists_ofRow_iff h).2 (Score.isScore_toRow hfits)
    obtain rfl := Score.toRow_injective (himage h hs')
    exact hs'

/-- The greatest counts and all mods, in columns from the last to the first and behind another one.
With three values that no score has, the first of them is named. -/
theorem reads_rows_of_scores_reversed :
    let row : ScoreRow :=
      ⟨1, "5f2c", 7, 8, Int64.maxValue, 250.5, 99.5, Int32.maxValue, 0, -1, 2⟩
    let faulty : ScoreRow := { row with mode := 7, status := 300, misses := -1 }
    let sent (row : ScoreRow) : SqlRow := ("country", .null) :: row.columns.reverse
    (sent row).Shows row ∧ (∃ s, Score.ofRow (sent row) = .ok s ∧ s.toRow = row) ∧
    (sent faulty).Shows faulty ∧
      Score.ofRow (sent faulty) = .error (.corrupt "unknown game mode 7") := by
  intro row faulty sent
  have hshows (row : ScoreRow) : (sent row).Shows row := by
    simp only [SqlRow.Shows, ScoreRow.columns, List.forall_mem_cons]
    exact ⟨rfl, rfl, rfl, rfl, rfl, rfl, rfl, rfl, rfl, rfl, rfl, List.forall_mem_nil _⟩
  have hrow : row.IsScore := by
    intro c
    cases c <;> decide
  obtain ⟨hreads, himage, -⟩ := reads_rows_of_scores (hshows row)
  obtain ⟨s, hs⟩ := hreads.2 hrow
  obtain ⟨-, -, -, -, hfaulty⟩ := reads_rows_of_scores (hshows faulty)
  refine ⟨hshows row, ⟨s, hs, himage s hs⟩, hshows faulty, (hfaulty _).2 ⟨.mode, rfl, ?_⟩⟩
  decide +kernel

end Coordination
