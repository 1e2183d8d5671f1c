import Coordination.Performance.Codec
import Coordination.Proofs.Json.Record
import Coordination.Score.Codec

/-!
# Scores and results survive their texts

Reading is far more liberal than writing: members may come in any order and among unknown ones,
records may be arrays, integers stand for doubles, and any character may be escaped. Still, what
is written for a value is read as this value, and so is what is written for a value that was read
from any text, as far as the doubles in it read back (`records_round_trip`). Nothing else in a
value is at stake: its strings, its numbers of 64 bits and what its codes name are read back as
they are, and no text is read as a double that is not finite.
-/

namespace Coordination

deriving instance DecidableEq for Score
deriving instance DecidableEq for ScoreResult

namespace Json

/-- Each of the doubles that is finite is found again in its shortest text. -/
def ReadBack (doubles : List Float) : Prop :=
  ∀ x ∈ doubles, x.isFinite = true → readsBack x = true

section

variable {α : Type} (decode : String → Except Fault α) (encode : α → String)
  (doubles : α → List Float)

/-- Reads a text and writes what was read. -/
def recode (text : String) : Except Fault String := (decode text).map encode

/-- How the values of a type and their texts correspond, given that doubles read back. -/
structure RoundTrip : Prop where
  /-- A value with finite doubles is read back from its text. -/
  decode_encode : ∀ a, (∀ x ∈ doubles a, x.isFinite = true) → ReadBack (doubles a) →
    decode (encode a) = .ok a
  /-- So is every value that is read from a text, be it its own or another. -/
  decode_encode_of_decode : ∀ text a, decode text = .ok a → ReadBack (doubles a) →
    decode (encode a) = .ok a
  /-- Thus texts change once at most when they are read and written again and again. -/
  recode_encode_of_decode : ∀ text a, decode text = .ok a → ReadBack (doubles a) →
    recode decode encode text = .ok (encode a) ∧
      recode decode encode (encode a) = .ok (encode a)
  /-- Doubles that are read are finite. -/
  isFinite_of_decode : ∀ text a, decode text = .ok a → ∀ x ∈ doubles a, x.isFinite = true

variable {decode encode doubles}

theorem roundTrip_of
    (hencode : ∀ a, (∀ x ∈ doubles a, readsBack x = true) → decode (encode a) = .ok a)
    (hdecode : ∀ text a, decode text = .ok a → ∀ x ∈ doubles a, x.isFinite = true) :
    RoundTrip decode encode doubles := by
  have hfinite : ∀ a, (∀ x ∈ doubles a, x.isFinite = true) → ReadBack (doubles a) →
      decode (encode a) = .ok a :=
    fun a hfinite hback => hencode a fun x hx => hback x hx (hfinite x hx)
  have hagain : ∀ text a, decode text = .ok a → ReadBack (doubles a) →
      decode (encode a) = .ok a :=
    fun text a h => hfinite a (hdecode text a h)
  refine ⟨hfinite, hagain, ?_, hdecode⟩
  intro text a h hback
  rw [recode, recode, h, hagain text a h hback]
  exact ⟨rfl, rfl⟩

end

theorem isFinite_of_readOptional {cs r : List Char} {o : Option Float}
    (h : readOptional readF64 cs = .ok (o, r)) : ∀ x ∈ o.toList, x.isFinite = true := by
  unfold readOptional at h
  split at h
  · obtain ⟨_, -, heq⟩ := exists_of_map_eq_ok h
    cases heq
    exact List.forall_mem_nil _
  · obtain ⟨⟨y, _⟩, hread, heq⟩ := exists_of_map_eq_ok h
    cases heq
    exact List.forall_mem_singleton.2 (isFinite_of_readF64 hread)

end Json

open Json

/-! ## Scores -/

/-- The doubles of a draft are finite, as far as it has them. -/
def ScoreDraft.FiniteSoFar (d : ScoreDraft) : Prop :=
  (∀ x ∈ d.pp.toList, x.isFinite = true) ∧ ∀ x ∈ d.accuracy.toList, x.isFinite = true

namespace Score

def doubles (s : Score) : List Float := [s.pp, s.accuracy]

/-- The draft that is full with a score. -/
def draft (s : Score) : ScoreDraft where
  id := some s.id
  beatmap := some s.beatmap
  player := some s.player
  mode := some s.mode
  score := some s.score
  pp := some s.pp
  accuracy := some s.accuracy
  maxCombo := some s.maxCombo
  misses := some s.misses
  mods := some s.mods
  status := some s.status

theorem decode_encode {s : Score} (h : ∀ x ∈ s.doubles, readsBack x = true) :
    decode s.encode = .ok s := by
  have hpp : readsBack s.pp = true := h s.pp List.mem_cons_self
  have haccuracy : readsBack s.accuracy = true := h s.accuracy (by simp [doubles])
  have hmode : s.mode.toNat ≤ 255 := by cases s.mode <;> decide
  have hstatus : s.status.toNat ≤ 255 := by cases s.status <;> decide
  refine decode_of_reads (reads_writeObject (by decide) (d := s.draft) ?_ rfl)
  exact .cons rfl (reads_field (reads_i64 s.id)) <|
    .cons rfl (reads_field (reads_text s.beatmap)) <|
    .cons rfl (reads_field (reads_i64 s.player)) <|
    .cons rfl (reads_field (reads_code hmode s.mode.ofNat?_toNat)) <|
    .cons rfl (reads_field (reads_u64 s.score)) <|
    .cons rfl (reads_field (reads_f64 hpp)) <|
    .cons rfl (reads_field (reads_f64 haccuracy)) <|
    .cons rfl (reads_field (reads_u32 s.maxCombo)) <|
    .cons rfl (reads_field (reads_u32 s.misses)) <|
    .cons rfl (reads_field (reads_u32 s.mods.bits)) <|
    .cons rfl (reads_field (reads_code hstatus s.status.ofNat?_toNat)) <|
    .nil _

theorem eq_draft_of_build {d : ScoreDraft} {s : Score} (h : d.build = some s) : d = s.draft := by
  simp only [ScoreDraft.build, Option.bind_eq_bind, Option.pure_def, Option.bind_eq_some_iff,
    Option.some_inj] at h
  obtain ⟨_, hid, _, hbeatmap, _, hplayer, _, hmode, _, hscore, _, hpp, _, haccuracy, _, hcombo,
    _, hmisses, _, hmods, _, hstatus, rfl⟩ := h
  simp only [draft, ← hid, ← hbeatmap, ← hplayer, ← hmode, ← hscore, ← hpp, ← haccuracy, ← hcombo,
    ← hmisses, ← hmods, ← hstatus]

theorem keeps_finiteSoFar : ∀ f ∈ schema.fields, f.Keeps ScoreDraft.FiniteSoFar := by
  simp only [schema, ScoreDraft.fields, List.forall_mem_cons]
  refine ⟨.of_set fun _ _ hd => hd, .of_set fun _ _ hd => hd, .of_set fun _ _ hd => hd,
    .of_set fun _ _ hd => hd, .of_set fun _ _ hd => hd, .of ?_, .of ?_, .of_set fun _ _ hd => hd,
    .of_set fun _ _ hd => hd, .of_set fun _ _ hd => hd, .of_set fun _ _ hd => hd, nofun⟩
  · exact fun _ _ _ hread _ hd =>
      ⟨List.forall_mem_singleton.2 (isFinite_of_readF64 hread), hd.2⟩
  · exact fun _ _ _ hread _ hd =>
      ⟨hd.1, List.forall_mem_singleton.2 (isFinite_of_readF64 hread)⟩

theorem isFinite_of_decode {text : String} {s : Score} (h : decode text = .ok s) :
    ∀ x ∈ s.doubles, x.isFinite = true := by
  obtain ⟨rest, hread⟩ := exists_read_of_decode h
  obtain ⟨d, ⟨hpp, haccuracy⟩, hbuild⟩ := Schema.exists_draft_of_read (P := ScoreDraft.FiniteSoFar)
    ⟨List.forall_mem_nil _, List.forall_mem_nil _⟩ keeps_finiteSoFar hread
  obtain rfl := eq_draft_of_build hbuild
  exact List.forall_mem_cons.2 ⟨hpp s.pp (List.mem_singleton_self _), haccuracy⟩

end Score

/-! ## Results -/

/-- The doubles of the object of points. -/
def pointsOf (points : Float × Option Float) : List Float := points.1 :: points.2.toList

def PerformanceValuesDraft.FiniteSoFar (d : PerformanceValuesDraft) : Prop :=
  (∀ x ∈ d.pp.toList, x.isFinite = true) ∧
    ∀ x ∈ d.hypotheticalPp.join.toList, x.isFinite = true

theorem isFinite_of_readPerformance {cs rest : List Char} {points : Float × Option Float}
    (h : performanceValuesSchema.read cs = .ok (points, rest)) :
    ∀ x ∈ pointsOf points, x.isFinite = true := by
  have hkeeps : ∀ f ∈ performanceValuesSchema.fields,
      f.Keeps PerformanceValuesDraft.FiniteSoFar := by
    simp only [performanceValuesSchema, List.forall_mem_cons]
    refine ⟨.of ?_, .of ?_, nofun⟩
    · exact fun _ _ _ hread _ hd =>
        ⟨List.forall_mem_singleton.2 (isFinite_of_readF64 hread), hd.2⟩
    · exact fun _ _ _ hread _ hd => ⟨hd.1, isFinite_of_readOptional hread⟩
  obtain ⟨d, ⟨hpp, hhypothetical⟩, hbuild⟩ := Schema.exists_draft_of_read
    ⟨List.forall_mem_nil _, List.forall_mem_nil _⟩ hkeeps h
  obtain ⟨x, hx, rfl⟩ := Option.map_eq_some_iff.1 hbuild
  rw [hx] at hpp
  exact List.forall_mem_cons.2 ⟨hpp x (List.mem_singleton_self x), hhypothetical⟩

theorem isFinite_of_readDifficulty {cs rest : List Char} {x : Float}
    (h : difficultyValuesSchema.read cs = .ok (x, rest)) : x.isFinite = true := by
  have hkeeps : ∀ f ∈ difficultyValuesSchema.fields,
      f.Keeps fun d => ∀ x ∈ d.toList, x.isFinite = true := by
    simp only [difficultyValuesSchema, List.forall_mem_singleton]
    exact .of fun _ _ _ hread _ _ => List.forall_mem_singleton.2 (isFinite_of_readF64 hread)
  obtain ⟨d, hd, hbuild⟩ := Schema.exists_draft_of_read (List.forall_mem_nil _) hkeeps h
  obtain rfl : d = some x := hbuild
  exact hd x (List.mem_singleton_self x)

def ScoreResultDraft.FiniteSoFar (d : ScoreResultDraft) : Prop :=
  (∀ points ∈ d.performance.toList, ∀ x ∈ pointsOf points, x.isFinite = true) ∧
    ∀ x ∈ d.stars.toList, x.isFinite = true

namespace ScoreResult

def doubles (r : ScoreResult) : List Float := pointsOf (r.pp, r.hypotheticalPp) ++ [r.stars]

theorem decode_encode {r : ScoreResult} (h : ∀ x ∈ r.doubles, readsBack x = true) :
    decode r.encode = .ok r := by
  obtain ⟨pp, hypotheticalPp, stars⟩ := r
  obtain ⟨hpoints, hstars⟩ := List.forall_mem_append.1 h
  obtain ⟨hpp, hhypothetical⟩ := List.forall_mem_cons.1 hpoints
  have hoptional : Reads (readOptional readF64) ((hypotheticalPp.map writeFloat).getD "null")
      hypotheticalPp := by
    cases hypotheticalPp with
    | none => exact reads_optional_null readF64
    | some x => exact reads_optional_f64 (hhypothetical x (List.mem_singleton_self x))
  have hperformance := reads_writeObject (s := performanceValuesSchema) (a := (pp, hypotheticalPp))
    (d := ⟨some pp, some hypotheticalPp⟩) (by decide)
    (.cons rfl (reads_field (reads_f64 hpp)) <| .cons rfl (reads_field hoptional) <| .nil _) rfl
  have hdifficulty := reads_writeObject (s := difficultyValuesSchema) (a := stars)
    (d := some stars) (by decide)
    (.cons rfl (reads_field (reads_f64 (hstars stars (List.mem_singleton_self stars)))) <| .nil _)
    rfl
  refine decode_of_reads (reads_writeObject (by decide)
    (d := ⟨some (pp, hypotheticalPp), some stars⟩) ?_ rfl)
  exact .cons rfl (reads_field hperformance) <| .cons rfl (reads_field hdifficulty) <| .nil _

theorem isFinite_of_decode {text : String} {r : ScoreResult} (h : decode text = .ok r) :
    ∀ x ∈ r.doubles, x.isFinite = true := by
  have hkeeps : ∀ f ∈ schema.fields, f.Keeps ScoreResultDraft.FiniteSoFar := by
    simp only [schema, List.forall_mem_cons]
    refine ⟨.of ?_, .of ?_, nofun⟩
    · exact fun _ _ _ hread _ hd =>
        ⟨List.forall_mem_singleton.2 (isFinite_of_readPerformance hread), hd.2⟩
    · exact fun _ _ _ hread _ hd =>
        ⟨hd.1, List.forall_mem_singleton.2 (isFinite_of_readDifficulty hread)⟩
  obtain ⟨rest, hread⟩ := exists_read_of_decode h
  obtain ⟨d, ⟨hpoints, hstars⟩, hbuild⟩ := Schema.exists_draft_of_read
    ⟨List.forall_mem_nil _, List.forall_mem_nil _⟩ hkeeps hread
  obtain ⟨points, hperformance, hrest⟩ := Option.bind_eq_some_iff.1 hbuild
  obtain ⟨stars, hd, heq⟩ := Option.bind_eq_some_iff.1 hrest
  rw [hperformance] at hpoints
  rw [hd] at hstars
  cases heq
  exact List.forall_mem_append.2 ⟨hpoints points (List.mem_singleton_self _), hstars⟩

end ScoreResult

/-! ## Both -/

/-- Scores and results correspond to their texts. What is written for one with finite doubles is
read as it. What is read from any text has finite doubles, so what is written for it is read as it
again, and from then on the text stays as it is. Taken as given is that the doubles at hand, each
written in its shortest digits, read back. -/
theorem records_round_trip :
    RoundTrip Score.decode Score.encode Score.doubles ∧
      RoundTrip ScoreResult.decode ScoreResult.encode ScoreResult.doubles :=
  ⟨roundTrip_of (fun _ => Score.decode_encode) fun _ _ => Score.isFinite_of_decode,
    roundTrip_of (fun _ => ScoreResult.decode_encode) fun _ _ => ScoreResult.isFinite_of_decode⟩

theorem eq_ok_of_toOption {ε α : Type} {x : Except ε α} {a : α} (h : x.toOption = some a) :
    x = .ok a := by
  cases x with
  | error e => cases h
  | ok b => rw [Option.some.inj h]

/-- Members out of order, an unknown one, an integer for a double, an escaped quote and a missing
optional member. -/
theorem records_round_trip_liberal :
    let text := "\x7b\"status\":2,\"acc\":98,\"x\":[],\"pp\":250.5,\"id\":-7,\"mode\":8," ++
      "\"map_md5\":\"\\u0022\",\"user_id\":1,\"score\":18446744073709551615,\"max_combo\":3," ++
      "\"nmiss\":0,\"mods\":72\x7d"
    let score : Score :=
      ⟨-7, "\"", 1, .autopilotOsu, 18446744073709551615, 250.5, 98, 3, 0, ⟨72⟩, .best⟩
    let answer := "\x7b\"difficulty\":\x7b\"stars\":5.25\x7d,\"performance\":\x7b\"pp\":100\x7d\x7d"
    let result : ScoreResult := ⟨100, none, 5.25⟩
    Score.decode text = .ok score ∧ Score.decode score.encode = .ok score ∧
      recode Score.decode Score.encode score.encode = .ok score.encode ∧
      ScoreResult.decode answer = .ok result ∧ ScoreResult.decode result.encode = .ok result := by
  intro text score answer result
  have hscore : Score.decode text = .ok score := eq_ok_of_toOption (by decide +kernel)
  have hresult : ScoreResult.decode answer = .ok result := eq_ok_of_toOption (by decide +kernel)
  have hscoreBack : ReadBack score.doubles := by
    show ∀ x ∈ [250.5, 98], x.isFinite = true → readsBack x = true
    decide +kernel
  have hresultBack : ReadBack result.doubles := by
    show ∀ x ∈ [100, 5.25], x.isFinite = true → readsBack x = true
    decide +kernel
  obtain ⟨hscores, hresults⟩ := records_round_trip
  exact ⟨hscore, hscores.decode_encode_of_decode text score hscore hscoreBack,
    (hscores.recode_encode_of_decode text score hscore hscoreBack).2, hresult,
    hresults.decode_encode_of_decode answer result hresult hresultBack⟩

end Coordination
