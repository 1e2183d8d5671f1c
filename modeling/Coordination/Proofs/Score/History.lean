import Coordination.Proofs.Score.Leaderboard
import Coordination.Proofs.Table

/-!
# What a store remembers

A store is filled by three kinds of writes. They go to three tables, and each table holds what was
written last under each key (`after_eq`). So stores whose histories have the same last writes are
equal, and a count of the scores ahead is one of the ids whose last record is ahead, with the last
privileges of the record's player (`last_writes_decide`).
-/

namespace Coordination

namespace ScoreStore

/-! ## Writes -/

inductive Write where
  | score (s : Score)
  | privileges (user : UserId) (p : Privileges)
  | beatmap (checksum : String) (name : BeatmapName)

namespace Write

def apply (t : ScoreStore) : Write → ScoreStore
  | score s => t.insertScore s
  | privileges user p => t.setPrivileges user p
  | beatmap checksum name => t.insertBeatmap checksum name

/-- A record under its id, if a record is what is written. -/
def scoreEntry? : Write → Option (ScoreId × Score)
  | score s => some (s.id, s)
  | privileges _ _ | beatmap _ _ => none

def privilegesEntry? : Write → Option (UserId × Privileges)
  | privileges user p => some (user, p)
  | score _ | beatmap _ _ => none

def beatmapEntry? : Write → Option (String × BeatmapName)
  | beatmap checksum name => some (checksum, name)
  | score _ | privileges _ _ => none

end Write

/-- The store after a history of writes. -/
def after (ws : List Write) : ScoreStore := ws.foldl Write.apply {}

/-- The last record of a score. -/
def lastScore? (ws : List Write) (id : ScoreId) : Option Score :=
  lastFor (ws.filterMap Write.scoreEntry?) id

/-- The privileges that a user was given last. -/
def lastPrivileges? (ws : List Write) (user : UserId) : Option Privileges :=
  lastFor (ws.filterMap Write.privilegesEntry?) user

def lastName? (ws : List Write) (checksum : String) : Option BeatmapName :=
  lastFor (ws.filterMap Write.beatmapEntry?) checksum

/-- What was written last is the same for each key. -/
structure SameLastWrites (ws others : List Write) : Prop where
  score : ∀ id, lastScore? ws id = lastScore? others id
  privileges : ∀ user, lastPrivileges? ws user = lastPrivileges? others user
  name : ∀ checksum, lastName? ws checksum = lastName? others checksum

/-! ## Look-ups -/

section

variable (ws : List Write)

/-- Writes of one kind do not touch the tables of the others. -/
theorem after_eq : after ws = {
    scores := written (ws.filterMap Write.scoreEntry?)
    privileges := written (ws.filterMap Write.privilegesEntry?)
    beatmaps := written (ws.filterMap Write.beatmapEntry?) } := by
  induction ws using List.reverseRecOn with
  | nil => rfl
  | append_singleton ws w ih =>
    have hstep : after (ws ++ [w]) = w.apply (after ws) := List.foldl_append
    rw [hstep, ih, written_filterMap_concat, written_filterMap_concat, written_filterMap_concat]
    cases w <;> rfl

theorem score?_after (id : ScoreId) : (after ws).score? id = lastScore? ws id := by
  rw [after_eq]
  exact getElem?_written _ id

theorem privileges_after (user : UserId) :
    (after ws).privileges[user]? = lastPrivileges? ws user := by
  rw [after_eq]
  exact getElem?_written _ user

theorem isUnrestricted_after_iff {user : UserId} : (after ws).isUnrestricted user = true ↔
    ∃ p, lastPrivileges? ws user = some p ∧ p.isUnrestricted = true := by
  rw [isUnrestricted, privileges_after]
  cases lastPrivileges? ws user <;> simp

theorem beatmapName?_after (checksum : String) :
    (after ws).beatmapName? checksum = lastName? ws checksum := by
  rw [after_eq]
  exact getElem?_written _ checksum

end

/-- The tables of a store tell it apart from all others. -/
theorem SameLastWrites.after_eq {ws others : List Write} (h : SameLastWrites ws others) :
    after ws = after others := by
  rw [ScoreStore.after_eq, ScoreStore.after_eq, written_eq_of_lastFor h.score,
    written_eq_of_lastFor h.privileges, written_eq_of_lastFor h.name]

/-! ## Counts -/

/-- The last record of the score is the best of its player on the leaderboard and strictly ahead,
and the player was last made, or left, unrestricted. -/
def IsAhead (ws : List Write) (q : Standing) (id : ScoreId) : Prop :=
  ∃ s p, lastScore? ws id = some s ∧ lastPrivileges? ws s.player = some p ∧
    p.isUnrestricted = true ∧ s.beatmap = q.beatmap ∧ s.mode = q.mode ∧ s.status = .best ∧
    q.value.beatenBy s = true

variable (ws : List Write) (q : Standing)

theorem countBetter_after : (after ws).countBetter q = Nat.card { id // IsAhead ws q id } := by
  have hahead (id : ScoreId) : IsAhead ws q id ↔ ∃ s, (after ws).scores[id]? = some s ∧
      ((after ws).isRankedOn q.beatmap q.mode s && q.value.beatenBy s) = true := by
    have hscore : (after ws).scores[id]? = lastScore? ws id := score?_after ws id
    simp only [IsAhead, hscore, isRankedOn, Bool.and_eq_true, beq_iff_eq, isUnrestricted_after_iff]
    constructor
    · rintro ⟨s, p, hs, hp, hpublic, hbeatmap, hmode, hbest, hbeats⟩
      exact ⟨s, hs, ⟨⟨⟨hbeatmap, hmode⟩, hbest⟩, p, hp, hpublic⟩, hbeats⟩
    · rintro ⟨s, hs, ⟨⟨⟨hbeatmap, hmode⟩, hbest⟩, p, hp, hpublic⟩, hbeats⟩
      exact ⟨s, p, hs, hp, hpublic, hbeatmap, hmode, hbest, hbeats⟩
  rw [countBetter, List.countP_map, Nat.card_congr (Equiv.subtypeEquivRight hahead)]
  exact countP_toList_eq_card (after ws).scores fun s =>
    (after ws).isRankedOn q.beatmap q.mode s && q.value.beatenBy s

/-- No more are counted than were written. -/
theorem card_isAhead_le : Nat.card { id // IsAhead ws q id } ≤ ws.length := by
  calc Nat.card { id // IsAhead ws q id } = (after ws).countBetter q :=
        (countBetter_after ws q).symm
    _ ≤ ((after ws).scores.toList.map (·.2)).length := List.countP_le_length
    _ = (after ws).scores.size := by rw [List.length_map, Std.ExtTreeMap.length_toList]
    _ ≤ (ws.filterMap Write.scoreEntry?).length := by
        rw [after_eq]
        exact size_written_le _
    _ ≤ ws.length := List.length_filterMap_le _ _

theorem not_isAhead_of_unprivileged {id : ScoreId} {s : Score} (hs : lastScore? ws id = some s)
    (hnever : ∀ p, .privileges s.player p ∉ ws) : ¬ IsAhead ws q id := by
  have hnone : lastPrivileges? ws s.player = none := by
    apply lastFor_eq_none
    intro p hp
    obtain ⟨w, hw, hentry⟩ := List.mem_filterMap.1 hp
    cases w with
    | privileges user p' =>
      obtain ⟨rfl, rfl⟩ := Prod.mk.inj (Option.some.inj hentry)
      exact hnever _ hw
    | score s' => cases hentry
    | beatmap checksum name => cases hentry
  rintro ⟨s', p, hs', hp, -⟩
  obtain rfl : s = s' := Option.some.inj (hs.symm.trans hs')
  rw [hnone] at hp
  cases hp

/-- Only the last writes count. All questions about scores, names, counts and placements have the
same answers after histories with the same last writes. A count is one of the ids, each of them
with its last record and the privileges that the record's player was given last; the scores of a
player who was never given any are not among them. -/
theorem last_writes_decide :
    (∀ ws others, SameLastWrites ws others →
      let r := Repository.ofStore (after ws)
      let r' := Repository.ofStore (after others)
      (∀ q, r.countBetter q = r'.countBetter q) ∧ (∀ id, r.score? id = r'.score? id) ∧
      (∀ checksum, r.beatmapText? checksum = r'.beatmapText? checksum) ∧
      (∀ s, r.placement s = r'.placement s) ∧ ∀ id, r.placementOf id = r'.placementOf id) ∧
    (∀ ws,
      let r := Repository.ofStore (after ws)
      (∀ id, r.score? id = .ok (lastScore? ws id)) ∧
      (∀ checksum, r.beatmapText? checksum = .ok ((lastName? ws checksum).map BeatmapName.text)) ∧
      ∀ q, r.countBetter q = .ok (UInt64.ofNat (Nat.card { id // IsAhead ws q id })) ∧
        Nat.card { id // IsAhead ws q id } ≤ ws.length) ∧
    ∀ ws q id s, lastScore? ws id = some s → (∀ p, .privileges s.player p ∉ ws) →
      ¬ IsAhead ws q id := by
  refine ⟨?_, ?_, ?_⟩
  · intro ws others hsame r r'
    have hr : r = r' := congrArg Repository.ofStore hsame.after_eq
    rw [hr]
    exact ⟨fun _ => rfl, fun _ => rfl, fun _ => rfl, fun _ => rfl, fun _ => rfl⟩
  · intro ws r
    refine ⟨?_, ?_, ?_⟩
    · exact fun id => congrArg Except.ok (score?_after ws id)
    · intro checksum
      rw [← beatmapName?_after]
      rfl
    · intro q
      rw [← countBetter_after]
      exact ⟨rfl, (countBetter_after ws q).trans_le (card_isAhead_le ws q)⟩
  · exact fun ws q id s hs hnever => not_isAhead_of_unprivileged ws q hs hnever

/-- A ranked score that was restricted, moved and replaced, and one of a player without
privileges. -/
theorem last_writes_decide_replaced :
    let name : BeatmapName := ⟨"xi", "FREEDOM DiVE", "FOUR DIMENSIONS"⟩
    let stranger := { relaxScore 2 500 with player := 9 }
    let ws : List Write := [.score (relaxScore 1 250.5), .privileges 7 ⟨2⟩,
      .score { relaxScore 1 300 with mode := .vanillaOsu }, .score stranger, .privileges 7 ⟨3⟩,
      .beatmap "5f2c" name, .score (relaxScore 1 400)]
    let others : List Write := [.beatmap "5f2c" ⟨"", "", ""⟩, .score (relaxScore 1 400),
      .privileges 7 ⟨3⟩, .score stranger, .beatmap "5f2c" name, .score stranger]
    let q : Standing := ⟨"5f2c", .relaxOsu, .pp 100⟩
    SameLastWrites ws others ∧
    (Repository.ofStore (after ws)).countBetter q = .ok 1 ∧
    (Repository.ofStore (after others)).countBetter q = .ok 1 ∧
    (Repository.ofStore (after ws)).placementOf 2 =
      (Repository.ofStore (after others)).placementOf 2 ∧
    ¬ IsAhead ws q 2 := by
  intro name stranger ws others q
  have hsame : SameLastWrites ws others := by
    constructor
    · intro id
      by_cases h₁ : 1 = id
      · subst h₁
        rfl
      · by_cases h₂ : 2 = id
        · subst h₂
          rfl
        · show lastFor [(1, _), (1, _), (2, _), (1, _)] id = lastFor [(1, _), (2, _), (2, _)] id
          simp [lastFor, h₁, h₂]
    · intro user
      by_cases h : 7 = user
      · subst h
        rfl
      · show lastFor [(7, _), (7, _)] user = lastFor [(7, _)] user
        simp [lastFor, h]
    · intro checksum
      by_cases h : "5f2c" = checksum
      · subst h
        rfl
      · show lastFor [("5f2c", _)] checksum = lastFor [("5f2c", _), ("5f2c", _)] checksum
        simp [lastFor, h]
  obtain ⟨hagree, -, hnever⟩ := last_writes_decide
  obtain ⟨hcount, -, -, -, hplaces⟩ := hagree ws others hsame
  have hws : (Repository.ofStore (after ws)).countBetter q = .ok 1 := by decide +kernel
  refine ⟨hsame, hws, (hcount q).symm.trans hws, hplaces 2, hnever ws q 2 stranger rfl ?_⟩
  intro p hp
  simp [ws, stranger] at hp

end ScoreStore

end Coordination
