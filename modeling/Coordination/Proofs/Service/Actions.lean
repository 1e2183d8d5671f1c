import Coordination.Proofs.Directory.Operations
import Coordination.Service.World

/-!
# Acting on events

An event is accepted or refused for reasons that can be told from the world that it meets
(`accepts`). A refused one fails before its action has written anything, and an accepted one
does to the directory what one or two operations do (`run_perform`). So acting on an event is
all or nothing, although an action that fails midway would leave behind what it had done.
-/

namespace Coordination

/-- What acting on an event comes to: the world afterwards and what is reported, or why nothing
was done. -/
abbrev Effect := Except (Failure HandlerError) (World × List LogLine)

namespace Effect

/-- Whether the effect is an error. -/
def isError : Effect → Bool
  | .error (.error _) => true
  | _ => false

/-- Whether the effect is a crash. -/
def isCrash : Effect → Bool
  | .error (.crash _) => true
  | _ => false

/-- An effect is one of the three. -/
theorem countP_add_countP_add_countP (xs : List Effect) :
    xs.countP Except.isOk + xs.countP isError + xs.countP isCrash = xs.length := by
  induction xs with
  | nil => rfl
  | cons x xs ih =>
    have hone : (if x.isOk then 1 else 0) + (if isError x then 1 else 0) +
        (if isCrash x then 1 else 0) = 1 := by
      rcases x with (_ | _) | _ <;> rfl
    rw [List.countP_cons, List.countP_cons, List.countP_cons, List.length_cons]
    omega

end Effect

open Directory (Operation)

namespace World

/-- The effect of an event, with announcements going to `room`. -/
def act (room : String) (w : World) (event : Event) : Effect :=
  match (perform room event).run w with
  | .ok log w => .ok (w, log)
  | .error failure _ => .error failure

/-- A stored score and what is announced of it: its placement among the scores of the moment, and
the name of its beatmap, if the beatmap has one. -/
def announced? (w : World) (id : ScoreId) : Option (Score × Announcement) := do
  let s ← w.scores.score? id
  let rank ← ((Repository.ofStore w.scores).placement s).toOption
  let name ← w.scores.beatmapName? s.beatmap
  return (s, { rank, beatmap := name.text, mods := s.mods, accuracy := s.accuracy, pp := s.pp })

/-- Whether an event can be acted on. -/
def accepts (w : World) : Event → Bool
  | .refreshStats user | .notify user _ => w.directory.isOnline user
  | .announce id => (w.announced? id).isSome
  | .restrict user _ => (w.directory.account? user).isSome

end World

/-- The event announces a stored score whose placing crashes. -/
def Event.Unplaceable (t : ScoreStore) (event : Event) : Prop :=
  ∃ id s text, event = .announce id ∧ t.score? id = some s ∧
    (Repository.ofStore t).placement s = .error (.crash text)

/-- What an event that is accepted does to the directory. -/
def Event.operations (room : String) (w : World) : Event → List Operation
  | .refreshStats user =>
    match w.directory.account? user with
    | some a =>
      if a.privileges.isUnrestricted then
        [.reloadStats user,
          .broadcastStats { user, name := a.name, restricted := false, stats := a.stored }]
      else [.reloadStats user]
    | none => []
  | .announce id =>
    match w.announced? id with
    | some (s, a) => [.sendToRoom room s.player a.text]
    | none => []
  | .restrict user reason => [.restrict user reason]
  | .notify user message => [.notify user message]

theorem Account.snapshot_reload (a : Account) (user : UserId) : a.reload.snapshot user =
    { user, name := a.name, restricted := !a.privileges.isUnrestricted, stats := a.stored } := by
  cases h : a.session <;> simp [snapshot, reload, h]

namespace World

section OnDirectory

variable {α : Type} (x : Directory.Action α) (w : World)

theorem run_onDirectory : (onDirectory x).run w =
    match x.run w.directory with
    | .ok a directory => .ok a { w with directory }
    | .error e directory => .error (.error (.execution e.message)) { w with directory } := rfl

end OnDirectory

variable {w : World} {event : Event}

/-- What is read of a score that is announced, and in which order. -/
theorem announcement?_eq (w : World) (id : ScoreId) : w.announcement? id =
    match w.scores.score? id with
    | none => .error (.error (.execution (RankingError.scoreNotFound id).message))
    | some s =>
      match (Repository.ofStore w.scores).placement s with
      | .error failure => .error (failure.map fun e => .execution e.message)
      | .ok rank =>
        match w.scores.beatmapName? s.beatmap with
        | none => .error (.error (.execution s!"beatmap {s.beatmap} not found"))
        | some name => .ok
          (s, { rank, beatmap := name.text, mods := s.mods, accuracy := s.accuracy, pp := s.pp }) := by
  have hscore : (Repository.ofStore w.scores).score? id = .ok (w.scores.score? id) := rfl
  have htext (checksum : String) : (Repository.ofStore w.scores).beatmapText? checksum =
      .ok ((w.scores.beatmapName? checksum).map BeatmapName.text) := rfl
  simp only [announcement?, Repository.placementOf, hscore]
  cases w.scores.score? id with
  | none => rfl
  | some s =>
    simp only [htext]
    cases (Repository.ofStore w.scores).placement s with
    | error failure => rfl
    | ok rank => cases hb : w.scores.beatmapName? s.beatmap <;> simp [Except.map, hb]

theorem toOption_announcement? (w : World) (id : ScoreId) :
    (w.announcement? id).toOption = w.announced? id := by
  rw [announcement?_eq, announced?]
  cases w.scores.score? id with
  | none => rfl
  | some s =>
    cases hp : (Repository.ofStore w.scores).placement s with
    | error failure => simp [hp, Except.toOption]
    | ok rank =>
      cases hb : w.scores.beatmapName? s.beatmap <;> simp [hp, hb, Except.toOption]

theorem announcement?_of_announced? {id : ScoreId} {r : Score × Announcement}
    (h : w.announced? id = some r) : w.announcement? id = .ok r := by
  rw [← toOption_announcement?] at h
  cases hr : w.announcement? id with
  | error e => rw [hr] at h; cases h
  | ok r' => rw [hr] at h; cases h; rfl

theorem announcement?_of_refused {id : ScoreId} (h : w.accepts (.announce id) = false) :
    ∃ failure, w.announcement? id = .error failure := by
  have hnone : (w.announcement? id).toOption = none := by
    rw [toOption_announcement?, ← Option.not_isSome_iff_eq_none]
    exact ne_true_of_eq_false h
  cases hr : w.announcement? id with
  | error failure => exact ⟨failure, rfl⟩
  | ok r => rw [hr] at hnone; cases hnone

/-- What is missing for an announcement is told in a text, and only a placing crashes. -/
theorem announcement?_error_cases {id : ScoreId} {failure : Failure HandlerError}
    (h : w.announcement? id = .error failure) :
    (∃ text, failure = .error (.execution text)) ∨
      ∃ text, failure = .crash text ∧ (Event.announce id).Unplaceable w.scores := by
  rw [announcement?_eq] at h
  split at h
  · cases h
    exact .inl ⟨_, rfl⟩
  · next s hs =>
    split at h
    · next failure' hp =>
      cases failure' with
      | error e =>
        cases h
        exact .inl ⟨e.message, rfl⟩
      | crash text =>
        cases h
        exact .inr ⟨text, rfl, id, s, text, rfl, hs, hp⟩
    · split at h
      · cases h
        exact .inl ⟨_, rfl⟩
      · cases h

/-- A refused event fails before anything is written, and the only crash is that of a placing. -/
theorem run_perform_of_refused (room : String) (h : w.accepts event = false) :
    ∃ failure, (perform room event).run w = .error failure w ∧
      ∀ text, failure = .crash text → event.Unplaceable w.scores := by
  cases event with
  | refreshStats user =>
    have hrun := Directory.run_reloadStats_of_offline h
    refine ⟨.error (.execution (DirectoryError.notOnline user).message), ?_, nofun⟩
    simp [perform, refreshStats, run_onDirectory, hrun]
  | announce id =>
    obtain ⟨failure, hfailure⟩ := announcement?_of_refused h
    refine ⟨failure, ?_, ?_⟩
    · simp [perform, announce, hfailure]
      rfl
    · rintro text rfl
      obtain ⟨_, htext⟩ | ⟨_, -, hplacing⟩ := announcement?_error_cases hfailure
      · cases htext
      · exact hplacing
  | restrict user reason =>
    have hunknown : ¬ (w.directory.account? user).isSome := ne_true_of_eq_false h
    refine ⟨.error (.execution (DirectoryError.unknownPlayer user).message), ?_, nofun⟩
    simp [perform, restrict, run_onDirectory, Directory.run_restrict, hunknown]
  | notify user message =>
    have hoffline : ¬ w.directory.isOnline user := ne_true_of_eq_false h
    refine ⟨.error (.execution (DirectoryError.notOnline user).message), ?_, nofun⟩
    simp [perform, notify, run_onDirectory, Directory.run_notify, hoffline, -bind_pure_comp]

/-- An accepted event does to the directory what its operations do. -/
theorem run_perform (room : String) (h : w.accepts event) : ∃ log,
    (perform room event).run w =
      .ok log { w with directory := w.directory.performAll (event.operations room w) } := by
  cases event with
  | refreshStats user =>
    obtain ⟨a, ha, honline⟩ := (Directory.isOnline_iff _ _).1 h
    have hrun := Directory.run_reloadStats ha honline
    rw [← Directory.perform_reloadStats w.directory user h] at hrun
    refine ⟨[], ?_⟩
    cases hp : a.privileges.isUnrestricted with
    | false =>
      simp [perform, refreshStats, run_onDirectory, hrun, Account.snapshot_reload,
        Event.operations, ha, hp, Directory.performAll]
    | true =>
      simp [perform, refreshStats, run_onDirectory, hrun, Account.snapshot_reload,
        Event.operations, ha, hp, Directory.performAll, -bind_pure_comp]
      rfl
  | announce id =>
    obtain ⟨⟨s, a⟩, hs⟩ := Option.isSome_iff_exists.1 h
    have hread := announcement?_of_announced? hs
    exact ⟨_, by
      simp [perform, announce, hread, Event.operations, hs, Directory.performAll,
        Directory.perform]
      rfl⟩
  | restrict user reason =>
    have hknown : (w.directory.account? user).isSome := h
    exact ⟨_, by
      simp [perform, restrict, run_onDirectory, Directory.run_restrict, hknown,
        Event.operations, Directory.performAll]
      rfl⟩
  | notify user message =>
    have honline : w.directory.isOnline user := h
    refine ⟨[], ?_⟩
    simp [perform, notify, run_onDirectory, Directory.run_notify, honline, Event.operations,
      Directory.performAll, -bind_pure_comp]

theorem act_of_refused (room : String) (h : w.accepts event = false) :
    ∃ failure, w.act room event = .error failure ∧
      ∀ text, failure = .crash text → event.Unplaceable w.scores := by
  obtain ⟨failure, hfailure, hcrash⟩ := run_perform_of_refused room h
  exact ⟨failure, by rw [act, hfailure], hcrash⟩

theorem act_of_accepted (room : String) (h : w.accepts event) : ∃ log, w.act room event =
    .ok ({ w with directory := w.directory.performAll (event.operations room w) }, log) := by
  obtain ⟨log, hlog⟩ := run_perform room h
  exact ⟨log, by rw [act, hlog]⟩

/-- All or nothing: a failure leaves the world as it was. -/
theorem run_perform_eq (room : String) (w : World) (event : Event) :
    (perform room event).run w =
      match w.act room event with
      | .ok (w', log) => .ok log w'
      | .error failure => .error failure w := by
  unfold act
  cases h : w.accepts event with
  | false =>
    obtain ⟨failure, hfailure, -⟩ := run_perform_of_refused room h
    rw [hfailure]
  | true =>
    obtain ⟨log, hlog⟩ := run_perform room h
    rw [hlog]

theorem isCrash_act (room : String) (h : ¬ event.Unplaceable w.scores) :
    (w.act room event).isCrash = false := by
  cases haccepts : w.accepts event with
  | true =>
    obtain ⟨log, hlog⟩ := act_of_accepted room haccepts
    rw [hlog]
    rfl
  | false =>
    obtain ⟨failure, hfailure, hcrash⟩ := act_of_refused room haccepts
    rw [hfailure]
    cases failure with
    | error e => rfl
    | crash text => exact absurd (hcrash text rfl) h

end World

end Coordination
