import Coordination.Proofs.Directory.Rooms
import Coordination.Proofs.Service.Restriction

/-!
# How fresh shown stats are

What is stored for a player is what was stored last, or nothing yet since the account was created
(`storedStats?_steps`). The stats of a session are another copy: they are taken from what is stored
at a login and at every reload, and stay as they are in between (`sessionStats?_step`), also while
other stats are stored. A message that refreshes a player's stats reloads them first, so what it
shows is what was stored last at that moment.
-/

namespace Coordination

open Directory (Operation)

/-! ## Two copies -/

namespace Account

/-- The stats of the session, if there is one. -/
def sessionStats? (a : Account) : Option PlayerStats := a.session.map Session.stats

variable (a : Account)

theorem isSome_sessionStats? : a.sessionStats?.isSome = a.isOnline := by
  rw [sessionStats?, Option.isSome_map, isOnline]

@[simp] theorem sessionStats?_enqueue (item : Outbound) :
    (a.enqueue item).sessionStats? = a.sessionStats? := by
  cases h : a.session <;> simp [sessionStats?, enqueue, h]

@[simp] theorem sessionStats?_drain : a.drain.sessionStats? = a.sessionStats? := by
  cases h : a.session <;> simp [sessionStats?, drain, h]

@[simp] theorem sessionStats?_restrict (reason : String) :
    (a.restrict reason).sessionStats? = a.sessionStats? :=
  sessionStats?_enqueue _ _

theorem sessionStats?_login : a.login.sessionStats? = some a.stored := rfl

theorem sessionStats?_reload (h : a.isOnline = true) : a.reload.sessionStats? = some a.stored := by
  obtain ⟨s, hs⟩ := Option.isSome_iff_exists.1 h
  simp [sessionStats?, reload, hs]

theorem Becomes.sessionStats?_eq {a a' : Account} {restricts refreshes : Bool}
    {items : List Outbound} (h : a.Becomes a' restricts refreshes items) :
    a'.sessionStats? = a.sessionStats?.map fun stats => if refreshes then a.stored else stats := by
  cases hs : a.session <;> simp [sessionStats?, h.session, hs]

end Account

namespace Directory

def sessionStats? (d : Directory) (u : UserId) : Option PlayerStats :=
  (d.account? u).bind Account.sessionStats?

def storedStats? (d : Directory) (u : UserId) : Option PlayerStats :=
  (d.account? u).map Account.stored

theorem isSome_sessionStats? (d : Directory) (u : UserId) :
    (d.sessionStats? u).isSome = d.isOnline u := by
  unfold sessionStats? isOnline
  cases d.account? u with
  | none => rfl
  | some a => exact a.isSome_sessionStats?

namespace Operation

variable {d : Directory} {u : UserId} {op : Operation}

/-- What the operation stores for the user. A new account has the default. -/
def stores? (u : UserId) : Operation → Option PlayerStats
  | addAccount user _ _ => if user = u then some {} else none
  | storeStats user stats => if user = u then some stats else none
  | _ => none

theorem stored_ite {a b : Account} (c : Prop) [Decidable c] (h : b.stored = a.stored) :
    (if c then b else a).stored = a.stored := by
  split
  · exact h
  · rfl

theorem stored_onAccount (a : Account) :
    (op.onAccount d u a).stored = if op.adds u then a.stored else (op.stores? u).getD a.stored := by
  cases op with
  | storeStats user stats =>
    by_cases hu : u = user
    · simp [onAccount, adds, stores?, hu]
    · simp [onAccount, adds, stores?, hu, Ne.symm hu]
  | addAccount user name privileges =>
    by_cases hu : user = u <;> simp [onAccount, adds, stores?, hu]
  | login user => exact stored_ite _ rfl
  | logout user => exact stored_ite _ rfl
  | reloadStats user => exact stored_ite _ rfl
  | restrict user reason => exact stored_ite _ rfl
  | notify user message => exact stored_ite _ rfl
  | sendToRoom r sender text => exact stored_ite _ rfl
  | drain user => exact stored_ite _ rfl
  | broadcastStats snapshot => rfl
  | createRoom r => rfl
  | joinRoom r user => rfl

theorem sessionStats?_ite {a b : Account} (c : Prop) [Decidable c]
    (h : b.sessionStats? = a.sessionStats?) :
    (if c then b else a).sessionStats? = a.sessionStats? := by
  split
  · exact h
  · rfl

theorem sessionStats?_onAccount (hlogin : op ≠ .login u) (hreload : op ≠ .reloadStats u)
    (a : Account) : (op.onAccount d u a).sessionStats? = a.sessionStats? ∨
      (op.onAccount d u a).sessionStats? = none := by
  cases op with
  | login user =>
    have hu : u ≠ user := fun h => hlogin (h ▸ rfl)
    exact .inl (by rw [onAccount, if_neg hu])
  | reloadStats user =>
    have hu : u ≠ user := fun h => hreload (h ▸ rfl)
    exact .inl (by rw [onAccount, if_neg hu])
  | logout user =>
    rw [onAccount]
    split
    · exact .inr rfl
    · exact .inl rfl
  | storeStats user stats => exact .inl (sessionStats?_ite _ rfl)
  | restrict user reason => exact .inl (sessionStats?_ite _ (a.sessionStats?_restrict reason))
  | notify user message => exact .inl (sessionStats?_ite _ (a.sessionStats?_enqueue _))
  | sendToRoom r sender text => exact .inl (sessionStats?_ite _ (a.sessionStats?_enqueue _))
  | drain user => exact .inl (sessionStats?_ite _ a.sessionStats?_drain)
  | broadcastStats snapshot => exact .inl (a.sessionStats?_enqueue _)
  | addAccount user name privileges => exact .inl rfl
  | createRoom r => exact .inl rfl
  | joinRoom r user => exact .inl rfl

end Operation

section Perform

variable (d : Directory) (op : Operation) (u : UserId)

/-- An account that is created is offline and has the default stats. -/
theorem account?_perform_of_adds (h : op.adds u = true) :
    ∃ name privileges, (d.perform op).account? u = some { name, privileges } := by
  cases op with
  | addAccount user name privileges =>
    obtain rfl : user = u := beq_iff_eq.1 h
    exact ⟨name, privileges, (account?_putAccount d user user _).trans (if_pos rfl)⟩
  | storeStats | login | logout | createRoom | joinRoom | reloadStats | broadcastStats
  | restrict | notify | sendToRoom | drain => cases h

theorem storedStats?_perform : (d.perform op).storedStats? u =
    if op.adds u then some {} else (d.storedStats? u).map (op.stores? u).getD := by
  unfold storedStats?
  cases hadds : op.adds u with
  | true =>
    obtain ⟨name, privileges, hnew⟩ := account?_perform_of_adds d op u hadds
    rw [hnew]
    rfl
  | false =>
    rw [account?_perform d op u hadds, Option.map_map, if_neg Bool.false_ne_true, Option.map_map]
    refine Option.map_congr fun a _ => ?_
    rw [Function.comp_apply, Operation.stored_onAccount, hadds, if_neg Bool.false_ne_true]
    rfl

theorem sessionStats?_perform_login :
    (d.perform (.login u)).sessionStats? u = d.storedStats? u := by
  unfold sessionStats? storedStats?
  rw [account?_perform d (.login u) u rfl]
  cases d.account? u with
  | none => rfl
  | some a => simp [Operation.onAccount, a.sessionStats?_login]

theorem sessionStats?_perform_reloadStats (h : d.isOnline u = true) :
    (d.perform (.reloadStats u)).sessionStats? u = d.storedStats? u := by
  obtain ⟨a, ha, honline⟩ := (isOnline_iff d u).1 h
  unfold sessionStats? storedStats?
  rw [account?_perform d (.reloadStats u) u rfl, ha]
  simp [Operation.onAccount, a.sessionStats?_reload honline]

theorem sessionStats?_perform_storeStats (user : UserId) (stats : PlayerStats) :
    (d.perform (.storeStats user stats)).sessionStats? u = d.sessionStats? u := by
  unfold sessionStats?
  rw [account?_perform d (.storeStats user stats) u rfl]
  cases d.account? u with
  | none => rfl
  | some a => exact Operation.sessionStats?_ite _ rfl

theorem perform_reloadStats_of_offline (h : d.isOnline u = false) :
    d.perform (.reloadStats u) = d := by
  show d.attempt (reloadStats u) = d
  rw [attempt_reloadStats, attempt_updateOnline, h, if_neg Bool.false_ne_true]

/-- Every other operation ends the session, if it changes its stats. -/
theorem sessionStats?_perform (hlogin : op ≠ .login u) (hreload : op ≠ .reloadStats u) :
    (d.perform op).sessionStats? u = d.sessionStats? u ∨
      (d.perform op).sessionStats? u = none := by
  unfold sessionStats?
  cases hadds : op.adds u with
  | true =>
    obtain ⟨name, privileges, hnew⟩ := account?_perform_of_adds d op u hadds
    rw [hnew]
    exact .inr rfl
  | false =>
    rw [account?_perform d op u hadds]
    cases d.account? u with
    | none => exact .inl rfl
    | some a => exact Operation.sessionStats?_onAccount hlogin hreload a

end Perform

end Directory

/-! ## Steps -/

namespace World

namespace Step

/-- The step loads the user's stored stats into a session: it is a login or a reload that is not
refused, or a message that carries the event of a refresh and is delivered. -/
def Loads (d : Deployment) (room : String) (w : World) (u : UserId) : Step → Prop
  | operation op =>
    (op = .login u ∧ ∃ d', (Directory.login u).run w.directory = .ok () d') ∨
    (op = .reloadStats u ∧
      ∃ snapshot d', (Directory.reloadStats u).run w.directory = .ok snapshot d')
  | message m => m.event? d = some (.refreshStats u) ∧
      ((d.registry room).dispatch m w).outcome.isDelivered
  | scores _ => False

/-- What the step stores for the user. -/
def stores? (u : UserId) : Step → Option PlayerStats
  | operation op => op.stores? u
  | message _ | scores _ => none

end Step

/-- The stats that steps store last for the user. An account is created with the default, and
stats are not stored without an account. -/
def lastStored (u : UserId) (ss : List Step) : PlayerStats :=
  (ss.filterMap (Step.stores? u)).getLast?.getD {}

variable {d : Deployment} {room : String} {w : World} {s : Step} {u : UserId} {m : Message}

theorem lastStored_concat (ss : List Step) :
    lastStored u (ss ++ [s]) = (s.stores? u).getD (lastStored u ss) := by
  cases h : s.stores? u <;> simp [lastStored, List.filterMap_append, h]

theorem storedStats?_dispatch :
    ((d.registry room).dispatch m w).world.directory.storedStats? u =
      w.directory.storedStats? u := by
  rcases dispatch_cases d room m w with ⟨-, -, hworld⟩ | ⟨-, -, -, hworld⟩ |
    ⟨event, -, haccepts, -, hworld⟩
  · rw [hworld]
  · rw [hworld]
  · rw [hworld]
    exact (changes_after room haccepts).map_account? fun a a' hbecomes => hbecomes.stored

theorem Step.stores?_of_adds (h : s.adds u = true) : s.stores? u = some {} := by
  cases s with
  | operation op =>
    cases op with
    | addAccount user name privileges => exact if_pos (beq_iff_eq.1 h)
    | storeStats | login | logout | createRoom | joinRoom | reloadStats | broadcastStats
    | restrict | notify | sendToRoom | drain => cases h
  | message m => cases h
  | scores t => cases h

theorem storedStats?_step : (w.step d room s).directory.storedStats? u =
    if s.adds u then some {} else (w.directory.storedStats? u).map (s.stores? u).getD := by
  cases s with
  | operation op => exact w.directory.storedStats?_perform op u
  | message m => exact storedStats?_dispatch.trans Option.map_id'.symm
  | scores t => exact Option.map_id'.symm

/-! ### The copy of the session -/

theorem sessionStats?_changes {event : Event} {w' : World} (h : event.Changes room w w')
    (hevent : event.refreshes u = false) :
    w'.directory.sessionStats? u = w.directory.sessionStats? u := by
  unfold Directory.sessionStats?
  cases ha : w.directory.account? u with
  | none => rw [h.unknown u ha]
  | some a =>
    obtain ⟨a', ha', hbecomes⟩ := h.known u a ha
    rw [ha', Option.bind_some, Option.bind_some, hbecomes.sessionStats?_eq, hevent]
    exact Option.map_id'

theorem sessionStats?_changes_refreshStats {w' : World}
    (h : (Event.refreshStats u).Changes room w w') (honline : w.directory.isOnline u = true) :
    w'.directory.sessionStats? u = w.directory.storedStats? u := by
  obtain ⟨a, ha, hsession⟩ := (Directory.isOnline_iff _ u).1 honline
  obtain ⟨stats, hstats⟩ :=
    Option.isSome_iff_exists.1 (a.isSome_sessionStats?.trans hsession)
  obtain ⟨a', ha', hbecomes⟩ := h.known u a ha
  unfold Directory.sessionStats? Directory.storedStats?
  rw [ha, ha', Option.bind_some, hbecomes.sessionStats?_eq, hstats]
  simp

/-- A step that loads stats leaves the session with what is stored. -/
theorem sessionStats?_step_of_loads (h : s.Loads d room w u) :
    (w.step d room s).directory.sessionStats? u = w.directory.storedStats? u := by
  cases s with
  | operation op =>
    rcases h with ⟨rfl, -⟩ | ⟨rfl, snapshot, d', hrun⟩
    · exact w.directory.sessionStats?_perform_login u
    · refine w.directory.sessionStats?_perform_reloadStats u ?_
      rw [← Bool.not_eq_false]
      intro hoffline
      rw [Directory.run_reloadStats_of_offline hoffline] at hrun
      cases hrun
  | message m =>
    obtain ⟨haccepts, hworld⟩ := after_of_delivered room h.1 h.2
    rw [step, hworld]
    exact sessionStats?_changes_refreshStats (changes_after room haccepts) haccepts
  | scores t => exact h.elim

/-- Every other step leaves the stats of the session as they are, unless it ends the session. -/
theorem sessionStats?_step (h : ¬ s.Loads d room w u) :
    (w.step d room s).directory.sessionStats? u = w.directory.sessionStats? u ∨
      (w.step d room s).directory.sessionStats? u = none := by
  cases s with
  | operation op =>
    by_cases hlogin : op = .login u
    · subst hlogin
      -- The login was refused, so there is no account.
      right
      have hunknown : w.directory.account? u = none := by
        rw [← Option.not_isSome_iff_eq_none]
        intro hknown
        refine h (.inl ⟨rfl, w.directory.updateAccount u Account.login, ?_⟩)
        exact (w.directory.run_updateKnown u Account.login).trans (if_pos hknown)
      refine (w.directory.sessionStats?_perform_login u).trans ?_
      rw [Directory.storedStats?, hunknown, Option.map_none]
    · by_cases hreload : op = .reloadStats u
      · subst hreload
        left
        have hoffline : w.directory.isOnline u = false := by
          rw [← Bool.not_eq_true]
          intro honline
          obtain ⟨a, ha, hsession⟩ := (Directory.isOnline_iff _ u).1 honline
          exact h (.inr ⟨rfl, _, _, Directory.run_reloadStats ha hsession⟩)
        rw [step, Directory.perform_reloadStats_of_offline _ _ hoffline]
      · exact w.directory.sessionStats?_perform op u hlogin hreload
  | message m =>
    left
    rcases dispatch_cases d room m w with ⟨-, -, hworld⟩ | ⟨-, -, -, hworld⟩ |
      ⟨event, hm, haccepts, ⟨name, hfate⟩, hworld⟩
    · rw [step, hworld]
    · rw [step, hworld]
    · rw [step, hworld]
      refine sessionStats?_changes (changes_after room haccepts) ?_
      rw [← Bool.not_eq_true]
      intro hrefreshes
      refine h ⟨?_, by rw [Outcome.isDelivered, hfate]⟩
      cases event with
      | refreshStats user => rw [hm, of_decide_eq_true hrefreshes]
      | announce | restrict | notify => cases hrefreshes
  | scores t => exact .inl rfl

/-! ## Runs -/

/-- In the run of `before`, `s` and `after`, the last step that loads the user's stats is `s`. -/
structure LastLoad (d : Deployment) (room : String) (w : World) (u : UserId)
    (before : List Step) (s : Step) (after : List Step) : Prop where
  loads : s.Loads d room (w.steps d room before) u
  last : ∀ b t a, after = b ++ t :: a →
    ¬ t.Loads d room (w.steps d room (before ++ s :: b)) u

theorem LastLoad.concat {before after : List Step} {t : Step}
    (h : LastLoad d room w u before s after)
    (ht : ¬ t.Loads d room (w.steps d room (before ++ s :: after)) u) :
    LastLoad d room w u before s (after ++ [t]) where
  loads := h.loads
  last b t' a hsplit := by
    obtain ⟨rfl, rfl, rfl⟩ | ⟨rest, rfl, rfl⟩ := concat_eq_append_cons_iff.1 hsplit
    · exact ht
    · exact h.last b t' rest rfl

/-- The stats of a session are those that were stored when they were loaded last. -/
theorem sessionStats?_steps (hoffline : w.directory.isOnline u = false) {ss : List Step}
    (honline : (w.steps d room ss).directory.isOnline u = true) :
    ∃ before s after, ss = before ++ s :: after ∧ LastLoad d room w u before s after ∧
      (w.steps d room ss).directory.sessionStats? u =
        (w.steps d room before).directory.storedStats? u := by
  induction ss using List.reverseRecOn with
  | nil =>
    rw [show w.steps d room [] = w from rfl, hoffline] at honline
    cases honline
  | append_singleton ss s ih =>
    rw [steps_concat] at honline ⊢
    by_cases h : s.Loads d room (w.steps d room ss) u
    · exact ⟨ss, s, [], rfl, ⟨h, by simp⟩, sessionStats?_step_of_loads h⟩
    · have hsame : ((w.steps d room ss).step d room s).directory.sessionStats? u =
          (w.steps d room ss).directory.sessionStats? u := by
        refine (sessionStats?_step h).resolve_right fun hnone => ?_
        rw [← Directory.isSome_sessionStats?, hnone] at honline
        cases honline
      rw [← Directory.isSome_sessionStats?, hsame, Directory.isSome_sessionStats?] at honline
      obtain ⟨before, t, after, hss, hlast, hstats⟩ := ih honline
      subst hss
      exact ⟨before, t, after ++ [s], by rw [List.append_assoc, List.cons_append],
        hlast.concat h, hsame.trans hstats⟩

/-- What is stored for a player who was unknown at first is what was stored last. -/
theorem eq_lastStored (hnew : w.directory.account? u = none) {ss : List Step}
    {stats : PlayerStats} (h : (w.steps d room ss).directory.storedStats? u = some stats) :
    stats = lastStored u ss := by
  induction ss using List.reverseRecOn generalizing stats with
  | nil =>
    have hnone : w.directory.storedStats? u = none := by
      rw [Directory.storedStats?, hnew, Option.map_none]
    cases hnone.symm.trans h
  | append_singleton ss s ih =>
    rw [steps_concat, storedStats?_step] at h
    rw [lastStored_concat]
    cases hadds : s.adds u with
    | true =>
      rw [hadds, if_pos rfl] at h
      rw [Step.stores?_of_adds hadds]
      exact (Option.some.inj h).symm
    | false =>
      rw [hadds, if_neg Bool.false_ne_true] at h
      obtain ⟨before, hbefore, rfl⟩ := Option.map_eq_some_iff.1 h
      rw [ih hbefore]

theorem storedStats?_steps (hnew : w.directory.account? u = none) (ss : List Step) :
    (w.steps d room ss).directory.storedStats? u =
      ((w.steps d room ss).directory.account? u).map fun _ => lastStored u ss := by
  unfold Directory.storedStats?
  refine Option.map_congr fun a ha => ?_
  refine @eq_lastStored d room w u hnew ss a.stored ?_
  rw [Directory.storedStats?, ha, Option.map_some]

/-! ## What a refresh shows -/

/-- What the event of a refresh puts into an outbox, whose owner need not be the player. -/
theorem outbox_dispatch_refreshStats (hm : m.event? d = some (.refreshStats u)) (v : UserId) :
    ((d.registry room).dispatch m w).world.directory.outbox v = w.directory.outbox v ++
      match w.directory.account? u with
      | some a =>
        if w.directory.isOnline v && a.isOnline && a.privileges.isUnrestricted then
          [.userStats { user := u, name := a.name, restricted := false, stats := a.stored }]
        else []
      | none => [] := by
  rcases dispatch_cases d room m w with ⟨htopic, -, -⟩ | ⟨-, hrefused, -, hworld⟩ |
    ⟨event, hm', haccepts, -, hworld⟩
  · simp [Message.event?, htopic] at hm
  · rw [hm, Option.any_some] at hrefused
    have hoffline : w.directory.isOnline u = false := hrefused
    rw [hworld]
    cases ha : w.directory.account? u with
    | none => exact (List.append_nil _).symm
    | some a =>
      rw [Directory.isOnline, ha, Option.any_some] at hoffline
      simp [hoffline]
  · obtain rfl : event = .refreshStats u := Option.some.inj (hm'.symm.trans hm)
    obtain ⟨a, ha, honline⟩ := (Directory.isOnline_iff _ u).1 haccepts
    rw [hworld, (changes_after room haccepts).outbox v, Event.items, ha]
    simp only [← a.privileges.isUnrestricted_eq_testBit]
    cases w.directory.isOnline v <;> simp [honline]

end World

/-! ## Main statement -/

section Main

open World (Step lastStored)

/-- After every run of operations and messages from the empty directory: the stats of a player's
session are those that were stored when a login or a reload loaded them last, and storing stats
does not change them. And if the event of a refresh is dispatched now, then each player who is
online is shown, unless the refreshed player is offline or restricted, the stats that were stored
last for that player, under the name of the account. -/
theorem stats_are_fresh (d : Deployment) (room : String) (scores : ScoreStore) (ss : List Step)
    (u : UserId) :
    let start : World := ⟨{}, scores⟩
    let w := start.steps d room ss
    (w.directory.isOnline u = true → ∃ before s after, ss = before ++ s :: after ∧
      start.LastLoad d room u before s after ∧
      w.directory.sessionStats? u = (start.steps d room before).directory.storedStats? u) ∧
    (∀ v stats, (w.step d room (.operation (.storeStats v stats))).directory.sessionStats? u =
      w.directory.sessionStats? u) ∧
    (w.directory.storedStats? u = (w.directory.account? u).map fun _ => lastStored u ss) ∧
    ∀ m, m.event? d = some (.refreshStats u) → ∀ v,
      (w.step d room (.message m)).directory.outbox v = w.directory.outbox v ++
        match w.directory.account? u with
        | some a =>
          if w.directory.isOnline v && a.isOnline && a.privileges.isUnrestricted then
            [.userStats { user := u, name := a.name, restricted := false
                          stats := lastStored u ss }]
          else []
        | none => [] := by
  intro start w
  have hnew : start.directory.account? u = none := Std.ExtTreeMap.getElem?_empty
  have hstored : w.directory.storedStats? u =
      (w.directory.account? u).map fun _ => lastStored u ss := World.storedStats?_steps hnew ss
  refine ⟨?_, ?_, hstored, ?_⟩
  · intro honline
    refine World.sessionStats?_steps ?_ honline
    rw [Directory.isOnline, hnew, Option.any_none]
  · exact fun v stats => w.directory.sessionStats?_perform_storeStats u v stats
  · intro m hm v
    refine (World.outbox_dispatch_refreshStats hm v).trans ?_
    cases ha : w.directory.account? u with
    | none => rfl
    | some a =>
      rw [Directory.storedStats?, ha, Option.map_some, Option.map_some] at hstored
      simp only [Option.some.inj hstored]

/-- Stats that are stored during a session are not those of the session, but a refresh shows them
to another player. -/
theorem stats_are_fresh_stored_late :
    let ss : List Step := [.operation (.addAccount 7 "cmyui" ⟨3⟩),
      .operation (.addAccount 8 "rapha" ⟨1⟩), .operation (.login 7), .operation (.login 8),
      .operation (.storeStats 7 { playcount := 1 })]
    let start : World := ⟨{}, {}⟩
    let w := start.steps {} "#announce" ss
    let m := (Event.refreshStats 7).toMessage {}
    w.directory.isOnline 7 = true ∧
      (∃ before s after, ss = before ++ s :: after ∧
        start.LastLoad {} "#announce" 7 before s after ∧
        w.directory.sessionStats? 7 =
          (start.steps {} "#announce" before).directory.storedStats? 7) ∧
      w.directory.sessionStats? 7 = some {} ∧
      m.event? {} = some (.refreshStats 7) ∧
      (w.step {} "#announce" (.message m)).directory.outbox 8 =
        [.userStats { user := 7, name := "cmyui", restricted := false
                      stats := { playcount := 1 } }] := by
  intro ss start w m
  obtain ⟨hloaded, -, -, hshown⟩ := stats_are_fresh {} "#announce" {} ss 7
  have honline : w.directory.isOnline 7 = true := by decide +kernel
  have hm : m.event? {} = some (.refreshStats 7) := Message.event?_toMessage {} _
  exact ⟨honline, hloaded honline, by rfl, hm, (hshown m hm 8).trans (by rfl)⟩

end Main

end Coordination
