import Coordination.Proofs.Service.Effects

/-!
# Restrictions last

Whatever happens to the world, the privileges of an account either stay as they are or lose the
public bit, unless the account is created anew (`privileges?_step`). Taking the bit away twice is
taking it away once, so the privileges of a restricted account are the same after every run. A
message shows stats of nobody who is restricted when it is dispatched (`outbox_dispatch`).
Together: no message shows a player who has been restricted to anyone, until the account is
created anew (`restriction_lasts`).
-/

namespace Coordination

open Directory (Operation)

namespace Privileges

theorem map_restrict_cases (c : Bool) (o : Option Privileges) :
    (o.map fun p => if c then p.restrict else p) = o ∨
    (o.map fun p => if c then p.restrict else p) = o.map restrict := by
  cases c <;> simp

end Privileges

/-! ## Operations -/

/-- Whether the operation is to restrict the user. -/
def Directory.Operation.restricts (u : UserId) : Operation → Bool
  | restrict user _ => decide (u = user)
  | _ => false

theorem Account.privileges_ite {a b : Account} (c : Prop) [Decidable c]
    (h : b.privileges = a.privileges) : (if c then b else a).privileges = a.privileges := by
  split
  · exact h
  · rfl

namespace Directory

theorem Operation.privileges_onAccount (d : Directory) (u : UserId) (op : Operation)
    (a : Account) : (op.onAccount d u a).privileges =
      if op.restricts u then a.privileges.restrict else a.privileges := by
  cases op with
  | restrict user reason =>
    by_cases hu : u = user
    · simp only [onAccount, restricts, hu, if_true, decide_true]
      rfl
    · simp [onAccount, restricts, hu]
  | storeStats user stats => exact Account.privileges_ite _ rfl
  | login user => exact Account.privileges_ite _ rfl
  | logout user => exact Account.privileges_ite _ rfl
  | reloadStats user => exact Account.privileges_ite _ rfl
  | notify user message => exact Account.privileges_ite _ rfl
  | sendToRoom room sender text => exact Account.privileges_ite _ rfl
  | drain user => exact Account.privileges_ite _ rfl
  | broadcastStats snapshot => rfl
  | addAccount user name privileges => rfl
  | createRoom room => rfl
  | joinRoom room user => rfl

theorem privileges?_perform (d : Directory) (op : Operation) (u : UserId)
    (h : op.adds u = false) : (d.perform op).privileges? u =
      (d.privileges? u).map fun p => if op.restricts u then p.restrict else p := by
  unfold privileges?
  rw [account?_perform d op u h, Option.map_map, Option.map_map]
  exact Option.map_congr fun a _ => op.privileges_onAccount d u a

end Directory

/-! ## Messages -/

theorem Account.Becomes.privileges_eq {a a' : Account} {restricts refreshes : Bool}
    {items : List Outbound} (h : a.Becomes a' restricts refreshes items) :
    a'.privileges = if restricts then a.privileges.restrict else a.privileges := by
  refine Privileges.eq_of_testBit_eq fun i => ?_
  rw [h.privileges]
  cases restricts with
  | false => simp
  | true => simp [Privileges.testBit_restrict, bne]

theorem Account.Becomes.outbox_eq {a a' : Account} {restricts refreshes : Bool}
    {items : List Outbound} (h : a.Becomes a' restricts refreshes items) :
    a'.outbox = a.outbox ++ if a.isOnline then items else [] := by
  cases hs : a.session <;> simp [outbox, isOnline, h.session, hs]

namespace Event

variable {room : String} {w w' : World} {event : Event}

theorem Changes.privileges? (h : event.Changes room w w') (u : UserId) :
    w'.directory.privileges? u =
      (w.directory.privileges? u).map fun p => if event.restricts u then p.restrict else p := by
  unfold Directory.privileges?
  rw [Option.map_map]
  exact h.map_account? fun a a' hbecomes => hbecomes.privileges_eq

/-- What an event puts into an outbox comes after what is there. -/
theorem Changes.outbox (h : event.Changes room w w') (u : UserId) : w'.directory.outbox u =
    w.directory.outbox u ++ if w.directory.isOnline u then event.items room w u else [] := by
  unfold Directory.outbox Directory.isOnline
  rw [h.map_account? fun a a' hbecomes => hbecomes.outbox_eq]
  cases w.directory.account? u <;> rfl

/-- An event shows the stats only of a player who is not restricted. -/
theorem isUnrestricted_of_mem_items {u : UserId} {snapshot : PlayerSnapshot}
    (h : .userStats snapshot ∈ event.items room w u) :
    (w.directory.privileges? snapshot.user).any Privileges.isUnrestricted := by
  unfold Directory.privileges?
  cases event with
  | refreshStats user =>
    simp only [items] at h
    cases ha : w.directory.account? user with
    | none => simp [ha] at h
    | some a =>
      simp only [ha, ← a.privileges.isUnrestricted_eq_testBit] at h
      cases hp : a.privileges.isUnrestricted with
      | false => simp [hp] at h
      | true =>
        simp only [hp, if_true, List.mem_singleton, Outbound.userStats.injEq] at h
        simp [h, ha, hp]
  | announce id =>
    simp only [items] at h
    split at h
    · split at h <;> simp at h
    · simp at h
  | restrict user reason =>
    simp only [items] at h
    split at h <;> simp at h
  | notify user message =>
    simp only [items] at h
    split at h <;> simp at h

end Event

/-- A message puts items behind those that wait for a player, and among them stats only of
players who are not restricted when it is dispatched. -/
theorem outbox_dispatch (d : Deployment) (room : String) (m : Message) (w : World) (u : UserId) :
    ∃ items, ((d.registry room).dispatch m w).world.directory.outbox u =
        w.directory.outbox u ++ items ∧
      ∀ snapshot, .userStats snapshot ∈ items →
        (w.directory.privileges? snapshot.user).any Privileges.isUnrestricted := by
  rcases dispatch_cases d room m w with ⟨-, -, hworld⟩ | ⟨-, -, -, hworld⟩ |
    ⟨event, -, haccepts, -, hworld⟩
  · exact ⟨[], by rw [hworld, List.append_nil], by simp⟩
  · exact ⟨[], by rw [hworld, List.append_nil], by simp⟩
  · refine ⟨_, by rw [hworld, (changes_after room haccepts).outbox u], ?_⟩
    intro snapshot hsnapshot
    split at hsnapshot
    · exact Event.isUnrestricted_of_mem_items hsnapshot
    · simp at hsnapshot

/-! ## Runs -/

namespace World

/-- Something that happens to the world: an operation on the directory, a message on the bus, or
a change of what is stored of scores. -/
inductive Step where
  | operation (op : Operation)
  | message (m : Message)
  | scores (t : ScoreStore)

/-- The world after a step, with messages dispatched by the deployment's registry. -/
def step (d : Deployment) (room : String) (w : World) : Step → World
  | .operation op => { w with directory := w.directory.perform op }
  | .message m => ((d.registry room).dispatch m w).world
  | .scores t => { w with scores := t }

/-- The world after steps that follow one another. -/
def steps (d : Deployment) (room : String) (w : World) (ss : List Step) : World :=
  ss.foldl (step d room) w

namespace Step

/-- Whether the step creates the user's account, in place of any earlier one. -/
def adds (u : UserId) : Step → Bool
  | operation op => op.adds u
  | message _ | scores _ => false

/-- The step restricts the user and is not refused: it is the operation, or a message that
carries the event. -/
def Restricts (d : Deployment) (room : String) (w : World) (u : UserId) : Step → Prop
  | operation op => ∃ reason d', op = .restrict u reason ∧
      (Directory.restrict u reason).run w.directory = .ok () d'
  | message m => (∃ reason, m.event? d = some (.restrict u reason)) ∧
      ((d.registry room).dispatch m w).outcome.isDelivered
  | scores _ => False

end Step

section Steps

variable {d : Deployment} {room : String} {w : World} {s : Step} {u : UserId}

theorem steps_concat {ss : List Step} :
    w.steps d room (ss ++ [s]) = (w.steps d room ss).step d room s :=
  List.foldl_append

/-- A step that does not create the account leaves its privileges alone or takes the public bit
away. -/
theorem privileges?_step (h : s.adds u = false) :
    (w.step d room s).directory.privileges? u = w.directory.privileges? u ∨
    (w.step d room s).directory.privileges? u =
      (w.directory.privileges? u).map Privileges.restrict := by
  cases s with
  | operation op =>
    show (w.directory.perform op).privileges? u = _ ∨ (w.directory.perform op).privileges? u = _
    rw [w.directory.privileges?_perform op u h]
    exact Privileges.map_restrict_cases _ _
  | message m =>
    rcases dispatch_cases d room m w with ⟨-, -, hworld⟩ | ⟨-, -, -, hworld⟩ |
      ⟨event, -, haccepts, -, hworld⟩
    · exact Or.inl (by rw [step, hworld])
    · exact Or.inl (by rw [step, hworld])
    · rw [step, hworld, (changes_after room haccepts).privileges? u]
      exact Privileges.map_restrict_cases _ _
  | scores t => exact Or.inl rfl

theorem privileges?_of_restricts (h : s.Restricts d room w u) :
    ∃ p, w.directory.privileges? u = some p ∧
      (w.step d room s).directory.privileges? u = some p.restrict := by
  have hknown (hsome : (w.directory.account? u).isSome)
      (hmap : (w.step d room s).directory.privileges? u =
        (w.directory.privileges? u).map Privileges.restrict) :
      ∃ p, w.directory.privileges? u = some p ∧
        (w.step d room s).directory.privileges? u = some p.restrict := by
    obtain ⟨a, ha⟩ := Option.isSome_iff_exists.1 hsome
    have hp : w.directory.privileges? u = some a.privileges := by
      rw [Directory.privileges?, ha, Option.map_some]
    exact ⟨a.privileges, hp, by rw [hmap, hp, Option.map_some]⟩
  cases s with
  | operation op =>
    obtain ⟨reason, d', rfl, hrun⟩ := h
    refine hknown ?_ ?_
    · rw [Directory.run_restrict] at hrun
      split at hrun
      · assumption
      · cases hrun
    · refine (w.directory.privileges?_perform (.restrict u reason) u rfl).trans ?_
      simp [Operation.restricts]
  | message m =>
    obtain ⟨⟨reason, hm⟩, hdelivered⟩ := h
    obtain ⟨haccepts, hworld⟩ := after_of_delivered room hm hdelivered
    have hchanges := changes_after room haccepts
    rw [← hworld] at hchanges
    refine hknown haccepts ((hchanges.privileges? u).trans ?_)
    simp
  | scores t => exact h.elim

/-- Privileges without the public bit stay as they are in a run that does not create the account
anew. -/
theorem privileges?_steps {p : Privileges} {ss : List Step}
    (hp : w.directory.privileges? u = some p.restrict) (h : ∀ s ∈ ss, s.adds u = false) :
    (w.steps d room ss).directory.privileges? u = some p.restrict := by
  induction ss generalizing w with
  | nil => exact hp
  | cons s ss ih =>
    have hstep : (w.step d room s).directory.privileges? u = some p.restrict := by
      rcases privileges?_step (h s List.mem_cons_self) with hsame | hmap
      · exact hsame.trans hp
      · rw [hmap, hp, Option.map_some, Privileges.restrict_restrict]
    exact ih hstep fun t ht => h t (List.mem_cons_of_mem s ht)

end Steps

end World

/-! ## Main statement -/

section Main

variable {d : Deployment} {room : String} {w : World} {u : UserId}

open World (Step)

/-- From a restriction on and until the account is created anew: the account lacks the public bit
and has the other bits that it had, and no message shows stats of its player to anyone. -/
theorem restriction_lasts {s : Step} {ss : List Step} (h : s.Restricts d room w u)
    (hadds : ∀ t ∈ ss, t.adds u = false) :
    let w' := (w.step d room s).steps d room ss
    (∃ p p', w.directory.privileges? u = some p ∧ w'.directory.privileges? u = some p' ∧
      p'.isUnrestricted = false ∧
      ∀ i, i ≠ 0 → p'.bits.toNat.testBit i = p.bits.toNat.testBit i) ∧
    ∀ m v, ∃ items,
      (w'.step d room (.message m)).directory.outbox v = w'.directory.outbox v ++ items ∧
      ∀ snapshot, .userStats snapshot ∈ items → snapshot.user ≠ u := by
  intro w'
  obtain ⟨p, hp, hrestricted⟩ := World.privileges?_of_restricts h
  have hlast : w'.directory.privileges? u = some p.restrict :=
    World.privileges?_steps hrestricted hadds
  constructor
  · refine ⟨p, p.restrict, hp, hlast, p.isUnrestricted_restrict, ?_⟩
    intro i hi
    simp [Privileges.testBit_restrict, hi]
  · intro m v
    obtain ⟨items, hitems, hshown⟩ := outbox_dispatch d room m w' v
    refine ⟨items, hitems, ?_⟩
    rintro snapshot hsnapshot rfl
    have hpublic := hshown snapshot hsnapshot
    rw [hlast, Option.any_some, Privileges.isUnrestricted_restrict] at hpublic
    exact Bool.false_ne_true hpublic

/-- A player who is restricted by a message stays restricted in the next session, with new stats
and a refresh. -/
theorem restriction_lasts_relogin :
    let w : World := ⟨twoOnline, {}⟩
    let s : Step := .message ((Event.restrict 7 "multiaccounting").toMessage {})
    let ss : List Step := [.operation (.logout 7), .operation (.login 7),
      .operation (.storeStats 7 { playcount := 1 }),
      .message ((Event.refreshStats 7).toMessage {})]
    let w' := (w.step {} "#announce" s).steps {} "#announce" ss
    w'.directory.privileges? 7 = some ⟨2⟩ ∧
      ∀ m v, ∃ items,
        (w'.step {} "#announce" (.message m)).directory.outbox v =
          w'.directory.outbox v ++ items ∧
        ∀ snapshot, .userStats snapshot ∈ items → snapshot.user ≠ 7 := by
  intro w s ss w'
  have hrestricts : s.Restricts {} "#announce" w 7 :=
    ⟨⟨_, Message.event?_toMessage {} _⟩, by decide +kernel⟩
  have hadds : ∀ t ∈ ss, t.adds 7 = false := by
    simp [ss, Step.adds, Operation.adds]
  have hbits : w'.directory.privileges? 7 = some ⟨2⟩ := by decide +kernel
  exact ⟨hbits, (restriction_lasts hrestricts hadds).2⟩

end Main

end Coordination
