import Coordination.Proofs.Directory.Operations
import Coordination.Proofs.Table
import Mathlib.Data.List.DropRight

/-!
# The ledger of the outboxes

What waits for a player is what was addressed to the player since the outbox was last emptied
(`outbox_performAll`). Four operations empty it: a new account, a login, a logout and a drain.
Every other operation adds what it addresses at the end, and does not change who is online, so
a player who is online now has been online for all that was addressed since.
-/

namespace Coordination

namespace Account

variable (a : Account)

@[simp] theorem isOnline_restrict (reason : String) : (a.restrict reason).isOnline = a.isOnline :=
  isOnline_enqueue _ _

theorem outbox_restrict (reason : String) : (a.restrict reason).outbox =
    a.outbox ++ if a.isOnline then [.restricted reason] else [] :=
  outbox_enqueue _ _

@[simp] theorem outbox_login : a.login.outbox = [] := rfl

@[simp] theorem outbox_logout : a.logout.outbox = [] := rfl

@[simp] theorem outbox_drain : a.drain.outbox = [] := by
  cases h : a.session <;> simp [outbox, drain, h]

end Account

namespace Directory

/-! ## What is addressed to a player -/

namespace Operation

/-- Whether the operation empties the user's outbox. -/
def resets (u : UserId) : Operation → Bool
  | addAccount user _ _ | login user | logout user | drain user => user == u
  | _ => false

/-- What the operation addresses to the user: a snapshot is for everyone, a text for the members
of its room, and the news of a restriction and a notification are for one player. -/
def addressed (d : Directory) (u : UserId) : Operation → List Outbound
  | broadcastStats snapshot => [.userStats snapshot]
  | restrict user reason => if u = user then [.restricted reason] else []
  | notify user message => if u = user then [.notification message] else []
  | sendToRoom room sender text =>
    if d.isMember room u then [.roomMessage room sender (d.senderName sender) text] else []
  | _ => []

variable {d : Directory} {u : UserId} {op : Operation}

theorem adds_of_not_resets (h : op.resets u = false) : op.adds u = false := by
  cases op <;> simp_all [resets, adds]

theorem ne_of_beq_eq_false {user : UserId} (h : (user == u) = false) : u ≠ user := by
  rintro rfl
  simp at h

theorem isOnline_onAccount (h : op.resets u = false) (a : Account) :
    (op.onAccount d u a).isOnline = a.isOnline := by
  cases op with
  | login user => rw [onAccount, if_neg (ne_of_beq_eq_false h)]
  | logout user => rw [onAccount, if_neg (ne_of_beq_eq_false h)]
  | drain user => rw [onAccount, if_neg (ne_of_beq_eq_false h)]
  | storeStats user stats => rw [onAccount]; split <;> rfl
  | reloadStats user => rw [onAccount]; split <;> simp
  | broadcastStats snapshot => exact a.isOnline_enqueue _
  | restrict user reason => rw [onAccount]; split <;> simp
  | notify user message => rw [onAccount]; split <;> simp
  | sendToRoom room sender text => rw [onAccount]; split <;> simp
  | addAccount user name privileges => rfl
  | createRoom room => rfl
  | joinRoom room user => rfl

theorem outbox_onAccount (h : op.resets u = false) (a : Account) :
    (op.onAccount d u a).outbox = a.outbox ++ if a.isOnline then op.addressed d u else [] := by
  cases op with
  | login user => simp [onAccount, addressed, ne_of_beq_eq_false h]
  | logout user => simp [onAccount, addressed, ne_of_beq_eq_false h]
  | drain user => simp [onAccount, addressed, ne_of_beq_eq_false h]
  | storeStats user stats =>
    have hsame : (if u = user then { a with stored := stats } else a).outbox = a.outbox := by
      split <;> rfl
    simpa [onAccount, addressed] using hsame
  | reloadStats user => rw [onAccount]; split <;> simp [addressed]
  | broadcastStats snapshot => exact a.outbox_enqueue _
  | restrict user reason => rw [onAccount, addressed]; split <;> simp [Account.outbox_restrict]
  | notify user message => rw [onAccount, addressed]; split <;> simp [Account.outbox_enqueue]
  | sendToRoom room sender text =>
    rw [onAccount, addressed]
    split <;> simp [Account.outbox_enqueue]
  | addAccount user name privileges => simp [onAccount, addressed]
  | createRoom room => simp [onAccount, addressed]
  | joinRoom room user => simp [onAccount, addressed]

end Operation

section Step

variable (d : Directory) {op : Operation} {u : UserId}

/-- Who is online changes only with an operation that empties the outbox. -/
theorem isOnline_perform (h : op.resets u = false) : (d.perform op).isOnline u = d.isOnline u := by
  unfold isOnline
  rw [account?_perform d op u (Operation.adds_of_not_resets h)]
  cases d.account? u with
  | none => rfl
  | some a => exact Operation.isOnline_onAccount h a

theorem outbox_perform (h : op.resets u = false) : (d.perform op).outbox u =
    d.outbox u ++ if d.isOnline u then op.addressed d u else [] := by
  unfold outbox isOnline
  rw [account?_perform d op u (Operation.adds_of_not_resets h)]
  cases d.account? u with
  | none => rfl
  | some a => exact Operation.outbox_onAccount h a

theorem outbox_eq_nil {d' : Directory} {f : Account → Account}
    (h : d'.account? u = (d.account? u).map f) (hf : ∀ a, (f a).outbox = []) :
    d'.outbox u = [] := by
  unfold outbox
  rw [h]
  cases d.account? u with
  | none => rfl
  | some a => exact hf a

theorem outbox_perform_of_resets (h : op.resets u) : (d.perform op).outbox u = [] := by
  cases op with
  | addAccount user name privileges =>
    obtain rfl : user = u := by simpa [Operation.resets] using h
    simp [perform, addAccount, outbox, account?_putAccount, Account.outbox]
  | login user =>
    obtain rfl : user = u := by simpa [Operation.resets] using h
    exact outbox_eq_nil d (account?_perform d _ _ rfl) fun a => by simp [Operation.onAccount]
  | logout user =>
    obtain rfl : user = u := by simpa [Operation.resets] using h
    exact outbox_eq_nil d (account?_perform d _ _ rfl) fun a => by simp [Operation.onAccount]
  | drain user =>
    obtain rfl : user = u := by simpa [Operation.resets] using h
    exact outbox_eq_nil d (account?_perform d _ _ rfl) fun a => by simp [Operation.onAccount]
  | storeStats | createRoom | joinRoom | reloadStats | broadcastStats | restrict | notify
  | sendToRoom => simp [Operation.resets] at h

end Step

/-! ## The ledger of a run -/

/-- The operations of a run, each with the directory that it met. -/
def history (d : Directory) : List Operation → List (Directory × Operation)
  | [] => []
  | op :: ops => (d, op) :: history (d.perform op) ops

/-- What a run has addressed to the user since it last emptied the user's outbox. -/
def pending (u : UserId) (run : List (Directory × Operation)) : List Outbound :=
  (run.rtakeWhile fun x => !x.2.resets u).flatMap fun x => x.2.addressed x.1 u

section Run

variable (d : Directory) (ops : List Operation) (op : Operation) (u : UserId)

theorem performAll_concat : d.performAll (ops ++ [op]) = (d.performAll ops).perform op := by
  simp [performAll]

theorem history_concat : d.history (ops ++ [op]) = d.history ops ++ [(d.performAll ops, op)] := by
  induction ops generalizing d with
  | nil => rfl
  | cons first ops ih => exact congrArg ((d, first) :: ·) (ih (d.perform first))

theorem pending_concat (run : List (Directory × Operation)) :
    pending u (run ++ [(d, op)]) =
      if op.resets u then [] else pending u run ++ op.addressed d u := by
  unfold pending
  rw [List.rtakeWhile_concat]
  cases op.resets u <;> simp

/-- The invariant of a run: what waits for a player who is online is what is pending, and
nothing waits for anyone else. -/
theorem outbox_performAll : (({} : Directory).performAll ops).outbox u =
    if (({} : Directory).performAll ops).isOnline u then pending u (({} : Directory).history ops)
    else [] := by
  induction ops using List.reverseRecOn with
  | nil => rfl
  | append_singleton ops op ih =>
    rw [performAll_concat, history_concat, pending_concat]
    cases h : op.resets u with
    | true => simp [outbox_perform_of_resets _ h]
    | false =>
      rw [outbox_perform _ h, isOnline_perform _ h, ih]
      cases (({} : Directory).performAll ops).isOnline u <;> simp

end Run

/-! ## Who is online -/

section Online

variable (d : Directory) (u : UserId)

theorem isOnline_eq_isSome : d.isOnline u = ((d.account? u).bind Account.session).isSome := by
  unfold isOnline
  cases d.account? u <;> rfl

theorem run_notify_eq_error_iff (message : String) (e : DirectoryError) (d' : Directory) :
    (notify u message).run d = .error e d' ↔
      (d.account? u).bind Account.session = none ∧ e = .notOnline u ∧ d' = d := by
  unfold notify enqueue
  rw [run_updateOnline, isOnline_eq_isSome]
  cases (d.account? u).bind Account.session <;> simp [eq_comm]

theorem onlineCount_eq_card : d.onlineCount = Nat.card { user // d.isOnline user } := by
  rw [Nat.card_congr (Equiv.subtypeEquivRight (isOnline_iff d))]
  exact countP_toList_eq_card d.accounts Account.isOnline

end Online

/-- After every run from the empty directory: a drain returns what the run has addressed to the
player, in order, since it last emptied the player's outbox, and nothing for a player who is not
online; a notification is refused for want of a session and for nothing else, and then changes
nothing; and as many players are counted and reached by a broadcast as are online. -/
theorem outbox_ledger (ops : List Operation) (u : UserId) :
    let d := ({} : Directory).performAll ops
    (d.drain u).1 =
      (if d.isOnline u then pending u (({} : Directory).history ops) else []) ∧
    (∀ message e d', (notify u message).run d = .error e d' ↔
      (d.account? u).bind Account.session = none ∧ e = .notOnline u ∧ d' = d) ∧
    d.onlineCount = Nat.card { user // d.isOnline user } ∧
    ∀ snapshot, (d.broadcastStats snapshot).1 = d.onlineCount := by
  intro d
  refine ⟨?_, ?_, ?_, ?_⟩
  · exact outbox_performAll ops u
  · exact run_notify_eq_error_iff d u
  · exact onlineCount_eq_card d
  · exact fst_broadcastStats d

end Directory

end Coordination
