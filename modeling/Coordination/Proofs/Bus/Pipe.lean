import Coordination.Bus.Pipe
import Mathlib.Data.List.Induction

/-!
# The pipe is a closable queue

Publishers are cloned and dropped, messages are published and received, and the source is dropped,
in any order. What each of these is answered is determined by the record of what was done and
answered before it (`Record.answer`): messages are received in the order in which they were
published, each at once if it is there; the end is reported at once, and only after the last
message and the last publisher; and a wait without either takes its whole time and nothing from
the pipe. What carries this through a run is that the pipe agrees with the record: what was
received, followed by what waits, is what was published (`Agrees.perform`).
-/

namespace Coordination.Pipe

/-- What the holders of a pipe's ends do. -/
inductive Act where
  /-- A publisher is cloned. -/
  | clone
  | dropPublisher
  | dropSource
  | publish (m : Message)
  | recv (wait : Nat)

/-- What the one who acts is answered. -/
inductive Answer where
  | done
  | published
  /-- The pipe is closed: nobody will receive the message. -/
  | refused
  /-- What the source received, and how long it took. -/
  | received (wait : Nat) (arrival : Arrival)
  /-- There is no such end of the pipe any more. -/
  | absent

/-- What the pipe does. Only a publisher can publish, and only the source can receive. -/
def perform (p : Pipe) : Act → Pipe × Answer
  | .clone => (p.clonePublisher, .done)
  | .dropPublisher => (p.dropPublisher, .done)
  | .dropSource => (p.dropSource, .done)
  | .publish m =>
    if p.publishers = 0 then (p, .absent)
    else match p.publish m with
      | some p => (p, .published)
      | none => (p, .refused)
  | .recv wait =>
    if p.hasSource then ((p.recv wait).rest, .received (p.recv wait).wait (p.recv wait).arrival)
    else (p, .absent)

/-! ## Records -/

namespace Act

/-- How many publishers there are after the act, if there were `n` before it. -/
def publishersAfter (n : Nat) : Act → Nat
  | clone => if n = 0 then 0 else n + 1
  | dropPublisher => n - 1
  | dropSource | publish _ | recv _ => n

def keepsSource : Act → Bool
  | dropSource => false
  | clone | dropPublisher | publish _ | recv _ => true

/-- The message that was published, if the act was answered so. -/
def published : Act → Answer → List Message
  | publish m, .published => [m]
  | _, _ => []

end Act

/-- The message that was received, if this was the answer. -/
def Answer.message : Answer → List Message
  | received _ (.message m) => [m]
  | _ => []

/-- What was done and answered, oldest first. -/
abbrev Record := List (Act × Answer)

namespace Record

/-- The messages that were published, oldest first. -/
def published (h : Record) : List Message := h.flatMap fun (act, answer) => act.published answer

/-- The messages that were received, oldest first. -/
def received (h : Record) : List Message := h.flatMap fun (_, answer) => answer.message

/-- How many are left of the first publisher and its clones. -/
def publishers (h : Record) : Nat := h.foldl (fun n (act, _) => act.publishersAfter n) 1

/-- The source has not been dropped. -/
def hasSource (h : Record) : Bool := h.all fun (act, _) => act.keepsSource

/-- What was published and not received. -/
def queued (h : Record) : List Message := h.published.drop h.received.length

/-- What a queue with this record answers. -/
def answer (h : Record) : Act → Answer
  | .clone | .dropPublisher | .dropSource => .done
  | .publish _ =>
    if h.publishers = 0 then .absent else if h.hasSource then .published else .refused
  | .recv wait =>
    if h.hasSource then
      match h.queued with
      | m :: _ => .received 0 (.message m)
      | [] => if h.publishers = 0 then .received 0 .closed else .received wait .nothing
    else .absent

section

variable (h : Record) (act : Act) (answer : Answer)

theorem published_concat :
    published (h ++ [(act, answer)]) = h.published ++ act.published answer := by
  simp [published]

theorem received_concat : received (h ++ [(act, answer)]) = h.received ++ answer.message := by
  simp [received]

theorem publishers_concat :
    publishers (h ++ [(act, answer)]) = act.publishersAfter h.publishers := by
  simp [publishers]

theorem hasSource_concat : hasSource (h ++ [(act, answer)]) = (h.hasSource && act.keepsSource) := by
  simp [hasSource]

end

end Record

/-! ## One act -/

section

variable (p : Pipe) (act : Act)

theorem publishers_perform :
    (p.perform act).1.publishers = act.publishersAfter p.publishers := by
  obtain ⟨waiting, publishers, hasSource⟩ := p
  cases act with
  | clone => by_cases h : publishers = 0 <;> simp [perform, clonePublisher, Act.publishersAfter, h]
  | dropPublisher => rfl
  | dropSource => rfl
  | publish m =>
    by_cases h : publishers = 0 <;> cases hasSource <;>
      simp [perform, publish, Act.publishersAfter, h]
  | recv wait =>
    cases hasSource <;> cases waiting <;> by_cases h : publishers = 0 <;>
      simp [perform, recv, Act.publishersAfter, h]

theorem hasSource_perform : (p.perform act).1.hasSource = (p.hasSource && act.keepsSource) := by
  obtain ⟨waiting, publishers, hasSource⟩ := p
  cases act with
  | clone => by_cases h : publishers = 0 <;> simp [perform, clonePublisher, Act.keepsSource, h]
  | dropPublisher => simp [perform, dropPublisher, Act.keepsSource]
  | dropSource => simp [perform, dropSource, Act.keepsSource]
  | publish m =>
    by_cases h : publishers = 0 <;> cases hasSource <;> simp [perform, publish, Act.keepsSource, h]
  | recv wait =>
    cases hasSource <;> cases waiting <;> by_cases h : publishers = 0 <;>
      simp [perform, recv, Act.keepsSource, h]

/-- Unless the source is dropped, what is published comes behind what waits, and what is received
is taken from the front of it. -/
theorem waiting_perform (h : act.keepsSource = true) :
    p.waiting ++ act.published (p.perform act).2 =
      (p.perform act).2.message ++ (p.perform act).1.waiting := by
  obtain ⟨waiting, publishers, hasSource⟩ := p
  cases act with
  | clone => by_cases h : publishers = 0 <;>
      simp [perform, clonePublisher, Act.published, Answer.message, h]
  | dropPublisher => simp [perform, dropPublisher, Act.published, Answer.message]
  | dropSource => cases h
  | publish m =>
    by_cases h : publishers = 0 <;> cases hasSource <;>
      simp [perform, publish, Act.published, Answer.message, h]
  | recv wait =>
    cases hasSource <;> cases waiting <;> by_cases h : publishers = 0 <;>
      simp [perform, recv, Act.published, Answer.message, h]

/-- Nothing waits in a pipe without source. -/
theorem waiting_perform_of_dropped (h : p.hasSource = false → p.waiting = [])
    (hdropped : (p.perform act).1.hasSource = false) : (p.perform act).1.waiting = [] := by
  cases hkeeps : act.keepsSource with
  | false =>
    cases act with
    | dropSource => rfl
    | clone | dropPublisher | publish | recv => cases hkeeps
  | true =>
    have hsource : p.hasSource = false := by simpa [hasSource_perform, hkeeps] using hdropped
    have hpublished : act.published (p.perform act).2 = [] := by
      cases act with
      | publish m => by_cases hp : p.publishers = 0 <;>
          simp [perform, publish, Act.published, hsource, hp]
      | clone | dropPublisher | dropSource | recv => rfl
    have hwaiting := p.waiting_perform act hkeeps
    rw [h hsource, hpublished, List.nil_append] at hwaiting
    exact (List.append_eq_nil_iff.1 hwaiting.symm).2

end

/-! ## Runs -/

/-- A pipe with the record of what was done with it. -/
structure Recorded where
  pipe : Pipe := {}
  record : Record := []

/-- One act, with its answer put on record. -/
def Recorded.perform (s : Recorded) (act : Act) : Recorded where
  pipe := (s.pipe.perform act).1
  record := s.record ++ [(act, (s.pipe.perform act).2)]

/-- What is done with a new pipe. -/
def run (acts : List Act) : Recorded := acts.foldl Recorded.perform {}

/-- The pipe is what its record says. -/
structure Agrees (s : Recorded) : Prop where
  publishers : s.pipe.publishers = s.record.publishers
  hasSource : s.pipe.hasSource = s.record.hasSource
  waiting : s.record.hasSource = true → s.record.received ++ s.pipe.waiting = s.record.published
  dropped : s.record.hasSource = false → s.pipe.waiting = []

namespace Agrees

variable {s : Recorded} (h : Agrees s) (act : Act)
include h

theorem perform : Agrees (s.perform act) := by
  refine ⟨?_, ?_, ?_, ?_⟩
  · rw [Recorded.perform, publishers_perform, Record.publishers_concat, h.publishers]
  · rw [Recorded.perform, hasSource_perform, Record.hasSource_concat, h.hasSource]
  · intro hsource
    obtain ⟨hbefore, hkeeps⟩ : s.record.hasSource = true ∧ act.keepsSource = true := by
      simpa [Recorded.perform, Record.hasSource_concat] using hsource
    rw [Recorded.perform, Record.received_concat, Record.published_concat, List.append_assoc,
      ← waiting_perform _ _ hkeeps, ← List.append_assoc, h.waiting hbefore]
  · intro hsource
    refine s.pipe.waiting_perform_of_dropped act (fun hbefore => ?_) ?_
    · exact h.dropped (h.hasSource ▸ hbefore)
    · rw [hasSource_perform, h.hasSource, ← Record.hasSource_concat]
      exact hsource

theorem queued (hsource : s.record.hasSource = true) : s.record.queued = s.pipe.waiting := by
  rw [Record.queued, ← h.waiting hsource, List.drop_left]

/-- The pipe answers as its record says. -/
theorem answer : (s.pipe.perform act).2 = s.record.answer act := by
  cases act with
  | clone => rfl
  | dropPublisher => rfl
  | dropSource => rfl
  | publish m =>
    rw [Pipe.perform, Record.answer, h.publishers, Pipe.publish, h.hasSource]
    by_cases hp : s.record.publishers = 0
    · rw [if_pos hp, if_pos hp]
    · rw [if_neg hp, if_neg hp]
      cases s.record.hasSource <;> rfl
  | recv wait =>
    rw [Pipe.perform, Record.answer, h.hasSource]
    cases hsource : s.record.hasSource with
    | false => rfl
    | true =>
      rw [h.queued hsource, if_pos rfl, if_pos rfl, Pipe.recv, h.publishers]
      cases s.pipe.waiting with
      | cons m waiting => rfl
      | nil => by_cases hp : s.record.publishers = 0 <;> simp [hp]

end Agrees

theorem agrees_run (acts : List Act) : Agrees (run acts) := by
  induction acts using List.reverseRecOn with
  | nil => exact ⟨rfl, rfl, fun _ => rfl, fun h => nomatch h⟩
  | append_singleton acts act ih =>
    rw [run, List.foldl_append]
    exact ih.perform act

/-- Whatever was done with a pipe, the next act is answered as the record of it says. As long as the
source is there, what it received and what still waits are the published messages, in their order;
afterwards nothing waits. -/
theorem answers_as_queue (acts : List Act) :
    let s := run acts
    (∀ act, (s.pipe.perform act).2 = s.record.answer act) ∧
    (s.record.hasSource = true → s.record.received ++ s.pipe.waiting = s.record.published) ∧
    (s.record.hasSource = false → s.pipe.waiting = []) :=
  have h := agrees_run acts
  ⟨h.answer, h.waiting, h.dropped⟩

end Coordination.Pipe
