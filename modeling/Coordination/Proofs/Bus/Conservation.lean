import Coordination.Bus.Playback
import Coordination.Bus.Timeline
import Coordination.Proofs.Bus.Turn
import Mathlib.Data.Seq.Basic

/-!
# Messages are neither lost nor duplicated

A source keeps its messages if receiving one takes it from the front of those that are left and
nothing else takes any. Over such a source the dispatched messages, followed by what is left,
are at all times the messages that the source had at the start (`messages_append_left`). Both
sources of this library keep their messages.
-/

namespace Coordination

variable {σ ω : Type}

/-- The message that arrives, if one does. -/
def Arrival.messages : Arrival → List Message
  | .message m => [m]
  | .nothing | .fault _ | .closed => []

/-- `left` are the messages that a source still has, oldest first: there may be infinitely
many. Only a message that is received is taken from them. -/
def Source.Keeps [Source σ] (left : σ → Stream'.Seq Message) : Prop :=
  ∀ (source : σ) (now limit : Nat),
    let got := Source.recv source now limit
    left source = (Stream'.Seq.ofList got.arrival.messages).append (left got.rest)

/-- A source with finitely many messages keeps them. -/
theorem Source.keeps_of_list [Source σ] {left : σ → List Message}
    (h : ∀ (source : σ) (now limit : Nat),
      let got := Source.recv source now limit
      left source = got.arrival.messages ++ left got.rest) :
    Source.Keeps fun source : σ => Stream'.Seq.ofList (left source) := by
  intro source now limit
  exact (congrArg Stream'.Seq.ofList (h source now limit)).trans (Stream'.Seq.ofList_append _ _)

/-! ## Runs -/

namespace Run

variable [Source σ] (r : Registry ω) (pace : Pace) (cancelAt : Option Nat)

/-- What was dispatched, followed by what the source has left. -/
def history (left : σ → Stream'.Seq Message) (s : Run σ ω) : Stream'.Seq Message :=
  (Stream'.Seq.ofList s.messages).append (left s.source)

/-- A wait that is abandoned leaves the source as it was, and a message that is received is
dispatched. -/
theorem history_turn {left : σ → Stream'.Seq Message} (hleft : Source.Keeps left)
    {s : Run σ ω} (hs : s.ending = none) :
    (s.turn r pace cancelAt).history left = s.history left := by
  have hgot : left s.source =
      (Stream'.Seq.ofList (s.reception pace).arrival.messages).append
        (left (s.reception pace).rest) := hleft s.source s.now pace.pollTimeout
  refine turn_cases (P := fun t => t.history left = s.history left) r pace cancelAt hs
    ?_ ?_ ?_ ?_ ?_
  · exact fun _ => rfl
  · intro m _ hm
    rw [history, history, hgot, hm, ← Stream'.Seq.append_assoc, ← Stream'.Seq.ofList_append]
    simp [Arrival.messages]
  · intro _ hn
    rw [history, history, hgot, hn]
    simp [Arrival.messages]
  · intro text _ hf
    rw [history, history, hgot, hf]
    simp [Arrival.messages, messages]
  · intro _ hc
    rw [history, history, hgot, hc]
    simp [Arrival.messages, messages]

/-- At all times the dispatched messages and the ones that are left are, in this order, the
messages of the source at the start. -/
theorem messages_append_left {left : σ → Stream'.Seq Message} (hleft : Source.Keeps left)
    (source : σ) (w : ω) (c : Counters) (n : Nat) :
    ((Run.start r pace source w c).turns r pace cancelAt n).history left = left source := by
  refine turns_induction r pace cancelAt (P := fun t => t.history left = left source) ?_ ?_ n
  · exact Stream'.Seq.nil_append _
  · intro t ht hs
    rw [history_turn r pace cancelAt hleft hs, ht]

end Run

/-! ## The sources of this library -/

namespace Playback

/-- The messages that are still to be played. -/
def left (p : Playback) : List Message := p.items.flatMap fun item => item.2.messages

theorem keeps_left : Source.Keeps fun p : Playback => Stream'.Seq.ofList p.left := by
  refine Source.keeps_of_list fun p now limit => ?_
  obtain ⟨items⟩ := p
  show left ⟨items⟩ = (recv ⟨items⟩ limit).arrival.messages ++ (recv ⟨items⟩ limit).rest.left
  cases items with
  | nil => rfl
  | cons item rest =>
    obtain ⟨after, arrival⟩ := item
    by_cases h : limit ≤ after
    · simp [recv, h, left, Arrival.messages]
    · simp [recv, h, left]

end Playback

namespace Script

/-- The messages that are going to be published. -/
def messages (s : Script) : List Message :=
  s.filterMap fun item => match item.2 with
    | .publish m => some m
    | .close | .cancel => none

@[simp] theorem messages_nil : messages [] = [] := rfl

@[simp] theorem messages_cons_publish (time : Nat) (m : Message) (s : Script) :
    messages ((time, .publish m) :: s) = m :: messages s := rfl

@[simp] theorem messages_cons_close (time : Nat) (s : Script) :
    messages ((time, .close) :: s) = messages s := rfl

@[simp] theorem messages_cons_cancel (time : Nat) (s : Script) :
    messages ((time, .cancel) :: s) = messages s := rfl

theorem messages_append (s t : Script) : messages (s ++ t) = messages s ++ messages t :=
  List.filterMap_append

end Script

namespace Timeline

/-- The messages in the pipe and those that will be published into it. -/
def left (t : Timeline) : List Message :=
  t.pipe.waiting ++ if t.pipe.hasSource then t.upcoming.messages else []

/-- What is published is queued at the end, as long as the pipe has its source. -/
theorem foldl_apply (p : Pipe) (s : Script) :
    (s.foldl (fun p item => apply p item.2) p).waiting =
        p.waiting ++ (if p.hasSource then s.messages else []) ∧
      (s.foldl (fun p item => apply p item.2) p).hasSource = p.hasSource := by
  induction s generalizing p with
  | nil => simp
  | cons item s ih =>
    obtain ⟨time, happening⟩ := item
    rw [List.foldl_cons]
    cases happening with
    | publish m =>
      obtain ⟨hw, hs⟩ := ih (apply p (.publish m))
      cases hp : p.hasSource with
      | true =>
        have hq : apply p (.publish m) = { p with waiting := p.waiting ++ [m] } := by
          simp [apply, Pipe.publish, hp]
        rw [hw, hs, hq]
        exact ⟨by simp [hp], hp⟩
      | false =>
        have hq : apply p (.publish m) = p := by simp [apply, Pipe.publish, hp]
        rw [hw, hs, hq]
        exact ⟨by simp [hp], hp⟩
    | close => exact ih p.dropPublisher
    | cancel => exact ih p

/-- The steps that are due by `now`. -/
def due (t : Timeline) (now : Nat) : Script := t.upcoming.takeWhile (·.1 ≤ now)

theorem due_append_upcoming (t : Timeline) (now : Nat) :
    t.due now ++ (t.advance now).upcoming = t.upcoming :=
  List.takeWhile_append_dropWhile

theorem hasSource_advance (t : Timeline) (now : Nat) :
    (t.advance now).pipe.hasSource = t.pipe.hasSource :=
  (foldl_apply t.pipe (t.due now)).2

theorem waiting_advance (t : Timeline) (now : Nat) :
    (t.advance now).pipe.waiting =
      t.pipe.waiting ++ if t.pipe.hasSource then (t.due now).messages else [] :=
  (foldl_apply t.pipe (t.due now)).1

/-- The passing of time takes no message. -/
theorem left_advance (t : Timeline) (now : Nat) : (t.advance now).left = t.left := by
  rw [left, left, waiting_advance, hasSource_advance, ← due_append_upcoming t now,
    Script.messages_append, List.append_assoc]
  split <;> rfl

theorem left_recv_pipe (t : Timeline) (limit : Nat) :
    t.left = (t.pipe.recv limit).arrival.messages ++
      left { t with pipe := (t.pipe.recv limit).rest } := by
  obtain ⟨⟨waiting, publishers, hasSource⟩, upcoming⟩ := t
  cases waiting with
  | nil => by_cases h : publishers = 0 <;> simp [Pipe.recv, h, left, Arrival.messages]
  | cons m waiting => cases hasSource <;> simp [Pipe.recv, left, Arrival.messages]

theorem keeps_left : Source.Keeps fun t : Timeline => Stream'.Seq.ofList t.left := by
  refine Source.keeps_of_list fun t now limit => ?_
  show t.left = (t.recv now limit).arrival.messages ++ (t.recv now limit).rest.left
  rw [← left_advance t now, recv]
  split
  · rename_i time _ _ harrival hupcoming
    split
    · rw [← left_advance (t.advance now) time]
      exact left_recv_pipe _ 0
    · have := left_recv_pipe (t.advance now) limit
      rwa [harrival] at this
  · exact left_recv_pipe _ limit

end Timeline

end Coordination
