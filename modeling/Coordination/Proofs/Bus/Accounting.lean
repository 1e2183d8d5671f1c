import Coordination.Bus.Playback
import Coordination.Proofs.Bus.Replay

/-!
# What a bus counts and reports

Whatever is done with a bus, one thing occurs after the other: a run begins or ends, a message is
dispatched, or the transport fails to receive one. Each occurrence is counted in one way and
reported in one way (`Occurrence.count`, `Occurrence.lines`). Messages that are dispatched directly
and runs over any source only add to the occurrences, so that at all times the counters are the
count of them and the log is the report of them, in their order (`accounts_useAll`). What the
counters say of the outcomes and the log of the failures follows from these two equations alone
(`accounts_for_every_message`).
-/

namespace Coordination

variable {σ ω : Type}

/-! ## Occurrences -/

/-- What can occur on a bus. -/
inductive Occurrence where
  | started (channels pollTimeout : Nat)
  /-- A message was dispatched. Its handler has logged the lines `own`. -/
  | dispatched (own : List LogLine) (outcome : Outcome)
  /-- The transport failed to receive, for now. -/
  | fault (text : String)
  | ended (ending : Ending)

namespace Occurrence

def outcome? : Occurrence → Option Outcome
  | dispatched _ outcome => some outcome
  | started _ _ | fault _ | ended _ => none

def isFault : Occurrence → Bool
  | fault _ => true
  | started _ _ | dispatched _ _ | ended _ => false

def isClosing : Occurrence → Bool
  | ended .sourceClosed => true
  | started _ _ | dispatched _ _ | fault _ | ended .stopped => false

def count (c : Counters) : Occurrence → Counters
  | dispatched _ outcome => c.record outcome
  | fault _ => c.recordTransportError
  | started _ _ | ended _ => c

/-- What the bus reports, with the counts so far. Of the dispatched messages those that failed or
whose handlers crashed have one line each. -/
def report (c : Counters) : Occurrence → List LogLine
  | started channels pollTimeout => [⟨.info,
      s!"Event bus started: {channels} channels, poll timeout {Text.duration pollTimeout}"⟩]
  | dispatched _ ⟨_, .unrouted⟩ | dispatched _ ⟨_, .delivered _⟩ => []
  | dispatched _ ⟨channel, .failed handler e⟩ =>
    [⟨.warn, s!"Handler {handler} failed on {channel}: {e.message}"⟩]
  | dispatched _ ⟨channel, .panicked handler message⟩ =>
    [⟨.error, s!"Handler {handler} panicked on {channel}: {message}"⟩]
  | fault text => [⟨.warn, s!"Event bus receive error: Redis error: {text}"⟩]
  | ended .stopped => [⟨.info,
      s!"Event bus stopped after {c.received} messages ({c.failures} failures)"⟩]
  | ended .sourceClosed => [⟨.warn, "Event bus source closed, stopping dispatch loop"⟩]

/-- All lines that are logged. A handler's own lines come before the report of its outcome. -/
def lines (c : Counters) : Occurrence → List LogLine
  | dispatched own outcome => own ++ report c (dispatched own outcome)
  | o => report c o

theorem report_dispatched (c : Counters) (own : List LogLine) (outcome : Outcome) :
    report c (dispatched own outcome) = outcome.log := by
  obtain ⟨channel, fate⟩ := outcome
  cases fate <;> rfl

/-- The counters after the occurrences. -/
def countAll (c : Counters) (os : List Occurrence) : Counters := os.foldl count c

/-- The lines of the occurrences, each with what was counted before it. -/
def tell (line : Counters → Occurrence → List LogLine) : Counters → List Occurrence → List LogLine
  | _, [] => []
  | c, o :: os => line c o ++ tell line (o.count c) os

section

variable (line : Counters → Occurrence → List LogLine) (c : Counters) (os ps : List Occurrence)

theorem countAll_append : countAll c (os ++ ps) = countAll (countAll c os) ps := List.foldl_append

theorem tell_append : tell line c (os ++ ps) = tell line c os ++ tell line (countAll c os) ps := by
  induction os generalizing c with
  | nil => rfl
  | cons o os ih =>
    rw [List.cons_append, tell, tell, ih, List.append_assoc]
    rfl

/-- The outcomes are counted by their kinds and the faults apart from them. -/
theorem countAll_eq : countAll c os = (c.recordAll (os.filterMap outcome?)).withErrors
    (c.transportErrors + os.countP isFault) := by
  induction os generalizing c with
  | nil => rfl
  | cons o os ih =>
    rw [countAll, List.foldl_cons, ← countAll, ih]
    cases o with
    | dispatched own outcome =>
      simp [count, outcome?, isFault, Counters.recordAll]
    | fault text =>
      have hfault : c.recordTransportError = c.withErrors (c.transportErrors + 1) := rfl
      rw [count, hfault, Counters.recordAll_withErrors, Counters.withErrors_withErrors,
        List.filterMap_cons_none rfl, List.countP_cons_of_pos rfl]
      exact congrArg _ (Nat.add_right_comm c.transportErrors 1 _)
    | started channels pollTimeout => simp [count, outcome?, isFault, List.filterMap_cons]
    | ended ending => simp [count, outcome?, isFault, List.filterMap_cons]

/-- The bus reports an error for each panic, and for nothing else. -/
theorem countP_error_tell : (tell report c os).countP (·.level = .error) =
    (os.filterMap outcome?).countP Outcome.isPanicked := by
  induction os generalizing c with
  | nil => rfl
  | cons o os ih =>
    rw [tell, List.countP_append, ih]
    cases o with
    | dispatched own outcome =>
      obtain ⟨channel, fate⟩ := outcome
      cases fate <;>
        simp [report, outcome?, Outcome.isPanicked, List.countP_cons, Nat.add_comm]
    | started channels pollTimeout => simp [report, outcome?, List.filterMap_cons]
    | fault text => simp [report, outcome?, List.filterMap_cons]
    | ended ending => cases ending <;> simp [report, outcome?, List.filterMap_cons]

/-- The bus warns of each failure, each fault and each closed source, and of nothing else. -/
theorem countP_warn_tell : (tell report c os).countP (·.level = .warn) =
    (os.filterMap outcome?).countP Outcome.isFailed + os.countP isFault + os.countP isClosing := by
  induction os generalizing c with
  | nil => rfl
  | cons o os ih =>
    rw [tell, List.countP_append, ih]
    cases o with
    | dispatched own outcome =>
      obtain ⟨channel, fate⟩ := outcome
      cases fate <;>
        simp [report, outcome?, isFault, isClosing, Outcome.isFailed, List.countP_cons]
      omega
    | started channels pollTimeout =>
      simp [report, outcome?, isFault, isClosing, List.filterMap_cons]
    | fault text =>
      simp [report, outcome?, isFault, isClosing, List.filterMap_cons, List.countP_cons]
      omega
    | ended ending =>
      cases ending <;>
        simp [report, outcome?, isFault, isClosing, List.filterMap_cons, List.countP_cons]
      omega

end

end Occurrence

/-! ## Outcomes by kind -/

namespace Outcome

/-- Every outcome is of one kind. -/
theorem length_eq_sum (os : List Outcome) : os.length =
    os.countP isDelivered + os.countP isUnrouted + os.countP isFailed + os.countP isPanicked := by
  induction os with
  | nil => rfl
  | cons o os ih =>
    obtain ⟨channel, fate⟩ := o
    cases fate <;>
      simp [ih, List.countP_cons, isDelivered, isUnrouted, isFailed, isPanicked] <;> omega

theorem countP_isFailure (os : List Outcome) :
    os.countP isFailure = os.countP isFailed + os.countP isPanicked := by
  induction os with
  | nil => rfl
  | cons o os ih =>
    obtain ⟨channel, fate⟩ := o
    cases fate <;> simp [ih, List.countP_cons, isFailure, isFailed, isPanicked] <;> omega

end Outcome

/-! ## What a dispatch reports -/

/-- The lines that a message's handler logs itself, if it is invoked. -/
def Registry.ownLines (r : Registry ω) (m : Message) (w : ω) : List LogLine :=
  match r.handler? m.channel, Text.decodeUtf8 m.payload with
  | some h, .ok payload => (h.handle payload w).log
  | _, _ => []

theorem Registry.log_dispatch (r : Registry ω) (m : Message) (w : ω) :
    (r.dispatch m w).log = r.ownLines m w ++ (r.dispatch m w).outcome.log := by
  unfold dispatch ownLines
  cases r.handler? m.channel with
  | none => rfl
  | some h => cases Text.decodeUtf8 m.payload <;> rfl

/-- The dispatch of a message as an occurrence. -/
def Registry.occurrence (r : Registry ω) (m : Message) (w : ω) : Occurrence :=
  .dispatched (r.ownLines m w) (r.dispatch m w).outcome

/-! ## Runs -/

namespace Run

/-- The lines that the run has logged. -/
def lines (s : Run σ ω) : List LogLine := s.log.map LogEntry.line

section

variable (s : Run σ ω)

theorem lines_say (level : LogLevel) (message : String) :
    (s.say level message).lines = s.lines ++ [⟨level, message⟩] :=
  List.map_append

theorem lines_stop (cancelAt : Option Nat) : (s.stop cancelAt).lines =
    s.lines ++ Occurrence.report s.counters (.ended .stopped) := lines_say _ _ _

theorem lines_close : s.close.lines =
    s.lines ++ Occurrence.report s.counters (.ended .sourceClosed) := lines_say _ _ _

theorem lines_noteFault (text : String) : (s.noteFault text).lines =
    s.lines ++ Occurrence.report s.counters (.fault text) := lines_say _ _ _

theorem lines_deliver (r : Registry ω) (m : Message) : (s.deliver r m).lines =
    s.lines ++ Occurrence.lines s.counters (r.occurrence m s.world) := by
  have hlog : (s.deliver r m).lines = s.lines ++ (r.dispatch m s.world).log := by
    simp [lines, deliver, read, Function.comp_def]
  rw [hlog, Registry.log_dispatch, Registry.occurrence, Occurrence.lines,
    Occurrence.report_dispatched]

end

/-- From `s` to `t` the occurrences `os` were counted and reported, and so was the end of the run
if `t` is its end. -/
structure Records (s t : Run σ ω) (os : List Occurrence) : Prop where
  outcomes : t.outcomes = s.outcomes ++ os.filterMap Occurrence.outcome?
  counters : t.counters = Occurrence.countAll s.counters os
  lines : t.lines = s.lines ++
    Occurrence.tell Occurrence.lines s.counters (os ++ t.ending.toList.map .ended)

namespace Records

variable {s t u : Run σ ω} {os : List Occurrence}

theorem refl (h : s.ending = none) : Records s s [] := by
  refine ⟨(List.append_nil _).symm, rfl, ?_⟩
  rw [h]
  exact (List.append_nil _).symm

/-- Only the deliveries, the counters, the log and the ending matter. -/
theorem congr (h : Records s t os) (hd : u.deliveries = t.deliveries)
    (hc : u.counters = t.counters) (hl : u.log = t.log) (he : u.ending = t.ending) :
    Records s u os := by
  refine ⟨?_, hc.trans h.counters, ?_⟩
  · exact (congrArg (List.map Delivery.outcome) hd).trans h.outcomes
  · rw [he]
    exact (congrArg (List.map LogEntry.line) hl).trans h.lines

/-- A run that goes on has reported what occurred, and no end. -/
theorem lines_of_open (h : Records s t os) (ht : t.ending = none) :
    t.lines = s.lines ++ Occurrence.tell Occurrence.lines s.counters os := by
  have := h.lines
  rwa [ht, Option.toList_none, List.map_nil, List.append_nil] at this

/-- A run that has ended has reported its end last. -/
theorem lines_of_ended (h : Records s t os) {e : Ending} (ht : t.ending = some e) :
    t.lines = s.lines ++ Occurrence.tell Occurrence.lines s.counters os ++
      Occurrence.report t.counters (.ended e) := by
  rw [h.lines, ht, h.counters, Occurrence.tell_append, ← List.append_assoc]
  exact congrArg (_ ++ ·) (List.append_nil _)

theorem append (h : Records s t os) (ht : t.ending = none) {ps : List Occurrence}
    (houtcomes : u.outcomes = t.outcomes ++ ps.filterMap Occurrence.outcome?)
    (hcounters : u.counters = Occurrence.countAll t.counters ps)
    (hlines : u.lines = t.lines ++
      Occurrence.tell Occurrence.lines t.counters (ps ++ u.ending.toList.map .ended)) :
    Records s u (os ++ ps) := by
  refine ⟨?_, ?_, ?_⟩
  · rw [houtcomes, h.outcomes, List.filterMap_append, List.append_assoc]
  · rw [hcounters, h.counters, Occurrence.countAll_append]
  · rw [hlines, h.lines_of_open ht, h.counters, List.append_assoc, List.append_assoc os,
      Occurrence.tell_append _ _ os]

theorem stop (h : Records s t os) (ht : t.ending = none) (cancelAt : Option Nat) :
    Records s (t.stop cancelAt) os := by
  rw [← List.append_nil os]
  exact h.append ht (List.append_nil _).symm rfl (t.lines_stop cancelAt)

theorem close (h : Records s t os) (ht : t.ending = none) : Records s t.close os := by
  rw [← List.append_nil os]
  exact h.append ht (List.append_nil _).symm rfl t.lines_close

theorem noteFault (h : Records s t os) (ht : t.ending = none) (text : String) :
    Records s (t.noteFault text) (os ++ [.fault text]) := by
  refine h.append ht (List.append_nil _).symm rfl ?_
  rw [t.lines_noteFault, ending_noteFault, ht]
  rfl

theorem deliver (h : Records s t os) (ht : t.ending = none) (r : Registry ω) (m : Message) :
    Records s (t.deliver r m) (os ++ [r.occurrence m t.world]) := by
  refine h.append ht (t.outcomes_deliver r m) rfl ?_
  rw [t.lines_deliver, ending_deliver, ht]
  exact congrArg (t.lines ++ ·) (List.append_nil _).symm

theorem pause (h : Records s t os) (ht : t.ending = none) (pace : Pace) (cancelAt : Option Nat) :
    Records s (t.pause pace cancelAt) os := by
  by_cases hx : t.isCancelledBy cancelAt (t.now + pace.idleDelay)
  · rw [pause_of_cancelled t pace cancelAt hx]
    exact h.stop ht cancelAt
  · rw [pause_of_not_cancelled t pace cancelAt hx]
    exact h.congr rfl rfl rfl rfl

end Records

section Turns

variable [Source σ] (r : Registry ω) (pace : Pace) (cancelAt : Option Nat)

/-- What the run's next turn dispatches, or fails to receive. -/
def occurrence? (s : Run σ ω) : Option Occurrence :=
  if s.ending.isSome ∨ s.isCancelledBy cancelAt (s.now + (s.reception pace).wait) then none
  else
    match (s.reception pace).arrival with
    | .message m => some (r.occurrence m s.world)
    | .fault text => some (.fault text)
    | .nothing | .closed => none

/-- What `n` turns dispatch, or fail to receive. -/
def occurrences (s : Run σ ω) (n : Nat) : List Occurrence :=
  (List.range n).filterMap fun k => (s.turns r pace cancelAt k).occurrence? r pace cancelAt

theorem occurrences_succ (s : Run σ ω) (n : Nat) :
    s.occurrences r pace cancelAt (n + 1) = s.occurrences r pace cancelAt n ++
      ((s.turns r pace cancelAt n).occurrence? r pace cancelAt).toList := by
  rw [occurrences, List.range_succ, List.filterMap_append]
  cases h : (s.turns r pace cancelAt n).occurrence? r pace cancelAt <;> simp [occurrences, h]

variable {s t : Run σ ω} {os : List Occurrence}

theorem Records.turn (h : Records s t os) (ht : t.ending = none) :
    Records s (t.turn r pace cancelAt) (os ++ (t.occurrence? r pace cancelAt).toList) := by
  by_cases hx : t.isCancelledBy cancelAt (t.now + (t.reception pace).wait)
  · have hnone : t.occurrence? r pace cancelAt = none := if_pos (.inr hx)
    rw [turn_of_cancelled r pace cancelAt ht hx, hnone, Option.toList_none, List.append_nil]
    exact h.stop ht cancelAt
  · have hopen : ¬ (t.ending.isSome ∨ t.isCancelledBy cancelAt (t.now + (t.reception pace).wait)) :=
      by simp [ht, hx]
    have hwait : Records s (t.waited pace) os := h.congr rfl rfl rfl rfl
    rw [occurrence?, if_neg hopen]
    cases ha : (t.reception pace).arrival with
    | message m =>
      rw [turn_of_message r pace cancelAt ht hx ha]
      exact (hwait.deliver ht r m).pause ht pace cancelAt
    | nothing =>
      rw [turn_of_nothing r pace cancelAt ht hx ha, Option.toList_none, List.append_nil]
      exact hwait.pause ht pace cancelAt
    | fault text =>
      rw [turn_of_fault r pace cancelAt ht hx ha]
      exact (hwait.noteFault ht text).pause ht pace cancelAt
    | closed =>
      rw [turn_of_closed r pace cancelAt ht hx ha, Option.toList_none, List.append_nil]
      exact hwait.close ht

/-- At all times a run has counted and reported what occurred, and has its end if it has ended. -/
theorem records_turns (hs : s.ending = none) (n : Nat) :
    Records s (s.turns r pace cancelAt n) (s.occurrences r pace cancelAt n) := by
  induction n with
  | zero => exact .refl hs
  | succ n ih =>
    rw [occurrences_succ, turns_succ_eq_turn]
    cases ht : (s.turns r pace cancelAt n).ending with
    | none => exact ih.turn r pace cancelAt ht
    | some e =>
      have hended : (s.turns r pace cancelAt n).ending.isSome := by simp [ht]
      have hnone : (s.turns r pace cancelAt n).occurrence? r pace cancelAt = none :=
        if_pos (.inl hended)
      rw [turn_of_ended r pace cancelAt hended, hnone, Option.toList_none, List.append_nil]
      exact ih

end Turns

end Run

/-! ## Everything that is done with a bus -/

/-- What can be done with a bus. A run is looked at after some turns, whether or not they have led
to its end. -/
inductive Bus.Use (ω : Type) : Type 1 where
  | dispatch (m : Message)
  | run {σ : Type} [Source σ] (pace : Pace) (source : σ) (cancelAt : Option Nat) (turns : Nat)

/-- A bus in a world, with all that it has logged and all outcomes of its dispatches. What has
occurred is written down beside it. -/
structure Bus.Course (ω : Type) where
  bus : Bus ω
  world : ω
  log : List LogLine := []
  outcomes : List Outcome := []
  occurrences : List Occurrence := []

namespace Bus.Course

/-- A run of the bus over a source, after `n` turns. -/
def run [Source σ] (x : Course ω) (pace : Pace) (source : σ) (cancelAt : Option Nat) (n : Nat) :
    Run σ ω :=
  (Run.start x.bus.registry pace source x.world x.bus.counters).turns x.bus.registry pace cancelAt n

/-- What occurs in a run, from its start to its end. -/
def runOccurrences [Source σ] (x : Course ω) (pace : Pace) (source : σ) (cancelAt : Option Nat)
    (n : Nat) : List Occurrence :=
  .started x.bus.registry.size pace.pollTimeout ::
    (Run.start x.bus.registry pace source x.world x.bus.counters).occurrences x.bus.registry pace
      cancelAt n ++ (x.run pace source cancelAt n).ending.toList.map .ended

def use (x : Course ω) : Use ω → Course ω
  | .dispatch m =>
    let (bus, d) := x.bus.dispatch m x.world
    { bus
      world := d.world
      log := x.log ++ d.log
      outcomes := x.outcomes ++ [d.outcome]
      occurrences := x.occurrences ++ [x.bus.registry.occurrence m x.world] }
  | @Use.run _ _ _ pace source cancelAt n =>
    let run := x.run pace source cancelAt n
    { bus := { x.bus with counters := run.counters }
      world := run.world
      log := x.log ++ run.lines
      outcomes := x.outcomes ++ run.outcomes
      occurrences := x.occurrences ++ x.runOccurrences pace source cancelAt n }

def useAll (x : Course ω) (uses : List (Use ω)) : Course ω := uses.foldl use x

/-- A bus that has not been used. -/
def new (r : Registry ω) (w : ω) : Course ω := { bus := { registry := r }, world := w }

/-- The counters and the log are those of what has occurred, and so are the outcomes. -/
structure Accounts (x : Course ω) : Prop where
  outcomes : x.outcomes = x.occurrences.filterMap Occurrence.outcome?
  counters : x.bus.counters = Occurrence.countAll {} x.occurrences
  log : x.log = Occurrence.tell Occurrence.lines {} x.occurrences

theorem filterMap_ended (e : Option Ending) :
    (e.toList.map Occurrence.ended).filterMap Occurrence.outcome? = [] := by
  cases e <;> rfl

theorem countAll_ended (c : Counters) (e : Option Ending) :
    Occurrence.countAll c (e.toList.map .ended) = c := by
  cases e <;> rfl

/-- A run adds what occurs in it. -/
theorem run_eq [Source σ] (x : Course ω) (pace : Pace) (source : σ) (cancelAt : Option Nat)
    (n : Nat) :
    let run := x.run pace source cancelAt n
    let os := x.runOccurrences pace source cancelAt n
    run.outcomes = os.filterMap Occurrence.outcome? ∧
    run.counters = Occurrence.countAll x.bus.counters os ∧
    run.lines = Occurrence.tell Occurrence.lines x.bus.counters os := by
  have h := Run.records_turns x.bus.registry pace cancelAt (n := n)
    (s := Run.start x.bus.registry pace source x.world x.bus.counters) rfl
  refine ⟨?_, ?_, ?_⟩
  · refine h.outcomes.trans ?_
    rw [runOccurrences, List.cons_append, List.filterMap_cons_none rfl, List.filterMap_append,
      filterMap_ended, List.append_nil]
    rfl
  · refine h.counters.trans ?_
    rw [runOccurrences, Occurrence.countAll_append, countAll_ended]
    rfl
  · exact h.lines

/-- What is added to the occurrences is counted and reported after them. -/
theorem Accounts.append {x y : Course ω} (h : x.Accounts) {os : List Occurrence}
    (hoccurrences : y.occurrences = x.occurrences ++ os)
    (houtcomes : y.outcomes = x.outcomes ++ os.filterMap Occurrence.outcome?)
    (hcounters : y.bus.counters = Occurrence.countAll x.bus.counters os)
    (hlog : y.log = x.log ++ Occurrence.tell Occurrence.lines x.bus.counters os) : y.Accounts := by
  refine ⟨?_, ?_, ?_⟩
  · rw [hoccurrences, houtcomes, h.outcomes, List.filterMap_append]
  · rw [hoccurrences, hcounters, h.counters, Occurrence.countAll_append]
  · rw [hoccurrences, hlog, h.log, h.counters, Occurrence.tell_append]

theorem Accounts.use {x : Course ω} (h : x.Accounts) (u : Use ω) : (x.use u).Accounts := by
  cases u with
  | dispatch m =>
    refine h.append rfl rfl rfl ?_
    show x.log ++ (x.bus.registry.dispatch m x.world).log = _
    rw [Registry.log_dispatch, Registry.occurrence, Occurrence.tell, Occurrence.lines,
      Occurrence.report_dispatched]
    exact congrArg (x.log ++ ·) (List.append_nil _).symm
  | run pace source cancelAt n =>
    obtain ⟨houtcomes, hcounters, hlines⟩ := x.run_eq pace source cancelAt n
    exact h.append rfl (congrArg (x.outcomes ++ ·) houtcomes) hcounters
      (congrArg (x.log ++ ·) hlines)

/-- Whatever is done with a bus, its counters and its log are those of what has occurred. -/
theorem accounts_useAll (r : Registry ω) (w : ω) (uses : List (Use ω)) :
    ((new r w).useAll uses).Accounts := by
  induction uses using List.reverseRecOn with
  | nil => exact ⟨rfl, rfl, rfl⟩
  | append_singleton uses u ih =>
    rw [useAll, List.foldl_append]
    exact ih.use u

/-- The counters tell the outcomes by their kinds, and the transport's errors. -/
theorem Accounts.counters_eq {x : Course ω} (h : x.Accounts) : x.bus.counters = {
    received := x.outcomes.length
    delivered := x.outcomes.countP Outcome.isDelivered
    unrouted := x.outcomes.countP Outcome.isUnrouted
    failed := x.outcomes.countP Outcome.isFailed
    panicked := x.outcomes.countP Outcome.isPanicked
    transportErrors := x.occurrences.countP Occurrence.isFault } := by
  rw [h.counters, Occurrence.countAll_eq, ← h.outcomes, Counters.recordAll_eq]
  simp [Counters.withErrors]

/-- A run that has ended has said so last, with the counts as they are then. -/
theorem getLast?_lines_run [Source σ] (x : Course ω) (pace : Pace) (source : σ)
    (cancelAt : Option Nat) (n : Nat) {e : Ending} {line : LogLine}
    (he : (x.run pace source cancelAt n).ending = some e)
    (hline : Occurrence.report (x.run pace source cancelAt n).counters (.ended e) = [line]) :
    (x.run pace source cancelAt n).lines.getLast? = some line := by
  have h := Run.records_turns x.bus.registry pace cancelAt (n := n)
    (s := Run.start x.bus.registry pace source x.world x.bus.counters) rfl
  have hlines := h.lines_of_ended he
  exact (congrArg List.getLast? (hlines.trans (congrArg _ hline))).trans List.getLast?_concat

/-- Everything that is dispatched is accounted for. At all times each message that a bus has
received is counted under what became of it, the failures are the outcomes that are failures, and
the transport's errors are counted apart. The log is the report of what has occurred, in order: a
handler's own lines, and from the bus a warning for each failure, an error for each panic, a
warning for each error of the transport. A run that was cancelled ends with the counts as they are
then, and a run whose source was closed with a warning instead. -/
theorem accounts_for_every_message (r : Registry ω) (w : ω) (uses : List (Use ω)) :
    let x := (new r w).useAll uses
    let c := x.bus.counters
    (c.received = c.delivered + c.unrouted + c.failed + c.panicked ∧
      c.received = x.outcomes.length ∧
      c.delivered = x.outcomes.countP Outcome.isDelivered ∧
      c.unrouted = x.outcomes.countP Outcome.isUnrouted ∧
      c.failed = x.outcomes.countP Outcome.isFailed ∧
      c.panicked = x.outcomes.countP Outcome.isPanicked ∧
      c.transportErrors = x.occurrences.countP Occurrence.isFault ∧
      c.failures = c.failed + c.panicked ∧ c.failures = x.outcomes.countP Outcome.isFailure) ∧
    (x.outcomes = x.occurrences.filterMap Occurrence.outcome? ∧
      x.log = Occurrence.tell Occurrence.lines {} x.occurrences ∧
      (Occurrence.tell Occurrence.report {} x.occurrences).countP (·.level = .error) = c.panicked ∧
      (Occurrence.tell Occurrence.report {} x.occurrences).countP (·.level = .warn) =
        c.failed + c.transportErrors + x.occurrences.countP Occurrence.isClosing) ∧
    ∀ {σ : Type} [Source σ] (pace : Pace) (source : σ) (cancelAt : Option Nat) (n : Nat),
      let run := x.run pace source cancelAt n
      (run.ending = some .stopped → run.lines.getLast? = some ⟨.info,
        s!"Event bus stopped after {run.counters.received} messages ({run.counters.failures} failures)"⟩) ∧
      (run.ending = some .sourceClosed → run.lines.getLast? =
        some ⟨.warn, "Event bus source closed, stopping dispatch loop"⟩) := by
  intro x c
  have h : x.Accounts := accounts_useAll r w uses
  have hc : c = _ := h.counters_eq
  refine ⟨⟨?_, ?_⟩, ⟨h.outcomes, h.log, ?_, ?_⟩, fun pace source cancelAt n => ⟨?_, ?_⟩⟩
  · rw [hc]
    exact Outcome.length_eq_sum x.outcomes
  · rw [hc]
    exact ⟨rfl, rfl, rfl, rfl, rfl, rfl, rfl, (Outcome.countP_isFailure x.outcomes).symm⟩
  · rw [Occurrence.countP_error_tell, ← h.outcomes, hc]
  · rw [Occurrence.countP_warn_tell, ← h.outcomes, hc]
  · exact fun he => x.getLast?_lines_run pace source cancelAt n he rfl
  · exact fun he => x.getLast?_lines_run pace source cancelAt n he rfl

/-- An unrouted message, a crash, a payload that is no text and an error of the transport are
counted in their places, and the two runs after them end as they do. -/
theorem accounts_for_every_message_mixed :
    let r := ({} : Registry Unit).register "refx:notify"
      ⟨"notify", fun _ world => { world, verdict := .crash none }⟩
    let play : Playback := ⟨[(1, .message ⟨"refx:notify", "7|hello".toUTF8⟩), (0, .fault "reset"),
      (2, .message ⟨"refx:notify", ⟨#[255]⟩⟩)]⟩
    let x := (new r ()).useAll [.dispatch ⟨"other", "".toUTF8⟩, .run {} play none 3]
    let cancelled := x.run {} play (some 0) 1
    let closed := x.run {} (⟨[]⟩ : Playback) none 1
    x.bus.counters = ⟨3, 0, 1, 1, 1, 1⟩ ∧
    x.bus.counters.received = x.outcomes.length ∧
    cancelled.ending = some .stopped ∧
    cancelled.lines.getLast? = some ⟨.info,
      s!"Event bus stopped after {cancelled.counters.received} messages ({cancelled.counters.failures} failures)"⟩ ∧
    closed.ending = some .sourceClosed ∧
    closed.lines.getLast? = some ⟨.warn, "Event bus source closed, stopping dispatch loop"⟩ := by
  intro r play x cancelled closed
  obtain ⟨⟨-, hreceived, -⟩, -, hends⟩ := accounts_for_every_message r ()
    [.dispatch ⟨"other", "".toUTF8⟩, .run {} play none 3]
  have hcancelled : cancelled.ending = some .stopped := by decide +kernel
  have hclosed : closed.ending = some .sourceClosed := by decide +kernel
  exact ⟨by decide +kernel, hreceived, hcancelled, (hends {} play (some 0) 1).1 hcancelled, hclosed,
    (hends {} (⟨[]⟩ : Playback) none 1).2 hclosed⟩

end Bus.Course

end Coordination
