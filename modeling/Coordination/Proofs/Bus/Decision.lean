import Mathlib.Data.List.Basic
import Coordination.Bus.Dispatch
import Coordination.Proofs.Text.WellFormed

/-!
# What a dispatch decides

A message goes to the handler that was registered last for its channel (`IsLastFor`), if there is
one, with the text that its payload encodes, if it encodes one. Who is invoked, how often and with
what is told by the handlers themselves: handlers that note their invocations react as they do
without (`dispatch_noting`), and after a dispatch they have noted nothing, or one invocation of
the last handler (`dispatch_decides`).
-/

namespace Coordination

variable {ω : Type}

/-! ## Registrations in a row -/

namespace Registry

/-- Registration number `n` is that of `h` for the channel, and no later one is for it. -/
def IsLastFor (entries : List (String × Handler ω)) (channel : String) (n : ℕ) (h : Handler ω) :
    Prop :=
  ∃ before after, entries = before ++ (channel, h) :: after ∧ before.length = n ∧
    channel ∉ after.map Prod.fst

section

variable {entries : List (String × Handler ω)} {channel : String} {n : ℕ} {h : Handler ω}

/-- Handlers of other channels do not matter. -/
theorem handler?_foldl (hne : channel ∉ entries.map Prod.fst) (r : Registry ω) :
    (entries.foldl (fun r e => r.register e.1 e.2) r).handler? channel = r.handler? channel := by
  induction entries generalizing r with
  | nil => rfl
  | cons e entries ih =>
    rw [List.map_cons, List.mem_cons, not_or] at hne
    rw [List.foldl_cons, ih hne.2, handler?_register, if_neg hne.1]

theorem handler?_of_notMem (hne : channel ∉ entries.map Prod.fst) :
    (ofList entries).handler? channel = none := by
  have hempty : ({} : Registry ω).handler? channel = none := Std.ExtTreeMap.getElem?_empty
  exact (handler?_foldl hne {}).trans hempty

theorem IsLastFor.handler? (hlast : IsLastFor entries channel n h) :
    (ofList entries).handler? channel = some h := by
  obtain ⟨before, after, rfl, -, hafter⟩ := hlast
  rw [ofList, List.foldl_append, List.foldl_cons]
  refine (handler?_foldl hafter _).trans ?_
  rw [handler?_register, if_pos rfl]

/-- Among the registrations for a channel there is a last one. -/
theorem exists_isLastFor (hmem : channel ∈ entries.map Prod.fst) :
    ∃ n h, IsLastFor entries channel n h := by
  induction entries with
  | nil => cases hmem
  | cons e entries ih =>
    by_cases hlater : channel ∈ entries.map Prod.fst
    · obtain ⟨n, h, before, after, rfl, rfl, hafter⟩ := ih hlater
      exact ⟨_, h, e :: before, after, rfl, rfl, hafter⟩
    · obtain rfl : channel = e.1 := by
        rw [List.map_cons, List.mem_cons] at hmem
        exact hmem.resolve_right hlater
      exact ⟨0, e.2, [], entries, rfl, rfl, hlater⟩

end

/-- Where a message goes: nowhere, to a handler that is not told what the payload is since it is no
text, or to a handler that is handed the text. -/
inductive Destination (entries : List (String × Handler ω)) (m : Message) : Prop where
  | nobody (hne : m.channel ∉ entries.map Prod.fst)
  | untold {n : ℕ} {h : Handler ω} {fault : Text.Utf8Fault}
      (hlast : IsLastFor entries m.channel n h) (hfault : Text.decodeUtf8 m.payload = .error fault)
  | told {n : ℕ} {h : Handler ω} {text : String}
      (hlast : IsLastFor entries m.channel n h) (htext : text.toUTF8 = m.payload)

theorem destination (entries : List (String × Handler ω)) (m : Message) :
    Destination entries m := by
  by_cases hmem : m.channel ∈ entries.map Prod.fst
  · obtain ⟨n, h, hlast⟩ := exists_isLastFor hmem
    cases hdecode : Text.decodeUtf8 m.payload with
    | error fault => exact .untold hlast hdecode
    | ok text => exact .told hlast (Text.decodeUtf8_eq_ok_iff.1 hdecode)
  · exact .nobody hmem

theorem IsLastFor.mem {entries : List (String × Handler ω)} {channel : String} {n : ℕ}
    {h : Handler ω} (hlast : IsLastFor entries channel n h) : channel ∈ entries.map Prod.fst := by
  obtain ⟨before, after, rfl, -, -⟩ := hlast
  simp

/-! ## One dispatch -/

section

variable {r : Registry ω} {m : Message} {h : Handler ω} (w : ω)

theorem dispatch_of_unrouted (hnone : r.handler? m.channel = none) :
    r.dispatch m w = { outcome := ⟨m.channel, .unrouted⟩, world := w } := by
  simp only [dispatch, hnone]

theorem dispatch_of_fault {fault : Text.Utf8Fault} (hhandler : r.handler? m.channel = some h)
    (hfault : Text.decodeUtf8 m.payload = .error fault) :
    let outcome : Outcome :=
      ⟨m.channel, .failed h.name (.invalidPayload (notTextMessage fault))⟩
    r.dispatch m w = { outcome, world := w, log := outcome.log } := by
  simp only [dispatch, hhandler, hfault]

theorem dispatch_of_text {text : String} (hhandler : r.handler? m.channel = some h)
    (htext : text.toUTF8 = m.payload) :
    let reaction := h.handle text w
    let outcome : Outcome := ⟨m.channel, reaction.verdict.fate h.name⟩
    r.dispatch m w =
      { outcome
        world := reaction.world
        duration := reaction.duration
        cancels := reaction.cancels
        log := reaction.log ++ outcome.log
        invocation := some text } := by
  simp only [dispatch, hhandler, Text.decodeUtf8_eq_ok_iff.2 htext]

end

end Registry

/-! ## Handlers that note their invocations -/

/-- The handler under a number. Beside the world there is a record of invocations, to which it
adds its number and the text that it is handed; otherwise it reacts as before. -/
def Handler.noting (h : Handler ω) (n : ℕ) : Handler (ω × List (ℕ × String)) where
  name := h.name
  handle text w :=
    let reaction := h.handle text w.1
    { world := (reaction.world, w.2 ++ [(n, text)])
      verdict := reaction.verdict
      duration := reaction.duration
      cancels := reaction.cancels
      log := reaction.log }

/-- The dispatch without the record. -/
def Dispatch.withoutNotes (d : Dispatch (ω × List (ℕ × String))) : Dispatch ω where
  outcome := d.outcome
  world := d.world.1
  duration := d.duration
  cancels := d.cancels
  log := d.log
  invocation := d.invocation

namespace Registry

/-- The same registrations, each of them of a handler that notes its invocations under the number
of the registration. -/
def notingEntries (entries : List (String × Handler ω)) :
    List (String × Handler (ω × List (ℕ × String))) :=
  entries.mapIdx fun n e => (e.1, e.2.noting n)

/-- The invocations that a dispatch makes, as the handlers note them: which registration is used
and with what text. -/
def invocations (entries : List (String × Handler ω)) (m : Message) (w : ω) : List (ℕ × String) :=
  ((ofList (notingEntries entries)).dispatch m (w, [])).world.2

section

variable {entries : List (String × Handler ω)} {channel : String} {n : ℕ} {h : Handler ω}
  {m : Message} (w : ω)

theorem map_fst_mapIdx {β : Type} (f : Handler ω → ℕ → β) :
    (entries.mapIdx fun n e => (e.1, f e.2 n)).map Prod.fst = entries.map Prod.fst := by
  induction entries generalizing f with
  | nil => rfl
  | cons e entries ih =>
    rw [List.mapIdx_cons, List.map_cons, ih fun h n => f h (n + 1), List.map_cons]

theorem map_fst_notingEntries :
    (notingEntries entries).map Prod.fst = entries.map Prod.fst :=
  map_fst_mapIdx Handler.noting

theorem IsLastFor.noting (hlast : IsLastFor entries channel n h) :
    IsLastFor (notingEntries entries) channel n (h.noting n) := by
  obtain ⟨before, after, rfl, rfl, hafter⟩ := hlast
  refine ⟨notingEntries before, after.mapIdx fun k e => (e.1, e.2.noting (k + 1 + before.length)),
    ?_, ?_, ?_⟩
  · rw [notingEntries, List.mapIdx_append, List.mapIdx_cons, Nat.zero_add]
    rfl
  · rw [notingEntries, List.length_mapIdx]
  · rwa [map_fst_mapIdx fun g k => g.noting (k + 1 + before.length)]

theorem invocations_of_notMem (hne : m.channel ∉ entries.map Prod.fst) :
    invocations entries m w = [] := by
  rw [← map_fst_notingEntries] at hne
  rw [invocations, dispatch_of_unrouted _ (handler?_of_notMem hne)]

theorem invocations_of_fault {fault : Text.Utf8Fault} (hlast : IsLastFor entries m.channel n h)
    (hfault : Text.decodeUtf8 m.payload = .error fault) : invocations entries m w = [] := by
  rw [invocations, dispatch_of_fault _ hlast.noting.handler? hfault]

/-- The handler that was registered last is invoked once. -/
theorem invocations_of_text {text : String} (hlast : IsLastFor entries m.channel n h)
    (htext : text.toUTF8 = m.payload) : invocations entries m w = [(n, text)] := by
  rw [invocations, dispatch_of_text _ hlast.noting.handler? htext]
  rfl

/-- Notes are all that is changed by noting. -/
theorem dispatch_noting (entries : List (String × Handler ω)) (m : Message) (w : ω)
    (notes : List (ℕ × String)) :
    ((ofList (notingEntries entries)).dispatch m (w, notes)).withoutNotes =
      (ofList entries).dispatch m w := by
  cases destination entries m with
  | nobody hne =>
    have hnoting := hne
    rw [← map_fst_notingEntries] at hnoting
    rw [dispatch_of_unrouted _ (handler?_of_notMem hnoting),
      dispatch_of_unrouted _ (handler?_of_notMem hne)]
    rfl
  | untold hlast hfault =>
    rw [dispatch_of_fault _ hlast.noting.handler? hfault, dispatch_of_fault _ hlast.handler? hfault]
    rfl
  | told hlast htext =>
    rw [dispatch_of_text _ hlast.noting.handler? htext, dispatch_of_text _ hlast.handler? htext]
    rfl

end

/-- The message for a fault ends with the fault's place. -/
theorem exists_notTextMessage_eq (fault : Text.Utf8Fault) :
    ∃ start, notTextMessage fault = start ++ "from index " ++ toString fault.index := by
  cases fault with
  | malformed length index =>
    have hword : " bytes from index " = " bytes " ++ "from index " := by decide
    refine ⟨"payload is not UTF-8: " ++ ("invalid utf-8 sequence of " ++ toString length ++
      " bytes "), ?_⟩
    show "payload is not UTF-8: " ++ ("invalid utf-8 sequence of " ++ toString length ++
      " bytes from index " ++ toString index) = _
    rw [hword]
    simp only [String.append_assoc]
    rfl
  | unfinished index =>
    have hword : "incomplete utf-8 byte sequence from index " =
      "incomplete utf-8 byte sequence " ++ "from index " := by decide
    refine ⟨"payload is not UTF-8: " ++ "incomplete utf-8 byte sequence ", ?_⟩
    show "payload is not UTF-8: " ++ ("incomplete utf-8 byte sequence from index " ++
      toString index) = _
    rw [hword]
    simp only [String.append_assoc]
    rfl

/-- Each dispatch decides once, by the channel and the bytes of its message. Without a handler for
the channel the message is unrouted; bytes that are not well-formed are refused with the length of
their longest well-formed start; and in both cases nobody is invoked and the world stays as it is.
Otherwise the handler that was registered last for the channel is invoked once, with the text that
is encoded as the bytes, and its verdict is the fate of the message. Noting changes nothing else. -/
theorem dispatch_decides (entries : List (String × Handler ω)) (m : Message) (w : ω) :
    let d := (ofList entries).dispatch m w
    let calls := invocations entries m w
    let registered := m.channel ∈ entries.map Prod.fst
    d.outcome.channel = m.channel ∧
    (d.outcome.fate = .unrouted ∧ calls = [] ↔ ¬ registered) ∧
    ((∃ name text, d.outcome.fate = .failed name (.invalidPayload text)) ∧ calls = [] ↔
      registered ∧ ¬ Text.IsWellFormed m.payload) ∧
    (registered → Text.IsWellFormed m.payload → ∃ n h text,
      IsLastFor entries m.channel n h ∧ text.toUTF8 = m.payload ∧ calls = [(n, text)] ∧
      d.outcome.fate = (h.handle text w).verdict.fate h.name ∧
      d.world = (h.handle text w).world) ∧
    (registered → ¬ Text.IsWellFormed m.payload → ∃ n h fault start,
      IsLastFor entries m.channel n h ∧
      d.outcome.fate = .failed h.name
        (.invalidPayload (start ++ "from index " ++ toString (Text.Utf8Fault.index fault))) ∧
      IsGreatest {n | n ≤ m.payload.size ∧ Text.IsWellFormed (m.payload.extract 0 n)}
        fault.index) ∧
    (calls = [] → d.world = w) ∧
    ∀ notes, ((ofList (notingEntries entries)).dispatch m (w, notes)).withoutNotes = d := by
  intro d calls registered
  have hchannel : d.outcome.channel = m.channel := channel_outcome_dispatch _ m w
  have hnoting := dispatch_noting entries m w
  cases destination entries m with
  | nobody hne =>
    have hd := dispatch_of_unrouted w (handler?_of_notMem hne)
    have hfate : d.outcome.fate = .unrouted := congrArg (·.outcome.fate) hd
    have hcalls : calls = [] := invocations_of_notMem w hne
    refine ⟨hchannel, ?_, ?_, fun h => absurd h hne, fun h => absurd h hne, ?_, hnoting⟩
    · exact iff_of_true ⟨hfate, hcalls⟩ hne
    · simp [hfate, registered, hne]
    · exact fun _ => congrArg (·.world) hd
  | @untold n h fault hlast hfault =>
    have hd := dispatch_of_fault w hlast.handler? hfault
    have hfate : d.outcome.fate = .failed h.name (.invalidPayload (notTextMessage fault)) :=
      congrArg (·.outcome.fate) hd
    have hcalls : calls = [] := invocations_of_fault w hlast hfault
    have hbad : ¬ Text.IsWellFormed m.payload := Text.exists_fault_iff.1 ⟨fault, hfault⟩
    obtain ⟨start, hstart⟩ := exists_notTextMessage_eq fault
    refine ⟨hchannel, ?_, ?_, fun _ h => absurd h hbad, ?_, ?_, hnoting⟩
    · simp [hfate, registered, hlast.mem]
    · exact iff_of_true ⟨⟨_, _, hfate⟩, hcalls⟩ ⟨hlast.mem, hbad⟩
    · intro _ _
      exact ⟨n, h, fault, start, hlast, by rw [hfate, hstart], Text.isGreatest_index hfault⟩
    · exact fun _ => congrArg (·.world) hd
  | @told n h text hlast htext =>
    have hd := dispatch_of_text w hlast.handler? htext
    have hcalls : calls = [(n, text)] := invocations_of_text w hlast htext
    have hgood : Text.IsWellFormed m.payload := Text.exists_toUTF8_iff.1 ⟨text, htext⟩
    refine ⟨hchannel, ?_, ?_, ?_, fun _ h => absurd hgood h, ?_, hnoting⟩
    · simp [hcalls, registered, hlast.mem]
    · simp [hcalls, hgood]
    · intro _ _
      exact ⟨n, h, text, hlast, htext, hcalls, congrArg (·.outcome.fate) hd,
        congrArg (·.world) hd⟩
    · simp [hcalls]

/-- Of two handlers for one channel the second is invoked with a letter of two bytes, and none with
an encoded surrogate. -/
theorem dispatch_decides_surrogate :
    let entries : List (String × Handler Unit) :=
      [("refx:notify", ⟨"first", fun _ w => { world := w }⟩),
        ("refx:notify", ⟨"second", fun text w =>
          { world := w, verdict := .error (.execution text) }⟩)]
    let letter : Message := ⟨"refx:notify", ⟨#[0xC3, 0xA9]⟩⟩
    let surrogate : Message := ⟨"refx:notify", ⟨#[0x61, 0xED, 0xA0, 0x80]⟩⟩
    (∃ n h text, IsLastFor entries "refx:notify" n h ∧ text.toUTF8 = letter.payload ∧
      invocations entries letter () = [(n, text)]) ∧
    invocations entries letter () = [(1, "é")] ∧
    ((ofList entries).dispatch letter ()).outcome.fate = .failed "second" (.execution "é") ∧
    (∃ fault : Text.Utf8Fault, IsGreatest {n | n ≤ surrogate.payload.size ∧
      Text.IsWellFormed (surrogate.payload.extract 0 n)} fault.index) ∧
    invocations entries surrogate () = [] := by
  intro entries letter surrogate
  have hgood : Text.IsWellFormed letter.payload := Text.exists_toUTF8_iff.1 ⟨"é", rfl⟩
  have hbad : ¬ Text.IsWellFormed surrogate.payload := by
    rw [Text.isWellFormed_iff]
    decide +kernel
  have hmem : "refx:notify" ∈ entries.map Prod.fst := by decide
  obtain ⟨-, -, -, hinvoked, -, -, -⟩ := dispatch_decides entries letter ()
  obtain ⟨-, -, hrefused, -, hindex, -, -⟩ := dispatch_decides entries surrogate ()
  obtain ⟨n, h, text, hlast, htext, hcalls, -, -⟩ := hinvoked hmem hgood
  obtain ⟨n', h', fault, start, -, -, hgreatest⟩ := hindex hmem hbad
  exact ⟨⟨n, h, text, hlast, htext, hcalls⟩, by decide +kernel, by decide +kernel,
    ⟨fault, hgreatest⟩, (hrefused.2 ⟨hmem, hbad⟩).2⟩

end Registry

end Coordination
