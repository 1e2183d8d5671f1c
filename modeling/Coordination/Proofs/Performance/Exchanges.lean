import Coordination.Performance.Client
import Coordination.Proofs.Json.RoundTrip
import Coordination.Proofs.Performance.Failures
import Coordination.Proofs.Performance.Serial
import Coordination.Proofs.Text.WellFormed

/-!
# What calls to the service come to

What a server does with a connection falls into four classes: the call succeeds, or it fails for
want of a response, because of the response's status, or because of its body
(`Reply.answer_eq_iff`). The status is decided before the body is waited for, and one deadline holds
for both. A client whose endpoint is no URL gets no connection, and so no response. A client whose server never redirects it is a calculator with prepared answers
(`answersAlike_prepared`), so what is known of batches over such a calculator holds of it. Numbers
that are read from a body are finite, and so is the zero of a call that failed.
-/

namespace Coordination

/-! ## One call -/

namespace Reply

/-- The reply is a response whose head arrives before the deadline. -/
structure HeadInTime (deadline : Nat) (reply : Reply) (r : Response) : Prop where
  isResponse : reply = .response r
  inTime : r.headAfter < deadline

def Redirects : Reply → Prop
  | response r => r.redirect?.isSome = true
  | closed _ | silence => False

end Reply

/-- The whole body arrives before the deadline and is read as this result. -/
structure Response.Carries (deadline : Nat) (r : Response) (result : PerformanceResult) : Prop where
  complete : r.complete = true
  inTime : ∃ after, r.bodyAfter = some after ∧ r.headAfter + after < deadline
  decodes : PerformanceResult.decodeAnswer (Json.textOfBytes r.body) = .ok result

/-- What the client makes of a reply that does not redirect it. -/
def Reply.answer (deadline : Nat) : Reply → CallAnswer
  | response r =>
    if deadline ≤ r.headAfter then ⟨deadline, .error .request⟩
    else r.answer r.headAfter deadline
  | closed after => ⟨min after deadline, .error .request⟩
  | silence => ⟨deadline, .error .request⟩

/-- What a call comes to, told from the reply. There are four classes. -/
inductive Reply.ComesTo (deadline : Nat) (reply : Reply) :
    Except ComputeError PerformanceResult → Prop
  | success {r : Response} {result : PerformanceResult} (head : reply.HeadInTime deadline r)
      (status : r.status = 200) (body : r.Carries deadline result) :
      ComesTo deadline reply (.ok result)
  /-- The body plays no part if the status is not a success. -/
  | unsuccessful {r : Response} (head : reply.HeadInTime deadline r) (status : r.status ≠ 200) :
      ComesTo deadline reply (.error (.status r.status))
  | undecodable {r : Response} (head : reply.HeadInTime deadline r) (status : r.status = 200)
      (body : ∀ result, ¬ r.Carries deadline result) : ComesTo deadline reply (.error .decode)
  | noResponse (head : ∀ r, ¬ reply.HeadInTime deadline r) :
      ComesTo deadline reply (.error .request)

namespace Response

variable {deadline : Nat} {r : Response}

theorem Carries.read {v : PerformanceResult} (h : r.Carries deadline v) : r.read = .ok v := by
  rw [Response.read, h.complete, h.decodes]
  rfl

theorem carries_of_read {v : PerformanceResult} {after : Nat} (hbody : r.bodyAfter = some after)
    (htime : r.headAfter + after < deadline) (h : r.read = .ok v) : r.Carries deadline v := by
  unfold Response.read at h
  cases hcomplete : r.complete with
  | false => simp [hcomplete] at h
  | true =>
    cases hdecode : PerformanceResult.decodeAnswer (Json.textOfBytes r.body) with
    | error e => simp [hcomplete, hdecode] at h
    | ok result =>
      simp only [hcomplete, hdecode, Bool.not_true, Bool.false_eq_true, if_false] at h
      exact ⟨hcomplete, ⟨after, hbody, htime⟩, Except.ok.inj h ▸ hdecode⟩

theorem read_cases : (∃ v, r.read = .ok v) ∨ r.read = .error .decode := by
  unfold Response.read
  split
  · exact .inr rfl
  · split
    · exact .inl ⟨_, rfl⟩
    · exact .inr rfl

/-- A successful response is read as its body, if it carries one, and is undecodable if not. -/
theorem answer_cases (deadline : Nat) (h : r.status = 200) :
    (∃ v, (r.answer r.headAfter deadline).result = .ok v ∧ r.Carries deadline v) ∨
      (r.answer r.headAfter deadline).result = .error .decode ∧ ∀ v, ¬ r.Carries deadline v := by
  unfold answer
  rw [if_neg (not_not_intro h)]
  cases hbody : r.bodyAfter with
  | none =>
    refine .inr ⟨rfl, fun v hv => ?_⟩
    obtain ⟨after, hafter, -⟩ := hv.inTime
    rw [hbody] at hafter
    cases hafter
  | some after =>
    dsimp only
    by_cases htime : r.headAfter + after < deadline
    · rw [if_pos htime]
      rcases r.read_cases with ⟨v, hv⟩ | hdecode
      · exact .inl ⟨v, hv, carries_of_read hbody htime hv⟩
      · refine .inr ⟨hdecode, fun v hv => ?_⟩
        rw [hv.read] at hdecode
        cases hdecode
    · rw [if_neg htime]
      refine .inr ⟨rfl, fun v hv => htime ?_⟩
      obtain ⟨after', hafter, hlt⟩ := hv.inTime
      rw [hbody] at hafter
      rwa [Option.some.inj hafter]

theorem duration_answer_le (h : r.headAfter < deadline) :
    (r.answer r.headAfter deadline).duration ≤ deadline := by
  unfold answer
  split
  · exact Nat.le_of_lt h
  · cases r.bodyAfter with
    | none => exact Nat.le_refl _
    | some after =>
      dsimp only
      split
      · apply Nat.le_of_lt
        assumption
      · exact Nat.le_refl _

end Response

namespace Reply

variable {deadline : Nat} {reply : Reply}

theorem HeadInTime.unique {r r' : Response} (h : reply.HeadInTime deadline r)
    (h' : reply.HeadInTime deadline r') : r = r' :=
  Reply.response.inj (h.isResponse.symm.trans h'.isResponse)

theorem answer_of_headInTime {r : Response} (h : reply.HeadInTime deadline r) :
    reply.answer deadline = r.answer r.headAfter deadline := by
  rw [h.isResponse, answer, if_neg (Nat.not_le_of_lt h.inTime)]

theorem answer_of_not_headInTime (h : ∀ r, ¬ reply.HeadInTime deadline r) :
    (reply.answer deadline).result = .error .request := by
  cases reply with
  | response r =>
    have hlate : deadline ≤ r.headAfter := Nat.le_of_not_lt fun hlt => h r ⟨rfl, hlt⟩
    rw [answer, if_pos hlate]
  | closed after => rfl
  | silence => rfl

theorem duration_answer_le : (reply.answer deadline).duration ≤ deadline := by
  cases reply with
  | response r =>
    rw [answer]
    split
    · exact Nat.le_refl _
    · apply Response.duration_answer_le
      omega
  | closed after => exact Nat.min_le_right _ _
  | silence => exact Nat.le_refl _

theorem comesTo_answer (deadline : Nat) (reply : Reply) :
    reply.ComesTo deadline (reply.answer deadline).result := by
  by_cases h : ∃ r, reply.HeadInTime deadline r
  · obtain ⟨r, hr⟩ := h
    rw [answer_of_headInTime hr]
    by_cases hstatus : r.status = 200
    · rcases r.answer_cases deadline hstatus with ⟨v, hv, hcarries⟩ | ⟨he, hnone⟩
      · rw [hv]
        exact .success hr hstatus hcarries
      · rw [he]
        exact .undecodable hr hstatus hnone
    · rw [Response.answer, if_pos hstatus]
      exact .unsuccessful hr hstatus
  · have hnone : ∀ r, ¬ reply.HeadInTime deadline r := not_exists.1 h
    rw [answer_of_not_headInTime hnone]
    exact .noResponse hnone

/-- The classes exclude one another. -/
theorem ComesTo.unique {result result' : Except ComputeError PerformanceResult}
    (h : reply.ComesTo deadline result) (h' : reply.ComesTo deadline result') :
    result = result' := by
  cases h with
  | success head status body =>
    cases h' with
    | success head' status' body' =>
      obtain rfl := head.unique head'
      rw [Except.ok.inj (body.decodes.symm.trans body'.decodes)]
    | unsuccessful head' status' => exact absurd (head.unique head' ▸ status) status'
    | undecodable head' status' body' => exact absurd (head.unique head' ▸ body) (body' _)
    | noResponse head' => exact absurd head (head' _)
  | unsuccessful head status =>
    cases h' with
    | success head' status' body' => exact absurd (head'.unique head ▸ status') status
    | unsuccessful head' status' => rw [head.unique head']
    | undecodable head' status' body' => exact absurd (head'.unique head ▸ status') status
    | noResponse head' => exact absurd head (head' _)
  | undecodable head status body =>
    cases h' with
    | success head' status' body' => exact absurd (head'.unique head ▸ body') (body _)
    | unsuccessful head' status' => exact absurd (head.unique head' ▸ status) status'
    | undecodable head' status' body' => rfl
    | noResponse head' => exact absurd head (head' _)
  | noResponse head =>
    cases h' with
    | success head' status' body' => exact absurd head' (head _)
    | unsuccessful head' status' => exact absurd head' (head _)
    | undecodable head' status' body' => exact absurd head' (head _)
    | noResponse head' => rfl

theorem answer_eq_iff {result : Except ComputeError PerformanceResult} :
    (reply.answer deadline).result = result ↔ reply.ComesTo deadline result := by
  constructor
  · rintro rfl
    exact comesTo_answer deadline reply
  · exact (comesTo_answer deadline reply).unique

end Reply

/-! ## Bodies -/

namespace Json

theorem charsFrom_of_extract {bytes : ByteArray} {cs : List Char} {index : Nat}
    (hindex : index ≤ bytes.size) (h : bytes.extract index bytes.size = cs.utf8Encode) :
    charsFrom bytes index = cs := by
  induction cs generalizing index with
  | nil =>
    have hsize : bytes.size - index = 0 := by
      simpa using congrArg ByteArray.size h
    have hnone : bytes.utf8DecodeChar? index = none := by
      rw [← Option.not_isSome_iff_eq_none]
      intro hsome
      have := ByteArray.lt_size_of_isSome_utf8DecodeChar? hsome
      omega
    unfold charsFrom
    split
    · rename_i c hc
      rw [hnone] at hc
      cases hc
    · rw [if_neg (by omega)]
  | cons c cs ih =>
    rw [List.utf8Encode_cons] at h
    have hc := Text.utf8DecodeChar?_of_extract hindex (Nat.le_refl _) h
    have hnext := ByteArray.le_size_of_utf8DecodeChar?_eq_some hc
    rw [ByteArray.extract_eq_extract_append_extract (index + c.utf8Size) (by omega) hnext,
      Text.extract_of_some hc, ByteArray.append_right_inj] at h
    unfold charsFrom
    split
    · rename_i c' hc'
      rw [hc] at hc'
      obtain rfl := Option.some.inj hc'
      rw [ih hnext h]
    · rename_i hnone
      rw [hc] at hnone
      cases hnone

/-- The bytes of a text are read as the text. -/
theorem textOfBytes_toUTF8 (text : String) : textOfBytes text.toUTF8 = text := by
  have h : charsFrom text.toUTF8 0 = text.toList := by
    apply charsFrom_of_extract (Nat.zero_le _)
    rw [ByteArray.extract_zero_size]
    exact text.utf8Encode_toList.symm
  rw [textOfBytes, h, String.ofList_toList]

section

variable {ρ α : Type} {s : Schema ρ α} {d : ρ} {f : Field ρ} {fields : List (Field ρ)}
  {c : Char} {cs rest : List Char} {put : ρ → ρ}

theorem readElements_first (hbracket : c ≠ ']') (hcomma : c ≠ ',')
    (hskip : skipBlank (c :: cs) = c :: cs) (hread : f.read (c :: cs) = .ok (put, rest)) :
    s.readElements 0 d (f :: fields) (c :: cs) = s.readElements 1 (put d) fields rest := by
  rw [Schema.readElements]
  simp [hskip, hbracket, hcomma, Schema.readElements.readOne, hread]

theorem readElements_next {count : Nat} (hbracket : c ≠ ']')
    (hskip : skipBlank (c :: cs) = c :: cs) (hread : f.read (c :: cs) = .ok (put, rest)) :
    s.readElements (count + 1) d (f :: fields) (',' :: c :: cs) =
      s.readElements (count + 2) (put d) fields rest := by
  rw [Schema.readElements]
  have hcomma : skipBlank (',' :: c :: cs) = ',' :: c :: cs := rfl
  simp [hcomma, hskip, hbracket, Schema.readElements.readOne, hread]

theorem read_field {name : String} {read : Reader α} {get : ρ → Option α} {set : α → ρ → ρ}
    {optional : Bool} {a : α} (h : read cs = .ok (a, rest)) :
    (Field.of name read get set optional).read cs = .ok (set a, rest) := by
  show (read cs).map _ = _
  rw [h]
  rfl

end

end Json

open Json in
/-- An array of an array is an answer too. -/
theorem PerformanceResult.decodeAnswer_array :
    decodeAnswer "[[5.25,100]]" = .ok ⟨5.25, 100⟩ := by
  have hstars : readF64 ['5', '.', '2', '5', ',', '1', '0', '0', ']', ']'] =
      .ok (5.25, [',', '1', '0', '0', ']', ']']) := eq_ok_of_toOption (by decide +kernel)
  have hpp : readF64 ['1', '0', '0', ']', ']'] = .ok (100, [']', ']']) :=
    eq_ok_of_toOption (by decide +kernel)
  have hresult : PerformanceResult.schema.read
      ['[', '5', '.', '2', '5', ',', '1', '0', '0', ']', ']'] = .ok (⟨5.25, 100⟩, [']']) := by
    show PerformanceResult.schema.readArray _ = _
    rw [Schema.readArray, PerformanceResult.schema]
    dsimp only
    rw [readElements_first (by decide) (by decide) (by decide) (read_field hstars),
      readElements_next (by decide) (by decide) (read_field hpp), Schema.readElements]
    rfl
  have hanswer : PerformanceResult.envelopeSchema.read
      ['[', '[', '5', '.', '2', '5', ',', '1', '0', '0', ']', ']'] = .ok (⟨5.25, 100⟩, []) := by
    show PerformanceResult.envelopeSchema.readArray _ = _
    rw [Schema.readArray, PerformanceResult.envelopeSchema]
    dsimp only
    rw [readElements_first (by decide) (by decide) (by decide) (read_field hresult),
      Schema.readElements]
    rfl
  have htext : "[[5.25,100]]".toList =
      ['[', '[', '5', '.', '2', '5', ',', '1', '0', '0', ']', ']'] := by decide
  rw [PerformanceResult.decodeAnswer, decode, htext, hanswer]
  rfl

/-! ## A client as a calculator -/

namespace ComputeClient

variable (c : ComputeClient)

/-- The server never tells the client to look elsewhere. -/
def Direct : Prop := ∀ reply ∈ c.server.replies, ¬ reply.Redirects

/-- What the server does with the client's connections, of which there are none if the endpoint is
no URL. -/
def replies : List Reply :=
  match c.server.locate? c.endpoint with
  | some _ => c.server.replies
  | none => []

/-- What becomes of the connection of this number, counted from zero. -/
def reply (i : Nat) : Reply := c.replies.getD i (.closed 0)

/-- The calculator with the answers that the client makes of the replies. -/
def prepared : PreparedAnswers where
  answers := c.replies.map (Reply.answer c.timeout)
  afterLast := (Reply.closed 0).answer c.timeout

theorem reply_prepared (i : Nat) : c.prepared.reply i = (c.reply i).answer c.timeout := by
  simp only [PreparedAnswers.reply, prepared, reply, List.getD_eq_getElem?_getD, List.getElem?_map]
  cases c.replies[i]? <;> rfl

variable {c}

theorem call_of_not_redirects {request : PerformanceRequest} {url : String}
    (hurl : c.url? request = some url) (h : ¬ (c.server.get url).1.Redirects) :
    c.call request = ((c.server.get url).1.answer c.timeout,
      { c with server := (c.server.get url).2 }) := by
  rw [call, hurl]
  dsimp only
  unfold redirectLimit Server.follow
  generalize c.server.get url = exchange at h
  obtain ⟨reply, server⟩ := exchange
  cases reply with
  | silence => rfl
  | closed after => simp only [Reply.answer, Nat.zero_add]
  | response r =>
    have hstays : r.redirect? = none := Option.not_isSome_iff_eq_none.1 h
    simp only [Reply.answer, Nat.zero_add, hstays]
    by_cases hlate : c.timeout ≤ r.headAfter
    · simp only [hlate, if_true]
    · simp only [hlate, if_false]

/-- A client that is never redirected answers as if its answers had been prepared. -/
theorem answersAlike_prepared : AnswersAlike fun (c : ComputeClient) (p : PreparedAnswers) =>
    c.Direct ∧ p = c.prepared := by
  rintro c p request ⟨hdirect, rfl⟩
  show (c.call request).1 = (c.prepared.call request).1 ∧
    (c.call request).2.Direct ∧ (c.prepared.call request).2 = (c.call request).2.prepared
  obtain ⟨endpoint, timeout, ⟨locate?, replies, requests⟩⟩ := c
  cases hlocate : locate? endpoint with
  | none =>
    rw [call_of_no_url request hlocate]
    have hprepared : prepared ⟨endpoint, timeout, ⟨locate?, replies, requests⟩⟩ =
        ⟨[], (Reply.closed 0).answer timeout⟩ := by
      simp only [prepared, ComputeClient.replies, hlocate, List.map_nil]
    rw [hprepared]
    exact ⟨by simp only [PreparedAnswers.call, Reply.answer, Nat.zero_min], hdirect, rfl⟩
  | some u =>
    have hurl (replies : List Reply) :
        url? ⟨endpoint, timeout, ⟨locate?, replies, requests⟩⟩ request =
          some (u.withFields request.query) :=
      congrArg (Option.map (HttpUrl.withFields · request.query)) hlocate
    have hprepared (replies : List Reply) (requests : List String) :
        prepared ⟨endpoint, timeout, ⟨locate?, replies, requests⟩⟩ =
          ⟨replies.map (Reply.answer timeout), (Reply.closed 0).answer timeout⟩ := by
      simp only [prepared, ComputeClient.replies, hlocate]
    cases replies with
    | nil =>
      rw [call_of_not_redirects (hurl []) id, hprepared]
      exact ⟨rfl, hdirect, (hprepared _ _).symm⟩
    | cons reply replies =>
      obtain ⟨hreply, hrest⟩ := List.forall_mem_cons.1 hdirect
      rw [call_of_not_redirects (hurl (reply :: replies)) hreply, hprepared]
      exact ⟨rfl, hrest, (hprepared _ _).symm⟩

end ComputeClient

/-! ## Numbers -/

deriving instance DecidableEq for PerformanceResult

namespace PerformanceResult

def doubles (v : PerformanceResult) : List Float := [v.stars, v.pp]

theorem isFinite_zero : ∀ x ∈ zero.doubles, x.isFinite = true := by decide +kernel

def FiniteSoFar (d : PerformanceResultDraft) : Prop :=
  (∀ x ∈ d.stars.toList, x.isFinite = true) ∧ ∀ x ∈ d.pp.toList, x.isFinite = true

theorem isFinite_of_readResult {cs rest : List Char} {v : PerformanceResult}
    (h : schema.read cs = .ok (v, rest)) : ∀ x ∈ v.doubles, x.isFinite = true := by
  have hkeeps : ∀ f ∈ schema.fields, f.Keeps FiniteSoFar := by
    simp only [schema, List.forall_mem_cons]
    refine ⟨.of ?_, .of ?_, nofun⟩
    · exact fun _ _ _ hread _ hd =>
        ⟨List.forall_mem_singleton.2 (Json.isFinite_of_readF64 hread), hd.2⟩
    · exact fun _ _ _ hread _ hd =>
        ⟨hd.1, List.forall_mem_singleton.2 (Json.isFinite_of_readF64 hread)⟩
  obtain ⟨d, ⟨hstars, hpp⟩, hbuild⟩ := Json.Schema.exists_draft_of_read
    ⟨List.forall_mem_nil _, List.forall_mem_nil _⟩ hkeeps h
  obtain ⟨stars, hd, hrest⟩ := Option.bind_eq_some_iff.1 hbuild
  obtain ⟨pp, hd', heq⟩ := Option.bind_eq_some_iff.1 hrest
  rw [hd] at hstars
  rw [hd'] at hpp
  cases heq
  exact List.forall_mem_cons.2 ⟨hstars stars (List.mem_singleton_self _), hpp⟩

/-- The numbers of the service's answer are finite. -/
theorem isFinite_of_decodeAnswer {text : String} {v : PerformanceResult}
    (h : decodeAnswer text = .ok v) : ∀ x ∈ v.doubles, x.isFinite = true := by
  have hkeeps : ∀ f ∈ envelopeSchema.fields,
      f.Keeps fun d => ∀ v ∈ d.toList, ∀ x ∈ v.doubles, x.isFinite = true := by
    simp only [envelopeSchema, List.forall_mem_singleton]
    exact .of fun _ _ _ hread _ _ => List.forall_mem_singleton.2 (isFinite_of_readResult hread)
  obtain ⟨rest, hread⟩ := Json.exists_read_of_decode h
  obtain ⟨d, hd, hbuild⟩ := Json.Schema.exists_draft_of_read (List.forall_mem_nil _) hkeeps hread
  obtain rfl : d = some v := hbuild
  exact hd v (List.mem_singleton_self v)

end PerformanceResult

theorem Reply.isFinite_settled (deadline : Nat) (reply : Reply) :
    ∀ x ∈ (reply.answer deadline).settled.doubles, x.isFinite = true := by
  unfold CallAnswer.settled
  cases h : (reply.answer deadline).result with
  | error e => exact PerformanceResult.isFinite_zero
  | ok v =>
    cases answer_eq_iff.1 h with
    | success head status body => exact PerformanceResult.isFinite_of_decodeAnswer body.decodes

/-! ## Batches over the service -/

theorem eq_of_map_eq_map_range {α β : Type} {l : List α} {f : α → β} {g : Nat → β} {n i : Nat}
    {a : α} (h : l.map f = (List.range n).map g) (ha : l[i]? = some a) : f a = g i := by
  have hi : (l.map f)[i]? = ((List.range n).map g)[i]? := by rw [h]
  rw [List.getElem?_map, ha, List.getElem?_map] at hi
  obtain ⟨j, hj, hga⟩ := Option.map_eq_some_iff.1 hi.symm
  obtain ⟨_, rfl⟩ := List.getElem?_eq_some_iff.1 hj
  rw [← hga, List.getElem_range]

/-- What is known of a call that is answered by the reply of this number, and of the result that
it leads to. -/
structure ComputeClient.Settles (c : ComputeClient) (i : Nat) (call : CallRecord)
    (result : ScoreResult) : Prop where
  /-- The call comes to what the reply says, whatever the other replies are. -/
  answer : ∀ outcome, call.answer.result = outcome ↔ (c.reply i).ComesTo c.timeout outcome
  duration : call.answer.duration ≤ c.timeout
  success : ∀ v, call.answer.result = .ok v → result = ⟨v.pp, none, v.stars⟩
  failure : ∀ e, call.answer.result = .error e → result = ⟨0, none, 0⟩

/-- A response that is there at once. -/
def promptly (status : Nat) (body : String) : Reply := .response { status, body := body.toUTF8 }

theorem answer_promptly {deadline : Nat} {body : String} {v : PerformanceResult}
    (hdeadline : 0 < deadline) (h : PerformanceResult.decodeAnswer body = .ok v) :
    (promptly 200 body).answer deadline = ⟨0, .ok v⟩ := by
  have hread : Response.read { status := 200, body := body.toUTF8 } = .ok v := by
    simp only [Response.read, Json.textOfBytes_toUTF8, h, Bool.not_true, Bool.false_eq_true,
      if_false]
  rw [promptly, Reply.answer, if_neg (Nat.not_le_of_lt hdeadline), Response.answer,
    if_neg (not_not_intro rfl)]
  simp only [Nat.zero_add, hdeadline, if_true, hread]

namespace Fanout

section

variable {c : ComputeClient} (hdirect : c.Direct) (beatmapId : UInt32) (plays : List Play)
include hdirect

theorem computeMany_eq_prepared (f : Fanout) :
    f.computeMany c beatmapId plays = f.computeMany c.prepared beatmapId plays :=
  runJobs_congr ComputeClient.answersAlike_prepared f ⟨hdirect, rfl⟩ beatmapId _

theorem oneByOne_client (limit : Option Nat) : OneByOne false c.prepared beatmapId plays
    ((withMaxInFlight limit).computeMany c beatmapId plays) := by
  rw [computeMany_eq_prepared hdirect]
  exact oneByOne_runJobs limit false c.prepared beatmapId plays

/-- The numbers of every result are finite. -/
theorem isFinite_of_mem_results (limit : Option Nat) {result : ScoreResult}
    (h : result ∈ ((withMaxInFlight limit).computeMany c beatmapId plays).results) :
    ∀ x ∈ result.doubles, x.isFinite = true := by
  rw [(oneByOne_client hdirect beatmapId plays limit).slots] at h
  obtain ⟨i, -, rfl⟩ := List.mem_map.1 h
  have hfinite := (c.reply i).isFinite_settled c.timeout
  rw [← c.reply_prepared] at hfinite
  intro x hx
  have hx' : x = (c.prepared.reply i).settled.pp ∨ x = (c.prepared.reply i).settled.stars := by
    simpa [PreparedAnswers.slot, ScoreResult.of, ScoreResult.doubles, pointsOf] using hx
  apply hfinite
  rcases hx' with rfl | rfl
  · simp [PerformanceResult.doubles]
  · simp [PerformanceResult.doubles]

theorem settles_computeMany (limit : Option Nat) {i : Nat} {call : CallRecord}
    {result : ScoreResult} (hcall : ((withMaxInFlight limit).computeMany c beatmapId
      plays).calls[i]? = some call)
    (hresult : ((withMaxInFlight limit).computeMany c beatmapId
      plays).results[i]? = some result) : c.Settles i call result := by
  have h := oneByOne_client hdirect beatmapId plays limit
  have hanswer : call.answer = (c.reply i).answer c.timeout := by
    rw [← c.reply_prepared]
    exact eq_of_map_eq_map_range h.answers hcall
  have hslot : result = .of call.answer.settled none := by
    rw [hanswer, ← c.reply_prepared]
    exact eq_of_map_eq_map_range ((List.map_id _).trans h.slots) hresult
  refine ⟨?_, ?_, ?_, ?_⟩
  · intro outcome
    rw [hanswer]
    exact Reply.answer_eq_iff
  · rw [hanswer]
    exact Reply.duration_answer_le
  · intro v hv
    rw [hslot, CallAnswer.settled, hv]
    rfl
  · intro e he
    rw [hslot, CallAnswer.settled, he]
    rfl

/-- A failed call is a zero in its own place. Over a server that redirects nobody, and with one
call at a time, the batch asks about every play, in order and each as soon as the one before is
settled. What a call comes to is told by the reply to it alone; it takes the timeout at most; if it
succeeds, the result has its numbers, and if it fails, the result is zero and there is one warning
that names the beatmap. All numbers are finite, and a result is read back from its text as far as
its numbers are. -/
theorem failed_calls_are_zeros :
    let report := (withMaxInFlight (some 1)).computeMany c beatmapId plays
    report.requests = plays.map (·.request beatmapId) ∧
    report.results.length = plays.length ∧
    (∀ i call result, report.calls[i]? = some call → report.results[i]? = some result →
      c.Settles i call result) ∧
    BackToBack report.calls ∧
    List.Forall₂ CallRecord.WarnedBy report.log
      (report.calls.filter fun call => call.answer.failed) ∧
    ∀ result ∈ report.results, (∀ x ∈ result.doubles, x.isFinite = true) ∧
      (Json.ReadBack result.doubles → ScoreResult.decode result.encode = .ok result) := by
  intro report
  have h := oneByOne_client hdirect beatmapId plays (some 1)
  refine ⟨?_, h.length, ?_, ?_, report.forall₂_log, ?_⟩
  · rw [h.requests]
    exact List.map_eq_flatMap.symm
  · exact fun i call result => settles_computeMany hdirect beatmapId plays (some 1)
  · exact backToBack_computeMany c beatmapId plays
  · intro result hresult
    have hfinite := isFinite_of_mem_results hdirect beatmapId plays (some 1) hresult
    exact ⟨hfinite, fun hback => ScoreResult.decode_encode fun x hx => hback x hx (hfinite x hx)⟩

end

/-- Two answers, as an object and as an array, a bad status, silence, a body that is late and a
refused connection. -/
theorem failed_calls_are_zeros_mixed :
    let object := "\x7b\"data\":\x7b\"pp\":100,\"stars\":5.25\x7d\x7d"
    let array := "[[5.25,100]]"
    let late : Response :=
      { status := 200, headAfter := 150, body := array.toUTF8, bodyAfter := some 50 }
    let c : ComputeClient :=
      { endpoint := "http://omajinai/calculate", timeout := 200
        server := {
          locate? text := some ⟨text, ""⟩
          replies := [promptly 200 object, promptly 500 array, .silence, promptly 200 array,
            .response late] } }
    let report := (withMaxInFlight (some 1)).computeMany c 1234 (List.replicate 6 {})
    let answered : ScoreResult := ⟨100, none, 5.25⟩
    let zero : ScoreResult := ⟨0, none, 0⟩
    c.Direct ∧ report.results = [answered, zero, zero, answered, zero, zero] ∧
      report.calls.map CallRecord.start = [0, 0, 0, 200, 200, 400] ∧ report.log.length = 4 ∧
      (∀ i call result, report.calls[i]? = some call → report.results[i]? = some result →
        c.Settles i call result) ∧
      ∀ result ∈ report.results, ScoreResult.decode result.encode = .ok result := by
  intro object array late c report answered zero
  have hdirect : c.Direct := by
    simp [ComputeClient.Direct, c, late, promptly, Reply.Redirects, Response.redirect?]
  obtain ⟨-, -, hsettles, -, -, hresults⟩ :=
    failed_calls_are_zeros hdirect 1234 (List.replicate 6 {})
  let v : PerformanceResult := { stars := 5.25, pp := 100 }
  let p : PreparedAnswers :=
    { answers := [⟨0, .ok v⟩, ⟨0, .error (.status 500)⟩, ⟨200, .error .request⟩, ⟨0, .ok v⟩,
        ⟨200, .error .decode⟩]
      afterLast := ⟨0, .error .request⟩ }
  have hobject : (promptly 200 object).answer 200 = ⟨0, .ok v⟩ :=
    answer_promptly (by decide) (eq_ok_of_toOption (by decide +kernel))
  have harray : (promptly 200 array).answer 200 = ⟨0, .ok v⟩ :=
    answer_promptly (by decide) PerformanceResult.decodeAnswer_array
  have hprepared : c.prepared = p := by
    simp only [ComputeClient.prepared, ComputeClient.replies, c, List.map_cons, List.map_nil,
      hobject, harray]
    rfl
  have hreport : report = (withMaxInFlight (some 1)).computeMany p 1234 (List.replicate 6 {}) := by
    rw [← hprepared]
    exact computeMany_eq_prepared hdirect 1234 _ _
  have hall : report.results = [answered, zero, zero, answered, zero, zero] := by
    rw [hreport]
    decide +kernel
  have hback : ∀ result ∈ [answered, zero, zero, answered, zero, zero],
      Json.ReadBack result.doubles := by
    show ∀ result ∈ [answered, zero, zero, answered, zero, zero], ∀ x ∈ result.doubles,
      x.isFinite = true → Json.readsBack x = true
    decide +kernel
  refine ⟨hdirect, hall, ?_, ?_, hsettles, ?_⟩
  · rw [hreport]
    decide +kernel
  · rw [hreport]
    decide +kernel
  · intro result hresult
    exact (hresults result hresult).2 (hback result (hall ▸ hresult))

/-- A number that the service answers need not be read back from its own shortest text, since what
reads it multiplies or divides rounded digits by a power of ten. -/
theorem failed_calls_are_zeros_drifting :
    let body := "\x7b\"data\":\x7b\"stars\":5.25,\"pp\":900.7573220532118\x7d\x7d"
    let c : ComputeClient :=
      { endpoint := "http://omajinai/calculate", timeout := 200
        server := { locate? text := some ⟨text, ""⟩, replies := [promptly 200 body] } }
    let report := (withMaxInFlight (some 1)).computeMany c 1234 [{}]
    let result : ScoreResult := ⟨900.7573220532119, none, 5.25⟩
    c.Direct ∧ report.results = [result] ∧
      ScoreResult.decode result.encode = .ok ⟨900.757322053212, none, 5.25⟩ ∧
      ScoreResult.decode result.encode ≠ .ok result := by
  intro body c report result
  have hdirect : c.Direct := by
    simp [ComputeClient.Direct, c, promptly, Reply.Redirects, Response.redirect?]
  let v : PerformanceResult := { stars := 5.25, pp := 900.7573220532119 }
  let p : PreparedAnswers := { answers := [⟨0, .ok v⟩], afterLast := ⟨0, .error .request⟩ }
  have hbody : (promptly 200 body).answer 200 = ⟨0, .ok v⟩ :=
    answer_promptly (by decide) (eq_ok_of_toOption (by decide +kernel))
  have hprepared : c.prepared = p := by
    simp only [ComputeClient.prepared, ComputeClient.replies, c, List.map_cons, List.map_nil,
      hbody]
    rfl
  have hreport : report = (withMaxInFlight (some 1)).computeMany p 1234 [{}] := by
    rw [← hprepared]
    exact computeMany_eq_prepared hdirect 1234 _ _
  have hdrift : ScoreResult.decode result.encode = .ok ⟨900.757322053212, none, 5.25⟩ :=
    eq_ok_of_toOption (by decide +kernel)
  refine ⟨hdirect, ?_, hdrift, ?_⟩
  · rw [hreport]
    decide +kernel
  · rw [hdrift]
    intro h
    have hsame : (⟨900.757322053212, none, 5.25⟩ : ScoreResult) = result := Except.ok.inj h
    revert hsame
    decide +kernel

end Fanout

end Coordination
