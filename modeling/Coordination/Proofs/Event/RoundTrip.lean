import Coordination.Event.Basic
import Mathlib.Data.List.Basic
import Mathlib.Data.List.TakeDrop

/-!
# Events survive their messages

What is published for an event reads back as it: the channel gives the topic
(`topicOf?_channel`) and the payload gives the event (`parse_encode`). The digits of an id hold
neither a blank that would be trimmed nor a bar, so the first bar of a payload is the one that
separates the id from the text, whatever the text holds.
-/

namespace Coordination

/-! ## Numerals -/

namespace Text

/-- The characters that integers are written with. -/
def isNumeral (c : Char) : Bool := c.isDigit || c == '-'

theorem toNat_of_isDigit {c : Char} (h : c.isDigit = true) : 48 ≤ c.toNat ∧ c.toNat ≤ 57 := by
  simpa [Char.isDigit, Char.le_def, UInt32.le_iff_toNat_le] using h

theorem isBlank_of_isNumeral {c : Char} (h : isNumeral c) : isBlank c = false := by
  have hbounds : 0x21 ≤ c.toNat ∧ c.toNat ≤ 0x7F := by
    rcases (Bool.or_eq_true _ _).mp h with hdigit | hminus
    · have := toNat_of_isDigit hdigit
      omega
    · rw [eq_of_beq hminus]
      decide
  simp only [isBlank, Bool.or_eq_false_iff, Bool.and_eq_false_iff, decide_eq_false_iff_not,
    beq_eq_false_iff_ne]
  omega

theorem ne_bar_of_isNumeral {c : Char} (h : isNumeral c) : c ≠ '|' := by
  rintro rfl
  simp [isNumeral] at h

theorem isNumeral_toDigits {n : Nat} {c : Char} (h : c ∈ Nat.toDigits 10 n) : isNumeral c := by
  rw [isNumeral, Nat.isDigit_of_mem_toDigits (by decide) (by decide) h]
  rfl

theorem isNumeral_toString {n : Int} {c : Char} (h : c ∈ (toString n).toList) : isNumeral c := by
  cases n with
  | ofNat m =>
    rw [toList_toString_ofNat] at h
    exact isNumeral_toDigits h
  | negSucc m =>
    rw [toList_toString_negSucc, List.mem_cons] at h
    rcases h with rfl | h
    · rfl
    · exact isNumeral_toDigits h

theorem trim_of_isNumeral {cs : List Char} (h : ∀ c ∈ cs, isNumeral c) : trim cs = cs := by
  refine trim_eq_self ?_ ?_
  · exact fun c hc => isBlank_of_isNumeral (h c (List.mem_of_mem_head? hc))
  · exact fun c hc => isBlank_of_isNumeral (h c (List.mem_of_getLast? hc))

theorem trim_toString (n : Int) : trim (toString n).toList = (toString n).toList :=
  trim_of_isNumeral fun _ => isNumeral_toString

end Text

/-! ## Payloads -/

namespace Payload

theorem parseId_encodeId (id : Int64) : parseId (encodeId id) = .ok id := by
  have htrim : Text.trim (encodeId id).toList = (toString id).toList :=
    Text.trim_toString id.toInt
  rw [parseId, htrim, Text.readInt64?_toString]

/-- A payload is split at its first bar. -/
theorem splitBar?_append {before : String} (h : ∀ c ∈ before.toList, c ≠ '|') (after : String) :
    splitBar? (before ++ "|" ++ after) = some (before, after) := by
  have hchars : (before ++ "|" ++ after).toList = before.toList ++ '|' :: after.toList := by
    simp
  have hpos : ∀ c ∈ before.toList, decide (c ≠ '|') = true := by simpa using h
  rw [splitBar?, hchars, List.span_eq_takeWhile_dropWhile, List.takeWhile_append_of_pos hpos,
    List.dropWhile_append_of_pos hpos]
  simp

theorem parsePair_encodePair (id : Int64) (text : String) :
    parsePair (encodePair id text) = .ok (id, text) := by
  have hbar : ∀ c ∈ (toString id).toList, c ≠ '|' :=
    fun c hc => Text.ne_bar_of_isNumeral (Text.isNumeral_toString (n := id.toInt) hc)
  rw [parsePair, encodePair, splitBar?_append hbar]
  show (parseId (encodeId id)).map _ = _
  rw [parseId_encodeId]
  rfl

end Payload

/-! ## Events and their channels -/

/-- The payload of an event is read as that event. -/
theorem Event.parse_encode (event : Event) : parse event.topic event.encode = .ok event := by
  cases event with
  | refreshStats user =>
    show (Payload.parseId (Payload.encodeId user)).map _ = _
    rw [Payload.parseId_encodeId]
    rfl
  | announce score =>
    show (Payload.parseId (Payload.encodeId score)).map _ = _
    rw [Payload.parseId_encodeId]
    rfl
  | restrict user reason =>
    show (Payload.parsePair (Payload.encodePair user reason)).map _ = _
    rw [Payload.parsePair_encodePair]
    rfl
  | notify user message =>
    show (Payload.parsePair (Payload.encodePair user message)).map _ = _
    rw [Payload.parsePair_encodePair]
    rfl

namespace Deployment

@[simp] theorem channel_inj (d : Deployment) {s t : Topic} : d.channel s = d.channel t ↔ s = t :=
  ⟨fun h => Topic.name_injective ((String.append_right_inj d.tag).1 h), congrArg d.channel⟩

theorem topicOf?_channel (d : Deployment) (topic : Topic) :
    d.topicOf? (d.channel topic) = some topic := by
  have hrest : d.tag.toList.isPrefixOf? (d.channel topic).toList = some topic.name.toList := by
    rw [List.isPrefixOf?_eq_some_iff_append_eq]
    exact String.toList_append.symm
  rw [topicOf?, hrest, Option.bind_some, String.ofList_toList, Topic.ofName?_name]

end Deployment

end Coordination
